import LineScan.Proofs.AtWork
import LineScan.Proofs.Ownership
import LineScan.Scanner.Application

/-!
# The trace of a run

A scanner that traces does what one does that does not trace: it only enters more in its journal.
What it enters are its attempts, one after the other. An attempt is a target and the state in which
it is scanned for, so that its text can be told without a trace: the target, the cursor and the text
from there on; and then how the matcher ended, unless it gave up.

Which attempts a call makes depends on the scan state alone, and which ones an application makes can
be told from the run that does not trace. Hooks are a limit to this: a hook that fires may make
attempts of its own, so that only *quiet* hooks are considered here.

Numbers are another. A trace writes the cursor and the place where the matcher ended, and it does
not get further than a number that cannot be written. So the two runs are the same as long as the
attempts are *written*, and an attempt that is not ends a traced run with a fault.

## Main statements

* `Bench.observed_attempt`: tracing enters the text of one attempt that is written.
* `Bench.attempt_of_not_written`: an attempt that is not is a fault of the trace.
* `observed_hook`: a quiet hook fires without a trace.
* `Application.observed_run`: with and without a trace an application does the same, and the trace
  is the text of its attempts.
-/

namespace LineScan

/-! ## Attempts -/

/-- An attempt: what is scanned for, and the state in which it is. -/
structure Attempt where
  target : Target
  state : ScanState

namespace Attempt

/-- How the matcher of an attempt ends. -/
def result (a : Attempt) : EStateM.Result Abort ScanState Match := Scan.dispatch a.target a.state

/-- The matcher of the attempt gives up. -/
def givesUp (a : Attempt) : Bool :=
  match a.result with
  | .ok _ _ => false
  | .error _ _ => true

/-- What a trace says of an attempt: the target, the cursor and the text from there on; and then how
the matcher ended, unless it gave up. -/
def text (a : Attempt) : String :=
  Entry.attemptText a.target.describe a.state.line a.state.cursor ++
    match a.result with
    | .ok m _ => Entry.outcomeText m
    | .error _ _ => ""

/-- What a trace says of several attempts. -/
def texts (attempts : List Attempt) : String := String.join (attempts.map text)

/-- What a trace writes of the attempt can be written: the cursor, and where the matcher ended. -/
def Written (a : Attempt) : Prop :=
  a.state.line.Writes a.state.cursor ∧
    ∀ m after, a.result = .ok m after → after.line.Writes m.place

instance (a : Attempt) : Decidable a.Written :=
  match h : a.result with
  | .ok m after =>
    decidable_of_iff (a.state.line.Writes a.state.cursor ∧ after.line.Writes m.place)
      (by rw [Written, h]; simp)
  | .error e after =>
    decidable_of_iff (a.state.line.Writes a.state.cursor) (by rw [Written, h]; simp)

/-- Without attempts there is nothing to trace. -/
@[simp]
theorem texts_nil : texts [] = "" := rfl

/-- The first attempt is traced first. -/
theorem texts_cons (a : Attempt) (rest : List Attempt) : texts (a :: rest) = a.text ++ texts rest :=
  String.join_cons

/-- Attempts are traced in order. -/
theorem texts_append (first rest : List Attempt) :
    texts (first ++ rest) = texts first ++ texts rest := by
  rw [texts, List.map_append, String.join_append, texts, texts]

end Attempt

/-- The attempt for what is wanted, if that is a target. -/
def Wanted.attempts (registry : Registry) (wanted : Wanted) (state : ScanState) : List Attempt :=
  match wanted.coerce registry with
  | .ok sought => [⟨sought, state⟩]
  | .error _ => []

/-- The attempts for several targets in order: each starts where the one before it has matched, and
there is none after one that has not. -/
def Wanted.attemptsEach (registry : Registry) : List Wanted → ScanState → List Attempt
  | [], _ => []
  | wanted :: rest, state =>
    match wanted.coerce registry with
    | .error _ => []
    | .ok sought =>
      ⟨sought, state⟩ :: match Scan.dispatch sought state with
        | .ok (.hit stop value) after =>
          attemptsEach registry rest (after.settle sought (.hit stop value))
        | .ok (.miss _) _ => []
        | .error _ _ => []

/-- The attempts of a call. -/
def Call.attempts (registry : Registry) : Call → ScanState → List Attempt
  | .accept wanted, state => wanted.attempts registry state
  | .acceptAll wanted, state => Wanted.attemptsEach registry wanted state
  | .expect wanted _, state => wanted.attempts registry state

/-- The attempts of an operation: only calls make any. -/
def Operation.attempts (registry : Registry) : Operation → ScanState → List Attempt
  | .reset _, _ => []
  | .onCleanup _, _ => []
  | .call made, state => made.attempts registry state
  | .error _ _, _ => []

/-- The attempts of an application, which goes by what its operations come to. -/
def Application.attempts (setting : Setting) : Application → Scanner → List Attempt
  | .done _, _ => []
  | .raise _, _ => []
  | .operate operation next, s =>
    let result := operation.run setting s
    operation.attempts setting.registry s.state ++
      (next (Result.answer result) (Result.state result).state.view).attempts setting
        (Result.state result)
  | .parse line rule next, s =>
    let result := Rule.parse line (rule.run setting) s
    rule.attempts setting (s.startLine line) ++
      (next (Result.answer result) (Result.state result).state.view).attempts setting
        (Result.state result)

/-! ## Quiet hooks -/

/-- A hook is quiet: neither it nor a hook that it registers makes attempts. -/
def Hook.Quiet : Hook → Prop
  | .done => True
  | .log _ next => next.Quiet
  | .register hook next => hook.Quiet ∧ next.Quiet
  | .withdraw next => next.Quiet
  | .reset _ next => next.Quiet
  | .accept _ _ => False
  | .acceptAll _ _ => False
  | .raise _ => True

/-- The hook of the scanner is quiet, if there is one. -/
def Scanner.Quiet (s : Scanner) : Prop := ∀ hook, s.hook = some hook → hook.Quiet

/-- If the operation registers a hook, it is a quiet one. -/
def Operation.Quiet : Operation → Prop
  | .onCleanup (some hook) => hook.Quiet
  | _ => True

/-- Whatever its operations come to, the application registers only quiet hooks. -/
def Application.Quiet : Application → Prop
  | .done _ => True
  | .raise _ => True
  | .operate operation next => operation.Quiet ∧ ∀ answer view, (next answer view).Quiet
  | .parse _ rule next => rule.Quiet ∧ ∀ answers view, (next answers view).Quiet

/-! ## Two journals -/

/-- The entry is one of a trace. -/
def Entry.isTraced : Entry → Bool
  | .attempt .. => true
  | .outcome _ => true
  | _ => false

namespace Journal

/-- The journals are the same but for the trace, which is the given text in the first of them. -/
structure Traces (written : String) (j j' : Journal) : Prop where
  draws_eq : j.draws = j'.draws
  others_eq : j.entries.filter (fun e => !e.isTraced) = j'.entries.filter (fun e => !e.isTraced)
  trace_eq : j.trace = written

/-- One more entry goes to the end of the trace. -/
theorem trace_push (j : Journal) (e : Entry) : (j.push e).trace = j.trace ++ e.traceText := by
  simp only [trace, textOf, push, Array.foldl_push]

namespace Traces

variable {written : String} {j j' : Journal}

/-- A journal is the same as itself, with the trace that it has. -/
theorem refl (j : Journal) : j.Traces j.trace j := ⟨rfl, rfl, rfl⟩

/-- Both journals get an entry that is not one of a trace. -/
theorem push (h : j.Traces written j') {e : Entry} (he : e.isTraced = false) :
    (j.push e).Traces written (j'.push e) where
  draws_eq := h.draws_eq
  others_eq := by simp [Journal.push, he, h.others_eq]
  trace_eq := by
    have hsilent : e.traceText = "" := by cases e <;> first | rfl | cases he
    rw [trace_push, hsilent, String.append_empty, h.trace_eq]

/-- The one journal gets an entry of a trace. -/
theorem push_left (h : j.Traces written j') {e : Entry} (he : e.isTraced = true) :
    (j.push e).Traces (written ++ e.traceText) j' where
  draws_eq := h.draws_eq
  others_eq := by simp [Journal.push, he, h.others_eq]
  trace_eq := by rw [trace_push, h.trace_eq]

end Traces

end Journal

/-- The setting, with a trace. -/
def Setting.traced (setting : Setting) : Setting := { setting with tracing := true }

/-- The setting, without a trace. -/
def Setting.untraced (setting : Setting) : Setting := { setting with tracing := false }

/-- A trace needs no room of its own. -/
@[simp]
theorem Setting.room_traced (setting : Setting) : setting.traced.room = setting.room := rfl

/-- Without a trace there is the same room. -/
@[simp]
theorem Setting.room_untraced (setting : Setting) : setting.untraced.room = setting.room := rfl

/-! ## Benches -/

namespace Bench

variable (setting : Setting) {written : String} {b c : Bench}

/-- The benches are the same but for the trace. -/
structure Observed (written : String) (b c : Bench) : Prop where
  state_eq : b.state = c.state
  journal : b.journal.Traces written c.journal

/-- The results are in step, and the trace is what has been written. -/
abbrev InSight {α : Type} (written : String) :
    EStateM.Result Abort Bench α → EStateM.Result Abort Bench α → Prop :=
  InStep (fun _ => Observed written) fun _ => Observed written

/-- Without a trace an attempt settles the state by its matcher, and writes nothing. -/
theorem attempt_untraced (target : Target) (b : Bench) :
    attempt setting.untraced target b =
      match Scan.dispatch target b.state with
      | .ok m state => .ok m.isHit { b with state := state.settle target m }
      | .error e state => .error e { b with state := state } := by
  have hsilent : ∀ (line : Line) (n : Int), setting.untraced.Writes line n :=
    fun _ _ htracing => Bool.noConfusion htracing
  cases hresult : Scan.dispatch target b.state with
  | ok m state => exact attempt_of_ok (hsilent _ _) hresult (hsilent _ _)
  | error e state => exact attempt_of_error (hsilent _ _) hresult

/-- With a trace it does so as well, if the attempt is written. -/
theorem attempt_traced {target : Target} {b : Bench}
    (hwritten : (⟨target, b.state⟩ : Attempt).Written) :
    attempt setting.traced target b =
      let journal := b.journal.push (.attempt target b.state.line b.state.cursor)
      match Scan.dispatch target b.state with
      | .ok m state => .ok m.isHit ⟨state.settle target m, journal.push (.outcome m)⟩
      | .error e state => .error e ⟨state, journal⟩ := by
  obtain ⟨hcursor, hplace⟩ := hwritten
  cases hresult : Scan.dispatch target b.state with
  | ok m state =>
    exact attempt_of_ok (hcursor.inTrace _) hresult ((hplace m state hresult).inTrace _)
  | error e state => exact attempt_of_error (hcursor.inTrace _) hresult

/-- An attempt that is not written does not get past its trace. -/
theorem attempt_of_not_written {target : Target} {b : Bench}
    (hwritten : ¬ (⟨target, b.state⟩ : Attempt).Written) :
    ∃ after, attempt setting.traced target b = .error (.fault (.oversize .writing)) after := by
  by_cases hcursor : b.state.line.Writes b.state.cursor
  · cases hresult : Scan.dispatch target b.state with
    | ok m state =>
      refine ⟨_, attempt_of_not_writes (hcursor.inTrace _) hresult fun hwrites => hwritten
        ⟨hcursor, fun m' after h => ?_⟩⟩
      obtain ⟨rfl, rfl⟩ := EStateM.Result.ok.inj (hresult.symm.trans h)
      exact hwrites rfl
    | error e state =>
      exact absurd ⟨hcursor, fun m after h => by cases hresult.symm.trans h⟩ hwritten
  · rw [attempt_eq]
    exact ⟨b, if_neg fun hwrites => hcursor (hwrites rfl)⟩

/-- Tracing an attempt writes its text, whatever its matcher does. -/
theorem observed_attempt (h : Observed written b c) {target : Target}
    (hwritten : (⟨target, c.state⟩ : Attempt).Written) :
    InSight (written ++ (⟨target, c.state⟩ : Attempt).text) (attempt setting.traced target b)
      (attempt setting.untraced target c) := by
  have hentered : Journal.Traces
      (written ++ Entry.attemptText target.describe c.state.line c.state.cursor)
      (b.journal.push (.attempt target c.state.line c.state.cursor)) c.journal :=
    h.journal.push_left (e := .attempt target c.state.line c.state.cursor) rfl
  rw [← h.state_eq] at hwritten
  rw [attempt_traced setting hwritten, attempt_untraced, h.state_eq, Attempt.text, Attempt.result]
  dsimp only
  cases Scan.dispatch target c.state with
  | ok m state =>
    refine .ok ⟨rfl, ?_⟩
    rw [← String.append_assoc]
    exact hentered.push_left (e := .outcome m) rfl
  | error e state =>
    refine .error ⟨rfl, ?_⟩
    rw [String.append_empty]
    exact hentered

/-- An attempt at what is wanted is one at the target that is meant. -/
theorem accept_of_coerce {wanted : Wanted} {target : Target}
    (h : wanted.coerce setting.registry = .ok target) :
    accept setting wanted = attempt setting target := by
  simp only [accept, coerce, h, pure_bind]

/-- What means no target is a fault, and the bench stays as it is. -/
theorem accept_of_fault {wanted : Wanted} {f : Fault}
    (h : wanted.coerce setting.registry = .error f) (b : Bench) :
    accept setting wanted b = .error (.fault f) b := by
  simp only [accept, coerce, h, bind_apply, throw_apply]

/-- Scanning for what is wanted writes the text of its attempt, if there is one. -/
theorem observed_accept (h : Observed written b c) {wanted : Wanted}
    (hwritten : ∀ a ∈ wanted.attempts setting.registry c.state, a.Written) :
    InSight (written ++ Attempt.texts (wanted.attempts setting.registry c.state))
      (accept setting.traced wanted b) (accept setting.untraced wanted c) := by
  rw [Wanted.attempts] at hwritten ⊢
  cases hcoerce : wanted.coerce setting.registry with
  | error f =>
    rw [accept_of_fault setting.traced hcoerce,
      accept_of_fault setting.untraced hcoerce, Attempt.texts_nil, String.append_empty]
    exact .error h
  | ok target =>
    rw [hcoerce] at hwritten
    rw [accept_of_coerce setting.traced hcoerce,
      accept_of_coerce setting.untraced hcoerce, Attempt.texts_cons,
      Attempt.texts_nil, String.append_empty]
    exact observed_attempt setting h (hwritten _ (List.mem_singleton_self _))

/-- The attempts for several targets, up to the first that does not match. -/
theorem observed_acceptEach (saved : ScanState) (wanted : List Wanted)
    (h : Observed written b c)
    (hwritten : ∀ a ∈ Wanted.attemptsEach setting.registry wanted c.state, a.Written) :
    InSight (written ++ Attempt.texts (Wanted.attemptsEach setting.registry wanted c.state))
      (acceptEach setting.traced saved wanted b) (acceptEach setting.untraced saved wanted c) := by
  induction wanted generalizing b c written with
  | nil =>
    rw [Wanted.attemptsEach, Attempt.texts_nil, String.append_empty]
    exact .ok h
  | cons first rest ih =>
    rw [Wanted.attemptsEach] at hwritten
    rw [acceptEach, acceptEach, bind_apply, bind_apply, Wanted.attemptsEach]
    cases hcoerce : first.coerce setting.registry with
    | error f =>
      rw [accept_of_fault setting.traced hcoerce,
        accept_of_fault setting.untraced hcoerce, Attempt.texts_nil,
        String.append_empty]
      exact .error h
    | ok target =>
      simp only [hcoerce, List.forall_mem_cons] at hwritten
      obtain ⟨hfirst, hrest⟩ := hwritten
      have hattempt := observed_attempt setting h hfirst
      rw [accept_of_coerce setting.traced hcoerce,
        accept_of_coerce setting.untraced hcoerce, Attempt.texts_cons,
        ← String.append_assoc]
      rw [attempt_untraced] at hattempt ⊢
      generalize attempt setting.traced target b = r, Scan.dispatch target c.state = d
        at hattempt hrest ⊢
      cases d with
      | error e state =>
        cases hattempt with
        | error post =>
          rw [Attempt.texts_nil, String.append_empty]
          exact .error post
      | ok m state =>
        cases hattempt with
        | ok post =>
          -- a match is followed by the attempts for the rest, and nothing comes after a miss
          cases m with
          | hit stop value => exact ih post hrest
          | miss place =>
            rw [Attempt.texts_nil, String.append_empty]
            exact .ok ⟨congrArg (ScanState.rewind · saved) post.state_eq, post.journal⟩

/-- Scanning for several targets writes the texts of the attempts. -/
theorem observed_acceptAll (h : Observed written b c) {wanted : List Wanted}
    (hwritten : ∀ a ∈ Wanted.attemptsEach setting.registry wanted c.state, a.Written) :
    InSight (written ++ Attempt.texts (Wanted.attemptsEach setting.registry wanted c.state))
      (acceptAll setting.traced wanted b) (acceptAll setting.untraced wanted c) := by
  simp only [acceptAll, bind_apply, get_apply, h.state_eq]
  exact observed_acceptEach setting c.state wanted h hwritten

end Bench

/-! ## Hooks -/

/-- The scanners are the same but for the trace, and their hook is quiet. -/
structure Scanner.Observed (written : String) (s t : Scanner) : Prop where
  bench : s.toBench.Observed written t.toBench
  id_eq : s.id = t.id
  hook_eq : s.hook = t.hook
  quiet : t.Quiet

/-- The results are in step, and the trace is what has been written. -/
abbrev Scanner.InSight {α : Type} (written : String) :
    EStateM.Result Failure Scanner α → EStateM.Result Failure Scanner α → Prop :=
  InStep (fun _ => Scanner.Observed written) fun _ => Scanner.Observed written

namespace Scanner.Observed

variable {written : String} {s t : Scanner}

/-- A scanner with a quiet hook is the same as itself. -/
theorem refl {s : Scanner} (quiet : s.Quiet) : Observed s.journal.trace s s :=
  ⟨⟨rfl, .refl s.journal⟩, rfl, rfl, quiet⟩

/-- The scan state is the same with and without a trace. -/
theorem state_eq (h : Observed written s t) : s.state = t.state := h.bench.state_eq

/-- The error of a complaint is the same with and without a trace. -/
theorem errorOf_eq (h : Observed written s t) (c : Complaint) : s.errorOf c = t.errorOf c := by
  rw [Scanner.errorOf, Scanner.errorOf, h.state_eq, h.id_eq]

/-- Noting a complaint is the same with and without a trace. -/
theorem noteMessage (h : Observed written s t) (c : Complaint) :
    Observed written (s.noteMessage c) (t.noteMessage c) := by
  refine ⟨⟨?_, h.bench.journal⟩, h.id_eq, h.hook_eq, h.quiet⟩
  simp only [Scanner.noteMessage, h.state_eq]

/-- The scanners get the same hook, if it is quiet. -/
theorem setHook (h : Observed written s t) (hook : Option Hook)
    (quiet : ∀ other, hook = some other → other.Quiet) :
    Observed written { s with hook := hook } { t with hook := hook } :=
  ⟨h.bench, h.id_eq, rfl, quiet⟩

/-- The hooks of both scanners are withdrawn. -/
theorem withdrawHook (h : Observed written s t) :
    Observed written { s with hook := none } { t with hook := none } :=
  h.setHook none nofun

/-- Starting a line is the same with and without a trace. -/
theorem startLine (h : Observed written s t) (line : Line) :
    Observed written (s.startLine line) (t.startLine line) :=
  ⟨⟨rfl, h.bench.journal⟩, h.id_eq, rfl, nofun⟩

/-- Both scanners enter something that is not traced. -/
theorem enter (h : Observed written s t) {e : Entry} (he : e.isTraced = false) :
    Observed written { s with toBench := s.toBench.enter e }
      { t with toBench := t.toBench.enter e } :=
  ⟨⟨h.bench.state_eq, h.bench.journal.push he⟩, h.id_eq, h.hook_eq, h.quiet⟩

end Scanner.Observed

/-- A quiet hook does the same with and without a trace and adds nothing to it, however often it
raises an error and fires the next one. -/
theorem observed_hook (setting : Setting) :
    (∀ (hook : Hook) (s : Scanner), ∀ {written : String} {t : Scanner}, s.Observed written t →
      hook.Quiet →
      Scanner.InSight written (hook.run setting.traced s) (hook.run setting.untraced t)) ∧
    ∀ (c : Complaint) (s : Scanner), ∀ {written : String} {t : Scanner}, s.Observed written t →
      Scanner.InSight written (s.unwind setting.traced c) (t.unwind setting.untraced c) := by
  apply Hook.run.mutual_induct setting.traced
  case case1 =>
    intro s written t h _
    rw [Hook.run, Hook.run]
    exact .ok h
  case case2 =>
    intro s label next ih written t h quiet
    rw [Hook.run, Hook.run]
    exact ih (h.enter rfl) quiet
  case case3 =>
    intro s other next ih written t h quiet
    rw [Hook.run, Hook.run]
    refine ih (h.setHook (some other) ?_) quiet.2
    rintro _ ⟨⟩
    exact quiet.1
  case case4 =>
    intro s next ih written t h quiet
    rw [Hook.run, Hook.run]
    exact ih h.withdrawHook quiet
  case case5 =>
    intro s line next ih written t h quiet
    rw [Hook.run, Hook.run]
    exact ih (h.startLine line) quiet
  -- A quiet hook makes no attempt.
  case case6 | case7 | case9 | case10 =>
    intro s wanted next _ b hrun ih written t h quiet
    exact quiet.elim
  case case8 | case11 =>
    intro s wanted next f b hrun written t h quiet
    exact quiet.elim
  case case12 =>
    intro s text ih written t h _
    rw [Hook.run, Hook.run]
    exact ih h
  case case13 =>
    intro c s hnone written t h
    rw [Scanner.unwind_of_no_hook hnone, Scanner.unwind_of_no_hook (h.hook_eq.symm.trans hnone),
      (h.noteMessage c).errorOf_eq]
    exact .error (h.noteMessage c)
  -- The hook is withdrawn before it runs, and the error is built from what it leaves.
  case case14 | case15 =>
    intro c s hook hsome _ s' hrun ih written t h
    have hsome' : t.hook = some hook := h.hook_eq.symm.trans hsome
    have hhook := ih (h.noteMessage c).withdrawHook (h.quiet hook hsome')
    rw [Scanner.unwind_of_hook hsome, Scanner.unwind_of_hook hsome']
    generalize hook.run setting.traced _ = r, hook.run setting.untraced _ = r' at hhook
    cases hhook with
    | ok post =>
      simp only [post.errorOf_eq]
      exact .error post
    | error post => exact .error post

/-! ## Operations -/

section

variable (setting : Setting) {written more : String} {s t : Scanner}

/-- A complaint writes nothing to the trace, since the hook that it fires is quiet. -/
theorem Rule.observed_complain {α : Type} (h : s.Observed written t) (c : Complaint) :
    Scanner.InSight (α := α) written (Rule.complain setting.traced c s)
      (Rule.complain setting.untraced c t) := by
  have hunwind := (observed_hook setting).2 c s h
  rw [Rule.complain, Rule.complain]
  generalize s.unwind setting.traced c = r, t.unwind setting.untraced c = r' at hunwind
  cases hunwind with
  | ok post =>
    simp only [post.errorOf_eq]
    exact .error post
  | error post => exact .error post

/-- Work on the bench that is in sight is so on the scanner; a complaint unwinds. -/
theorem Rule.observed_onBench {α : Type} (h : s.Observed written t)
    {m m' : EStateM Abort Bench α} (hwork : Bench.InSight more (m s.toBench) (m' t.toBench)) :
    Scanner.InSight more (Rule.onBench setting.traced m s)
      (Rule.onBench setting.untraced m' t) := by
  rw [Rule.onBench, Rule.onBench]
  generalize m s.toBench = r, m' t.toBench = r' at hwork
  have hscanner : ∀ {b c : Bench}, b.Observed more c →
      Scanner.Observed more { s with toBench := b } { t with toBench := c } :=
    fun hbench => ⟨hbench, h.id_eq, h.hook_eq, h.quiet⟩
  cases hwork with
  | ok post => exact .ok (hscanner post)
  | @error e _ _ post =>
    cases e with
    | complaint c => exact Rule.observed_complain setting (hscanner post) c
    | fault f => exact .error (hscanner post)

/-- A complaint about a column is in sight: whether it is raised is told by the line. -/
theorem Rule.observed_complainAt {α : Type} (h : s.Observed written t) (column : Int)
    (c : Complaint) :
    Scanner.InSight (α := α) written (Rule.complainAt setting.traced column c s)
      (Rule.complainAt setting.untraced column c t) := by
  rw [Rule.complainAt, Rule.complainAt, h.state_eq]
  cases t.state.line.write column with
  | ok text => exact Rule.observed_complain setting h c
  | error cause => exact .error h

/-- Requiring a target writes the text of its attempt. -/
theorem Rule.observed_expectTarget (h : s.Observed written t) {target : Target}
    (what : Option String) (hwritten : (⟨target, t.state⟩ : Attempt).Written) :
    Scanner.InSight (written ++ (⟨target, t.state⟩ : Attempt).text)
      (Rule.expectTarget setting.traced target what s)
      (Rule.expectTarget setting.untraced target what t) := by
  have hattempt := Rule.observed_onBench setting h
    (Bench.observed_attempt setting h.bench hwritten)
  rw [Rule.expectTarget, Rule.expectTarget, bind_apply, bind_apply, Rule.acceptTarget,
    Rule.acceptTarget]
  generalize Rule.onBench setting.traced _ s = r, Rule.onBench setting.untraced _ t = r' at hattempt
  cases hattempt with
  | error post => exact .error post
  | @ok found _ _ post =>
    cases found with
    | true => exact .ok post
    | false =>
      simp only [Bool.false_eq_true, if_false, bind_apply, get_apply, post.state_eq]
      exact Rule.observed_complainAt setting post _ _

/-- A call writes the texts of its attempts. -/
theorem Call.observed_run (h : s.Observed written t) (call : Call)
    (hwritten : ∀ a ∈ call.attempts setting.registry t.state, a.Written) :
    Scanner.InSight (written ++ Attempt.texts (call.attempts setting.registry t.state))
      (call.run setting.traced s) (call.run setting.untraced t) := by
  cases call with
  | accept wanted =>
    exact Rule.observed_onBench setting h (Bench.observed_accept setting h.bench hwritten)
  | acceptAll wanted =>
    exact Rule.observed_onBench setting h (Bench.observed_acceptAll setting h.bench hwritten)
  | expect wanted what =>
    rw [Call.attempts, Wanted.attempts] at hwritten
    simp only [Call.run, Call.attempts, Wanted.attempts, Rule.expect, bind_apply, Rule.onBench,
      Bench.coerce, show setting.traced.registry = setting.registry from rfl,
      show setting.untraced.registry = setting.registry from rfl]
    -- what means no target is a fault before anything is traced
    cases hcoerce : wanted.coerce setting.registry with
    | error f =>
      rw [Attempt.texts_nil, String.append_empty]
      exact .error h
    | ok target =>
      rw [hcoerce] at hwritten
      have hexpect := Rule.observed_expectTarget setting h what
        (hwritten _ (List.mem_singleton_self _))
      rw [Attempt.texts_cons, Attempt.texts_nil, String.append_empty]
      simp only [pure_apply]
      generalize Rule.expectTarget setting.traced target what s = r,
        Rule.expectTarget setting.untraced target what t = r' at hexpect
      cases hexpect with
      | ok post => exact .ok post
      | error post => exact .error post

/-- An operation writes the texts of its attempts, and only calls make any. -/
theorem Operation.observed_run (h : s.Observed written t) {operation : Operation}
    (quiet : operation.Quiet)
    (hwritten : ∀ a ∈ operation.attempts setting.registry t.state, a.Written) :
    Scanner.InSight (written ++ Attempt.texts (operation.attempts setting.registry t.state))
      (operation.run setting.traced s) (operation.run setting.untraced t) := by
  cases operation with
  | call made => exact made.observed_run setting h hwritten
  | reset line =>
    rw [Operation.attempts, Attempt.texts_nil, String.append_empty]
    exact .ok (h.startLine line)
  | onCleanup hook =>
    rw [Operation.attempts, Attempt.texts_nil, String.append_empty]
    refine .ok (h.setHook hook ?_)
    rintro other rfl
    exact quiet
  | error template args =>
    rw [Operation.attempts, Attempt.texts_nil, String.append_empty]
    simp only [Operation.run, Rule.error, Setting.room_traced, Setting.room_untraced]
    cases Message.compose setting.room template args with
    | ok text => exact Rule.observed_complain setting h _
    | error cause => exact .error h

/-- Parsing a line is in sight if its rule is, from the start of the line. -/
theorem Rule.observed_parse {α : Type} {line : Line} {rule rule' : Rule α}
    (h : Scanner.InSight more (rule (s.startLine line)) (rule' (t.startLine line))) :
    Scanner.InSight more (Rule.parse line rule s) (Rule.parse line rule' t) := by
  simp only [Rule.parse, Rule.reset, Rule.onCleanup, lift_apply, bind_apply, modify_apply,
    pure_apply]
  generalize rule (s.startLine line) = r, rule' (t.startLine line) = r' at h
  cases h with
  | ok post => exact .ok post.withdrawHook
  | error post => exact .error post

/-! ## Applications -/

/-- What an application does is the same with and without a trace, operation by operation, and the
trace is the text of its attempts, if these are written. -/
theorem Application.observed_run (application : Application) (quiet : application.Quiet)
    (h : s.Observed written t)
    (hwritten : ∀ a ∈ application.attempts setting.untraced t, a.Written) :
    Scanner.InSight (written ++ Attempt.texts (application.attempts setting.untraced t))
      (application.run setting.traced s) (application.run setting.untraced t) := by
  induction application generalizing s t written with
  | done answers =>
    rw [attempts, Attempt.texts_nil, String.append_empty]
    exact .ok h
  | raise failure =>
    rw [attempts, Attempt.texts_nil, String.append_empty]
    exact .error h
  | operate operation next ih =>
    simp only [attempts, List.forall_mem_append] at hwritten
    have hfirst := Operation.observed_run setting h quiet.1 hwritten.1
    have hstate := hfirst.state fun _ _ _ post => post
    -- the application goes on from the same answer and the same view
    simp only [Application.run, heeding, hfirst.answer_eq, hstate.state_eq]
    rw [attempts, Attempt.texts_append, ← String.append_assoc]
    exact ih _ _ (quiet.2 _ _) hstate hwritten.2
  | parse line rule next ihrule ih =>
    simp only [attempts, List.forall_mem_append] at hwritten
    have hrule := ihrule quiet.1 (h.startLine line) hwritten.1
    have hfirst := Rule.observed_parse hrule
    have hstate := hfirst.state fun _ _ _ post => post
    simp only [Application.run, heeding, hfirst.answer_eq, hstate.state_eq]
    rw [attempts, Attempt.texts_append, ← String.append_assoc]
    exact ih _ _ (quiet.2 _ _) hstate hwritten.2

end

end LineScan
