import LineScan.Proofs.Abreast
import LineScan.Proofs.AtWork
import LineScan.Proofs.Tracing

/-!
# Rules as procedures

A rule of the calculator is a computation on its scanner, and as such it does not show which
attempts it makes. It is a *procedure*, though: a finite tree of attempts, of looks at the scan
state and of functions that are applied, with a value or a failure at each end. The same procedure
is run with and without a trace, so that its attempts can be told from the run without one. The
attempts of a calculator stay on the line, so that whatever a trace writes of them can be written.

## Main statements

* `Procedure.written_of_staysOnLine`: attempts that stay on the line are written.
* `Procedure.observed_run`: a procedure does the same with and without a trace, and the trace is the
  text of its attempts, if these are written.
* `Calculator.exists_procedure`: the calculator evaluates by a procedure that stays on the line.
* `tracing_only_observes`: tracing changes nothing, and the trace is that of the attempts, for
  applications and for lines that a calculator evaluates.
-/

namespace LineScan

open Calculator

/-- What a rule does, step by step. -/
inductive Procedure (α : Type) where
  | done (a : α)
  | fault (f : Fault)
  | complain (c : Complaint)
  /-- Look at the scan state. -/
  | look (next : ScanState → Procedure α)
  /-- Make an attempt. -/
  | accept (target : Target) (next : Bool → Procedure α)
  /-- Apply a function. -/
  | apply (function : Builtin) (args : List Int) (next : Int → Procedure α)

namespace Procedure

variable {α β : Type} {setting : Setting} {source : RandomSource}

/-- Run a procedure. -/
def run (setting : Setting) (source : RandomSource) : Procedure α → Rule α
  | .done a => pure a
  | .fault f => Rule.fault f
  | .complain c => Rule.complain setting c
  | .look next => get >>= fun s => (next s.state).run setting source
  | .accept target next =>
    Rule.acceptTarget setting target >>= fun found => (next found).run setting source
  | .apply function args next =>
    function.apply source args >>= fun n => (next n).run setting source

/-- The attempts of a procedure. -/
def attempts (setting : Setting) (source : RandomSource) : Procedure α → Scanner → List Attempt
  | .done _, _ => []
  | .fault _, _ => []
  | .complain _, _ => []
  | .look next, s => (next s.state).attempts setting source s
  | .accept target next, s =>
    ⟨target, s.state⟩ :: match Rule.acceptTarget setting target s with
      | .ok found s => (next found).attempts setting source s
      | .error _ _ => []
  | .apply function args next, s =>
    match function.apply source args s with
    | .ok n s => (next n).attempts setting source s
    | .error _ _ => []

/-- Whatever comes of its attempts, the procedure looks only for targets that keep an attempt on the
line. -/
def StaysOnLine : Procedure α → Prop
  | .done _ => True
  | .fault _ => True
  | .complain _ => True
  | .look next => ∀ state, (next state).StaysOnLine
  | .accept target next => target.StaysOnLine ∧ ∀ found, (next found).StaysOnLine
  | .apply _ _ next => ∀ n, (next n).StaysOnLine

/-- One procedure after another. -/
def bind : Procedure α → (α → Procedure β) → Procedure β
  | .done a, f => f a
  | .fault c, _ => .fault c
  | .complain c, _ => .complain c
  | .look next, f => .look fun state => (next state).bind f
  | .accept target next, f => .accept target fun found => (next found).bind f
  | .apply function args next, f => .apply function args fun n => (next n).bind f

/-- One procedure after another runs as one rule after another. -/
theorem run_bind (p : Procedure α) (f : α → Procedure β) :
    (p.bind f).run setting source = p.run setting source >>= fun a => (f a).run setting source := by
  induction p with
  | done a => rfl
  | fault c => rfl
  | complain c => exact (Rule.complain_bind setting c _).symm
  | look next ih => simp only [bind, run, bind_assoc, ih]
  | accept target next ih => simp only [bind, run, bind_assoc, ih]
  | apply function args next ih => simp only [bind, run, bind_assoc, ih]

/-- One procedure after another stays on the line if both do. -/
theorem staysOnLine_bind {p : Procedure α} {f : α → Procedure β} (first : p.StaysOnLine)
    (next : ∀ a, (f a).StaysOnLine) : (p.bind f).StaysOnLine := by
  induction p with
  | done a => exact next a
  | fault c => trivial
  | complain c => trivial
  | look _ ih => exact fun state => ih state (first state)
  | accept target _ ih => exact ⟨first.1, fun found => ih found (first.2 found)⟩
  | apply function args _ ih => exact fun n => ih n (first n)

/-! ## Attempts on the line -/

/-- A function leaves the line and the places on it as they are. -/
theorem keptByDraws_onLine (line : Line) :
    KeptByDraws fun s t => s.state.OnLine line ∧ t.state.OnLine line ∧
      s.journal.draws = t.journal.draws where
  draws_eq h := h.2.2
  draw _ h := ⟨h.1, h.2.1, rfl⟩
  notice h := h

/-- The attempts of a procedure that stays on the line are written. -/
theorem written_of_staysOnLine (setting : Setting) (source : RandomSource) {p : Procedure α}
    (hp : p.StaysOnLine) {line : Line} {s : Scanner} (hs : s.state.OnLine line) :
    ∀ a ∈ p.attempts setting.untraced source s, a.Written := by
  induction p generalizing s with
  | done a => exact fun _ ha => absurd ha List.not_mem_nil
  | fault f => exact fun _ ha => absurd ha List.not_mem_nil
  | complain c => exact fun _ ha => absurd ha List.not_mem_nil
  | look next ih => exact ih _ (hp _) hs
  | accept target next ih =>
    have hcursor : s.state.line.Writes s.state.cursor := by
      rw [hs.line_eq]
      exact hs.cursor_reached.writes
    rw [attempts, List.forall_mem_cons, Rule.acceptTarget, Rule.onBench, Bench.attempt_untraced]
    obtain ⟨m, state, hresult, honLine⟩ | ⟨state, hresult, -⟩ := hp.1 line s.state hs
    · -- the scanner goes on from where the attempt has settled the state
      have hplace := honLine.writes_place setting.traced rfl
      simp only [hresult]
      refine ⟨⟨hcursor, fun m' after h => ?_⟩, ih m.isHit (hp.2 _) honLine⟩
      obtain ⟨rfl, rfl⟩ := EStateM.Result.ok.inj (hresult.symm.trans h)
      exact hplace
    · simp only [hresult]
      refine ⟨⟨hcursor, fun m' after h => by cases hresult.symm.trans h⟩, ?_⟩
      rw [Rule.complain]
      cases Scanner.unwind setting.untraced .overflow { s with state := state } <;>
        exact fun _ ha => absurd ha List.not_mem_nil
  | apply function args next ih =>
    have happly := (keptByDraws_onLine line).lockstep_apply source function args s s ⟨hs, hs, rfl⟩
    rw [attempts]
    generalize function.apply source args s = result at happly
    cases happly with
    | ok post => exact ih _ (hp _) post.1
    | error post => exact fun _ ha => absurd ha List.not_mem_nil

/-! ## The trace of a procedure -/

variable {written : String} {s t : Scanner}

/-- Functions neither look at the trace nor add to it. -/
theorem keptByDraws_observed (written : String) : KeptByDraws (Scanner.Observed written) where
  draws_eq h := h.bench.journal.draws_eq
  draw _ h := ⟨⟨h.bench.state_eq, rfl, h.bench.journal.others_eq, h.bench.journal.trace_eq⟩,
    h.id_eq, h.hook_eq, h.quiet⟩
  notice h := h.enter rfl

/-- A procedure does the same with and without a trace, and the trace is the text of its attempts,
if these are written. -/
theorem observed_run (setting : Setting) (source : RandomSource) (p : Procedure α)
    (h : s.Observed written t)
    (hwritten : ∀ a ∈ p.attempts setting.untraced source t, a.Written) :
    Scanner.InSight (written ++ Attempt.texts (p.attempts setting.untraced source t))
      (p.run setting.traced source s) (p.run setting.untraced source t) := by
  -- the induction is on the procedure; what has been written so far grows with its attempts
  induction p generalizing s t written with
  | done a =>
    rw [attempts, Attempt.texts_nil, String.append_empty]
    exact .ok h
  | fault f =>
    rw [attempts, Attempt.texts_nil, String.append_empty]
    exact .error h
  | complain c =>
    rw [attempts, Attempt.texts_nil, String.append_empty]
    exact Rule.observed_complain setting h c
  | look next ih =>
    rw [attempts, run, run, bind_apply, bind_apply, get_apply, get_apply]
    simp only [h.state_eq]
    exact ih _ h hwritten
  | accept target next ih =>
    rw [attempts, List.forall_mem_cons] at hwritten
    obtain ⟨hfirst, hrest⟩ := hwritten
    have hattempt := Rule.observed_onBench setting h
      (Bench.observed_attempt setting h.bench hfirst)
    rw [Rule.acceptTarget] at hrest
    rw [attempts, run, run, bind_apply, bind_apply, Rule.acceptTarget, Rule.acceptTarget,
      Attempt.texts_cons, ← String.append_assoc]
    generalize Rule.onBench setting.traced _ s = r, Rule.onBench setting.untraced _ t = r'
      at hattempt hrest
    cases hattempt with
    | ok post => exact ih _ post hrest
    | error post =>
      rw [Attempt.texts_nil, String.append_empty]
      exact .error post
  | apply function args next ih =>
    have happly := (keptByDraws_observed written).lockstep_apply source function args s t h
    rw [attempts] at hwritten
    rw [attempts, run, run, bind_apply, bind_apply]
    generalize function.apply source args s = r, function.apply source args t = r'
      at happly hwritten
    cases happly with
    | ok post => exact ih _ post hwritten
    | error post =>
      rw [Attempt.texts_nil, String.append_empty]
      exact .error post

end Procedure

/-! ## The calculator -/

namespace Calculator

/-- The calculator, with a trace. -/
def traced (k : Calculator) : Calculator := { k with tracing := true }

/-- The calculator, without a trace. -/
def untraced (k : Calculator) : Calculator := { k with tracing := false }

/-- The rules are the same procedure, run with and without a trace, and it stays on the line. -/
def SameProcedure {α : Type} (k : Calculator) (x y : Rule α) : Prop :=
  ∃ p : Procedure α, p.StaysOnLine ∧ x = p.run k.setting.traced k.source ∧
    y = p.run k.setting.untraced k.source

namespace SameProcedure

variable {k : Calculator} {α β : Type}

/-- Rules that are the same procedure are so one after another. -/
theorem bind {x y : Rule α} {f g : α → Rule β} (first : k.SameProcedure x y)
    (next : ∀ a, k.SameProcedure (f a) (g a)) : k.SameProcedure (x >>= f) (y >>= g) := by
  obtain ⟨p, hp, rfl, rfl⟩ := first
  refine ⟨p.bind fun a => (next a).choose, ?_, ?_, ?_⟩
  · exact Procedure.staysOnLine_bind hp fun a => (next a).choose_spec.1
  · rw [Procedure.run_bind]
    exact congrArg _ (funext fun a => (next a).choose_spec.2.1)
  · rw [Procedure.run_bind]
    exact congrArg _ (funext fun a => (next a).choose_spec.2.2)

/-- An answer is a procedure without attempts. -/
theorem pure (a : α) : k.SameProcedure (pure a) (pure a) := ⟨.done a, trivial, rfl, rfl⟩

/-- Looking for a target that keeps an attempt on the line is a procedure. -/
theorem accept {target : Target} (h : target.StaysOnLine) :
    k.SameProcedure (Rule.acceptTarget k.setting.traced target)
      (Rule.acceptTarget k.setting.untraced target) :=
  ⟨.accept target .done, ⟨h, fun _ => trivial⟩, (bind_pure _).symm, (bind_pure _).symm⟩

/-- Rules that look at the scan state are the same procedure if what they do with it is. -/
theorem look_bind {f g : ScanState → Rule α} (next : ∀ state, k.SameProcedure (f state) (g state)) :
    k.SameProcedure (get >>= fun s => f s.state) (get >>= fun s => g s.state) := by
  refine ⟨.look fun state => (next state).choose, fun state => (next state).choose_spec.1, ?_, ?_⟩
  · exact congrArg (get >>= ·) (funext fun s => (next s.state).choose_spec.2.1)
  · exact congrArg (get >>= ·) (funext fun s => (next s.state).choose_spec.2.2)

/-- Everything that the grammar is put together from is the same procedure with and without a
trace. -/
theorem elements (k : Calculator) : Elements k.traced k.untraced k.SameProcedure where
  env_eq := rfl
  functions_eq := rfl
  pure := .pure
  bind := .bind
  look_bind := .look_bind
  fault f := ⟨.fault f, trivial, rfl, rfl⟩
  complain c := ⟨.complain c, trivial, rfl, rfl⟩
  accept hsought := .accept hsought.staysOnLine
  ident := .accept staysOnLine_ident
  int := .accept (staysOnLine_int k.maxInt)
  apply function args :=
    ⟨.apply function args .done, fun _ => trivial, (bind_pure _).symm, (bind_pure _).symm⟩

end SameProcedure

/-- A calculator evaluates expressions by a procedure, the same one with and without a trace, and it
stays on the line. -/
theorem exists_procedure (k : Calculator) : ∃ p : Procedure Int, p.StaysOnLine ∧
    k.traced.expr = p.run k.setting.traced k.source ∧
      k.untraced.expr = p.run k.setting.untraced k.source :=
  have habreast := (SameProcedure.elements k).abreast
  habreast.expr (habreast.primary k.maxDepth.toNat)

end Calculator

/-! ## Lines -/

/-- What a calculator makes of some lines: what each of them evaluates to, with the scan state that
it leaves, and the scanner after the last one. -/
def Calculator.evaluateEach (k : Calculator) :
    List Line → Scanner → List (Except Failure Int × ScanState) × Scanner
  | [], s => ([], s)
  | line :: rest, s =>
    let result := k.evaluate line s
    let others := evaluateEach k rest (Result.state result)
    ((Result.answer result, (Result.state result).state) :: others.1, others.2)

/-- The attempts of a procedure that is run on some lines. -/
def Procedure.attemptsEach {α : Type} (setting : Setting) (source : RandomSource)
    (p : Procedure α) : List Line → Scanner → List Attempt
  | [], _ => []
  | line :: rest, s =>
    p.attempts setting source (s.startLine line) ++
      p.attemptsEach setting source rest
        (Result.state (Rule.parse line (p.run setting source) s))

/-- Lines are evaluated alike with and without a trace, one after the other. -/
theorem Calculator.observed_evaluateEach {k : Calculator} {p : Procedure Int}
    (hstays : p.StaysOnLine) (hp : k.traced.expr = p.run k.setting.traced k.source)
    (hp' : k.untraced.expr = p.run k.setting.untraced k.source) (lines : List Line)
    {written : String} {s t : Scanner} (hbench : s.toBench.Observed written t.toBench)
    (hid : s.id = t.id) :
    (k.traced.evaluateEach lines s).1 = (k.untraced.evaluateEach lines t).1 ∧
      (k.traced.evaluateEach lines s).2.journal.trace =
        written ++ Attempt.texts (p.attemptsEach k.setting.untraced k.source lines t) := by
  induction lines generalizing s t written with
  | nil =>
    rw [Procedure.attemptsEach, Attempt.texts_nil, String.append_empty]
    exact ⟨rfl, hbench.journal.trace_eq⟩
  | cons line rest ih =>
    have hstart : (s.startLine line).Observed written (t.startLine line) :=
      ⟨⟨rfl, hbench.journal⟩, hid, rfl, nofun⟩
    have hwritten := Procedure.written_of_staysOnLine k.setting k.source hstays
      (s := t.startLine line) (.start line)
    have hrun := p.observed_run k.setting k.source hstart hwritten
    rw [← hp, ← hp'] at hrun
    have hline : Scanner.InSight _ (k.traced.evaluate line s) (k.untraced.evaluate line t) :=
      Rule.observed_parse hrun
    have hstate := hline.state fun _ _ _ post => post
    obtain ⟨hanswers, htrace⟩ := ih hstate.bench hstate.id_eq
    rw [Procedure.attemptsEach, Attempt.texts_append, ← String.append_assoc, ← hp']
    simp only [evaluateEach, hline.answer_eq, hstate.state_eq, hanswers]
    exact ⟨trivial, htrace⟩

/-! ## Tracing is only an observer -/

/-- The first position that holds no blank is found from every position that is not before the start
of the line. -/
theorem Scan.exists_skipBlanks {pos : Int} (h : 0 ≤ pos) (state : ScanState) :
    ∃ p, Scan.skipBlanks pos state = .ok p state := by
  simp only [Scan.skipBlanks, bind_apply, get_apply, Line.skipBlanks, if_pos h, pure_apply]
  exact ⟨_, rfl⟩

/-- An attempt at a character or a literal gives up only if the cursor is before the start of the
line. -/
theorem Attempt.not_givesUp {a : Attempt} (hcursor : 0 ≤ a.state.cursor)
    (htarget : ∀ t, a.target ≠ .terminal t) : a.givesUp = false := by
  suffices h : ∃ m after, a.result = .ok m after by
    obtain ⟨m, after, h⟩ := h
    rw [givesUp, h]
  obtain ⟨target, state⟩ := a
  have hskip := Scan.exists_skipBlanks hcursor
  cases target with
  | terminal t => exact absurd rfl (htarget t)
  | char c =>
    obtain ⟨p, hp⟩ := hskip state
    simp only [result, Scan.dispatch, Scan.char, bind_apply, get_apply, modify_apply, cond_apply,
      pure_apply, hp]
    split
    · exact ⟨_, _, rfl⟩
    · split <;> exact ⟨_, _, rfl⟩
  | literal text =>
    obtain ⟨p, hp⟩ := hskip { state with matchStart := state.cursor }
    cases text with
    | nil => exact ⟨_, _, rfl⟩
    | cons first others =>
      simp only [result, Scan.dispatch, Scan.literal, bind_apply, get_apply, modify_apply,
        cond_apply, pure_apply, hp]
      repeat' split
      all_goals exact ⟨_, _, rfl⟩

/-- Tracing is only an observer. An application whose hooks make no attempts does the same with and
without a trace if its attempts are written, and a calculator does so with any lines; and the trace
is the text of the attempts that are made, in order. An attempt that is not written is a fault of
the trace. An attempt whose matcher gives up has no outcome, and that is one at a terminal or from
before the start of the line. -/
theorem tracing_only_observes :
    (∀ (setting : Setting) (application : Application) (s : Scanner), application.Quiet → s.Quiet →
      (∀ a ∈ application.attempts setting.untraced s, a.Written) →
      let traced := application.run setting.traced s
      let untraced := application.run setting.untraced s
      Result.answer traced = Result.answer untraced ∧
        (Result.state traced).state = (Result.state untraced).state ∧
        (Result.state traced).hook = (Result.state untraced).hook ∧
        (Result.state traced).journal.entries.filter (fun e => !e.isTraced) =
          (Result.state untraced).journal.entries.filter (fun e => !e.isTraced) ∧
        (Result.state traced).journal.trace =
          s.journal.trace ++ Attempt.texts (application.attempts setting.untraced s)) ∧
    (∀ k : Calculator, ∃ p : Procedure Int,
      k.traced.expr = p.run k.setting.traced k.source ∧
      k.untraced.expr = p.run k.setting.untraced k.source ∧
      ∀ (lines : List Line) (s : Scanner),
        (k.traced.evaluateEach lines s).1 = (k.untraced.evaluateEach lines s).1 ∧
          (k.traced.evaluateEach lines s).2.journal.trace =
            s.journal.trace ++
              Attempt.texts (p.attemptsEach k.setting.untraced k.source lines s)) ∧
    (∀ (setting : Setting) (a : Attempt) (s : Scanner), s.state = a.state → ¬ a.Written →
      ∃ after, Rule.acceptTarget setting.traced a.target s =
        .error (.fault (.oversize .writing)) after) ∧
    ∀ a : Attempt, a.givesUp = true → a.state.cursor < 0 ∨ ∃ t, a.target = .terminal t := by
  -- the four parts: applications, calculators, numbers that cannot be written, matchers that give
  -- up
  refine ⟨fun setting application s hquiet hs hwritten => ?_, fun k => ?_,
    fun setting a s hstate hwritten => ?_, fun a hgivesUp => ?_⟩
  · have hrun := application.observed_run setting hquiet (.refl hs) hwritten
    have hstate := hrun.state fun _ _ _ post => post
    have hjournal := hstate.bench.journal
    exact ⟨hrun.answer_eq, hstate.state_eq, hstate.hook_eq, hjournal.others_eq, hjournal.trace_eq⟩
  · obtain ⟨p, hstays, hp, hp'⟩ := k.exists_procedure
    exact ⟨p, hp, hp', fun lines s =>
      k.observed_evaluateEach hstays hp hp' lines ⟨rfl, .refl s.journal⟩ rfl⟩
  · obtain ⟨target, state⟩ := a
    obtain rfl : s.state = state := hstate
    obtain ⟨after, hfault⟩ := Bench.attempt_of_not_written setting (b := s.toBench) hwritten
    exact ⟨_, by rw [Rule.acceptTarget, Rule.onBench, hfault]⟩
  · refine Classical.byContradiction fun hneither => ?_
    rw [not_or, not_exists, Int.not_lt] at hneither
    rw [Attempt.not_givesUp hneither.1 hneither.2] at hgivesUp
    cases hgivesUp

/-- Something is expected in vain while a hook is registered, and then something else is found. -/
def expectAndSeek : Application :=
  .operate (.reset "ab".toList) fun _ _ =>
    .operate (.onCleanup (some (.log "cleanup" .done))) fun _ _ =>
      .operate (.call (.expect (.target (.char 'x')) none)) fun _ _ =>
        .operate (.call (.acceptAll [.target (.char 'a'), .bare (.text "b")])) fun _ _ => .done []

/-- The attempts made after the hook is registered are traced, those in vain included. -/
theorem tracing_only_observes_hook :
    expectAndSeek.Quiet ∧
      (Result.state (expectAndSeek.run (setting {}).traced {})).journal.trace =
        "scan_char 'x' 0x78, at 0: \"ab\"\n  -> fail 0\n" ++
          "scan_char 'a' 0x61, at 0: \"ab\"\n  -> ok 1\n" ++
          "scan_literal \"b\", at 1: \"b\"\n  -> ok 2\n" := by
  have hquiet : expectAndSeek.Quiet :=
    ⟨trivial, fun _ _ => ⟨trivial, fun _ _ => ⟨trivial, fun _ _ => ⟨trivial, fun _ _ => trivial⟩⟩⟩⟩
  have hwritten : ∀ a ∈ expectAndSeek.attempts (setting {}).untraced {}, a.Written := by
    decide +kernel
  obtain ⟨-, -, -, -, htrace⟩ :=
    tracing_only_observes.1 (setting {}) expectAndSeek {} hquiet nofun hwritten
  refine ⟨hquiet, htrace.trans ?_⟩
  decide +kernel

/-- A terminal that matches at once and puts the cursor before the start of the line. -/
def leap : Terminal := ⟨0, "leap", fun pos => pure (.hit (-5) (.int pos)), "", some .integer⟩

/-- A character is scanned for from before the start of the line. -/
def leapAndSeek : Application :=
  .operate (.reset "ab".toList) fun _ _ =>
    .operate (.call (.accept (.target (.terminal leap)))) fun _ _ =>
      .operate (.call (.accept (.target (.char 'x')))) fun _ _ => .done []

/-- A terminal that matches at once and says that it stopped at a place of too many digits. -/
def beyond : Terminal :=
  ⟨0, "beyond", fun _ => pure (.hit (Decimal.tenTo Decimal.digitLimit) .none), "", none⟩

/-- With a trace its match is a fault, once the attempt has been entered. -/
theorem acceptTarget_beyond :
    let s : Scanner := { state := .start "ab".toList }
    Rule.acceptTarget { registry := {}, tracing := true } (.terminal beyond) s =
      .error (.fault (.oversize .writing)) { s with
        state := s.state.cleared 0
        journal := { entries := #[.attempt (.terminal beyond) "ab".toList 0] } } := by
  intro s
  have hshort : "ab".toList.length + 1 < Decimal.tenTo Decimal.digitLimit :=
    Decimal.lt_tenTo_digitLimit (by decide)
  rw [Rule.acceptTarget, Rule.onBench,
    Bench.attempt_of_not_writes (fun _ => .inl (by decide)) rfl fun hwrites => ?_]
  · rfl
  have hlt : Int.natAbs (Decimal.tenTo Decimal.digitLimit) <
      Decimal.tenTo Decimal.digitLimit := (Line.writes_iff_lt hshort _).mp (hwrites rfl)
  rw [Int.natAbs_natCast] at hlt
  exact Nat.lt_irrefl _ hlt

/-- The terminal has not given up, and yet there is an attempt without an outcome: that of the next
one, which is made from before the start of the line, or its own, which cannot be written. -/
theorem trace_without_outcome :
    (leapAndSeek.Quiet ∧
      (Result.state (leapAndSeek.run { registry := { terminals := [leap] }, tracing := true }
        {})).journal.trace =
        "scan_term leap, at 0: \"ab\"\n  -> ok -5\n" ++ "scan_char 'x' 0x78, at -5: \"ab\"\n" ∧
      (leapAndSeek.attempts { registry := { terminals := [leap] } } {}).map
          (fun a => (a.target.describe, a.givesUp)) =
        [("scan_term leap", false), ("scan_char 'x' 0x78", true)]) ∧
    let s : Scanner := { state := .start "ab".toList }
    let traced := Rule.acceptTarget { registry := {}, tracing := true } (.terminal beyond) s
    Result.answer traced = .error (.fault (.oversize .writing)) ∧
      (Result.state traced).journal.trace = "scan_term beyond, at 0: \"ab\"\n" ∧
      Result.answer (Rule.acceptTarget { registry := {} } (.terminal beyond) s) = .ok true := by
  refine ⟨⟨?_, by decide +kernel, by decide +kernel⟩, ?_⟩
  · exact ⟨trivial, fun _ _ => ⟨trivial, fun _ _ => ⟨trivial, fun _ _ => trivial⟩⟩⟩
  intro s traced
  have hrun := acceptTarget_beyond
  refine ⟨congrArg Result.answer hrun, ?_, rfl⟩
  rw [congrArg (fun r => (Result.state r).journal.trace) hrun]
  rfl

end LineScan
