import LineScan.Proofs.AtWork
import LineScan.Proofs.Ownership
import LineScan.Proofs.Spans
import LineScan.Scanner.Application

/-!
# What a cleanup hook does to the error that fires it

A complaint is worded where it arises, and then the registered hook runs, before the error is built.
The hook works on the same scanner: where it resets, the error is about the line that it has reset
to, and the wording is forgotten; where it makes attempts, they move the cursor or fail elsewhere,
and the error is at the column where that leads. Attempts leave the line and the wording alone, if
the functions of the terminals do.

## Main statements

* `Bench.accept_leaves`: an attempt leaves the line and the wording alone.
* `Hook.leaves_of_run`: what a hook leaves behind that runs to its end.
* `error_reported_after_hook`: the error that an operation raises while a hook is registered.
-/

namespace LineScan

/-! ## Attempts -/

/-- The line and the wording of the last complaint are the same. -/
structure ScanState.SameReport (s t : ScanState) : Prop where
  line_eq : t.line = s.line
  message_eq : t.errorMessage = s.errorMessage

/-- What two attempts in a row leave alone, both together leave alone. -/
theorem ScanState.SameReport.trans {s t u : ScanState} (h : s.SameReport t) (h' : t.SameReport u) :
    s.SameReport u :=
  ⟨h'.line_eq.trans h.line_eq, h'.message_eq.trans h.message_eq⟩

/-- The function of a terminal writes neither the line nor the wording of a complaint. -/
def Terminal.Discreet (t : Terminal) : Prop :=
  ∀ pos s r after, t.scan pos s = .ok r after → s.SameReport after

/-- So does that of every terminal that is meant. -/
def Wanted.Discreet (registry : Registry) (wanted : Wanted) : Prop :=
  ∀ t, wanted.coerce registry = .ok (.terminal t) → t.Discreet

variable {setting : Setting}

namespace Scan

variable {s after : ScanState} {m : Match} {pos : Int}

/-- Matching a character leaves the line and the wording alone. -/
theorem char_leaves {wanted : Char} (hok : char wanted pos s = .ok m after) :
    s.SameReport after := by
  rw [char_apply] at hok
  cases hseek : s.line.seekChar wanted pos <;> rw [hseek] at hok <;> cases hok
  exact ⟨rfl, rfl⟩

/-- Matching a literal leaves the line and the wording alone. -/
theorem literal_leaves {wanted : Line} (hok : literal wanted pos s = .ok m after) :
    s.SameReport after := by
  rw [literal_apply] at hok
  cases hseek : s.line.seekLiteral wanted pos <;> rw [hseek] at hok <;> cases hok
  exact ⟨rfl, rfl⟩

/-- Matching a terminal leaves the line and the wording alone, if its function does. -/
theorem terminal_leaves {t : Terminal} (h : t.Discreet) (hok : terminal t pos s = .ok m after) :
    s.SameReport after := by
  rw [terminal_apply] at hok
  cases hskip : s.line.skipBlanks pos with
  | error cause =>
    rw [hskip] at hok
    cases hok
  | ok p =>
    rw [hskip] at hok
    dsimp only at hok
    cases hscan : t.scan p (s.cleared p) with
    | error e u =>
      rw [hscan] at hok
      cases hok
    | ok r u =>
      rw [hscan] at hok
      cases hok
      have hcleared : s.SameReport (s.cleared p) := ⟨rfl, rfl⟩
      exact hcleared.trans (h p _ r after hscan)

/-- Matching a target leaves the line and the wording alone, if that goes for a terminal. -/
theorem dispatch_leaves {target : Target} (h : ∀ t, target = .terminal t → t.Discreet)
    (hok : dispatch target s = .ok m after) : s.SameReport after := by
  cases target with
  | literal wanted => exact literal_leaves hok
  | char wanted => exact char_leaves hok
  | terminal t => exact terminal_leaves (h t rfl) hok

end Scan

namespace Bench

/-- Settling the state touches neither. -/
theorem attempt_leaves {target : Target} (h : ∀ t, target = .terminal t → t.Discreet)
    {b after : Bench} {found : Bool} (hok : attempt setting target b = .ok found after) :
    b.state.SameReport after.state := by
  rw [attempt_eq] at hok
  split at hok
  case isFalse => cases hok
  cases hdispatch : Scan.dispatch target b.state with
  | error e state =>
    rw [hdispatch] at hok
    cases hok
  | ok m state =>
    rw [hdispatch] at hok
    dsimp only at hok
    split at hok
    case isFalse => cases hok
    cases hok
    have hsettle : state.SameReport (state.settle target m) := by cases m <;> exact ⟨rfl, rfl⟩
    exact (Scan.dispatch_leaves h hdispatch).trans hsettle

/-- An attempt leaves the line and the wording alone, whether it finds anything or not. -/
theorem accept_leaves {wanted : Wanted} (h : wanted.Discreet setting.registry)
    {b after : Bench} {found : Bool} (hok : accept setting wanted b = .ok found after) :
    b.state.SameReport after.state := by
  cases hcoerce : wanted.coerce setting.registry with
  | error f =>
    rw [accept, coerce, hcoerce] at hok
    cases hok
  | ok target =>
    rw [accept, coerce, hcoerce] at hok
    exact attempt_leaves (fun t ht => h t (hcoerce.trans (congrArg _ ht))) hok

/-- So do several attempts, also where the first of them are given back. -/
theorem acceptEach_leaves (saved : ScanState) {wanted : List Wanted}
    (h : ∀ w ∈ wanted, w.Discreet setting.registry) {b after : Bench} {found : Bool}
    (hok : acceptEach setting saved wanted b = .ok found after) :
    b.state.SameReport after.state := by
  induction wanted generalizing b with
  | nil =>
    cases hok
    exact ⟨rfl, rfl⟩
  | cons w rest ih =>
    rw [acceptEach, bind_apply] at hok
    cases haccept : accept setting w b with
    | error e b' =>
      rw [haccept] at hok
      cases hok
    | ok found' b' =>
      rw [haccept] at hok
      have hfirst := accept_leaves (h w (List.mem_cons_self ..)) haccept
      cases found' with
      | true => exact hfirst.trans (ih (fun w' hw => h w' (List.mem_cons_of_mem _ hw)) hok)
      | false =>
        cases hok
        exact hfirst.trans ⟨rfl, rfl⟩

end Bench

/-! ## Hooks -/

namespace Hook

/-- The line that a hook resets to last, if it resets. -/
def lastLine? : Hook → Option Line
  | .done => none
  | .log _ next => next.lastLine?
  | .register _ next => next.lastLine?
  | .withdraw next => next.lastLine?
  | .reset line next => some (next.lastLine?.getD line)
  | .accept _ next => next.lastLine?
  | .acceptAll _ next => next.lastLine?
  | .raise _ => none

/-- What a hook makes attempts at. -/
def wanted : Hook → List Wanted
  | .done => []
  | .log _ next => next.wanted
  | .register _ next => next.wanted
  | .withdraw next => next.wanted
  | .reset _ next => next.wanted
  | .accept w next => w :: next.wanted
  | .acceptAll ws next => ws ++ next.wanted
  | .raise _ => []

/-- What a hook leaves behind that started in one state and ended in another. -/
structure Leaves (hook : Hook) (s after : ScanState) : Prop where
  line_eq : after.line = hook.lastLine?.getD s.line
  message_eq : after.errorMessage = if hook.lastLine?.isSome then none else s.errorMessage
  /-- Without attempts, it is the start of a line or nothing has changed. -/
  still : hook.wanted = [] → after = (hook.lastLine?.map ScanState.start).getD s

/-- A hook that does nothing leaves everything as it is. -/
theorem leaves_done (s : ScanState) : Leaves .done s s := ⟨rfl, rfl, fun _ => rfl⟩

/-- A hook that resets leaves what its rest leaves from the start of the new line. -/
theorem Leaves.reset {next : Hook} {line : Line} {s after : ScanState}
    (h : next.Leaves (.start line) after) : (Hook.reset line next).Leaves s after where
  line_eq := h.line_eq
  message_eq := by
    rw [h.message_eq, lastLine?]
    split <;> rfl
  still hwanted := by
    rw [h.still hwanted, lastLine?]
    cases next.lastLine? <;> rfl

/-- An attempt comes before what is left of a hook. -/
theorem Leaves.attempt {hook next : Hook} {s t after : ScanState} (hsame : s.SameReport t)
    (h : next.Leaves t after) (hlast : hook.lastLine? = next.lastLine?)
    (hwanted : hook.wanted = [] → s = t ∧ next.wanted = []) : hook.Leaves s after where
  line_eq := by rw [h.line_eq, hlast, hsame.line_eq]
  message_eq := by rw [h.message_eq, hlast, hsame.message_eq]
  still hnone := by
    obtain ⟨rfl, hnext⟩ := hwanted hnone
    rw [h.still hnext, hlast]

/-- Logging and registering do not touch the state. -/
theorem Leaves.aside {hook next : Hook} {s after : ScanState} (h : next.Leaves s after)
    (hlast : hook.lastLine? = next.lastLine?) (hwanted : hook.wanted = next.wanted) :
    hook.Leaves s after :=
  .attempt ⟨rfl, rfl⟩ h hlast fun hnone => ⟨rfl, hwanted.symm.trans hnone⟩

/-- Building an error never answers. -/
theorem unwind_ne_ok (c : Complaint) (s left : Scanner) : s.unwind setting c ≠ .ok () left := by
  intro hok
  cases hook : s.hook with
  | none =>
    rw [Scanner.unwind_of_no_hook hook] at hok
    cases hok
  | some other =>
    rw [Scanner.unwind_of_hook hook] at hok
    split at hok <;> cases hok

/-- A hook that runs to its end has only reset and made attempts. -/
theorem leaves_of_run (hook : Hook) (hdiscreet : ∀ w ∈ hook.wanted, w.Discreet setting.registry)
    {s left : Scanner} (hok : hook.run setting s = .ok () left) :
    hook.Leaves s.state left.state := by
  -- a hook that is registered on the way does not run, so it is the rest of this one that counts
  induction hook generalizing s with
  | done =>
    rw [run] at hok
    cases hok
    exact leaves_done _
  | log label next ih =>
    rw [run] at hok
    exact (ih hdiscreet hok).aside rfl rfl
  | register other next _ ih =>
    rw [run] at hok
    exact (ih hdiscreet hok).aside rfl rfl
  | withdraw next ih =>
    rw [run] at hok
    exact (ih hdiscreet hok).aside rfl rfl
  | reset line next ih =>
    rw [run] at hok
    exact (ih hdiscreet hok).reset
  | accept w next ih =>
    rw [run] at hok
    split at hok
    · next b haccept =>
      have hsame := Bench.accept_leaves (hdiscreet w (List.mem_cons_self ..)) haccept
      have hnext := ih (fun w' hw => hdiscreet w' (List.mem_cons_of_mem _ hw)) hok
      exact .attempt hsame hnext rfl fun hnone => absurd hnone (List.cons_ne_nil _ _)
    · exact absurd hok (unwind_ne_ok _ _ _)
    · cases hok
  | acceptAll ws next ih =>
    rw [run] at hok
    split at hok
    · next b haccept =>
      have hsame := Bench.acceptEach_leaves s.state
        (fun w hw => hdiscreet w (List.mem_append_left _ hw)) haccept
      have hnext := ih (fun w hw => hdiscreet w (List.mem_append_right _ hw)) hok
      refine .attempt hsame hnext rfl fun hnone => ?_
      -- the attempts may be none at all
      obtain ⟨rfl, hrest⟩ := List.append_eq_nil_iff.mp hnone
      cases haccept
      exact ⟨rfl, hrest⟩
    · exact absurd hok (unwind_ne_ok _ _ _)
    · cases hok
  | raise text =>
    rw [run] at hok
    exact absurd hok (unwind_ne_ok _ _ _)

end Hook

/-! ## Operations -/

/-- A call is its work on the bench, whatever hook is registered. -/
theorem Call.run_eq_onBench (setting : Setting) (made : Call) :
    made.run setting = Rule.onBench setting (made.work setting) := by
  cases made with
  | accept wanted => rfl
  | acceptAll wanted => rfl
  | expect wanted what =>
    simp only [run, work, Rule.expect, Rule.expectTarget, Rule.acceptTarget, bind_assoc]
    funext s
    simp only [Rule.onBench, bind_apply]
    cases hcoerce : wanted.coerce setting.registry with
    | error f => simp only [Bench.coerce, hcoerce, throw_apply]
    | ok target =>
      simp only [Bench.coerce, hcoerce, pure_apply]
      obtain ⟨_ | _, b⟩ | ⟨c | f, b⟩ := Bench.attempt setting target s.toBench
      · simp only [Bool.false_eq_true, if_false, bind_apply, get_apply, throw_apply, refuse]
        by_cases hwrites : b.state.line.Writes b.state.errorColumn
        · rw [if_pos hwrites, Rule.complainAt_of_writes (s := { s with toBench := b }) _ hwrites]
          exact congrFun (Rule.complain_bind setting _ fun _ => pure true) _
        · rw [if_neg hwrites,
            Rule.complainAt_of_not_writes (s := { s with toBench := b }) _ hwrites]
      · rfl
      · exact congrFun (Rule.complain_bind setting c _) _
      · rfl

/-- An operation comes to raise a complaint, at the moment when the scanner is `moment`: an
expectation is not met there, a terminal complains, or the application raises a message. -/
inductive Raises (setting : Setting) : Operation → Scanner → Scanner → Complaint → Prop where
  | call {made : Call} {s : Scanner} {c : Complaint} {b : Bench}
      (h : made.work setting s.toBench = .error (.complaint c) b) :
      Raises setting (.call made) s { s with toBench := b } c
  | error {template : String} {args : List Datum} {text : String} (s : Scanner)
      (h : Message.compose setting.room template args = .ok text) :
      Raises setting (.error template args) s s (.said text)

/-- An operation that comes to raise a complaint raises it from that moment on. -/
theorem Raises.run_eq {op : Operation} {s moment : Scanner} {c : Complaint}
    (h : Raises setting op s moment c) : op.run setting s = Rule.complain setting c moment := by
  cases h with
  | call h =>
    rw [Operation.run, Call.run_eq_onBench]
    simp only [Rule.onBench, h]
  | error s h =>
    rw [Operation.run, Rule.error, h]

/-- An expectation that is not met names the column at that moment. -/
theorem Raises.column_of_miss {wanted : Wanted} {what : Option String} {s moment : Scanner}
    {c : Complaint} (h : Raises setting (.call (.expect wanted what)) s moment c)
    (hmiss : Result.answer (Bench.accept setting wanted s.toBench) = .ok false) :
    c.column? = some moment.state.errorColumn := by
  cases h with
  | @call _ _ _ b h =>
    cases hcoerce : wanted.coerce setting.registry with
    | error f =>
      simp only [Call.work, Bench.coerce, hcoerce, bind_apply, throw_apply] at h
      cases h
    | ok target =>
      simp only [Bench.accept, Bench.coerce, hcoerce, bind_apply, pure_apply] at hmiss
      simp only [Call.work, Bench.coerce, hcoerce, bind_apply, pure_apply] at h
      cases hattempt : Bench.attempt setting target s.toBench with
      | error e b' =>
        rw [hattempt] at hmiss
        cases hmiss
      | ok found b' =>
        rw [hattempt] at hmiss h
        cases hmiss
        simp only [Bool.false_eq_true, if_false, bind_apply, get_apply, throw_apply,
          Call.refuse] at h
        split at h
        case isFalse => cases h
        cases h
        cases what <;> rfl

/-- The error that an operation raises while a hook is registered that runs to its end. It has the
wording from before the hook, and if an expectation was not met, the column from before the hook in
it; but its line and its position are those that the hook leaves behind. If the hook attempts
nothing that writes the line or the wording, then the line is the one that it has reset to last, if
it resets, and the wording is forgotten then; the position is that of the moment unless the hook
resets or makes attempts. So the error reports the moment just if the hook does not reset and leaves
the column as it was. -/
theorem error_reported_after_hook {op : Operation} {s moment left : Scanner} {c : Complaint}
    {hook : Hook} (hraises : Raises setting op s moment c) (hhook : moment.hook = some hook)
    (hrun : hook.run setting { moment.noteMessage c with hook := none } = .ok () left) :
    ∃ e, op.run setting s = .error (.scan e) left ∧ e.complaint = c ∧
      (∀ wanted what, op = .call (.expect wanted what) →
        Result.answer (Bench.accept setting wanted s.toBench) = .ok false →
        c.column? = some moment.state.errorColumn) ∧
      e.line = left.state.line ∧ e.position = left.state.errorColumn ∧
      ((∀ w ∈ hook.wanted, w.Discreet setting.registry) →
        e.line = hook.lastLine?.getD moment.state.line ∧
        left.state.errorMessage = (if hook.lastLine?.isSome then none else some e.message) ∧
        (hook.wanted = [] →
          e.position = if hook.lastLine?.isSome then 1 else moment.state.errorColumn) ∧
        ((e.line = moment.state.line ∧ e.position = moment.state.errorColumn ∧
            left.state.errorMessage = some e.message) ↔
          hook.lastLine? = none ∧ left.state.errorColumn = moment.state.errorColumn)) := by
  have hop : op.run setting s = .error (.scan (left.errorOf c)) left := by
    rw [hraises.run_eq, Rule.complain, Scanner.unwind_of_hook hhook, hrun]
  refine ⟨left.errorOf c, hop, rfl, ?_, rfl, rfl, fun hdiscreet => ?_⟩
  · rintro wanted what rfl hmiss
    exact hraises.column_of_miss hmiss
  -- from here on the attempts of the hook leave the line and the wording alone, so resets alone
  -- count
  have hleaves := hook.leaves_of_run hdiscreet hrun
  have hline : left.state.line = hook.lastLine?.getD moment.state.line := hleaves.line_eq
  have hmessage : left.state.errorMessage =
      if hook.lastLine?.isSome then none else some c.message := hleaves.message_eq
  refine ⟨hline, hmessage, fun hnone => ?_, fun h => ?_, fun h => ?_⟩
  · have hstill := hleaves.still hnone
    change left.state.errorColumn = _
    cases hreset : hook.lastLine? <;> rw [hstill, hreset] <;> rfl
  · obtain ⟨-, hcolumn, hkept⟩ := h
    refine ⟨?_, hcolumn⟩
    -- a reset would have forgotten the wording
    cases hreset : hook.lastLine? with
    | none => rfl
    | some line =>
      rw [hmessage, hreset] at hkept
      cases hkept
  · obtain ⟨hreset, hcolumn⟩ := h
    rw [hreset] at hline hmessage
    exact ⟨hline, hcolumn, hmessage⟩

/-- A setting with nothing registered. -/
def bareSetting : Setting := { registry := {} }

/-- After `a` in `a b`, with a hook registered. -/
def afterA (hook : Hook) : Scanner :=
  { state := { line := "a b".toList, cursor := 1 }, hook := some hook }

/-- The same scanner, when a character has been missed past the blank. -/
def missedB (hook : Hook) : Scanner :=
  { state := { line := "a b".toList, cursor := 1, matchStart := 2, failPosition := some 2 },
    hook := some hook }

/-- Expect an `x`. -/
def expectX : Call := .expect (.target (.char 'x')) none

/-- The expectation of an `x` is not met past the blank, at the third column. -/
theorem expectX_raises (hook : Hook) : Raises bareSetting (.call expectX) (afterA hook)
    (missedB hook) (.expected "'x'" 3) := .call rfl

/-- A hook that looks for a blank and a `y` in vain: the error about the missing `x` is at the
blank. -/
theorem error_reported_after_hook_accept :
    let hook : Hook := .accept (.target (.literal " y".toList)) .done
    ∃ e left, (Operation.call expectX).run bareSetting (afterA hook) = .error (.scan e) left ∧
      e.complaint = .expected "'x'" 3 ∧ e.line = "a b".toList ∧ e.position = 2 ∧
      left.state.errorMessage = some e.message := by
  intro hook
  let noted : Scanner := (missedB hook).noteMessage (.expected "'x'" 3)
  let missed : ScanState := { noted.state with matchStart := 1, failPosition := some 1 }
  have hmiss : Bench.accept bareSetting (.target (.literal " y".toList)) noted.toBench =
      .ok false ⟨missed, {}⟩ := rfl
  let left : Scanner := { state := missed }
  have hrun : hook.run bareSetting { noted with hook := none } = .ok () left := by
    rw [Hook.run, hmiss]
    dsimp only
    rw [Hook.run]
    rfl
  obtain ⟨e, hop, hcomplaint, -, hline, hposition, hlaw⟩ :=
    error_reported_after_hook (expectX_raises hook) rfl hrun
  have hdiscreet : ∀ w ∈ hook.wanted, w.Discreet bareSetting.registry := by
    intro w hw t ht
    cases List.mem_singleton.mp hw
    cases ht
  exact ⟨e, _, hop, hcomplaint, hline, hposition, (hlaw hdiscreet).2.1⟩

/-- A hook that resets the scanner to `cd`: the error about the missing `x` is about the first
column of that, and its wording is forgotten. -/
theorem error_reported_after_reset :
    let hook : Hook := .reset "cd".toList .done
    ∃ e left, (Operation.call expectX).run bareSetting (afterA hook) = .error (.scan e) left ∧
      e.message = "expected 'x' at pos 3" ∧ (missedB hook).state.errorColumn = 3 ∧
      e.line = "cd".toList ∧ e.position = 1 ∧ left.state.errorMessage = none := by
  intro hook
  have hrun : hook.run bareSetting
      { (missedB hook).noteMessage (.expected "'x'" 3) with hook := none } =
        .ok () (((missedB hook).noteMessage (.expected "'x'" 3)).startLine "cd".toList) := by
    rw [Hook.run, Hook.run]
    rfl
  have hop : (Operation.call expectX).run bareSetting (afterA hook) = _ :=
    (expectX_raises hook).run_eq
  have hregistered : (missedB hook).hook = some hook := rfl
  rw [Rule.complain, Scanner.unwind_of_hook hregistered, hrun] at hop
  exact ⟨_, _, hop, by decide +kernel, rfl, rfl, rfl, rfl⟩

end LineScan
