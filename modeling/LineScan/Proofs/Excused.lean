import LineScan.Proofs.AtWork
import LineScan.Proofs.Nesting

/-!
# Lockstep up to an excuse

Two calculators that differ in their limits or in their random numbers do the same until the
difference shows. So they are compared up to an *excuse*: one of them has run into a failure that is
spared, or it has drawn more random numbers than the comparison allows for. An excuse once given
holds for the rest of the run.

The scanners of the two are in the same state, and their numbers of draws are related. Nothing but
an integer that is too large and a random number can bring out a difference, so that these are all
that there is left to look at.

## Main statements

* `Excused.bind`: rules that go in lockstep up to an excuse do so one after another.
* `Excused.elements`: calculators do so if their integers and their functions do.
-/

namespace LineScan

open Calculator

/-- What a comparison leaves out. -/
structure Leeway where
  /-- How the numbers of draws are related. -/
  draws : Nat → Nat → Prop
  /-- So many draws are too many. -/
  gone : Nat → Prop
  /-- The failure is not compared. -/
  spared : Failure → Prop

/-- Two scanners side by side: only their journals differ, and their numbers of draws are
related. -/
structure Scanner.Beside (id : Nat) (draws : Nat → Nat → Prop) (s t : Scanner) : Prop where
  same : s.Same id t
  draws : draws s.journal.draws t.journal.draws

namespace Leeway

/-- The scanner has drawn too many random numbers. -/
structure Drawn (w : Leeway) (s : Scanner) : Prop where
  hook_eq : s.hook = none
  gone : w.gone s.journal.draws

/-- The result is excused. -/
inductive Excuses {α : Type} (w : Leeway) : EStateM.Result Failure Scanner α → Prop where
  | drawn {r : EStateM.Result Failure Scanner α} (h : w.Drawn (Result.state r)) : Excuses w r
  | spared {e : Failure} {s : Scanner} (h : w.spared e) : Excuses w (.error e s)

end Leeway

/-- Two rules go in lockstep up to an excuse, and an excuse is not taken back. -/
structure Excused {α : Type} (w : Leeway) (id : Nat) (x y : Rule α) : Prop where
  keeps : ∀ s, w.Drawn s → w.Drawn (Result.state (x s))
  step : ∀ s t, s.Beside id w.draws t → w.Excuses (x s) ∨
    InStep (fun _ => Scanner.Beside id w.draws) (fun _ => Scanner.Beside id w.draws) (x s) (y t)

/-! ## Attempts -/

/-- Tracing draws no random number. -/
@[simp]
theorem Journal.noted_draws (j : Journal) (setting : Setting) (e : Entry) :
    (j.noted setting e).draws = j.draws := by
  unfold noted
  split <;> rfl

/-- An attempt draws no random number. -/
theorem Bench.attempt_draws (setting : Setting) (target : Target) (b : Bench) :
    (Result.state (attempt setting target b)).journal.draws = b.journal.draws := by
  rw [attempt_eq]
  split
  · dsimp only
    split
    · split <;> simp only [Result.state, Journal.noted_draws]
    · simp only [Result.state, Journal.noted_draws]
  · rfl

/-- Nor does the complaint that may follow. -/
theorem Scanner.conclude_draws {α : Type} (s : Scanner) (r : EStateM.Result Abort Bench α) :
    (Result.state (s.conclude r)).journal.draws = (Result.state r).journal.draws := by
  obtain ⟨_, _⟩ | ⟨_ | _, _⟩ := r <;> rfl

/-- So an attempt takes nothing back of the numbers that have been drawn. -/
theorem Leeway.Drawn.acceptTarget {w : Leeway} {s : Scanner} (h : w.Drawn s) (setting : Setting)
    (target : Target) : w.Drawn (Result.state (Rule.acceptTarget setting target s)) := by
  rw [Rule.acceptTarget, Rule.onBench_apply h.hook_eq]
  refine ⟨by rw [Scanner.conclude_hook, h.hook_eq], ?_⟩
  rw [Scanner.conclude_draws, Bench.attempt_draws]
  exact h.gone

/-- What can be written in a trace depends on whether there is one. -/
theorem Setting.writes_congr {setting setting' : Setting} (h : setting'.tracing = setting.tracing)
    (line : Line) (n : Int) : setting'.Writes line n ↔ setting.Writes line n := by
  rw [Writes, Writes, h]

namespace Scanner.Beside

variable {id : Nat} {draws : Nat → Nat → Prop} {s t : Scanner}

/-- Scanners side by side note the same complaint. -/
theorem noteMessage (h : s.Beside id draws t) (c : Complaint) :
    (s.noteMessage c).Beside id draws (t.noteMessage c) :=
  ⟨h.same.noteMessage c, h.draws⟩

/-- A complaint fails scanners side by side alike. -/
theorem complain {α : Type} (h : s.Beside id draws t) (setting setting' : Setting)
    (c : Complaint) :
    InStep (α := α) (fun _ => Scanner.Beside id draws) (fun _ => Scanner.Beside id draws)
      (Rule.complain setting c s) (Rule.complain setting' c t) := by
  rw [Rule.complain_of_no_hook c h.same.hook_left, Rule.complain_of_no_hook c h.same.hook_right,
    (h.same.noteMessage c).errorOf_eq]
  exact .error (h.noteMessage c)

/-- Attempts at targets that are matched alike go in lockstep, if both are traced or neither is. -/
theorem accept (h : s.Beside id draws t) {setting setting' : Setting} {target target' : Target}
    (htracing : setting'.tracing = setting.tracing)
    (hdispatch : Scan.dispatch target s.state = Scan.dispatch target' s.state)
    (hsettle : ∀ state m, ScanState.settle state target m = ScanState.settle state target' m) :
    InStep (fun _ => Scanner.Beside id draws) (fun _ => Scanner.Beside id draws)
      (Rule.acceptTarget setting target s) (Rule.acceptTarget setting' target' t) := by
  rw [Rule.acceptTarget, Rule.acceptTarget, Rule.onBench_apply h.same.hook_left,
    Rule.onBench_apply h.same.hook_right, Bench.attempt_eq, Bench.attempt_eq, hdispatch,
    ← h.same.state_eq]
  simp only [Setting.writes_congr htracing]
  by_cases hcursor : setting.Writes s.state.line s.state.cursor
  case neg =>
    rw [if_neg hcursor, if_neg hcursor]
    exact .error h
  rw [if_pos hcursor, if_pos hcursor]
  -- the journals differ, but draws are not entered by attempts
  obtain ⟨m, state⟩ | ⟨c | f, state⟩ := Scan.dispatch target' s.state
  · by_cases hplace : setting.Writes state.line m.place
    · simp only [if_pos hplace]
      refine .ok ⟨⟨hsettle state m, h.same.id_left, h.same.id_right, h.same.hook_left,
        h.same.hook_right⟩, ?_⟩
      simpa only [Journal.noted_draws] using h.draws
    · simp only [if_neg hplace]
      refine .error ⟨⟨rfl, h.same.id_left, h.same.id_right, h.same.hook_left,
        h.same.hook_right⟩, ?_⟩
      simpa only [Journal.noted_draws] using h.draws
  · simp only [Scanner.conclude, Scanner.errorOf, h.same.id_eq]
    refine .error ⟨⟨rfl, h.same.id_right, h.same.id_right, h.same.hook_left,
      h.same.hook_right⟩, ?_⟩
    simpa only [Scanner.noteMessage, Journal.noted_draws] using h.draws
  · refine .error ⟨⟨rfl, h.same.id_left, h.same.id_right, h.same.hook_left,
      h.same.hook_right⟩, ?_⟩
    simpa only [Journal.noted_draws] using h.draws

end Scanner.Beside

/-! ## Rules -/

namespace Excused

variable {w : Leeway} {id : Nat} {α β : Type} {x y : Rule α}

/-- An answer by itself is in lockstep. -/
theorem pure (a : α) : Excused w id (pure a) (pure a) where
  keeps _ h := h
  step _ _ h := .inr (.ok h)

/-- A fault is in lockstep with itself. -/
theorem fault (f : Fault) : Excused w id (Rule.fault f : Rule α) (Rule.fault f) where
  keeps _ h := h
  step _ _ h := .inr (.error h)

/-- Rules in lockstep up to an excuse are so one after another, since the excuse is kept. -/
theorem bind {f g : α → Rule β} (first : Excused w id x y) (next : ∀ a, Excused w id (f a) (g a)) :
    Excused w id (x >>= f) (y >>= g) where
  keeps s h := by
    have hfirst := first.keeps s h
    rw [bind_apply]
    cases hx : x s with
    | error e s' => rwa [hx] at hfirst
    | ok a s' =>
      rw [hx] at hfirst
      exact (next a).keeps s' hfirst
  step s t h := by
    have hfirst := first.step s t h
    rw [bind_apply, bind_apply]
    generalize x s = r, y t = r' at hfirst
    rcases hfirst with hexcused | hstep
    · cases hexcused with
      | spared hspared => exact .inl (.spared hspared)
      | drawn hdrawn =>
        cases r with
        | error e s' => exact .inl (.drawn hdrawn)
        | ok a s' => exact .inl (.drawn ((next a).keeps s' hdrawn))
    · cases hstep with
      | ok post => exact (next _).step _ _ post
      | error post => exact .inr (.error post)

/-- Rules that look at the scan state go in lockstep if what they do with it does. -/
theorem look_bind {f g : ScanState → Rule α} (next : ∀ state, Excused w id (f state) (g state)) :
    Excused w id (get >>= fun s => f s.state) (get >>= fun s => g s.state) where
  keeps s h := (next s.state).keeps s h
  step s t h := by
    have hnext := (next s.state).step s t h
    rw [bind_apply, bind_apply, get_apply, get_apply]
    simp only [← h.same.state_eq]
    exact hnext

/-- A complaint is in lockstep, for it fails both rules alike. -/
theorem complain (setting setting' : Setting) (c : Complaint) :
    Excused w id (Rule.complain setting c : Rule α) (Rule.complain setting' c) where
  keeps s h := by
    rw [Rule.complain_of_no_hook c h.hook_eq]
    exact ⟨h.hook_eq, h.gone⟩
  step s t h := .inr (h.complain setting setting' c)

/-- An attempt at the same target is in lockstep. -/
theorem accept {setting setting' : Setting} (htracing : setting'.tracing = setting.tracing)
    (target : Target) :
    Excused w id (Rule.acceptTarget setting target) (Rule.acceptTarget setting' target) where
  keeps _ h := h.acceptTarget setting target
  step _ _ h := .inr (h.accept htracing rfl fun _ _ => rfl)

/-- Calculators with the same variables and functions go in lockstep up to an excuse, if they do so
where an integer is read and where a function is applied. -/
theorem elements {k k' : Calculator} (henv : k'.env = k.env)
    (htracing : k'.tracing = k.tracing) (hfunctions : k'.functions = k.functions)
    (int : Excused w id (Rule.acceptTarget k.setting (.terminal (intTerminal k.maxInt)))
      (Rule.acceptTarget k'.setting (.terminal (intTerminal k'.maxInt))))
    (apply : ∀ (function : Builtin) (args : List Int),
      Excused w id (function.apply k.source args) (function.apply k'.source args)) :
    Elements k k' (Excused w id) where
  env_eq := henv
  functions_eq := hfunctions
  pure := .pure
  bind := .bind
  look_bind := .look_bind
  fault := .fault
  complain := .complain k.setting k'.setting
  accept _ := .accept htracing _
  ident := .accept htracing _
  int := int
  apply := apply

/-- A line is evaluated in lockstep up to an excuse, if whole expressions are. -/
theorem evaluate {k k' : Calculator} (h : Excused w id k.expr k'.expr) (line : Line)
    {s t : Scanner} (hid : s.id = id) (hid' : t.id = id)
    (hdraws : w.draws s.journal.draws t.journal.draws) :
    w.Excuses (k.evaluate line s) ∨
      InStep (fun _ => Scanner.Beside id w.draws) (fun _ => Scanner.Beside id w.draws)
        (k.evaluate line s) (k'.evaluate line t) := by
  have hexpr := h.step (s.startLine line) (t.startLine line)
    ⟨⟨rfl, hid, hid', rfl, rfl⟩, hdraws⟩
  rw [evaluate_apply, evaluate_apply]
  generalize k.expr (s.startLine line) = r, k'.expr (t.startLine line) = r' at hexpr
  rcases hexpr with hexcused | hstep
  · cases hexcused with
    | spared hspared => exact .inl (.spared hspared)
    | drawn hdrawn =>
      cases r with
      | ok n s' => exact .inl (.drawn ⟨rfl, hdrawn.gone⟩)
      | error e s' => exact .inl (.drawn hdrawn)
  · cases hstep with
    | error post => exact .inr (.error post)
    | ok post =>
      exact .inr (.ok ⟨⟨post.same.state_eq, post.same.id_left, post.same.id_right, rfl, rfl⟩,
        post.draws⟩)

end Excused

end LineScan
