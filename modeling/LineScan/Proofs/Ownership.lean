import LineScan.Proofs.Calls
import LineScan.Session.Routine

/-!
# Errors name their scanner

A scanner is told from others by its number. No rule changes it, whatever hooks fire, and an error
that a rule raises names the scanner that the rule works on. So in a session the number of a scanner
is its place throughout, and an error of an operation names the place of its scanner.

## Main statements

* `owned_hook`: hooks fire on one scanner, and the error that they leave is one of that scanner.
* `Session.owned_run`: an operation keeps the number of its scanner and raises no error of another.
* `Session.numbered_onScanner`: in a session, too, each scanner keeps its number.
-/

namespace LineScan

/-- A result leaves a scanner with its number, and a failure is one of that scanner. -/
def Result.Owned {α : Type} (id : Nat) : EStateM.Result Failure Scanner α → Prop
  | .ok _ s => s.id = id
  | .error e s => s.id = id ∧ e.IsOf id

/-! ## Hooks -/

/-- A hook that is registered fires before the error is built. -/
theorem Scanner.unwind_of_hook {setting : Setting} {s : Scanner} {hook : Hook}
    (h : s.hook = some hook) (c : Complaint) :
    s.unwind setting c =
      match hook.run setting { s.noteMessage c with hook := none } with
      | .ok _ s => .error (.scan (s.errorOf c)) s
      | .error e s => .error e s := by
  rw [Scanner.unwind]
  split
  · next hnone => rw [h] at hnone; cases hnone
  · next other hother =>
    rw [h] at hother
    cases hother
    rfl

/-- Hooks and complaints work on one scanner, however often a hook that fires raises an error and
fires the next one. -/
theorem owned_hook (setting : Setting) :
    (∀ (hook : Hook) (s : Scanner), Result.Owned s.id (hook.run setting s)) ∧
      ∀ (c : Complaint) (s : Scanner), Result.Owned s.id (s.unwind setting c) := by
  apply Hook.run.mutual_induct setting
  case case1 =>
    intro s
    rw [Hook.run]
    rfl
  case case2 | case3 | case4 | case5 =>
    intros
    rw [Hook.run]
    assumption
  -- An attempt of a hook: it ends, complains or is at fault.
  case case6 | case7 | case9 | case10 =>
    intro s wanted next _ b hrun ih
    rw [Hook.run, hrun]
    exact ih
  case case8 | case11 =>
    intro s wanted next f b hrun
    rw [Hook.run, hrun]
    exact ⟨rfl, trivial⟩
  case case12 =>
    intro s text ih
    rw [Hook.run]
    exact ih
  -- A complaint: there is no hook, the hook ends, or it fails.
  case case13 =>
    intro c s hook
    rw [Scanner.unwind_of_no_hook hook]
    exact ⟨rfl, rfl⟩
  case case14 =>
    intro c s hook hsome u t hrun ih
    rw [hrun] at ih
    rw [Scanner.unwind_of_hook hsome, hrun]
    exact ⟨ih, congrArg some ih⟩
  case case15 =>
    intro c s hook hsome e t hrun ih
    rw [hrun] at ih
    rw [Scanner.unwind_of_hook hsome, hrun]
    exact ih

/-! ## Rules -/

/-- A rule keeps the number of its scanner, and raises no error of another one. -/
def Rule.Owned {α : Type} (rule : Rule α) : Prop := ∀ s, Result.Owned s.id (rule s)

namespace Rule

variable {α β : Type} {setting : Setting}

/-- An answer keeps the number of the scanner. -/
theorem owned_pure (a : α) : Owned (pure a) := fun _ => rfl

/-- A fault is one of any scanner. -/
theorem owned_fault (f : Fault) : Owned (fault f : Rule α) := fun _ => ⟨rfl, trivial⟩

/-- Looking at the scanner keeps its number. -/
theorem owned_get : Owned (get : Rule Scanner) := fun _ => rfl

/-- A change of the scanner that keeps its number is owned. -/
theorem owned_modify {f : Scanner → Scanner} (h : ∀ s, (f s).id = s.id) :
    Owned (modify f : Rule PUnit) := h

/-- A reset keeps the number of the scanner. -/
theorem owned_reset (line : Line) : Owned (reset line) := owned_modify fun _ => rfl

/-- Registering a hook keeps the number of the scanner. -/
theorem owned_onCleanup (hook : Option Hook) : Owned (onCleanup hook) := owned_modify fun _ => rfl

/-- Owned rules are owned one after another. -/
theorem owned_bind {rule : Rule α} {f : α → Rule β} (first : Owned rule)
    (next : ∀ a, Owned (f a)) : Owned (rule >>= f) := by
  intro s
  have hfirst := first s
  rw [bind_apply]
  cases hrule : rule s with
  | ok a t =>
    rw [hrule] at hfirst
    have hnext := next a t
    rwa [show t.id = s.id from hfirst] at hnext
  | error e t =>
    rw [hrule] at hfirst
    exact hfirst

/-- A branch is owned if both sides are. -/
theorem owned_ite {c : Prop} [Decidable c] {rule other : Rule α} (yes : Owned rule)
    (no : Owned other) : Owned (if c then rule else other) := by
  split
  · exact yes
  · exact no

/-- A complaint raises an error of the scanner it is made on, hooks included. -/
theorem owned_complain (c : Complaint) : Owned (complain setting c : Rule α) := by
  intro s
  have hunwind := (owned_hook setting).2 c s
  rw [complain]
  cases h : s.unwind setting c with
  | ok u t =>
    rw [h] at hunwind
    exact ⟨hunwind, congrArg some hunwind⟩
  | error e t =>
    rw [h] at hunwind
    exact hunwind

/-- Work on the bench keeps the number of the scanner, and complains as the scanner does. -/
theorem owned_onBench (m : EStateM Abort Bench α) : Owned (onBench setting m) := by
  intro s
  rw [onBench]
  obtain ⟨a, b⟩ | ⟨c | f, b⟩ := m s.toBench
  · rfl
  · exact owned_complain c { s with toBench := b }
  · exact ⟨rfl, trivial⟩

/-- A complaint with a column is owned, whether or not that can be written. -/
theorem owned_complainAt (column : Int) (c : Complaint) :
    Owned (complainAt setting column c : Rule α) := by
  rw [complainAt_eq]
  exact owned_bind owned_get fun s => owned_ite (owned_complain c) (owned_fault _)

/-- An expectation that is not met raises an error of its scanner. -/
theorem owned_expect (wanted : Wanted) (what : Option String) :
    Owned (expect setting wanted what) := by
  refine owned_bind (owned_onBench _) fun target => ?_
  refine owned_bind (owned_onBench _) fun found => owned_ite (owned_pure ()) ?_
  exact owned_bind owned_get fun s => owned_complainAt _ _

/-- A message that is raised is an error of its scanner. -/
theorem owned_error (template : String) (args : List Datum) :
    Owned (error setting template args : Rule α) := by
  unfold error
  split
  · exact owned_complain _
  · exact owned_fault _

end Rule

/-! ## Operations -/

namespace Session

open Rule

variable {setting : Setting}

/-- Building what is mentioned keeps the number of the scanner. -/
theorem owned_build (m : Mention) : Owned (build setting m) := by
  unfold build
  split
  · exact owned_pure _
  · exact owned_fault _

/-- So does building all that is mentioned. -/
theorem owned_buildAll (ms : List Mention) : Owned (buildAll setting ms) := by
  induction ms with
  | nil => exact owned_pure []
  | cons m rest ih =>
    rw [buildAll, List.mapM_cons]
    exact owned_bind (owned_build m) fun _ => owned_bind ih fun _ => owned_pure _

/-- Probing a matcher keeps the number of the scanner. -/
theorem owned_probe (m : Scan Match) : Owned (probe setting m) :=
  owned_bind (owned_onBench _) fun _ => owned_pure _

/-- Trying one alternative after the other is owned. -/
theorem owned_chooseFrom (place : Nat) (ms : List Mention) :
    Owned (chooseFrom setting place ms) := by
  induction ms generalizing place with
  | nil => exact owned_pure _
  | cons m rest ih =>
    refine owned_bind (owned_build m) fun _ => owned_bind (owned_onBench _) fun _ => ?_
    exact owned_ite (owned_pure _) (ih _)

/-- Accepting the same again and again is owned. -/
theorem owned_acceptMany (m : Mention) (max count : Nat) :
    Owned (acceptMany setting m max count) := by
  induction max generalizing count with
  | zero => exact owned_pure _
  | succ max ih =>
    refine owned_bind (owned_build m) fun _ => owned_bind (owned_onBench _) fun _ => ?_
    exact owned_ite (ih _) (owned_pure _)

/-- Showing a value keeps the number of the scanner. -/
theorem owned_shownText (d : Datum) : Owned (shownText d) := by
  unfold shownText
  split
  · exact owned_pure _
  · exact owned_fault _

/-- Describing a place keeps the number of the scanner. -/
theorem owned_describedAt (described : String) (line : Line) (pos : Int) :
    Owned (describedAt described line pos) := by
  unfold describedAt
  split
  · exact owned_pure _
  · exact owned_fault _

/-- An operation keeps the number of its scanner, and raises no error of another one. -/
theorem owned_run (action : Action) : Owned (action.run setting) := by
  cases action with
  | reset line => exact owned_bind (owned_reset line) fun _ => owned_pure _
  | onCleanup hook => exact owned_bind (owned_onCleanup hook) fun _ => owned_pure _
  | assign assignment => exact owned_bind (owned_modify fun _ => rfl) fun _ => owned_pure _
  | accept m =>
    exact owned_bind (owned_build m) fun _ => owned_bind (owned_onBench _) fun _ => owned_pure _
  | acceptAll ms =>
    exact owned_bind (owned_buildAll ms) fun _ => owned_bind (owned_onBench _) fun _ =>
      owned_pure _
  | expect m what =>
    exact owned_bind (owned_build m) fun _ => owned_bind (owned_expect _ _) fun _ => owned_pure _
  | error template args => exact owned_error _ _
  | value | matched => exact owned_bind owned_get fun _ => owned_pure _
  | choose ms => exact owned_chooseFrom 0 ms
  | many m max => exact owned_acceptMany m max 0
  | scanChar wanted pos =>
    obtain _ | ⟨c, _ | _⟩ := wanted <;> exact owned_probe _
  | scanLiteral wanted pos => exact owned_probe _
  | scanTerminal name pos =>
    rw [Action.run]
    cases setting.registry.find? name with
    | some t => exact owned_probe _
    | none => exact owned_fault _
  | dispatch m =>
    refine owned_bind (owned_build m) fun wanted => ?_
    cases wanted with
    | target t => exact owned_probe _
    | bare d => exact owned_bind (owned_shownText d) fun _ => owned_fault _
  | coerce m =>
    exact owned_bind (owned_build m) fun _ => owned_bind (owned_onBench _) fun _ => owned_pure _
  | label m =>
    refine owned_bind (owned_build m) fun wanted => ?_
    cases wanted with
    | target t => exact owned_pure _
    | bare d => exact owned_fault _
  | describe m line pos =>
    refine owned_bind (owned_build m) fun wanted => ?_
    cases wanted with
    | target t => exact owned_describedAt _ _ _
    | bare d => exact owned_bind (owned_shownText d) fun _ => owned_describedAt _ _ _

/-! ## Sessions -/

/-- There are `count` scanners, and the number of each is its place. -/
def Numbered (count : Nat) (session : Session) : Prop :=
  session.scanners.map Scanner.id = List.range count

variable {α : Type} {count : Nat} {index : Int} {session session' : Session}

/-- A session starts with scanners that are numbered by their places. -/
theorem numbered_start (count : Nat) : (start count).Numbered count := by
  simp [Numbered, start, Function.comp_def]

/-- The number of a scanner is the place that its index stands for. -/
theorem Numbered.ofIndex_eq (numbered : session.Numbered count) {owner : Scanner}
    (h : session.scanner index = .ok owner) : Place.ofIndex count index = .ok owner.id := by
  have hlength : session.scanners.length = count := by
    rw [← List.length_map Scanner.id, numbered, List.length_range]
  rw [scanner, Place.get, hlength] at h
  cases hplace : Place.ofIndex count index with
  | error cause => simp only [hplace] at h; cases h
  | ok place =>
    simp only [hplace] at h
    cases hget : session.scanners[place]? with
    | none => simp only [hget] at h; cases h
    | some found =>
      simp only [hget] at h
      cases h
      have hid : (session.scanners.map Scanner.id)[place]? = some owner.id := by
        rw [List.getElem?_map, hget]
        rfl
      rw [numbered, List.getElem?_eq_some_iff] at hid
      obtain ⟨hlt, hid⟩ := hid
      rw [← hid, List.getElem_range]

/-- A scanner that is put back in its place keeps the scanners numbered. -/
theorem Numbered.put (numbered : session.Numbered count) {s : Scanner} {place : Nat}
    (h : s.id = place) : (session.put place s).Numbered count := by
  rw [Numbered, Session.put, List.map_set, numbered]
  apply List.ext_getElem
  · rw [List.length_set]
  · intro n hn hn'
    rw [List.getElem_set, List.getElem_range]
    split
    · next heq => rw [h, heq]
    · rfl

/-- A rule on a scanner of a session keeps the scanners numbered, however it ends. -/
theorem numbered_onScanner {rule : Rule α} (owned : Owned rule) (index : Int)
    (numbered : session.Numbered count) :
    (Result.state (onScanner index rule session)).Numbered count := by
  rw [onScanner]
  cases session.scanner index with
  | error cause => exact numbered
  | ok owner =>
    have howned := owned { owner with journal := session.journal }
    dsimp only
    cases hrule : rule { owner with journal := session.journal } with
    | ok a s =>
      rw [hrule] at howned
      exact numbered.put howned
    | error e s =>
      rw [hrule] at howned
      exact numbered.put howned.1

end Session

end LineScan
