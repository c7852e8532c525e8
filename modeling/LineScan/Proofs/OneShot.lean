import Mathlib.Logic.Relation
import LineScan.Proofs.Lockstep
import LineScan.Proofs.Ownership
import LineScan.Scanner.Recorder

/-!
# A hook fires once

A registration of a hook is in force until something else happens to the hook of the scanner: it is
replaced or withdrawn, the scanner is reset, a parse starts or ends well, or an error begins to
unwind. If it is an error, the hook fires there and then; in all other cases it never does.

There are few things that can happen between two moments of a history (`Recorder.Step`), and each of
them keeps the account in order (`Recorder.Sound`). Applications and hooks, however they are nested,
do nothing but these.

## Main statements

* `sound_of_reaches`: the history of a recorder is in order.
* `hook_tracks`, `Application.tracks`: a recorder does what a scanner does, step by step.
* `hook_fires_once`: over whole runs, a hook is one-shot.
-/

namespace LineScan

open Hook (Event Moment History)

/-! ## Histories -/

/-- The event puts an end to a registration that was in force before it. -/
def Hook.Event.ends : Event → Bool
  | .fired .. => false
  | _ => true

/-- The event withdraws the hook of the scanner, which does not fire. -/
def Hook.Event.withdraws : Event → Bool
  | .withdrawn | .reset | .started | .finished => true
  | .registered _ | .unwinding | .fired .. => false

namespace Hook.History

/-- The event at a place of a history. -/
def event? (history : History) (place : Nat) : Option Event := history[place]?.map Moment.event

/-- The registration of a hook is in force just before a place of the history: nothing has put an
end to it since. -/
structure InForce (history : History) (registration : Nat) (hook : Hook) (place : Nat) : Prop where
  lt : registration < place
  registered : history.event? registration = some (.registered hook)
  lasts : ∀ m event, registration < m → m < place → history.event? m = some event →
    event.ends = false

/-- Hooks fire when they should: a registration fires where an error has just begun to unwind while
the registration was in force, and nowhere else. -/
def InOrder (history : History) : Prop :=
  ∀ place registration hook, history.event? place = some (.fired registration hook) ↔
    ∃ before, place = before + 1 ∧ history.event? before = some .unwinding ∧
      history.InForce registration hook before

variable {history more : History} {moment : Moment} {hook hook' : Hook}
  {place registration registration' : Nat}

/-- What happens later does not change what was at a place. -/
theorem event?_append (h : place < history.length) :
    (history ++ more).event? place = history.event? place := by
  rw [event?, event?, List.getElem?_append_left h]

/-- The next thing that happens is at the end of the history. -/
theorem event?_length : (history ++ moment :: more).event? history.length = some moment.event := by
  rw [event?, List.getElem?_append_right (Nat.le_refl _), Nat.sub_self]
  rfl

/-- Nothing has happened yet at a place past the end of the history. -/
theorem event?_eq_none (h : history.length ≤ place) : history.event? place = none := by
  rw [event?, List.getElem?_eq_none h]
  rfl

/-- Whether a registration is in force at a place does not depend on what comes from there on. -/
theorem inForce_append (more : History) (h : place ≤ history.length) :
    (history ++ more).InForce registration hook place ↔
      history.InForce registration hook place := by
  constructor
  · rintro ⟨lt, registered, lasts⟩
    rw [event?_append (by omega)] at registered
    refine ⟨lt, registered, fun m event hm hplace hevent => lasts m event hm hplace ?_⟩
    rw [event?_append (by omega), hevent]
  · rintro ⟨lt, registered, lasts⟩
    refine ⟨lt, ?_, fun m event hm hplace hevent => lasts m event hm hplace ?_⟩
    · rw [event?_append (by omega), registered]
    · rw [← hevent, event?_append (by omega)]

/-- After one more event a registration is in force if the event is the registration, or if it was
in force before and the event has not put an end to it. -/
theorem inForce_concat :
    (history ++ [moment]).InForce registration hook (history ++ [moment]).length ↔
      (registration = history.length ∧ moment.event = .registered hook) ∨
        (moment.event.ends = false ∧ history.InForce registration hook history.length) := by
  rw [List.length_append, List.length_singleton]
  have hlast : (history ++ [moment]).event? history.length = some moment.event := event?_length
  constructor
  · rintro ⟨lt, registered, lasts⟩
    by_cases heq : registration = history.length
    · rw [heq, hlast] at registered
      exact .inl ⟨heq, Option.some.inj registered⟩
    · have hlt : registration < history.length := by omega
      refine .inr ⟨lasts _ _ hlt (Nat.lt_succ_self _) hlast, ?_⟩
      rw [← inForce_append [moment] (Nat.le_refl _)]
      exact ⟨hlt, registered, fun m event hm hplace => lasts m event hm (by omega)⟩
  · rintro (⟨rfl, hevent⟩ | ⟨hends, hforce⟩)
    · exact ⟨Nat.lt_succ_self _, by rw [hlast, hevent], fun m event hm hplace => by omega⟩
    · obtain ⟨lt, registered, lasts⟩ := (inForce_append [moment] (Nat.le_refl _)).2 hforce
      refine ⟨by omega, registered, fun m event hm hplace hevent => ?_⟩
      by_cases heq : m = history.length
      · rw [heq, hlast] at hevent
        exact Option.some.inj hevent ▸ hends
      · exact lasts m event hm (by omega) hevent

/-- At most one registration is in force at a time. -/
theorem InForce.unique (h : history.InForce registration hook place)
    (h' : history.InForce registration' hook' place) :
    registration = registration' ∧ hook = hook' := by
  -- of two registrations, the later one puts an end to the earlier one
  have hend : ∀ {n n' : Nat} {hook hook' : Hook}, history.InForce n hook place →
      history.InForce n' hook' place → ¬ n < n' := by
    intro n n' hook hook' h h' hlt
    exact absurd (h.lasts n' _ hlt h'.lt h'.registered) (by simp [Event.ends])
  obtain rfl : registration = registration' := by
    have := hend h h'
    have := hend h' h
    omega
  have heq := h.registered.symm.trans h'.registered
  exact ⟨rfl, Event.registered.inj (Option.some.inj heq)⟩

/-- A history in order does not end where a hook is about to fire. -/
theorem InOrder.no_pending (h : InOrder history) {before : Nat}
    (hlast : before + 1 = history.length) (hunwinding : history.event? before = some .unwinding) :
    ¬ history.InForce registration hook before := by
  intro hforce
  have hfired := (h _ registration hook).2 ⟨before, rfl, hunwinding, hforce⟩
  rw [hlast, event?_eq_none (Nat.le_refl _)] at hfired
  cases hfired

/-- A history in which nothing happens is in order. -/
theorem inOrder_nil : InOrder [] := by
  intro place registration hook
  constructor
  · intro h
    cases h
  · rintro ⟨before, -, h, -⟩
    cases h

/-- What fires within a history in order fires when more is added to it, and nothing else does. -/
theorem InOrder.append_iff (h : InOrder history) (hplace : place ≤ history.length)
    (hnext : ∀ moment ∈ more.head?, ∀ registration hook, moment.event ≠ .fired registration hook) :
    (history ++ more).event? place = some (.fired registration hook) ↔
      ∃ before, place = before + 1 ∧ (history ++ more).event? before = some .unwinding ∧
        (history ++ more).InForce registration hook before := by
  have hlocal : ∀ before, place = before + 1 →
      ((history ++ more).event? before = some .unwinding ∧
        (history ++ more).InForce registration hook before ↔
      history.event? before = some .unwinding ∧ history.InForce registration hook before) := by
    intro before heq
    rw [event?_append (by omega), inForce_append _ (by omega)]
  by_cases heq : place = history.length
  · -- the event after the history is no firing, and none was pending
    constructor
    · intro hfired
      cases more with
      | nil =>
        rw [List.append_nil, event?_eq_none (Nat.le_of_eq heq.symm)] at hfired
        cases hfired
      | cons moment rest =>
        rw [heq, event?_length] at hfired
        exact absurd (Option.some.inj hfired) (hnext moment rfl registration hook)
    · rintro ⟨before, hbefore, hrest⟩
      obtain ⟨hunwinding, hforce⟩ := (hlocal before hbefore).1 hrest
      exact absurd hforce (h.no_pending (hbefore.symm.trans heq) hunwinding)
  · rw [event?_append (by omega), h place registration hook]
    constructor
    · rintro ⟨before, hbefore, hrest⟩
      exact ⟨before, hbefore, (hlocal before hbefore).2 hrest⟩
    · rintro ⟨before, hbefore, hrest⟩
      exact ⟨before, hbefore, (hlocal before hbefore).1 hrest⟩

/-- An event that is no firing keeps a history in order, unless an error begins to unwind while a
registration is in force. -/
theorem InOrder.concat (h : InOrder history)
    (hevent : ∀ registration hook, moment.event ≠ .fired registration hook)
    (hquiet : moment.event = .unwinding → ∀ registration hook,
      ¬ history.InForce registration hook history.length) :
    InOrder (history ++ [moment]) := by
  intro place registration hook
  by_cases hplace : place ≤ history.length
  · exact h.append_iff hplace fun m hm => by
      obtain rfl : moment = m := Option.some.inj hm
      exact hevent
  · have hlength : (history ++ [moment]).length = history.length + 1 := List.length_append
    constructor
    · intro hfired
      rw [event?_eq_none (by omega)] at hfired
      cases hfired
    · rintro ⟨before, hbefore, hunwinding, hforce⟩
      obtain heq | hlt := Nat.eq_or_lt_of_le (show history.length ≤ before by omega)
      · subst heq
        rw [event?_length] at hunwinding
        rw [inForce_append _ (Nat.le_refl _)] at hforce
        exact absurd hforce (hquiet (Option.some.inj hunwinding) registration hook)
      · rw [event?_eq_none (by omega)] at hunwinding
        cases hunwinding

/-- An error that begins to unwind while a registration is in force, and then its hook firing, keep
a history in order. -/
theorem InOrder.fire (h : InOrder history)
    (hforce : history.InForce registration hook history.length) {first second : Moment}
    (hfirst : first.event = .unwinding) (hsecond : second.event = .fired registration hook) :
    InOrder (history ++ [first, second]) := by
  intro place registration' hook'
  have hlength : (history ++ [first, second]).length = history.length + 2 := List.length_append
  have hunwound : (history ++ [first, second]).event? history.length = some .unwinding := by
    rw [event?_length, hfirst]
  have hfired : (history ++ [first, second]).event? (history.length + 1) =
      some (.fired registration hook) := by
    have hlast : ((history ++ [first]) ++ [second]).event? (history ++ [first]).length =
        some second.event := event?_length
    rwa [List.length_append, List.append_assoc, hsecond] at hlast
  -- a place is an old one, that of the hook that fires, or past the end
  by_cases hplace : place ≤ history.length
  · exact h.append_iff hplace fun m hm => by
      obtain rfl : first = m := Option.some.inj hm
      rw [hfirst]
      exact fun _ _ => Event.noConfusion
  by_cases hnext : place = history.length + 1
  · subst hnext
    rw [hfired]
    constructor
    · intro heq
      obtain ⟨rfl, rfl⟩ := Event.fired.inj (Option.some.inj heq)
      exact ⟨history.length, rfl, hunwound, (inForce_append _ (Nat.le_refl _)).2 hforce⟩
    · rintro ⟨before, hbefore, -, hforce'⟩
      obtain rfl : before = history.length := by omega
      obtain ⟨rfl, rfl⟩ := hforce.unique ((inForce_append _ (Nat.le_refl _)).1 hforce')
      rfl
  · constructor
    · intro hlater
      rw [event?_eq_none (by omega)] at hlater
      cases hlater
    · rintro ⟨before, hbefore, hunwinding, -⟩
      by_cases heq : before = history.length + 1
      · rw [heq, hfired] at hunwinding
        cases hunwinding
      · rw [event?_eq_none (by omega)] at hunwinding
        cases hunwinding

/-- In a history in order a registration fires at most once. -/
theorem InOrder.fires_once (h : InOrder history) {place' : Nat}
    (hfired : history.event? place = some (.fired registration hook))
    (hfired' : history.event? place' = some (.fired registration hook')) : place = place' := by
  -- the unwinding before the first of two firings puts an end to the registration
  have hend : ∀ {i j : Nat} {hook hook' : Hook},
      history.event? i = some (.fired registration hook) →
      history.event? j = some (.fired registration hook') → ¬ i < j := by
    intro i j hook hook' hi hj hlt
    obtain ⟨m, rfl, hunwinding, hforce⟩ := (h i registration hook).1 hi
    obtain ⟨m', rfl, -, hforce'⟩ := (h j registration hook').1 hj
    exact absurd (hforce'.lasts m _ hforce.lt (by omega) hunwinding) (by simp [Event.ends])
  have := hend hfired hfired'
  have := hend hfired' hfired
  omega

end Hook.History

/-! ## Recorders -/

namespace Recorder

/-- What can happen to a recorder at a time. -/
inductive Step : Recorder → Recorder → Prop where
  /-- Work on the bench does not touch the hook. -/
  | work (r : Recorder) (b : Bench) : Step r { r with toBench := b }
  | register (r : Recorder) (hook : Hook) : Step r (r.register hook)
  | withdraw (r : Recorder) {event : Event} (h : event.withdraws = true) :
      Step r (r.note event none)
  /-- An error begins to unwind, and there is no hook. -/
  | unwind (r : Recorder) (h : r.slot = none) : Step r (r.note .unwinding r.slot)
  /-- An error begins to unwind, and the hook fires. -/
  | fire (r : Recorder) {registration : Nat} {hook : Hook}
      (h : r.slot = some (registration, hook)) :
      Step r ((r.note .unwinding r.slot).fire registration hook)

/-- What a recorder comes to. -/
abbrev Reaches : Recorder → Recorder → Prop := Relation.ReflTransGen Step

/-- The account of a recorder is in order: its hook is the one of the registration in force, and
hooks fire when they should, after they have been withdrawn. -/
structure Sound (r : Recorder) : Prop where
  slot_iff : ∀ registration hook, r.slot = some (registration, hook) ↔
    r.history.InForce registration hook r.history.length
  inOrder : r.history.InOrder
  left_of_fired : ∀ moment ∈ r.history, ∀ registration hook,
    moment.event = .fired registration hook → moment.left = none

namespace Sound

variable {r r' : Recorder}

/-- An event that ends what was in force keeps the account in order, if the hook that it leaves is
the one that it registers, and no hook is there when an error begins to unwind. -/
theorem note (h : Sound r) {event : Event} {slot : Option (Nat × Hook)} (hends : event.ends = true)
    (hquiet : event = .unwinding → r.slot = none)
    (hslot : ∀ registration hook, slot = some (registration, hook) ↔
      registration = r.history.length ∧ event = .registered hook) : Sound (r.note event slot) where
  slot_iff registration hook := by
    refine (hslot registration hook).trans ?_
    simp only [Recorder.note, Hook.History.inForce_concat, hends, Bool.true_eq_false, false_and,
      or_false]
  inOrder := by
    refine h.inOrder.concat (fun registration hook hfired => ?_)
      fun hunwinding registration hook => ?_
    · rw [show event = _ from hfired] at hends
      cases hends
    · rw [← h.slot_iff, hquiet hunwinding]
      exact nofun
  left_of_fired := by
    intro moment hmoment registration hook hfired
    obtain hold | hnew := List.mem_append.1 hmoment
    · exact h.left_of_fired moment hold registration hook hfired
    · rw [List.mem_singleton.1 hnew] at hfired
      rw [show event = _ from hfired] at hends
      cases hends

/-- Whatever happens keeps the account in order. -/
theorem step (h : Sound r) (hstep : Step r r') : Sound r' := by
  cases hstep with
  | work b => exact ⟨h.slot_iff, h.inOrder, h.left_of_fired⟩
  | register hook =>
    refine h.note rfl nofun fun registration hook' => ?_
    simp only [Option.some.injEq, Prod.mk.injEq, Event.registered.injEq, eq_comm]
  | @withdraw event hevent =>
    refine h.note ?_ ?_ ?_ <;> cases event <;> simp_all [Event.withdraws, Event.ends]
  | unwind hslot => exact h.note rfl (fun _ => hslot) (by simp [hslot])
  | @fire registration hook hslot =>
    have hforce := (h.slot_iff registration hook).1 hslot
    let unwound : Moment := ⟨.unwinding, r.slot.map Prod.snd⟩
    have hhistory : ((r.note .unwinding r.slot).fire registration hook).history =
        r.history ++ [unwound, ⟨.fired registration hook, none⟩] := List.append_assoc ..
    refine ⟨fun registration' hook' => ⟨nofun, fun hforce' => ?_⟩, ?_, ?_⟩
    · -- nothing is in force any more once an error has begun to unwind
      obtain ⟨-, hregistered⟩ | ⟨-, hforce'⟩ := Hook.History.inForce_concat.1 hforce'
      · cases hregistered
      · obtain ⟨-, hregistered⟩ | ⟨hends, -⟩ := Hook.History.inForce_concat.1 hforce'
        · cases hregistered
        · cases hends
    · rw [hhistory]
      exact h.inOrder.fire hforce rfl rfl
    · intro moment hmoment registration' hook' hfired
      simp only [hhistory, List.mem_append, List.mem_cons, List.not_mem_nil, or_false] at hmoment
      obtain hold | rfl | rfl := hmoment
      · exact h.left_of_fired moment hold registration' hook' hfired
      · cases hfired
      · rfl

/-- The account of a new recorder is in order. -/
theorem start (s : Scanner) : Sound (.start s) := by
  have hempty : Sound { toBench := s.toBench, id := s.id } := by
    refine ⟨fun registration hook => ⟨nofun, fun hforce => ?_⟩, Hook.History.inOrder_nil, nofun⟩
    exact absurd hforce.lt (Nat.not_lt_zero _)
  unfold Recorder.start
  cases s.hook with
  | none => exact hempty
  | some hook => exact hempty.step (.register _ hook)

end Sound

/-- Whatever a recorder comes to, its account stays in order. -/
theorem sound_of_reaches {r r' : Recorder} (h : Sound r) (hreaches : Reaches r r') : Sound r' := by
  induction hreaches with
  | refl => exact h
  | tail _ hstep ih => exact ih.step hstep

/-- A history only grows. -/
theorem prefix_of_reaches {r r' : Recorder} (hreaches : Reaches r r') :
    r.history <+: r'.history := by
  induction hreaches with
  | refl => exact List.prefix_refl _
  | tail _ hstep ih =>
    refine ih.trans ?_
    cases hstep with
    | work b => exact List.prefix_refl _
    | register | withdraw | unwind => exact List.prefix_append ..
    | fire => exact (List.prefix_append ..).trans (List.prefix_append ..)

/-! ## A recorder does what a scanner does -/

/-- A recorder that has come so far, beside the scanner that it stands for. -/
structure Beside (origin : Recorder) (r : Recorder) (s : Scanner) : Prop where
  reaches : Reaches origin r
  scanner_eq : r.scanner = s

/-- A computation on a recorder tracks one on a scanner: it does the same, and nothing happens but
what can happen to a recorder. -/
def Tracks {α : Type} (x : EStateM Failure Recorder α) (y : Rule α) : Prop :=
  ∀ origin, Lockstep (Beside origin) x y (fun _ => Beside origin) fun _ => Beside origin

/-- How a recorder ends that tracks a scanner. -/
abbrev EndsBeside {α : Type} (origin : Recorder) :
    EStateM.Result Failure Recorder α → EStateM.Result Failure Scanner α → Prop :=
  InStep (fun _ => Beside origin) fun _ => Beside origin

variable {setting : Setting}

/-- The hook fires before the error is built. -/
theorem unwind_of_slot {r : Recorder} {registration : Nat} {hook : Hook}
    (h : r.slot = some (registration, hook)) (c : Complaint) :
    r.unwind setting c =
      match hook.record setting ((r.beginUnwinding c).fire registration hook) with
      | .ok _ r => .error (.scan (r.scanner.errorOf c)) r
      | .error e r => .error e r := by
  rw [Recorder.unwind]
  split
  · next hnone => rw [h] at hnone; cases hnone
  · next registration' hook' hsome =>
    rw [h] at hsome
    cases hsome
    rfl

/-- Without a hook, an error unwinds by being built. -/
theorem unwind_of_no_slot {r : Recorder} (h : r.slot = none) (c : Complaint) :
    r.unwind setting c =
      .error (.scan ((r.beginUnwinding c).scanner.errorOf c)) (r.beginUnwinding c) := by
  rw [Recorder.unwind]
  split
  · rfl
  · next hsome => rw [h] at hsome; cases hsome

/-- Work on the bench is a thing that can happen. -/
theorem reaches_work {origin r : Recorder} (h : Reaches origin r) (b : Bench) :
    Reaches origin { r with toBench := b } := h.tail (.work r b)

/-- Starting a line, which withdraws the hook, is a thing that can happen. -/
theorem reaches_startLine {origin r : Recorder} (h : Reaches origin r) {event : Event}
    (hevent : event.withdraws = true) (line : Line) : Reaches origin (r.startLine event line) :=
  (reaches_work h _).tail (.withdraw _ hevent)

/-- Beginning to unwind without a hook is a thing that can happen. -/
theorem reaches_beginUnwinding {origin r : Recorder} (h : Reaches origin r) (hslot : r.slot = none)
    (c : Complaint) : Reaches origin (r.beginUnwinding c) :=
  (reaches_work h _).tail (.unwind _ hslot)

/-- Beginning to unwind with a hook in place, and firing it, is a thing that can happen. -/
theorem reaches_fire {origin r : Recorder} (h : Reaches origin r) {registration : Nat} {hook : Hook}
    (hslot : r.slot = some (registration, hook)) (c : Complaint) :
    Reaches origin ((r.beginUnwinding c).fire registration hook) :=
  (reaches_work h _).tail (.fire _ hslot)

/-- An error that is built once a hook is done is the same on both sides. -/
theorem endsBeside_raise {α : Type} {origin : Recorder} (c : Complaint)
    {x : EStateM.Result Failure Recorder Unit} {y : EStateM.Result Failure Scanner Unit} :
    EndsBeside origin x y → EndsBeside (α := α) origin
      (match x with
        | .ok _ r => .error (.scan (r.scanner.errorOf c)) r
        | .error e r => .error e r)
      (match y with
        | .ok _ s => .error (.scan (s.errorOf c)) s
        | .error e s => .error e s) := by
  intro h
  cases h with
  | ok post =>
    obtain ⟨hreaches, rfl⟩ := post
    exact .error ⟨hreaches, rfl⟩
  | error post => exact .error post

/-- Hooks and complaints on a recorder do what they do on a scanner. -/
theorem hook_tracks (setting : Setting) (origin : Recorder) :
    (∀ (hook : Hook) (r : Recorder), Reaches origin r →
      EndsBeside origin (hook.record setting r) (hook.run setting r.scanner)) ∧
    ∀ (c : Complaint) (r : Recorder), Reaches origin r →
      EndsBeside origin (r.unwind setting c) (r.scanner.unwind setting c) := by
  apply Hook.record.mutual_induct setting
  case case1 =>
    intro r h
    rw [Hook.record, Hook.run]
    exact .ok ⟨h, rfl⟩
  case case2 =>
    intro r label next ih h
    rw [Hook.record, Hook.run]
    exact ih (reaches_work h _)
  case case3 =>
    intro r other next ih h
    rw [Hook.record, Hook.run]
    exact ih (h.tail (.register r other))
  case case4 =>
    intro r next ih h
    rw [Hook.record, Hook.run]
    exact ih (h.tail (.withdraw r rfl))
  case case5 =>
    intro r line next ih h
    rw [Hook.record, Hook.run]
    exact ih (reaches_startLine h rfl line)
  -- An attempt of a hook: it ends, complains or is at fault.
  case case6 | case7 | case9 | case10 =>
    intro r wanted next _ b hrun ih h
    rw [Hook.record, Hook.run, show r.scanner.toBench = r.toBench from rfl, hrun]
    exact ih (reaches_work h b)
  case case8 | case11 =>
    intro r wanted next f b hrun h
    rw [Hook.record, Hook.run, show r.scanner.toBench = r.toBench from rfl, hrun]
    exact .error ⟨reaches_work h b, rfl⟩
  case case12 =>
    intro r text ih h
    rw [Hook.record, Hook.run]
    exact ih h
  -- A complaint: there is no hook, the hook ends, or it fails.
  case case13 =>
    intro c r hslot h
    have hnone : r.scanner.hook = none := by rw [scanner, hslot]; rfl
    rw [unwind_of_no_slot hslot, Scanner.unwind_of_no_hook hnone]
    exact .error ⟨reaches_beginUnwinding h hslot c, rfl⟩
  case case14 | case15 =>
    intro c r registration hook hslot _ r' hrun ih h
    have hsome : r.scanner.hook = some hook := by rw [scanner, hslot]; rfl
    rw [unwind_of_slot hslot, Scanner.unwind_of_hook hsome]
    exact endsBeside_raise c (ih (reaches_fire h hslot c))

variable {α β : Type}

/-- Complaining tracks complaining, hook and all. -/
theorem complain_tracks (c : Complaint) :
    Tracks (complain setting c : EStateM Failure Recorder α) (Rule.complain setting c) := by
  rintro origin r s ⟨h, rfl⟩
  exact endsBeside_raise c ((hook_tracks setting origin).2 c r h)

/-- So does complaining with a column, whether or not it can be written. -/
theorem complainAt_tracks (column : Int) (c : Complaint) :
    Tracks (complainAt setting column c : EStateM Failure Recorder α)
      (Rule.complainAt setting column c) := by
  rintro origin r s ⟨h, rfl⟩
  rw [complainAt, Rule.complainAt, show r.scanner.state = r.state from rfl]
  cases r.state.line.write column with
  | ok text => exact complain_tracks c origin _ _ ⟨h, rfl⟩
  | error cause => exact .error ⟨h, rfl⟩

/-- Work on the bench tracks the same work, and what it complains of unwinds. -/
theorem onBench_tracks (m : EStateM Abort Bench α) :
    Tracks (onBench setting m) (Rule.onBench setting m) := by
  rintro origin r s ⟨h, rfl⟩
  rw [onBench, Rule.onBench, show r.scanner.toBench = r.toBench from rfl]
  cases m r.toBench with
  | ok a b => exact .ok ⟨reaches_work h b, rfl⟩
  | error e b =>
    cases e with
    | complaint c => exact complain_tracks c origin _ _ ⟨reaches_work h b, rfl⟩
    | fault f => exact .error ⟨reaches_work h b, rfl⟩

/-- Expecting tracks expecting. -/
theorem expect_tracks (wanted : Wanted) (what : Option String) :
    Tracks (expect setting wanted what) (Rule.expect setting wanted what) := by
  intro origin
  refine .bind (onBench_tracks _ origin) fun target => ?_
  refine .bind (onBench_tracks _ origin) fun found => ?_
  refine .ite (fun _ => .pure fun _ _ h => h) fun _ => .get_bind fun r s h => ?_
  obtain rfl := h.scanner_eq
  exact complainAt_tracks _ _ origin

/-- Parsing a line tracks parsing it, if the rule tracks the rule. -/
theorem parse_tracks {line : Line} {x : EStateM Failure Recorder α} {rule : Rule α}
    (h : Tracks x rule) : Tracks (parse line x) (Rule.parse line rule) := by
  intro origin
  refine .bind (.modify ?_) fun _ => .bind (h origin) fun a => .bind (.modify ?_) fun _ =>
    .pure fun _ _ h => h
  · rintro r s ⟨hreaches, rfl⟩
    exact ⟨reaches_startLine hreaches rfl line, rfl⟩
  · rintro r s ⟨hreaches, rfl⟩
    exact ⟨hreaches.tail (.withdraw r rfl), rfl⟩

/-- Going on from an answer and a view tracks the same, since these are the same on both sides. -/
theorem heeding_tracks {x : EStateM Failure Recorder α} {y : Rule α}
    {f : Except Failure α → View → EStateM Failure Recorder β}
    {g : Except Failure α → View → Rule β} (first : Tracks x y)
    (next : ∀ answer view, Tracks (f answer view) (g answer view)) :
    Tracks (heeding (fun r => r.state.view) x f) (heeding (fun s => s.state.view) y g) := by
  intro origin r s h
  have hfirst := first origin r s h
  have hstate := hfirst.state fun _ _ _ h => h
  have hview : (Result.state (x r)).state.view = (Result.state (y s)).state.view := by
    rw [← hstate.scanner_eq]
    rfl
  rw [heeding, heeding, hfirst.answer_eq, hview]
  exact next _ _ origin _ _ hstate

end Recorder

open Recorder (Tracks)

variable {setting : Setting}

/-- Each call tracks itself on the scanner. -/
theorem Call.tracks (call : Call) : Tracks (call.record setting) (call.run setting) := by
  cases call with
  | accept wanted => exact Recorder.onBench_tracks _
  | acceptAll wanted => exact Recorder.onBench_tracks _
  | expect wanted what =>
    exact fun origin => .bind (Recorder.expect_tracks wanted what origin) fun _ =>
      .pure fun _ _ h => h

/-- Each operation tracks itself on the scanner. -/
theorem Operation.tracks (op : Operation) : Tracks (op.record setting) (op.run setting) := by
  cases op with
  | reset line =>
    refine fun origin => .bind (.modify ?_) fun _ => .pure fun _ _ h => h
    rintro r s ⟨hreaches, rfl⟩
    exact ⟨Recorder.reaches_startLine hreaches rfl line, rfl⟩
  | onCleanup hook =>
    refine fun origin => .bind (.modify ?_) fun _ => .pure fun _ _ h => h
    rintro r s ⟨hreaches, rfl⟩
    cases hook with
    | none => exact ⟨hreaches.tail (.withdraw r rfl), rfl⟩
    | some hook => exact ⟨hreaches.tail (.register r hook), rfl⟩
  | call made => exact made.tracks
  | error template args =>
    rw [Operation.record, Operation.run, Rule.error]
    cases Message.compose setting.room template args with
    | ok text => exact Recorder.complain_tracks _
    | error cause => exact fun origin => .throw fun _ _ h => h

/-- An application on a recorder does what it does on a scanner, step by step. -/
theorem Application.tracks (setting : Setting) (app : Application) :
    Tracks (app.record setting) (app.run setting) := by
  induction app with
  | done answers => exact fun origin => .pure fun _ _ h => h
  | raise failure => exact fun origin => .throw fun _ _ h => h
  | operate op next ih => exact Recorder.heeding_tracks op.tracks ih
  | parse line rule next ihrule ih =>
    exact Recorder.heeding_tracks (Recorder.parse_tracks ihrule) ih

/-! ## When nothing fires -/

/-- The event is neither the beginning of an unwinding nor a firing. -/
def Hook.Event.quiet : Event → Bool
  | .unwinding | .fired .. => false
  | _ => true

/-- What happens to the hook when an operation ends well. -/
def Operation.events : Operation → List Event
  | .reset _ => [.reset]
  | .onCleanup none => [.withdrawn]
  | .onCleanup (some hook) => [.registered hook]
  | .call _ => []
  | .error .. => []

namespace Recorder

variable {α β : Type}

/-- The events of a recorder so far. -/
def events (r : Recorder) : List Event := r.history.map Moment.event

/-- What is noted comes after what has happened so far. -/
@[simp]
theorem events_note (r : Recorder) (event : Event) (slot : Option (Nat × Hook)) :
    (r.note event slot).events = r.events ++ [event] := List.map_append

/-- What does not deal with hooks itself ends in one of two ways as far as the hook is concerned:
nothing has happened to it, or an error has begun to unwind. -/
def Minds (r : Recorder) : EStateM.Result Failure Recorder α → Prop
  | .ok _ r' => r'.history = r.history
  | .error (.scan _) r' => r'.history.event? r.history.length = some .unwinding
  | .error (.fault _) _ => True

/-- A complaint fails, after an error has begun to unwind. -/
theorem complain_apply (setting : Setting) (c : Complaint) (r : Recorder) :
    ∃ e r', (complain setting c r : EStateM.Result Failure Recorder α) = .error e r' ∧
      r'.history.event? r.history.length = some .unwinding := by
  cases hslot : r.slot with
  | none =>
    rw [complain, unwind_of_no_slot hslot]
    exact ⟨_, _, rfl, Hook.History.event?_length⟩
  | some slot =>
    obtain ⟨registration, hook⟩ := slot
    let fired := (r.beginUnwinding c).fire registration hook
    have hfired : fired.history.event? r.history.length = some .unwinding := by
      rw [show fired.history = r.history ++ _ from List.append_assoc ..]
      exact Hook.History.event?_length
    have hlt : r.history.length < fired.history.length := by
      rw [show fired.history = r.history ++ _ from List.append_assoc .., List.length_append]
      exact Nat.lt_add_of_pos_right Nat.two_pos
    -- the hook only adds to the history
    have hgrows : fired.history <+: (Result.state (hook.record setting fired)).history :=
      prefix_of_reaches (((hook_tracks setting fired).1 hook fired .refl).state
        fun _ _ _ h => h).reaches
    rw [complain, unwind_of_slot hslot]
    cases hrun : hook.record setting fired with
    | ok _ r' | error _ r' =>
      rw [hrun] at hgrows
      obtain ⟨more, hmore⟩ := hgrows
      refine ⟨_, _, rfl, ?_⟩
      rw [show r'.history = _ from hmore.symm, Hook.History.event?_append hlt, hfired]

/-- A complaint does nothing to the hook but begin to unwind. -/
theorem minds_complain (c : Complaint) (r : Recorder) :
    Minds r (complain setting c r : EStateM.Result Failure Recorder α) := by
  obtain ⟨e, r', heq, hunwinding⟩ := complain_apply (α := α) setting c r
  rw [heq]
  cases e with
  | scan error => exact hunwinding
  | fault f => trivial

/-- So does a complaint with a column, unless it is a fault and does nothing. -/
theorem minds_complainAt (column : Int) (c : Complaint) (r : Recorder) :
    Minds r (complainAt setting column c r : EStateM.Result Failure Recorder α) := by
  rw [complainAt]
  cases r.state.line.write column with
  | ok text => exact minds_complain c r
  | error cause => trivial

/-- Work on the bench does nothing to the hook, but for a complaint that begins to unwind. -/
theorem minds_onBench (m : EStateM Abort Bench α) (r : Recorder) :
    Minds r (onBench setting m r) := by
  rw [onBench]
  cases m r.toBench with
  | ok a b => rfl
  | error e b =>
    cases e with
    | complaint c => exact minds_complain c { r with toBench := b }
    | fault f => trivial

/-- One after the other, two computations do nothing more to the hook. -/
theorem minds_bind {x : EStateM Failure Recorder α} {f : α → EStateM Failure Recorder β}
    (first : ∀ r, Minds r (x r)) (next : ∀ a r, Minds r (f a r)) (r : Recorder) :
    Minds r ((x >>= f) r) := by
  have hfirst := first r
  rw [bind_apply]
  match x r, hfirst with
  | .ok a r', hfirst =>
    have hnext := next a r'
    unfold Minds at hnext
    rwa [show r'.history = r.history from hfirst] at hnext
  | .error (.scan _) r', hfirst => exact hfirst
  | .error (.fault _) r', hfirst => trivial

/-- Expecting does nothing to the hook, but for a complaint that begins to unwind. -/
theorem minds_expect (wanted : Wanted) (what : Option String) (r : Recorder) :
    Minds r (expect setting wanted what r) := by
  refine minds_bind (minds_onBench _) (fun target => ?_) r
  refine minds_bind (minds_onBench _) fun found r => ?_
  cases found with
  | true => rfl
  | false => exact minds_complainAt _ _ r

/-- A parse that ends well starts, does what its rule does, and finishes. -/
theorem parse_ok {line : Line} {x : EStateM Failure Recorder α} {r r' : Recorder} {a : α}
    (h : parse line x r = .ok a r') :
    ∃ last, x (r.startLine .started line) = .ok a last ∧ r' = last.note .finished none := by
  simp only [parse, bind_apply, modify_apply, pure_apply] at h
  cases hx : x (r.startLine .started line) with
  | ok b last =>
    rw [hx] at h
    cases h
    exact ⟨last, rfl, rfl⟩
  | error e last =>
    rw [hx] at h
    cases h

end Recorder

open Recorder (Minds)

/-- So does each call. -/
theorem Call.minds (call : Call) (r : Recorder) : Minds r (call.record setting r) := by
  cases call with
  | accept wanted => exact Recorder.minds_onBench _ r
  | acceptAll wanted => exact Recorder.minds_onBench _ r
  | expect wanted what =>
    exact Recorder.minds_bind (Recorder.minds_expect wanted what) (fun _ _ => by rfl) r

/-- So does a message that the application raises. -/
theorem Operation.minds_error (template : String) (args : List Datum) (r : Recorder) :
    Minds r ((Operation.error template args).record setting r) := by
  rw [Operation.record]
  cases Message.compose setting.room template args with
  | ok text => exact Recorder.minds_complain _ r
  | error cause => trivial

/-- An operation that ends well does to the hook what it is there for, and nothing else. -/
theorem Operation.events_of_ok {op : Operation} {r r' : Recorder} {answer : Bool}
    (h : op.record setting r = .ok answer r') : r'.events = r.events ++ op.events := by
  have hminds : Minds r (op.record setting r) → r'.events = r.events := by
    rw [h]
    exact congrArg (List.map Moment.event)
  cases op with
  | reset line =>
    cases h
    exact Recorder.events_note ..
  | onCleanup hook =>
    cases h
    cases hook <;> exact Recorder.events_note ..
  | call made => exact (hminds (made.minds r)).trans (List.append_nil _).symm
  | error template args => exact (hminds (minds_error ..)).trans (List.append_nil _).symm

/-- An operation that fails with an error has begun to unwind it. -/
theorem Operation.unwinding_of_error {op : Operation} {r r' : Recorder} {e : ScanError}
    (h : op.record setting r = .error (.scan e) r') :
    r'.history.event? r.history.length = some .unwinding := by
  have hminds : Minds r (op.record setting r) →
      r'.history.event? r.history.length = some .unwinding := by
    rw [h]
    exact id
  cases op with
  | reset line => cases h
  | onCleanup hook => cases h
  | call made => exact hminds (made.minds r)
  | error template args => exact hminds (minds_error ..)

/-- Nothing unwinds and nothing fires in an application that ends well, if it lets failures pass. -/
theorem Application.quiet_of_ok {app : Application} (hpasses : app.Passes) {r r' : Recorder}
    {answers : List Bool} (h : app.record setting r = .ok answers r') :
    ∃ added, r'.events = r.events ++ added ∧ ∀ event ∈ added, event.quiet = true := by
  induction app generalizing r r' answers with
  | done answers =>
    cases h
    exact ⟨[], (List.append_nil _).symm, nofun⟩
  | raise failure => cases h
  | operate op next ih =>
    rw [Application.record, heeding] at h
    cases hop : op.record setting r with
    | error e first =>
      rw [hop, Result.answer, Result.state, hpasses.1] at h
      cases h
    | ok answer first =>
      rw [hop] at h
      obtain ⟨added, hadded, hquiet⟩ := ih _ _ (hpasses.2 _ _) h
      refine ⟨op.events ++ added, ?_, ?_⟩
      · rw [hadded, Result.state, Operation.events_of_ok hop, List.append_assoc]
      · intro event hevent
        obtain hevent | hevent := List.mem_append.1 hevent
        · obtain _ | (_ | _) | _ | _ := op <;> simp_all [Operation.events, Event.quiet]
        · exact hquiet event hevent
  | parse line rule next ihrule ih =>
    rw [Application.record, heeding] at h
    cases hparse : Recorder.parse line (rule.record setting) r with
    | error e first =>
      rw [hparse, Result.answer, Result.state, hpasses.2.1] at h
      cases h
    | ok results first =>
      rw [hparse] at h
      obtain ⟨last, hrule, rfl⟩ := Recorder.parse_ok hparse
      obtain ⟨middle, hmiddle, hquiet⟩ := ihrule hpasses.1 hrule
      obtain ⟨added, hadded, hquiet'⟩ := ih _ _ (hpasses.2.2 _ _) h
      -- a parse in the middle starts and finishes, and what happens in between is quiet as well
      refine ⟨.started :: middle ++ .finished :: added, ?_, ?_⟩
      · simp [hadded, hmiddle, Recorder.startLine]
        rfl
      · simp only [List.mem_append, List.mem_cons]
        rintro event ((rfl | hevent) | rfl | hevent)
        · rfl
        · exact hquiet event hevent
        · rfl
        · exact hquiet' event hevent

/-- A hook is one-shot. Whatever an application does on a scanner, whatever hooks it registers and
whatever these do when they fire, the recorder does the same as the scanner, and the history that it
writes shows that

* a registration fires at most once,
* it fires exactly when an error begins to unwind while it is in force,
* it has been withdrawn when its hook starts to run,
* an operation that ends well does nothing to the hook but what it is there for, and one that fails
  with an error has begun to unwind it,
* nothing unwinds and nothing fires in a parse that ends well, if its rule lets failures pass. -/
theorem hook_fires_once (setting : Setting) (app : Application) (s : Scanner) :
    let result := app.record setting (.start s)
    let history := (Result.state result).history
    (Result.answer result = Result.answer (app.run setting s) ∧
      (Result.state result).scanner = Result.state (app.run setting s)) ∧
    (∀ place place' registration hook hook',
      history.event? place = some (.fired registration hook) →
      history.event? place' = some (.fired registration hook') → place = place') ∧
    (∀ place registration hook, history.event? place = some (.fired registration hook) ↔
      ∃ before, place = before + 1 ∧ history.event? before = some .unwinding ∧
        history.InForce registration hook before) ∧
    (∀ moment ∈ history, ∀ registration hook,
      moment.event = .fired registration hook → moment.left = none) ∧
    (∀ (op : Operation) (r r' : Recorder),
      (∀ answer, op.record setting r = .ok answer r' → r'.events = r.events ++ op.events) ∧
      ∀ e, op.record setting r = .error (.scan e) r' →
        r'.history.event? r.history.length = some .unwinding) ∧
    ∀ (line : Line) (rule : Application) (answers : List Bool) (r r' : Recorder), rule.Passes →
      Recorder.parse line (rule.record setting) r = .ok answers r' →
      ∃ middle, r'.events = r.events ++ .started :: middle ++ [.finished] ∧
        ∀ event ∈ middle, event.quiet = true := by
  intro result history
  have hstart : (Recorder.start s).scanner = s := by
    unfold Recorder.start
    cases s with
    | mk b id hook => cases hook <;> rfl
  have htracks := app.tracks setting (.start s) (.start s) s ⟨.refl, hstart⟩
  have hbeside := htracks.state fun _ _ _ h => h
  -- all but the last two parts are read off the history of a recorder that is in order
  have hsound := Recorder.sound_of_reaches (.start s) hbeside.reaches
  refine ⟨⟨htracks.answer_eq, hbeside.scanner_eq⟩, ?_, hsound.inOrder, hsound.left_of_fired, ?_, ?_⟩
  · intro place place' registration hook hook' hfired hfired'
    exact hsound.inOrder.fires_once hfired hfired'
  · intro op r r'
    exact ⟨fun answer h => Operation.events_of_ok h, fun e h => Operation.unwinding_of_error h⟩
  · intro line rule answers r r' hpasses h
    obtain ⟨last, hrule, rfl⟩ := Recorder.parse_ok h
    obtain ⟨middle, hmiddle, hquiet⟩ := Application.quiet_of_ok hpasses hrule
    refine ⟨middle, ?_, hquiet⟩
    simp only [Recorder.events_note, hmiddle, Recorder.startLine]
    simp [Recorder.events]

/-- A hook that registers another one and raises an error, which fires the other one. -/
def Hook.nested : Hook := .register .done (.raise "again")

/-- An application that registers a hook and fails, twice. -/
def Application.nested : Application :=
  .operate (.onCleanup (some .nested)) fun _ _ => .operate (.error "bad" []) fun _ _ =>
    .operate (.error "bad" []) fun _ _ => .done []

/-- A hook that fires, and fires another one, does not fire a second time. -/
theorem hook_fires_once_nested :
    let r := Result.state (Application.nested.record { registry := {} } (.start {}))
    r.events = [.registered .nested, .unwinding, .fired 0 .nested, .registered .done, .unwinding,
      .fired 3 .done, .unwinding] ∧
    ∀ place hook, r.history.event? place = some (.fired 0 hook) → place = 2 := by
  have hevents : (Result.state (Application.nested.record { registry := {} } (.start {}))).events =
      [.registered .nested, .unwinding, .fired 0 .nested, .registered .done, .unwinding,
        .fired 3 .done, .unwinding] := by
    have hcompose : Message.compose .largest "bad" [] = .ok "bad" := rfl
    simp [Application.nested, Application.record, heeding, Operation.record, hcompose,
      Recorder.complain, Recorder.unwind, Hook.record, Hook.nested, Recorder.start,
      Recorder.onCleanup, Recorder.register, Recorder.fire, Recorder.beginUnwinding,
      Recorder.note, Recorder.events]
  refine ⟨hevents, fun place hook hfired => ?_⟩
  have hplace : ∀ r : Recorder, r.history.event? 2 = r.events[2]? := fun r =>
    List.getElem?_map.symm
  refine (hook_fires_once { registry := {} } .nested {}).2.1 place 2 0 hook .nested hfired ?_
  rw [hplace, hevents]
  rfl

end LineScan
