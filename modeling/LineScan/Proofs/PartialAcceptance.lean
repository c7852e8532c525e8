import LineScan.Proofs.Literals
import LineScan.Proofs.Pointing
import LineScan.Proofs.Tracing

/-!
# Looking for several targets that ends with a failure

Looking for several targets goes back to where it started when one of them is missed. It does not
when one of them fails: a bare value that is no target, or a terminal that gives up. What is left
behind then is what the attempt at that target leaves behind, after those at the targets before it.
So if any of these has moved the scanner, it stays where they have moved it.

## Main statements

* `onBench_acceptEach_eq_error_iff`: how looking for several targets fails.
* `Takes.passes`, `alike_of_accept_error`: what targets that are found move, and that a target that
  fails moves nothing.
* `acceptAll_fails_midway`: what is left behind, and when it is what there was before.
-/

namespace LineScan

/-- The targets are found one after the other. -/
inductive Takes (setting : Setting) : List Wanted → Scanner → Scanner → Prop where
  | nil (s : Scanner) : Takes setting [] s s
  | cons {wanted : Wanted} {rest : List Wanted} {s t u : Scanner}
      (found : Rule.accept setting wanted s = .ok true t) (others : Takes setting rest t u) :
      Takes setting (wanted :: rest) s u

/-- Cursor, value and matched text are what they were before. -/
structure ScanState.Restored (before after : ScanState) : Prop where
  cursor_eq : after.cursor = before.cursor
  value_eq : after.value = before.value
  matched_eq : after.matched = before.matched

/-! ## How it fails -/

/-- Looking for several targets is looking for the first one, and then for the others if it is
found. -/
theorem onBench_acceptEach_cons (setting : Setting) (saved : ScanState) (wanted : Wanted)
    (rest : List Wanted) (s : Scanner) :
    Rule.onBench setting (Bench.acceptEach setting saved (wanted :: rest)) s =
      match Rule.accept setting wanted s with
      | .ok true t => Rule.onBench setting (Bench.acceptEach setting saved rest) t
      | .ok false t => .ok false { t with state := t.state.rewind saved }
      | .error failure t => .error failure t := by
  rw [Rule.accept, Rule.onBench, Rule.onBench, Bench.acceptEach, bind_apply]
  obtain ⟨_ | _, b⟩ | ⟨c | f, b⟩ := Bench.accept setting wanted s.toBench
  · rfl
  · rfl
  · -- a complaint never leads to an answer
    simp only [Rule.complain]
    cases Scanner.unwind setting c { s with toBench := b } <;> rfl
  · rfl

/-- Looking for several targets fails just when one of them does, after those before it have been
found; and then it has come to nothing else than the attempt at that target. -/
theorem onBench_acceptEach_eq_error_iff {setting : Setting} {saved : ScanState}
    {wanted : List Wanted} {s s' : Scanner} {failure : Failure} :
    Rule.onBench setting (Bench.acceptEach setting saved wanted) s = .error failure s' ↔
      ∃ hits failing rest t, wanted = hits ++ failing :: rest ∧ Takes setting hits s t ∧
        Rule.accept setting failing t = .error failure s' := by
  constructor
  · intro h
    induction wanted generalizing s with
    | nil => cases h
    | cons first others ih =>
      rw [onBench_acceptEach_cons] at h
      split at h
      · next t hfirst =>
        obtain ⟨hits, failing, rest, u, rfl, htakes, hfailing⟩ := ih h
        exact ⟨first :: hits, failing, rest, u, rfl, .cons hfirst htakes, hfailing⟩
      · cases h
      · next failure' t hfirst => exact ⟨[], first, others, s, rfl, .nil s, hfirst.trans h⟩
  · rintro ⟨hits, failing, rest, t, rfl, htakes, hfailing⟩
    induction htakes with
    | nil s => rw [List.nil_append, onBench_acceptEach_cons, hfailing]
    | cons found others ih =>
      rw [List.cons_append, onBench_acceptEach_cons, found]
      exact ih hfailing

/-! ## What is moved -/

/-- Some text of the line has been passed, and the matched text is in it. -/
structure ScanState.Passes (before after : ScanState) : Prop where
  line_eq : after.line = before.line
  le_length : after.cursor ≤ after.line.length
  matched_le : after.matched.length ≤ after.cursor - before.cursor

/-- The cursor does not go back over text that has been passed. -/
theorem ScanState.Passes.le {before after : ScanState} (h : before.Passes after) :
    before.cursor ≤ after.cursor := by
  have hmatched := h.matched_le
  omega

/-- Text passed and more text passed make one text that is passed. -/
theorem ScanState.Passes.trans {first second third : ScanState} (h : first.Passes second)
    (h' : second.Passes third) : first.Passes third where
  line_eq := h'.line_eq.trans h.line_eq
  le_length := h'.le_length
  matched_le := by
    have hfirst := h.le
    have hsecond := h'.matched_le
    omega

/-- A match passes the gap before what is found, and what is found. -/
theorem ScanState.Passes.of_hit {line text gap found rest : Line} {value : Datum}
    {before after : ScanState} (target : Target) (hline : before.line = line)
    (hcursor : before.cursor = line.place text) (hsuffix : text <:+ line)
    (split : text = gap ++ (found ++ rest)) (start : after.matchStart = line.place (found ++ rest))
    (keeps : before.Keeps line after) :
    before.Passes (after.settle target (.hit (line.place rest) value)) where
  line_eq := keeps.line_eq
  le_length := by
    have hafter : after.line = line := keeps.line_eq.trans hline
    simp only [ScanState.settle, hafter]
    exact Line.place_le line rest
  matched_le := by
    have hfound : found ++ rest <:+ line := (split ▸ List.suffix_append gap _).trans hsuffix
    rw [after.matched_settle_hit target (keeps.line_eq.trans hline) hfound start, hcursor, split]
    simp only [ScanState.settle, Line.place, List.length_append]
    omega

/-- What an attempt moves: some text is passed if the target is found, and nothing is moved if the
attempt fails. -/
theorem Bench.accept_moves {setting : Setting} {b : Bench} (hfrom : 0 ≤ b.state.cursor)
    (hto : b.state.cursor ≤ b.state.line.length) (wanted : Wanted)
    (keepsTo : ∀ t, wanted.coerce setting.registry = .ok (.terminal t) → t.KeepsTo b.state.line) :
    match accept setting wanted b with
    | .ok found b' => found = true → b.state.Passes b'.state
    | .error _ b' => b'.state.Alike b.state := by
  cases hcoerce : wanted.coerce setting.registry with
  | error f =>
    rw [accept_of_fault setting hcoerce]
    exact ⟨rfl, rfl, rfl, rfl, rfl⟩
  | ok target =>
    have hs := Scanner.stands_rest { toBench := b } hfrom hto
    have hattempted : Attempted b.state.line b.state.rest target b.state
        (Scan.dispatch target b.state) :=
      attempted_dispatch hs fun t ht => keepsTo t (ht ▸ hcoerce)
    obtain ⟨journal, hattempt⟩ := hattempted.attempt_eq setting hs
    rw [accept_of_coerce setting hcoerce, hattempt]
    generalize Scan.dispatch target b.state = result at hattempted
    cases hattempted with
    | hit gap found rest split blank taken start keeps =>
      exact fun _ => .of_hit target rfl hs.cursor_eq hs.suffix split start keeps
    | miss nonneg le keeps => exact nofun
    | gaveUp keeps => exact keeps.toAlike

section

variable {setting : Setting} {wanted : Wanted} {s t : Scanner} (hfrom : 0 ≤ s.state.cursor)
  (hto : s.state.cursor ≤ s.state.line.length)
  (keepsTo : ∀ t, wanted.coerce setting.registry = .ok (.terminal t) → t.KeepsTo s.state.line)

/-- What work on the bench answers, it answers whatever hook there is, and the hook stays. -/
theorem Rule.exists_of_onBench_eq_ok {α : Type} {m : EStateM Abort Bench α} {a : α}
    (h : onBench setting m s = .ok a t) :
    ∃ b, m s.toBench = .ok a b ∧ t = { s with toBench := b } := by
  unfold onBench at h
  split at h
  · next a' b hm =>
    obtain ⟨rfl, rfl⟩ := EStateM.Result.ok.inj h
    exact ⟨b, hm, rfl⟩
  · next c b hm =>
    rw [complain] at h
    split at h <;> cases h
  · cases h

include hfrom hto keepsTo

/-- A target that is found is passed, and the hook stays. -/
theorem passes_of_accept (h : Rule.accept setting wanted s = .ok true t) :
    s.state.Passes t.state ∧ t.hook = s.hook := by
  obtain ⟨b, hb, rfl⟩ := Rule.exists_of_onBench_eq_ok h
  have hmoves := Bench.accept_moves (b := s.toBench) hfrom hto wanted keepsTo
  rw [hb] at hmoves
  exact ⟨hmoves rfl, rfl⟩

/-- A target that fails moves nothing, if there is no hook. -/
theorem alike_of_accept_error {failure : Failure} (hook : s.hook = none)
    (h : Rule.accept setting wanted s = .error failure t) : t.state.Alike s.state := by
  have hmoves := Bench.accept_moves (b := s.toBench) hfrom hto wanted keepsTo
  rw [Rule.accept, Rule.onBench_apply hook] at h
  generalize Bench.accept setting wanted s.toBench = result at h hmoves
  obtain ⟨found, b⟩ | ⟨c | f, b⟩ := result
  · cases h
  · -- the wording of a complaint is remembered, which moves nothing either
    cases h
    exact ⟨hmoves.line_eq, hmoves.cursor_eq, hmoves.value_eq, hmoves.lastStart_eq,
      hmoves.lastLength_eq⟩
  · cases h
    exact hmoves

end

/-- Targets that are found one after the other are passed. -/
theorem Takes.passes {setting : Setting} {hits : List Wanted} {s t : Scanner}
    (h : Takes setting hits s t) (hfrom : 0 ≤ s.state.cursor)
    (hto : s.state.cursor ≤ s.state.line.length)
    (keepsTo : ∀ wanted ∈ hits, ∀ t, wanted.coerce setting.registry = .ok (.terminal t) →
      t.KeepsTo s.state.line) :
    (hits ≠ [] → s.state.Passes t.state) ∧ t.hook = s.hook := by
  induction h with
  | nil s => exact ⟨absurd rfl, rfl⟩
  | @cons wanted rest s t u found others ih =>
    obtain ⟨hwanted, hrest⟩ := List.forall_mem_cons.mp keepsTo
    obtain ⟨hpasses, hhook⟩ := passes_of_accept hfrom hto hwanted found
    obtain ⟨hmore, hhook'⟩ := ih (Int.le_trans hfrom hpasses.le) hpasses.le_length
      (hpasses.line_eq ▸ hrest)
    refine ⟨fun _ => ?_, hhook'.trans hhook⟩
    by_cases hlast : rest = []
    · subst hlast
      cases others
      exact hpasses
    · exact hpasses.trans (hmore hlast)

/-- However many have been found, the scanner is still on its line. -/
theorem Takes.on_line {setting : Setting} {hits : List Wanted} {s t : Scanner}
    (h : Takes setting hits s t) (hpasses : hits ≠ [] → s.state.Passes t.state)
    (hfrom : 0 ≤ s.state.cursor) (hto : s.state.cursor ≤ s.state.line.length) :
    t.state.line = s.state.line ∧ 0 ≤ t.state.cursor ∧
      t.state.cursor ≤ t.state.line.length := by
  by_cases hnone : hits = []
  · subst hnone
    cases h
    exact ⟨rfl, hfrom, hto⟩
  · have hpassed := hpasses hnone
    exact ⟨hpassed.line_eq, Int.le_trans hfrom hpassed.le, hpassed.le_length⟩

/-! ## What is left behind -/

/-- If targets have been found since, everything is as before only if none of them has taken any
text, nor a value, and if there was no matched text. -/
theorem Takes.restored_iff {setting : Setting} {hits : List Wanted} {s t : Scanner}
    (h : Takes setting hits s t) (hpasses : hits ≠ [] → s.state.Passes t.state) :
    s.state.Restored t.state ↔ hits = [] ∨
      (t.state.cursor = s.state.cursor ∧ t.state.value = s.state.value ∧ s.state.matched = []) := by
  by_cases hnone : hits = []
  · subst hnone
    cases h
    exact ⟨fun _ => .inl rfl, fun _ => ⟨rfl, rfl, rfl⟩⟩
  · have hmatched (hcursor : t.state.cursor = s.state.cursor) : t.state.matched = [] := by
      have hle := (hpasses hnone).matched_le
      exact List.length_eq_zero_iff.mp (by omega)
    rw [or_iff_right hnone]
    constructor
    · rintro ⟨hcursor, hvalue, hsame⟩
      exact ⟨hcursor, hvalue, hsame ▸ hmatched hcursor⟩
    · rintro ⟨hcursor, hvalue, hempty⟩
      exact ⟨hcursor, hvalue, (hmatched hcursor).trans hempty.symm⟩

/-- Alike states are restored together. -/
theorem ScanState.Alike.restored_iff {before state after : ScanState} (h : after.Alike state) :
    before.Restored after ↔ before.Restored state := by
  have hmatched : after.matched = state.matched := by
    rw [matched, matched, h.line_eq, h.lastStart_eq, h.lastLength_eq]
  constructor
  · rintro ⟨hcursor, hvalue, hsame⟩
    exact ⟨h.cursor_eq.symm.trans hcursor, h.value_eq.symm.trans hvalue, hmatched.symm.trans hsame⟩
  · rintro ⟨hcursor, hvalue, hsame⟩
    exact ⟨h.cursor_eq.trans hcursor, h.value_eq.trans hvalue, hmatched.trans hsame⟩

/-- If looking for several targets fails, one of them has failed, after those before it have been
found, and what it has left behind is left behind: just what these have, if it is no target at all.
On a line to which the terminals keep, and if no hook is fired, cursor, value and matched text are
what they were before just if there were no targets before it, or if these took neither text nor a
value and there was no matched text before. -/
theorem acceptAll_fails_midway {setting : Setting} {wanted : List Wanted} {s s' : Scanner}
    {failure : Failure} (h : Rule.acceptAll setting wanted s = .error failure s') :
    ∃ hits failing rest t, wanted = hits ++ failing :: rest ∧ Takes setting hits s t ∧
      Rule.accept setting failing t = .error failure s' ∧
      (∀ f, failing.coerce setting.registry = .error f → failure = .fault f ∧ s' = t) ∧
      (0 ≤ s.state.cursor → s.state.cursor ≤ s.state.line.length →
        (∀ u, (Call.acceptAll wanted).Seeks setting u → u.KeepsTo s.state.line) →
        (s.hook = none ∨ ∃ f, failing.coerce setting.registry = .error f) →
        (s.state.Restored s'.state ↔ hits = [] ∨
          (t.state.cursor = s.state.cursor ∧ t.state.value = s.state.value ∧
            s.state.matched = []))) := by
  obtain ⟨hits, failing, rest, t, rfl, htakes, hfailing⟩ := onBench_acceptEach_eq_error_iff.mp h
  have hcoercion : ∀ f, failing.coerce setting.registry = .error f →
      failure = .fault f ∧ s' = t := by
    intro f hcoerce
    rw [Rule.accept, Rule.onBench, Bench.accept_of_fault setting hcoerce] at hfailing
    obtain ⟨rfl, rfl⟩ := EStateM.Result.error.inj hfailing
    exact ⟨rfl, rfl⟩
  refine ⟨hits, failing, rest, t, rfl, htakes, hfailing, hcoercion, ?_⟩
  intro hfrom hto keepsTo hhook
  have hkeeps : ∀ wanted ∈ hits ++ failing :: rest, ∀ u,
      wanted.coerce setting.registry = .ok (.terminal u) → u.KeepsTo s.state.line :=
    fun wanted hwanted u hu => keepsTo u ⟨wanted, hwanted, hu⟩
  obtain ⟨hpasses, hsame⟩ := htakes.passes hfrom hto fun wanted hwanted =>
    hkeeps wanted (List.mem_append_left _ hwanted)
  -- the target that fails moves nothing, so what is left is what the targets before it have moved
  have halike : s'.state.Alike t.state := by
    obtain hnone | ⟨f, hcoerce⟩ := hhook
    · obtain ⟨hline, hfrom', hto'⟩ := htakes.on_line hpasses hfrom hto
      exact alike_of_accept_error hfrom' hto'
        (fun u hu => hline ▸ hkeeps failing (List.mem_append_right _ (List.mem_cons_self ..)) u hu)
        (hsame.trans hnone) hfailing
    · obtain ⟨-, rfl⟩ := hcoercion f hcoerce
      exact ⟨rfl, rfl, rfl, rfl, rfl⟩
  rw [halike.restored_iff]
  exact htakes.restored_iff hpasses

/-- A name and then a number that is too large: the scanner stays behind the name. -/
theorem acceptAll_fails_midway_overflow :
    let k : Calculator := { maxInt := 9 }
    let s : Scanner := { state := .start ['x', ' ', '1', '2'] }
    let wanted : List Wanted := [.bare (.int 0), .bare (.int 1)]
    ∃ failure s', Rule.acceptAll k.setting wanted s = .error failure s' ∧ s'.state.cursor = 1 ∧
      ¬ s.state.Restored s'.state ∧ ∃ hits t, Takes k.setting hits s t ∧ hits ≠ [] := by
  intro k s wanted
  have herror : Result.scanError? (Rule.acceptAll k.setting wanted s) =
      some ⟨.overflow, 4, ['x', ' ', '1', '2'], some 0⟩ := by decide +kernel
  have hcursor : (Result.state (Rule.acceptAll k.setting wanted s)).state.cursor = 1 := by
    decide +kernel
  obtain ⟨s', h⟩ := Result.eq_error_of_scanError? herror
  rw [h] at hcursor
  have hkeeps : ∀ u, (Call.acceptAll wanted).Seeks k.setting u → u.KeepsTo s.state.line := by
    rintro u ⟨w, hw, hcoerce⟩
    obtain rfl | rfl : w = .bare (.int 0) ∨ w = .bare (.int 1) := by
      simpa [Call.wanted, wanted] using hw
    · obtain rfl : Calculator.identTerminal = u := Target.terminal.inj (Except.ok.inj hcoerce)
      exact Calculator.identTerminal_keepsTo _
    · obtain rfl : Calculator.intTerminal 9 = u := Target.terminal.inj (Except.ok.inj hcoerce)
      exact Calculator.intTerminal_keepsTo _ _
  obtain ⟨hits, failing, rest, t, -, htakes, -, -, hrestored⟩ := acceptAll_fails_midway h
  have hiff := hrestored (by decide) (by decide) hkeeps (.inl rfl)
  have hmoved : ¬ s.state.Restored s'.state := fun hsame =>
    absurd (hcursor.symm.trans hsame.cursor_eq) (by decide)
  exact ⟨_, s', h, hcursor, hmoved, hits, t, htakes, fun hnone => hmoved (hiff.mpr (.inl hnone))⟩

/-- A character is found, and then there is no terminal with the number that is wanted: the scanner
stays behind the character. -/
theorem acceptAll_fails_behind_character :
    let setting : Setting := { registry := Calculator.registry 9 }
    let s : Scanner := { state := .start ['a', 'b'] }
    ∃ s', Rule.acceptAll setting [.target (.char 'a'), .bare (.int 99)] s =
        .error (.fault .outsideList) s' ∧
      s.state.cursor = 0 ∧ s'.state.cursor = 1 ∧
      s.state.matched = [] ∧ s'.state.matched = ['a'] :=
  ⟨_, rfl, rfl, rfl, rfl, rfl⟩

end LineScan
