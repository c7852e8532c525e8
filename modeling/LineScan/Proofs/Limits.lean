import LineScan.Proofs.Excused
import LineScan.Proofs.Pointing

/-!
# Higher limits

A calculator has a limit on the integers that may be written and one on the depth of an expression.
With higher limits a line is evaluated in the same way, until the lower ones are met: the two
calculators go in lockstep up to a failure for one of the lower limits.

An integer is read digit by digit against the quotient and the remainder of its limit by ten.
Neither of the two grows with the limit, but what they come to in each step does (`exceeds_iff`):
whether one more digit makes the integer too large.

## Main statements

* `boundedValue_mono`: digits that are within a limit are within every higher one.
* `excused_primary`: a primary is read alike when it may be deeper.
* `evaluate_of_higher_limits`: raising a limit changes no answer.
-/

namespace LineScan

open Calculator Grammar

/-! ## Integers -/

/-- Digits that are within a limit are within every higher one, and have the same value. -/
theorem boundedValue_mono {bound bound' : Int} (h : bound ≤ bound') {digits : Line}
    (hdigits : ∀ c ∈ digits, Text.isDigit c = true) {value pos n : Int}
    (hvalue : boundedValue (bound.fdiv 10) (bound.fmod 10) digits value pos = .ok n) :
    boundedValue (bound'.fdiv 10) (bound'.fmod 10) digits value pos = .ok n := by
  induction digits generalizing value pos with
  | nil => exact hvalue
  | cons c digits ih =>
    have hd := digitValue_le (hdigits c (List.mem_cons_self ..))
    have hstep := exceeds_iff bound value hd
    have hstep' := exceeds_iff bound' value hd
    rw [boundedValue] at hvalue ⊢
    by_cases hover : bound < 10 * value + Text.digitValue c
    · rw [if_pos (hstep.mpr hover)] at hvalue
      cases hvalue
    · have hover' : ¬ bound' < 10 * value + Text.digitValue c := by omega
      rw [if_neg (mt hstep.mp hover)] at hvalue
      rw [if_neg (mt hstep'.mp hover')]
      exact ih (fun d hd => hdigits d (List.mem_cons_of_mem c hd)) hvalue

/-- Every character of a run has the property that the run is one of. -/
theorem of_mem_runAt {line : Line} {p : Char → Bool} {pos : Int} {c : Char}
    (h : c ∈ line.runAt p pos) : p c = true := by
  unfold Line.runAt at h
  split at h
  · cases h
  · exact List.all_eq_true.mp List.all_takeWhile c h

/-- An integer is scanned in the same way with a higher limit, unless it is too large for the lower
one. -/
theorem scanInt_of_le {bound bound' : Int} (h : bound ≤ bound') (pos : Int) (state : ScanState) :
    scanInt bound' pos state = scanInt bound pos state ∨
      ∃ after, scanInt bound pos state = .error (.complaint .overflow) after := by
  have hdigits : ∀ c ∈ state.line.runAt Text.isDigit pos, Text.isDigit c = true :=
    fun c hc => of_mem_runAt hc
  simp only [scanInt, bind_apply, get_apply]
  generalize state.line.runAt Text.isDigit pos = digits at hdigits
  cases digits with
  | nil => exact .inl rfl
  | cons c digits =>
    simp only
    cases hvalue : boundedValue (bound.fdiv 10) (bound.fmod 10) (c :: digits) 0 pos with
    | ok n =>
      rw [boundedValue_mono h hdigits hvalue]
      exact .inl rfl
    | error place => exact .inr ⟨_, rfl⟩

/-- With a higher limit an integer is matched in the same way, unless it exceeds the lower one. -/
theorem dispatch_int_of_le {bound bound' : Int} (h : bound ≤ bound') (state : ScanState) :
    Scan.dispatch (.terminal (intTerminal bound')) state =
        Scan.dispatch (.terminal (intTerminal bound)) state ∨
      ∃ after, Scan.dispatch (.terminal (intTerminal bound)) state =
        .error (.complaint .overflow) after := by
  simp only [Scan.dispatch, Scan.terminal, bind_apply, get_apply, modify_apply]
  cases Scan.skipBlanks state.cursor state with
  | error e after => exact .inl rfl
  | ok pos after =>
    -- past the blanks it is the function of the terminal that decides
    simp only [intTerminal]
    rcases scanInt_of_le h pos { after with
      matchStart := pos, failPosition := none, pendingDetail := none, matchLength := 0 } with
      heq | ⟨failed, hfailed⟩
    · rw [heq]
      exact .inl rfl
    · rw [hfailed]
      exact .inr ⟨failed, rfl⟩

/-! ## Rules -/

/-- The failure is one for a limit. -/
def Failure.IsForLimit : Failure → Prop
  | .scan e => e.complaint = .overflow ∨ e.complaint = .tooDeep
  | .fault _ => False

/-- Failures for a limit are not compared; the numbers of draws are the same. -/
def lowerLimits : Leeway where
  draws m n := m = n
  gone _ := False
  spared := Failure.IsForLimit

variable {k : Calculator} {id : Nat}

/-- It is enough to compare scanners side by side that have no excuse yet. -/
theorem Excused.of_step {α : Type} {x y : Rule α}
    (step : ∀ s t, s.Beside id (fun m n => m = n) t → lowerLimits.Excuses (x s) ∨
      InStep (fun _ => Scanner.Beside id fun m n => m = n)
        (fun _ => Scanner.Beside id fun m n => m = n) (x s) (y t)) :
    Excused lowerLimits id x y where
  keeps _ h := h.gone.elim
  step := step

/-- Trying an integer is in lockstep up to the lower limit. -/
theorem excused_int {bound' : Int} (h : k.maxInt ≤ bound') {setting' : Setting}
    (htracing : setting'.tracing = k.setting.tracing) :
    Excused lowerLimits id (Rule.acceptTarget k.setting (.terminal (intTerminal k.maxInt)))
      (Rule.acceptTarget setting' (.terminal (intTerminal bound'))) := by
  refine .of_step fun s t hs => ?_
  rcases dispatch_int_of_le h s.state with heq | ⟨after, hfailed⟩
  · exact .inr (hs.accept htracing heq.symm fun _ _ => rfl)
  · by_cases hcursor : k.setting.Writes s.state.line s.state.cursor
    · rw [Rule.acceptTarget, Rule.onBench_apply hs.same.hook_left,
        Bench.attempt_of_error hcursor hfailed]
      exact .inl (.spared (.inl rfl))
    · -- neither of the two attempts gets as far as its matcher
      have hcursor' : ¬ setting'.Writes t.state.line t.state.cursor := by
        rwa [Setting.writes_congr htracing, ← hs.same.state_eq]
      rw [Rule.acceptTarget, Rule.acceptTarget, Rule.onBench_apply hs.same.hook_left,
        Rule.onBench_apply hs.same.hook_right, Bench.attempt_eq, Bench.attempt_eq, if_neg hcursor,
        if_neg hcursor']
      exact .inr (.error hs)

/-- From the same number of draws on, a function gives the same. -/
theorem excused_apply (source : RandomSource) (function : Builtin) (args : List Int) :
    Excused lowerLimits id (function.apply source args) (function.apply source args) := by
  have kept : KeptByDraws (Scanner.Beside id fun m n => m = n) := by
    refine ⟨fun h => h.draws, fun n h => ⟨?_, rfl⟩, fun h => ⟨?_, h.draws⟩⟩
    · exact ⟨h.same.state_eq, h.same.id_left, h.same.id_right, h.same.hook_left, h.same.hook_right⟩
    · exact ⟨h.same.state_eq, h.same.id_left, h.same.id_right, h.same.hook_left, h.same.hook_right⟩
  exact .of_step fun s t hs => .inr (kept.lockstep_apply source function args s t hs)

section

variable {k' : Calculator} (abreast : Abreast k k' (Excused lowerLimits id))

include abreast

/-- A primary is read alike when it may be deeper, unless it is too deep for the lower limit. -/
theorem excused_primary {depth depth' : Nat} (h : depth ≤ depth') :
    Excused lowerLimits id (k.primary depth) (k'.primary depth') := by
  induction depth generalizing depth' with
  | zero =>
    refine .of_step fun s t hs => .inl ?_
    rw [Calculator.primary, Calculator.complain, Rule.complain_of_no_hook _ hs.same.hook_left]
    exact .spared (.inr rfl)
  | succ depth ih =>
    obtain ⟨depth', rfl⟩ : ∃ d, depth' = d + 1 := ⟨depth' - 1, by omega⟩
    exact abreast.primaryWith (ih (by omega))

end

/-- Whole expressions go in lockstep with higher limits, up to a failure for a lower one. -/
theorem excused_expr {maxInt' maxDepth' : Int} (hint : k.maxInt ≤ maxInt')
    (hdepth : k.maxDepth ≤ maxDepth') (id : Nat) :
    Excused lowerLimits id k.expr
      { k with maxInt := maxInt', maxDepth := maxDepth' : Calculator }.expr := by
  have helements : Elements k { k with maxInt := maxInt', maxDepth := maxDepth' }
      (Excused lowerLimits id) :=
    Excused.elements rfl rfl rfl (excused_int hint rfl) (excused_apply k.source)
  exact helements.abreast.expr (excused_primary helements.abreast (by simp only; omega))

/-! ## Lines -/

/-- Raising a limit never changes an answer. With higher limits a line evaluates to the same number,
and an error that is not for one of the limits is raised in the same words at the same column of the
same line. -/
theorem evaluate_of_higher_limits {maxInt' maxDepth' : Int} (hint : k.maxInt ≤ maxInt')
    (hdepth : k.maxDepth ≤ maxDepth') (line : Line) {s t : Scanner} (hid : t.id = s.id)
    (hdraws : t.journal.draws = s.journal.draws) :
    (∀ n, Result.answer (k.evaluate line s) = .ok n →
      Result.answer ({ k with maxInt := maxInt', maxDepth := maxDepth' : Calculator }.evaluate
        line t) = .ok n) ∧
    ∀ e, Result.scanError? (k.evaluate line s) = some e → e.message ≠ "integer overflow" →
      e.message ≠ "expression too deeply nested" →
      Result.scanError? ({ k with maxInt := maxInt', maxDepth := maxDepth' : Calculator }.evaluate
        line t) = some e := by
  have hline := (excused_expr hint hdepth s.id).evaluate line rfl hid hdraws.symm
  generalize k.evaluate line s = r,
    { k with maxInt := maxInt', maxDepth := maxDepth' : Calculator }.evaluate line t = r' at hline
  rcases hline with hexcused | hstep
  · cases hexcused with
    | drawn h => exact h.gone.elim
    | @spared failure _ hspared =>
      refine ⟨nofun, fun e he hoverflow hdeep => ?_⟩
      cases failure with
      | fault f => exact hspared.elim
      | scan error =>
        cases he
        -- the message of a limit's error is the complaint's own
        rcases hspared with hc | hc
        · exact absurd (congrArg Complaint.message hc) hoverflow
        · exact absurd (congrArg Complaint.message hc) hdeep
  · refine ⟨fun n hn => ?_, fun e he _ _ => ?_⟩
    · rwa [← hstep.answer_eq]
    · rwa [← hstep.scanError?_eq]

/-- A nested division by zero, at the lowest limits that allow it. -/
theorem evaluate_of_higher_limits_zero :
    Result.scanError? (({ maxInt := 19, maxDepth := 3 } : Calculator).evaluate
        "7 - (12 ÷ (19-19))".toList {}) =
      some ⟨.divisionByZero, 17, "7 - (12 ÷ (19-19))".toList, some 0⟩ ∧
    Result.scanError? (({ maxInt := 20, maxDepth := 100 } : Calculator).evaluate
        "7 - (12 ÷ (19-19))".toList {}) =
      some ⟨.divisionByZero, 17, "7 - (12 ÷ (19-19))".toList, some 0⟩ := by
  have herror : Result.scanError? (({ maxInt := 19, maxDepth := 3 } : Calculator).evaluate
      "7 - (12 ÷ (19-19))".toList {}) =
      some ⟨.divisionByZero, 17, "7 - (12 ÷ (19-19))".toList, some 0⟩ := by decide +kernel
  have hint : ({ maxInt := 19, maxDepth := 3 } : Calculator).maxInt ≤ 20 := by decide
  have hdepth : ({ maxInt := 19, maxDepth := 3 } : Calculator).maxDepth ≤ 100 := by decide
  have hhigher := evaluate_of_higher_limits hint hdepth "7 - (12 ÷ (19-19))".toList
    (s := {}) (t := {}) rfl rfl
  exact ⟨herror, hhigher.2 _ herror (by decide) (by decide)⟩

end LineScan
