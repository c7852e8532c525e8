import LineScan.Proofs.Calls
import LineScan.Proofs.Terminals

/-!
# Integers against their bound

An integer is read digit by digit, and before a digit is taken it is compared with the quotient and
the remainder of the bound by ten. That this comes to comparing the value itself with the bound is
said by `exceeds_iff`, whatever the sign of the bound. So the first digit that is refused is the
first one at which the value of what has been read would exceed the bound, and no larger value is
ever worked out.

## Main statements

* `boundedTally_result`, `le_of_mem_boundedTally`: the values that are worked out on the way, and
  that the bound is none of theirs to exceed.
* `exceedsFrom_of_error`: a refused digit is the first one that makes the value exceed the bound.
* `scanInt_exact`: what scanning an integer comes to at every place of a line.
-/

namespace LineScan.Calculator

open Grammar

variable {bound : Int} {digits rest : Line}

/-! ## The values on the way -/

/-- Read digits as `boundedValue` does, and note each value that is worked out. -/
def boundedTally (cutoff limit : Int) : List Char → Int → Int → List Int × Except Int Int
  | [], value, _ => ([], .ok value)
  | c :: rest, value, pos =>
    let d : Int := Text.digitValue c
    if cutoff < value || (value == cutoff && limit < d) then ([], .error pos)
    else
      let tally := boundedTally cutoff limit rest (10 * value + d) (pos + 1)
      ((10 * value + d) :: tally.1, tally.2)

/-- Noting the values does not change what comes out. -/
theorem boundedTally_result (cutoff limit : Int) (digits : Line) (value pos : Int) :
    (boundedTally cutoff limit digits value pos).2 =
      boundedValue cutoff limit digits value pos := by
  induction digits generalizing value pos with
  | nil => rfl
  | cons c digits ih =>
    simp only [boundedTally, boundedValue]
    split
    · rfl
    · exact ih _ _

/-- No value that is worked out exceeds the bound. -/
theorem le_of_mem_boundedTally (hdigits : ∀ c ∈ digits, Text.isDigit c = true) {value pos v : Int}
    (h : v ∈ (boundedTally (bound.fdiv 10) (bound.fmod 10) digits value pos).1) : v ≤ bound := by
  induction digits generalizing value pos with
  | nil => cases h
  | cons c digits ih =>
    have hstep := exceeds_iff bound value (digitValue_le (hdigits c (List.mem_cons_self ..)))
    simp only [boundedTally] at h
    by_cases hover : bound < 10 * value + Text.digitValue c
    · rw [if_pos (hstep.mpr hover)] at h
      cases h
    · rw [if_neg (mt hstep.mp hover)] at h
      rcases List.mem_cons.mp h with rfl | h
      · omega
      · exact ih (fun d hd => hdigits d (List.mem_cons_of_mem c hd)) h

/-! ## The digit that is refused -/

/-- The value of the digits, on top of one read before, exceeds the bound from the digit at place
`i` on, and not before. -/
structure ExceedsFrom (bound : Int) (value : Nat) (digits : Line) (i : Nat) : Prop where
  isDigit : i < digits.length
  exceeds : bound <
    ((digits.take (i + 1)).foldl (fun n c => 10 * n + Text.digitValue c) value : Nat)
  within : ∀ j < i,
    ((digits.take (j + 1)).foldl (fun n c => 10 * n + Text.digitValue c) value : Nat) ≤ bound

/-- A refused digit is the first one at which the value exceeds the bound. -/
theorem exceedsFrom_of_error (hdigits : ∀ c ∈ digits, Text.isDigit c = true) (value : Nat)
    {pos place : Int}
    (h : boundedValue (bound.fdiv 10) (bound.fmod 10) digits value pos = .error place) :
    ∃ i : Nat, place = pos + i ∧ ExceedsFrom bound value digits i := by
  induction digits generalizing value pos with
  | nil => cases h
  | cons c digits ih =>
    have hstep := exceeds_iff bound value (digitValue_le (hdigits c (List.mem_cons_self ..)))
    rw [boundedValue] at h
    by_cases hover : bound < 10 * (value : Int) + Text.digitValue c
    · rw [if_pos (hstep.mpr hover)] at h
      cases h
      refine ⟨0, (Int.add_zero _).symm, Nat.succ_pos _, ?_, fun j hj => absurd hj j.not_lt_zero⟩
      simpa using hover
    · rw [if_neg (mt hstep.mp hover)] at h
      obtain ⟨i, rfl, hi⟩ := ih (fun d hd => hdigits d (List.mem_cons_of_mem c hd))
        (10 * value + Text.digitValue c) (by exact_mod_cast h)
      refine ⟨i + 1, by omega, Nat.succ_lt_succ hi.isDigit, hi.exceeds, fun j hj => ?_⟩
      cases j with
      | zero =>
        simp only [List.take_succ_cons, List.take_zero, List.foldl_cons, List.foldl_nil]
        omega
      | succ j => exact hi.within j (Nat.lt_of_succ_lt_succ hj)

/-! ## Scanning -/

/-- The run of digits at a place is the longest one there. -/
theorem runAt_of_drop {line : Line} {pos : Nat} (hrun : line.drop pos = digits ++ rest)
    (hdigits : ∀ c ∈ digits, Text.isDigit c = true)
    (hstop : ∀ c, rest.head? = some c → Text.isDigit c = false) :
    line.runAt Text.isDigit pos = digits := by
  rw [Line.runAt, if_neg (by omega), Int.toNat_natCast, hrun, takeWhile_run hdigits hstop]

/-- Scanning an integer takes the longest run of digits at a place. It gives the value of the run
exactly if that is within the bound. Otherwise an overflow is raised, with the last failure at the
first digit at which the value exceeds the bound; and no value that is worked out on the way does.
Where there is no digit it misses. -/
theorem scanInt_exact (maxInt : Int) (setting : Setting) (s : Scanner) {pos : Nat}
    {digits rest : Line} (hrun : s.state.line.drop pos = digits ++ rest)
    (hdigits : ∀ c ∈ digits, Text.isDigit c = true)
    (hstop : ∀ c, rest.head? = some c → Text.isDigit c = false) :
    let value : Int := Decimal.ofDigits digits
    let tally := boundedTally (maxInt.fdiv 10) (maxInt.fmod 10) digits 0 pos
    (digits = [] → scanInt maxInt pos s.state = .ok (.miss (some pos)) s.state) ∧
    (digits ≠ [] →
      (scanInt maxInt pos s.state = .ok (.hit (pos + digits.length) (.int value)) s.state ↔
        value ≤ maxInt) ∧
      (¬ value ≤ maxInt → ∃ i < digits.length,
        maxInt < Decimal.ofDigits (digits.take (i + 1)) ∧
        (∀ j < i, Decimal.ofDigits (digits.take (j + 1)) ≤ maxInt) ∧
        let refused : ScanState := { s.state with failPosition := some (pos + i : Int) }
        scanInt maxInt pos s.state = .error (.complaint .overflow) refused ∧
        Rule.onBench setting (Bench.scan (scanInt maxInt pos)) s =
          Rule.complain setting .overflow { s with state := refused } ∧
        (s.hook = none → ∃ e s', Rule.onBench setting (Bench.scan (scanInt maxInt pos)) s =
            .error (.scan e) s' ∧
          e.message = "integer overflow" ∧ e.position = pos + i + 1 ∧
          s'.state.failPosition = some (pos + i : Int))) ∧
      tally.2 = boundedValue (maxInt.fdiv 10) (maxInt.fmod 10) digits 0 pos ∧
      ∀ v ∈ tally.1, v ≤ maxInt) := by
  intro value tally
  have hscan := runAt_of_drop hrun hdigits hstop
  refine ⟨fun hnil => ?_, fun hne => ?_⟩
  · simp only [scanInt, bind_apply, get_apply, hscan, hnil, pure_apply]
  have happly := scanInt_apply maxInt hne hscan
  -- reading against the bound is decided by the value of all digits, see `boundedValue_eq`
  obtain ⟨hwithin, hover⟩ :=
    boundedValue_eq maxInt hdigits 0 (fun hnil => absurd hnil hne) (pos : Int)
  rw [Int.natCast_zero] at hwithin hover
  refine ⟨⟨fun hhit => ?_, fun hle => ?_⟩, fun hlt => ?_, boundedTally_result .., fun v hv =>
    le_of_mem_boundedTally hdigits hv⟩
  · refine Int.not_lt.mp fun hlt => ?_
    obtain ⟨place, hplace⟩ := hover hlt
    rw [happly, hplace] at hhit
    cases hhit
  · rw [happly, hwithin hle]
    rfl
  · obtain ⟨place, hplace⟩ := hover (Int.not_le.mp hlt)
    obtain ⟨i, rfl, hi⟩ := exceedsFrom_of_error hdigits 0 hplace
    rw [hplace] at happly
    have hraised : Rule.onBench setting (Bench.scan (scanInt maxInt pos)) s =
        Rule.complain setting .overflow
          { s with state := { s.state with failPosition := some (pos + i : Int) } } := by
      simp only [Rule.onBench, Bench.scan, happly]
    refine ⟨i, hi.isDigit, hi.exceeds, hi.within, happly, hraised, fun hook => ?_⟩
    exact ⟨_, _, hraised.trans (Rule.complain_of_no_hook _ hook), rfl, rfl, rfl⟩

/-- The digits after the blank are one too many for the default bound, at the last of them. -/
theorem scanInt_exact_tooLarge :
    ¬ (Decimal.ofDigits "2147483648".toList : Int) ≤ 2147483647 ∧
      scanInt 2147483647 1 (.start " 2147483648)".toList) =
        .error (.complaint .overflow)
          { ScanState.start " 2147483648)".toList with failPosition := some 10 } := by
  have hlarge : ¬ (Decimal.ofDigits "2147483648".toList : Int) ≤ 2147483647 := by decide
  have hrun : " 2147483648)".toList.drop 1 = "2147483648".toList ++ ")".toList := rfl
  have hexact := scanInt_exact 2147483647 { registry := {} }
    { state := .start " 2147483648)".toList } hrun (List.all_eq_true.mp rfl) (by rintro c ⟨⟩; rfl)
  obtain ⟨i, hlength, hover, -, hscan, -⟩ := (hexact.2 (by decide)).2.1 hlarge
  have hlast : i = 9 := by
    have hbefore : ∀ j < 9, (Decimal.ofDigits ("2147483648".toList.take (j + 1)) : Int) ≤
        2147483647 := by decide
    have hten : i < 10 := hlength
    refine Nat.le_antisymm (by omega) (Nat.not_lt.mp fun hlt => ?_)
    exact absurd hover (Int.not_lt.mpr (hbefore i hlt))
  rw [hlast] at hscan
  exact ⟨hlarge, hscan⟩

end LineScan.Calculator
