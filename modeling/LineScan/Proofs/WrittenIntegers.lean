import Mathlib.Data.Nat.Digits.Defs
import LineScan.Proofs.Execution
import LineScan.Proofs.Pointing
import LineScan.Proofs.Precedence

/-!
# Integers as the texts of variables

A variable has a text, and its value is the integer at the front of that text. So an integer that is
written as the text of a variable is the value of that variable: the decimal text is read back,
whatever white space comes before it and whatever comes after it that is no digit.

The white space is that of Unicode, while the digits are those of ASCII. A sign comes right before
the digits, and there is at most one: after that, a text either goes on with a digit or counts as
zero.

## Main statements

* `Decimal.exists_signed`: every text is white space, a sign or none, and a rest.
* `Decimal.Signed.leadingInteger_of_digits`, `Decimal.Signed.leadingInteger_of_no_digit`: what a
  text reads as, from its parts.
* `Grammar.evaluate_variable`: a line that is a name evaluates to the value of the variable.
* `written_integer_read_back`: an integer is written and read back, also by way of a variable.
-/

namespace LineScan

/-! ## Reading decimal texts -/

namespace Decimal

open Text Grammar

/-- A number of at most so many digits is read back from its text. -/
theorem readDigits_natText {n : Nat} (h : n < 10 ^ digitLimit) :
    readDigits (natText n) = .ok n := by
  have hlength : (natText n).length ≤ digitLimit :=
    Nat.toDigits_length 10 n digitLimit (Nat.succ_pos _) h
  have hvalue : ofDigits (natText n) = n := Nat.ofDigitChars_ten_toDigits
  rw [readDigits, if_neg (Nat.not_lt.mpr hlength), hvalue]

/-- The limit is far beyond the numbers of two digits. -/
theorem lt_pow_digitLimit {n : Nat} (h : n < 10 ^ 2) : n < 10 ^ digitLimit :=
  Nat.lt_of_lt_of_le h (Nat.pow_le_pow_right (by decide) (by decide))

/-- The powers of ten are powers. -/
theorem tenTo_eq_pow (n : Nat) : tenTo n = 10 ^ n := rfl

/-- The numbers of at most so many digits can be written. -/
theorem write_eq_ok_iff {n : Int} {text : String} :
    write n = .ok text ↔ n.natAbs < 10 ^ digitLimit ∧ text = String.ofList (intText n) := by
  rw [write, tenTo_eq_pow]
  by_cases h : n.natAbs < 10 ^ digitLimit
  · rw [if_pos h]
    constructor
    · rintro ⟨⟩
      exact ⟨h, rfl⟩
    · rintro ⟨-, rfl⟩
      rfl
  · rw [if_neg h]
    constructor
    · rintro ⟨⟩
    · rintro ⟨hsmall, -⟩
      exact absurd hsmall h

/-- A sign, or none, as it is written. -/
def signText : Option Additive → List Char
  | none => []
  | some op => [op.char]

/-- The integer with a sign, or with none. -/
def withSign : Option Additive → Int → Int
  | none, n => n
  | some op, n => op.signed n

/-- A text is white space, a sign or none, and a rest. Where there is no sign the rest starts with
neither white space nor a sign, so that all of the one and the first of the other are split off. -/
structure Signed (text blanks : List Char) (sign : Option Additive) (rest : List Char) : Prop where
  text_eq : text = blanks ++ signText sign ++ rest
  allWhitespace : ∀ c ∈ blanks, isWhitespace c = true
  unsigned : sign = none → ∀ c, rest.head? = some c → isWhitespace c = false ∧ c ≠ '-' ∧ c ≠ '+'

/-- Every text has these parts. -/
theorem exists_signed (text : List Char) : ∃ blanks sign rest, Signed text blanks sign rest := by
  have htext : text.takeWhile isWhitespace ++ trimStart text = text :=
    List.takeWhile_append_dropWhile
  have hblanks : ∀ c ∈ text.takeWhile isWhitespace, isWhitespace c = true :=
    List.all_eq_true.mp List.all_takeWhile
  have hsigned : ∀ (op : Additive) rest, trimStart text = op.char :: rest →
      Signed text (text.takeWhile isWhitespace) (some op) rest := by
    intro op rest hrest
    rw [hrest] at htext
    exact ⟨by rw [List.append_assoc]; exact htext.symm, hblanks, fun h => by cases h⟩
  by_cases hminus : (trimStart text).head? = some '-'
  · obtain ⟨rest, hrest⟩ := List.head?_eq_some_iff.mp hminus
    exact ⟨_, _, rest, hsigned .minus rest hrest⟩
  by_cases hplus : (trimStart text).head? = some '+'
  · obtain ⟨rest, hrest⟩ := List.head?_eq_some_iff.mp hplus
    exact ⟨_, _, rest, hsigned .plus rest hrest⟩
  refine ⟨_, none, trimStart text, by rw [signText, List.append_nil, htext], hblanks, ?_⟩
  intro _ c hc
  have hstop := List.head?_dropWhile_not isWhitespace text
  rw [trimStart] at hc
  rw [hc] at hstop
  refine ⟨by simpa using hstop, ?_, ?_⟩
  · rintro rfl
    exact hminus hc
  · rintro rfl
    exact hplus hc

namespace Signed

variable {text blanks rest : List Char} {sign : Option Additive}

/-- White space is trimmed as far as the text is split. -/
theorem trimStart_eq (h : Signed text blanks sign rest) :
    trimStart text = signText sign ++ rest := by
  have hstop : ∀ c, (signText sign ++ rest).head? = some c → isWhitespace c = false := by
    rcases sign with _ | op
    · exact fun c hc => (h.unsigned rfl c hc).1
    · rintro c ⟨⟩
      cases op <;> decide
  rw [h.text_eq, List.append_assoc]
  exact dropWhile_run h.allWhitespace hstop

/-- After the white space comes the sign, or none, and then the rest. -/
theorem splitSign_eq (h : Signed text blanks sign rest) :
    splitSign (trimStart text) = (decide (sign = some .minus), rest) := by
  rw [h.trimStart_eq]
  rcases sign with _ | _ | _
  · have hstart := h.unsigned rfl
    show splitSign rest = (false, rest)
    unfold splitSign
    split
    · exact absurd rfl (hstart _ rfl).2.1
    · exact absurd rfl (hstart _ rfl).2.2
    · rfl
  · rfl
  · rfl

/-- A text without a digit after the sign counts as zero. -/
theorem leadingInteger_of_no_digit (h : Signed text blanks sign rest)
    (hrest : ∀ c, rest.head? = some c → isDigit c = false) : leadingInteger text = .ok 0 := by
  have hnone : ([] ++ rest).takeWhile isDigit = [] := takeWhile_run (fun _ hc => by cases hc) hrest
  rw [List.nil_append] at hnone
  simp only [leadingInteger, h.splitSign_eq, hnone]

/-- A text with digits after the sign is read as the number of the longest run of them, with the
sign. -/
theorem leadingInteger_of_digits {digits after : List Char} {n : Nat}
    (h : Signed text blanks sign (digits ++ after)) (hdigits : ∀ c ∈ digits, isDigit c = true)
    (hne : digits ≠ []) (hafter : ∀ c, after.head? = some c → isDigit c = false)
    (hread : readDigits digits = .ok n) : leadingInteger text = .ok (withSign sign n) := by
  obtain ⟨d, others, rfl⟩ := List.exists_cons_of_ne_nil hne
  simp only [leadingInteger, h.splitSign_eq, takeWhile_run hdigits hafter, hread]
  rcases sign with _ | _ | _ <;> rfl

end Signed

/-- The sign of an integer that is written without a plus. -/
def signOf (n : Int) : Option Additive := if n < 0 then some .minus else none

/-- An integer is written as a minus sign, if it is negative, and the digits of its size. -/
theorem intText_eq (n : Int) : intText n = signText (signOf n) ++ natText n.natAbs := by
  unfold intText signOf
  split <;> rfl

/-- An integer is its size with its sign. -/
theorem withSign_signOf (n : Int) : withSign (signOf n) n.natAbs = n := by
  unfold signOf
  split
  · show -(n.natAbs : Int) = n
    omega
  · show (n.natAbs : Int) = n
    omega

/-- A digit is neither white space nor a sign. -/
theorem not_sign_of_isDigit {c : Char} (h : isDigit c = true) :
    isWhitespace c = false ∧ c ≠ '-' ∧ c ≠ '+' := by
  simp only [isDigit, Char.isDigit, Bool.and_eq_true, decide_eq_true_eq] at h
  have h0 : 48 ≤ c.toNat := h.1
  have h9 : c.toNat ≤ 57 := h.2
  refine ⟨?_, ?_, ?_⟩
  · simp only [isWhitespace, Bool.or_eq_false_iff, Bool.and_eq_false_iff, decide_eq_false_iff_not,
      beq_eq_false_iff_ne]
    omega
  · rintro rfl
    exact absurd h0 (by decide)
  · rintro rfl
    exact absurd h0 (by decide)

/-- A number after white space and a sign is read as such, if no digit follows it. -/
theorem leadingInteger_natText {blanks after : List Char} {n : Nat} (sign : Option Additive)
    (hn : n < 10 ^ digitLimit) (hblanks : ∀ c ∈ blanks, isWhitespace c = true)
    (hafter : ∀ c, after.head? = some c → isDigit c = false) :
    leadingInteger (blanks ++ (signText sign ++ natText n) ++ after) = .ok (withSign sign n) := by
  have hdigits : ∀ c ∈ natText n, isDigit c = true := fun c => isDigit_of_mem_natText
  have hne : natText n ≠ [] := Nat.toDigits_ne_nil
  refine Signed.leadingInteger_of_digits ⟨by simp, hblanks, ?_⟩ hdigits hne hafter
    (readDigits_natText hn)
  intro _ c hc
  obtain ⟨d, others, hnumber⟩ := List.exists_cons_of_ne_nil hne
  rw [hnumber] at hc
  cases hc
  exact not_sign_of_isDigit (hdigits _ (hnumber ▸ List.mem_cons_self ..))

end Decimal

/-! ## Lines that are a name -/

namespace Grammar

open Calculator

variable {k : Calculator} {line : Line} {name : Identifier} {n : Int} {s : Scanner}

/-- A rule that agrees with a value has it as its answer, and stands where the reading goes on. -/
theorem Agrees.eq_ok {α : Type} {r : EStateM.Result Failure Scanner α} {a : α} {rest : Line}
    (h : Agrees line r (.ok a) (.going rest)) : ∃ s', r = .ok a s' ∧ Stands line rest s' := by
  cases h with
  | ok stands => exact ⟨_, rfl, stands⟩

/-- The characters of a name are read as the name. -/
theorem read?_chars (name : Identifier) : Identifier.read? name.chars = some (name, []) := by
  have hblank := isBlank_of_isIdentChar (isIdentChar_of_isIdentStart name.first_starts)
  refine Word.read?_eq_some.mpr ⟨?_, fun c hc => by cases hc⟩
  rw [List.append_nil]
  exact List.dropWhile_cons_of_neg (by simp [hblank])

/-- A primary that is a name has the value of the variable, whatever the functions are. -/
theorem primaryWith_variable (nested : Rule Int) (hs : Stands line name.chars s)
    (hvalue : variableValue k name.text = .ok n) :
    ∃ s', primaryWith k nested s = .ok n s' ∧ Stands line [] s' := by
  obtain ⟨s₁, h₁, hs₁, hname⟩ := accept_ident_of_some k hs (read?_chars name)
  obtain ⟨s₂, h₂, hs₂, -⟩ := (probes_mark k '(' (by decide)).miss hs₁ rfl
  obtain ⟨s₃, h₃, hs₃⟩ := (hvalue ▸ agrees_variableValue name.text hs₂).eq_ok
  refine ⟨s₃, ?_, hs₃⟩
  rw [primaryWith, bind_apply, lift_apply, h₁]
  simp only [if_true, bind_apply, lift_apply, scannedText, get_apply, hname, pure_apply, acceptChar,
    h₂, Bool.false_eq_true, if_false, h₃]

/-- An expression that is a name has the value of the variable. -/
theorem expr_variable (hvalue : variableValue k name.text = .ok n) (hdepth : 1 ≤ k.maxDepth)
    (hs : Stands line name.chars s) : ∃ s', k.expr s = .ok n s' := by
  obtain ⟨depth, hdepth⟩ : ∃ depth, k.maxDepth.toNat = depth + 1 :=
    ⟨k.maxDepth.toNat - 1, by omega⟩
  obtain ⟨s₁, h₁, hs₁⟩ := primaryWith_variable (fun s => k.primary depth s) hs hvalue
  obtain ⟨s₂, h₂, hs₂⟩ :=
    factorLoop_stop k (k.primary k.maxDepth.toNat) s₁.state.line.length n hs₁ rfl
  obtain ⟨s₃, h₃, hs₃⟩ :=
    termLoop_stop k (k.primary k.maxDepth.toNat) s₂.state.line.length n hs₂ rfl
  obtain ⟨s₄, h₄, -⟩ := accept_end k hs₃
  have hprimary : k.primary k.maxDepth.toNat s = .ok n s₁ := by
    rw [hdepth]
    exact h₁
  have hend : Rule.acceptTarget k.setting (.terminal endTerminal) s₃ = .ok true s₄ := h₄
  exact ⟨s₄, by simp [expr, term, factor, rounds, Rule.expectTarget, hprimary, h₂, h₃, hend]⟩

/-- A line that is a name has the value of the variable. -/
theorem evaluate_variable (hvalue : variableValue k name.text = .ok n) (hdepth : 1 ≤ k.maxDepth)
    (s : Scanner) : ∃ s', k.evaluate name.chars s = .ok n s' := by
  obtain ⟨s₁, h₁⟩ := expr_variable hvalue hdepth (stands_startLine s name.chars)
  refine ⟨{ s₁ with hook := none }, ?_⟩
  show Rule.parse name.chars k.expr s = _
  simp only [Rule.parse, Rule.reset, bind_apply, modify_apply, lift_apply, h₁]
  rfl

end Grammar

/-! ## Writing and reading back -/

open Decimal Grammar

/-- A definition of a name is read as the name and the text after the first equals sign. -/
theorem readDefinition_of_name (name : Identifier) (value : String) :
    CommandLine.readDefinition (name.text ++ "=" ++ value) = .ok (name.text, value) := by
  refine CommandLine.readDefinition_eq_ok_iff.mpr ⟨_, rfl, ?_, fun hmem => ?_⟩
  · rw [String.toList_append, String.toList_append, List.append_assoc]
    rfl
  · rw [Identifier.text, String.toList_ofList] at hmem
    exact absurd (Identifier.isIdentChar_of_mem hmem) (by decide)

/-- Where a name is given a written integer as its text, its value is the integer. -/
theorem variableValue_insert {k : Calculator} {name : String} {n : Int} {env : Bindings String}
    {text : String} (henv : k.env = env.insert name text)
    (hread : leadingInteger text.toList = .ok n) : variableValue k name = .ok n := by
  rw [variableValue, henv, Bindings.get?_insert, if_pos rfl]
  simp only [hread]

/-- An integer of at most so many digits is written as a text that reads as the integer, after any
white space, with a plus if it is not negative, and before anything that starts with no digit. It is
the value of the variable that is given the text. All other texts than those with a digit after the
white space and a sign, or none, count as zero. -/
theorem written_integer_read_back :
    (∀ text blanks rest sign, Signed text blanks sign rest →
      (∀ c, rest.head? = some c → Text.isDigit c = false) → leadingInteger text = .ok 0) ∧
    ∀ n : Int, n.natAbs < 10 ^ digitLimit →
      ∃ text, write n = .ok text ∧
        (∀ blanks after : List Char, (∀ c ∈ blanks, Text.isWhitespace c = true) →
          (∀ c, after.head? = some c → Text.isDigit c = false) →
            leadingInteger (blanks ++ text.toList ++ after) = .ok n ∧
            (0 ≤ n → leadingInteger (blanks ++ '+' :: text.toList ++ after) = .ok n)) ∧
        ∀ name : Identifier,
          CommandLine.readDefinition (name.text ++ "=" ++ text) = .ok (name.text, text) ∧
            ∀ (env : Bindings String) (k : Calculator), k.env = env.insert name.text text →
              1 ≤ k.maxDepth → ∀ s, ∃ s', k.evaluate name.chars s = .ok n s' := by
  refine ⟨fun text blanks rest sign h hrest => h.leadingInteger_of_no_digit hrest, fun n hn => ?_⟩
  -- the sign of the text is that of the integer, so that the text reads as the integer itself
  have hread : ∀ blanks after : List Char, (∀ c ∈ blanks, Text.isWhitespace c = true) →
      (∀ c, after.head? = some c → Text.isDigit c = false) →
        leadingInteger (blanks ++ intText n ++ after) = .ok n := by
    intro blanks after hblanks hafter
    have hnumber := leadingInteger_natText (signOf n) hn hblanks hafter
    rwa [← intText_eq, withSign_signOf] at hnumber
  refine ⟨String.ofList (intText n), write_eq_ok_iff.mpr ⟨hn, rfl⟩, ?_, fun name => ⟨?_, ?_⟩⟩
  · intro blanks after hblanks hafter
    rw [String.toList_ofList]
    refine ⟨hread blanks after hblanks hafter, fun hnonneg => ?_⟩
    have hplus := leadingInteger_natText (some .plus) hn hblanks hafter
    have habs : withSign (some .plus) n.natAbs = n := Int.natAbs_of_nonneg hnonneg
    have htext : intText n = natText n.natAbs := if_neg (by omega)
    rwa [habs, ← htext] at hplus
  · exact readDefinition_of_name name _
  · intro env k henv hdepth s
    refine evaluate_variable (variableValue_insert henv ?_) hdepth s
    have halone := hread [] [] (fun _ hc => by cases hc) (fun _ hc => by cases hc)
    rwa [List.nil_append, List.append_nil, ← String.toList_ofList (l := intText n)] at halone

/-- A small negative integer after a blank that is not ASCII and before a word, as the text of a
variable; one with a plus; and a text that counts as zero. -/
theorem written_integer_read_back_forty_two :
    (-42 : Int).natAbs < 10 ^ digitLimit ∧ write (-42) = .ok "-42" ∧
      leadingInteger "\u00a0-42 apples".toList = .ok (-42) ∧
      (∃ s', ({ env := [("x", "-42")] } : Calculator).evaluate ['x'] {} = .ok (-42) s') ∧
      leadingInteger "\u00a0+7;".toList = .ok 7 ∧ leadingInteger "\u00a0- 42".toList = .ok 0 := by
  have hn : (-42 : Int).natAbs < 10 ^ digitLimit := lt_pow_digitLimit (by decide)
  have hblank : ∀ c ∈ ['\u00a0'], Text.isWhitespace c = true :=
    List.forall_mem_singleton.mpr rfl
  obtain ⟨text, hwrite, hread, hname⟩ := written_integer_read_back.2 (-42) hn
  obtain rfl : text = "-42" := (write_eq_ok_iff.mp hwrite).2
  obtain ⟨seven, hseven, hplus, -⟩ :=
    written_integer_read_back.2 7 (lt_pow_digitLimit (by decide))
  obtain rfl : seven = "7" := (write_eq_ok_iff.mp hseven).2
  have hzero := written_integer_read_back.1 "\u00a0- 42".toList ['\u00a0'] " 42".toList
    (some .minus) ⟨rfl, hblank, fun h => by cases h⟩ (by rintro _ ⟨⟩; rfl)
  exact ⟨hn, hwrite, (hread ['\u00a0'] " apples".toList hblank (by rintro _ ⟨⟩; rfl)).1,
    (hname ⟨'x', [], rfl, fun _ h => by cases h⟩).2 [] _ rfl (by decide) {},
    (hplus ['\u00a0'] [';'] hblank (by rintro _ ⟨⟩; rfl)).2 (by decide), hzero⟩

end LineScan
