import LineScan.Proofs.Evaluator

/-!
# What a value says about its tree

Two questions about the reference. When a whole tree has no value, what can the reason be? Never the
way it is written, and where the functions are total and the variables can be read, never a fault.
And when a tree has a value, what holds in it? Nothing breaks off, every limit is kept wherever the
tree meets it, and the value does not depend on the depth that was allowed.

Each answer is an induction on trees, one case for each constructor.
-/

namespace LineScan.Grammar

open Calculator

variable {k : Calculator} {column column' : Int}

/-! ## One value after another -/

section

variable {ε α β : Type} {x : Except ε α} {f : α → Except ε β}

/-- If two steps give a result, so does each of them. -/
theorem bind_eq_ok {b : β} (h : x >>= f = .ok b) : ∃ a, x = .ok a ∧ f a = .ok b := by
  cases x with
  | ok a => exact ⟨a, rfl, h⟩
  | error cause => cases h

/-- Two steps fail because one of them does. -/
theorem bind_eq_error {cause : ε} (h : x >>= f = .error cause) :
    x = .error cause ∨ ∃ a, x = .ok a ∧ f a = .error cause := by
  cases x with
  | ok a => exact .inr ⟨a, rfl, h⟩
  | error other =>
    cases h
    exact .inl rfl

/-- Changing failures changes no result. -/
theorem mapError_eq_ok {ε' : Type} {g : ε → ε'} {a : α} (h : x.mapError g = .ok a) : x = .ok a := by
  cases x with
  | ok b =>
    cases h
    rfl
  | error cause => cases h

end

/-! ## Whole trees -/

mutual

/-- A whole primary never asks for the column. -/
theorem Primary.value_column : ∀ (t : Primary) (depth : Nat), t.Whole →
    t.value k column depth = t.value k column' depth
  | _, 0, _ => by simp only [Primary.value]
  | .call name args, depth + 1, whole => by
    simp only [Primary.Whole] at whole
    simp only [Primary.value, args.values_column depth name.text maxArguments whole]
  | .var _, _ + 1, _ => by simp only [Primary.value]
  | .paren inner, depth + 1, whole => by
    simp only [Primary.Whole] at whole
    simp only [Primary.value, inner.value_column depth whole]
  | .sign _ inner, depth + 1, whole => by
    simp only [Primary.Whole] at whole
    simp only [Primary.value, inner.value_column depth whole]
  | .int _, _ + 1, _ => by simp only [Primary.value]
  | .missing, _ + 1, whole => by simp only [Primary.Whole] at whole
  | .unclosed _, _ + 1, whole => by simp only [Primary.Whole] at whole

/-- The value of a whole factor does not depend on the column, by induction on the factor. -/
theorem Factor.value_column : ∀ (t : Factor) (depth : Nat), t.Whole →
    t.value k column depth = t.value k column' depth
  | .one first, depth, whole => by
    simp only [Factor.Whole] at whole
    simp only [Factor.value, first.value_column depth whole]
  | .step left _ right, depth, whole => by
    simp only [Factor.Whole] at whole
    simp only [Factor.value, left.value_column depth whole.1, right.value_column depth whole.2]

/-- The value of a whole term does not depend on the column, by induction on the term. -/
theorem Term.value_column : ∀ (t : Term) (depth : Nat), t.Whole →
    t.value k column depth = t.value k column' depth
  | .one first, depth, whole => by
    simp only [Term.Whole] at whole
    simp only [Term.value, first.value_column depth whole]
  | .step left _ right, depth, whole => by
    simp only [Term.Whole] at whole
    simp only [Term.value, left.value_column depth whole.1, right.value_column depth whole.2]

/-- The values of whole arguments do not depend on the column. -/
theorem Arguments.values_column : ∀ (args : Arguments) (depth : Nat) (name : String) (room : Nat),
    args.Whole → args.values k column depth name room = args.values k column' depth name room
  | .close, _, _, _, _ => by simp only [Arguments.values]
  | .more .., _, _, 0, _ => by simp only [Arguments.values]
  | .more first _ rest, depth, name, room + 1, whole => by
    simp only [Arguments.Whole] at whole
    simp only [Arguments.values, first.value_column depth whole.1,
      rest.values_column depth name room whole.2]
  | .cut, _, _, _, whole => by simp only [Arguments.Whole] at whole

end

/-- A property of every reason for which a whole tree may have no value. -/
structure Excuses (k : Calculator) (P : Abort → Prop) : Prop where
  of_complaint : ∀ c : Complaint, c.isSyntactic = false → P (.complaint c)
  of_variable : ∀ name cause, variableValue k name = .error cause → P cause
  of_call : ∀ name function args cause, k.functions.get? name = some function →
    callValue k name function args = .error cause → P cause

/-- A property of everything that is said where a tree breaks off. -/
structure Forgives (column : Int) (P : Abort → Prop) : Prop where
  of_missing : P (.complaint (.syntaxError column))
  of_unclosed : P (.complaint (.expected (Target.char ')').label column))
  of_cut : ∀ name, P (.complaint (.unclosedCall name))

variable {P : Abort → Prop}

/-- A division by zero is among the reasons for which a tree may have no value. -/
theorem Excuses.of_combine (excuses : Excuses k P) {op : Multiplicative} {a b : Int}
    {cause : Abort} (h : op.combine a b = .error cause) : P cause := by
  unfold Multiplicative.combine at h
  split at h
  · split at h
    · cases h
      exact excuses.of_complaint _ rfl
    · cases h
  · cases h

mutual

/-- Why a primary has no value, if it is whole or may break off. -/
theorem Primary.excused (excuses : Excuses k P) : ∀ (t : Primary) (depth : Nat) (cause : Abort),
    t.Whole ∨ Forgives column P → t.value k column depth = .error cause → P cause
  | _, 0, cause, _, h => by
    simp only [Primary.value] at h
    cases h
    exact excuses.of_complaint _ rfl
  | .call name args, depth + 1, cause, whole, h => by
    simp only [Primary.Whole] at whole
    simp only [Primary.value] at h
    cases hknown : k.functions.get? name.text with
    | none =>
      rw [hknown] at h
      cases h
      exact excuses.of_complaint _ rfl
    | some function =>
      rw [hknown] at h
      rcases bind_eq_error h with h | ⟨values, -, h⟩
      · exact args.excused excuses depth name.text maxArguments cause whole h
      · exact excuses.of_call name.text function values cause hknown h
  | .var name, _ + 1, cause, _, h => by
    simp only [Primary.value] at h
    exact excuses.of_variable name.text cause h
  | .paren inner, depth + 1, cause, whole, h => by
    simp only [Primary.Whole] at whole
    simp only [Primary.value] at h
    exact inner.excused excuses depth cause whole h
  | .sign op inner, depth + 1, cause, whole, h => by
    simp only [Primary.Whole] at whole
    simp only [Primary.value] at h
    rcases bind_eq_error h with h | ⟨n, -, h⟩
    · exact inner.excused excuses depth cause whole h
    · cases h
  | .int numeral, _ + 1, cause, _, h => by
    simp only [Primary.value] at h
    split at h
    · cases h
    · cases h
      exact excuses.of_complaint _ rfl
  -- only where the tree breaks off is the second alternative of the hypothesis needed
  | .missing, _ + 1, cause, whole, h => by
    simp only [Primary.Whole, false_or] at whole
    simp only [Primary.value] at h
    cases h
    exact whole.of_missing
  | .unclosed inner, depth + 1, cause, whole, h => by
    simp only [Primary.Whole, false_or] at whole
    simp only [Primary.value] at h
    rcases bind_eq_error h with h | ⟨n, -, h⟩
    · exact inner.excused excuses depth cause (.inr whole) h
    · cases h
      exact whole.of_unclosed

/-- If a factor has no value, the reason is among those that are excused. -/
theorem Factor.excused (excuses : Excuses k P) : ∀ (t : Factor) (depth : Nat) (cause : Abort),
    t.Whole ∨ Forgives column P → t.value k column depth = .error cause → P cause
  | .one first, depth, cause, whole, h => by
    simp only [Factor.Whole] at whole
    simp only [Factor.value] at h
    exact first.excused excuses depth cause whole h
  | .step left op right, depth, cause, whole, h => by
    simp only [Factor.Whole] at whole
    simp only [Factor.value] at h
    rcases bind_eq_error h with h | ⟨a, -, h⟩
    · exact left.excused excuses depth cause (whole.imp_left And.left) h
    · rcases bind_eq_error h with h | ⟨b, -, h⟩
      · exact right.excused excuses depth cause (whole.imp_left And.right) h
      · exact excuses.of_combine h

/-- If a term has no value, the reason is among those that are excused. -/
theorem Term.excused (excuses : Excuses k P) : ∀ (t : Term) (depth : Nat) (cause : Abort),
    t.Whole ∨ Forgives column P → t.value k column depth = .error cause → P cause
  | .one first, depth, cause, whole, h => by
    simp only [Term.Whole] at whole
    simp only [Term.value] at h
    exact first.excused excuses depth cause whole h
  | .step left op right, depth, cause, whole, h => by
    simp only [Term.Whole] at whole
    simp only [Term.value] at h
    rcases bind_eq_error h with h | ⟨a, -, h⟩
    · exact left.excused excuses depth cause (whole.imp_left And.left) h
    · rcases bind_eq_error h with h | ⟨b, -, h⟩
      · exact right.excused excuses depth cause (whole.imp_left And.right) h
      · cases h

/-- If arguments have no values, the reason is among those that are excused. -/
theorem Arguments.excused (excuses : Excuses k P) : ∀ (args : Arguments) (depth : Nat)
    (name : String) (room : Nat) (cause : Abort), args.Whole ∨ Forgives column P →
    args.values k column depth name room = .error cause → P cause
  | .close, _, _, _, _, _, h => by
    simp only [Arguments.values] at h
    cases h
  | .more .., _, _, 0, cause, _, h => by
    simp only [Arguments.values] at h
    cases h
    exact excuses.of_complaint _ rfl
  | .more first _ rest, depth, name, room + 1, cause, whole, h => by
    simp only [Arguments.Whole] at whole
    simp only [Arguments.values] at h
    rcases bind_eq_error h with h | ⟨n, -, h⟩
    · exact first.excused excuses depth cause (whole.imp_left And.left) h
    · rcases bind_eq_error h with h | ⟨others, -, h⟩
      · exact rest.excused excuses depth name room cause (whole.imp_left And.right) h
      · cases h
  | .cut, _, name, _, cause, whole, h => by
    simp only [Arguments.Whole, false_or] at whole
    simp only [Arguments.values] at h
    cases h
    exact whole.of_cut name

end

/-- What a pure function says is an answer or a fault. -/
theorem answer_of_pure (hpure : k.PureFunctions) {name : String} {function : Builtin}
    {args : List Int} (known : k.functions.get? name = some function)
    (applicable : Applicable name args) :
    (∃ n, k.answer function args = .ok n) ∨ ∃ f, k.answer function args = .error (.fault f) := by
  rcases hpure name function args known applicable with ⟨n, hn⟩ | ⟨f, hf⟩
  · exact .inl ⟨n, by rw [answer, hn]; rfl⟩
  · exact .inr ⟨f, by rw [answer, hf]; rfl⟩

/-- Where the functions are pure, no whole tree is refused for how it is written. -/
theorem excuses_not_syntactic (hpure : k.PureFunctions) :
    Excuses k (fun cause => ∀ c, cause = .complaint c → c.isSyntactic = false) where
  of_complaint c hc c' h := by
    cases h
    exact hc
  of_variable name cause h c hc := by
    unfold variableValue at h
    split at h
    · cases h
      cases hc
      rfl
    · split at h
      · cases h
      · cases h
        cases hc
  of_call name function args cause known h c hc := by
    unfold callValue at h
    split at h
    · cases h
      cases hc
      rfl
    · next hneed =>
      -- a function that may be applied has a value or a fault, and neither is a complaint
      rcases answer_of_pure hpure known (applicable_of_not_lacking hneed) with ⟨n, hn⟩ | ⟨f, hf⟩
      · rw [hn] at h
        cases h
      · rw [hf] at h
        cases h
        cases hc

/-- A weaker property is one of every reason as well. -/
theorem Excuses.mono {Q : Abort → Prop} (excuses : Excuses k P)
    (h : ∀ cause, P cause → Q cause) : Excuses k Q where
  of_complaint c hc := h _ (excuses.of_complaint c hc)
  of_variable name cause hcause := h cause (excuses.of_variable name cause hcause)
  of_call name function args cause known hcause :=
    h cause (excuses.of_call name function args cause known hcause)

/-- A complaint about how a term is written names the column where the term breaks off, if it names
one. -/
theorem Term.column_of_value (hpure : k.PureFunctions) (t : Term) {depth : Nat} {c : Complaint}
    {named : Int} (h : t.value k column depth = .error (.complaint c))
    (hc : c.isSyntactic = true) (hnamed : c.column? = some named) : named = column := by
  let Names (cause : Abort) : Prop := ∀ c named, cause = .complaint c → c.isSyntactic = true →
    c.column? = some named → named = column
  have excuses : Excuses k Names := by
    -- what a whole tree may be refused for is not about how it is written
    refine (excuses_not_syntactic hpure).mono fun cause hcause c named hc hsyntactic => ?_
    rw [hcause c hc] at hsyntactic
    cases hsyntactic
  have forgives : Forgives column Names := by
    refine ⟨?_, ?_, fun name => ?_⟩ <;> rintro c named ⟨⟩ - ⟨⟩ <;> rfl
  exact t.excused excuses depth _ (.inr forgives) h c named rfl hc hnamed

/-- A text that starts with no more digits than can be read is read as an integer. -/
theorem leadingInteger_of_readable {text : String}
    (h : (leadingDigits text).length ≤ Decimal.digitLimit) :
    ∃ n, Decimal.leadingInteger text.toList = .ok n := by
  unfold Decimal.leadingInteger
  unfold leadingDigits at h
  generalize Decimal.splitSign (Text.trimStart text.toList) = parts at h
  obtain ⟨negative, rest⟩ := parts
  simp only at h ⊢
  split
  · exact ⟨0, rfl⟩
  · rw [Decimal.readDigits, if_neg (by omega)]
    exact ⟨_, rfl⟩

/-- Where the functions are total and the variables can be read, a whole tree has no fault. -/
theorem excuses_complaint (total : k.TotalFunctions) (readable : k.ReadableVariables) :
    Excuses k (fun cause => ∃ c, cause = .complaint c) where
  of_complaint c _ := ⟨c, rfl⟩
  of_variable name cause h := by
    unfold variableValue at h
    split at h
    · cases h
      exact ⟨_, rfl⟩
    · next text hbound =>
      obtain ⟨n, hn⟩ := leadingInteger_of_readable (readable name text hbound)
      rw [hn] at h
      cases h
  of_call name function args cause known h := by
    unfold callValue at h
    split at h
    · cases h
      exact ⟨_, rfl⟩
    · next hneed =>
      obtain ⟨n, hn⟩ := total name function args known (applicable_of_not_lacking hneed)
      rw [answer, hn] at h
      cases h

/-! ## Trees that have a value -/

mutual

/-- A value that a primary has at some depth is its value at every greater depth, whatever the
column. -/
theorem Primary.value_mono : ∀ (t : Primary) {depth depth' : Nat} {n : Int}, depth ≤ depth' →
    t.value k column depth = .ok n → t.value k column' depth' = .ok n
  | t, 0, _, n, _, h => by
    simp only [Primary.value] at h
    cases h
  | _, _ + 1, 0, _, hle, _ => by omega
  -- the depths go down together wherever a primary is opened
  | .call name args, depth + 1, depth' + 1, n, hle, h => by
    simp only [Primary.value] at h ⊢
    cases hknown : k.functions.get? name.text with
    | none =>
      rw [hknown] at h
      cases h
    | some function =>
      rw [hknown] at h
      obtain ⟨values, hvalues, h⟩ := bind_eq_ok h
      simp only [args.values_mono (Nat.le_of_succ_le_succ hle) hvalues]
      exact h
  | .var _, _ + 1, _ + 1, n, _, h => by
    simp only [Primary.value] at h ⊢
    exact h
  | .paren inner, depth + 1, depth' + 1, n, hle, h => by
    simp only [Primary.value] at h ⊢
    exact inner.value_mono (Nat.le_of_succ_le_succ hle) h
  | .sign op inner, depth + 1, depth' + 1, n, hle, h => by
    simp only [Primary.value] at h ⊢
    obtain ⟨m, hm, h⟩ := bind_eq_ok h
    rw [inner.value_mono (Nat.le_of_succ_le_succ hle) hm]
    exact h
  | .int _, _ + 1, _ + 1, n, _, h => by
    simp only [Primary.value] at h ⊢
    exact h
  | .missing, _ + 1, _ + 1, n, _, h => by
    simp only [Primary.value] at h
    cases h
  | .unclosed inner, depth + 1, _ + 1, n, _, h => by
    simp only [Primary.value] at h
    obtain ⟨m, -, h⟩ := bind_eq_ok h
    cases h

/-- A factor that has a value has it with more depth, and at any column. -/
theorem Factor.value_mono : ∀ (t : Factor) {depth depth' : Nat} {n : Int}, depth ≤ depth' →
    t.value k column depth = .ok n → t.value k column' depth' = .ok n
  | .one first, depth, depth', n, hle, h => by
    simp only [Factor.value] at h ⊢
    exact first.value_mono hle h
  | .step left op right, depth, depth', n, hle, h => by
    simp only [Factor.value] at h ⊢
    obtain ⟨a, ha, h⟩ := bind_eq_ok h
    obtain ⟨b, hb, h⟩ := bind_eq_ok h
    rw [left.value_mono hle ha, right.value_mono hle hb]
    exact h

/-- A term that has a value has it with more depth, and at any column. -/
theorem Term.value_mono : ∀ (t : Term) {depth depth' : Nat} {n : Int}, depth ≤ depth' →
    t.value k column depth = .ok n → t.value k column' depth' = .ok n
  | .one first, depth, depth', n, hle, h => by
    simp only [Term.value] at h ⊢
    exact first.value_mono hle h
  | .step left op right, depth, depth', n, hle, h => by
    simp only [Term.value] at h ⊢
    obtain ⟨a, ha, h⟩ := bind_eq_ok h
    obtain ⟨b, hb, h⟩ := bind_eq_ok h
    rw [left.value_mono hle ha, right.value_mono hle hb]
    exact h

/-- Arguments that have values have them with more depth, and at any column. -/
theorem Arguments.values_mono : ∀ (args : Arguments) {depth depth' : Nat} {name : String}
    {room : Nat} {values : List Int}, depth ≤ depth' →
    args.values k column depth name room = .ok values →
    args.values k column' depth' name room = .ok values
  | .close, _, _, _, _, _, _, h => by
    simp only [Arguments.values] at h ⊢
    exact h
  | .more .., _, _, _, 0, _, _, h => by
    simp only [Arguments.values] at h
    cases h
  | .more first _ rest, depth, depth', name, room + 1, values, hle, h => by
    simp only [Arguments.values] at h ⊢
    obtain ⟨n, hn, h⟩ := bind_eq_ok h
    obtain ⟨others, hothers, h⟩ := bind_eq_ok h
    rw [first.value_mono hle hn, rest.values_mono hle hothers]
    exact h
  | .cut, _, _, _, _, _, _, h => by
    simp only [Arguments.values] at h
    cases h

end

/-- A primary has at most one value, at whatever depths it is worked out. -/
theorem Primary.value_unique (t : Primary) {depth depth' : Nat} {a b : Int}
    (ha : t.value k column depth = .ok a) (hb : t.value k column' depth' = .ok b) : a = b := by
  have ha' : t.value k 0 (max depth depth') = .ok a := t.value_mono (Nat.le_max_left ..) ha
  have hb' : t.value k 0 (max depth depth') = .ok b := t.value_mono (Nat.le_max_right ..) hb
  rw [ha'] at hb'
  exact Except.ok.inj hb'

mutual

/-- A primary asks for nothing that the calculator does not have or does not allow. -/
def Primary.Admissible (k : Calculator) : Primary → Prop
  | .call name args => (k.functions.get? name.text).isSome ∧ args.count ≤ maxArguments ∧
      (needsArgument name.text → 0 < args.count) ∧ args.Admissible k
  | .var name => (k.env.get? name.text).isSome
  | .paren inner => inner.Admissible k
  | .sign _ inner => inner.Admissible k
  | .int numeral => numeral.value ≤ k.maxInt
  | .missing => True
  | .unclosed inner => inner.Admissible k

/-- Nothing in a factor asks for too much, and no divisor in it is zero. -/
def Factor.Admissible (k : Calculator) : Factor → Prop
  | .one first => first.Admissible k
  | .step left op right => left.Admissible k ∧ right.Admissible k ∧
      (op.divides = true → ∀ column depth, right.value k column depth ≠ .ok 0)

/-- Nothing in a term asks for too much. -/
def Term.Admissible (k : Calculator) : Term → Prop
  | .one first => first.Admissible k
  | .step left _ right => left.Admissible k ∧ right.Admissible k

/-- Nothing in arguments asks for too much. -/
def Arguments.Admissible (k : Calculator) : Arguments → Prop
  | .close => True
  | .more first _ rest => first.Admissible k ∧ rest.Admissible k
  | .cut => True

end

/-- A primary is at least one deep, for it opens itself. -/
theorem Primary.depth_pos (t : Primary) : 0 < t.depth := by
  cases t <;> exact Nat.succ_pos _

/-- A factor has a primary, so it is at least one deep. -/
theorem Factor.depth_pos : ∀ t : Factor, 0 < t.depth
  | .one first => first.depth_pos
  | .step left _ _ => Nat.lt_of_lt_of_le left.depth_pos (Nat.le_max_left ..)

/-- A term has a factor, so it is at least one deep. -/
theorem Term.depth_pos : ∀ t : Term, 0 < t.depth
  | .one first => first.depth_pos
  | .step left _ _ => Nat.lt_of_lt_of_le left.depth_pos (Nat.le_max_left ..)

/-- Two values that an operator combines are not divided by zero. -/
theorem Multiplicative.ne_zero_of_combine {op : Multiplicative} {a b n : Int}
    (h : op.combine a b = .ok n) (hop : op.divides = true) : b ≠ 0 := by
  rintro rfl
  rw [combine, if_pos hop, if_pos rfl] at h
  cases h

mutual

/-- A primary with a value is whole, is admissible, and opens no more primaries than allowed. -/
theorem Primary.sound : ∀ (t : Primary) {depth : Nat} {n : Int}, t.value k column depth = .ok n →
    t.Whole ∧ t.Admissible k ∧ t.depth ≤ depth
  | t, 0, n, h => by
    simp only [Primary.value] at h
    cases h
  -- a call is the one case with limits of its own: its function, its arguments and their number
  | .call name args, depth + 1, n, h => by
    simp only [Primary.value] at h
    cases hknown : k.functions.get? name.text with
    | none =>
      rw [hknown] at h
      cases h
    | some function =>
      rw [hknown] at h
      obtain ⟨values, hvalues, h⟩ := bind_eq_ok h
      obtain ⟨whole, admissible, hdepth, hcount, hlength⟩ := args.sound hvalues
      refine ⟨whole, ⟨by rw [hknown]; rfl, hcount, fun hneed => ?_, admissible⟩, ?_⟩
      · cases values with
        | nil =>
          rw [callValue, hneed] at h
          cases h
        | cons value others => rw [← hlength]; exact Nat.succ_pos _
      · exact Nat.succ_le_succ hdepth
  | .var name, depth + 1, n, h => by
    simp only [Primary.value, variableValue] at h
    refine ⟨trivial, ?_, Nat.succ_le_succ (Nat.zero_le _)⟩
    cases hbound : k.env.get? name.text with
    | none =>
      rw [hbound] at h
      cases h
    | some text => simp only [Primary.Admissible, hbound, Option.isSome]
  | .paren inner, depth + 1, n, h => by
    simp only [Primary.value] at h
    obtain ⟨whole, admissible, hdepth⟩ := inner.sound h
    exact ⟨whole, admissible, Nat.succ_le_succ hdepth⟩
  | .sign op inner, depth + 1, n, h => by
    simp only [Primary.value] at h
    obtain ⟨m, hm, -⟩ := bind_eq_ok h
    obtain ⟨whole, admissible, hdepth⟩ := inner.sound hm
    exact ⟨whole, admissible, Nat.succ_le_succ hdepth⟩
  | .int numeral, depth + 1, n, h => by
    simp only [Primary.value] at h
    split at h
    · next hle => exact ⟨trivial, hle, Nat.succ_le_succ (Nat.zero_le _)⟩
    · cases h
  -- trees that break off have no value to start with
  | .missing, _ + 1, n, h => by
    simp only [Primary.value] at h
    cases h
  | .unclosed inner, depth + 1, n, h => by
    simp only [Primary.value] at h
    obtain ⟨m, -, h⟩ := bind_eq_ok h
    cases h

/-- A factor that has a value is whole, asks for nothing too much, and is no deeper than allowed. -/
theorem Factor.sound : ∀ (t : Factor) {depth : Nat} {n : Int}, t.value k column depth = .ok n →
    t.Whole ∧ t.Admissible k ∧ t.depth ≤ depth
  | .one first, depth, n, h => by
    simp only [Factor.value] at h
    exact first.sound h
  | .step left op right, depth, n, h => by
    simp only [Factor.value] at h
    obtain ⟨a, ha, h⟩ := bind_eq_ok h
    obtain ⟨b, hb, h⟩ := bind_eq_ok h
    obtain ⟨lwhole, ladmissible, ldepth⟩ := left.sound ha
    obtain ⟨rwhole, radmissible, rdepth⟩ := right.sound hb
    refine ⟨⟨lwhole, rwhole⟩, ⟨ladmissible, radmissible, fun hop _ _ hzero => ?_⟩, ?_⟩
    · -- the divisor has one value only, and that was not zero
      exact Multiplicative.ne_zero_of_combine h hop (right.value_unique hb hzero)
    · exact Nat.max_le.mpr ⟨ldepth, rdepth⟩

/-- A term that has a value is whole, asks for nothing too much, and is no deeper than allowed. -/
theorem Term.sound : ∀ (t : Term) {depth : Nat} {n : Int}, t.value k column depth = .ok n →
    t.Whole ∧ t.Admissible k ∧ t.depth ≤ depth
  | .one first, depth, n, h => by
    simp only [Term.value] at h
    exact first.sound h
  | .step left op right, depth, n, h => by
    simp only [Term.value] at h
    obtain ⟨a, ha, h⟩ := bind_eq_ok h
    obtain ⟨b, hb, -⟩ := bind_eq_ok h
    obtain ⟨lwhole, ladmissible, ldepth⟩ := left.sound ha
    obtain ⟨rwhole, radmissible, rdepth⟩ := right.sound hb
    exact ⟨⟨lwhole, rwhole⟩, ⟨ladmissible, radmissible⟩, Nat.max_le.mpr ⟨ldepth, rdepth⟩⟩

/-- Arguments that have values are whole and ask for nothing too much, there is room for them, and
there are as many values. -/
theorem Arguments.sound : ∀ (args : Arguments) {depth : Nat} {name : String} {room : Nat}
    {values : List Int}, args.values k column depth name room = .ok values →
    args.Whole ∧ args.Admissible k ∧ args.depth ≤ depth ∧ args.count ≤ room ∧
      values.length = args.count
  | .close, depth, name, room, values, h => by
    simp only [Arguments.values] at h
    cases h
    exact ⟨trivial, trivial, Nat.zero_le _, Nat.zero_le _, rfl⟩
  | .more .., _, _, 0, _, h => by
    simp only [Arguments.values] at h
    cases h
  | .more first _ rest, depth, name, room + 1, values, h => by
    simp only [Arguments.values] at h
    obtain ⟨n, hn, h⟩ := bind_eq_ok h
    obtain ⟨others, hothers, h⟩ := bind_eq_ok h
    cases h
    obtain ⟨fwhole, fadmissible, fdepth⟩ := first.sound hn
    obtain ⟨rwhole, radmissible, rdepth, hcount, hlength⟩ := rest.sound hothers
    refine ⟨⟨fwhole, rwhole⟩, ⟨fadmissible, radmissible⟩, Nat.max_le.mpr ⟨fdepth, rdepth⟩,
      Nat.succ_le_succ hcount, ?_⟩
    rw [List.length_cons, hlength]
    rfl
  | .cut, _, _, _, _, h => by
    simp only [Arguments.values] at h
    cases h

end

end LineScan.Grammar
