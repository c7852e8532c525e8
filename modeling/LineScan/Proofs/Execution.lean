import LineScan.Proofs.Evaluator
import LineScan.Proofs.Terminals

/-!
# The calculator reads a tree and works it out

The rules of the calculator read and evaluate in one pass. Here the two are taken apart: the outcome
of a rule is the value of the tree that is read of the text, and the rule ends where the reading has
got to (`Agrees`). The reading itself knows neither variables nor functions nor limits, so whatever
is proved about it holds for every calculator.

Each rule is compared with the reading of the same name, given that the nested primaries agree; the
knot is tied by induction on the depth.
-/

namespace LineScan.Grammar

open Calculator

variable {k : Calculator} {line text rest : Line} {s : Scanner}

/-! ## Agreement -/

/-- A rule has ended as expected: with the expected value, standing where the reading goes on, or
with the expected cause of failure, at the column that it names. -/
inductive Agrees {α : Type} (line : Line) :
    EStateM.Result Failure Scanner α → Except Abort α → Front → Prop where
  | ok {a : α} {s : Scanner} {rest : Line} (stands : Stands line rest s) :
      Agrees line (.ok a s) (.ok a) (.going rest)
  | failed {e : Failure} {s : Scanner} {front : Front} (located : e.Located) :
      Agrees line (.error e s) (.error e.cause) front

/-- The column is the one where the reading is stuck, if it is. -/
def Front.Names (front : Front) (line : Line) (column : Int) : Prop :=
  ∀ rest, front = .stuck rest → column = line.place rest + 1

/-- A reading that goes on names no column. -/
theorem Front.names_going (line rest : Line) (column : Int) :
    (Front.going rest).Names line column :=
  fun _ h => by cases h

/-- Give a value, or fail for its cause. -/
def perform {α : Type} (k : Calculator) : Except Abort α → Rule α
  | .ok a => pure a
  | .error (.complaint c) => k.complain c
  | .error (.fault f) => Rule.fault f

/-- No complaint of a value names a column. -/
def Placeless {α : Type} (value : Except Abort α) : Prop :=
  ∀ c, value = .error (.complaint c) → c.column? = none

namespace Agrees

variable {α β : Type} {x : Rule α} {f : α → Rule β} {value : Except Abort α} {front front' : Front}

/-- One rule after another agrees with one value after another. -/
theorem bind {next : α → Except Abort β} (h : Agrees line (x s) value front)
    (hnext : ∀ a s' rest, value = .ok a → front = .going rest → Stands line rest s' →
      Agrees line (f a s') (next a) front') :
    Agrees line ((x >>= f) s) (value >>= next) front' := by
  rw [bind_apply]
  generalize x s = result at h
  cases h with
  | ok stands => exact hnext _ _ _ rfl rfl stands
  | failed located => exact .failed located

/-- A complaint at the current column has the expected cause. -/
theorem complain {c : Complaint} (front : Front) (hook : s.hook = none)
    (hcolumn : ∀ column, c.column? = some column → s.state.errorColumn = column) :
    Agrees line (k.complain c s : EStateM.Result Failure Scanner α) (refuse c) front := by
  rw [Calculator.complain, Rule.complain_of_no_hook c hook]
  exact .failed hcolumn

/-- A complaint that names no column has the expected cause at any column. -/
theorem complain_placeless {c : Complaint} (front : Front) (hook : s.hook = none)
    (hc : c.column? = none) :
    Agrees line (k.complain c s : EStateM.Result Failure Scanner α) (refuse c) front :=
  complain front hook fun column h => by rw [hc] at h; cases h

/-- Giving a value leaves the scanner where it stands. -/
theorem perform (k : Calculator) {value : Except Abort α} (hvalue : Placeless value)
    (hs : Stands line rest s) : Agrees line (perform k value s) value (.going rest) := by
  match value with
  | .ok a => exact .ok hs
  | .error (.complaint c) => exact complain_placeless _ hs.hook_eq (hvalue c rfl)
  | .error (.fault f) => exact .failed trivial

/-- A rule that agrees with a stuck reading has failed, and nothing comes after it. -/
theorem stuck_bind {place : Line} {f : α → Rule α} (h : Agrees line (x s) value (.stuck place))
    (front : Front) : Agrees line ((x >>= f) s) value front := by
  rw [bind_apply]
  generalize x s = result at h
  cases h with
  | failed located => exact .failed located

end Agrees

/-! ## Operators -/

/-- The marks of the calculator that are looked for as characters. -/
theorem probes_mark (k : Calculator) (c : Char)
    (h : Text.isBlank c = false ∧ c ≠ Line.nul) : Probes k.setting (.char c) c :=
  probes_char k.setting h.1 h.2

/-- The division sign is looked for as a literal of one character. -/
theorem probes_obelus (k : Calculator) : Probes k.setting (.literal ['÷']) '÷' :=
  probes_literal k.setting (by decide) (by decide) (by decide) (by decide)

/-- An operator that is looked for is found if and only if it is the one that comes next. -/
theorem after?_of_readOperator? {α : Type} {ofChar? : Char → Option α} {char : α → Char}
    (hchar : ∀ c op, ofChar? c = some op ↔ c = char op) {op : α}
    (h : readOperator? ofChar? text = some (op, rest)) : text.after? (char op) = some rest := by
  obtain ⟨c, ha, hc⟩ := readOperator?_eq_some.mp h
  rw [Line.after?_eq_some, ha, (hchar c op).mp hc]

/-- In front of one operator no other one is found. -/
theorem after?_ne_of_readOperator? {α : Type} {ofChar? : Char → Option α} {char : α → Char}
    (hchar : ∀ c op, ofChar? c = some op ↔ c = char op) {op other : α} (hne : other ≠ op)
    (h : readOperator? ofChar? text = some (op, rest)) : text.after? (char other) = none := by
  obtain ⟨c, ha, hc⟩ := readOperator?_eq_some.mp h
  rw [Line.after?_eq_none, ha]
  intro hhead
  cases Option.some.inj hhead
  have := (hchar _ other).mpr rfl
  rw [hc] at this
  exact hne (Option.some.inj this).symm

/-- Where no operator is read, none is found. -/
theorem after?_of_no_operator {α : Type} {ofChar? : Char → Option α} {char : α → Char}
    (hchar : ∀ c op, ofChar? c = some op ↔ c = char op)
    (h : readOperator? ofChar? text = none) (op : α) : text.after? (char op) = none := by
  rw [Line.after?_eq_none]
  intro hhead
  have := readOperator?_eq_none.mp h _ hhead
  rw [(hchar _ op).mpr rfl] at this
  cases this

section

variable (k : Calculator) (primary : Rule Int) (fuel : Nat) (n : Int)

/-- The loop of a factor ends where no operator of it comes next. -/
theorem factorLoop_stop (hs : Stands line text s)
    (h : readOperator? Multiplicative.ofChar? text = none) :
    ∃ s', factorLoop k primary (fuel + 1) n s = .ok n s' ∧ Stands line text s' := by
  have hnone := after?_of_no_operator (fun _ _ => Multiplicative.ofChar?_eq_some) h
  obtain ⟨s₁, h₁, hs₁, -⟩ := (probes_mark k '*' (by decide)).miss hs (hnone .times)
  obtain ⟨s₂, h₂, hs₂, -⟩ := (probes_mark k '/' (by decide)).miss hs₁ (hnone .slash)
  obtain ⟨s₃, h₃, hs₃, -⟩ := (probes_obelus k).miss hs₂ (hnone .obelus)
  refine ⟨s₃, ?_, hs₃⟩
  simp [factorLoop, acceptChar, h₁, h₂, h₃]

/-- The loop of a factor combines its value with the primary after an operator, and goes on. -/
theorem factorLoop_step {op : Multiplicative} (hs : Stands line text s)
    (h : readOperator? Multiplicative.ofChar? text = some (op, rest)) :
    ∃ s', Stands line rest s' ∧ factorLoop k primary (fuel + 1) n s =
      ((do perform k (op.combine n (← primary))) >>= factorLoop k primary fuel) s' := by
  have hfound := after?_of_readOperator? (fun _ _ => Multiplicative.ofChar?_eq_some) h
  have hother : ∀ other, other ≠ op → text.after? other.char = none := fun other hne =>
    after?_ne_of_readOperator? (fun _ _ => Multiplicative.ofChar?_eq_some) hne h
  have hdivide : ∀ (op : Multiplicative), op.divides = true →
      (do
        let d ← primary
        if d = 0 then k.complain .divisionByZero
        factorLoop k primary fuel (truncDiv n d)) =
      ((do perform k (op.combine n (← primary))) >>= factorLoop k primary fuel) := by
    intro op hop
    rw [bind_assoc]
    congr 1
    funext d
    by_cases hd : d = 0
    · -- a complaint ends the round, whatever comes after it
      rw [hd, Multiplicative.combine, if_pos hop, if_pos rfl, if_pos rfl, perform]
      exact (Rule.complain_bind _ _ _).trans (Rule.complain_bind _ _ _).symm
    · simp [Multiplicative.combine, hop, hd, perform, truncDiv_eq_tdiv]
  -- the marks are looked for in this order, and one that is missed leaves the scanner where it is
  cases op with
  | times =>
    obtain ⟨s₁, h₁, hs₁⟩ := (probes_mark k '*' (by decide)).hit hs hfound
    refine ⟨s₁, hs₁, ?_⟩
    rw [bind_assoc]
    simp [factorLoop, acceptChar, h₁, Multiplicative.combine, Multiplicative.divides, perform]
  | slash =>
    obtain ⟨s₁, h₁, hs₁, -⟩ :=
      (probes_mark k '*' (by decide)).miss hs (hother .times (by decide))
    obtain ⟨s₂, h₂, hs₂⟩ := (probes_mark k '/' (by decide)).hit hs₁ hfound
    refine ⟨s₂, hs₂, ?_⟩
    rw [← hdivide .slash rfl]
    simp [factorLoop, acceptChar, h₁, h₂]
  | obelus =>
    obtain ⟨s₁, h₁, hs₁, -⟩ :=
      (probes_mark k '*' (by decide)).miss hs (hother .times (by decide))
    obtain ⟨s₂, h₂, hs₂, -⟩ :=
      (probes_mark k '/' (by decide)).miss hs₁ (hother .slash (by decide))
    obtain ⟨s₃, h₃, hs₃⟩ := (probes_obelus k).hit hs₂ hfound
    refine ⟨s₃, hs₃, ?_⟩
    rw [← hdivide .obelus rfl]
    simp [factorLoop, acceptChar, h₁, h₂, h₃]

/-- The loop of a term ends where no operator of it comes next. -/
theorem termLoop_stop (hs : Stands line text s) (h : readOperator? Additive.ofChar? text = none) :
    ∃ s', termLoop k primary (fuel + 1) n s = .ok n s' ∧ Stands line text s' := by
  have hnone := after?_of_no_operator (fun _ _ => Additive.ofChar?_eq_some) h
  obtain ⟨s₁, h₁, hs₁, -⟩ := (probes_mark k '+' (by decide)).miss hs (hnone .plus)
  obtain ⟨s₂, h₂, hs₂, -⟩ := (probes_mark k '-' (by decide)).miss hs₁ (hnone .minus)
  refine ⟨s₂, ?_, hs₂⟩
  simp [termLoop, acceptChar, h₁, h₂]

/-- The loop of a term combines its value with the factor after an operator, and goes on. -/
theorem termLoop_step {op : Additive} (hs : Stands line text s)
    (h : readOperator? Additive.ofChar? text = some (op, rest)) :
    ∃ s', Stands line rest s' ∧ termLoop k primary (fuel + 1) n s =
      ((do perform k (.ok (op.combine n (← factor k primary)))) >>= termLoop k primary fuel)
        s' := by
  have hfound := after?_of_readOperator? (fun _ _ => Additive.ofChar?_eq_some) h
  cases op with
  | plus =>
    obtain ⟨s₁, h₁, hs₁⟩ := (probes_mark k '+' (by decide)).hit hs hfound
    refine ⟨s₁, hs₁, ?_⟩
    rw [bind_assoc]
    simp [termLoop, acceptChar, h₁, Additive.combine, perform]
  | minus =>
    have hother : text.after? '+' = none :=
      after?_ne_of_readOperator? (fun _ _ => Additive.ofChar?_eq_some)
        (show Additive.plus ≠ .minus by decide) h
    obtain ⟨s₁, h₁, hs₁, -⟩ := (probes_mark k '+' (by decide)).miss hs hother
    obtain ⟨s₂, h₂, hs₂⟩ := (probes_mark k '-' (by decide)).hit hs₁ hfound
    refine ⟨s₂, hs₂, ?_⟩
    rw [bind_assoc]
    simp [termLoop, acceptChar, h₁, h₂, Additive.combine, perform]

end

/-! ## Chains -/

/-- A rule agrees with a reading on every text below a length, whatever the value of a tree is. -/
def Follows {α τ : Type} (line : Line) (bound : Nat) (rule : Rule α) (reader : Reader τ)
    (value : Int → τ → Except Abort α) : Prop :=
  ∀ text s column, Stands line text s → text.length < bound →
    (reader text).2.Names line column →
    Agrees line (rule s) (value column (reader text).1) (reader text).2

/-- The trees of a chain are worked out from left to right. -/
structure Chain.Evaluates {ω α β : Type} (chain : Chain ω α β)
    (combine : ω → Int → Int → Except Abort Int) (operandValue : Int → α → Except Abort Int)
    (value : Int → β → Except Abort Int) : Prop where
  value_one : ∀ column first, value column (chain.one first) = operandValue column first
  value_step : ∀ column left op right, value column (chain.step left op right) =
    value column left >>= fun a => operandValue column right >>= combine op a
  placeless : ∀ op a b, Placeless (combine op a b)

/-- A loop goes on as long as operators follow: it ends in front of anything else, and after an
operator it combines the value so far with that of the next operand. -/
structure Chain.Loops {ω α β : Type} (chain : Chain ω α β) (k : Calculator) (line : Line)
    (combine : ω → Int → Int → Except Abort Int) (operand : Rule Int)
    (loop : Nat → Int → Rule Int) : Prop where
  stop : ∀ fuel n text s, Stands line text s → readOperator? chain.ofChar? text = none →
    ∃ s', loop (fuel + 1) n s = .ok n s' ∧ Stands line text s'
  step : ∀ fuel n text s op rest, Stands line text s →
    readOperator? chain.ofChar? text = some (op, rest) →
    ∃ s', Stands line rest s' ∧
      loop (fuel + 1) n s = ((do perform k (combine op n (← operand))) >>= loop fuel) s'

namespace Chain

variable {ω α β : Type} {chain : Chain ω α β} {combine : ω → Int → Int → Except Abort Int}
  {operandValue : Int → α → Except Abort Int} {value : Int → β → Except Abort Int}
  {operand : Rule Int} {loop : Nat → Int → Rule Int} {reader : Reader α} {bound : Nat}

/-- What goes wrong on the left of a chain is what goes wrong in the chain. -/
theorem Evaluates.error_readRest (he : chain.Evaluates combine operandValue value) {column : Int}
    {cause : Abort} (fuel : Nat) {left : β} (text : Line)
    (h : value column left = .error cause) :
    value column (chain.readRest reader fuel left text).1 = .error cause := by
  induction fuel generalizing left text with
  | zero => exact h
  | succ fuel ih =>
    have hstep : ∀ op right, value column (chain.step left op right) = .error cause := by
      intro op right
      rw [he.value_step, h]
      rfl
    unfold readRest
    split
    · exact h
    · split
      · exact ih _ (hstep _ _)
      · exact hstep _ _

/-- The loop of a chain agrees with the reading of the rest of the chain. -/
theorem Loops.agrees_readRest (hl : chain.Loops k line combine operand loop)
    (he : chain.Evaluates combine operandValue value) (consumes : Consumes reader)
    (hoperand : Follows line bound operand reader operandValue) {column : Int} {x : Rule Int}
    {left : β} (fuel rounds : Nat) (hfuel : text.length < fuel) (hrounds : text.length < rounds)
    (hbound : text.length < bound) (hx : Agrees line (x s) (value column left) (.going text))
    (hnames : (chain.readRest reader fuel left text).2.Names line column) :
    Agrees line ((x >>= loop rounds) s) (value column (chain.readRest reader fuel left text).1)
      (chain.readRest reader fuel left text).2 := by
  induction fuel generalizing rounds text left x s with
  | zero => omega
  | succ fuel ih =>
    obtain ⟨rounds, rfl⟩ : ∃ r, rounds = r + 1 := ⟨rounds - 1, by omega⟩
    rw [bind_apply]
    generalize hresult : x s = result at hx
    generalize hleft : value column left = leftValue at hx
    cases hx with
    | failed located =>
      -- the rule stops here, while the reading goes on; but nothing on the right changes the error
      rw [he.error_readRest (fuel + 1) text hleft]
      exact .failed located
    | @ok n s₁ _ stands =>
      rw [readRest] at hnames ⊢
      cases hop : readOperator? chain.ofChar? text with
      | none =>
        obtain ⟨s₂, hs₂, hstands⟩ := hl.stop rounds n text s₁ stands hop
        simp only [hleft, hs₂]
        exact .ok hstands
      | some found =>
        obtain ⟨op, rest⟩ := found
        have hlt := (past_of_readOperator? hop).length_lt
        have hp := consumes rest
        obtain ⟨s₂, hs₂, hloop⟩ := hl.step rounds n text s₁ op rest stands hop
        have hagrees := hoperand rest s₂ column hs₂ (by omega)
        simp only [hop, hloop] at hnames ⊢
        generalize reader rest = reading at hp hagrees hnames
        obtain ⟨right, front⟩ := reading
        have hfront : front.Names line column := by
          rintro place rfl
          exact hnames place rfl
        -- one round of the loop gives the value of the chain up to the operand
        have hround : Agrees line ((do perform k (combine op n (← operand))) s₂)
            (value column (chain.step left op right)) front := by
          rw [he.value_step, hleft]
          refine (hagrees hfront).bind fun b s₃ rest₃ _ hgoing hs₃ => ?_
          cases hgoing
          exact Agrees.perform k (he.placeless op n b) hs₃
        cases front with
        | going rest₃ =>
          have hlt₃ := Front.Past.length_lt hp
          exact ih rounds (by omega) (by omega) (by omega) hround hnames
        | stuck place =>
          -- a reading that is stuck has no value, so the loop has failed with the operand
          exact hround.stuck_bind _

/-- A chain whose loop makes enough rounds agrees with its reading. -/
theorem Loops.follows (hl : chain.Loops k line combine operand loop)
    (he : chain.Evaluates combine operandValue value) (consumes : Consumes reader)
    (hoperand : Follows line bound operand reader operandValue) :
    Follows line bound (do let n ← operand; loop (← rounds) n) (chain.read reader) value := by
  intro text s column hs hbound hnames
  have hp := consumes text
  have hagrees := hoperand text s column hs hbound
  unfold read at hnames ⊢
  generalize reader text = reading at hp hagrees hnames
  obtain ⟨first, front⟩ := reading
  rw [← he.value_one] at hagrees
  have hfront : front.Names line column := by
    rintro place rfl
    exact hnames place rfl
  have hagrees := hagrees hfront
  -- the line does not change, so neither does the number of rounds
  have hrounds : (do let n ← operand; loop (← rounds) n) s =
      (operand >>= loop (line.length + 1)) s := by
    rw [bind_apply, bind_apply]
    generalize operand s = result at hagrees
    generalize value column (chain.one first) = firstValue at hagrees
    cases hagrees with
    | ok stands => rw [← stands.line_eq]; rfl
    | failed located => rfl
  rw [hrounds]
  cases front with
  | going rest =>
    have hlt := Front.Past.length_lt hp
    have hline := hs.suffix.length_le
    exact hl.agrees_readRest he consumes hoperand (rest.length + 1) (line.length + 1) (by omega)
      (by omega) (by omega) hagrees hnames
  | stuck place =>
    exact hagrees.stuck_bind _

end Chain

/-! ## Factors and terms -/

/-- Factors are worked out from left to right. -/
theorem products_evaluates (k : Calculator) (depth : Nat) :
    products.Evaluates Multiplicative.combine (fun column => Primary.value k column depth)
      (fun column => Factor.value k column depth) where
  value_one _ _ := by rw [products, Factor.value]
  value_step _ _ _ _ := by rw [products, Factor.value]
  placeless op a b c h := by
    unfold Multiplicative.combine at h
    grind [Complaint.column?]

/-- Terms are worked out from left to right. -/
theorem sums_evaluates (k : Calculator) (depth : Nat) :
    sums.Evaluates (fun op a b => .ok (op.combine a b)) (fun column => Factor.value k column depth)
      (fun column => Term.value k column depth) where
  value_one _ _ := by rw [sums, Term.value]
  value_step _ _ _ _ := by rw [sums, Term.value]
  placeless _ _ _ _ h := by cases h

/-- The loop of a factor goes on as long as operators of it follow. -/
theorem products_loops (k : Calculator) (line : Line) (primary : Rule Int) :
    products.Loops k line Multiplicative.combine primary (factorLoop k primary) where
  stop fuel n _ _ := factorLoop_stop k primary fuel n
  step fuel n _ _ _ _ := factorLoop_step k primary fuel n

/-- The loop of a term goes on as long as operators of it follow. -/
theorem sums_loops (k : Calculator) (line : Line) (primary : Rule Int) :
    sums.Loops k line (fun op a b => .ok (op.combine a b)) (factor k primary)
      (termLoop k primary) where
  stop fuel n _ _ := termLoop_stop k primary fuel n
  step fuel n _ _ _ _ := termLoop_step k primary fuel n

section

variable {depth bound : Nat} {nested : Reader Primary} {primary : Rule Int}
  (consumes : Consumes nested)
  (follows : Follows line bound primary nested (fun column => Primary.value k column depth))

include consumes follows

/-- The rule for factors agrees with their reading if that for primaries does. -/
theorem follows_factor :
    Follows line bound (factor k primary) (readFactor nested)
      (fun column => Factor.value k column depth) :=
  (products_loops k line primary).follows (products_evaluates k depth) consumes follows

/-- The rule for terms agrees with their reading if that for primaries does. -/
theorem follows_term :
    Follows line bound (term k primary) (readTerm nested)
      (fun column => Term.value k column depth) :=
  (sums_loops k line primary).follows (sums_evaluates k depth) (consumes_readFactor consumes)
    (follows_factor consumes follows)

omit consumes follows in
/-- After an argument a comma is skipped, and the line must not end. -/
theorem agrees_others {others : Reader Arguments} {first : Term} {column : Int} (name : String)
    (room : Nat) {x : Rule Int} {xs : Rule (List Int)}
    (hx : Agrees line (x s) (first.value k column depth) (.going text))
    (hxs : ∀ rest s', rest <:+ text → Stands line rest s' → (others rest).2.Names line column →
      Agrees line (xs s') ((others rest).1.values k column depth name room) (others rest).2)
    (hnames : (readOthers others first text).2.Names line column) :
    Agrees line
      ((do
        let n ← x
        if !(← k.acceptChar ',') then
          if ← Rule.acceptTarget k.setting .endOfLine then
            k.complain (.unclosedCall name)
        let others ← xs
        pure (n :: others) : Rule (List Int)) s)
      ((readOthers others first text).1.values k column depth name (room + 1))
      (readOthers others first text).2 := by
  have hmore : ∀ n rest s', rest <:+ text → Stands line rest s' →
      (others rest).2.Names line column →
      Agrees line ((do let others ← xs; pure (n :: others) : Rule (List Int)) s')
        (do let values ← (others rest).1.values k column depth name room; .ok (n :: values))
        (others rest).2 := by
    intro n rest s' hrest hs' hnames'
    refine (hxs rest s' hrest hs' hnames').bind fun values s'' rest'' _ hgoing hs'' => ?_
    rw [hgoing]
    exact .ok hs''
  unfold readOthers at hnames ⊢
  cases hcomma : text.after? ',' with
  | some rest =>
    simp only [hcomma, Arguments.values] at hnames ⊢
    refine hx.bind fun n s₁ rest₁ _ hgoing hs₁ => ?_
    cases hgoing
    obtain ⟨s₂, h₂, hs₂⟩ := (probes_mark k ',' (by decide)).hit hs₁ hcomma
    rw [bind_apply, acceptChar, h₂]
    exact hmore n rest s₂ (past_of_after? hcomma).suffix hs₂ hnames
  | none =>
    cases hend : text.atEnd with
    | true =>
      -- neither a comma nor anything else follows, so the call is not closed
      simp only [hcomma, hend, if_true, Arguments.values] at hnames ⊢
      refine hx.bind fun n s₁ rest₁ _ hgoing hs₁ => ?_
      cases hgoing
      obtain ⟨s₂, h₂, hs₂, -⟩ := (probes_mark k ',' (by decide)).miss hs₁ hcomma
      obtain ⟨s₃, h₃, hs₃⟩ := accept_endOfLine k.setting hs₂
      simp only [bind_apply, acceptChar, h₂, h₃, hend, cond_apply, if_true, Bool.not_false,
        Calculator.complain, Rule.complain_of_no_hook _ hs₃.hook_eq]
      exact .failed fun _ h => by cases h
    | false =>
      simp only [hcomma, hend, Bool.false_eq_true, if_false, Arguments.values] at hnames ⊢
      refine hx.bind fun n s₁ rest₁ _ hgoing hs₁ => ?_
      cases hgoing
      obtain ⟨s₂, h₂, hs₂, -⟩ := (probes_mark k ',' (by decide)).miss hs₁ hcomma
      obtain ⟨s₃, h₃, hs₃⟩ := accept_endOfLine k.setting hs₂
      rw [hend, if_neg Bool.false_ne_true] at hs₃
      have hround := hmore n text s₃ (List.suffix_refl text) hs₃ hnames
      simp only [bind_apply, acceptChar, h₂, h₃, hend, cond_apply, if_true, Bool.not_false,
        Bool.false_eq_true, if_false] at hround ⊢
      exact hround

omit consumes follows in
/-- The closing parenthesis ends the arguments, however many more there may be. -/
theorem arguments_close (k : Calculator) (primary : Rule Int) (name : String) (room : Nat)
    (hs : Stands line text s) (h : text.after? ')' = some rest) :
    ∃ s', arguments k primary name room s = .ok [] s' ∧ Stands line rest s' := by
  obtain ⟨s', h', hs'⟩ := (probes_mark k ')' (by decide)).hit hs h
  refine ⟨s', ?_, hs'⟩
  cases room <;> simp [arguments, acceptChar, h']

omit consumes follows in
/-- Where there is no closing parenthesis there is one argument more. -/
theorem values_readArguments_of_no_room {column : Int} (name : String) (fuel : Nat)
    (h : text.after? ')' = none) :
    (readArguments nested (fuel + 1) text).1.values k column depth name 0 =
      refuse (.tooManyArguments name) := by
  simp only [readArguments, h]
  split
  · rw [Arguments.values]
  · rw [readOthers]
    split
    · rw [Arguments.values]
    · split <;> rw [Arguments.values]

/-- The arguments of a call agree with their reading, as long as the reading has the fuel for it;
how many arguments there may be is a matter of the values alone. -/
theorem agrees_arguments {column : Int} (name : String) (room fuel : Nat)
    (hs : Stands line text s) (hfuel : text.length < fuel) (hbound : text.length < bound)
    (hnames : (readArguments nested fuel text).2.Names line column) :
    Agrees line (arguments k primary name room s)
      ((readArguments nested fuel text).1.values k column depth name room)
      (readArguments nested fuel text).2 := by
  -- the rule recurses on the room for arguments, and the reading always has fuel enough
  induction room generalizing fuel text s with
  | zero =>
    obtain ⟨fuel, rfl⟩ : ∃ f, fuel = f + 1 := ⟨fuel - 1, by omega⟩
    cases hclose : text.after? ')' with
    | some rest =>
      obtain ⟨s₁, h₁, hs₁⟩ := arguments_close k primary name 0 hs hclose
      simp only [readArguments, hclose, h₁, Arguments.values]
      exact .ok hs₁
    | none =>
      obtain ⟨s₁, h₁, hs₁, -⟩ := (probes_mark k ')' (by decide)).miss hs hclose
      -- the complaint comes before the argument that is too many is read
      rw [values_readArguments_of_no_room name fuel hclose, arguments, bind_apply, lift_apply,
        acceptChar, h₁]
      exact Agrees.complain_placeless _ hs₁.hook_eq rfl
  | succ room ih =>
    obtain ⟨fuel, rfl⟩ : ∃ f, fuel = f + 1 := ⟨fuel - 1, by omega⟩
    rw [readArguments] at hnames ⊢
    cases hclose : text.after? ')' with
    | some rest =>
      obtain ⟨s₁, h₁, hs₁⟩ := arguments_close k primary name (room + 1) hs hclose
      simp only [h₁, Arguments.values]
      exact .ok hs₁
    | none =>
      obtain ⟨s₁, h₁, hs₁, -⟩ := (probes_mark k ')' (by decide)).miss hs hclose
      have hp := consumes_readTerm consumes text
      have hterm := follows_term consumes follows text s₁ column hs₁ hbound
      rw [arguments, bind_apply, lift_apply, acceptChar, h₁]
      simp only [hclose] at hnames ⊢
      generalize readTerm nested text = reading at hp hterm hnames
      obtain ⟨first, front⟩ := reading
      cases front with
      | stuck place =>
        simp only [Arguments.values]
        exact (hterm hnames).bind fun _ _ _ _ hgoing _ => by cases hgoing
      | going rest =>
        have hlt := Front.Past.length_lt hp
        refine agrees_others name room (hterm (Front.names_going line rest column)) ?_ hnames
        intro rest' s' hrest' hs' hnames'
        have hle := hrest'.length_le
        exact ih fuel hs' (by omega) (by omega) hnames'

omit consumes follows in
/-- Looking up a variable gives the value of the variable, and moves nothing. -/
theorem agrees_variableValue (name : String) (hs : Stands line rest s) :
    Agrees line (k.variableValue name s) (variableValue k name) (.going rest) := by
  unfold Calculator.variableValue variableValue
  cases k.env.get? name with
  | none => exact Agrees.complain_placeless _ hs.hook_eq rfl
  | some text =>
    cases h : Decimal.leadingInteger text.toList with
    | ok n =>
      simp only [h, Fault.ofOversize]
      exact .ok hs
    | error cause =>
      simp only [h, Fault.ofOversize]
      exact .failed trivial

omit consumes follows in
/-- A pure function answers on any scanner what it answers on a fresh one. -/
theorem agrees_callValue (hpure : k.PureFunctions) {name : String} {function : Builtin}
    (known : k.functions.get? name = some function) (args : List Int) (hs : Stands line rest s) :
    Agrees line
      ((do
        if needsArgument name && args.isEmpty then k.complain (.argumentNeeded name)
        function.apply k.source args : Rule Int) s)
      (callValue k name function args) (.going rest) := by
  unfold callValue
  by_cases hneed : (needsArgument name && args.isEmpty) = true
  · simp only [hneed, if_true, bind_apply, Calculator.complain,
      Rule.complain_of_no_hook _ hs.hook_eq]
    exact .failed fun _ h => by cases h
  · rw [if_neg hneed, if_neg hneed, answer]
    change Agrees line (function.apply k.source args s) _ _
    rcases hpure name function args known (applicable_of_not_lacking hneed) with ⟨n, hn⟩ | ⟨f, hf⟩
    · rw [hn, hn]
      exact .ok hs
    · rw [hf, hf]
      exact .failed trivial

/-- A call or a variable agrees with its reading, from just after the name. -/
theorem agrees_named {column : Int} (hpure : k.PureFunctions) (name : Identifier)
    (hs : Stands line text s) (hbound : text.length < bound)
    (hnames : (readNamed nested name text).2.Names line column) :
    Agrees line
      ((do if ← k.acceptChar '(' then call k primary name.text else k.variableValue name.text) s)
      ((readNamed nested name text).1.value k column (depth + 1))
      (readNamed nested name text).2 := by
  unfold readNamed at hnames ⊢
  cases hopen : text.after? '(' with
  | none =>
    obtain ⟨s₁, h₁, hs₁, -⟩ := (probes_mark k '(' (by decide)).miss hs hopen
    rw [bind_apply, acceptChar, h₁, Primary.value]
    exact agrees_variableValue name.text hs₁
  | some inside =>
    obtain ⟨s₁, h₁, hs₁⟩ := (probes_mark k '(' (by decide)).hit hs hopen
    have hlt := (past_of_after? hopen).length_lt
    rw [bind_apply, acceptChar, h₁]
    simp only [hopen, cond_apply, if_true, call, Primary.value] at hnames ⊢
    cases hknown : k.functions.get? name.text with
    | none => exact Agrees.complain_placeless _ hs₁.hook_eq rfl
    | some function =>
      have hargs := agrees_arguments consumes follows name.text maxArguments (inside.length + 1)
        hs₁ (by omega) (by omega) hnames
      refine hargs.bind fun args s₂ rest₂ _ hgoing hs₂ => ?_
      rw [hgoing]
      exact agrees_callValue hpure hknown args hs₂

/-- A term in parentheses agrees with its reading, from just after the opening one. -/
theorem agrees_paren {column : Int} (hs : Stands line text s) (hbound : text.length < bound)
    (hnames : (readParen nested text).2.Names line column) :
    Agrees line
      ((do
        let n ← term k primary
        Rule.expectTarget k.setting (.char ')') none
        pure n) s)
      ((readParen nested text).1.value k column (depth + 1)) (readParen nested text).2 := by
  have hterm := follows_term consumes follows text s column hs hbound
  unfold readParen at hnames ⊢
  generalize readTerm nested text = reading at hterm hnames
  obtain ⟨inner, front⟩ := reading
  cases front with
  | stuck place =>
    simp only [Primary.value]
    exact (hterm hnames).bind fun _ _ _ _ hgoing _ => by cases hgoing
  | going rest =>
    have hterm := hterm (Front.names_going line rest column)
    cases hclose : rest.after? ')' with
    | some rest' =>
      simp only [hclose, Primary.value]
      rw [← bind_pure (inner.value k column depth)]
      refine hterm.bind fun n s₁ rest₁ _ hgoing hs₁ => ?_
      cases hgoing
      obtain ⟨s₂, h₂, hs₂⟩ := (probes_mark k ')' (by decide)).hit hs₁ hclose
      simp only [Rule.expectTarget, bind_apply, h₂, cond_apply, if_true, pure_apply]
      exact .ok hs₂
    | none =>
      simp only [hclose, Primary.value] at hnames ⊢
      -- the column is that of the attempt at the parenthesis, which is where the reading is stuck
      have hcolumn := hnames rest.ahead rfl
      refine hterm.bind fun n s₁ rest₁ _ hgoing hs₁ => ?_
      cases hgoing
      obtain ⟨s₂, h₂, hs₂, herror⟩ := (probes_mark k ')' (by decide)).miss hs₁ hclose
      have hwrites := hs₂.writes_column hcolumn
      rw [← hcolumn] at herror
      simp only [Rule.expectTarget, bind_apply, h₂, cond_apply, Bool.false_eq_true, if_false,
        get_apply, herror, Rule.complainAt_of_writes _ hwrites,
        Rule.complain_of_no_hook _ hs₂.hook_eq]
      refine .failed fun named hnamed => ?_
      cases hnamed
      exact herror

omit consumes in
/-- A sign or an integer agrees with its reading. -/
theorem agrees_signed {column : Int} (hs : Stands line text s) (hbound : text.length < bound + 1)
    (hnames : (readSigned nested text).2.Names line column) :
    Agrees line
      ((do
        if ← k.acceptChar '-' then
          let n ← primary
          pure (-n)
        else if ← k.acceptChar '+' then
          primary
        else if ← Rule.acceptTarget k.setting (.terminal (intTerminal k.maxInt)) then
          scannedInt
        else do
          let column := (← get).state.errorColumn
          k.complainAt column (.syntaxError column) : Rule Int) s)
      ((readSigned nested text).1.value k column (depth + 1)) (readSigned nested text).2 := by
  unfold readSigned at hnames ⊢
  cases hop : readOperator? Additive.ofChar? text with
  | some found =>
    obtain ⟨op, rest⟩ := found
    have hlt := (past_of_readOperator? hop).length_lt
    have hfound := after?_of_readOperator? (fun _ _ => Additive.ofChar?_eq_some) hop
    simp only [hop, Primary.value] at hnames ⊢
    have hsigned : ∀ s', Stands line rest s' →
        Agrees line ((do let n ← primary; pure (op.signed n)) s')
          (do let n ← (nested rest).1.value k column depth; .ok (op.signed n)) (nested rest).2 := by
      intro s' hs'
      have hinner := follows rest s' column hs' (by omega) hnames
      refine hinner.bind fun n s'' rest'' _ hgoing hs'' => ?_
      rw [hgoing]
      exact .ok hs''
    -- a minus is looked for first, so before a plus there is a miss
    cases op with
    | minus =>
      obtain ⟨s₁, h₁, hs₁⟩ := (probes_mark k '-' (by decide)).hit hs hfound
      rw [bind_apply, acceptChar, h₁]
      exact hsigned s₁ hs₁
    | plus =>
      have hother : text.after? '-' = none :=
        after?_ne_of_readOperator? (fun _ _ => Additive.ofChar?_eq_some)
          (show Additive.minus ≠ .plus by decide) hop
      obtain ⟨s₁, h₁, hs₁, -⟩ := (probes_mark k '-' (by decide)).miss hs hother
      obtain ⟨s₂, h₂, hs₂⟩ := (probes_mark k '+' (by decide)).hit hs₁ hfound
      have hplus := hsigned s₂ hs₂
      simp only [Additive.signed, bind_pure] at hplus
      simp only [bind_apply, acceptChar, h₁, h₂, Bool.false_eq_true, if_false, if_true]
      exact hplus
  | none =>
    have hnone := after?_of_no_operator (fun _ _ => Additive.ofChar?_eq_some) hop
    obtain ⟨s₁, h₁, hs₁, -⟩ := (probes_mark k '-' (by decide)).miss hs (hnone .minus)
    obtain ⟨s₂, h₂, hs₂, -⟩ := (probes_mark k '+' (by decide)).miss hs₁ (hnone .plus)
    simp only [bind_apply, acceptChar, h₁, h₂, Bool.false_eq_true, if_false]
    cases hnumeral : Numeral.read? text with
    | some found =>
      obtain ⟨numeral, rest⟩ := found
      simp only [Primary.value]
      by_cases hle : numeral.value ≤ k.maxInt
      · obtain ⟨s₃, h₃, hs₃, hvalue⟩ := accept_int_of_le hs₂ hnumeral hle
        simp only [h₃, if_true, scannedInt, bind_apply, get_apply, hvalue, pure_apply, if_pos hle]
        exact .ok hs₃
      · obtain ⟨e, s₃, h₃, he⟩ := accept_int_of_lt hs₂ hnumeral (Int.not_le.mp hle)
        have hcause : (Failure.scan e).cause = .complaint .overflow := by rw [Failure.cause, he]
        rw [h₃, if_neg hle, refuse, ← hcause]
        refine .failed fun column hcolumn => ?_
        rw [he] at hcolumn
        cases hcolumn
    | none =>
      simp only [hop, hnumeral, Primary.value] at hnames ⊢
      obtain ⟨s₃, h₃, hs₃, herror⟩ := accept_int_of_none k hs₂ hnumeral
      have hcolumn := hnames text.ahead rfl
      have hwrites := hs₃.writes_column hcolumn
      rw [← hcolumn] at herror
      simp only [h₃, Bool.false_eq_true, if_false, bind_apply, get_apply, herror,
        Calculator.complainAt, Rule.complainAt_of_writes _ hwrites]
      exact Agrees.complain _ hs₃.hook_eq fun column hcolumn => by cases hcolumn; exact herror

/-- A primary agrees with its reading if the primaries nested in it do. -/
theorem follows_primaryWith (hpure : k.PureFunctions) :
    Follows line (bound + 1) (primaryWith k primary) (readPrimaryWith nested)
      (fun column => Primary.value k column (depth + 1)) := by
  intro text s column hs hbound hnames
  unfold readPrimaryWith at hnames ⊢
  -- the rule tries the forms of a primary in the order in which they are read
  cases hname : Identifier.read? text with
  | some found =>
    obtain ⟨name, rest⟩ := found
    obtain ⟨s₁, h₁, hs₁, hvalue⟩ := accept_ident_of_some k hs hname
    have hlt := (past_of_readWord? hname).length_lt
    simp only [hname] at hnames ⊢
    have hnamed := agrees_named consumes follows hpure name hs₁ (by omega) hnames
    rw [primaryWith, bind_apply, lift_apply, h₁]
    simp only [if_true, bind_apply, lift_apply, scannedText, get_apply, hvalue, pure_apply]
      at hnamed ⊢
    exact hnamed
  | none =>
    obtain ⟨s₁, h₁, hs₁⟩ := accept_ident_of_none k hs hname
    simp only [hname] at hnames ⊢
    rw [primaryWith, bind_apply, lift_apply, h₁]
    cases hopen : text.after? '(' with
    | some inside =>
      obtain ⟨s₂, h₂, hs₂⟩ := (probes_mark k '(' (by decide)).hit hs₁ hopen
      have hlt := (past_of_after? hopen).length_lt
      simp only [hopen] at hnames ⊢
      have hparen := agrees_paren consumes follows hs₂ (by omega) hnames
      simp only [Bool.false_eq_true, if_false, bind_apply, lift_apply, acceptChar, h₂, if_true]
        at hparen ⊢
      exact hparen
    | none =>
      obtain ⟨s₂, h₂, hs₂, -⟩ := (probes_mark k '(' (by decide)).miss hs₁ hopen
      simp only [hopen] at hnames ⊢
      have hsigned := agrees_signed follows hs₂ hbound hnames
      simp only [Bool.false_eq_true, if_false, bind_apply, lift_apply, acceptChar, h₂] at hsigned ⊢
      exact hsigned

end

/-! ## Lines -/

/-- A primary agrees with its reading, whatever the depth that is allowed, if the nesting of the
reading is bounded by the length of the text only. -/
theorem follows_primary (hpure : k.PureFunctions) (depth nesting : Nat) :
    Follows line nesting (k.primary depth) (readPrimary nesting)
      (fun column => Primary.value k column depth) := by
  induction depth generalizing nesting with
  | zero =>
    intro text s column hs _ _
    -- the rule refuses before it scans anything, wherever the reading gets to
    simp only [Primary.value]
    exact Agrees.complain_placeless _ hs.hook_eq rfl
  | succ depth ih =>
    intro text s column hs hbound hnames
    obtain ⟨nesting, rfl⟩ : ∃ n, nesting = n + 1 := ⟨nesting - 1, by omega⟩
    exact follows_primaryWith (consumes_readPrimary nesting) (ih nesting) hpure text s column hs
      hbound hnames

/-- The value of a line: that of the term it starts with, if nothing but blanks comes after. -/
def lineValue (k : Calculator) (line : Line) : Except Abort Int := do
  let rest := (read line).2.rest
  let n ← (read line).1.value k (line.place rest + 1) k.maxDepth.toNat
  if rest.ahead.isEmpty then .ok n
  else refuse (.expected endTerminal.label (line.place rest.ahead + 1))

/-- At the start of a line a scanner stands before all of it. -/
theorem stands_startLine (s : Scanner) (line : Line) : Stands line line (s.startLine line) where
  line_eq := rfl
  cursor_eq := by simp [Scanner.startLine, ScanState.start, Line.place]
  suffix := List.suffix_refl line
  hook_eq := rfl

/-- A whole expression agrees with the value of its line. -/
theorem agrees_expr (hpure : k.PureFunctions) (hs : Stands line line s) :
    Agrees line (k.expr s) (lineValue k line) (.going []) := by
  have hnames : (read line).2.Names line (line.place (read line).2.rest + 1) := by
    intro place hplace
    rw [hplace]
    rfl
  have hterm := follows_term (consumes_readPrimary _)
    (follows_primary (k := k) hpure k.maxDepth.toNat (line.length + 1)) line s _ hs
    (Nat.lt_succ_self _) hnames
  refine hterm.bind fun n s₁ rest _ hgoing hs₁ => ?_
  have hrest : (read line).2.rest = rest := by
    rw [read, hgoing]
    rfl
  obtain ⟨s₂, h₂, hfound, hmissed⟩ := accept_end k hs₁
  rw [hrest]
  cases hend : rest.ahead.isEmpty with
  | true =>
    simp only [Rule.expectTarget, bind_apply, h₂, hend, cond_apply, if_true, pure_apply]
    exact .ok (hfound (List.isEmpty_iff.mp hend))
  | false =>
    obtain ⟨hs₂, hcolumn⟩ := hmissed (by simpa using hend)
    simp only [Rule.expectTarget, bind_apply, h₂, hend, cond_apply, Bool.false_eq_true, if_false,
      get_apply, hcolumn, Rule.complainAt_of_writes _ (hs₂.writes_column rfl),
      Rule.complain_of_no_hook _ hs₂.hook_eq]
    exact .failed fun column h => by cases h; exact hcolumn

/-- Evaluating a line gives the value of the line. -/
theorem agrees_evaluate (hpure : k.PureFunctions) (line : Line) (s : Scanner) :
    Agrees line (k.evaluate line s) (lineValue k line) (.going []) := by
  have hexpr := agrees_expr hpure (stands_startLine s line)
  rw [← bind_pure (lineValue k line)]
  refine hexpr.bind (fun n s' rest _ hgoing hs' => ?_)
  cases hgoing
  exact .ok ⟨hs'.line_eq, hs'.cursor_eq, hs'.suffix, rfl⟩

end LineScan.Grammar
