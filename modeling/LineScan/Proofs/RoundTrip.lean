import LineScan.Proofs.Reader

/-!
# Reading and writing

Reading goes both ways. What is read of a text without getting stuck is a whole tree, and the text
spells it up to where the reading has got to (`Reads`). And a tree of the documented grammar that a
text spells is read back from it, provided that what follows cannot be taken for more of the tree.

The second direction needs care in two places. A word is read as long as possible, so it must not be
followed by a character that would go on with it; and an operator after a factor belongs to the
factor if it can. Both are conditions on the next character that is no blank, and `Ends` is that
condition.
-/

namespace LineScan.Grammar

variable {text rest : Line}

/-! ## Spelling -/

/-- Tokens that are spelled one after another are spelled together. -/
theorem Spells.append {xs ys : List Line} {mid : Line} (hx : Spells xs text mid)
    (hy : Spells ys mid rest) : Spells (xs ++ ys) text rest := by
  induction hx with
  | nil text => exact hy
  | cons allBlank tail ih => exact .cons allBlank (ih hy)

/-- Tokens that are spelled together are spelled one after another. -/
theorem Spells.split {xs ys : List Line} (h : Spells (xs ++ ys) text rest) :
    ∃ mid, Spells xs text mid ∧ Spells ys mid rest := by
  induction xs generalizing text with
  | nil => exact ⟨text, .nil text, h⟩
  | cons token xs ih =>
    cases h with
    | cons allBlank tail =>
      obtain ⟨mid, hx, hy⟩ := ih tail
      exact ⟨mid, .cons allBlank hx, hy⟩

/-- What comes after the tokens ends the text. -/
theorem Spells.suffix {tokens : List Line} (h : Spells tokens text rest) : rest <:+ text := by
  induction h with
  | nil text => exact List.suffix_refl text
  | cons allBlank tail ih => exact ih.trans (List.suffix_append _ _)

/-- A token is spelled where it comes next. -/
theorem Spells.of_ahead {token : Line} {tokens : List Line} {mid : Line}
    (ha : text.ahead = token ++ mid) (h : Spells tokens mid rest) :
    Spells (token :: tokens) text rest := by
  have hblank : ∀ c ∈ text.takeWhile Text.isBlank, Text.isBlank c = true :=
    List.all_eq_true.mp List.all_takeWhile
  have hspells : Spells (token :: tokens) (text.takeWhile Text.isBlank ++ token ++ mid) rest :=
    .cons hblank h
  rw [List.append_assoc, ← ha, Line.ahead, List.takeWhile_append_dropWhile] at hspells
  exact hspells

/-- A character that is found is spelled as a token. -/
theorem Spells.of_after? {c : Char} {tokens : List Line} {mid : Line}
    (ha : text.after? c = some mid) (h : Spells tokens mid rest) :
    Spells ([c] :: tokens) text rest :=
  .of_ahead (Line.after?_eq_some.mp ha) h

/-! ## What is read is spelled -/

/-- A reading that goes on has given a whole tree, spelled from the start to where it has got to;
one that is stuck has given a tree that is not whole. -/
def Shows {τ : Type} (tokens : τ → List Line) (whole : τ → Prop) (start : Line)
    (reading : τ × Front) : Prop :=
  match reading.2 with
  | .going rest => whole reading.1 ∧ Spells (tokens reading.1) start rest
  | .stuck _ => ¬ whole reading.1

/-- A reading spells what it gives, wherever it starts. -/
def Reads {τ : Type} (reader : Reader τ) (tokens : τ → List Line) (whole : τ → Prop) : Prop :=
  ∀ text, Shows tokens whole text (reader text)

/-- How the trees of a chain are written, and when they are whole. -/
structure Chain.Writes {ω α β : Type} (chain : Chain ω α β) (char : ω → Char)
    (operandTokens : α → List Line) (operandWhole : α → Prop) (tokens : β → List Line)
    (whole : β → Prop) : Prop where
  ofChar?_eq_some : ∀ c op, chain.ofChar? c = some op ↔ c = char op
  tokens_one : ∀ first, tokens (chain.one first) = operandTokens first
  tokens_step : ∀ left op right,
    tokens (chain.step left op right) = tokens left ++ [char op] :: operandTokens right
  whole_one : ∀ first, whole (chain.one first) ↔ operandWhole first
  whole_step : ∀ left op right, whole (chain.step left op right) ↔ whole left ∧ operandWhole right

/-- How factors are written. -/
theorem products_writes : products.Writes Multiplicative.char Primary.tokens Primary.Whole
    Factor.tokens Factor.Whole where
  ofChar?_eq_some _ _ := Multiplicative.ofChar?_eq_some
  tokens_one _ := by simp only [products, Factor.tokens]
  tokens_step _ _ _ := by simp only [products, Factor.tokens]
  whole_one _ := by simp only [products, Factor.Whole]
  whole_step _ _ _ := by simp only [products, Factor.Whole]

/-- How terms are written. -/
theorem sums_writes : sums.Writes Additive.char Factor.tokens Factor.Whole Term.tokens
    Term.Whole where
  ofChar?_eq_some _ _ := Additive.ofChar?_eq_some
  tokens_one _ := by simp only [sums, Term.tokens]
  tokens_step _ _ _ := by simp only [sums, Term.tokens]
  whole_one _ := by simp only [sums, Term.Whole]
  whole_step _ _ _ := by simp only [sums, Term.Whole]

namespace Chain.Writes

variable {ω α β : Type} {chain : Chain ω α β} {char : ω → Char} {operandTokens : α → List Line}
  {operandWhole : α → Prop} {tokens : β → List Line} {whole : β → Prop} {operand : Reader α}

/-- The rest of a chain goes on spelling what was spelled on its left. -/
theorem reads_readRest (hw : chain.Writes char operandTokens operandWhole tokens whole)
    (hoperand : Reads operand operandTokens operandWhole) {start : Line} (fuel : Nat) {left : β}
    (hleft : whole left) (hspells : Spells (tokens left) start text) :
    Shows tokens whole start (chain.readRest operand fuel left text) := by
  induction fuel generalizing left text with
  | zero => exact ⟨hleft, hspells⟩
  | succ fuel ih =>
    unfold readRest
    cases hop : readOperator? chain.ofChar? text with
    | none => exact ⟨hleft, hspells⟩
    | some found =>
      obtain ⟨op, rest⟩ := found
      obtain ⟨c, ha, hc⟩ := readOperator?_eq_some.mp hop
      have hreads := hoperand rest
      simp only
      generalize operand rest = reading at hreads
      obtain ⟨right, front⟩ := reading
      cases front with
      | going rest' =>
        obtain ⟨hright, hrest⟩ := hreads
        refine ih ((hw.whole_step left op right).mpr ⟨hleft, hright⟩) ?_
        rw [hw.tokens_step, ← (hw.ofChar?_eq_some c op).mp hc]
        exact hspells.append (.of_ahead ha hrest)
      | stuck place =>
        intro hwhole
        exact hreads ((hw.whole_step left op right).mp hwhole).2

/-- The reading of a chain spells what it gives, if those of its operands do. -/
theorem reads_read (hw : chain.Writes char operandTokens operandWhole tokens whole)
    (hoperand : Reads operand operandTokens operandWhole) :
    Reads (chain.read operand) tokens whole := by
  intro text
  have hreads := hoperand text
  unfold Chain.read
  generalize operand text = reading at hreads
  obtain ⟨first, front⟩ := reading
  cases front with
  | going rest =>
    obtain ⟨hfirst, hspells⟩ := hreads
    refine hw.reads_readRest hoperand (rest.length + 1) ((hw.whole_one first).mpr hfirst) ?_
    rw [hw.tokens_one]
    exact hspells
  | stuck place =>
    intro hwhole
    exact hreads ((hw.whole_one first).mp hwhole)

end Chain.Writes

section

variable {nested : Reader Primary} (reads : Reads nested Primary.tokens Primary.Whole)

include reads

/-- The reading of a factor spells what it gives. -/
theorem reads_readFactor : Reads (readFactor nested) Factor.tokens Factor.Whole :=
  products_writes.reads_read reads

/-- The reading of a term spells what it gives. -/
theorem reads_readTerm : Reads (readTerm nested) Term.tokens Term.Whole :=
  sums_writes.reads_read (reads_readFactor reads)

omit reads in
/-- Arguments go on spelling what was spelled by the first of them. -/
theorem reads_readOthers {others : Reader Arguments}
    (hothers : Reads others Arguments.tokens Arguments.Whole) {first : Term} {start : Line}
    (hfirst : first.Whole) (hspells : Spells first.tokens start text) :
    Shows Arguments.tokens Arguments.Whole start (readOthers others first text) := by
  -- with a comma the others are read from after it, without one from where the first has ended
  have hmore : ∀ comma mid, Spells (if comma then [[',']] else []) text mid →
      Shows Arguments.tokens Arguments.Whole start
        (.more first comma (others mid).1, (others mid).2) := by
    intro comma mid hcomma
    have hreads := hothers mid
    generalize others mid = reading at hreads
    obtain ⟨args, front⟩ := reading
    simp only [Shows, Arguments.Whole, Arguments.tokens]
    cases front with
    | going rest => exact ⟨⟨hfirst, hreads.1⟩, (hspells.append hcomma).append hreads.2⟩
    | stuck place => exact fun hwhole => hreads hwhole.2
  unfold readOthers
  cases hcomma : text.after? ',' with
  | some mid => exact hmore true mid (.of_after? hcomma (.nil mid))
  | none =>
    cases text.atEnd with
    | true => exact fun hwhole => hwhole.2
    | false => exact hmore false text (.nil text)

/-- The reading of arguments spells what it gives, by induction on how many there may be. -/
theorem reads_readArguments (fuel : Nat) :
    Reads (readArguments nested fuel) Arguments.tokens Arguments.Whole := by
  induction fuel with
  | zero => exact fun text => id
  | succ fuel ih =>
    intro text
    have hterm := reads_readTerm reads text
    unfold readArguments
    cases hclose : text.after? ')' with
    | some rest =>
      refine ⟨trivial, ?_⟩
      rw [Arguments.tokens]
      exact .of_after? hclose (.nil rest)
    | none =>
      simp only
      generalize readTerm nested text = reading at hterm
      obtain ⟨first, front⟩ := reading
      cases front with
      | stuck place =>
        intro hwhole
        rw [Arguments.Whole] at hwhole
        exact hterm hwhole.1
      | going rest =>
        exact reads_readOthers ih hterm.1 hterm.2

/-- A term in parentheses is spelled from the opening one on. -/
theorem shows_readParen {start : Line} (hopen : start.after? '(' = some text) :
    Shows Primary.tokens Primary.Whole start (readParen nested text) := by
  have hterm := reads_readTerm reads text
  unfold readParen
  generalize readTerm nested text = reading at hterm
  obtain ⟨inner, front⟩ := reading
  cases front with
  | stuck place => exact id
  | going rest =>
    simp only
    cases hclose : rest.after? ')' with
    | none => exact id
    | some rest' =>
      refine ⟨hterm.1, ?_⟩
      rw [Primary.tokens]
      exact .of_after? hopen (hterm.2.append (.of_after? hclose (.nil rest')))

/-- A call or a variable is spelled from its name on. -/
theorem shows_readNamed {name : Identifier} {start : Line}
    (hname : start.ahead = name.chars ++ text) :
    Shows Primary.tokens Primary.Whole start (readNamed nested name text) := by
  unfold readNamed
  cases hopen : text.after? '(' with
  | none =>
    refine ⟨trivial, ?_⟩
    rw [Primary.tokens]
    exact .of_ahead hname (.nil text)
  | some inside =>
    have hargs := reads_readArguments reads (inside.length + 1) inside
    simp only
    generalize readArguments nested (inside.length + 1) inside = reading at hargs
    obtain ⟨args, front⟩ := reading
    cases front with
    | stuck place => exact hargs
    | going rest =>
      refine ⟨hargs.1, ?_⟩
      simp only [Primary.tokens]
      exact .of_ahead hname (.of_after? hopen hargs.2)

/-- The reading of a primary with a sign spells what it gives. -/
theorem reads_readSigned : Reads (readSigned nested) Primary.tokens Primary.Whole := by
  intro text
  unfold readSigned
  cases hop : readOperator? Additive.ofChar? text with
  | some found =>
    obtain ⟨op, rest⟩ := found
    obtain ⟨c, ha, hc⟩ := readOperator?_eq_some.mp hop
    have hinner := reads rest
    simp only
    generalize nested rest = reading at hinner
    obtain ⟨inner, front⟩ := reading
    cases front with
    | stuck place => exact hinner
    | going rest' =>
      refine ⟨hinner.1, ?_⟩
      simp only [Primary.tokens]
      rw [← Additive.ofChar?_eq_some.mp hc]
      exact .of_ahead ha hinner.2
  | none =>
    cases hnumeral : Numeral.read? text with
    | some found =>
      obtain ⟨numeral, rest⟩ := found
      refine ⟨trivial, ?_⟩
      simp only [Primary.tokens]
      exact .of_ahead (Word.read?_eq_some.mp hnumeral).1 (.nil rest)
    | none => exact id

/-- The reading of a primary spells what it gives, if those of the primaries in it do. -/
theorem reads_readPrimaryWith : Reads (readPrimaryWith nested) Primary.tokens Primary.Whole := by
  intro text
  unfold readPrimaryWith
  cases hname : Identifier.read? text with
  | some found =>
    obtain ⟨name, rest⟩ := found
    exact shows_readNamed reads (Word.read?_eq_some.mp hname).1
  | none =>
    cases hopen : text.after? '(' with
    | some inside => exact shows_readParen reads hopen
    | none => exact reads_readSigned reads text

end

/-- Primaries are spelled however deep they may nest. -/
theorem reads_readPrimary (nesting : Nat) :
    Reads (readPrimary nesting) Primary.tokens Primary.Whole := by
  induction nesting with
  | zero => exact fun text => id
  | succ nesting ih => exact reads_readPrimaryWith ih

/-- The term that a line starts with is whole and spelled by the line, unless the reading is
stuck. -/
theorem reads_read : Reads read Term.tokens Term.Whole :=
  fun line => reads_readTerm (reads_readPrimary (line.length + 1)) line

/-! ## What comes after a tree -/

/-- The blanks, one by one. -/
theorem mem_of_isBlank {c : Char} (h : Text.isBlank c = true) :
    c ∈ [' ', '\t', '\n', '\x0b', '\x0c', '\r'] := by
  simp only [Text.isBlank, Bool.or_eq_true, Bool.and_eq_true, decide_eq_true_eq, beq_iff_eq] at h
  rcases h with rfl | ⟨hlo, hhi⟩
  · decide
  · rw [← Char.ofNat_toNat c]
    have hcode : c.toNat = 9 ∨ c.toNat = 10 ∨ c.toNat = 11 ∨ c.toNat = 12 ∨ c.toNat = 13 := by omega
    rcases hcode with h | h | h | h | h <;> rw [h] <;> decide

/-- A blank stands in no name. -/
theorem isIdentChar_of_isBlank {c : Char} (h : Text.isBlank c = true) :
    Text.isIdentChar c = false := by
  have hall : [' ', '\t', '\n', '\x0b', '\x0c', '\r'].all (!Text.isIdentChar ·) = true := by decide
  simpa using List.all_eq_true.mp hall c (mem_of_isBlank h)

/-- What may stand in a name is no blank. -/
theorem isBlank_of_isIdentChar {c : Char} (h : Text.isIdentChar c = true) :
    Text.isBlank c = false := by
  rw [← Bool.not_eq_true]
  intro hblank
  rw [isIdentChar_of_isBlank hblank] at h
  cases h

/-- A digit may stand in a name. -/
theorem isIdentChar_of_isDigit {c : Char} (h : Text.isDigit c = true) :
    Text.isIdentChar c = true := by
  simp [Text.isIdentChar, h]

/-- A digit starts no name. -/
theorem isIdentStart_of_isDigit {c : Char} (h : Text.isDigit c = true) :
    Text.isIdentStart c = false := by
  simp only [Text.isDigit, Char.isDigit, Bool.and_eq_true, decide_eq_true_eq] at h
  have h9 : c.toNat ≤ 57 := h.2
  rw [← Bool.not_eq_true]
  intro hstart
  simp only [Text.isIdentStart, Text.isLetter, Bool.or_eq_true, beq_iff_eq] at hstart
  rcases hstart with hletter | rfl
  · -- letters of either case have greater codes than digits
    rcases Bool.or_eq_true_iff.mp hletter with hupper | hlower
    · have hupper : c.val ≥ 'A'.val ∧ c.val ≤ 'Z'.val := of_decide_eq_true hupper
      have hA : 65 ≤ c.toNat := hupper.1
      omega
    · have ha : 97 ≤ c.toNat := of_decide_eq_true (Bool.and_eq_true_iff.mp hlower).1
      omega
  · exact absurd h9 (by decide)

/-- The next character that is no blank, if there is one, is among those that are allowed. -/
def Ends (allowed : List Char) (rest : Line) : Prop :=
  ∀ c, rest.ahead.head? = some c → c ∈ allowed

/-- What may follow a term. -/
def termEnds : List Char := [')', ',']

/-- What may follow a factor. -/
def factorEnds : List Char := '+' :: '-' :: termEnds

/-- What may follow a primary. -/
def primaryEnds : List Char := '*' :: '/' :: '÷' :: factorEnds

/-- A condition on the next character may be weakened. -/
theorem Ends.mono {allowed allowed' : List Char} (h : Ends allowed rest)
    (hsub : ∀ c ∈ allowed, c ∈ allowed') : Ends allowed' rest :=
  fun c hc => hsub c (h c hc)

/-- What may follow a term may follow a factor. -/
theorem Ends.factor (h : Ends termEnds rest) : Ends factorEnds rest :=
  h.mono fun _ hc => List.mem_cons_of_mem _ (List.mem_cons_of_mem _ hc)

/-- What may follow a factor may follow a primary. -/
theorem Ends.primary (h : Ends factorEnds rest) : Ends primaryEnds rest :=
  h.mono fun _ hc => List.mem_cons_of_mem _ (List.mem_cons_of_mem _ (List.mem_cons_of_mem _ hc))

/-- The next character past the blanks is all that the condition is about. -/
theorem ends_of_ahead {allowed : List Char} {c : Char} {mid : Line} (ha : rest.ahead = c :: mid)
    (hc : c ∈ allowed) : Ends allowed rest := by
  intro d hd
  rw [ha] at hd
  cases hd
  exact hc

/-- What ends a word is a blank or one of the characters that are allowed. -/
theorem Ends.stop {allowed : List Char} (h : Ends allowed rest) {goesOn : Char → Bool}
    (hword : ∀ c, goesOn c = true → Text.isIdentChar c = true)
    (hall : allowed.all (!Text.isIdentChar ·) = true) :
    ∀ c, rest.head? = some c → goesOn c = false := by
  intro c hc
  rw [← Bool.not_eq_true]
  intro hgoesOn
  have hident := hword c hgoesOn
  have hahead : rest.ahead.head? = some c := by
    cases rest with
    | nil => cases hc
    | cons d others =>
      cases hc
      rw [Line.ahead, List.dropWhile_cons_of_neg (by simp [isBlank_of_isIdentChar hident])]
      rfl
  have hnot := List.all_eq_true.mp hall c (h c hahead)
  rw [hident] at hnot
  cases hnot

/-- A variable that is followed by what may follow a primary is no call. -/
theorem Ends.not_open (h : Ends primaryEnds rest) : rest.after? '(' = none := by
  rw [Line.after?_eq_none]
  intro hopen
  exact absurd (h '(' hopen) (by decide)

/-- Nothing that follows a factor belongs to the factor. -/
theorem Ends.not_multiplicative (h : Ends factorEnds rest) :
    readOperator? products.ofChar? rest = none := by
  have hall : factorEnds.all (fun c => (Multiplicative.ofChar? c).isNone) = true := by decide
  exact readOperator?_eq_none.mpr fun c hc =>
    Option.isNone_iff_eq_none.mp (List.all_eq_true.mp hall c (h c hc))

/-- Nothing that follows a term belongs to the term. -/
theorem Ends.not_additive (h : Ends termEnds rest) :
    readOperator? sums.ofChar? rest = none := by
  have hall : termEnds.all (fun c => (Additive.ofChar? c).isNone) = true := by decide
  exact readOperator?_eq_none.mpr fun c hc =>
    Option.isNone_iff_eq_none.mp (List.all_eq_true.mp hall c (h c hc))

/-! ## What is spelled is read back -/

/-- A token that starts with no blank comes next in a text that spells it first. -/
theorem Spells.ahead {c : Char} {others : Line} {tokens : List Line}
    (h : Spells ((c :: others) :: tokens) text rest) (hc : Text.isBlank c = false) :
    ∃ mid, text.ahead = c :: (others ++ mid) ∧ Spells tokens mid rest := by
  cases h with
  | @cons _ _ blanks mid _ allBlank tail =>
    refine ⟨mid, ?_, tail⟩
    rw [List.append_assoc, Line.ahead_append_of_blank allBlank, Line.ahead,
      List.cons_append, List.dropWhile_cons_of_neg (by simp [hc])]

/-- A word that is spelled comes next past the blanks. -/
theorem Spells.ahead_word {starts goesOn : Char → Bool} {w : Word starts goesOn}
    {tokens : List Line} (h : Spells (w.chars :: tokens) text rest)
    (hfirst : Text.isIdentChar w.first = true) :
    ∃ mid, text.ahead = w.chars ++ mid ∧ Spells tokens mid rest :=
  h.ahead (isBlank_of_isIdentChar hfirst)

section

variable (nested : Reader Primary)

/-- A primary that starts with a parenthesis. -/
theorem readPrimaryWith_of_paren {inside : Line} (ha : text.ahead = '(' :: inside) :
    readPrimaryWith nested text = readParen nested inside := by
  have hname : Identifier.read? text = none := by
    refine Word.read?_eq_none.mpr fun c hc => ?_
    rw [ha] at hc
    cases hc
    decide
  rw [readPrimaryWith, hname]
  simp only [Line.after?_eq_some.mpr ha]

/-- No primary starts with a closing parenthesis. -/
theorem readPrimaryWith_of_close {inside : Line} (ha : text.ahead = ')' :: inside) :
    readPrimaryWith nested text = (.missing, .stuck text.ahead) := by
  have hhead : ∀ c, text.ahead.head? = some c → c = ')' := by
    intro c hc
    rw [ha] at hc
    cases hc
    rfl
  have hname : Identifier.read? text = none :=
    Word.read?_eq_none.mpr fun c hc => by rw [hhead c hc]; decide
  have hopen : text.after? '(' = none := by
    rw [Line.after?_eq_none]
    intro hc
    exact absurd (hhead '(' hc) (by decide)
  have hop : readOperator? Additive.ofChar? text = none :=
    readOperator?_eq_none.mpr fun c hc => by rw [hhead c hc]; decide
  have hnumeral : Numeral.read? text = none :=
    Word.read?_eq_none.mpr fun c hc => by rw [hhead c hc]; decide
  rw [readPrimaryWith, hname]
  simp only [hopen, readSigned, hop, hnumeral]

/-- A primary that starts with a sign. -/
theorem readPrimaryWith_of_sign {op : Additive} (ha : text.ahead = op.char :: rest) :
    readPrimaryWith nested text = (.sign op (nested rest).1, (nested rest).2) := by
  have hname : Identifier.read? text = none := by
    refine Word.read?_eq_none.mpr fun c hc => ?_
    rw [ha] at hc
    cases hc
    cases op <;> decide
  have hopen : text.after? '(' = none := by
    rw [Line.after?_eq_none, ha]
    cases op <;> simp [Additive.char]
  have hop : readOperator? Additive.ofChar? text = some (op, rest) :=
    readOperator?_eq_some.mpr ⟨op.char, ha, Additive.ofChar?_eq_some.mpr rfl⟩
  rw [readPrimaryWith, hname]
  simp only [hopen, readSigned, hop]

/-- A primary that starts with a digit. -/
theorem readPrimaryWith_of_int {numeral : Numeral} (ha : text.ahead = numeral.chars ++ rest)
    (hstop : ∀ c, rest.head? = some c → Text.isDigit c = false) :
    readPrimaryWith nested text = (.int numeral, .going rest) := by
  have hhead : ∀ c, text.ahead.head? = some c → Text.isDigit c = true := by
    intro c hc
    rw [ha] at hc
    cases hc
    exact numeral.first_starts
  have hname : Identifier.read? text = none :=
    Word.read?_eq_none.mpr fun c hc => isIdentStart_of_isDigit (hhead c hc)
  have hopen : text.after? '(' = none := by
    rw [Line.after?_eq_none]
    intro hc
    exact absurd (hhead '(' hc) (by decide)
  have hop : readOperator? Additive.ofChar? text = none := by
    refine readOperator?_eq_none.mpr fun c hc => ?_
    cases hadditive : Additive.ofChar? c with
    | none => rfl
    | some op =>
      have hdigit := hhead c hc
      rw [Additive.ofChar?_eq_some.mp hadditive] at hdigit
      cases op <;> exact absurd hdigit (by decide)
  have hnumeral : Numeral.read? text = some (numeral, rest) := Word.read?_eq_some.mpr ⟨ha, hstop⟩
  rw [readPrimaryWith, hname]
  simp only [hopen, readSigned, hop, hnumeral]

end

/-- A term that is read to its end does not start with a closing parenthesis. -/
theorem after?_close_of_readTerm {nesting : Nat} {t : Term}
    (h : readTerm (readPrimary nesting) text = (t, .going rest)) : text.after? ')' = none := by
  cases hclose : text.after? ')' with
  | none => rfl
  | some inside =>
    have ha := Line.after?_eq_some.mp hclose
    cases nesting with
    | zero => cases h
    | succ nesting =>
      rw [readTerm, Chain.read, readFactor, Chain.read, readPrimary,
        readPrimaryWith_of_close _ ha] at h
      cases h

/-- After an argument the others are read. -/
theorem readArguments_of_term {nesting fuel : Nat} {first : Term}
    (h : readTerm (readPrimary nesting) text = (first, .going rest)) :
    readArguments (readPrimary nesting) (fuel + 1) text =
      readOthers (readArguments (readPrimary nesting) fuel) first rest := by
  rw [readArguments, after?_close_of_readTerm h]
  simp only [h]

mutual

/-- A primary of the documented grammar is read back. -/
theorem Primary.read_of_spells : ∀ (t : Primary) {text rest : Line} {nesting : Nat},
    t.Whole → t.Separated → Spells t.tokens text rest → Ends primaryEnds rest →
    text.length < nesting → readPrimary nesting text = (t, .going rest)
  | _, _, _, 0, _, _, _, _, hn => by omega
  | .call name args, text, rest, nesting + 1, whole, separated, spells, _, hn => by
    simp only [Primary.Whole] at whole
    simp only [Primary.Separated] at separated
    simp only [Primary.tokens] at spells
    obtain ⟨mid, hname, spells⟩ :=
      spells.ahead_word (isIdentChar_of_isIdentStart name.first_starts)
    obtain ⟨inside, hopen, spells⟩ := spells.ahead (by decide)
    rw [List.nil_append] at hopen
    -- the name ends before the parenthesis or the blanks in front of it
    have hstop := (ends_of_ahead hopen (List.mem_singleton_self _)).stop (fun _ => id) (by decide)
    have hword : Identifier.read? text = some (name, mid) :=
      Word.read?_eq_some.mpr ⟨hname, hstop⟩
    have hlt := (past_of_readWord? hword).length_lt
    have hlt' := (past_of_ahead hopen).length_lt
    have hargs := args.read_of_spells whole separated spells (show inside.length < nesting by omega)
      (Nat.lt_succ_self inside.length)
    rw [readPrimary, readPrimaryWith, hword]
    simp only [readNamed, Line.after?_eq_some.mpr hopen, hargs]
  | .var name, text, rest, nesting + 1, _, _, spells, ends, _ => by
    simp only [Primary.tokens] at spells
    obtain ⟨mid, hname, spells⟩ :=
      spells.ahead_word (isIdentChar_of_isIdentStart name.first_starts)
    cases spells
    rw [readPrimary, readPrimaryWith]
    have hword : Identifier.read? text = some (name, rest) :=
      Word.read?_eq_some.mpr ⟨hname, ends.stop (fun _ => id) (by decide)⟩
    simp only [hword, readNamed, ends.not_open]
  | .paren inner, text, rest, nesting + 1, whole, separated, spells, _, hn => by
    simp only [Primary.Whole] at whole
    simp only [Primary.Separated] at separated
    simp only [Primary.tokens, List.cons_append] at spells
    obtain ⟨inside, hopen, spells⟩ := spells.ahead (by decide)
    obtain ⟨mid, hinner, spells⟩ := spells.split
    obtain ⟨rest', hclose, spells⟩ := spells.ahead (by decide)
    cases spells
    rw [List.nil_append] at hopen hclose
    have hlt := (past_of_ahead hopen).length_lt
    have hends : Ends termEnds mid := ends_of_ahead hclose (by decide)
    have hterm := inner.read_of_spells whole separated hinner hends.factor
      (show inside.length < nesting by omega)
    rw [sums.readRest_stop _ _ _ hends.not_additive] at hterm
    rw [readPrimary, readPrimaryWith_of_paren _ hopen, readParen, hterm]
    simp only [Line.after?_eq_some.mpr hclose]
  | .sign op inner, text, rest, nesting + 1, whole, separated, spells, ends, hn => by
    simp only [Primary.Whole] at whole
    simp only [Primary.Separated] at separated
    simp only [Primary.tokens] at spells
    obtain ⟨mid, hop, spells⟩ := spells.ahead (by cases op <;> decide)
    rw [List.nil_append] at hop
    have hlt := (past_of_ahead hop).length_lt
    rw [readPrimary, readPrimaryWith_of_sign _ hop,
      inner.read_of_spells whole separated spells ends (by omega)]
  | .int numeral, text, rest, nesting + 1, _, _, spells, ends, _ => by
    simp only [Primary.tokens] at spells
    obtain ⟨mid, hnumeral, spells⟩ :=
      spells.ahead_word (isIdentChar_of_isDigit numeral.first_starts)
    cases spells
    rw [readPrimary, readPrimaryWith_of_int _ hnumeral
      (ends.stop (fun _ => isIdentChar_of_isDigit) (by decide))]
  | .missing, _, _, _ + 1, whole, _, _, _, _ => by simp only [Primary.Whole] at whole
  | .unclosed _, _, _, _ + 1, whole, _, _, _, _ => by simp only [Primary.Whole] at whole

/-- A factor of the documented grammar is read back, and the reading goes on from there. -/
theorem Factor.read_of_spells : ∀ (t : Factor) {text rest : Line} {nesting : Nat},
    t.Whole → t.Separated → Spells t.tokens text rest → Ends primaryEnds rest →
    text.length < nesting → readFactor (readPrimary nesting) text =
      products.readRest (readPrimary nesting) (rest.length + 1) t rest
  | .one first, text, rest, nesting, whole, separated, spells, ends, hn => by
    simp only [Factor.Whole] at whole
    simp only [Factor.Separated] at separated
    simp only [Factor.tokens] at spells
    rw [readFactor, Chain.read, first.read_of_spells whole separated spells ends hn]
    rfl
  | .step left op right, text, rest, nesting, whole, separated, spells, ends, hn => by
    simp only [Factor.Whole] at whole
    simp only [Factor.Separated] at separated
    simp only [Factor.tokens] at spells
    obtain ⟨mid, hleft, spells⟩ := spells.split
    obtain ⟨mid', hop, hright⟩ := spells.ahead (by cases op <;> decide)
    rw [List.nil_append] at hop
    have hlt := (past_of_ahead hop).length_lt
    have hle := hleft.suffix.length_le
    have hends : Ends primaryEnds mid := ends_of_ahead hop (by cases op <;> decide)
    -- the reading of the left part leaves the operator to the rest of the chain, which takes it
    rw [left.read_of_spells whole.1 separated.1 hleft hends hn]
    exact products.readRest_step (consumes_readPrimary nesting) left
      (readOperator?_eq_some.mpr ⟨op.char, hop, Multiplicative.ofChar?_eq_some.mpr rfl⟩)
      (right.read_of_spells whole.2 separated.2 hright ends (by omega))

/-- A term of the documented grammar is read back, and the reading goes on from there. -/
theorem Term.read_of_spells : ∀ (t : Term) {text rest : Line} {nesting : Nat},
    t.Whole → t.Separated → Spells t.tokens text rest → Ends factorEnds rest →
    text.length < nesting → readTerm (readPrimary nesting) text =
      sums.readRest (readFactor (readPrimary nesting)) (rest.length + 1) t rest
  | .one first, text, rest, nesting, whole, separated, spells, ends, hn => by
    simp only [Term.Whole] at whole
    simp only [Term.Separated] at separated
    simp only [Term.tokens] at spells
    have hfirst := first.read_of_spells whole separated spells ends.primary hn
    rw [products.readRest_stop _ _ _ ends.not_multiplicative] at hfirst
    rw [readTerm, Chain.read, hfirst]
    rfl
  -- the chain has been read up to its last operator, and goes on with that and the last factor
  | .step left op right, text, rest, nesting, whole, separated, spells, ends, hn => by
    simp only [Term.Whole] at whole
    simp only [Term.Separated] at separated
    simp only [Term.tokens] at spells
    obtain ⟨mid, hleft, spells⟩ := spells.split
    obtain ⟨mid', hop, hright⟩ := spells.ahead (by cases op <;> decide)
    rw [List.nil_append] at hop
    have hlt := (past_of_ahead hop).length_lt
    have hle := hleft.suffix.length_le
    have hends : Ends factorEnds mid := ends_of_ahead hop (by cases op <;> decide)
    have hoperand := right.read_of_spells whole.2 separated.2 hright ends.primary
      (show mid'.length < nesting by omega)
    rw [products.readRest_stop _ _ _ ends.not_multiplicative] at hoperand
    rw [left.read_of_spells whole.1 separated.1 hleft hends hn]
    exact sums.readRest_step (consumes_readFactor (consumes_readPrimary nesting)) left
      (readOperator?_eq_some.mpr ⟨op.char, hop, Additive.ofChar?_eq_some.mpr rfl⟩) hoperand

/-- Arguments of the documented grammar are read back, whatever follows them. -/
theorem Arguments.read_of_spells : ∀ (args : Arguments) {text rest : Line} {nesting fuel : Nat},
    args.Whole → args.Separated → Spells args.tokens text rest → text.length < nesting →
    text.length < fuel → readArguments (readPrimary nesting) fuel text = (args, .going rest)
  | _, _, _, _, 0, _, _, _, _, hfuel => by omega
  | .close, text, rest, nesting, fuel + 1, _, _, spells, _, _ => by
    simp only [Arguments.tokens] at spells
    obtain ⟨mid, hclose, spells⟩ := spells.ahead (by decide)
    cases spells
    rw [readArguments, Line.after?_eq_some.mpr hclose]
    rfl
  | .more first comma others, text, rest, nesting, fuel + 1, whole, separated, spells, hn,
    hfuel => by
    simp only [Arguments.Whole] at whole
    simp only [Arguments.Separated] at separated
    simp only [Arguments.tokens] at spells
    obtain ⟨mid', spells, hothers⟩ := spells.split
    obtain ⟨mid, hfirst, hcomma⟩ := spells.split
    -- an argument ends at a comma or at the closing parenthesis, and is read alike before both
    have hterm : Ends termEnds mid →
        readTerm (readPrimary nesting) text = (first, .going mid) ∧ mid.length < text.length := by
      intro hends
      have hterm := first.read_of_spells whole.1 separated.1 hfirst hends.factor hn
      rw [sums.readRest_stop _ _ _ hends.not_additive] at hterm
      have hp := consumes_readTerm (consumes_readPrimary nesting) text
      rw [hterm] at hp
      exact ⟨hterm, Front.Past.length_lt hp⟩
    cases comma with
    | true =>
      obtain ⟨mid'', hcomma, spells⟩ := hcomma.ahead (by decide)
      cases spells
      rw [List.nil_append] at hcomma
      have hlt := (past_of_ahead hcomma).length_lt
      obtain ⟨hterm, hlt'⟩ := hterm (ends_of_ahead hcomma (by decide))
      rw [readArguments_of_term hterm, readOthers, Line.after?_eq_some.mpr hcomma]
      simp only [others.read_of_spells whole.2 separated.2.2 hothers
        (show mid'.length < nesting by omega) (show mid'.length < fuel by omega)]
    | false =>
      -- without a comma this was the last argument, and the closing parenthesis follows
      cases hcomma
      have hclose : ∃ inside, mid'.ahead = ')' :: inside := by
        match others, whole.2, separated.2.1, hothers with
        | .close, _, _, spells =>
          simp only [Arguments.tokens] at spells
          obtain ⟨inside, hclose, -⟩ := spells.ahead (by decide)
          exact ⟨inside, hclose⟩
        | .more .., _, hcount, _ => simp [Arguments.count] at hcount
      obtain ⟨inside, hclose⟩ := hclose
      obtain ⟨hterm, hlt⟩ := hterm (ends_of_ahead hclose (by decide))
      have hcomma : mid'.after? ',' = none := by
        rw [Line.after?_eq_none, hclose]
        simp
      have hend : mid'.atEnd = false := by
        rw [Line.atEnd, hclose]
        rfl
      rw [readArguments_of_term hterm, readOthers, hcomma]
      simp only [hend, others.read_of_spells whole.2 separated.2.2 hothers
        (show mid'.length < nesting by omega) (show mid'.length < fuel by omega)]
      rfl
  | .cut, _, _, _, _ + 1, whole, _, _, _, _ => by simp only [Arguments.Whole] at whole

end

/-- A line that spells an expression of the documented grammar is read as that expression. -/
theorem read_of_isWritten {t : Term} {line : Line} (whole : t.Whole) (separated : t.Separated)
    (written : IsWritten t.tokens line) :
    ∃ rest, read line = (t, .going rest) ∧ rest.ahead = [] := by
  obtain ⟨rest, spells, hblank⟩ := written
  have hnil := Line.ahead_eq_nil_iff.mpr hblank
  have hends : Ends termEnds rest := by
    intro c hc
    rw [hnil] at hc
    cases hc
  have hread := t.read_of_spells whole separated spells hends.factor (Nat.lt_succ_self line.length)
  rw [sums.readRest_stop _ _ _ hends.not_additive] at hread
  exact ⟨rest, hread, hnil⟩

end LineScan.Grammar
