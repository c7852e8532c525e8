import LineScan.Proofs.Grammar
import LineScan.Proofs.Scanning

/-!
# Reading a line as a tree

`read` turns the text of a line into the tree of `Grammar` that it starts with. It does nothing
else: no value is worked out, and no limit but the length of the text is kept. Where the text does
not go on as the grammar wants it, the reading is *stuck*, the tree breaks off there, and the text
from that place on is kept.

## Shape of the reading

The readings of the levels follow the rules of the calculator: those in between are written over the
reading of a nested primary, and `readPrimary` ties the knot by recursion on the nesting, which the
length of the text bounds. Each loop is bounded by the length of the text it starts on, since every
round consumes a character.
-/

namespace LineScan.Grammar

/-! ## Words and operators -/

/-- The word of a class that comes next, as long as possible, and the text after it. -/
def Word.read? (starts goesOn : Char → Bool) (text : Line) :
    Option (Word starts goesOn × Line) :=
  match text.ahead with
  | [] => none
  | c :: rest =>
    if h : starts c = true then
      some (⟨c, rest.takeWhile goesOn, h, List.all_eq_true.mp List.all_takeWhile⟩,
        rest.dropWhile goesOn)
    else
      none

/-- The identifier that comes next. -/
def Identifier.read? : Line → Option (Identifier × Line) := Word.read? _ _

/-- The numeral that comes next. -/
def Numeral.read? : Line → Option (Numeral × Line) := Word.read? _ _

/-- The operator that is written with a character. -/
def Additive.ofChar? (c : Char) : Option Additive :=
  if c = '+' then some plus else if c = '-' then some minus else none

/-- The operator that is written with a character. -/
def Multiplicative.ofChar? (c : Char) : Option Multiplicative :=
  if c = '*' then some times
  else if c = '/' then some slash
  else if c = '÷' then some obelus
  else none

/-- The operator that comes next, and the text after it. -/
def readOperator? {α : Type} (ofChar? : Char → Option α) (text : Line) : Option (α × Line) :=
  match text.ahead with
  | [] => none
  | c :: rest => (ofChar? c).map (·, rest)

/-! ## Trees -/

/-- Where a reading has got to. -/
inductive Front where
  /-- It goes on with the rest of the text. -/
  | going (rest : Line)
  /-- It is stuck at the rest of the text. -/
  | stuck (rest : Line)
  deriving DecidableEq

/-- The text from where the reading has got to. -/
def Front.rest : Front → Line
  | .going rest => rest
  | .stuck rest => rest

/-- A reading that goes on has got to the text it goes on with. -/
@[simp, grind =]
theorem Front.rest_going (rest : Line) : (Front.going rest).rest = rest := rfl

/-- A reading that is stuck has got to the text it is stuck at. -/
@[simp, grind =]
theorem Front.rest_stuck (rest : Line) : (Front.stuck rest).rest = rest := rfl

/-- What is read of a text: a tree, and where the reading has got to. -/
abbrev Reader (α : Type) := Line → α × Front

/-! ### Chains

A factor and a term are both chains: operands with operators between them. -/

/-- What a level of the grammar consists of: its operators, and how its trees are built. -/
structure Chain (ω α β : Type) where
  ofChar? : Char → Option ω
  one : α → β
  step : β → ω → α → β

namespace Chain

variable {ω α β : Type} (chain : Chain ω α β) (operand : Reader α)

/-- The rest of a chain, after what has been read on its left. -/
def readRest : (fuel : Nat) → β → Reader β
  | 0, left, text => (left, .going text)
  | fuel + 1, left, text =>
    match readOperator? chain.ofChar? text with
    | none => (left, .going text)
    | some (op, rest) =>
      match operand rest with
      | (right, .going rest) => readRest fuel (chain.step left op right) rest
      | (right, .stuck place) => (chain.step left op right, .stuck place)

/-- A chain. -/
def read : Reader β := fun text =>
  match operand text with
  | (first, .going rest) => chain.readRest operand (rest.length + 1) (chain.one first) rest
  | (first, .stuck place) => (chain.one first, .stuck place)

end Chain

/-- Primaries with multiplicative operators. -/
def products : Chain Multiplicative Primary Factor := ⟨Multiplicative.ofChar?, .one, .step⟩

/-- Factors with additive operators. -/
def sums : Chain Additive Factor Term := ⟨Additive.ofChar?, .one, .step⟩

/-! ### Primaries -/

section

variable (nested : Reader Primary)

/-- A factor. -/
def readFactor : Reader Factor := products.read nested

/-- A term. -/
def readTerm : Reader Term := sums.read (readFactor nested)

/-- The rest of a call after an argument: the others, with or without a comma before them, unless
the line ends here. -/
def readOthers (others : Reader Arguments) (first : Term) : Reader Arguments := fun text =>
  match text.after? ',' with
  | some rest => (.more first true (others rest).1, (others rest).2)
  | none =>
    if text.atEnd then (.more first false .cut, .stuck text.ahead)
    else (.more first false (others text).1, (others text).2)

/-- The arguments of a call. -/
def readArguments : (fuel : Nat) → Reader Arguments
  | 0, text => (.cut, .stuck text.ahead)
  | fuel + 1, text =>
    match text.after? ')' with
    | some rest => (.close, .going rest)
    | none =>
      match readTerm nested text with
      | (first, .stuck place) => (.more first false .cut, .stuck place)
      | (first, .going rest) => readOthers (readArguments fuel) first rest

/-- A term in parentheses, from just after the opening one. -/
def readParen : Reader Primary := fun text =>
  match readTerm nested text with
  | (inner, .stuck place) => (.unclosed inner, .stuck place)
  | (inner, .going rest) =>
    match rest.after? ')' with
    | some rest => (.paren inner, .going rest)
    | none => (.unclosed inner, .stuck rest.ahead)

/-- A call or a variable, from just after its name. -/
def readNamed (name : Identifier) : Reader Primary := fun text =>
  match text.after? '(' with
  | some inside =>
    let arguments := readArguments nested (inside.length + 1) inside
    (.call name arguments.1, arguments.2)
  | none => (.var name, .going text)

/-- A primary with a sign before it, or an integer. -/
def readSigned : Reader Primary := fun text =>
  match readOperator? Additive.ofChar? text with
  | some (op, rest) => (.sign op (nested rest).1, (nested rest).2)
  | none =>
    match Numeral.read? text with
    | some (numeral, rest) => (.int numeral, .going rest)
    | none => (.missing, .stuck text.ahead)

/-- A primary, given the reading of the primaries nested in it. -/
def readPrimaryWith : Reader Primary := fun text =>
  match Identifier.read? text with
  | some (name, rest) => readNamed nested name rest
  | none =>
    match text.after? '(' with
    | some inside => readParen nested inside
    | none => readSigned nested text

end

/-- A primary with fewer than `nesting` primaries nested in it. -/
def readPrimary : (nesting : Nat) → Reader Primary
  | 0, text => (.missing, .stuck text.ahead)
  | nesting + 1, text => readPrimaryWith (readPrimary nesting) text

/-- The term that a line starts with. -/
def read : Reader Term := fun line => readTerm (readPrimary (line.length + 1)) line

/-! ## What is read of the text

A reading that goes on has consumed something, and where it has got to is always an end of the text.
-/

variable {starts goesOn : Char → Bool} {text rest : Line}

/-- What may start a name may stand in it. -/
theorem isIdentChar_of_isIdentStart {c : Char} (h : Text.isIdentStart c = true) :
    Text.isIdentChar c = true := by
  simp only [Text.isIdentStart, Text.isIdentChar, Bool.or_eq_true] at *
  rcases h with h | h
  · exact .inl (.inl h)
  · exact .inr h

/-- All characters of a word may stand after its first. -/
theorem Word.goesOn_of_mem {w : Word starts goesOn} (hfirst : goesOn w.first = true) {c : Char}
    (h : c ∈ w.chars) : goesOn c = true := by
  rcases List.mem_cons.mp h with rfl | h
  · exact hfirst
  · exact w.others_goOn c h

/-- All characters of a name may stand in a name. -/
theorem Identifier.isIdentChar_of_mem {name : Identifier} {c : Char} (h : c ∈ name.chars) :
    Text.isIdentChar c = true :=
  Word.goesOn_of_mem (isIdentChar_of_isIdentStart name.first_starts) h

/-- A run of a class that is followed by nothing of the class is its longest run there. -/
theorem takeWhile_run {run : Line} (hrun : ∀ c ∈ run, goesOn c = true)
    (hstop : ∀ c, rest.head? = some c → goesOn c = false) :
    (run ++ rest).takeWhile goesOn = run := by
  rw [List.takeWhile_append_of_pos hrun]
  cases rest with
  | nil => simp
  | cons c rest => simp [hstop c rfl]

/-- A run that stops is dropped as a whole. -/
theorem dropWhile_run {run : Line} (hrun : ∀ c ∈ run, goesOn c = true)
    (hstop : ∀ c, rest.head? = some c → goesOn c = false) :
    (run ++ rest).dropWhile goesOn = rest := by
  rw [List.dropWhile_append_of_pos hrun]
  cases rest with
  | nil => simp
  | cons c rest => simp [hstop c rfl]

/-- The word that comes next is as long as possible. -/
theorem Word.read?_eq_some {w : Word starts goesOn} :
    Word.read? starts goesOn text = some (w, rest) ↔
      text.ahead = w.chars ++ rest ∧ ∀ c, rest.head? = some c → goesOn c = false := by
  constructor
  · intro h
    unfold Word.read? at h
    split at h
    · cases h
    · next c others ha =>
      split at h
      · cases h
        refine ⟨?_, fun c hc => ?_⟩
        · rw [ha, chars, List.cons_append, List.takeWhile_append_dropWhile]
        · have := List.head?_dropWhile_not goesOn others
          rw [hc] at this
          simpa using this
      · cases h
  · rintro ⟨ha, hstop⟩
    obtain ⟨first, others, hfirst, hothers⟩ := w
    rw [Word.read?, ha]
    simp only [chars, List.cons_append, hfirst, dif_pos, takeWhile_run hothers hstop,
      dropWhile_run hothers hstop]

/-- No word is read exactly if the next character past the blanks starts none. -/
theorem Word.read?_eq_none :
    Word.read? starts goesOn text = none ↔
      ∀ c, text.ahead.head? = some c → starts c = false := by
  unfold Word.read?
  split
  · next ha => simp [ha]
  · next c others ha =>
    by_cases hc : starts c = true <;> simp [ha, hc]

/-- An additive operator is written with its character, and with no other one. -/
theorem Additive.ofChar?_eq_some {c : Char} {op : Additive} :
    ofChar? c = some op ↔ c = op.char := by
  unfold ofChar?
  cases op <;> grind [char]

/-- A multiplicative operator is written with its character, and with no other one. -/
theorem Multiplicative.ofChar?_eq_some {c : Char} {op : Multiplicative} :
    ofChar? c = some op ↔ c = op.char := by
  unfold ofChar?
  cases op <;> grind [char]

/-- An operator is read exactly if its character is the next one past the blanks. -/
theorem readOperator?_eq_some {α : Type} {ofChar? : Char → Option α} {op : α} :
    readOperator? ofChar? text = some (op, rest) ↔
      ∃ c, text.ahead = c :: rest ∧ ofChar? c = some op := by
  unfold readOperator?
  split
  · next ha => simp [ha]
  · next c others ha =>
    simp only [ha, Option.map_eq_some_iff, Prod.mk.injEq, List.cons.injEq]
    constructor
    · rintro ⟨_, hop, rfl, rfl⟩
      exact ⟨c, ⟨rfl, rfl⟩, hop⟩
    · rintro ⟨_, ⟨rfl, rfl⟩, hop⟩
      exact ⟨op, hop, rfl, rfl⟩

/-- No operator is read exactly if the next character past the blanks is none. -/
theorem readOperator?_eq_none {α : Type} {ofChar? : Char → Option α} :
    readOperator? ofChar? text = none ↔
      ∀ c, text.ahead.head? = some c → ofChar? c = none := by
  unfold readOperator?
  split
  · next ha => simp [ha]
  · next c others ha => simp [ha]

/-- Where a reading has got to ends the text, and it is stuck at no blank. -/
def Front.Within (front : Front) (text : Line) : Prop :=
  front.rest <:+ text ∧ ∀ rest, front = .stuck rest → rest.ahead = rest

/-- Where a reading has got to ends the text; if the reading goes on, it is past the next character
that is no blank. -/
def Front.Past (front : Front) (text : Line) : Prop :=
  front.Within text ∧ ∀ rest, front = .going rest → rest.length < text.ahead.length

/-- A reading consumes something, wherever it starts and as long as it goes on. -/
def Consumes {α : Type} (reader : Reader α) : Prop := ∀ text, (reader text).2.Past text

/-- A reading that goes on is within the texts that its rest ends. -/
theorem Front.within_going (h : rest <:+ text) : (Front.going rest).Within text :=
  ⟨h, fun _ h => by cases h⟩

/-- A reading that is stuck past the blanks of a text is within the texts that this ends. -/
theorem Front.within_stuck (h : rest <:+ text) : (Front.stuck rest.ahead).Within text :=
  ⟨(Line.ahead_suffix rest).trans h, fun _ h => by cases h; exact Line.ahead_ahead rest⟩

/-- A reading within the rest of a text is within the text. -/
theorem Front.Within.trans {front : Front} (h : front.Within rest) (hrest : rest <:+ text) :
    front.Within text :=
  ⟨h.1.trans hrest, h.2⟩

/-- A reading that is not known to go on need only get within the text. -/
theorem Front.Within.past_of_stuck {place : Line} (h : (Front.stuck place).Within text) :
    (Front.stuck place).Past text :=
  ⟨h, fun _ h => by cases h⟩

/-- A reading is past the next character if less is left than from that character on. -/
theorem Front.past_going (h : rest <:+ text) (hlt : rest.length < text.ahead.length) :
    (Front.going rest).Past text :=
  ⟨within_going h, fun _ h => by cases h; exact hlt⟩

/-- A reading goes on with what ends the text. -/
theorem Front.Past.suffix (h : (Front.going rest).Past text) : rest <:+ text := h.1.1

/-- A reading that is past the rest of a text is past the text. -/
theorem Front.Past.trans {front : Front} (h : front.Past rest) (hrest : rest <:+ text) :
    front.Past text :=
  ⟨h.1.trans hrest, fun r hr => Nat.lt_of_lt_of_le (h.2 r hr) (Line.ahead_length_le hrest)⟩

/-- A reading that goes on leaves less than there was. -/
theorem Front.Past.length_lt (h : (Front.going rest).Past text) : rest.length < text.length :=
  Nat.lt_of_lt_of_le (h.2 rest rfl) (Line.ahead_suffix text).length_le

/-- Going on after a reading that consumed something has consumed something. -/
theorem Front.Past.extend {front : Front} (h : (Front.going rest).Past text)
    (hfront : front.Within rest) : front.Past text := by
  refine ⟨hfront.trans h.suffix, fun r hr => ?_⟩
  have hsuffix := hfront.1
  rw [hr] at hsuffix
  exact Nat.lt_of_le_of_lt hsuffix.length_le (h.2 rest rfl)

/-- The next character is consumed by looking for what it is. -/
theorem past_of_ahead {c : Char} (h : text.ahead = c :: rest) : (Front.going rest).Past text :=
  Front.past_going (Line.suffix_of_ahead h) (by rw [h, List.length_cons]; omega)

/-- A character that is found is passed. -/
theorem past_of_after? {c : Char} (h : text.after? c = some rest) : (Front.going rest).Past text :=
  past_of_ahead (Line.after?_eq_some.mp h)

/-- An operator that is read is passed. -/
theorem past_of_readOperator? {α : Type} {ofChar? : Char → Option α} {op : α}
    (h : readOperator? ofChar? text = some (op, rest)) : (Front.going rest).Past text := by
  obtain ⟨c, ha, -⟩ := readOperator?_eq_some.mp h
  exact past_of_ahead ha

/-- A word that is read is passed. -/
theorem past_of_readWord? {w : Word starts goesOn}
    (h : Word.read? starts goesOn text = some (w, rest)) : (Front.going rest).Past text := by
  have ha : text.ahead = w.first :: (w.others ++ rest) := (Word.read?_eq_some.mp h).1
  refine Front.past_going ?_ (by rw [ha, List.length_cons, List.length_append]; omega)
  exact (List.suffix_append w.others rest).trans (Line.suffix_of_ahead ha)

namespace Chain

variable {ω α β : Type} (chain : Chain ω α β) {operand : Reader α} (consumes : Consumes operand)

include consumes

/-- Enough fuel is enough: more of it changes nothing. -/
theorem readRest_fuel {fuel fuel' : Nat} (left : β) (hfuel : text.length < fuel)
    (hfuel' : text.length < fuel') :
    chain.readRest operand fuel left text = chain.readRest operand fuel' left text := by
  induction fuel generalizing fuel' left text with
  | zero => omega
  | succ fuel ih =>
    obtain ⟨fuel', rfl⟩ : ∃ f, fuel' = f + 1 := ⟨fuel' - 1, by omega⟩
    rw [readRest, readRest]
    cases hop : readOperator? chain.ofChar? text with
    | none => rfl
    | some found =>
      obtain ⟨op, rest⟩ := found
      have hlt := (past_of_readOperator? hop).length_lt
      have hp := consumes rest
      simp only
      generalize operand rest = reading at hp
      obtain ⟨right, front⟩ := reading
      cases front with
      | stuck place => rfl
      | going rest' =>
        have hlt' := Front.Past.length_lt hp
        exact ih _ (by omega) (by omega)

/-- One round of the rest of a chain. -/
theorem readRest_step {op : ω} {right : α} {mid : Line} (left : β)
    (hop : readOperator? chain.ofChar? text = some (op, mid))
    (hoperand : operand mid = (right, .going rest)) :
    chain.readRest operand (text.length + 1) left text =
      chain.readRest operand (rest.length + 1) (chain.step left op right) rest := by
  have hlt := (past_of_readOperator? hop).length_lt
  have hp := consumes mid
  rw [hoperand] at hp
  have hlt' := Front.Past.length_lt hp
  rw [readRest, hop]
  simp only [hoperand]
  exact chain.readRest_fuel consumes _ (by omega) (by omega)

omit consumes in
/-- The rest of a chain ends where no operator of it comes next. -/
theorem readRest_stop (operand : Reader α) (fuel : Nat) (left : β)
    (hop : readOperator? chain.ofChar? text = none) :
    chain.readRest operand fuel left text = (left, .going text) := by
  cases fuel with
  | zero => rfl
  | succ fuel => rw [readRest, hop]

/-- The rest of a chain is read within the text, by induction on its operators. -/
theorem within_readRest (fuel : Nat) (left : β) (text : Line) :
    (chain.readRest operand fuel left text).2.Within text := by
  induction fuel generalizing left text with
  | zero => exact Front.within_going (List.suffix_refl text)
  | succ fuel ih =>
    unfold readRest
    split
    · exact Front.within_going (List.suffix_refl text)
    · next op rest hop =>
      have hrest : rest <:+ text := (past_of_readOperator? hop).suffix
      have hp := consumes rest
      split
      · next right rest' hoperand =>
        rw [hoperand] at hp
        exact (ih _ rest').trans (hp.1.1.trans hrest)
      · next right place hoperand =>
        rw [hoperand] at hp
        exact hp.1.trans hrest

/-- A chain consumes something, since its first operand does. -/
theorem consumes_read : Consumes (chain.read operand) := by
  intro text
  have hp := consumes text
  unfold read
  split
  · next first rest hoperand =>
    rw [hoperand] at hp
    exact hp.extend (chain.within_readRest consumes (rest.length + 1) (chain.one first) rest)
  · next first place hoperand =>
    rw [hoperand] at hp
    exact hp

end Chain

section

variable {nested : Reader Primary} (consumes : Consumes nested)

include consumes

/-- A factor consumes something. -/
theorem consumes_readFactor : Consumes (readFactor nested) := products.consumes_read consumes

/-- A term consumes something. -/
theorem consumes_readTerm : Consumes (readTerm nested) :=
  sums.consumes_read (consumes_readFactor consumes)

omit consumes in
/-- Arguments after one that has been read are read within the text. -/
theorem within_readOthers {others : Reader Arguments} (hothers : Consumes others) (first : Term)
    (text : Line) : (readOthers others first text).2.Within text := by
  unfold readOthers
  split
  · next rest hcomma => exact (hothers rest).1.trans (past_of_after? hcomma).suffix
  · split
    · exact Front.within_stuck (List.suffix_refl text)
    · exact (hothers text).1

/-- The arguments of a call consume something, the closing parenthesis at least. -/
theorem consumes_readArguments (fuel : Nat) : Consumes (readArguments nested fuel) := by
  induction fuel with
  | zero => exact fun text => (Front.within_stuck (List.suffix_refl text)).past_of_stuck
  | succ fuel ih =>
    intro text
    have hp := consumes_readTerm consumes text
    unfold readArguments
    split
    · next rest hclose =>
      exact past_of_after? hclose
    · split
      · next first place hterm =>
        rw [hterm] at hp
        exact hp
      · next first rest hterm =>
        rw [hterm] at hp
        exact hp.extend (within_readOthers ih first rest)

/-- A term in parentheses consumes something. -/
theorem consumes_readParen : Consumes (readParen nested) := by
  intro text
  have hp := consumes_readTerm consumes text
  unfold readParen
  split
  · next inner place hterm =>
    rw [hterm] at hp
    exact hp
  · next inner rest hterm =>
    rw [hterm] at hp
    split
    · next rest' hclose =>
      exact (past_of_after? hclose).trans hp.suffix
    · exact (Front.within_stuck hp.suffix).past_of_stuck

/-- What follows a name is read within the text. -/
theorem within_readNamed (name : Identifier) (text : Line) :
    (readNamed nested name text).2.Within text := by
  unfold readNamed
  split
  · next inside hopen =>
    exact (consumes_readArguments consumes _ inside).1.trans (past_of_after? hopen).suffix
  · exact Front.within_going (List.suffix_refl text)

/-- A primary with a sign consumes something. -/
theorem consumes_readSigned : Consumes (readSigned nested) := by
  intro text
  unfold readSigned
  split
  · next op rest hop => exact (consumes rest).trans (past_of_readOperator? hop).suffix
  · split
    · next numeral rest hnumeral => exact past_of_readWord? hnumeral
    · exact (Front.within_stuck (List.suffix_refl text)).past_of_stuck

/-- A primary consumes something if the primaries nested in it do. -/
theorem consumes_readPrimaryWith : Consumes (readPrimaryWith nested) := by
  intro text
  unfold readPrimaryWith
  split
  · next name rest hname =>
    exact (past_of_readWord? hname).extend (within_readNamed consumes name rest)
  · split
    · next inside hopen =>
      exact (consumes_readParen consumes inside).trans (past_of_after? hopen).suffix
    · exact consumes_readSigned consumes text

end

/-- Primaries consume something however deep they may nest. -/
theorem consumes_readPrimary (nesting : Nat) : Consumes (readPrimary nesting) := by
  induction nesting with
  | zero => exact fun text => (Front.within_stuck (List.suffix_refl text)).past_of_stuck
  | succ nesting ih => exact consumes_readPrimaryWith ih

/-- Reading a line consumes something. -/
theorem consumes_read : Consumes read :=
  fun line => consumes_readTerm (consumes_readPrimary (line.length + 1)) line

end LineScan.Grammar
