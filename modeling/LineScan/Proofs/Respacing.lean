import LineScan.Proofs.Acceptance
import LineScan.Proofs.Replay
import LineScan.Proofs.Pointing

/-!
# Blanks between tokens

A line is cut in two and blanks are put into the cut. If the cut is not within a name or a number,
the line is read as before: `Spaced` says that one text is the other with the gap in it, or that the
gap is behind both, and `Respaces` lifts this from the readings of one level to those of the next,
each with a bound of its own.

So the trees are the same, and only the place where a reading has got to is another one. The value
of a tree depends on that place in one way: a complaint that names a column names the column of that
place (`Term.value_move`).

## Main statements

* `read_respaced`: a line with blanks put into it is read as the same tree.
* `lineValue_respaced`: its value is the same, up to the column of a complaint.
* `evaluate_respaced`: blanks between tokens change nothing but the column in a message.
-/

namespace LineScan

/-! ## Complaints at another column -/

/-- The complaint with another column, if it names one. -/
def Complaint.mapColumn (move : Int → Int) : Complaint → Complaint
  | .expected label column => .expected label (move column)
  | .demanded text column => .demanded text (move column)
  | .syntaxError column => .syntaxError (move column)
  | c => c

/-- The cause of a failure with another column, if it names one. -/
def Abort.mapColumn (move : Int → Int) : Abort → Abort
  | .complaint c => .complaint (c.mapColumn move)
  | .fault f => .fault f

/-- The messages are the same, up to the number of a column at their end. -/
def Text.SameButColumn (move : Int → Int) (message message' : String) : Prop :=
  message' = message ∨ ∃ (before : String) (n : Int), message = before ++ s!"at pos {n}" ∧
    message' = before ++ s!"at pos {move n}"

/-- A number after a text keeps to itself: the messages differ in it alone. -/
theorem Text.sameButColumn_append (move : Int → Int) (front : String) (n : Int) :
    Text.SameButColumn move (front ++ " at pos " ++ toString n)
      (front ++ " at pos " ++ toString (move n)) := by
  have hcut : ∀ m : Int, front ++ " at pos " ++ toString m = front ++ " " ++ s!"at pos {m}" := by
    intro m
    rw [show (" at pos " : String) = " " ++ "at pos " from rfl, String.append_assoc,
      String.append_assoc, String.append_assoc]
    rfl
  exact .inr ⟨front ++ " ", n, hcut n, hcut (move n)⟩

/-- Moving the column of a complaint changes nothing else in its message. -/
theorem Complaint.message_mapColumn (move : Int → Int) (c : Complaint) :
    Text.SameButColumn move c.message (c.mapColumn move).message := by
  cases c with
  | expected label column => exact Text.sameButColumn_append move ("expected " ++ label) column
  | demanded text column => exact Text.sameButColumn_append move text column
  | syntaxError column => exact Text.sameButColumn_append move "syntax error" column
  | _ => exact .inl rfl

namespace Grammar

open Calculator

/-! ## Texts with a gap -/

/-- Where two texts meet, it is not within a name or a number. -/
def Apart (front rest : Line) : Prop :=
  ∀ c d, front.getLast? = some c → rest.head? = some d →
    ¬ (Text.isIdentChar c = true ∧ Text.isIdentChar d = true)

/-- The second text is the first one with the gap before the rest, or both are behind the gap. -/
inductive Spaced (gap rest : Line) : Line → Line → Prop where
  | before {front : Line} (apart : Apart front rest) :
      Spaced gap rest (front ++ rest) (front ++ (gap ++ rest))
  | behind {text : Line} (ends : text <:+ rest) : Spaced gap rest text text

section

variable {gap rest text text' x : Line} {c : Char}

/-- Texts that meet apart still do if the front is shortened. -/
theorem Apart.of_suffix {front front' : Line} (apart : Apart front rest) (h : front' <:+ front) :
    Apart front' rest := by
  obtain ⟨before, rfl⟩ := h
  intro c d hc hd
  refine apart c d ?_ hd
  rw [List.getLast?_append, hc]
  rfl

/-- Past the blanks the texts are the same and behind the gap, or the gap comes after something
else. -/
theorem Spaced.ahead_cases (blank : ∀ c ∈ gap, Text.isBlank c = true)
    (h : Spaced gap rest text text') :
    text'.ahead = text.ahead ∧ text.ahead <:+ rest ∨
      ∃ c front, text.ahead = c :: front ++ rest ∧ text'.ahead = c :: front ++ (gap ++ rest) ∧
        Apart (c :: front) rest := by
  cases h with
  | behind ends => exact .inl ⟨rfl, (Line.ahead_suffix text).trans ends⟩
  | @before front apart =>
    rw [Line.ahead_append front rest, Line.ahead_append front (gap ++ rest),
      Line.ahead_append_of_blank blank]
    cases hfront : front.ahead with
    | nil => exact .inl ⟨rfl, Line.ahead_suffix rest⟩
    | cons c others =>
      refine .inr ⟨c, others, rfl, rfl, apart.of_suffix ?_⟩
      rw [← hfront]
      exact Line.ahead_suffix front

variable (blank : ∀ c ∈ gap, Text.isBlank c = true) (h : Spaced gap rest text text')

include blank h

/-- Blanks at the front may be passed in both texts. -/
theorem Spaced.ahead : Spaced gap rest text.ahead text'.ahead := by
  rcases h.ahead_cases blank with ⟨heq, ends⟩ | ⟨c, front, hahead, hahead', apart⟩
  · rw [heq]
    exact .behind ends
  · rw [hahead, hahead']
    exact .before apart

/-- What comes next is the same with and without the gap. -/
theorem Spaced.next : text'.ahead.head? = text.ahead.head? := by
  rcases h.ahead_cases blank with ⟨heq, -⟩ | ⟨c, front, hahead, hahead', -⟩
  · rw [heq]
  · rw [hahead, hahead']
    rfl

/-- The next character past the blanks is the same in both texts. -/
theorem Spaced.exists_ahead (hahead : text.ahead = c :: x) :
    ∃ x', text'.ahead = c :: x' ∧ Spaced gap rest x x' := by
  rcases h.ahead_cases blank with ⟨heq, ends⟩ | ⟨d, front, hfront, hfront', apart⟩
  · rw [hahead] at heq ends
    exact ⟨x, heq, .behind ((List.suffix_cons c x).trans ends)⟩
  · rw [hahead] at hfront
    cases hfront
    exact ⟨_, hfront', .before (apart.of_suffix (List.suffix_cons c front))⟩

/-- A character that is found in one text is found in the other. -/
theorem Spaced.exists_after? (hafter : text.after? c = some x) :
    ∃ x', text'.after? c = some x' ∧ Spaced gap rest x x' := by
  obtain ⟨x', hahead', hspaced⟩ := h.exists_ahead blank (Line.after?_eq_some.mp hafter)
  exact ⟨x', Line.after?_eq_some.mpr hahead', hspaced⟩

/-- An operator that is read in one text is read in the other. -/
theorem Spaced.exists_readOperator? {ω : Type} {ofChar? : Char → Option ω} {op : ω}
    (hop : readOperator? ofChar? text = some (op, x)) :
    ∃ x', readOperator? ofChar? text' = some (op, x') ∧ Spaced gap rest x x' := by
  obtain ⟨c, hahead, hc⟩ := readOperator?_eq_some.mp hop
  obtain ⟨x', hahead', hspaced⟩ := h.exists_ahead blank hahead
  exact ⟨x', readOperator?_eq_some.mpr ⟨c, hahead', hc⟩, hspaced⟩

/-- A word ends before the gap or starts behind it, since the gap is not within a word. -/
theorem Spaced.exists_readWord? {starts goesOn : Char → Bool} {w : Word starts goesOn}
    (hstarts : ∀ c, starts c = true → Text.isIdentChar c = true)
    (hgoesOn : ∀ c, goesOn c = true → Text.isIdentChar c = true)
    (hword : Word.read? starts goesOn text = some (w, x)) :
    ∃ x', Word.read? starts goesOn text' = some (w, x') ∧ Spaced gap rest x x' := by
  obtain ⟨hahead, hstop⟩ := Word.read?_eq_some.mp hword
  have hident : ∀ c ∈ w.chars, Text.isIdentChar c = true := by
    intro c hc
    rcases List.mem_cons.mp hc with rfl | hc
    · exact hstarts _ w.first_starts
    · exact hgoesOn c (w.others_goOn c hc)
  rcases h.ahead_cases blank with ⟨heq, ends⟩ | ⟨c, front, hfront, hfront', apart⟩
  · have hsuffix : x <:+ rest := by
      rw [hahead] at ends
      exact (List.suffix_append w.chars x).trans ends
    exact ⟨x, Word.read?_eq_some.mpr ⟨heq.trans hahead, hstop⟩, .behind hsuffix⟩
  rw [hfront] at hahead
  -- what is left of the word's text before the gap
  obtain ⟨more, hmore, hx⟩ : ∃ more, c :: front = w.chars ++ more ∧ x = more ++ rest := by
    rcases List.append_eq_append_iff.mp hahead with ⟨excess, hexcess, hrest⟩ | ⟨more, hmore, hx⟩
    · cases excess with
      | nil => exact ⟨[], by rw [hexcess]; simp, by rw [hrest]; rfl⟩
      | cons d excess =>
        -- the word would go on behind the gap
        have hd : Text.isIdentChar d = true := hident d (by rw [hexcess]; simp)
        obtain ⟨last, hlast⟩ : ∃ last, (c :: front).getLast? = some last :=
          ⟨_, List.getLast?_eq_some_getLast (List.cons_ne_nil c front)⟩
        have hmem : last ∈ w.chars := by
          rw [hexcess]
          exact List.mem_append_left _ (List.mem_of_getLast? hlast)
        exact absurd ⟨hident last hmem, hd⟩ (apart last d hlast (by rw [hrest]; rfl))
    · exact ⟨more, hmore, hx⟩
  subst hx
  refine ⟨more ++ (gap ++ rest), Word.read?_eq_some.mpr ⟨?_, fun d hd => ?_⟩,
    .before (apart.of_suffix (hmore ▸ List.suffix_append w.chars more))⟩
  · rw [hfront', hmore, List.append_assoc]
  · cases more with
    | cons e more => exact hstop d hd
    | nil =>
      cases gap with
      | nil => exact hstop d hd
      | cons e gap =>
        cases hd
        -- the word is followed by a blank now
        rw [← Bool.not_eq_true]
        intro hgoes
        have hnot := isIdentChar_of_isBlank (blank d (List.mem_cons_self ..))
        rw [hgoesOn d hgoes] at hnot
        cases hnot

end

/-! ## Readings -/

section

variable (gap rest : Line)

/-- The same has been read, up to texts of which one is the other with the gap. -/
inductive ReadAlike {τ : Type} : τ × Front → τ × Front → Prop where
  | going (t : τ) {x x' : Line} (spaced : Spaced gap rest x x') :
      ReadAlike (t, .going x) (t, .going x')
  | stuck (t : τ) {x x' : Line} (spaced : Spaced gap rest x x') :
      ReadAlike (t, .stuck x) (t, .stuck x')

/-- Texts that are the same up to the gap are read alike, if they are not too long. -/
def Respaces {τ : Type} (bound bound' : Nat) (reader reader' : Reader τ) : Prop :=
  ∀ {text text' : Line}, Spaced gap rest text text' → text.length < bound →
    text'.length < bound' → ReadAlike gap rest (reader text) (reader' text')

end

section

variable {gap rest : Line}

/-- What has been read alike stays so in a larger tree. -/
theorem ReadAlike.map {τ υ : Type} {r r' : τ × Front} (f : τ → υ) (h : ReadAlike gap rest r r') :
    ReadAlike gap rest (f r.1, r.2) (f r'.1, r'.2) := by
  cases h with
  | going t spaced => exact .going (f t) spaced
  | stuck t spaced => exact .stuck (f t) spaced

variable (blank : ∀ c ∈ gap, Text.isBlank c = true)

include blank

namespace Chain

variable {ω α β : Type} (chain : Chain ω α β) {operand operand' : Reader α} {bound bound' : Nat}
  (consumes : Consumes operand) (consumes' : Consumes operand')
  (respaces : Respaces gap rest bound bound' operand operand')

include consumes consumes' respaces

/-- The rest of a chain is read alike, with any two bounds that are enough. -/
theorem respaces_readRest (fuel fuel' : Nat) (left : β) :
    Respaces gap rest (min fuel bound) (min fuel' bound') (chain.readRest operand fuel left)
      (chain.readRest operand' fuel' left) := by
  -- the induction is on the number of operators; each text has a bound of its own
  induction fuel generalizing fuel' left with
  | zero => exact fun _ hbound => by omega
  | succ fuel ih =>
    intro text text' h hbound hbound'
    obtain ⟨fuel', rfl⟩ : ∃ f, fuel' = f + 1 := ⟨fuel' - 1, by omega⟩
    rw [readRest, readRest]
    cases hop : readOperator? chain.ofChar? text with
    | none =>
      rw [not_readOperator?_of_next (h.next blank) hop]
      exact .going left h
    | some found =>
      obtain ⟨op, mid⟩ := found
      obtain ⟨mid', hop', hmid⟩ := h.exists_readOperator? blank hop
      have hlt := (past_of_readOperator? hop).length_lt
      have hlt' := (past_of_readOperator? hop').length_lt
      have hright := respaces hmid (by omega) (by omega)
      have hpast := consumes mid
      have hpast' := consumes' mid'
      simp only [hop']
      generalize operand mid = reading at hright hpast
      generalize operand' mid' = reading' at hright hpast'
      cases hright with
      | stuck right spaced => exact .stuck _ spaced
      | going right spaced =>
        have hlast := Front.Past.length_lt hpast
        have hlast' := Front.Past.length_lt hpast'
        exact ih fuel' _ spaced (by omega) (by omega)

/-- Chains are read alike if their operands are. -/
theorem respaces_read :
    Respaces gap rest bound bound' (chain.read operand) (chain.read operand') := by
  intro text text' h hbound hbound'
  have hfirst := respaces h hbound hbound'
  have hpast := consumes text
  have hpast' := consumes' text'
  unfold read
  generalize operand text = reading at hfirst hpast
  generalize operand' text' = reading' at hfirst hpast'
  cases hfirst with
  | stuck first spaced => exact .stuck _ spaced
  | going first spaced =>
    have hlt := Front.Past.length_lt hpast
    have hlt' := Front.Past.length_lt hpast'
    exact chain.respaces_readRest blank consumes consumes' respaces _ _ _ spaced (by omega)
      (by omega)

end Chain

variable {nested nested' : Reader Primary} {bound bound' : Nat} (consumes : Consumes nested)
  (consumes' : Consumes nested') (respaces : Respaces gap rest bound bound' nested nested')

include consumes consumes' respaces

/-- Factors are read alike if their primaries are. -/
theorem respaces_readFactor :
    Respaces gap rest bound bound' (readFactor nested) (readFactor nested') :=
  products.respaces_read blank consumes consumes' respaces

/-- Terms are read alike if their primaries are. -/
theorem respaces_readTerm : Respaces gap rest bound bound' (readTerm nested) (readTerm nested') :=
  sums.respaces_read blank (consumes_readFactor consumes) (consumes_readFactor consumes')
    (respaces_readFactor blank consumes consumes' respaces)

omit consumes consumes' respaces in
/-- Arguments after one that has been read are read alike if the others are. -/
theorem respaces_readOthers {others others' : Reader Arguments}
    (hothers : Respaces gap rest bound bound' others others') (first : Term) :
    Respaces gap rest bound bound' (readOthers others first) (readOthers others' first) := by
  intro text text' h hbound hbound'
  unfold readOthers
  cases hcomma : text.after? ',' with
  | some mid =>
    obtain ⟨mid', hcomma', hmid⟩ := h.exists_after? blank hcomma
    have hlt := (past_of_after? hcomma).length_lt
    have hlt' := (past_of_after? hcomma').length_lt
    simp only [hcomma']
    exact (hothers hmid (by omega) (by omega)).map (Arguments.more first true)
  | none =>
    simp only [not_after?_of_next (h.next blank) hcomma, atEnd_of_next (h.next blank)]
    split
    · exact .stuck _ (h.ahead blank)
    · exact (hothers h hbound hbound').map (Arguments.more first false)

/-- The arguments of a call are read alike, by induction on how many there may be. -/
theorem respaces_readArguments (fuel fuel' : Nat) :
    Respaces gap rest (min fuel bound) (min fuel' bound') (readArguments nested fuel)
      (readArguments nested' fuel') := by
  induction fuel generalizing fuel' with
  | zero => exact fun _ hbound => by omega
  | succ fuel ih =>
    intro text text' h hbound hbound'
    obtain ⟨fuel', rfl⟩ : ∃ f, fuel' = f + 1 := ⟨fuel' - 1, by omega⟩
    rw [readArguments, readArguments]
    cases hclose : text.after? ')' with
    | some mid =>
      obtain ⟨mid', hclose', hmid⟩ := h.exists_after? blank hclose
      simp only [hclose']
      exact .going _ hmid
    | none =>
      simp only [not_after?_of_next (h.next blank) hclose]
      have hterm := respaces_readTerm blank consumes consumes' respaces h (by omega) (by omega)
      have hpast := consumes_readTerm consumes text
      have hpast' := consumes_readTerm consumes' text'
      generalize readTerm nested text = reading at hterm hpast
      generalize readTerm nested' text' = reading' at hterm hpast'
      cases hterm with
      | stuck first spaced => exact .stuck _ spaced
      | going first spaced =>
        have hlt := Front.Past.length_lt hpast
        have hlt' := Front.Past.length_lt hpast'
        exact respaces_readOthers blank (ih fuel') first spaced (by omega) (by omega)

/-- A term in parentheses is read alike if its primaries are. -/
theorem respaces_readParen :
    Respaces gap rest bound bound' (readParen nested) (readParen nested') := by
  intro text text' h hbound hbound'
  have hterm := respaces_readTerm blank consumes consumes' respaces h hbound hbound'
  unfold readParen
  generalize readTerm nested text = reading at hterm
  generalize readTerm nested' text' = reading' at hterm
  cases hterm with
  | stuck inner spaced => exact .stuck _ spaced
  | @going inner mid mid' spaced =>
    cases hclose : mid.after? ')' with
    | some last =>
      obtain ⟨last', hclose', hlast⟩ := spaced.exists_after? blank hclose
      simp only [hclose, hclose']
      exact .going _ hlast
    | none =>
      simp only [hclose, not_after?_of_next (spaced.next blank) hclose]
      exact .stuck _ (spaced.ahead blank)

/-- What follows a name is read alike if the primaries in it are. -/
theorem respaces_readNamed (name : Identifier) :
    Respaces gap rest bound bound' (readNamed nested name) (readNamed nested' name) := by
  intro text text' h hbound hbound'
  unfold readNamed
  cases hopen : text.after? '(' with
  | some inside =>
    obtain ⟨inside', hopen', hinside⟩ := h.exists_after? blank hopen
    have hlt := (past_of_after? hopen).length_lt
    have hlt' := (past_of_after? hopen').length_lt
    simp only [hopen']
    exact (respaces_readArguments blank consumes consumes' respaces _ _ hinside (by omega)
      (by omega)).map (Primary.call name)
  | none =>
    simp only [not_after?_of_next (h.next blank) hopen]
    exact .going _ h

omit consumes consumes' in
/-- A primary with a sign is read alike if the primaries after it are. -/
theorem respaces_readSigned :
    Respaces gap rest (bound + 1) (bound' + 1) (readSigned nested) (readSigned nested') := by
  intro text text' h hbound hbound'
  unfold readSigned
  cases hop : readOperator? Additive.ofChar? text with
  | some found =>
    obtain ⟨op, mid⟩ := found
    obtain ⟨mid', hop', hmid⟩ := h.exists_readOperator? blank hop
    have hlt := (past_of_readOperator? hop).length_lt
    have hlt' := (past_of_readOperator? hop').length_lt
    simp only [hop']
    exact (respaces hmid (by omega) (by omega)).map (Primary.sign op)
  | none =>
    simp only [not_readOperator?_of_next (h.next blank) hop]
    cases hnumeral : Numeral.read? text with
    | some found =>
      obtain ⟨numeral, mid⟩ := found
      obtain ⟨mid', hnumeral', hmid⟩ := h.exists_readWord? blank
        (fun _ => isIdentChar_of_isDigit) (fun _ => isIdentChar_of_isDigit) hnumeral
      rw [Numeral.read?, hnumeral']
      exact .going _ hmid
    | none =>
      have hnumeral' : Numeral.read? text' = none :=
        not_readWord?_of_next (h.next blank) hnumeral
      rw [hnumeral']
      exact .stuck _ (h.ahead blank)

/-- A primary is read alike if the primaries nested in it are. -/
theorem respaces_readPrimaryWith :
    Respaces gap rest (bound + 1) (bound' + 1) (readPrimaryWith nested)
      (readPrimaryWith nested') := by
  intro text text' h hbound hbound'
  unfold readPrimaryWith
  cases hname : Identifier.read? text with
  | some found =>
    obtain ⟨name, mid⟩ := found
    obtain ⟨mid', hname', hmid⟩ := h.exists_readWord? blank
      (fun _ => isIdentChar_of_isIdentStart) (fun _ => id) hname
    have hlt := (past_of_readWord? hname).length_lt
    have hlt' := (past_of_readWord? hname').length_lt
    rw [Identifier.read?, hname']
    exact respaces_readNamed blank consumes consumes' respaces name hmid (by omega) (by omega)
  | none =>
    have hname' : Identifier.read? text' = none := not_readWord?_of_next (h.next blank) hname
    rw [hname']
    cases hopen : text.after? '(' with
    | some inside =>
      obtain ⟨inside', hopen', hinside⟩ := h.exists_after? blank hopen
      have hlt := (past_of_after? hopen).length_lt
      have hlt' := (past_of_after? hopen').length_lt
      simp only [hopen']
      exact respaces_readParen blank consumes consumes' respaces hinside (by omega) (by omega)
    | none =>
      -- neither reading begins with a name or a parenthesis, since blanks do not change what is
      -- next
      simp only [not_after?_of_next (h.next blank) hopen]
      exact respaces_readSigned blank respaces h hbound hbound'

omit consumes consumes' respaces in
/-- Primaries are read alike however deep they may nest. -/
theorem respaces_readPrimary (nesting nesting' : Nat) :
    Respaces gap rest nesting nesting' (readPrimary nesting) (readPrimary nesting') := by
  induction nesting generalizing nesting' with
  | zero => exact fun _ hbound => by omega
  | succ nesting ih =>
    intro text text' h hbound hbound'
    obtain ⟨nesting', rfl⟩ : ∃ n, nesting' = n + 1 := ⟨nesting' - 1, by omega⟩
    exact respaces_readPrimaryWith blank (consumes_readPrimary nesting)
      (consumes_readPrimary nesting') (ih nesting') h hbound hbound'

omit consumes consumes' respaces in
/-- A line with blanks put into it, not within a name or a number, is read as the same tree. -/
theorem read_respaced {front : Line} (apart : Apart front rest) :
    ReadAlike gap rest (read (front ++ rest)) (read (front ++ (gap ++ rest))) :=
  respaces_readTerm blank (consumes_readPrimary _) (consumes_readPrimary _)
    (respaces_readPrimary blank _ _) (.before apart) (Nat.lt_succ_self _) (Nat.lt_succ_self _)

end

/-! ## Values -/

variable {k : Calculator} (move : Int → Int)

/-- Failures are changed in each of two steps. -/
theorem mapError_bind {α β : Type} (x : Except Abort α) (f : α → Except Abort β)
    (g : Abort → Abort) :
    (x >>= f).mapError g = x.mapError g >>= fun a => (f a).mapError g := by
  cases x <;> rfl

/-- The value of a variable names no column. -/
theorem mapError_variableValue (k : Calculator) (name : String) :
    (variableValue k name).mapError (Abort.mapColumn move) = variableValue k name := by
  unfold variableValue
  split
  · rfl
  · split <;> rfl

/-- Combining two values names no column. -/
theorem mapError_combine (op : Multiplicative) (a b : Int) :
    (op.combine a b).mapError (Abort.mapColumn move) = op.combine a b := by
  unfold Multiplicative.combine
  split
  · split <;> rfl
  · rfl

/-- A pure function names no column. -/
theorem mapError_callValue (hpure : k.PureFunctions) {name : String} {function : Builtin}
    (known : k.functions.get? name = some function) (args : List Int) :
    (callValue k name function args).mapError (Abort.mapColumn move) =
      callValue k name function args := by
  unfold callValue
  split
  · rfl
  · next hneed =>
    rcases answer_of_pure hpure known (applicable_of_not_lacking hneed) with ⟨n, hn⟩ | ⟨f, hf⟩
    · rw [hn]
      rfl
    · rw [hf]
      rfl

mutual

/-- If a primary breaks off at another column, its complaint names that column. -/
theorem Primary.value_move (hpure : k.PureFunctions) (column : Int) : ∀ (t : Primary) (depth : Nat),
    t.value k (move column) depth = (t.value k column depth).mapError (Abort.mapColumn move)
  | _, 0 => by
    simp only [Primary.value]
    rfl
  | .call name args, depth + 1 => by
    simp only [Primary.value]
    cases hknown : k.functions.get? name.text with
    | none => rfl
    | some function =>
      simp only [mapError_bind, args.values_move hpure column depth name.text maxArguments,
        mapError_callValue move hpure hknown]
  | .var name, _ + 1 => by simp only [Primary.value, mapError_variableValue]
  | .paren inner, depth + 1 => by
    simp only [Primary.value, inner.value_move hpure column depth]
  | .sign op inner, depth + 1 => by
    simp only [Primary.value, mapError_bind, inner.value_move hpure column depth]
    rfl
  | .int numeral, _ + 1 => by
    simp only [Primary.value]
    split <;> rfl
  | .missing, _ + 1 => by
    simp only [Primary.value]
    rfl
  | .unclosed inner, depth + 1 => by
    simp only [Primary.value, mapError_bind, inner.value_move hpure column depth]
    rfl

/-- The value of a factor moves with its column, as those of its primaries do. -/
theorem Factor.value_move (hpure : k.PureFunctions) (column : Int) : ∀ (t : Factor) (depth : Nat),
    t.value k (move column) depth = (t.value k column depth).mapError (Abort.mapColumn move)
  | .one first, depth => by simp only [Factor.value, first.value_move hpure column depth]
  | .step left op right, depth => by
    simp only [Factor.value, mapError_bind, mapError_combine, left.value_move hpure column depth,
      right.value_move hpure column depth]

/-- The value of a term moves with its column, as those of its factors do. -/
theorem Term.value_move (hpure : k.PureFunctions) (column : Int) : ∀ (t : Term) (depth : Nat),
    t.value k (move column) depth = (t.value k column depth).mapError (Abort.mapColumn move)
  | .one first, depth => by simp only [Term.value, first.value_move hpure column depth]
  | .step left op right, depth => by
    simp only [Term.value, mapError_bind, left.value_move hpure column depth,
      right.value_move hpure column depth]
    rfl

/-- The values of arguments move with their column, as those of the terms do. -/
theorem Arguments.values_move (hpure : k.PureFunctions) (column : Int) :
    ∀ (args : Arguments) (depth : Nat) (name : String) (room : Nat),
    args.values k (move column) depth name room =
      (args.values k column depth name room).mapError (Abort.mapColumn move)
  | .close, _, _, _ => by
    simp only [Arguments.values]
    rfl
  | .more .., _, _, 0 => by
    simp only [Arguments.values]
    rfl
  | .more first _ rest, depth, name, room + 1 => by
    simp only [Arguments.values, mapError_bind, first.value_move hpure column depth,
      rest.values_move hpure column depth name room]
    rfl
  | .cut, _, _, _ => by
    simp only [Arguments.values]
    rfl

end

/-! ## Lines -/

section

variable {front gap rest : Line}

/-- Where a column gets to when a gap is put in after some columns. -/
def moveColumn (front gap : Line) (column : Int) : Int :=
  if column ≤ front.length then column else column + gap.length

/-- What comes next keeps its column before the gap, and is moved by the gap behind it. -/
theorem Spaced.column (front : Line) (blank : ∀ c ∈ gap, Text.isBlank c = true) {x x' : Line}
    (h : Spaced gap rest x x') :
    (front ++ (gap ++ rest)).place x'.ahead + 1 =
      moveColumn front gap ((front ++ rest).place x.ahead + 1) := by
  unfold moveColumn
  rcases h.ahead_cases blank with ⟨heq, ends⟩ | ⟨c, others, hahead, hahead', -⟩
  · have hle := ends.length_le
    rw [heq]
    simp only [Line.place, List.length_append, Int.natCast_add]
    rw [if_neg (by omega)]
    omega
  · rw [hahead, hahead']
    simp only [Line.place, List.length_append, List.length_cons, Int.natCast_add]
    rw [if_pos (by omega)]
    omega

/-- A line with blanks put into it has the same value, or is refused for the same cause at the
column that the old one has got to. -/
theorem lineValue_respaced (hpure : k.PureFunctions) (blank : ∀ c ∈ gap, Text.isBlank c = true)
    (apart : Apart front rest) :
    lineValue k (front ++ (gap ++ rest)) =
      (lineValue k (front ++ rest)).mapError (Abort.mapColumn (moveColumn front gap)) := by
  have hread := read_respaced blank apart
  have hshows := reads_read (front ++ rest)
  have hwithin := (consumes_read (front ++ rest)).1
  have hwithin' := (consumes_read (front ++ (gap ++ rest))).1
  generalize hreading : read (front ++ rest) = reading at hread hshows hwithin
  generalize hreading' : read (front ++ (gap ++ rest)) = reading' at hread hwithin'
  cases hread with
  | stuck t spaced =>
    -- a stuck reading has skipped the blanks
    have hcolumn := spaced.column front blank
    rw [hwithin.2 _ rfl, hwithin'.2 _ rfl] at hcolumn
    rw [lineValue_of_stuck hreading, lineValue_of_stuck hreading', hcolumn, t.value_move _ hpure]
  | @going t x x' spaced =>
    have hnil : x'.ahead = [] ↔ x.ahead = [] := by
      rw [← List.head?_eq_none_iff, spaced.next blank, List.head?_eq_none_iff]
    have hvalue := t.value_move (moveColumn front gap) hpure
      ((front ++ rest).place x + 1) k.maxDepth.toNat
    rw [lineValue_of_going hreading, lineValue_of_going hreading', mapError_bind, ← hvalue,
      t.value_column k.maxDepth.toNat hshows.1]
    congr 1
    funext n
    by_cases hend : x.ahead = []
    · rw [if_pos hend, if_pos (hnil.mpr hend)]
      rfl
    · rw [if_neg hend, if_neg (mt hnil.mp hend), spaced.column front blank]
      rfl

/-- A line evaluates to what it is worth, wherever the scanner has been before. -/
theorem answer_evaluate_iff (hpure : k.PureFunctions) {line : Line} {s : Scanner} {n : Int} :
    Result.answer (k.evaluate line s) = .ok n ↔ lineValue k line = .ok n := by
  constructor
  · intro h
    generalize hresult : k.evaluate line s = result at h
    cases result with
    | ok m s' =>
      cases h
      exact lineValue_of_evaluate hpure hresult
    | error failure s' => cases h
  · intro h
    obtain ⟨s', hs'⟩ := exists_evaluate_of_lineValue hpure h s
    rw [hs']
    rfl

/-- A line is refused for what it has instead of a value. -/
theorem scanError?_evaluate_iff (hpure : k.PureFunctions) {line : Line} {s : Scanner}
    {c : Complaint} :
    (∃ e, Result.scanError? (k.evaluate line s) = some e ∧ e.complaint = c) ↔
      lineValue k line = .error (.complaint c) := by
  constructor
  · rintro ⟨e, he, rfl⟩
    obtain ⟨s', hs'⟩ := Result.eq_error_of_scanError? he
    exact (lineValue_of_error hpure hs').1
  · intro h
    obtain ⟨e, s', hs', hc, -⟩ := exists_error_of_lineValue hpure h s
    refine ⟨e, ?_, hc⟩
    rw [hs']
    rfl

/-- Blanks between tokens never matter. Put blanks into a line, not within a name or a number: the
line evaluates to the same number as before, or it is refused as before with the same message, in
which a column behind the cut is moved by the number of blanks. -/
theorem evaluate_respaced (hpure : k.PureFunctions) (blank : ∀ c ∈ gap, Text.isBlank c = true)
    (apart : Apart front rest) (s s' : Scanner) :
    (∀ n, Result.answer (k.evaluate (front ++ gap ++ rest) s') = .ok n ↔
      Result.answer (k.evaluate (front ++ rest) s) = .ok n) ∧
    (∀ e, Result.scanError? (k.evaluate (front ++ rest) s) = some e →
      ∃ e', Result.scanError? (k.evaluate (front ++ gap ++ rest) s') = some e' ∧
        Text.SameButColumn (moveColumn front gap) e.message e'.message) ∧
    ∀ e', Result.scanError? (k.evaluate (front ++ gap ++ rest) s') = some e' →
      ∃ e, Result.scanError? (k.evaluate (front ++ rest) s) = some e ∧
        Text.SameButColumn (moveColumn front gap) e.message e'.message := by
  -- both lines are worked out by their values, which are the same up to the column of a complaint
  have hvalue := lineValue_respaced hpure blank apart
  rw [← List.append_assoc] at hvalue
  refine ⟨fun n => ?_, fun e he => ?_, fun e' he' => ?_⟩
  · rw [answer_evaluate_iff hpure, answer_evaluate_iff hpure, hvalue]
    cases lineValue k (front ++ rest) with
    | ok m => exact Iff.rfl
    | error cause => exact ⟨nofun, nofun⟩
  · have hold := (scanError?_evaluate_iff hpure).mp ⟨e, he, rfl⟩
    rw [hold] at hvalue
    obtain ⟨e', he', hc⟩ := (scanError?_evaluate_iff hpure (s := s')).mpr hvalue
    refine ⟨e', he', ?_⟩
    rw [ScanError.message, ScanError.message, hc]
    exact e.complaint.message_mapColumn _
  · rw [(scanError?_evaluate_iff hpure).mp ⟨e', he', rfl⟩] at hvalue
    cases hold : lineValue k (front ++ rest) with
    | ok n =>
      rw [hold] at hvalue
      cases hvalue
    | error cause =>
      rw [hold] at hvalue
      cases cause with
      | fault f => cases hvalue
      | complaint c =>
        obtain ⟨e, he, hc⟩ := (scanError?_evaluate_iff hpure (s := s)).mpr hold
        refine ⟨e, he, ?_⟩
        rw [ScanError.message, ScanError.message, Abort.complaint.inj (Except.error.inj hvalue), hc]
        exact c.message_mapColumn _

/-- A tab and a blank before a sign that is not read. -/
theorem evaluate_respaced_euro :
    ∃ e', Result.scanError? (twoFunctions.evaluate ("min(x+".toList ++ "\t ".toList ++
        "€)".toList) {}) = some e' ∧
      Text.SameButColumn (moveColumn "min(x+".toList "\t ".toList) "syntax error at pos 7"
        e'.message := by
  have hpure : twoFunctions.PureFunctions := twoFunctions_total.pure
  have herror : Result.scanError? (twoFunctions.evaluate "min(x+€)".toList {}) =
      some ⟨.syntaxError 7, 7, "min(x+€)".toList, some 0⟩ := by decide +kernel
  have hapart : Apart "min(x+".toList "€)".toList := by
    intro c d hc _ h
    rw [show "min(x+".toList.getLast? = some '+' from rfl] at hc
    cases hc
    exact absurd h.1 (by decide)
  have hblank : ∀ c ∈ "\t ".toList, Text.isBlank c = true := List.all_eq_true.mp rfl
  obtain ⟨-, hrefused, -⟩ := evaluate_respaced hpure hblank hapart {} {}
  obtain ⟨e', he', hsame⟩ := hrefused _ herror
  exact ⟨e', he', hsame⟩

end

end Grammar

end LineScan
