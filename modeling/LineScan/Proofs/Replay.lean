import LineScan.Proofs.RoundTrip

/-!
# A reading replayed on another text

Where two texts begin alike, they are read alike as far as that goes. A reading that has come to the
end of something goes on in the same way on any text that looks the same from there: it has the same
next character, or nothing but a closing parenthesis follows (`Alike`). And a reading that is stuck
at a character is stuck there whatever comes after it. `Front.Alike` is both at once, and `Replays`
lifts it from the readings of one level to those of the next.

The two texts may be of different lengths, so that their readings have different bounds on the
nesting and on the loops.
-/

namespace LineScan.Grammar

/-! ## Texts that begin alike -/

section

variable {text text' : Line} (hnext : text'.ahead.head? = text.ahead.head?)

include hnext

/-- A character that does not come next does not where the next character is the same. -/
theorem not_after?_of_next {c : Char} (h : text.after? c = none) : text'.after? c = none := by
  rw [Line.after?_eq_none] at h ⊢
  rwa [hnext]

/-- Whether the line ends here is told by the next character. -/
theorem atEnd_of_next : text'.atEnd = text.atEnd := by
  rw [Line.atEnd, Line.atEnd, List.headD_eq_head?_getD, hnext, ← List.headD_eq_head?_getD]

/-- Whether no operator comes next is told by the next character. -/
theorem not_readOperator?_of_next {ω : Type} {ofChar? : Char → Option ω}
    (h : readOperator? ofChar? text = none) : readOperator? ofChar? text' = none := by
  rw [readOperator?_eq_none] at h ⊢
  rwa [hnext]

/-- Whether no word comes next is told by the next character. -/
theorem not_readWord?_of_next {starts goesOn : Char → Bool}
    (h : Word.read? starts goesOn text = none) : Word.read? starts goesOn text' = none := by
  rw [Word.read?_eq_none] at h ⊢
  rwa [hnext]

end

section

variable {before rest : Line}

/-- What has been found in the part that two texts share is found in both. -/
theorem ahead_swap {found others : Line} (rest' : Line) (hfound : found ≠ [])
    (h : (before ++ rest).ahead = found ++ (others ++ rest)) :
    (before ++ rest').ahead = found ++ (others ++ rest') := by
  rw [Line.ahead_append] at h ⊢
  by_cases hblank : before.ahead = []
  · -- nothing could have been found among blanks
    rw [if_pos hblank] at h
    have hlen := (Line.ahead_suffix rest).length_le
    have hpos := List.length_pos_iff.mpr hfound
    rw [h, List.length_append, List.length_append] at hlen
    omega
  · rw [if_neg hblank, ← List.append_assoc] at h
    rw [if_neg hblank, List.append_cancel_right h, List.append_assoc]

/-- A character is found in the same place with another rest behind it. -/
theorem after?_swap {c : Char} {others : Line} (rest' : Line)
    (h : (before ++ rest).after? c = some (others ++ rest)) :
    (before ++ rest').after? c = some (others ++ rest') := by
  rw [Line.after?_eq_some] at h ⊢
  exact ahead_swap rest' (List.cons_ne_nil c []) h

/-- An operator is read in the same place with another rest behind it. -/
theorem readOperator?_swap {ω : Type} {ofChar? : Char → Option ω} {op : ω} {others : Line}
    (rest' : Line) (h : readOperator? ofChar? (before ++ rest) = some (op, others ++ rest)) :
    readOperator? ofChar? (before ++ rest') = some (op, others ++ rest') := by
  rw [readOperator?_eq_some] at h ⊢
  obtain ⟨c, ha, hc⟩ := h
  exact ⟨c, ahead_swap rest' (List.cons_ne_nil c []) ha, hc⟩

/-- Where more than the rest comes next, something that is no blank stands before the rest. -/
theorem ahead_ne_nil (h : rest.length < (before ++ rest).ahead.length) : before.ahead ≠ [] := by
  intro hblank
  rw [Line.ahead_append, if_pos hblank] at h
  have := (Line.ahead_suffix rest).length_le
  omega

/-- What comes next in something that two texts share is the same in both. -/
theorem next_append (h : before.ahead ≠ []) (rest rest' : Line) :
    (before ++ rest).ahead.head? = (before ++ rest').ahead.head? := by
  rw [Line.ahead_append, Line.ahead_append, if_neg h, if_neg h]
  cases hahead : before.ahead with
  | nil => exact absurd hahead h
  | cons c others => rfl

/-- The next character is the same with another rest behind it, if it stands before the rest. -/
theorem next_swap (rest' : Line) (h : rest.length < (before ++ rest).ahead.length) :
    (before ++ rest').ahead.head? = (before ++ rest).ahead.head? :=
  next_append (ahead_ne_nil h) rest' rest

/-- Only blanks stand before what comes next. -/
theorem ahead_eq_nil_of_ahead (h : (before ++ rest).ahead = rest) : before.ahead = [] := by
  rw [Line.ahead_append] at h
  split at h
  · assumption
  · exact List.append_left_eq_self.mp h

/-- A text between two ends of another one. -/
theorem exists_split {mid : Line} (hmid : mid <:+ before ++ rest) (hrest : rest <:+ mid) :
    ∃ first others, before = first ++ others ∧ mid = others ++ rest := by
  obtain ⟨others, rfl⟩ := hrest
  obtain ⟨first, h⟩ := hmid
  rw [← List.append_assoc] at h
  exact ⟨first, others, (List.append_cancel_right h).symm, rfl⟩

/-- What is left looks alike to a reading that has come to the end of something. -/
def Alike (rest rest' : Line) : Prop :=
  Ends [')'] rest' ∨ rest.head? = rest'.head? ∧ rest.ahead.head? = rest'.ahead.head?

/-- Texts look alike from before something that they share. -/
theorem alike_of_ahead (h : before.ahead ≠ []) (rest rest' : Line) :
    Alike (before ++ rest) (before ++ rest') := by
  refine .inr ⟨?_, next_append h rest rest'⟩
  cases before with
  | nil => exact absurd rfl h
  | cons c before => rfl

variable {rest' : Line}

/-- Texts that look alike do so from anything before them that they share. -/
theorem Alike.append (h : Alike rest rest') (before : Line) :
    Alike (before ++ rest) (before ++ rest') := by
  by_cases hblank : before.ahead = []
  · rcases h with hends | ⟨hhead, hnext⟩
    · refine .inl fun c hc => hends c ?_
      rwa [Line.ahead_append, if_pos hblank] at hc
    · refine .inr ⟨?_, ?_⟩
      · cases before with
        | nil => exact hhead
        | cons c before => rfl
      · rw [Line.ahead_append, Line.ahead_append, if_pos hblank, if_pos hblank]
        exact hnext
  · exact alike_of_ahead hblank rest rest'

/-- Where no operator comes next, none does in what looks alike. -/
theorem Alike.readOperator?_eq_none {ω : Type} {ofChar? : Char → Option ω} (h : Alike rest rest')
    (hclose : ofChar? ')' = none) (hnone : readOperator? ofChar? rest = none) :
    readOperator? ofChar? rest' = none := by
  rw [Grammar.readOperator?_eq_none] at hnone ⊢
  intro c hc
  rcases h with hends | ⟨-, hnext⟩
  · rw [List.mem_singleton.mp (hends c hc)]
    exact hclose
  · exact hnone c (hnext.trans hc)

/-- Where no parenthesis opens, none does in what looks alike. -/
theorem Alike.not_open (h : Alike rest rest') (hnone : rest.after? '(' = none) :
    rest'.after? '(' = none := by
  rw [Line.after?_eq_none] at hnone ⊢
  rcases h with hends | ⟨-, hnext⟩
  · intro hc
    exact absurd (hends '(' hc) (by decide)
  · rwa [← hnext]

/-- A word that ends before a text ends before any text that looks alike. -/
theorem Alike.stop {goesOn : Char → Bool} (h : Alike rest rest')
    (hword : ∀ c, goesOn c = true → Text.isIdentChar c = true)
    (hstop : ∀ c, rest.head? = some c → goesOn c = false) :
    ∀ c, rest'.head? = some c → goesOn c = false := by
  rcases h with hends | ⟨hhead, -⟩
  · exact hends.stop hword (by decide)
  · exact fun c hc => hstop c (hhead.trans hc)

/-- A word is read alike if it ends in the part that is shared. -/
theorem readWord?_swap {starts goesOn : Char → Bool} {w : Word starts goesOn} {others : Line}
    (hword : ∀ c, goesOn c = true → Text.isIdentChar c = true)
    (alike : Alike (others ++ rest) (others ++ rest'))
    (h : Word.read? starts goesOn (before ++ rest) = some (w, others ++ rest)) :
    Word.read? starts goesOn (before ++ rest') = some (w, others ++ rest') := by
  rw [Word.read?_eq_some] at h ⊢
  exact ⟨ahead_swap rest' (List.cons_ne_nil _ _) h.1, alike.stop hword h.2⟩

end

/-! ## Where readings have got to -/

section

variable {c : Char} {before x : Line}

/-- From a character on that is no blank, texts look alike. -/
theorem alike_cons (hc : Text.isBlank c = false) (x y : Line) : Alike (c :: x) (c :: y) := by
  refine .inr ⟨rfl, ?_⟩
  rw [Line.ahead, Line.ahead, List.dropWhile_cons_of_neg (by simp [hc]),
    List.dropWhile_cons_of_neg (by simp [hc])]
  rfl

/-- A character that is no blank comes next after blanks. -/
theorem ahead_cons (hc : Text.isBlank c = false) (h : before.ahead = []) (rest : Line) :
    (before ++ c :: rest).ahead = c :: rest := by
  rw [Line.ahead_append, if_pos h, Line.ahead, List.dropWhile_cons_of_neg (by simp [hc])]

/-- A character that is no blank decides what comes next, whatever follows it. -/
theorem next_cons (hc : Text.isBlank c = false) (before x y : Line) :
    (before ++ c :: y).ahead.head? = (before ++ c :: x).ahead.head? := by
  have hcons : ∀ rest, Line.ahead (c :: rest) = c :: rest := fun rest => by
    rw [Line.ahead, List.dropWhile_cons_of_neg (by simp [hc])]
  rw [Line.ahead_append, Line.ahead_append, hcons, hcons]
  split
  · rfl
  · next h =>
    cases hahead : before.ahead with
    | nil => exact absurd hahead h
    | cons d others => rfl

/-- Where two readings have got to looks alike: they go on with texts that look alike, or they are
stuck at the same character. -/
inductive Front.Alike : Front → Front → Prop where
  | going {rest rest' : Line} (alike : Grammar.Alike rest rest') :
      Front.Alike (.going rest) (.going rest')
  | stuck {c : Char} {x y : Line} (hc : Text.isBlank c = false) :
      Front.Alike (.stuck (c :: x)) (.stuck (c :: y))

variable {front front' : Front}

/-- Readings that have got to texts that look alike have such rests. -/
theorem Front.Alike.rest (h : front.Alike front') : Grammar.Alike front.rest front'.rest := by
  cases h with
  | going alike => exact alike
  | stuck hc => exact alike_cons hc _ _

/-- What comes next is the same, if a reading that goes on has consumed it. -/
theorem Front.Alike.next (h : front.Alike front')
    (hp : ∀ rest, front = .going rest → rest.length < (before ++ front.rest).ahead.length) :
    (before ++ front'.rest).ahead.head? = (before ++ front.rest).ahead.head? := by
  cases h with
  | going alike => exact next_swap _ (hp _ rfl)
  | stuck hc => exact next_cons hc before _ _

/-- A reading that is stuck at a character has the same next character on the other text. -/
theorem Front.Alike.next_of_stuck {place : Line} (h : front.Alike front')
    (hstuck : Front.stuck place = front) (before : Line) :
    (before ++ front'.rest).ahead.head? = (before ++ front.rest).ahead.head? :=
  h.next fun rest hgoing => by rw [hgoing] at hstuck; cases hstuck

/-- A reading that is stuck at what comes next is stuck there on the other text as well. -/
theorem Front.Alike.stuck_ahead (h : front.Alike front')
    (hstuck : Front.stuck (before ++ front.rest).ahead = front) :
    Front.stuck (before ++ front'.rest).ahead = front' := by
  cases h with
  | going alike => cases hstuck
  | stuck hc =>
    simp only [Front.rest_stuck, Front.stuck.injEq] at hstuck ⊢
    exact ahead_cons hc (ahead_eq_nil_of_ahead hstuck) _

end

/-- A reading is replayed, with the same tree, wherever the text after it looks alike. -/
def Replays {τ : Type} (bound bound' : Nat) (reader reader' : Reader τ) : Prop :=
  ∀ (before : Line) {front front' : Front} (t : τ), front.Alike front' →
    (before ++ front.rest).length < bound → (before ++ front'.rest).length < bound' →
    reader (before ++ front.rest) = (t, front) → reader' (before ++ front'.rest) = (t, front')

/-- A reading that goes on is replayed with the tree that it gave. -/
theorem Replays.resume {τ : Type} {bound bound' : Nat} {reader reader' : Reader τ}
    (h : Replays bound bound' reader reader') {before rest rest' : Line} {t : τ}
    (alike : Alike rest rest') (hbound : (before ++ rest).length < bound)
    (hbound' : (before ++ rest').length < bound')
    (hread : reader (before ++ rest) = (t, .going rest)) :
    reader' (before ++ rest') = (t, .going rest') :=
  h before t (.going alike) hbound hbound' hread

/-! ## Chains -/

namespace Chain

variable {ω α β : Type} {chain : Chain ω α β} {operand operand' : Reader α} {bound bound' : Nat}
  {before : Line} {front front' : Front}

/-- The rest of a chain is replayed if its operands are, by induction on its operators. -/
theorem replays_readRest (consumes : Consumes operand) (consumes' : Consumes operand')
    (replays : Replays bound bound' operand operand') (hclose : chain.ofChar? ')' = none)
    {left t : β} (fuel : Nat) (alike : front.Alike front')
    (hfuel : (before ++ front.rest).length < fuel)
    (hbound : (before ++ front.rest).length < bound)
    (hbound' : (before ++ front'.rest).length < bound')
    (h : chain.readRest operand fuel left (before ++ front.rest) = (t, front)) :
    chain.readRest operand' ((before ++ front'.rest).length + 1) left (before ++ front'.rest) =
      (t, front') := by
  induction fuel generalizing before left with
  | zero => omega
  | succ fuel ih =>
    rw [readRest] at h
    cases hop : readOperator? chain.ofChar? (before ++ front.rest) with
    | none =>
      -- the chain has ended, so nothing is shared but what has been read already
      simp only [hop, Prod.mk.injEq] at h
      obtain ⟨rfl, hfront⟩ := h
      cases alike with
      | stuck hc => cases hfront
      | going alike =>
        simp only [Front.rest_going, Front.going.injEq, List.append_left_eq_self] at hfront
        subst hfront
        exact chain.readRest_stop _ _ _ (alike.readOperator?_eq_none hclose hop)
    | some found =>
      obtain ⟨op, mid⟩ := found
      have hmid := past_of_readOperator? hop
      have hp := consumes mid
      simp only [hop] at h
      generalize hoperand : operand mid = reading at h hp
      obtain ⟨right, last⟩ := reading
      have hlt := hmid.length_lt
      cases last with
      | stuck place =>
        cases h
        obtain ⟨taken, rfl⟩ := hp.1.1
        have hop' := readOperator?_swap front'.rest hop
        have hoperand' := replays taken right alike (by grind) (by grind) hoperand
        cases alike with
        | stuck hc =>
          rw [readRest, hop']
          simp only [hoperand']
      | going last =>
        have hlast := chain.within_readRest consumes fuel (chain.step left op right) last
        simp only at h
        rw [h] at hlast
        -- the operator and the operand after it are in the part that is shared
        obtain ⟨first, others, rfl, rfl⟩ := exists_split (hp.suffix.trans hmid.suffix) hlast.1
        obtain ⟨taken, rfl⟩ := hp.suffix
        have hlt' := Front.Past.length_lt hp
        rw [← List.append_assoc taken] at hop
        have hop' := readOperator?_swap front'.rest hop
        rw [List.append_assoc taken] at hop'
        have hoperand' := replays.resume (alike.rest.append others) (by grind) (by grind) hoperand
        rw [chain.readRest_step consumes' left hop' hoperand']
        exact ih (by grind) (by grind) (by grind) h

/-- A chain is replayed if its operands are. -/
theorem replays_read (consumes : Consumes operand) (consumes' : Consumes operand')
    (replays : Replays bound bound' operand operand') (hclose : chain.ofChar? ')' = none) :
    Replays bound bound' (chain.read operand) (chain.read operand') := by
  intro before front front' t alike hbound hbound' h
  have hp := consumes (before ++ front.rest)
  unfold read at h
  generalize hoperand : operand (before ++ front.rest) = reading at h hp
  obtain ⟨first, last⟩ := reading
  cases last with
  | stuck place =>
    cases h
    have hoperand' := replays before first alike hbound hbound' hoperand
    cases alike with
    | stuck hc => simp only [read, hoperand']
  | going mid =>
    have hmid := chain.within_readRest consumes (mid.length + 1) (chain.one first) mid
    simp only at h
    rw [h] at hmid
    obtain ⟨taken, others, rfl, rfl⟩ := exists_split hp.suffix hmid.1
    rw [List.append_assoc] at hoperand hbound hbound' ⊢
    have hoperand' := replays.resume (alike.rest.append others) hbound hbound' hoperand
    rw [read, hoperand']
    rw [List.length_append] at hbound hbound'
    exact replays_readRest consumes consumes' replays hclose _ alike (Nat.lt_succ_self _)
      (by omega) (by omega) h

end Chain

/-! ## Arguments and primaries -/

section

variable {nested nested' : Reader Primary} {bound bound' : Nat} (consumes : Consumes nested)
  (consumes' : Consumes nested') (replays : Replays bound bound' nested nested')

include consumes consumes' replays

/-- Factors are replayed if their primaries are. -/
theorem replays_readFactor : Replays bound bound' (readFactor nested) (readFactor nested') :=
  Chain.replays_read consumes consumes' replays rfl

/-- Terms are replayed if their primaries are. -/
theorem replays_readTerm : Replays bound bound' (readTerm nested) (readTerm nested') :=
  Chain.replays_read (consumes_readFactor consumes) (consumes_readFactor consumes')
    (replays_readFactor consumes consumes' replays) rfl

omit consumes consumes' replays in
/-- Arguments after one that has been read are replayed if the others are. -/
theorem replays_readOthers {others others' : Reader Arguments} (hconsumes : Consumes others)
    (hreplays : Replays bound bound' others others') {first : Term} {args : Arguments}
    {before : Line} {front front' : Front} (alike : front.Alike front')
    (hbound : (before ++ front.rest).length < bound)
    (hbound' : (before ++ front'.rest).length < bound')
    (h : readOthers others first (before ++ front.rest) = (args, front)) :
    readOthers others' first (before ++ front'.rest) = (args, front') := by
  unfold readOthers at h ⊢
  cases hcomma : (before ++ front.rest).after? ',' with
  | some mid =>
    have hlt := (past_of_after? hcomma).length_lt
    have hp := hconsumes mid
    simp only [hcomma] at h
    generalize hothers : others mid = reading at h hp
    obtain ⟨more, last⟩ := reading
    cases h
    obtain ⟨taken, rfl⟩ := hp.1.1
    have hothers' := hreplays taken more alike (by grind) (by grind) hothers
    simp only [after?_swap front'.rest hcomma, hothers']
  | none =>
    simp only [hcomma] at h
    split at h
    · next hend =>
      -- the line ends here, and the reading is stuck before anything else is looked at
      simp only [Prod.mk.injEq] at h
      obtain ⟨rfl, hstuck⟩ := h
      have hnext := alike.next_of_stuck hstuck before
      simp only [not_after?_of_next hnext hcomma, (atEnd_of_next hnext).trans hend, if_true,
        alike.stuck_ahead hstuck]
    · next hend =>
      rw [Bool.not_eq_true] at hend
      have hp := hconsumes (before ++ front.rest)
      generalize hothers : others (before ++ front.rest) = reading at h hp
      obtain ⟨more, last⟩ := reading
      cases h
      have hnext := alike.next hp.2
      have hothers' := hreplays before more alike hbound hbound' hothers
      simp only [not_after?_of_next hnext hcomma, (atEnd_of_next hnext).trans hend, hothers',
        Bool.false_eq_true, if_false]

/-- The arguments of a call are replayed, by induction on how many there may be. -/
theorem replays_readArguments (fuel fuel' : Nat) :
    Replays (min fuel bound) (min fuel' bound') (readArguments nested fuel)
      (readArguments nested' fuel') := by
  induction fuel generalizing fuel' with
  | zero => exact fun _ _ _ _ _ hbound => by omega
  | succ fuel ih =>
    intro before front front' args alike hbound hbound' h
    obtain ⟨fuel', rfl⟩ : ∃ f, fuel' = f + 1 := ⟨fuel' - 1, by omega⟩
    have hp := consumes_readArguments consumes (fuel + 1) (before ++ front.rest)
    rw [h] at hp
    have hnext := alike.next hp.2
    rw [readArguments] at h ⊢
    -- either the call is closed here, or an argument comes next and the others after it
    cases hclose : (before ++ front.rest).after? ')' with
    | some mid =>
      rw [hclose] at h
      cases h
      cases alike with
      | @going _ rest' alike =>
        have hclose' : (before ++ rest').after? ')' = some ([] ++ rest') := after?_swap rest' hclose
        simp only [Front.rest_going, hclose', List.nil_append]
    | none =>
      have hterms := consumes_readTerm consumes (before ++ front.rest)
      simp only [hclose] at h
      simp only [not_after?_of_next hnext hclose]
      generalize hterm : readTerm nested (before ++ front.rest) = reading at h hterms
      obtain ⟨first, last⟩ := reading
      cases last with
      | stuck place =>
        cases h
        have hterm' := replays_readTerm consumes consumes' replays before first alike (by omega)
          (by omega) hterm
        cases alike with
        | stuck hc => simp only [hterm']
      | going mid =>
        have hmid := within_readOthers (consumes_readArguments consumes fuel) first mid
        simp only at h
        rw [h] at hmid
        -- what the argument and the others have taken is cut off the text, so that the rest can be
        -- changed
        obtain ⟨taken, others, rfl, rfl⟩ := exists_split hterms.suffix hmid.1
        rw [List.append_assoc] at hterm hterms hbound hbound' ⊢
        have hlt := Front.Past.length_lt hterms
        have hterm' := (replays_readTerm consumes consumes' replays).resume
          (alike.rest.append others) (by omega) (by omega) hterm
        have hterms' := consumes_readTerm consumes' (taken ++ (others ++ front'.rest))
        rw [hterm'] at hterms'
        have hlt' := Front.Past.length_lt hterms'
        simp only [hterm']
        exact replays_readOthers (consumes_readArguments consumes fuel) (ih fuel') alike
          (by grind) (by grind) h

/-- A term in parentheses is replayed if its primaries are. -/
theorem replays_readParen : Replays bound bound' (readParen nested) (readParen nested') := by
  intro before front front' t alike hbound hbound' h
  have hp := consumes_readTerm consumes (before ++ front.rest)
  unfold readParen at h ⊢
  generalize hterm : readTerm nested (before ++ front.rest) = reading at h hp
  obtain ⟨inner, last⟩ := reading
  cases last with
  | stuck place =>
    cases h
    have hterm' := replays_readTerm consumes consumes' replays before inner alike hbound hbound'
      hterm
    cases alike with
    | stuck hc => simp only [hterm']
  | going mid =>
    simp only at h
    -- in both cases the term is in the part that is shared
    have hterm' : ∀ taken others, before = taken ++ others → mid = others ++ front.rest →
        readTerm nested' (before ++ front'.rest) = (inner, .going (others ++ front'.rest)) := by
      rintro taken others rfl rfl
      rw [List.append_assoc] at hterm hbound hbound' ⊢
      exact (replays_readTerm consumes consumes' replays).resume (alike.rest.append others) hbound
        hbound' hterm
    cases hclose : mid.after? ')' with
    | some last =>
      rw [hclose] at h
      cases h
      obtain ⟨taken, others, rfl, rfl⟩ := exists_split hp.suffix (past_of_after? hclose).suffix
      have hclose' : (others ++ front'.rest).after? ')' = some ([] ++ front'.rest) :=
        after?_swap front'.rest hclose
      cases alike with
      | going alike =>
        simp only [hterm' taken others rfl rfl, hclose', List.nil_append]
        rfl
    | none =>
      simp only [hclose, Prod.mk.injEq] at h
      obtain ⟨rfl, hstuck⟩ := h
      have hsuffix : front.rest <:+ mid := by
        rw [← hstuck]
        exact Line.ahead_suffix mid
      obtain ⟨taken, others, rfl, rfl⟩ := exists_split hp.suffix hsuffix
      have hnext := alike.next_of_stuck hstuck others
      simp only [hterm' taken others rfl rfl, not_after?_of_next hnext hclose,
        alike.stuck_ahead hstuck]

/-- What follows a name is replayed if the primaries in it are. -/
theorem replays_readNamed (name : Identifier) :
    Replays bound bound' (readNamed nested name) (readNamed nested' name) := by
  intro before front front' t alike hbound hbound' h
  unfold readNamed at h ⊢
  cases hopen : (before ++ front.rest).after? '(' with
  | none =>
    simp only [hopen, Prod.mk.injEq] at h
    obtain ⟨rfl, hgoing⟩ := h
    cases alike with
    | stuck hc => cases hgoing
    | going alike =>
      simp only [Front.rest_going, Front.going.injEq, List.append_left_eq_self] at hgoing
      subst hgoing
      simp only [Front.rest_going, List.nil_append, alike.not_open hopen]
  | some inside =>
    have hlt := (past_of_after? hopen).length_lt
    have hp := consumes_readArguments consumes (inside.length + 1) inside
    simp only [hopen] at h
    generalize hargs : readArguments nested (inside.length + 1) inside = reading at h hp
    obtain ⟨args, last⟩ := reading
    cases h
    obtain ⟨taken, rfl⟩ := hp.1.1
    have hargs' := replays_readArguments consumes consumes' replays _
      ((taken ++ front'.rest).length + 1) taken args alike (by grind) (by grind) hargs
    simp only [after?_swap front'.rest hopen, hargs']

omit consumes' in
/-- A primary with a sign is replayed if the primaries after it are. -/
theorem replays_readSigned :
    Replays (bound + 1) (bound' + 1) (readSigned nested) (readSigned nested') := by
  intro before front front' t alike hbound hbound' h
  have hp := consumes_readSigned consumes (before ++ front.rest)
  rw [h] at hp
  have hnext := alike.next hp.2
  unfold readSigned at h ⊢
  cases hop : readOperator? Additive.ofChar? (before ++ front.rest) with
  | some found =>
    obtain ⟨op, mid⟩ := found
    have hlt := (past_of_readOperator? hop).length_lt
    have hinner := consumes mid
    simp only [hop] at h
    generalize hnested : nested mid = reading at h hinner
    obtain ⟨inner, last⟩ := reading
    cases h
    obtain ⟨taken, rfl⟩ := hinner.1.1
    have hnested' := replays taken inner alike (by grind) (by grind) hnested
    simp only [readOperator?_swap front'.rest hop, hnested']
  | none =>
    simp only [hop] at h
    simp only [not_readOperator?_of_next hnext hop]
    cases hnumeral : Numeral.read? (before ++ front.rest) with
    | some found =>
      obtain ⟨numeral, mid⟩ := found
      rw [hnumeral] at h
      cases h
      cases alike with
      | @going _ rest' alike =>
        have hnumeral' : Numeral.read? (before ++ rest') = some (numeral, [] ++ rest') :=
          readWord?_swap (fun _ => isIdentChar_of_isDigit) alike hnumeral
        simp only [Front.rest_going, hnumeral', List.nil_append]
    | none =>
      -- here the reading is stuck, and at the same character on the other text
      have hnumeral' : Numeral.read? (before ++ front'.rest) = none :=
        not_readWord?_of_next hnext hnumeral
      simp only [hnumeral, Prod.mk.injEq] at h
      obtain ⟨rfl, hstuck⟩ := h
      simp only [hnumeral', alike.stuck_ahead hstuck]

/-- A primary is replayed if the primaries nested in it are. -/
theorem replays_readPrimaryWith :
    Replays (bound + 1) (bound' + 1) (readPrimaryWith nested) (readPrimaryWith nested') := by
  intro before front front' t alike hbound hbound' h
  have hp := consumes_readPrimaryWith consumes (before ++ front.rest)
  rw [h] at hp
  have hnext := alike.next hp.2
  unfold readPrimaryWith at h ⊢
  -- the three forms of a primary are told apart by what comes next, which is the same on both texts
  cases hname : Identifier.read? (before ++ front.rest) with
  | some found =>
    obtain ⟨name, mid⟩ := found
    have hlt := (past_of_readWord? hname).length_lt
    have hwithin := within_readNamed consumes name mid
    simp only [hname] at h
    rw [h] at hwithin
    obtain ⟨taken, rfl⟩ := hwithin.1
    have hname' : Identifier.read? (before ++ front'.rest) = some (name, taken ++ front'.rest) :=
      readWord?_swap (fun _ => id) (alike.rest.append taken) hname
    have hnamed' := replays_readNamed consumes consumes' replays name taken t alike (by grind)
      (by grind) h
    simp only [hname', hnamed']
  | none =>
    have hname' : Identifier.read? (before ++ front'.rest) = none :=
      not_readWord?_of_next hnext hname
    simp only [hname] at h
    simp only [hname']
    cases hopen : (before ++ front.rest).after? '(' with
    | some inside =>
      have hlt := (past_of_after? hopen).length_lt
      have hparen := consumes_readParen consumes inside
      simp only [hopen] at h
      rw [h] at hparen
      obtain ⟨taken, rfl⟩ := hparen.1.1
      have hparen' := replays_readParen consumes consumes' replays taken t alike (by grind)
        (by grind) h
      simp only [after?_swap front'.rest hopen, hparen']
    | none =>
      simp only [hopen] at h
      simp only [not_after?_of_next hnext hopen]
      exact replays_readSigned consumes replays before t alike hbound hbound' h

end

/-- Primaries are replayed however deep they may nest. -/
theorem replays_readPrimary (nesting nesting' : Nat) :
    Replays nesting nesting' (readPrimary nesting) (readPrimary nesting') := by
  induction nesting generalizing nesting' with
  | zero => exact fun _ _ _ _ _ hbound => by omega
  | succ nesting ih =>
    intro before front front' t alike hbound hbound' h
    obtain ⟨nesting', rfl⟩ : ∃ n, nesting' = n + 1 := ⟨nesting' - 1, by omega⟩
    exact replays_readPrimaryWith (consumes_readPrimary nesting) (consumes_readPrimary nesting')
      (ih nesting') before t alike hbound hbound' h

/-- A line is read alike where its reading goes on, if what is left looks alike. -/
theorem read_of_alike {before rest rest' : Line} {t : Term} (alike : Alike rest rest')
    (h : read (before ++ rest) = (t, .going rest)) : read (before ++ rest') = (t, .going rest') :=
  (replays_readTerm (consumes_readPrimary _) (consumes_readPrimary _)
    (replays_readPrimary _ _)).resume alike (Nat.lt_succ_self _) (Nat.lt_succ_self _) h

/-- A line whose reading is stuck at a character is read alike up to there, whatever comes after
the character. -/
theorem read_of_stuck {before x : Line} {c : Char} {t : Term} (hc : Text.isBlank c = false)
    (y : Line) (h : read (before ++ c :: x) = (t, .stuck (c :: x))) :
    read (before ++ c :: y) = (t, .stuck (c :: y)) :=
  replays_readTerm (consumes_readPrimary _) (consumes_readPrimary _) (replays_readPrimary _ _)
    before t (.stuck hc) (Nat.lt_succ_self _) (Nat.lt_succ_self _) h

end LineScan.Grammar
