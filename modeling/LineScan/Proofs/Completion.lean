import LineScan.Proofs.Replay

/-!
# Every beginning of an expression can be completed

Where a reading is stuck, the text up to there is the beginning of an expression: some text `w` put
in the place of the rest makes it whole. The text that does it is found from the inside out. A
missing primary is supplied as `1`, an open parenthesis is closed, and a call in which an argument
has just ended is closed rather than continued, since a digit might be taken for more of the
argument.

The completed text may be followed by anything that closes something further out, so the statement
speaks of every `y` that starts with a closing parenthesis, if with anything.
-/

namespace LineScan.Grammar

/-- Where a reading is stuck, what has been read so far can be completed to a whole tree. -/
def Mends {τ : Type} (whole : τ → Prop) (bound : Nat) (reader : Reader τ)
    (family : Nat → Reader τ) : Prop :=
  ∀ (before place : Line) (t : τ), (before ++ place).length < bound →
    reader (before ++ place) = (t, .stuck place) →
    ∃ w : Line, ∀ (y : Line) (nesting : Nat), Ends [')'] y →
      (before ++ (w ++ y)).length < nesting →
      ∃ t', whole t' ∧ family nesting (before ++ (w ++ y)) = (t', .going y)

/-! ## Chains -/

/-- What closes something is no operator. -/
theorem Ends.not_operator {ω : Type} {ofChar? : Char → Option ω} {y : Line} (h : Ends [')'] y)
    (hclose : ofChar? ')' = none) : readOperator? ofChar? y = none := by
  refine readOperator?_eq_none.mpr fun c hc => ?_
  rw [List.mem_singleton.mp (h c hc)]
  exact hclose

/-- A closing parenthesis closes, whatever comes after it. -/
theorem ends_close (y : Line) : Ends [')'] (')' :: y) :=
  ends_of_ahead rfl (List.mem_singleton_self _)

namespace Chain

variable {ω α β : Type} {chain : Chain ω α β} {char : ω → Char} {operandTokens : α → List Line}
  {operandWhole : α → Prop} {tokens : β → List Line} {whole : β → Prop} {operand : Reader α}
  {family : Nat → Reader α} {bound : Nat}

/-- The rest of a chain that is stuck has read an operator, and can be completed. -/
theorem Writes.mends_readRest (hw : chain.Writes char operandTokens operandWhole tokens whole)
    (reads : Reads operand operandTokens operandWhole) (consumes : Consumes operand)
    (consumes' : ∀ nesting, Consumes (family nesting))
    (replays : ∀ nesting, Replays bound nesting operand (family nesting))
    (mends : Mends operandWhole bound operand family) (hclose : chain.ofChar? ')' = none)
    {before place : Line} {left t : β} (fuel : Nat) (hleft : whole left)
    (hbound : (before ++ place).length < bound)
    (h : chain.readRest operand fuel left (before ++ place) = (t, .stuck place)) :
    before.ahead ≠ [] ∧ ∃ w : Line, ∀ (y : Line) (nesting : Nat), Ends [')'] y →
      (before ++ (w ++ y)).length < nesting → ∃ t', whole t' ∧
        chain.readRest (family nesting) ((before ++ (w ++ y)).length + 1) left
          (before ++ (w ++ y)) = (t', .going y) := by
  induction fuel generalizing before left with
  | zero => cases h
  | succ fuel ih =>
    rw [readRest] at h
    cases hop : readOperator? chain.ofChar? (before ++ place) with
    | none =>
      rw [hop] at h
      cases h
    | some found =>
      obtain ⟨op, mid⟩ := found
      have hmid := past_of_readOperator? hop
      have hp := consumes mid
      have hreads := reads mid
      simp only [hop] at h
      generalize hoperand : operand mid = reading at h hp hreads
      obtain ⟨right, front⟩ := reading
      cases front with
      | stuck other =>
        cases h
        obtain ⟨taken, rfl⟩ := hp.1.1
        -- the operand after the operator is completed, and the chain ends with it
        have hlt := hmid.length_lt
        have hnext := hmid.2 _ rfl
        have hne : before.ahead ≠ [] :=
          ahead_ne_nil (show place.length < (before ++ place).ahead.length by grind)
        refine ⟨hne, ?_⟩
        obtain ⟨w, hw'⟩ := mends taken place right (by grind) hoperand
        refine ⟨w, fun y nesting hy hnesting => ?_⟩
        obtain ⟨right', hright', hoperand'⟩ := hw' y nesting hy (by grind)
        refine ⟨chain.step left op right', (hw.whole_step ..).mpr ⟨hleft, hright'⟩, ?_⟩
        have hop' := readOperator?_swap (w ++ y) hop
        rw [chain.readRest_step (consumes' nesting) left hop' hoperand']
        exact chain.readRest_stop _ _ _ (hy.not_operator hclose)
      | going last =>
        have hlast := chain.within_readRest consumes fuel (chain.step left op right) last
        simp only [h] at hlast
        -- the operand has been read, and what is completed comes after a later operator
        obtain ⟨first, others, rfl, rfl⟩ := exists_split (hp.suffix.trans hmid.suffix) hlast.1
        obtain ⟨taken, rfl⟩ := hp.suffix
        have hlt := hmid.length_lt
        have hlt' := hp.length_lt
        have hnext := hmid.2 _ rfl
        have hfirst : (first ++ others).ahead ≠ [] :=
          ahead_ne_nil (show place.length < (first ++ others ++ place).ahead.length by grind)
        refine ⟨hfirst, ?_⟩
        have hwhole := (hw.whole_step left op right).mpr ⟨hleft, hreads.1⟩
        obtain ⟨hne, w, hw'⟩ := ih hwhole (by grind) h
        refine ⟨w, fun y nesting hy hnesting => ?_⟩
        rw [← List.append_assoc taken] at hop
        have hop' := readOperator?_swap (w ++ y) hop
        rw [List.append_assoc taken] at hop'
        have hoperand' := (replays nesting).resume (alike_of_ahead hne place (w ++ y))
          (by grind) (by grind) hoperand
        obtain ⟨t', ht', hrest⟩ := hw' y nesting hy (by grind)
        refine ⟨t', ht', ?_⟩
        rw [chain.readRest_step (consumes' nesting) left hop' hoperand']
        exact hrest

/-- A chain that is stuck can be completed if its operands can. -/
theorem Writes.mends_read (hw : chain.Writes char operandTokens operandWhole tokens whole)
    (reads : Reads operand operandTokens operandWhole) (consumes : Consumes operand)
    (consumes' : ∀ nesting, Consumes (family nesting))
    (replays : ∀ nesting, Replays bound nesting operand (family nesting))
    (mends : Mends operandWhole bound operand family) (hclose : chain.ofChar? ')' = none) :
    Mends whole bound (chain.read operand) (fun nesting => chain.read (family nesting)) := by
  intro before place t hbound h
  have hp := consumes (before ++ place)
  have hreads := reads (before ++ place)
  unfold read at h
  generalize hoperand : operand (before ++ place) = reading at h hp hreads
  obtain ⟨first, front⟩ := reading
  -- what is completed is the first operand, or whatever comes after it
  cases front with
  | stuck other =>
    cases h
    obtain ⟨w, hw'⟩ := mends before place first hbound hoperand
    refine ⟨w, fun y nesting hy hnesting => ?_⟩
    obtain ⟨first', hfirst', hoperand'⟩ := hw' y nesting hy hnesting
    refine ⟨chain.one first', (hw.whole_one first').mpr hfirst', ?_⟩
    simp only [read, hoperand']
    exact chain.readRest_stop _ _ _ (hy.not_operator hclose)
  | going mid =>
    have hmid := chain.within_readRest consumes (mid.length + 1) (chain.one first) mid
    simp only at h
    rw [h] at hmid
    obtain ⟨taken, others, rfl, rfl⟩ := exists_split hp.suffix hmid.1
    rw [List.append_assoc] at hoperand hbound
    obtain ⟨hne, w, hw'⟩ := hw.mends_readRest reads consumes consumes' replays mends hclose _
      ((hw.whole_one first).mpr hreads.1) (by grind) h
    refine ⟨w, fun y nesting hy hnesting => ?_⟩
    rw [List.append_assoc] at hnesting ⊢
    have hoperand' := (replays nesting).resume (alike_of_ahead hne place (w ++ y)) hbound
      hnesting hoperand
    obtain ⟨t', ht', hrest⟩ := hw' y nesting hy (by grind)
    refine ⟨t', ht', ?_⟩
    simp only [read, hoperand']
    exact hrest

end Chain

/-! ## Arguments -/

/-- Blanks may stand before the parenthesis that closes something. -/
theorem ends_of_blank {blanks : Line} (h : blanks.ahead = []) (y : Line) :
    Ends [')'] (blanks ++ ')' :: y) := by
  have hahead : Line.ahead (blanks ++ ')' :: y) = ')' :: y := by
    rw [Line.ahead_append, if_pos h]
    rfl
  exact ends_of_ahead hahead (List.mem_singleton_self _)

/-- A call is closed after an argument. -/
theorem readOthers_close {nested : Reader Primary} {fuel : Nat} {first : Term} {text y : Line}
    (h : text.ahead = ')' :: y) :
    readOthers (readArguments nested (fuel + 1)) first text =
      (.more first false .close, .going y) := by
  have hcomma : text.after? ',' = none := by
    rw [Line.after?_eq_none, h]
    simp
  have hend : text.atEnd = false := by
    rw [Line.atEnd, h]
    rfl
  rw [readOthers, hcomma]
  simp only [hend, Bool.false_eq_true, if_false, readArguments, Line.after?_eq_some.mpr h]

/-- Arguments that are stuck can be completed and closed, whatever follows them. -/
def Closes (n fuel : Nat) : Prop :=
  ∀ (before place : Line) (args : Arguments), (before ++ place).length < fuel →
    (before ++ place).length < n →
    readArguments (readPrimary n) fuel (before ++ place) = (args, .stuck place) →
    ∃ w : Line, ∀ (y : Line) (nesting fuel' : Nat), (before ++ (w ++ y)).length < nesting →
      (before ++ (w ++ y)).length < fuel' → ∃ args' : Arguments, args'.Whole ∧
        readArguments (readPrimary nesting) fuel' (before ++ (w ++ y)) = (args', .going y)

/-- Arguments after the first that are stuck can be completed and closed. -/
theorem mends_readOthers {n fuel : Nat} (closes : Closes n fuel) {first : Term}
    {args : Arguments} {others place : Line} (hfirst : first.Whole)
    (hfuel : (others ++ place).length < fuel) (hbound : (others ++ place).length < n)
    (h : readOthers (readArguments (readPrimary n) fuel) first (others ++ place) =
      (args, .stuck place)) :
    ∃ w : Line, (∀ y, Alike (others ++ place) (others ++ (w ++ y))) ∧
      ∀ (y : Line) (nesting fuel' : Nat), (others ++ (w ++ y)).length < nesting →
        (others ++ (w ++ y)).length < fuel' → ∃ args' : Arguments, args'.Whole ∧
          readOthers (readArguments (readPrimary nesting) fuel') first (others ++ (w ++ y)) =
            (args', .going y) := by
  by_cases hblank : others.ahead = []
  · -- the argument has just ended, and the call is closed after it
    refine ⟨[')'], fun y => .inl (ends_of_blank hblank y), fun y nesting fuel' _ hfuel' => ?_⟩
    obtain ⟨fuel', rfl⟩ : ∃ f, fuel' = f + 1 := ⟨fuel' - 1, by omega⟩
    refine ⟨.more first false .close, ⟨hfirst, trivial⟩, readOthers_close ?_⟩
    rw [Line.ahead_append, if_pos hblank]
    rfl
  · unfold readOthers at h
    cases hcomma : (others ++ place).after? ',' with
    | some mid =>
      have hlt := (past_of_after? hcomma).length_lt
      have hp := consumes_readArguments (consumes_readPrimary n) fuel mid
      simp only [hcomma] at h
      generalize hargs : readArguments (readPrimary n) fuel mid = reading at h hp
      obtain ⟨more, front⟩ := reading
      cases h
      obtain ⟨taken, rfl⟩ := hp.1.1
      obtain ⟨w, hw⟩ := closes taken place more (by grind) (by grind) hargs
      -- what closes the arguments after the comma closes these
      refine ⟨w, fun y => alike_of_ahead hblank place (w ++ y), fun y nesting fuel' hn hf => ?_⟩
      have hcomma' := after?_swap (w ++ y) hcomma
      have hlt' := (past_of_after? hcomma').length_lt
      obtain ⟨more', hmore', hargs'⟩ := hw y nesting fuel' (by grind) (by grind)
      refine ⟨.more first true more', ⟨hfirst, hmore'⟩, ?_⟩
      simp only [readOthers, hcomma', hargs']
    | none =>
      simp only [hcomma] at h
      split at h
      · -- at the end of the line only blanks would stand before the place
        simp only [Prod.mk.injEq, Front.stuck.injEq] at h
        exact absurd (ahead_eq_nil_of_ahead h.2) hblank
      · next hend =>
        rw [Bool.not_eq_true] at hend
        generalize hargs : readArguments (readPrimary n) fuel (others ++ place) = reading at h
        obtain ⟨more, front⟩ := reading
        cases h
        obtain ⟨w, hw⟩ := closes others place more hfuel hbound hargs
        refine ⟨w, fun y => alike_of_ahead hblank place (w ++ y), fun y nesting fuel' hn hf => ?_⟩
        have hnext := next_append hblank (w ++ y) place
        have hcomma' := not_after?_of_next hnext hcomma
        have hend' := (atEnd_of_next hnext).trans hend
        obtain ⟨more', hmore', hargs'⟩ := hw y nesting fuel' hn hf
        refine ⟨.more first false more', ⟨hfirst, hmore'⟩, ?_⟩
        simp only [readOthers, hcomma', hend', hargs', Bool.false_eq_true, if_false]

section

variable {n : Nat} (mends : Mends Primary.Whole n (readPrimary n) readPrimary)

include mends

/-- A product that is stuck can be completed if its primaries can. -/
theorem mends_readFactor :
    Mends Factor.Whole n (readFactor (readPrimary n)) (fun m => readFactor (readPrimary m)) :=
  products_writes.mends_read (reads_readPrimary n) (consumes_readPrimary n) consumes_readPrimary
    (replays_readPrimary n) mends rfl

/-- A sum that is stuck can be completed if its primaries can. -/
theorem mends_readTerm :
    Mends Term.Whole n (readTerm (readPrimary n)) (fun m => readTerm (readPrimary m)) :=
  sums_writes.mends_read (reads_readFactor (reads_readPrimary n))
    (consumes_readFactor (consumes_readPrimary n))
    (fun m => consumes_readFactor (consumes_readPrimary m))
    (fun m => replays_readFactor (consumes_readPrimary n) (consumes_readPrimary m)
      (replays_readPrimary n m))
    (mends_readFactor mends) rfl

/-- Arguments that are stuck can be completed and closed, by induction on how many there may be. -/
theorem closes_readArguments (fuel : Nat) : Closes n fuel := by
  induction fuel with
  | zero => exact fun _ _ _ hfuel => by omega
  | succ fuel ih =>
    intro before place args hfuel hbound h
    rw [readArguments] at h
    cases hclose : (before ++ place).after? ')' with
    | some mid =>
      rw [hclose] at h
      cases h
    | none =>
      have hp := consumes_readTerm (consumes_readPrimary n) (before ++ place)
      have hreads := reads_readTerm (reads_readPrimary n) (before ++ place)
      simp only [hclose] at h
      generalize hterm : readTerm (readPrimary n) (before ++ place) = reading at h hp hreads
      obtain ⟨first, front⟩ := reading
      cases front with
      | stuck other =>
        cases h
        -- the argument is completed, and the call is closed after it
        obtain ⟨w, hw⟩ := mends_readTerm mends before place first hbound hterm
        refine ⟨w ++ [')'], fun y nesting fuel' hn hf => ?_⟩
        rw [List.append_assoc] at hn hf ⊢
        obtain ⟨first', hfirst', hterm'⟩ := hw (')' :: y) nesting (ends_close y) hn
        obtain ⟨fuel', rfl⟩ : ∃ f, fuel' = f + 2 := ⟨fuel' - 2, by grind⟩
        refine ⟨.more first' false .close, ⟨hfirst', trivial⟩, ?_⟩
        rw [List.singleton_append, readArguments_of_term hterm']
        exact readOthers_close rfl
      | going mid =>
        have hmid := within_readOthers
          (consumes_readArguments (consumes_readPrimary n) fuel) first mid
        simp only at h
        rw [h] at hmid
        obtain ⟨taken, others, rfl, rfl⟩ := exists_split hp.suffix hmid.1
        rw [List.append_assoc] at hterm hp hfuel hbound
        have hlt := Front.Past.length_lt hp
        obtain ⟨w, alike, hw⟩ := mends_readOthers ih hreads.1 (by grind) (by grind) h
        refine ⟨w, fun y nesting fuel' hn hf => ?_⟩
        rw [List.append_assoc] at hn hf ⊢
        have hterm' := (replays_readTerm (consumes_readPrimary n) (consumes_readPrimary nesting)
          (replays_readPrimary n nesting)).resume (alike y) hbound hn hterm
        have hp' := consumes_readTerm (consumes_readPrimary nesting) (taken ++ (others ++ (w ++ y)))
        rw [hterm'] at hp'
        have hlt' := Front.Past.length_lt hp'
        obtain ⟨fuel', rfl⟩ : ∃ f, fuel' = f + 1 := ⟨fuel' - 1, by omega⟩
        obtain ⟨args', hargs', hothers⟩ := hw y nesting fuel' (by grind) (by grind)
        refine ⟨args', hargs', ?_⟩
        rw [readArguments_of_term hterm']
        exact hothers

/-! ## Primaries -/

/-- A parenthesis that is stuck is completed inside and closed. -/
theorem mends_readParen :
    Mends Primary.Whole n (readParen (readPrimary n)) (fun m => readParen (readPrimary m)) := by
  intro before place t hbound h
  have hp := consumes_readTerm (consumes_readPrimary n) (before ++ place)
  have hreads := reads_readTerm (reads_readPrimary n) (before ++ place)
  unfold readParen at h
  generalize hterm : readTerm (readPrimary n) (before ++ place) = reading at h hp hreads
  obtain ⟨inner, front⟩ := reading
  cases front with
  | stuck other =>
    cases h
    -- the term is completed, and the parenthesis is closed after it
    obtain ⟨w, hw⟩ := mends_readTerm mends before place inner hbound hterm
    refine ⟨w ++ [')'], fun y nesting _ hn => ?_⟩
    rw [List.append_assoc, List.singleton_append] at hn ⊢
    obtain ⟨inner', hinner', hterm'⟩ := hw (')' :: y) nesting (ends_close y) hn
    refine ⟨.paren inner', hinner', ?_⟩
    simp only [readParen, hterm']
    rfl
  | going mid =>
    simp only at h
    cases hclose : mid.after? ')' with
    | some last =>
      rw [hclose] at h
      cases h
    | none =>
      simp only [hclose, Prod.mk.injEq, Front.stuck.injEq] at h
      obtain ⟨rfl, hahead⟩ := h
      obtain ⟨taken, others, rfl, rfl⟩ := exists_split hp.suffix (hahead ▸ Line.ahead_suffix mid)
      have hblank := ahead_eq_nil_of_ahead hahead
      rw [List.append_assoc] at hterm hbound
      -- the term has ended, and the parenthesis is closed after it
      refine ⟨[')'], fun y nesting _ hn => ?_⟩
      rw [List.append_assoc, List.singleton_append] at hn ⊢
      have hterm' := (replays_readTerm (consumes_readPrimary n) (consumes_readPrimary nesting)
        (replays_readPrimary n nesting)).resume (.inl (ends_of_blank hblank y)) hbound hn hterm
      have hclose' : Line.after? (others ++ ')' :: y) ')' = some y := by
        rw [Line.after?_eq_some, Line.ahead_append, if_pos hblank]
        rfl
      refine ⟨.paren inner, hreads.1, ?_⟩
      simp only [readParen, hterm', hclose']

/-- A call that is stuck is completed after its opening parenthesis. -/
theorem mends_readNamed {name : Identifier} {before place : Line} {t : Primary}
    (hbound : (before ++ place).length < n)
    (h : readNamed (readPrimary n) name (before ++ place) = (t, .stuck place)) :
    before.ahead ≠ [] ∧ ∃ w : Line, ∀ (y : Line) (nesting : Nat),
      (before ++ (w ++ y)).length < nesting → ∃ t' : Primary, t'.Whole ∧
        readNamed (readPrimary nesting) name (before ++ (w ++ y)) = (t', .going y) := by
  unfold readNamed at h
  -- a variable is read whole, so a name can only be stuck in its arguments
  cases hopen : (before ++ place).after? '(' with
  | none =>
    rw [hopen] at h
    cases h
  | some inside =>
    have hinside := past_of_after? hopen
    have hp := consumes_readArguments (consumes_readPrimary n) (inside.length + 1) inside
    simp only [hopen] at h
    generalize hargs : readArguments (readPrimary n) (inside.length + 1) inside = reading at h hp
    obtain ⟨args, front⟩ := reading
    cases h
    obtain ⟨taken, rfl⟩ := hp.1.1
    have hlt := hinside.length_lt
    have hnext := hinside.2 _ rfl
    have hne : before.ahead ≠ [] :=
      ahead_ne_nil (show place.length < (before ++ place).ahead.length by grind)
    obtain ⟨w, hw⟩ := closes_readArguments mends _ taken place args (by grind) (by grind) hargs
    refine ⟨hne, w, fun y nesting hn => ?_⟩
    have hopen' := after?_swap (w ++ y) hopen
    have hlt' := (past_of_after? hopen').length_lt
    obtain ⟨args', hargs', hread⟩ := hw y nesting _ (by grind) (Nat.lt_succ_self _)
    refine ⟨.call name args', hargs', ?_⟩
    simp only [readNamed, hopen', hread]

/-- A sign is followed by what completes the primary after it, and `1` stands for a primary that is
missing. -/
theorem mends_readSigned :
    Mends Primary.Whole (n + 1) (readSigned (readPrimary n)) readPrimary := by
  intro before place t hbound h
  unfold readSigned at h
  cases hop : readOperator? Additive.ofChar? (before ++ place) with
  | some found =>
    obtain ⟨op, mid⟩ := found
    have hlt := (past_of_readOperator? hop).length_lt
    have hp := consumes_readPrimary n mid
    simp only [hop] at h
    generalize hinner : readPrimary n mid = reading at h hp
    obtain ⟨inner, front⟩ := reading
    cases h
    obtain ⟨taken, rfl⟩ := hp.1.1
    obtain ⟨w, hw⟩ := mends taken place inner (by grind) hinner
    refine ⟨w, fun y nesting hy hn => ?_⟩
    obtain ⟨nesting, rfl⟩ : ∃ m, nesting = m + 1 := ⟨nesting - 1, by omega⟩
    have hop' := readOperator?_swap (w ++ y) hop
    have hlt' := (past_of_readOperator? hop').length_lt
    obtain ⟨c, hahead, hc⟩ := readOperator?_eq_some.mp hop'
    rw [Additive.ofChar?_eq_some.mp hc] at hahead
    obtain ⟨inner', hinner', hread⟩ := hw y nesting hy (by grind)
    refine ⟨.sign op inner', hinner', ?_⟩
    rw [readPrimary, readPrimaryWith_of_sign _ hahead, hread]
  | none =>
    simp only [hop] at h
    cases hnumeral : Numeral.read? (before ++ place) with
    | some found =>
      rw [hnumeral] at h
      cases h
    | none =>
      simp only [hnumeral, Prod.mk.injEq, Front.stuck.injEq] at h
      have hblank := ahead_eq_nil_of_ahead h.2
      -- nothing but blanks stands before the place, and any primary will do
      let one : Numeral := ⟨'1', [], by decide, by simp⟩
      refine ⟨one.chars, fun y nesting hy hn => ?_⟩
      obtain ⟨nesting, rfl⟩ : ∃ m, nesting = m + 1 := ⟨nesting - 1, by omega⟩
      have hahead : Line.ahead (before ++ (one.chars ++ y)) = one.chars ++ y := by
        rw [Line.ahead_append, if_pos hblank]
        rfl
      refine ⟨.int one, trivial, ?_⟩
      rw [readPrimary, readPrimaryWith_of_int _ hahead
        (hy.stop (fun _ => isIdentChar_of_isDigit) (by decide))]

/-- A primary that is stuck can be completed if the primaries nested in it can. -/
theorem mends_readPrimaryWith :
    Mends Primary.Whole (n + 1) (readPrimaryWith (readPrimary n)) readPrimary := by
  intro before place t hbound h
  unfold readPrimaryWith at h
  cases hname : Identifier.read? (before ++ place) with
  | some found =>
    obtain ⟨name, mid⟩ := found
    have hlt := (past_of_readWord? hname).length_lt
    have hwithin := within_readNamed (consumes_readPrimary n) name mid
    simp only [hname] at h
    rw [h] at hwithin
    obtain ⟨taken, rfl⟩ := hwithin.1
    obtain ⟨hne, w, hw⟩ := mends_readNamed mends (by grind) h
    refine ⟨w, fun y nesting _ hn => ?_⟩
    obtain ⟨nesting, rfl⟩ : ∃ m, nesting = m + 1 := ⟨nesting - 1, by omega⟩
    -- the parenthesis stays, so that the name still ends where it ended
    have hname' : Identifier.read? (before ++ (w ++ y)) = some (name, taken ++ (w ++ y)) :=
      readWord?_swap (fun _ => id) (alike_of_ahead hne place (w ++ y)) hname
    have hlt' := (past_of_readWord? hname').length_lt
    obtain ⟨t', ht', hnamed⟩ := hw y nesting (by grind)
    refine ⟨t', ht', ?_⟩
    simp only [readPrimary, readPrimaryWith, hname', hnamed]
  | none =>
    simp only [hname] at h
    cases hopen : (before ++ place).after? '(' with
    | some inside =>
      have hlt := (past_of_after? hopen).length_lt
      have hparen := consumes_readParen (consumes_readPrimary n) inside
      simp only [hopen] at h
      rw [h] at hparen
      obtain ⟨taken, rfl⟩ := hparen.1.1
      obtain ⟨w, hw⟩ := mends_readParen mends taken place t (by grind) h
      refine ⟨w, fun y nesting hy hn => ?_⟩
      obtain ⟨nesting, rfl⟩ : ∃ m, nesting = m + 1 := ⟨nesting - 1, by omega⟩
      have hopen' := after?_swap (w ++ y) hopen
      have hlt' := (past_of_after? hopen').length_lt
      obtain ⟨t', ht', hread⟩ := hw y nesting hy (by grind)
      refine ⟨t', ht', ?_⟩
      rw [readPrimary, readPrimaryWith_of_paren _ (Line.after?_eq_some.mp hopen')]
      exact hread
    | none =>
      simp only [hopen] at h
      exact mends_readSigned mends before place t hbound h

end

/-- A primary that is stuck can be completed, by induction on how deep it may nest. -/
theorem mends_readPrimary (n : Nat) : Mends Primary.Whole n (readPrimary n) readPrimary := by
  induction n with
  | zero => exact fun _ _ _ hbound => by omega
  | succ n ih => exact mends_readPrimaryWith ih

/-- What stands before the place where the reading of a line is stuck begins some line that is read
to its end. -/
theorem exists_read_of_stuck {before place : Line} {t : Term}
    (h : read (before ++ place) = (t, .stuck place)) :
    ∃ (w : Line) (t' : Term), t'.Whole ∧ read (before ++ w) = (t', .going []) := by
  have hends : Ends [')'] [] := fun c hc => by cases hc
  obtain ⟨w, hw⟩ := mends_readTerm (mends_readPrimary _) before place t (Nat.lt_succ_self _) h
  obtain ⟨t', whole, hread⟩ := hw [] _ hends (Nat.lt_succ_self _)
  rw [List.append_nil] at hread
  exact ⟨w, t', whole, hread⟩

end LineScan.Grammar
