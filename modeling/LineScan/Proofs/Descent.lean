import LineScan.Calculator.Descent
import LineScan.Proofs.Execution

/-!
# The calculator reads on

Some attempts succeed without moving the cursor, such as the one for the end of the line, and a
comma after an argument is optional. All the same no rule of the calculator can go round in circles:
a primary reads at least one character before a primary that is nested in it, so that reading a line
is a recursion on the text that is left.

The rules are compared with those by descent, where that recursion is the definition. `Reads` says
of two rules that they do the same and at least how many characters they read, as far as what they
answer tells: a probe that finds something reads a character, and so does a turn of a loop after
which another one is taken. What comes after a character that was read only has to be compared where
one character less is left.

## Main statements

* `Reads.bind`: what two rules in a row read.
* `Reads.loop`: a loop takes turns if each turn reads on.
* `reads_primaryWith`, `reads_primary`: a primary is read by descent.
* `evaluate_by_descent`: a line is evaluated by recursion on the text that is left.
-/

namespace LineScan

open Grammar

variable {line : Line}

/-! ## Where a scanner is -/

/-- The scanner is somewhere on a line, and no hook is registered. -/
structure Scanner.On (line : Line) (s : Scanner) : Prop where
  line_eq : s.state.line = line
  cursor_nonneg : 0 ≤ s.state.cursor
  cursor_le : s.state.cursor ≤ line.length
  hook_eq : s.hook = none

/-- The characters before the cursor and the unread ones make up the line. -/
theorem Scanner.On.cursor_add_unread {s : Scanner} (h : s.On line) :
    s.state.cursor + s.unread = line.length := by
  have hlow := h.cursor_nonneg
  have hhigh := h.cursor_le
  rw [unread, ScanState.rest, h.line_eq, Line.sliceFrom, Line.clamp, if_neg (by omega),
    List.length_drop]
  omega

/-- What is left to read is the text that the scanner stands before. -/
theorem Stands.on {text : Line} {s : Scanner} (h : Stands line text s) :
    s.On line ∧ s.unread = text.length := by
  have hlength := h.suffix.length_le
  have hcursor := h.cursor_eq
  rw [Line.place] at hcursor
  have hon : s.On line := ⟨h.line_eq, by omega, by omega, h.hook_eq⟩
  have hsum := hon.cursor_add_unread
  exact ⟨hon, by omega⟩

/-- A scanner on a line stands before a text that ends the line. -/
theorem Scanner.On.stands {s : Scanner} (h : s.On line) : ∃ text, Stands line text s := by
  have hlow := h.cursor_nonneg
  have hhigh := h.cursor_le
  refine ⟨line.drop s.state.cursor.toNat, h.line_eq, ?_, List.drop_suffix _ _, h.hook_eq⟩
  rw [Line.place, List.length_drop]
  omega

/-- Less is left to read exactly if the cursor is further on. -/
theorem Scanner.On.unread_lt_iff {s t : Scanner} (hs : s.On line) (ht : t.On line) :
    t.unread < s.unread ↔ s.state.cursor < t.state.cursor := by
  have hs := hs.cursor_add_unread
  have ht := ht.cursor_add_unread
  omega

/-- It is the rule on the line from its start that counts. -/
theorem Rule.parse_congr {α : Type} {x y : Rule α} {s : Scanner}
    (h : x (s.startLine line) = y (s.startLine line)) :
    Rule.parse line x s = Rule.parse line y s := by
  simp only [Rule.parse, Rule.reset, bind_apply, modify_apply, lift_apply, h]

/-! ## Reading on -/

/-- Where fewer than `n` characters are left to read, two rules do the same, and what they answer
tells at least how many characters they have read. -/
def Reads (line : Line) (n : Nat) {α : Type} (least : α → Nat) (x y : Rule α) : Prop :=
  ∀ s : Scanner, s.On line → s.unread < n →
    x s = y s ∧ ∀ a t, x s = .ok a t → t.On line ∧ t.unread + least a ≤ s.unread

/-- Follow a rule only where the cursor is beyond that of a scanner. -/
def Rule.beyond {α : Type} (s : Scanner) (stall rule : Rule α) : Rule α := fun t =>
  if s.state.cursor < t.state.cursor then rule t else stall t

/-- A rule that answers has moved the cursor on. -/
def Advances {α : Type} (line : Line) (rule : Rule α) : Prop :=
  ∀ s a t, s.On line → rule s = .ok a t → t.On line ∧ s.state.cursor < t.state.cursor

/-- A turn of a loop has moved the cursor on, unless it is the last one. -/
def Strides {α β : Type} (line : Line) (turn : Rule (Turn β α)) : Prop :=
  ∀ s b t, s.On line → turn s = .ok (.again b) t → t.On line ∧ s.state.cursor < t.state.cursor

namespace Turn

variable {α β : Type}

/-- Before another turn, a turn reads a character. -/
def least : Turn β α → Nat
  | .again _ => 1
  | .leave _ => 0

/-- After a turn that asks for another one comes what is next. -/
@[simp]
theorem andThen_again (next : β → Rule α) (b : β) : andThen next (.again b) = next b := rfl

/-- After a turn that leaves the loop nothing is next. -/
@[simp]
theorem andThen_leave (next : β → Rule α) (a : α) : andThen next (.leave a) = pure a := rfl

end Turn

/-- What comes after a branch comes after both of its sides. -/
theorem Rule.branch_bind {α β : Type} {c : Prop} [Decidable c] (x y : Rule α) (f : α → Rule β) :
    (if c then x else y) >>= f = if c then x >>= f else y >>= f := by
  split <;> rfl

namespace Reads

variable {n : Nat} {α β : Type} {least : α → Nat} {x y : Rule α}

/-- With fewer characters left, and fewer of them promised, rules still do the same. -/
theorem mono {m : Nat} {fewer : α → Nat} (h : Reads line n least x y) (hle : m ≤ n)
    (hfewer : ∀ a, fewer a ≤ least a) : Reads line m fewer x y := by
  intro s hs hunread
  obtain ⟨heq, hreads⟩ := h s hs (by omega)
  refine ⟨heq, fun a t hok => ?_⟩
  obtain ⟨ht, hle⟩ := hreads a t hok
  have := hfewer a
  exact ⟨ht, by omega⟩

/-- A rule that only answers where it stands reads nothing. -/
theorem of_still (h : ∀ s a t, x s = .ok a t → t.state = s.state ∧ t.hook = s.hook)
    (hleast : ∀ a, least a = 0) : Reads line n least x x := by
  intro s hs _
  refine ⟨rfl, fun a t hok => ?_⟩
  obtain ⟨hstate, hhook⟩ := h s a t hok
  refine ⟨⟨?_, ?_, ?_, hhook.trans hs.hook_eq⟩, ?_⟩
  · rw [hstate, hs.line_eq]
  · rw [hstate]
    exact hs.cursor_nonneg
  · rw [hstate]
    exact hs.cursor_le
  · rw [hleast, Scanner.unread, hstate]
    exact Nat.le_refl _

/-- A rule reads what is missing of the text that it stands before. -/
theorem of_stands (h : ∀ text s, Stands line text s → ∀ a t, x s = .ok a t →
      ∃ rest, Stands line rest t ∧ rest.length + least a ≤ text.length) :
    Reads line n least x x := by
  intro s hs _
  obtain ⟨text, htext⟩ := hs.stands
  refine ⟨rfl, fun a t hok => ?_⟩
  obtain ⟨rest, hrest, hle⟩ := h text s htext a t hok
  obtain ⟨hon, hunread⟩ := hrest.on
  rw [hunread, htext.on.2]
  exact ⟨hon, hle⟩

/-- An answer by itself promises no character. -/
theorem pure (a : α) (hleast : least a = 0) : Reads line n least (pure a) (pure a) := by
  intro s hs _
  refine ⟨rfl, fun b t hok => ?_⟩
  cases hok
  exact ⟨hs, by omega⟩

/-- A rule that never answers may be said to read any number of characters. -/
theorem of_fails (h : ∀ s a t, x s ≠ .ok a t) : Reads line n least x x :=
  fun s _ _ => ⟨rfl, fun a t hok => absurd hok (h s a t)⟩

/-- After the characters that the first of two rules has read, fewer are left, and fewer need be
read. -/
theorem bind {most : β → Nat} {f g : α → Rule β} (h : Reads line n least x y)
    (hnext : ∀ a, Reads line (n - least a) (fun b => most b - least a) (f a) (g a)) :
    Reads line n most (x >>= f) (y >>= g) := by
  intro s hs hunread
  obtain ⟨heq, hreads⟩ := h s hs hunread
  rw [bind_apply, bind_apply, ← heq]
  cases hx : x s with
  | error e t => exact ⟨rfl, fun b u hok => by cases hok⟩
  | ok a t =>
    obtain ⟨ht, hle⟩ := hreads a t hx
    obtain ⟨heq', hreads'⟩ := hnext a t ht (by omega)
    refine ⟨heq', fun b u hok => ?_⟩
    obtain ⟨hu, hle'⟩ := hreads' b u hok
    exact ⟨hu, by simp only at hle'; omega⟩

/-- Where nothing is said about what the first rule reads, it may have read nothing. -/
theorem bind_zero {most : β → Nat} {f g : α → Rule β} (h : Reads line n (fun _ => 0) x y)
    (hnext : ∀ a, Reads line n most (f a) (g a)) : Reads line n most (x >>= f) (y >>= g) :=
  h.bind hnext

/-- Two branches on the same condition do the same if both sides do. -/
theorem branch {c : Prop} [Decidable c] {x' y' : Rule α} (yes : c → Reads line n least x y)
    (no : ¬ c → Reads line n least x' y') :
    Reads line n least (if c then x else x') (if c then y else y') := by
  split
  · next h => exact yes h
  · next h => exact no h

/-- Rules that look at the scanner do the same if they do for every scanner seen. -/
theorem get_bind {f g : Scanner → Rule α} (h : ∀ s, Reads line n least (f s) (g s)) :
    Reads line n least (get >>= f) (get >>= g) :=
  fun s hs hunread => h s s hs hunread

/-- A probe: one character less is left where it has found what it looks for. -/
theorem probe {probe : Rule Bool} {x' y' : Rule α} (h : Reads line n Bool.toNat probe probe)
    (yes : Reads line (n - 1) (fun a => least a - 1) x y) (no : Reads line n least x' y') :
    Reads line n least (probe >>= fun found => if found = true then x else x')
      (probe >>= fun found => if found = true then y else y') := by
  refine h.bind fun found => ?_
  cases found with
  | true => exact yes
  | false => exact no

/-- A turn is taken, and then others if it has read on. -/
theorem takeTurns {stall : Rule α} {turn : β → Rule (Turn β α)} {first : Rule (Turn β α)} {b : β}
    {next : β → Rule α} (h : Reads line n Turn.least first (turn b))
    (hnext : ∀ b, Reads line (n - 1) (fun _ => 0) (next b) (Rule.takeTurns stall turn b)) :
    Reads line n (fun _ => 0) (first >>= Turn.andThen next) (Rule.takeTurns stall turn b) := by
  intro s hs hunread
  obtain ⟨heq, hreads⟩ := h s hs hunread
  rw [bind_apply, Rule.takeTurns, ← heq]
  rcases hfirst : first s with ⟨b | a, t⟩ | ⟨e, t⟩
  · obtain ⟨ht, hle⟩ := hreads _ t hfirst
    simp only [Turn.least] at hle
    obtain ⟨heq', hreads'⟩ := hnext b t ht (by omega)
    simp only [Turn.andThen_again, if_pos (show t.unread < s.unread by omega)]
    refine ⟨heq', fun a u hok => ?_⟩
    obtain ⟨hu, hle'⟩ := hreads' a u hok
    exact ⟨hu, by omega⟩
  · obtain ⟨ht, hle⟩ := hreads _ t hfirst
    refine ⟨rfl, fun c u hok => ?_⟩
    cases hok
    exact ⟨ht, hle⟩
  · exact ⟨rfl, fun a u hok => by cases hok⟩

/-- A loop with more rounds than there are characters takes turns, if each turn reads on. -/
theorem loop {stall : Rule α} {turn turn' : β → Rule (Turn β α)} (loop : Nat → β → Rule α)
    (h : ∀ b, Reads line n Turn.least (turn b) (turn' b))
    (hloop : ∀ fuel b, loop (fuel + 1) b = turn b >>= Turn.andThen (loop fuel)) {fuel : Nat}
    (hfuel : n ≤ fuel) (b : β) :
    Reads line n (fun _ => 0) (loop fuel b) (Rule.takeTurns stall turn' b) := by
  induction fuel generalizing n b with
  | zero => exact fun s _ hunread => absurd hunread (by omega)
  | succ fuel ih =>
    rw [hloop]
    refine takeTurns (h b) fun b => ih (fun b => ?_) (by omega) b
    exact (h b).mono (Nat.sub_le n 1) fun _ => Nat.le_refl _

/-- Where less is left to read than at a scanner, the cursor is beyond that of the scanner. -/
theorem beyond {s : Scanner} (h : Reads line s.unread least x y) (hs : s.On line)
    (stall : Rule α) : Reads line s.unread least (Rule.beyond s stall x) y := by
  intro t ht hless
  have hbeyond : Rule.beyond s stall x t = x t := if_pos ((hs.unread_lt_iff ht).mp hless)
  rw [hbeyond]
  exact h t ht hless

end Reads

/-- A rule that reads a character wherever it is followed moves the cursor on. -/
theorem Advances.of_reads {α : Type} {x y : Rule α} (h : ∀ n, Reads line n (fun _ => 1) x y) :
    Advances line x := by
  intro s a t hs hok
  obtain ⟨ht, hle⟩ := (h (s.unread + 1) s hs (Nat.lt_succ_self _)).2 a t hok
  exact ⟨ht, (hs.unread_lt_iff ht).mp hle⟩

/-- A turn that reads a character before another one moves the cursor on. -/
theorem Strides.of_reads {α β : Type} {x y : Rule (Turn β α)}
    (h : ∀ n, Reads line n Turn.least x y) : Strides line x := by
  intro s b t hs hok
  obtain ⟨ht, hle⟩ := (h (s.unread + 1) s hs (Nat.lt_succ_self _)).2 (.again b) t hok
  exact ⟨ht, (hs.unread_lt_iff ht).mp hle⟩

/-! ## The parts of the grammar -/

namespace Calculator

variable {k : Calculator} {n : Nat} {α : Type}

/-- A probe that finds something reads a character. -/
theorem reads_probe {target : Target} {c : Char} (h : Probes k.setting target c) :
    Reads line n Bool.toNat (Rule.acceptTarget k.setting target)
      (Rule.acceptTarget k.setting target) := by
  refine .of_stands fun text s hs a t hok => ?_
  cases hafter : text.after? c with
  | some rest =>
    obtain ⟨s', hs', hrest⟩ := h.hit hs hafter
    cases hs'.symm.trans hok
    exact ⟨rest, hrest, (past_of_after? hafter).length_lt⟩
  | none =>
    obtain ⟨s', hs', htext, -⟩ := h.miss hs hafter
    cases hs'.symm.trans hok
    exact ⟨text, htext, Nat.le_refl _⟩

/-- A mark that is found is a character that is read. -/
theorem reads_mark {c : Char} (h : c ∈ marks) :
    Reads line n Bool.toNat (k.acceptChar c) (k.acceptChar c) := by
  have hmark : Text.isBlank c = false ∧ c ≠ Line.nul := by
    simp only [marks, List.mem_cons, List.not_mem_nil, or_false] at h
    rcases h with rfl | rfl | rfl | rfl | rfl | rfl | rfl <;> decide
  exact reads_probe (probes_mark k c hmark)

/-- A name that is found has a first character. -/
theorem reads_ident : Reads line n Bool.toNat
    (Rule.acceptTarget k.setting (.terminal identTerminal))
    (Rule.acceptTarget k.setting (.terminal identTerminal)) := by
  refine .of_stands fun text s hs a t hok => ?_
  cases hread : Identifier.read? text with
  | some word =>
    obtain ⟨s', hs', hrest, -⟩ := accept_ident_of_some k hs hread
    cases hs'.symm.trans hok
    exact ⟨word.2, hrest, (past_of_readWord? hread).length_lt⟩
  | none =>
    obtain ⟨s', hs', htext⟩ := accept_ident_of_none k hs hread
    cases hs'.symm.trans hok
    exact ⟨text, htext, Nat.le_refl _⟩

/-- An integer that is found has a first digit. -/
theorem reads_int : Reads line n Bool.toNat
    (Rule.acceptTarget k.setting (.terminal (intTerminal k.maxInt)))
    (Rule.acceptTarget k.setting (.terminal (intTerminal k.maxInt))) := by
  refine .of_stands fun text s hs a t hok => ?_
  cases hread : Numeral.read? text with
  | some word =>
    by_cases hle : word.1.value ≤ k.maxInt
    · obtain ⟨s', hs', hrest, -⟩ := accept_int_of_le hs hread hle
      cases hs'.symm.trans hok
      exact ⟨word.2, hrest, (past_of_readWord? hread).length_lt⟩
    · obtain ⟨e, s', hs', -⟩ := accept_int_of_lt hs hread (Int.not_le.mp hle)
      cases hs'.symm.trans hok
  | none =>
    obtain ⟨s', hs', htext, -⟩ := accept_int_of_none k hs hread
    cases hs'.symm.trans hok
    exact ⟨text, htext, Nat.le_refl _⟩

/-- The end of the line may be found without moving. -/
theorem reads_endOfLine : Reads line n (fun _ => 0) (Rule.acceptTarget k.setting .endOfLine)
    (Rule.acceptTarget k.setting .endOfLine) := by
  refine .of_stands fun text s hs a t hok => ?_
  obtain ⟨s', hs', hrest⟩ := accept_endOfLine k.setting hs
  cases hs'.symm.trans hok
  refine ⟨_, hrest, ?_⟩
  split
  · exact (Line.ahead_suffix text).length_le
  · exact Nat.le_refl _

/-- The end of the line may be found again and again, since no character is read for it. -/
theorem reads_end : Reads line n (fun _ => 0)
    (Rule.acceptTarget k.setting (.terminal endTerminal))
    (Rule.acceptTarget k.setting (.terminal endTerminal)) := by
  refine .of_stands fun text s hs a t hok => ?_
  obtain ⟨s', hs', hend, hgoing⟩ := accept_end k hs
  cases hs'.symm.trans hok
  by_cases ha : text.ahead = []
  · exact ⟨[], hend ha, Nat.zero_le _⟩
  · exact ⟨text, (hgoing ha).1, Nat.le_refl _⟩

/-- A complaint gives no answer. -/
theorem complain_ne_ok (c : Complaint) (s : Scanner) (a : α) (t : Scanner) :
    (k.complain c : Rule α) s ≠ .ok a t := by
  unfold Calculator.complain Rule.complain
  intro hok
  split at hok <;> cases hok

/-- A complaint gives no answer, so it promises anything. -/
theorem reads_complain (c : Complaint) (least : α → Nat) :
    Reads line n least (k.complain c) (k.complain c) :=
  .of_fails (complain_ne_ok c)

/-- Nor does anything go on where a column is complained about. -/
theorem reads_complainAt (column : Int) (c : Complaint) (least : α → Nat) :
    Reads line n least (k.complainAt column c) (k.complainAt column c) := by
  refine .of_fails fun s a t hok => ?_
  unfold Calculator.complainAt Rule.complainAt at hok
  split at hok
  · exact complain_ne_ok (k := k) c s a t hok
  · cases hok

/-- Requiring a target promises no character. -/
theorem reads_expect {target : Target} {least : Bool → Nat}
    (h : Reads line n least (Rule.acceptTarget k.setting target)
      (Rule.acceptTarget k.setting target)) :
    Reads line n (fun _ => 0) (Rule.expectTarget k.setting target none)
      (Rule.expectTarget k.setting target none) := by
  refine (h.mono (Nat.le_refl n) fun _ => Nat.zero_le _).bind_zero fun found => ?_
  exact .branch (fun _ => .pure () rfl) fun _ => .get_bind fun s => reads_complainAt (k := k) _ _ _

/-- Looking at the text of the last match reads nothing. -/
theorem reads_scannedText :
    Reads line n (fun _ => 0) Calculator.scannedText Calculator.scannedText := by
  refine .get_bind fun s => ?_
  cases s.state.value <;> exact .pure _ rfl

/-- Looking at the value of the last match reads nothing. -/
theorem reads_scannedInt :
    Reads line n (fun _ => 0) Calculator.scannedInt Calculator.scannedInt := by
  refine .get_bind fun s => ?_
  cases s.state.value <;> exact .pure _ rfl

/-- Asking for the column of an error reads nothing. -/
theorem reads_errorColumn :
    Reads line n (fun _ => 0) Calculator.errorColumn Calculator.errorColumn :=
  .get_bind fun s => .pure s.state.errorColumn rfl

/-- Looking up a variable reads nothing. -/
theorem reads_variableValue (name : String) :
    Reads line n (fun _ => 0) (k.variableValue name) (k.variableValue name) := by
  unfold Calculator.variableValue
  split
  · exact reads_complain _ _
  · split
    · exact .pure _ rfl
    · exact .of_fails fun _ _ _ => nofun

/-- Drawing a random number reads nothing. -/
theorem reads_drawRandom (source : RandomSource) (limit : Int) :
    Reads line n (fun _ => 0) (drawRandom source limit) (drawRandom source limit) := by
  refine .of_still (fun s a t hok => ?_) fun _ => rfl
  simp only [drawRandom, bind_apply, get_apply, modify_apply] at hok
  cases hdraw : source.draw s.journal.draws limit with
  | ok number =>
    rw [hdraw] at hok
    cases hok
    exact ⟨rfl, rfl⟩
  | error f =>
    rw [hdraw] at hok
    cases hok

/-- Applying a function reads nothing. -/
theorem reads_apply (function : Builtin) (args : List Int) :
    Reads line n (fun _ => 0) (function.apply k.source args) (function.apply k.source args) := by
  cases function with
  | total f => exact .pure _ rfl
  | least =>
    rw [Builtin.apply]
    cases leastOf args with
    | none => exact .of_fails fun _ _ _ => nofun
    | some n => exact .pure _ rfl
  | greatest =>
    rw [Builtin.apply]
    cases greatestOf args with
    | none => exact .of_fails fun _ _ _ => nofun
    | some n => exact .pure _ rfl
  | random limit =>
    cases args with
    | nil => exact reads_drawRandom k.source limit
    | cons arg args =>
      refine .bind_zero ?_ fun _ => reads_drawRandom k.source limit
      exact .of_still (fun s a t hok => by cases hok; exact ⟨rfl, rfl⟩) fun _ => rfl

/-! ## The loops take turns -/

/-- The loop over the primaries of a factor takes a turn and goes on with it. -/
theorem factorLoop_succ (x : Rule Int) (fuel : Nat) (m : Int) :
    factorLoop k x (fuel + 1) m =
      factorTurn k x m >>= Turn.andThen (factorLoop k x fuel) := by
  simp only [factorLoop, factorTurn, bind_assoc, Rule.branch_bind, pure_bind, Turn.andThen_again,
    Turn.andThen_leave]
  rfl

/-- The loop over the factors of a term takes a turn and goes on with it. -/
theorem termLoop_succ (x : Rule Int) (fuel : Nat) (m : Int) :
    termLoop k x (fuel + 1) m =
      termTurn k (Calculator.factor k x) m >>= Turn.andThen (termLoop k x fuel) := by
  simp only [termLoop, termTurn, bind_assoc, Rule.branch_bind, pure_bind, Turn.andThen_again,
    Turn.andThen_leave]
  rfl

/-- The arguments of a call, after those that have been read. -/
def moreArguments (k : Calculator) (x : Rule Int) (name : String) (args : List Int) :
    Rule (List Int) := do
  let others ← arguments k x name (maxArguments - args.length)
  pure (args ++ others)

/-- The loop over the arguments of a call takes a turn and goes on with it. -/
theorem moreArguments_eq (x : Rule Int) (name : String) (args : List Int) :
    moreArguments k x name args =
      argumentsTurn k (Calculator.term k x) name args >>=
        Turn.andThen (moreArguments k x name) := by
  have hcut : ∀ {α : Type} (f : α → Rule (List Int)),
      (k.complain (.tooManyArguments name) : Rule α) >>= f = k.complain (.tooManyArguments name) :=
    fun f => Rule.complain_bind k.setting _ f
  by_cases hfull : maxArguments ≤ args.length
  · have hroom : maxArguments - args.length = 0 := by omega
    simp only [moreArguments, hroom, arguments, argumentsTurn, if_pos hfull, bind_assoc,
      Rule.branch_bind, pure_bind, Turn.andThen_leave, List.append_nil, monadLift_self, hcut]
  · obtain ⟨room, hroom⟩ : ∃ room, maxArguments - args.length = room + 1 :=
      ⟨maxArguments - args.length - 1, by omega⟩
    have hnext : ∀ m : Int, maxArguments - (args ++ [m]).length = room := by
      intro m
      rw [List.length_append, List.length_singleton]
      omega
    simp only [moreArguments, hroom, arguments, argumentsTurn, if_neg hfull, bind_assoc,
      Rule.branch_bind, pure_bind, Turn.andThen_leave, Turn.andThen_again, List.append_nil, hnext,
      List.append_assoc, List.singleton_append]
    rfl

/-! ## Turns read on -/

/-- Another turn over the primaries of a factor comes after an operator that was read. -/
theorem reads_factorTurn {x y : Rule Int} (nested : Reads line n (fun _ => 1) x y) (m : Int) :
    Reads line n Turn.least (factorTurn k x m) (factorTurn k y m) := by
  have hoperand : Reads line (n - 1) (fun _ => 0) x y :=
    nested.mono (Nat.sub_le n 1) fun _ => Nat.zero_le _
  have hdivided : Reads line (n - 1) (fun turn => Turn.least turn - 1)
      (x >>= fun d => if d = 0 then
          (k.complain .divisionByZero : Rule PUnit) >>= fun _ => pure (.again (truncDiv m d))
        else pure (.again (truncDiv m d)))
      (y >>= fun d => if d = 0 then
          (k.complain .divisionByZero : Rule PUnit) >>= fun _ => pure (.again (truncDiv m d))
        else pure (.again (truncDiv m d) : Turn Int Int)) := by
    refine hoperand.bind_zero fun d => .branch (fun _ => ?_) fun _ => .pure _ rfl
    exact (reads_complain _ fun _ => 0).bind_zero fun _ => .pure _ rfl
  refine .probe (reads_mark (by decide)) (hoperand.bind_zero fun d => .pure _ rfl) ?_
  refine .probe (reads_mark (by decide)) hdivided ?_
  exact .probe (reads_probe (probes_obelus k)) hdivided (.pure _ rfl)

/-- Another turn over the factors of a term comes after an operator that was read. -/
theorem reads_termTurn {x y : Rule Int} (operand : Reads line n (fun _ => 1) x y) (m : Int) :
    Reads line n Turn.least (termTurn k x m) (termTurn k y m) := by
  have hoperand : Reads line (n - 1) (fun _ => 0) x y :=
    operand.mono (Nat.sub_le n 1) fun _ => Nat.zero_le _
  refine .probe (reads_mark (by decide)) (hoperand.bind_zero fun d => .pure _ rfl) ?_
  exact .probe (reads_mark (by decide)) (hoperand.bind_zero fun d => .pure _ rfl) (.pure _ rfl)

/-- Without a comma, and away from the end of the line, it is the argument that is read. -/
theorem reads_argumentsTurn {x y : Rule Int} (operand : Reads line n (fun _ => 1) x y)
    (name : String) (args : List Int) :
    Reads line n Turn.least (argumentsTurn k x name args) (argumentsTurn k y name args) := by
  refine .probe (reads_mark (by decide)) (.pure _ rfl) ?_
  refine .branch (fun _ => reads_complain _ _) fun _ => ?_
  refine operand.bind fun m => ?_
  have hcomma : Reads line (n - 1) (fun _ => 0) (k.acceptChar ',') (k.acceptChar ',') :=
    (reads_mark (by decide)).mono (Nat.le_refl _) fun _ => Nat.zero_le _
  refine hcomma.bind_zero fun comma => .branch (fun _ => ?_) fun _ => .pure _ rfl
  refine reads_endOfLine.bind_zero fun ended => .branch (fun _ => ?_) fun _ => .pure _ rfl
  exact (reads_complain _ fun _ => 0).bind_zero fun _ => .pure _ rfl

/-! ## The rules by descent -/

section

variable {x y : Rule Int} (nested : Reads line n (fun _ => 1) x y)
  (stall : {α : Type} → Rule α)

/-- The number of rounds is more than the characters that are left. -/
theorem reads_rounds {least : α → Nat} {f : Nat → Rule α} {g : Rule α}
    (h : ∀ m ≤ n, m ≤ line.length + 1 → Reads line m least (f (line.length + 1)) g) :
    Reads line n least (rounds >>= f) g := by
  intro s hs hunread
  have hsum := hs.cursor_add_unread
  have hlow := hs.cursor_nonneg
  have hrounds : (rounds >>= f) s = f (line.length + 1) s := by
    rw [← hs.line_eq]
    rfl
  rw [hrounds]
  exact h (s.unread + 1) (by omega) (by omega) s hs (by omega)

include nested

/-- A factor reads a character, and its descent does the same. -/
theorem reads_factor :
    Reads line n (fun _ => 1) (Calculator.factor k x) (Descent.factor stall k y) := by
  refine nested.bind fun m => reads_rounds fun i hi hlength => ?_
  refine .loop (factorLoop k x) (fun m => ?_) (factorLoop_succ x) hlength m
  exact (reads_factorTurn nested m).mono (by omega) fun _ => Nat.le_refl _

/-- A term reads a character, and its descent does the same. -/
theorem reads_term :
    Reads line n (fun _ => 1) (Calculator.term k x) (Descent.term stall k y) := by
  have hfactor := reads_factor (k := k) nested stall
  refine hfactor.bind fun m => reads_rounds fun i hi hlength => ?_
  refine .loop (termLoop k x) (fun m => ?_) (termLoop_succ x) hlength m
  exact (reads_termTurn hfactor m).mono (by omega) fun _ => Nat.le_refl _

/-- A call does the same as its descent. -/
theorem reads_call (name : String) :
    Reads line n (fun _ => 0) (Calculator.call k x name) (Descent.call stall k y name) := by
  have hterm := reads_term (k := k) nested stall
  have harguments : Reads line n (fun _ => 0) (arguments k x name maxArguments)
      (Rule.takeTurns stall (argumentsTurn k (Descent.term stall k y) name) []) := by
    have hmore : moreArguments k x name [] = arguments k x name maxArguments :=
      bind_pure (arguments k x name maxArguments)
    rw [← hmore]
    exact .loop (fun _ => moreArguments k x name) (reads_argumentsTurn hterm name)
      (fun _ => moreArguments_eq x name) (Nat.le_refl n) []
  unfold Calculator.call Descent.call
  cases k.functions.get? name with
  | none => exact reads_complain _ _
  | some function =>
    refine harguments.bind_zero fun args => .branch (fun _ => ?_) fun _ => reads_apply function args
    exact (reads_complain _ fun _ => 0).bind_zero fun _ => reads_apply function args

/-- A primary reads a character before what is nested in it. -/
theorem reads_primaryWith : Reads line (n + 1) (fun _ => 1) (Calculator.primaryWith k x)
    (Descent.primaryWith stall k y) := by
  have hnested : Reads line n (fun _ => 0) x y := nested.mono (Nat.le_refl n) fun _ => Nat.zero_le _
  have hterm : Reads line n (fun _ => 0) (Calculator.term k x) (Descent.term stall k y) :=
    (reads_term nested stall).mono (Nat.le_refl n) fun _ => Nat.zero_le _
  refine .probe reads_ident ?_ ?_
  · refine reads_scannedText.bind_zero fun name => ?_
    refine .probe (reads_mark (by decide)) ?_ (reads_variableValue name)
    exact (reads_call nested stall name).mono (Nat.sub_le n 1) fun _ => Nat.le_refl _
  refine .probe (reads_mark (by decide)) ?_ ?_
  · refine hterm.bind_zero fun m => ?_
    exact (reads_expect (reads_mark (by decide))).bind_zero fun _ => .pure m rfl
  refine .probe (reads_mark (by decide)) (hnested.bind_zero fun m => .pure (-m) rfl) ?_
  refine .probe (reads_mark (by decide)) hnested ?_
  refine .probe reads_int reads_scannedInt ?_
  exact reads_errorColumn.bind_zero fun column => reads_complainAt _ _ _

end

/-- A primary is read by descent, however deep it may be. -/
theorem reads_primary (stall : {α : Type} → Rule α) (depth : Nat) {nesting : Int}
    (h : (k.maxDepth - nesting).toNat = depth) (n : Nat) :
    Reads line n (fun _ => 1) (k.primary depth) (Descent.primary stall k nesting) := by
  induction depth generalizing nesting n with
  | zero =>
    intro s hs hunread
    rw [Descent.primary, if_pos (by omega)]
    exact ⟨rfl, fun a t hok => absurd hok (complain_ne_ok _ s a t)⟩
  | succ depth ih =>
    intro s hs hunread
    rw [Descent.primary, if_neg (by omega)]
    -- what is nested is only compared beyond `s`
    refine reads_primaryWith (n := s.unread) (fun t ht hless => ?_) stall s hs (Nat.lt_succ_self _)
    rw [if_pos hless]
    exact ih (by omega) s.unread t ht hless

/-- A whole expression does the same as its descent. -/
theorem reads_expr (stall : {α : Type} → Rule α) (n : Nat) :
    Reads line n (fun _ => 0) k.expr (Descent.expr stall k) := by
  have hprimary : Reads line n (fun _ => 1) (k.primary k.maxDepth.toNat)
      (Descent.primary stall k 0) := reads_primary stall _ (by rw [Int.sub_zero]) n
  have hterm := (reads_term (k := k) hprimary stall).mono (Nat.le_refl n) fun _ => Nat.zero_le 1
  refine hterm.bind_zero fun m => ?_
  exact (reads_expect reads_end).bind_zero fun _ => .pure m rfl

/-- A primary that may open any number of primaries reads on; what it is compared with is left
open. -/
theorem exists_reads_primary (k : Calculator) (line : Line) (depth : Nat) :
    ∃ y, ∀ n, Reads line n (fun _ => 1) (k.primary depth) y :=
  have hnesting : (k.maxDepth - (k.maxDepth - depth)).toNat = depth := by omega
  ⟨_, reads_primary (fun {_} => k.complain .tooDeep) depth hnesting⟩

/-! ## Lines -/

/-- Reading a line is a recursion on the text that is left. A primary, a factor or a term that is
read moves the cursor on; so does each turn of a loop, unless it raises an error or leaves the loop.
A nested primary starts further on than the one that it is nested in: whatever would be done for one
that does not, it makes no difference. So a line is evaluated as by descent, whatever would be done
where the descent stalls. -/
theorem evaluate_by_descent (k : Calculator) (line : Line) :
    (∀ depth, Advances line (k.primary depth) ∧
      Advances line (factor k (k.primary depth)) ∧
      Advances line (term k (k.primary depth))) ∧
    (∀ depth, (∀ n, Strides line (factorTurn k (k.primary depth) n)) ∧
      (∀ n, Strides line (termTurn k (factor k (k.primary depth)) n)) ∧
      ∀ name args, Strides line (argumentsTurn k (term k (k.primary depth)) name args)) ∧
    (∀ depth (stall : Rule Int) (s : Scanner), s.On line →
      k.primary (depth + 1) s = primaryWith k (Rule.beyond s stall (k.primary depth)) s) ∧
    ∀ (stall : {α : Type} → Rule α) (s : Scanner),
      k.evaluate line s = Rule.parse line (Descent.expr stall k) s := by
  -- what a descent does where it makes no progress; it never comes to that
  let stuck : {α : Type} → Rule α := fun {_} => k.complain .tooDeep
  refine ⟨fun depth => ?_, fun depth => ?_, fun depth stall s hs => ?_, fun stall s => ?_⟩
  · obtain ⟨y, hprimary⟩ := exists_reads_primary k line depth
    exact ⟨.of_reads hprimary, .of_reads fun n => reads_factor (hprimary n) stuck,
      .of_reads fun n => reads_term (hprimary n) stuck⟩
  · obtain ⟨y, hprimary⟩ := exists_reads_primary k line depth
    have hfactor := fun n => reads_factor (k := k) (hprimary n) stuck
    have hterm := fun n => reads_term (k := k) (hprimary n) stuck
    exact ⟨fun m => .of_reads fun n => reads_factorTurn (hprimary n) m,
      fun m => .of_reads fun n => reads_termTurn (hfactor n) m,
      fun name args => .of_reads fun n => reads_argumentsTurn (hterm n) name args⟩
  · obtain ⟨y, hprimary⟩ := exists_reads_primary k line depth
    have hleft := reads_primaryWith (k := k) (hprimary s.unread) stuck s hs (Nat.lt_succ_self _)
    have hright := reads_primaryWith (k := k) ((hprimary s.unread).beyond hs stall) stuck s hs
      (Nat.lt_succ_self _)
    exact hleft.1.trans hright.1.symm
  · have hon : (s.startLine line).On line := (stands_startLine s line).on.1
    have hexpr := reads_expr (k := k) stall _ (s.startLine line) hon (Nat.lt_succ_self _)
    exact Rule.parse_congr hexpr.1

/-- A product with a parenthesis is read from the start of its line, and the cursor moves on. -/
theorem evaluate_by_descent_product :
    (Scanner.startLine {} "2*(3)".toList).On "2*(3)".toList ∧
    ∃ t : Scanner, factor ({} : Calculator) (Calculator.primary {} 100)
        (Scanner.startLine {} "2*(3)".toList) = .ok 6 t ∧ 0 < t.state.cursor := by
  have hstart : (Scanner.startLine {} "2*(3)".toList).On "2*(3)".toList :=
    (stands_startLine {} "2*(3)".toList).on.1
  have hanswer : (Rule.outcome (factor ({} : Calculator) (Calculator.primary {} 100)
      (Scanner.startLine {} "2*(3)".toList))).toOption = some 6 := by decide +kernel
  have hfactor := ((evaluate_by_descent {} "2*(3)".toList).1 100).2.1
  cases hresult : factor ({} : Calculator) (Calculator.primary {} 100)
      (Scanner.startLine {} "2*(3)".toList) with
  | error e t =>
    rw [hresult] at hanswer
    cases hanswer
  | ok n t =>
    rw [hresult] at hanswer
    cases hanswer
    exact ⟨hstart, t, rfl, (hfactor _ _ t hstart hresult).2⟩

end Calculator

end LineScan
