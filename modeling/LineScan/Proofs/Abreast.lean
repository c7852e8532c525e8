import LineScan.Proofs.Evaluator
import LineScan.Proofs.Lockstep

/-!
# Two calculators, rule by rule

Two calculators with the same functions read a line by the same rules, perhaps with other limits, or
on more than a scanner. What is to be shown of the two is often a relation between a rule of the one
and the same rule of the other. If the relation is kept when rules are put together, and the parts
of the grammar have it, then all rules have it: the grammar is gone through once for all such
relations.

## Main statements

* `Abreast.term`, `Abreast.primaryWith`: the rules have the relation if the rules for the primaries
  nested in them have it.
* `Abreast.primary`, `Abreast.expr`: so have primaries of the same depth, and whole expressions.
* `Elements.abreast`: for rules on a scanner it is enough to look at attempts and functions.
* `KeptByDraws.lockstep_apply`: functions go in lockstep from equally many random numbers on.
-/

namespace LineScan

namespace Calculator

section

variable {σ τ : Type} [MonadLiftT Rule (EStateM Failure σ)] [MonadLiftT Rule (EStateM Failure τ)]

/-- A relation is kept when computations are put together, and the parts of the grammar have it, for
one calculator beside the other. -/
structure Abreast (k k' : Calculator)
    (Φ : {α : Type} → EStateM Failure σ α → EStateM Failure τ α → Prop) : Prop where
  functions_eq : k'.functions = k.functions
  pure : ∀ {α : Type} (a : α), Φ (pure a) (pure a)
  bind : ∀ {α β : Type} {x : EStateM Failure σ α} {y : EStateM Failure τ α}
    {f : α → EStateM Failure σ β} {g : α → EStateM Failure τ β},
    Φ x y → (∀ a, Φ (f a) (g a)) → Φ (x >>= f) (y >>= g)
  rounds : Φ (liftM rounds) (liftM rounds)
  accept : ∀ {target : Target}, Sought k target →
    Φ (liftM (Rule.acceptTarget k.setting target)) (liftM (Rule.acceptTarget k'.setting target))
  ident : Φ (liftM (Rule.acceptTarget k.setting (.terminal identTerminal)))
    (liftM (Rule.acceptTarget k'.setting (.terminal identTerminal)))
  /-- Each calculator has a bound of its own on integers. -/
  int : Φ (liftM (Rule.acceptTarget k.setting (.terminal (intTerminal k.maxInt))))
    (liftM (Rule.acceptTarget k'.setting (.terminal (intTerminal k'.maxInt))))
  expect : ∀ {target : Target}, Sought k target →
    Φ (liftM (Rule.expectTarget k.setting target none))
      (liftM (Rule.expectTarget k'.setting target none))
  scannedText : Φ (liftM scannedText) (liftM scannedText)
  scannedInt : Φ (liftM scannedInt) (liftM scannedInt)
  syntaxError : Φ
    (liftM errorColumn >>= fun column =>
      liftM (k.complainAt column (.syntaxError column) : Rule Int))
    (liftM errorColumn >>= fun column =>
      liftM (k'.complainAt column (.syntaxError column) : Rule Int))
  value : ∀ name : String, Φ (liftM (k.variableValue name)) (liftM (k'.variableValue name))
  apply : ∀ {name : String} {function : Builtin} {args : List Int},
    k.functions.get? name = some function → Applicable name args →
    Φ (liftM (function.apply k.source args)) (liftM (function.apply k'.source args))
  /-- Nothing comes after a complaint. -/
  complain_bind : ∀ {α β : Type} (c : Complaint) (f : α → EStateM Failure σ β)
    (g : α → EStateM Failure τ β),
    Φ (liftM (k.complain c : Rule α) >>= f) (liftM (k'.complain c : Rule α) >>= g)

namespace Abreast

variable {k k' : Calculator} {Φ : {α : Type} → EStateM Failure σ α → EStateM Failure τ α → Prop}

omit [MonadLiftT Rule (EStateM Failure σ)] [MonadLiftT Rule (EStateM Failure τ)] in
/-- Two branches on the same condition are related if both sides are. -/
theorem branch {α : Type} {c : Prop} [Decidable c] {x x' : EStateM Failure σ α}
    {y y' : EStateM Failure τ α} (yes : c → Φ x y) (no : ¬ c → Φ x' y') :
    Φ (if c then x else x') (if c then y else y') := by
  split
  · next h => exact yes h
  · next h => exact no h

variable (abreast : Abreast k k' Φ)

include abreast

/-- Trying a mark is related, for it is an attempt at a character. -/
theorem mark {c : Char} (h : c ∈ marks) :
    Φ (liftM (k.acceptChar c)) (liftM (k'.acceptChar c)) :=
  abreast.accept (.mark h)

/-- The same complaint is related to itself. -/
theorem complain {α : Type} (c : Complaint) :
    Φ (liftM (k.complain c : Rule α)) (liftM (k'.complain c : Rule α)) := by
  have hbind := abreast.complain_bind (α := α) c Pure.pure Pure.pure
  rwa [bind_pure, bind_pure] at hbind

variable {x : EStateM Failure σ Int} {y : EStateM Failure τ Int} (nested : Φ x y)

include nested

/-- What follows the first primary of a product is related, turn by turn, if the primaries are. -/
theorem factorLoop (fuel : Nat) (n : Int) : Φ (factorLoop k x fuel n) (factorLoop k' y fuel n) := by
  induction fuel generalizing n with
  | zero => exact abreast.pure n
  | succ fuel ih =>
    refine abreast.bind (abreast.mark (by decide)) fun times => branch (fun _ => ?_) fun _ => ?_
    · exact abreast.bind nested fun d => ih _
    · refine abreast.bind (abreast.mark (by decide)) fun slash => branch
        (fun _ => abreast.bind (abreast.pure true) fun divide => ?_)
        (fun _ => abreast.bind (abreast.accept .obelus) fun divide => ?_)
      all_goals
        refine branch (fun _ => abreast.bind nested fun d => ?_) fun _ => abreast.pure n
        exact branch (fun _ => abreast.complain_bind _ _ _) fun _ => ih _

/-- Products are related if the primaries in them are. -/
theorem factor : Φ (factor k x) (factor k' y) :=
  abreast.bind nested fun n => abreast.bind abreast.rounds fun fuel =>
    abreast.factorLoop nested fuel n

/-- What follows the first product of a sum is related, turn by turn, if the primaries are. -/
theorem termLoop (fuel : Nat) (n : Int) : Φ (termLoop k x fuel n) (termLoop k' y fuel n) := by
  induction fuel generalizing n with
  | zero => exact abreast.pure n
  | succ fuel ih =>
    refine abreast.bind (abreast.mark (by decide)) fun plus => branch (fun _ => ?_) fun _ => ?_
    · exact abreast.bind (abreast.factor nested) fun d => ih _
    · refine abreast.bind (abreast.mark (by decide)) fun minus => branch (fun _ => ?_) fun _ => ?_
      · exact abreast.bind (abreast.factor nested) fun d => ih _
      · exact abreast.pure n

/-- Sums are related if the primaries in them are. -/
theorem term : Φ (term k x) (term k' y) :=
  abreast.bind (abreast.factor nested) fun n => abreast.bind abreast.rounds fun fuel =>
    abreast.termLoop nested fuel n

/-- The arguments of a call are related if the sums they start from are. -/
theorem arguments (name : String) (room : Nat) :
    Φ (arguments k x name room) (arguments k' y name room) := by
  induction room with
  | zero =>
    exact abreast.bind (abreast.mark (by decide)) fun closed =>
      branch (fun _ => abreast.pure []) fun _ => abreast.complain _
  | succ room ih =>
    refine abreast.bind (abreast.mark (by decide)) fun closed =>
      branch (fun _ => abreast.pure []) fun _ => ?_
    refine abreast.bind (abreast.term nested) fun first => ?_
    have others : Φ
        (do let others ← Calculator.arguments k x name room; Pure.pure (first :: others))
        (do let others ← Calculator.arguments k' y name room; Pure.pure (first :: others)) :=
      abreast.bind ih fun others => abreast.pure _
    refine abreast.bind (abreast.mark (by decide)) fun comma => branch (fun _ => ?_) fun _ => others
    refine abreast.bind (abreast.accept .endOfLine) fun ended => branch (fun _ => ?_)
      fun _ => others
    exact abreast.complain_bind _ _ _

/-- A call is related, its function included, if its arguments are. -/
theorem call (name : String) : Φ (call k x name) (call k' y name) := by
  unfold Calculator.call
  rw [abreast.functions_eq]
  cases hfunction : k.functions.get? name with
  | none => exact abreast.complain _
  | some function =>
    refine abreast.bind (abreast.arguments nested name _) fun args => branch (fun _ => ?_)
      fun hlacks => ?_
    · exact abreast.complain_bind _ _ _
    · exact abreast.apply hfunction (applicable_of_not_lacking hlacks)

/-- A primary has the relation if the primaries nested in it have it. -/
theorem primaryWith : Φ (primaryWith k x) (primaryWith k' y) := by
  refine abreast.bind abreast.ident fun named => branch (fun _ => ?_) fun _ => ?_
  · refine abreast.bind abreast.scannedText fun name => ?_
    refine abreast.bind (abreast.mark (by decide)) fun called => branch (fun _ => ?_) fun _ => ?_
    · exact abreast.call nested name
    · exact abreast.value name
  refine abreast.bind (abreast.mark (by decide)) fun opened => branch (fun _ => ?_) fun _ => ?_
  · refine abreast.bind (abreast.term nested) fun n => ?_
    exact abreast.bind (abreast.expect (.mark (by decide))) fun _ => abreast.pure n
  refine abreast.bind (abreast.mark (by decide)) fun minus => branch (fun _ => ?_) fun _ => ?_
  · exact abreast.bind nested fun n => abreast.pure (-n)
  refine abreast.bind (abreast.mark (by decide)) fun plus => branch (fun _ => nested) fun _ => ?_
  refine abreast.bind abreast.int fun written => branch (fun _ => ?_) fun _ => ?_
  · exact abreast.scannedInt
  · exact abreast.syntaxError

end Abreast

end

namespace Abreast

variable {k k' : Calculator} {Φ : {α : Type} → Rule α → Rule α → Prop} (abreast : Abreast k k' Φ)

include abreast

/-- Primaries of the same depth are related, by induction on the depth. -/
theorem primary (depth : Nat) : Φ (k.primary depth) (k'.primary depth) := by
  induction depth with
  | zero => exact abreast.complain .tooDeep
  | succ depth ih => exact abreast.primaryWith ih

/-- Whole expressions are related if the primaries of the greatest depth are. -/
theorem expr (nested : Φ (k.primary k.maxDepth.toNat) (k'.primary k'.maxDepth.toNat)) :
    Φ k.expr k'.expr :=
  abreast.bind (abreast.term nested) fun n =>
    abreast.bind (abreast.expect .last) fun _ => abreast.pure n

end Abreast

/-! ## Rules on a scanner

Most parts of the grammar only look at the scan state and then give a value or complain. -/

/-- A relation of rules is kept when rules are put together or look at the scan state, and what may
tell two calculators apart has it: an attempt, and a function that is applied. -/
structure Elements (k k' : Calculator) (Φ : {α : Type} → Rule α → Rule α → Prop) : Prop where
  env_eq : k'.env = k.env
  functions_eq : k'.functions = k.functions
  pure : ∀ {α : Type} (a : α), Φ (pure a) (pure a)
  bind : ∀ {α β : Type} {x y : Rule α} {f g : α → Rule β}, Φ x y → (∀ a, Φ (f a) (g a)) →
    Φ (x >>= f) (y >>= g)
  look_bind : ∀ {α : Type} {f g : ScanState → Rule α}, (∀ state, Φ (f state) (g state)) →
    Φ (get >>= fun s => f s.state) (get >>= fun s => g s.state)
  fault : ∀ {α : Type} (f : Fault), Φ (Rule.fault f : Rule α) (Rule.fault f)
  complain : ∀ {α : Type} (c : Complaint), Φ (k.complain c : Rule α) (k'.complain c)
  accept : ∀ {target : Target}, Sought k target →
    Φ (Rule.acceptTarget k.setting target) (Rule.acceptTarget k'.setting target)
  ident : Φ (Rule.acceptTarget k.setting (.terminal identTerminal))
    (Rule.acceptTarget k'.setting (.terminal identTerminal))
  int : Φ (Rule.acceptTarget k.setting (.terminal (intTerminal k.maxInt)))
    (Rule.acceptTarget k'.setting (.terminal (intTerminal k'.maxInt)))
  apply : ∀ (function : Builtin) (args : List Int),
    Φ (function.apply k.source args) (function.apply k'.source args)

namespace Elements

variable {k k' : Calculator} {Φ : {α : Type} → Rule α → Rule α → Prop}
  (elements : Elements k k' Φ)

include elements

/-- A complaint about a column looks at the line first. -/
theorem complainAt {α : Type} (column : Int) (c : Complaint) :
    Φ (k.complainAt column c : Rule α) (k'.complainAt column c) := by
  rw [Calculator.complainAt, Calculator.complainAt, Rule.complainAt_eq, Rule.complainAt_eq]
  refine elements.look_bind (f := fun state => if state.line.Writes column then k.complain c
      else Rule.fault (.oversize .writing))
    (g := fun state => if state.line.Writes column then k'.complain c
      else Rule.fault (.oversize .writing)) fun state => ?_
  exact Abreast.branch (fun _ => elements.complain c) fun _ => elements.fault _

/-- Requiring a target is related if trying it is. -/
theorem expect {target : Target} (h : Sought k target) :
    Φ (Rule.expectTarget k.setting target none) (Rule.expectTarget k'.setting target none) := by
  have hrefused : ∀ state : ScanState,
      Φ (k.complainAt state.errorColumn (.expected target.label state.errorColumn) : Rule Unit)
        (k'.complainAt state.errorColumn (.expected target.label state.errorColumn)) :=
    fun state => elements.complainAt _ _
  exact elements.bind (elements.accept h) fun found =>
    Abreast.branch (fun _ => elements.pure ()) fun _ => elements.look_bind hrefused

/-- A rule goes with itself if all that it does is to look at the scan state. -/
theorem looks {α : Type} {rule : Rule α}
    (h : ∀ state, ∃ a, ∀ s : Scanner, s.state = state → rule s = .ok a s) : Φ rule rule := by
  have heq : rule = get >>= fun s => Pure.pure (h s.state).choose :=
    funext fun s => (h s.state).choose_spec s rfl
  rw [heq]
  exact elements.look_bind fun state => elements.pure (h state).choose

/-- Both calculators take the text of the last match from their scan state. -/
theorem scannedText : Φ scannedText scannedText := by
  refine elements.looks fun state => ?_
  cases hvalue : state.value with
  | text word =>
    refine ⟨word, fun s hs => ?_⟩
    simp only [Calculator.scannedText, bind_apply, get_apply, hs, hvalue, pure_apply]
  | _ =>
    refine ⟨"", fun s hs => ?_⟩
    simp only [Calculator.scannedText, bind_apply, get_apply, hs, hvalue, pure_apply]

/-- Both calculators take the value of the last match from their scan state. -/
theorem scannedInt : Φ scannedInt scannedInt := by
  refine elements.looks fun state => ?_
  cases hvalue : state.value with
  | int n =>
    refine ⟨n, fun s hs => ?_⟩
    simp only [Calculator.scannedInt, bind_apply, get_apply, hs, hvalue, pure_apply]
  | _ =>
    refine ⟨0, fun s hs => ?_⟩
    simp only [Calculator.scannedInt, bind_apply, get_apply, hs, hvalue, pure_apply]

/-- The values of a variable are related, whether it is there or not. -/
theorem value (name : String) : Φ (k.variableValue name) (k'.variableValue name) := by
  unfold Calculator.variableValue
  rw [elements.env_eq]
  cases k.env.get? name with
  | none => exact elements.complain _
  | some text =>
    cases h : Fault.ofOversize (Decimal.leadingInteger text.toList) with
    | ok n =>
      simp only [h]
      exact elements.pure n
    | error f =>
      simp only [h]
      exact elements.fault f

/-- Nothing follows a complaint, so it is related whatever would have followed. -/
theorem complain_bind {α β : Type} (c : Complaint) (f g : α → Rule β) :
    Φ (k.complain c >>= f) (k'.complain c >>= g) := by
  have hcut : ∀ (k : Calculator) (f : α → Rule β), (k.complain c : Rule α) >>= f = k.complain c :=
    fun k => Rule.complain_bind k.setting c
  rw [hcut, hcut]
  exact elements.complain c

/-- Rules on a scanner have the relation if attempts and functions do. -/
theorem abreast : Abreast k k' Φ where
  functions_eq := elements.functions_eq
  pure := elements.pure
  bind := elements.bind
  rounds := elements.look_bind fun state => elements.pure (state.line.length + 1)
  accept := elements.accept
  ident := elements.ident
  int := elements.int
  expect := elements.expect
  scannedText := elements.scannedText
  scannedInt := elements.scannedInt
  syntaxError := elements.bind
    (elements.look_bind fun state => elements.pure state.errorColumn)
    fun column => elements.complainAt column _
  value := elements.value
  apply _ _ := elements.apply _ _
  complain_bind := elements.complain_bind

end Elements

/-! ## Functions -/

/-- Related scanners have drawn equally many random numbers, and drawing one more keeps them
related. -/
structure KeptByDraws (R : Scanner → Scanner → Prop) : Prop where
  draws_eq : ∀ {s t : Scanner}, R s t → s.journal.draws = t.journal.draws
  draw : ∀ {s t : Scanner} (n : Nat), R s t →
    R { s with journal := { s.journal with draws := n } }
      { t with journal := { t.journal with draws := n } }
  notice : ∀ {s t : Scanner}, R s t →
    R { s with toBench := s.toBench.enter (.notice randomNotice) }
      { t with toBench := t.toBench.enter (.notice randomNotice) }

namespace KeptByDraws

variable {R : Scanner → Scanner → Prop} (kept : KeptByDraws R)

include kept

/-- Drawing a random number keeps the relation, and both draw the same one. -/
theorem lockstep_drawRandom (source : RandomSource) (limit : Int) :
    Lockstep R (drawRandom source limit) (drawRandom source limit) (fun _ => R) fun _ => R := by
  intro s t h
  have hnext := kept.draw (s.journal.draws + 1) h
  simp only [drawRandom, bind_apply, get_apply, modify_apply]
  rw [← kept.draws_eq h]
  cases source.draw s.journal.draws limit with
  | ok n => exact .ok hnext
  | error f => exact .error hnext

/-- Functions give the same on related scanners. -/
theorem lockstep_apply (source : RandomSource) (function : Builtin) (args : List Int) :
    Lockstep R (function.apply source args) (function.apply source args) (fun _ => R)
      fun _ => R := by
  cases function with
  | total f => exact fun s t h => .ok h
  | least =>
    rw [Builtin.apply]
    cases leastOf args with
    | none => exact fun s t h => .error h
    | some n => exact fun s t h => .ok h
  | greatest =>
    rw [Builtin.apply]
    cases greatestOf args with
    | none => exact fun s t h => .error h
    | some n => exact fun s t h => .ok h
  | random limit =>
    have hdraw := kept.lockstep_drawRandom source limit
    cases args with
    | nil => exact hdraw
    | cons n others => exact fun s t h => hdraw _ _ (kept.notice h)

end KeptByDraws

end Calculator

end LineScan
