import LineScan.Proofs.Scanning
import LineScan.Scanner.Call

/-!
# Runs in lockstep

Two computations, perhaps on states of different kinds, are compared step by step. They go in
*lockstep* when related states lead both of them to the same answer, or both to the same failure,
and the states that they leave behind are related again. This is lifted through each way of putting
computations together, so that two programs of the same shape go in lockstep when their parts do.

## Main statements

* `Lockstep.bind`: programs go in lockstep when their first parts do, and what comes after does.
* `Lockstep.ite`: so do programs that branch on what is known to be the same.
-/

namespace LineScan

variable {ε σ τ α β : Type}

/-- Two results are in step: both are the same answer, or both are the same failure. -/
inductive InStep (Q : α → σ → τ → Prop) (E : ε → σ → τ → Prop) :
    EStateM.Result ε σ α → EStateM.Result ε τ α → Prop where
  | ok {a : α} {s : σ} {t : τ} (post : Q a s t) : InStep Q E (.ok a s) (.ok a t)
  | error {e : ε} {s : σ} {t : τ} (post : E e s t) : InStep Q E (.error e s) (.error e t)

/-- Two computations go in lockstep: from states related by `P` they come to results that are in
step. -/
def Lockstep (P : σ → τ → Prop) (x : EStateM ε σ α) (y : EStateM ε τ α) (Q : α → σ → τ → Prop)
    (E : ε → σ → τ → Prop) : Prop :=
  ∀ s t, P s t → InStep Q E (x s) (y t)

/-- Results that are in step are so for weaker relations. -/
theorem InStep.imp {Q Q' : α → σ → τ → Prop} {E E' : ε → σ → τ → Prop}
    {r : EStateM.Result ε σ α} {r' : EStateM.Result ε τ α} (h : InStep Q E r r')
    (hok : ∀ a s t, Q a s t → Q' a s t) (herror : ∀ e s t, E e s t → E' e s t) :
    InStep Q' E' r r' := by
  cases h with
  | ok post => exact .ok (hok _ _ _ post)
  | error post => exact .error (herror _ _ _ post)

/-- Results that are in step give the same. -/
theorem InStep.answer_eq {Q : α → σ → τ → Prop} {E : ε → σ → τ → Prop}
    {r : EStateM.Result ε σ α} {r' : EStateM.Result ε τ α} (h : InStep Q E r r') :
    Result.answer r = Result.answer r' := by
  cases h <;> rfl

/-- Results that are in step leave related states. -/
theorem InStep.state {R : σ → τ → Prop} {E : ε → σ → τ → Prop} {r : EStateM.Result ε σ α}
    {r' : EStateM.Result ε τ α} (h : InStep (fun _ => R) E r r')
    (herror : ∀ e s t, E e s t → R s t) : R (Result.state r) (Result.state r') := by
  cases h with
  | ok post => exact post
  | error post => exact herror _ _ _ post

namespace Lockstep

variable {P : σ → τ → Prop} {Q : α → σ → τ → Prop} {R : β → σ → τ → Prop} {E : ε → σ → τ → Prop}
  {x x' : EStateM ε σ α} {y y' : EStateM ε τ α}

/-- The same answer is in lockstep. -/
theorem pure {a : α} (h : ∀ s t, P s t → Q a s t) : Lockstep P (pure a) (pure a) Q E :=
  fun s t hp => .ok (h s t hp)

/-- The same failure is in lockstep. -/
theorem throw {e : ε} (h : ∀ s t, P s t → E e s t) :
    Lockstep P (throw e : EStateM ε σ α) (throw e) Q E :=
  fun s t hp => .error (h s t hp)

/-- Changes of state are in lockstep if they keep the states related. -/
theorem modify {R : PUnit → σ → τ → Prop} {f : σ → σ} {g : τ → τ}
    (h : ∀ s t, P s t → R ⟨⟩ (f s) (g t)) :
    Lockstep P (modify f : EStateM ε σ PUnit) (modify g) R E :=
  fun s t hp => .ok (h s t hp)

/-- Programs go in lockstep if their first parts do, and what comes after does for each answer. -/
theorem bind {f : α → EStateM ε σ β} {g : α → EStateM ε τ β} (first : Lockstep P x y Q E)
    (next : ∀ a, Lockstep (Q a) (f a) (g a) R E) : Lockstep P (x >>= f) (y >>= g) R E := by
  intro s t hp
  rw [bind_apply, bind_apply]
  match x s, y t, first s t hp with
  | _, _, .ok post => exact next _ _ _ post
  | _, _, .error post => exact .error post

/-- Programs that look at the state go in lockstep when what they do with it does. -/
theorem get_bind {f : σ → EStateM ε σ α} {g : τ → EStateM ε τ α}
    (next : ∀ s t, P s t → Lockstep P (f s) (g t) Q E) : Lockstep P (get >>= f) (get >>= g) Q E :=
  fun s t hp => next s t hp s t hp

/-- Programs that branch on the same condition go in lockstep if both branches do. -/
theorem ite {c : Prop} [Decidable c] (yes : c → Lockstep P x y Q E)
    (no : ¬ c → Lockstep P x' y' Q E) :
    Lockstep P (if c then x else x') (if c then y else y') Q E := by
  split
  · next h => exact yes h
  · next h => exact no h

/-- Lockstep holds from fewer states, and to weaker relations. -/
theorem imp {P' : σ → τ → Prop} {Q' : α → σ → τ → Prop} {E' : ε → σ → τ → Prop}
    (h : Lockstep P x y Q E) (hpre : ∀ s t, P' s t → P s t) (hpost : ∀ a s t, Q a s t → Q' a s t)
    (herror : ∀ e s t, E e s t → E' e s t) : Lockstep P' x y Q' E' :=
  fun s t hp => (h s t (hpre s t hp)).imp hpost herror

end Lockstep

end LineScan
