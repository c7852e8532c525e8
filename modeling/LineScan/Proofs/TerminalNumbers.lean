import LineScan.Proofs.Registration
import LineScan.Proofs.Spans
import LineScan.Proofs.Tracing
import LineScan.Session.Stock

/-!
# Terminals by number

An application may name a terminal by its id. Ids are the places in the table of the registry, and
the number is looked up there as any other index: a negative one counts from the end. So a number
means the terminal with that id, and is a fault if there is no such terminal, unless it is negative
and there are as many terminals. Then it means one whose id is another number.

## Main statements

* `Place.get_of_neg`, `Place.get_outside`: what an index means that is no place.
* `Rule.accept_of_lookup`, `Rule.accept_of_no_lookup`: an attempt by number is the lookup, and then
  the attempt at the terminal.
* `accept_number`: the numbers that mean the terminal with that id.
-/

namespace LineScan

/-! ## Indices that are no places -/

namespace Place

variable {α : Type} {items : List α} {i : Int}

/-- A negative index counts from the end. -/
theorem get_of_neg (hsize : items.length ≤ maxIndex) (hfrom : -(items.length : Int) ≤ i)
    (hto : i < 0) : get items i = get items (i + items.length) := by
  have hlow : ¬ i + items.length < 0 := by omega
  have hindex : isIndex i = true ∧ isIndex (i + items.length) = true := by
    simp only [isIndex, Bool.and_eq_true, decide_eq_true_eq]
    omega
  have hplace : ofIndex items.length i = ofIndex items.length (i + items.length) := by
    simp only [ofIndex, if_pos hto, if_neg hlow, hindex.1, hindex.2]
  rw [get, get, hplace]

/-- Any other number that is no place leads nowhere. -/
theorem get_outside (h : ¬ (-(items.length : Int) ≤ i ∧ i < items.length)) :
    ∃ cause, get items i = .error cause := by
  have hplace : ¬ (0 ≤ (if i < 0 then i + items.length else i) ∧
      (if i < 0 then i + (items.length : Int) else i) < items.length) := by
    split <;> omega
  have hrefused : ∃ cause, ofIndex items.length i = .error cause := by
    simp only [ofIndex, Bool.and_eq_true, decide_eq_true_eq, if_neg hplace]
    split <;> exact ⟨_, rfl⟩
  obtain ⟨cause, hcause⟩ := hrefused
  exact ⟨cause, by rw [get, hcause]⟩

end Place

/-! ## Looking a number up -/

namespace Registry

/-- The terminals are numbered by their places. -/
def Numbered (r : Registry) : Prop :=
  ∀ (n : Nat) (t : Terminal), r.terminals[n]? = some t → t.id = n

variable {r : Registry} {i : Int}

/-- A terminal is found by its id. -/
theorem Numbered.lookup_id (h : r.Numbered) (hsize : r.size ≤ Place.maxIndex) {t : Terminal}
    (ht : t ∈ r.terminals) : r.lookup t.id = .ok t := by
  obtain ⟨n, hn⟩ := List.mem_iff_getElem?.mp ht
  obtain ⟨hlt, -⟩ := List.getElem?_eq_some_iff.mp hn
  rw [h n t hn]
  exact Place.get_of_getElem? hn (Nat.le_trans (Nat.le_of_lt hlt) hsize)

/-- The terminal of a place has it as its id. -/
theorem Numbered.exists_id (h : r.Numbered) (hfrom : 0 ≤ i) (hto : i < r.size) :
    ∃ t ∈ r.terminals, (t.id : Int) = i := by
  obtain ⟨n, rfl⟩ := Int.eq_ofNat_of_zero_le hfrom
  have hlt : n < r.terminals.length := Int.ofNat_lt.mp hto
  exact ⟨r.terminals[n], List.getElem_mem hlt,
    congrArg Int.ofNat (h n _ (List.getElem?_eq_getElem hlt))⟩

/-- A negative number means a terminal with another id. -/
theorem Numbered.lookup_of_neg (h : r.Numbered) (hsize : r.size ≤ Place.maxIndex)
    (hfrom : -(r.size : Int) ≤ i) (hto : i < 0) :
    ∃ t ∈ r.terminals, (t.id : Int) = i + r.size ∧ r.lookup i = .ok t := by
  obtain ⟨t, ht, hid⟩ := h.exists_id (i := i + r.size) (by omega) (by omega)
  refine ⟨t, ht, hid, ?_⟩
  have hlookup : r.lookup i = r.lookup (i + r.size) := Place.get_of_neg hsize hfrom hto
  rw [hlookup, ← hid, h.lookup_id hsize ht]

end Registry

/-- While table and index are in step, the terminals are numbered by their places. -/
theorem Catalog.Sound.numbered {c : Catalog} (sound : c.Sound) : c.registry.Numbered :=
  sound.id_eq

/-! ## Attempts by number -/

namespace Rule

variable {setting : Setting} {i : Int}

/-- A number that leads to a terminal means it. -/
theorem accept_of_lookup {t : Terminal} (h : setting.registry.lookup i = .ok t) (s : Scanner) :
    accept setting (.bare (.int i)) s = accept setting (.target (.terminal t)) s := by
  have hcoerce : (Wanted.bare (.int i)).coerce setting.registry = .ok (.terminal t) := by
    rw [Wanted.coerce, h]
  rw [accept, accept, Bench.accept_of_coerce setting hcoerce, Bench.accept_of_coerce setting rfl]

/-- A number that leads nowhere is a fault, and nothing has changed. -/
theorem accept_of_no_lookup {cause : Misplaced} (h : setting.registry.lookup i = .error cause)
    (s : Scanner) :
    accept setting (.bare (.int i)) s = .error (.fault (.ofList cause)) s := by
  have hcoerce : (Wanted.bare (.int i)).coerce setting.registry = .error (.ofList cause) := by
    rw [Wanted.coerce, h]
  rw [accept, onBench, Bench.accept_of_fault setting hcoerce]

end Rule

/-- A number means the terminal with that id: looking for it is looking for that terminal, and if
there is no such terminal, it is a fault that leaves everything as it was. -/
structure MeansId (setting : Setting) (i : Int) : Prop where
  own : ∀ t ∈ setting.registry.terminals, (t.id : Int) = i → ∀ s,
    Rule.accept setting (.bare (.int i)) s = Rule.accept setting (.target (.terminal t)) s
  none : (∀ t ∈ setting.registry.terminals, (t.id : Int) ≠ i) → ∀ s, ∃ cause,
    Rule.accept setting (.bare (.int i)) s = .error (.fault (.ofList cause)) s

/-- What looking for a terminal comes to does not depend on the length of the match in progress,
which is cleared before the terminal is called. -/
theorem Rule.accept_terminal_of_length (setting : Setting) (t : Terminal) {s : Scanner} {p : Int}
    (hcursor : setting.Writes s.state.line s.state.cursor)
    (h : s.state.line.skipBlanks s.state.cursor = .ok p) (n : Int) :
    accept setting (.target (.terminal t)) { s with state := { s.state with matchLength := n } } =
      accept setting (.target (.terminal t)) s := by
  have hdispatch : Scan.dispatch (.terminal t) { s.state with matchLength := n } =
      Scan.dispatch (.terminal t) s.state := by
    rw [Scan.dispatch, bind_apply, bind_apply, get_apply, get_apply]
    simp only [Scan.terminal_apply, h, ScanState.cleared]
  have hattempt (s : Scanner) : accept setting (.target (.terminal t)) s =
      onBench setting (Bench.attempt setting (.terminal t)) s := rfl
  rw [hattempt, hattempt]
  simp only [onBench, Bench.attempt_eq, hdispatch, if_pos hcursor]

/-- Looking for a terminal does not leave every scanner as it was. -/
theorem not_forall_unchanged (setting : Setting) (t : Terminal) :
    ¬ ∀ s, ∃ e, Rule.accept setting (.target (.terminal t)) s = .error e s := by
  intro hall
  -- two scanners that differ in that length alone would both have to stay as they are
  let longer : Scanner := { state := { ScanState.start [] with matchLength := 1 } }
  obtain ⟨e, he⟩ := hall {}
  obtain ⟨e', he'⟩ := hall longer
  have hsame : Rule.accept setting (.target (.terminal t)) longer =
      Rule.accept setting (.target (.terminal t)) {} :=
    Rule.accept_terminal_of_length setting t (s := {})
      ((Line.writes_of_within (Int.le_refl 0) (by decide)).inTrace setting) rfl 1
  have hstate : longer = {} := (EStateM.Result.error.inj (he'.symm.trans (hsame.trans he))).2
  exact absurd (congrArg (·.state.matchLength) hstate) (by decide)

section

variable {setting : Setting} {i : Int} (hnumbered : setting.registry.Numbered)
  (hsize : setting.registry.size ≤ Place.maxIndex)

include hnumbered hsize

/-- A negative number within the size means the terminal at the place counted from the end. -/
theorem accept_of_negative (hfrom : -(setting.registry.size : Int) ≤ i) (hto : i < 0) :
    ∃ t ∈ setting.registry.terminals, (t.id : Int) = i + setting.registry.size ∧
      ∀ s, Rule.accept setting (.bare (.int i)) s =
        Rule.accept setting (.target (.terminal t)) s := by
  obtain ⟨t, ht, hid, hlookup⟩ := hnumbered.lookup_of_neg hsize hfrom hto
  exact ⟨t, ht, hid, Rule.accept_of_lookup hlookup⟩

/-- No other number means another terminal, and a number that is no id means none. -/
theorem meansId_of_not_negative (h : ¬ (-(setting.registry.size : Int) ≤ i ∧ i < 0)) :
    MeansId setting i where
  own := by
    rintro t ht rfl
    exact Rule.accept_of_lookup (hnumbered.lookup_id hsize ht)
  none hno s := by
    have houtside : ¬ (-(setting.registry.size : Int) ≤ i ∧ i < setting.registry.size) := by
      rintro ⟨hfrom, hto⟩
      obtain ⟨t, ht, hid⟩ := hnumbered.exists_id (by omega) hto
      exact hno t ht hid
    obtain ⟨cause, hcause⟩ := Place.get_outside houtside
    exact ⟨cause, Rule.accept_of_no_lookup hcause s⟩

/-- A negative number down to the opposite of the number of terminals means a terminal of another
id. -/
theorem not_meansId_of_negative (hfrom : -(setting.registry.size : Int) ≤ i) (hto : i < 0) :
    ¬ MeansId setting i := by
  intro hmeans
  obtain ⟨t, -, -, hsame⟩ := accept_of_negative hnumbered hsize hfrom hto
  have hno : ∀ u ∈ setting.registry.terminals, (u.id : Int) ≠ i := fun u _ => by omega
  refine not_forall_unchanged setting t fun s => ?_
  obtain ⟨cause, hcause⟩ := hmeans.none hno s
  exact ⟨_, (hsame s).symm.trans hcause⟩

end

/-- After any registrations, a number means the terminal with that id, unless it is negative and its
place counts from the end; then it means the terminal there, whose id is another number. -/
theorem accept_number (ops : List Catalog.Operation) (tracing : Bool) (i : Int)
    (hsize : (Catalog.runAll ops {}).2.size ≤ Place.maxIndex) :
    let registry := (Catalog.runAll ops {}).2.registry
    let setting : Setting := { registry, tracing }
    (MeansId setting i ↔ ¬ (-(registry.size : Int) ≤ i ∧ i < 0)) ∧
    (-(registry.size : Int) ≤ i → i < 0 →
      ∃ t ∈ registry.terminals, (t.id : Int) = i + registry.size ∧
        ∀ s, Rule.accept setting (.bare (.int i)) s =
          Rule.accept setting (.target (.terminal t)) s) := by
  intro registry setting
  have hnumbered : setting.registry.Numbered := (Catalog.sound_empty.runAll ops).numbered
  exact ⟨⟨fun hmeans h => not_meansId_of_negative hnumbered hsize h.1 h.2 hmeans,
    meansId_of_not_negative hnumbered hsize⟩, accept_of_negative hnumbered hsize⟩

/-- The three terminals of a session that declares none: `1` means the second one, `3` means none,
and `-2` means the second one as well. -/
theorem accept_number_threeTerminals :
    let c := (Catalog.runAll (Session.defaultTerminals.map .register ++ [.buildScanner]) {}).2
    let setting : Setting := { registry := c.registry }
    c.size = 3 ∧ c.size ≤ Place.maxIndex ∧ MeansId setting 1 ∧ MeansId setting 3 ∧
      ¬ MeansId setting (-2) := by
  intro c setting
  have hsize : c.size ≤ Place.maxIndex := by decide
  have hnumber (i : Int) := (accept_number _ false i hsize).1
  exact ⟨rfl, hsize, (hnumber 1).mpr (by decide), (hnumber 3).mpr (by decide),
    fun hmeans => (hnumber (-2)).mp hmeans (by decide)⟩

/-- No terminal has the id `-2`, but looking for it finds the number of a line. -/
theorem negative_number_accepted :
    let c := (Catalog.runAll (Session.defaultTerminals.map .register ++ [.buildScanner]) {}).2
    let setting : Setting := { registry := c.registry }
    (∀ t ∈ c.table, (t.id : Int) ≠ -2) ∧
    ∃ s, Rule.accept setting (.bare (.int (-2))) { state := .start ['1', '2'] } = .ok true s ∧
      s.state.cursor = 2 ∧ s.state.value = .int 12 := by
  exact ⟨fun t _ => by omega, _, rfl, rfl, rfl⟩

end LineScan
