import LineScan.Calculator.Terminals
import LineScan.Scan.Catalog
import LineScan.Proofs.Calls

/-!
# Registration keeps table and index in step

A registry is a table of terminals and an index of their names, which are changed one after the
other. `Does` says once what an operation can do to them: add a terminal to both, close the
registry, or nothing at all, as when it is refused. That the two stay in step, `Sound`, is kept in
each of these cases, and so by every sequence of operations.

While they are in step, the index says no more than the table does. So the operations do what those
on a registry without an index do.

## Main statements

* `run_does`: what an operation can do.
* `Sound.perform`, `table_perform`, `perform_of_frozen`: what an operation keeps.
* `Sound.performOn_eq`: the index makes no difference.
* `runAll_keeps`: the state of a registry after any sequence of operations.
-/

namespace LineScan

/-- A new name is entered at the end. -/
theorem Bindings.insert_of_get?_eq_none {α : Type _} {bindings : Bindings α} {name : String}
    (h : bindings.get? name = none) (value : α) :
    bindings.insert name value = bindings ++ [(name, value)] := by
  induction bindings with
  | nil => rfl
  | cons entry bindings ih =>
    rw [get?, List.lookup_cons] at h
    cases hname : name == entry.1 with
    | true =>
      rw [hname] at h
      cases h
    | false =>
      rw [hname] at h
      have hkeep : ¬ (entry.1 == name) = true := by rw [BEq.comm, hname]; decide
      rw [insert, if_neg hkeep, ih h, List.cons_append]

/-- An entry is found at its own place. -/
theorem Place.get_of_getElem? {α : Type} {items : List α} {i : Nat} {item : α}
    (h : items[i]? = some item) (hindex : i ≤ maxIndex) : get items i = .ok item := by
  obtain ⟨hlt, -⟩ := List.getElem?_eq_some_iff.mp h
  have hplace : ofIndex items.length i = .ok i := by
    have hbits : isIndex i = true := by
      simp only [isIndex, Bool.and_eq_true, decide_eq_true_eq]
      omega
    have hlow : ¬ (i : Int) < 0 := by omega
    simp [ofIndex, hbits, hlow, hlt]
  simp only [get, hplace, h, Option.elim_some]

namespace Catalog

/-! ## What an operation can do -/

/-- Enter a terminal in the table and in the index. -/
def add (c : Catalog) (t : Terminal) : Catalog :=
  { c with table := c.table ++ [t], names := c.names.insert t.name t }

/-- The terminal that a declaration makes. -/
def entry (c : Catalog) (d : Declaration) (scan : ScanFunction) : Terminal :=
  ⟨c.size, d.name, scan, d.display.getD "", d.resultType⟩

/-- What an operation can do. -/
inductive Does (c : Catalog) : EStateM.Result RegistryError Catalog Outcome → Prop where
  | refused (e : RegistryError) : Does c (.error e c)
  | added {t : Terminal} (still_open : c.frozen = false) (id_eq : t.id = c.size)
    (named : t.name ≠ "") (unknown : c.get? t.name = none) : Does c (.ok (.terminal t) (c.add t))
  | closed (inhabited : c.table ≠ []) : Does c (.ok .done { c with frozen := true })
  | stayed {a : Outcome} (no_terminal : a.terminal? = none) : Does c (.ok a c)

variable {c : Catalog}

/-- Registering goes through its checks in order, and adds the terminal if all are met. -/
theorem register_apply (d : Declaration) (c : Catalog) :
    register d c =
      if c.frozen then .error (.frozen d.name) c
      else if d.name.isEmpty then .error .emptyName c
      else if c.contains d.name then .error (.duplicate d.name) c
      else match d.scan with
        | none => .error (.noFunction d.name) c
        | some scan => .ok (c.entry d scan) (c.add (c.entry d scan)) := by
  cases hfrozen : c.frozen
  · cases hempty : d.name.isEmpty
    · cases hknown : c.contains d.name
      · cases hscan : d.scan <;>
          simp only [register, bind_apply, get_apply, hfrozen, hempty, hknown, hscan,
            Bool.false_eq_true, if_false] <;> rfl
      · simp [register, hfrozen, hempty, hknown]
    · simp [register, hfrozen, hempty]
  · simp [register, hfrozen]

/-- An empty registry cannot be closed. -/
theorem freeze_apply (c : Catalog) :
    freeze c = if c.table.isEmpty then .error .noTerminals c
      else .ok () { c with frozen := true } := by
  cases h : c.table.isEmpty <;> simp only [freeze, bind_apply, get_apply, h] <;> rfl

/-- A scanner closes its registry, if it is still open. -/
theorem buildScanner_apply (c : Catalog) :
    buildScanner c = if c.frozen then .ok () c else freeze c := by
  cases h : c.frozen <;> simp [buildScanner, h]

/-- Registering adds a terminal to both, or is refused. -/
theorem register_does (d : Declaration) (c : Catalog) :
    Does c ((do pure (.terminal (← register d)) : EStateM RegistryError Catalog Outcome) c) := by
  rw [bind_apply, register_apply]
  cases hfrozen : c.frozen
  · cases hempty : d.name.isEmpty
    · cases hknown : c.contains d.name
      · cases d.scan with
        | none => exact .refused _
        | some scan =>
          have hnamed : d.name ≠ "" := by simpa using hempty
          have hunknown : c.get? d.name = none := by
            simpa [contains, Bindings.contains, get?] using hknown
          exact .added hfrozen rfl hnamed hunknown
      · exact .refused _
    · exact .refused _
  · exact .refused _

/-- Closing a registry closes it, or is refused. -/
theorem freeze_does (c : Catalog) :
    Does c ((do freeze; pure .done : EStateM RegistryError Catalog Outcome) c) := by
  rw [bind_apply, freeze_apply]
  cases h : c.table.isEmpty
  · exact .closed (by simpa using h)
  · exact .refused _

/-- What an operation can do, whichever it is. -/
theorem run_does (op : Operation) (c : Catalog) : Does c (op.run c) := by
  cases op with
  | register d => exact register_does d c
  | terminal heading => exact .stayed rfl
  | decorate heading scan => exact register_does (heading.declare scan) c
  | freeze => exact freeze_does c
  | buildScanner =>
    have hfreeze := freeze_does c
    rw [bind_apply] at hfreeze
    rw [Operation.run, bind_apply, buildScanner_apply]
    cases c.frozen
    · exact hfreeze
    · exact .stayed rfl

/-! ## Table and index in step -/

/-- Table and index are in step: the index holds the terminals of the table under their names, which
are not empty and all different; the place of a terminal is its id; and a closed registry is not
empty. -/
structure Sound (c : Catalog) : Prop where
  names_eq : c.names = c.table.map fun t => (t.name, t)
  id_eq : ∀ (i : Nat) (t : Terminal), c.table[i]? = some t → t.id = i
  named : ∀ t ∈ c.table, t.name ≠ ""
  distinct : (c.table.map Terminal.name).Nodup
  inhabited : c.frozen = true → c.table ≠ []

/-- In an empty registry table and index are in step. -/
theorem sound_empty : Sound {} where
  names_eq := rfl
  id_eq _ _ h := by cases h
  named _ h := by cases h
  distinct := List.nodup_nil
  inhabited h := by cases h

/-- Looking a name up in an index of a table is looking it up in the table. -/
theorem lookup_index (table : List Terminal) (name : String) :
    (table.map fun t => (t.name, t)).lookup name = table.find? fun t => t.name == name := by
  induction table with
  | nil => rfl
  | cons t table ih =>
    rw [List.map_cons, List.lookup_cons, List.find?_cons, ih, BEq.comm]

/-- Where the names are different, the terminal of a name is the one that has it. -/
theorem find?_eq_some_iff {table : List Terminal} (distinct : (table.map Terminal.name).Nodup)
    {name : String} {t : Terminal} :
    (table.find? fun t => t.name == name) = some t ↔ t ∈ table ∧ t.name = name := by
  induction table with
  | nil => simp
  | cons first table ih =>
    rw [List.map_cons, List.nodup_cons] at distinct
    rw [List.find?_cons, List.mem_cons]
    cases hname : first.name == name with
    | true =>
      have hfirst : first.name = name := by simpa using hname
      constructor
      · rintro ⟨⟩
        exact ⟨.inl rfl, hfirst⟩
      · rintro ⟨rfl | hmem, ht⟩
        · rfl
        · rw [hfirst, ← ht] at distinct
          exact absurd (List.mem_map_of_mem hmem) distinct.1
    | false =>
      have hfirst : first.name ≠ name := by simpa using hname
      rw [ih distinct.2]
      refine ⟨fun h => ⟨.inr h.1, h.2⟩, fun h => ⟨h.1.resolve_left ?_, h.2⟩⟩
      rintro rfl
      exact hfirst h.2

/-- Closing a catalog closes its registry. -/
theorem freeze_eq (c : Catalog) :
    c.registry.freeze = match freeze c with
      | .ok _ c => .ok c.registry
      | .error e _ => .error e := by
  rw [freeze_apply, Registry.freeze]
  by_cases hempty : c.table.isEmpty = true
  · rw [if_pos hempty, if_pos (show c.registry.terminals.isEmpty = true from hempty)]
  · rw [if_neg hempty, if_neg (show ¬ c.registry.terminals.isEmpty = true from hempty)]
    rfl

namespace Sound

variable (sound : c.Sound)

include sound

/-- While table and index are in step, a name is found in the index as in the table. -/
theorem get?_eq (name : String) : c.get? name = c.registry.find? name := by
  rw [get?, sound.names_eq]
  exact lookup_index c.table name

/-- A name is found exactly if a terminal of the table has it. -/
theorem get?_eq_some_iff {name : String} {t : Terminal} :
    c.get? name = some t ↔ t ∈ c.table ∧ t.name = name := by
  rw [sound.get?_eq]
  exact find?_eq_some_iff sound.distinct

/-- A name is taken in the index exactly if it is in the table. -/
theorem contains_eq (name : String) : c.contains name = c.registry.contains name :=
  congrArg Option.isSome (sound.get?_eq name)

/-- A terminal with a name of its own can be added. -/
theorem add {t : Terminal} (still_open : c.frozen = false) (id_eq : t.id = c.size)
    (named : t.name ≠ "") (unknown : c.get? t.name = none) : (c.add t).Sound where
  names_eq := by
    have hinsert : (c.add t).names = c.names ++ [(t.name, t)] :=
      Bindings.insert_of_get?_eq_none unknown t
    rw [hinsert, sound.names_eq, Catalog.add, List.map_append, List.map_cons, List.map_nil]
  id_eq i u h := by
    simp only [Catalog.add, List.getElem?_append] at h
    split at h
    · exact sound.id_eq i u h
    · next hge =>
      have hlast : i - c.table.length = 0 := by
        have := (List.getElem?_eq_some_iff.mp h).1
        simp only [List.length_singleton] at this
        omega
      rw [hlast] at h
      cases h
      rw [id_eq, size]
      omega
  named u h := by
    rcases List.mem_append.mp h with h | h
    · exact sound.named u h
    · cases List.mem_singleton.mp h
      exact named
  distinct := by
    -- the index has no such name, and while it is in step neither has the table
    have hnew : t.name ∉ c.table.map Terminal.name := by
      intro hmem
      obtain ⟨u, hu, hname⟩ := List.mem_map.mp hmem
      rw [sound.get?_eq_some_iff.mpr ⟨hu, hname⟩] at unknown
      cases unknown
    simp only [Catalog.add, List.map_append, List.map_cons, List.map_nil]
    refine List.nodup_append.mpr ⟨sound.distinct, by simp, ?_⟩
    rintro name hname _ h rfl
    rw [List.mem_singleton.mp h] at hname
    exact hnew hname
  inhabited h := by
    have hopen : (c.add t).frozen = false := still_open
    rw [hopen] at h
    cases h

/-- An operation keeps table and index in step. -/
theorem perform (op : Operation) : (op.perform c).2.Sound := by
  have hdoes := run_does op c
  unfold Operation.perform
  generalize op.run c = result at hdoes
  cases hdoes with
  | refused e => exact sound
  | added still_open id_eq named unknown => exact sound.add still_open id_eq named unknown
  | closed inhabited =>
    exact ⟨sound.names_eq, sound.id_eq, sound.named, sound.distinct, fun _ => inhabited⟩
  | stayed _ => exact sound

/-- Registering with a catalog registers with its registry. -/
theorem register_eq (d : Declaration) :
    c.registry.register d = match Catalog.register d c with
      | .ok t c => .ok (t, c.registry)
      | .error e _ => .error e := by
  rw [register_apply, Registry.register, ← sound.contains_eq]
  by_cases hfrozen : c.frozen = true
  · rw [if_pos hfrozen, if_pos (show c.registry.frozen = true from hfrozen)]
  rw [if_neg hfrozen, if_neg (show ¬ c.registry.frozen = true from hfrozen)]
  by_cases hempty : d.name.isEmpty = true
  · rw [if_pos hempty, if_pos hempty]
  rw [if_neg hempty, if_neg hempty]
  by_cases hknown : c.contains d.name = true
  · rw [if_pos hknown, if_pos hknown]
  rw [if_neg hknown, if_neg hknown]
  cases d.scan <;> rfl

/-- An operation on a registry comes to the same with and without an index. -/
theorem runOn_eq (op : Operation) :
    op.runOn c.registry = match op.run c with
      | .ok a c => .ok (a, c.registry)
      | .error e _ => .error e := by
  cases op with
  | register d =>
    rw [Operation.runOn, sound.register_eq, Operation.run, bind_apply]
    cases Catalog.register d c <;> rfl
  | terminal heading => rfl
  | decorate heading scan =>
    rw [Operation.runOn, sound.register_eq, Operation.run, bind_apply]
    cases Catalog.register (heading.declare scan) c <;> rfl
  | freeze =>
    rw [Operation.runOn, freeze_eq, Operation.run, bind_apply]
    cases Catalog.freeze c <;> rfl
  | buildScanner =>
    rw [Operation.runOn, Registry.ensureFrozen, Operation.run, bind_apply, buildScanner_apply]
    by_cases hfrozen : c.frozen = true
    · rw [if_pos hfrozen, if_pos (show c.registry.frozen = true from hfrozen)]
      rfl
    · rw [if_neg hfrozen, if_neg (show ¬ c.registry.frozen = true from hfrozen), freeze_eq]
      cases Catalog.freeze c <;> rfl

/-- While table and index are in step, the index makes no difference. -/
theorem performOn_eq (op : Operation) :
    op.performOn c.registry = ((op.perform c).1, (op.perform c).2.registry) := by
  have hdoes := run_does op c
  rw [Operation.performOn, sound.runOn_eq, Operation.perform]
  generalize op.run c = result at hdoes
  cases hdoes <;> rfl

end Sound

/-! ## Sequences of operations -/

/-- A refused operation leaves everything as it was. -/
theorem eq_of_run_error {op : Operation} {e : RegistryError} {c' : Catalog}
    (h : op.run c = .error e c') : c' = c := by
  have hdoes := run_does op c
  rw [h] at hdoes
  cases hdoes
  rfl

/-- The table grows by the terminal that an operation answers. -/
theorem table_perform (op : Operation) (c : Catalog) :
    (op.perform c).2.table = c.table ++ registered [(op.perform c).1] := by
  have hdoes := run_does op c
  unfold Operation.perform
  generalize op.run c = result at hdoes
  cases hdoes with
  | refused e => exact (List.append_nil _).symm
  | added => rfl
  | closed => exact (List.append_nil _).symm
  | stayed no_terminal => simp [registered, Except.toOption, no_terminal]

/-- Nothing happens to a closed registry any more. -/
theorem perform_of_frozen (h : c.frozen = true) (op : Operation) : (op.perform c).2 = c := by
  have hdoes := run_does op c
  unfold Operation.perform
  generalize op.run c = result at hdoes
  cases hdoes with
  | refused e => rfl
  | added still_open =>
    rw [h] at still_open
    cases still_open
  | closed => exact congrArg (fun frozen => { c with frozen }) h.symm
  | stayed => rfl

/-- The first operation is performed first, and its outcome comes first. -/
theorem runAll_cons (op : Operation) (ops : List Operation) (c : Catalog) :
    runAll (op :: ops) c = ((op.perform c).1 :: (runAll ops (op.perform c).2).1,
      (runAll ops (op.perform c).2).2) := rfl

/-- Any operations keep table and index in step. -/
theorem Sound.runAll (sound : c.Sound) (ops : List Operation) : (runAll ops c).2.Sound := by
  induction ops generalizing c with
  | nil => exact sound
  | cons op ops ih => exact ih (sound.perform op)

/-- Any operations extend the table by the terminals that they register, in order. -/
theorem table_runAll (ops : List Operation) (c : Catalog) :
    (runAll ops c).2.table = c.table ++ registered (runAll ops c).1 := by
  induction ops generalizing c with
  | nil => exact (List.append_nil _).symm
  | cons op ops ih =>
    have hgrown : registered (runAll (op :: ops) c).1 =
        registered [(op.perform c).1] ++ registered (runAll ops (op.perform c).2).1 :=
      List.filterMap_append (l := [(op.perform c).1])
    rw [hgrown, ← List.append_assoc, ← table_perform]
    exact ih (op.perform c).2

/-- No operation changes a registry that is closed. -/
theorem runAll_of_frozen (h : c.frozen = true) (ops : List Operation) : (runAll ops c).2 = c := by
  induction ops with
  | nil => rfl
  | cons op ops ih => rw [runAll_cons, perform_of_frozen h op, ih]

/-- Any operations come to the same with and without an index. -/
theorem Sound.inTurn_performOn (sound : c.Sound) (ops : List Operation) :
    Operation.inTurn Operation.performOn ops c.registry =
      ((Catalog.runAll ops c).1, (Catalog.runAll ops c).2.registry) := by
  induction ops generalizing c with
  | nil => rfl
  | cons op ops ih =>
    rw [Operation.inTurn, sound.performOn_eq, runAll_cons]
    simp only [ih (sound.perform op)]

/-- After any operations on an empty registry, some of them refused, its table holds what has been
registered, in order. Each terminal is found by its place, which is its id; names are not empty, all
different, and each leads to its own terminal; going through the registry and counting agree with
the table. A closed registry is not empty and stays as it is, whatever follows. A refused operation
leaves everything as it was. And all of this is the same without an index of names. -/
theorem runAll_keeps (ops : List Operation) :
    let answers := (runAll ops {}).1
    let c := (runAll ops {}).2
    c.table = registered answers ∧
    (∀ (i : Nat) t, (registered answers)[i]? = some t →
      t.id = i ∧ (i ≤ Place.maxIndex → c.lookup i = .ok t)) ∧
    ((∀ t ∈ registered answers, t.name ≠ "") ∧ ((registered answers).map Terminal.name).Nodup) ∧
    (∀ name, (c.contains name = true ↔ ∃ t, c.get? name = some t) ∧
      ∀ t, (c.get? name = some t ↔ t ∈ registered answers ∧ t.name = name) ∧
        (c.get? name = some t → t.id ≤ Place.maxIndex → c.lookup t.id = .ok t)) ∧
    (c.toList = registered answers ∧ c.size = (registered answers).length) ∧
    (c.frozen = true → registered answers ≠ [] ∧ ∀ more, (runAll more c).2 = c) ∧
    (∀ (op : Operation) e c', op.run c = .error e c' → c' = c) ∧
    Operation.inTurn Operation.performOn ops {} = (answers, c.registry) := by
  intro answers c
  -- everything below is read off a catalog whose table and index are in step
  have sound : c.Sound := sound_empty.runAll ops
  have htable : c.table = registered answers := table_runAll ops {}
  have hplaced : ∀ (i : Nat) t, c.table[i]? = some t →
      t.id = i ∧ (i ≤ Place.maxIndex → c.lookup i = .ok t) :=
    fun i t h => ⟨sound.id_eq i t h, Place.get_of_getElem? h⟩
  rw [← htable]
  refine ⟨rfl, hplaced, ⟨sound.named, sound.distinct⟩, fun name => ⟨Option.isSome_iff_exists,
    fun t => ⟨sound.get?_eq_some_iff, fun ht => ?_⟩⟩, ⟨rfl, rfl⟩, fun hfrozen => ?_, fun op e c' =>
    eq_of_run_error, sound_empty.inTurn_performOn ops⟩
  · obtain ⟨i, hi⟩ := List.mem_iff_getElem?.mp (sound.get?_eq_some_iff.mp ht).1
    obtain ⟨hid, hlookup⟩ := hplaced i t hi
    rw [hid]
    exact hlookup
  · exact ⟨sound.inhabited hfrozen, runAll_of_frozen hfrozen⟩

/-- A name is refused the second time, a decorator without a function, and any name once a scanner
has been built. -/
theorem runAll_keeps_twoTerminals :
    let ops : List Operation := [.freeze, .register ⟨"word", some Calculator.scanIdent, none, none⟩,
      .terminal ⟨"end", none, none⟩, .register ⟨"word", none, none, none⟩,
      .decorate ⟨"end", none, none⟩ none, .decorate ⟨"end", none, none⟩ (some Calculator.scanEnd),
      .buildScanner, .register ⟨"more", some Calculator.scanIdent, none, none⟩, .buildScanner]
    (runAll ops {}).2.frozen = true ∧
    (runAll ops {}).2.toList.map (fun t => (t.id, t.name)) = [(0, "word"), (1, "end")] ∧
    registered (runAll ops {}).1 ≠ [] := by
  intro ops
  have hfrozen : (runAll ops {}).2.frozen = true := rfl
  have hnames : (runAll ops {}).2.toList.map (fun t => (t.id, t.name)) =
      [(0, "word"), (1, "end")] := rfl
  exact ⟨hfrozen, hnames, ((runAll_keeps ops).2.2.2.2.2.1 hfrozen).1⟩

end Catalog

end LineScan
