import LineScan.Scan.Registry
import LineScan.Bindings

/-!
# A registry that is being filled

A registry as it is kept while an application declares its terminals: the table in the order of
registration, an index of their names beside it, and whether both are closed. An operation changes
them in place, one after the other, and may be refused on the way. Building a scanner closes the
registry that it is given. A *heading* is what a decorator remembers of a terminal until it is given
the function.
-/

namespace LineScan

/-- The terminals by their ids and by their names. -/
structure Catalog where
  table : List Terminal := []
  names : Bindings Terminal := []
  frozen : Bool := false

/-- A terminal that still lacks its function. -/
structure Heading where
  name : String
  display : Option String := none
  resultType : Option ResultType := none

/-- The declaration of a terminal, once its function is given. -/
def Heading.declare (h : Heading) (scan : Option ScanFunction) : Declaration :=
  ⟨h.name, scan, h.display, h.resultType⟩

namespace Catalog

/-- How many terminals there are. -/
def size (c : Catalog) : Nat := c.table.length

/-- The terminals, one after the other. -/
def toList (c : Catalog) : List Terminal := c.table

/-- The terminal at an index; a negative index counts from the end. -/
def lookup (c : Catalog) (index : Int) : Except Misplaced Terminal := Place.get c.table index

/-- The terminal of a name. -/
def get? (c : Catalog) (name : String) : Option Terminal := c.names.get? name

/-- The name is known. -/
def contains (c : Catalog) (name : String) : Bool := c.names.contains name

/-! ## Operations -/

/-- Add a terminal at the end. -/
def register (d : Declaration) : EStateM RegistryError Catalog Terminal := do
  let c ← get
  if c.frozen then throw (.frozen d.name)
  if d.name.isEmpty then throw .emptyName
  if c.contains d.name then throw (.duplicate d.name)
  match d.scan with
  | none => throw (.noFunction d.name)
  | some scan =>
    let t : Terminal := ⟨c.size, d.name, scan, d.display.getD "", d.resultType⟩
    modify fun c => { c with table := c.table ++ [t] }
    modify fun c => { c with names := c.names.insert d.name t }
    pure t

/-- Close the registry. -/
def freeze : EStateM RegistryError Catalog Unit := do
  if (← get).table.isEmpty then throw .noTerminals
  modify fun c => { c with frozen := true }

/-- Build a scanner, which closes the registry unless it is closed already. -/
def buildScanner : EStateM RegistryError Catalog Unit := do
  if !(← get).frozen then freeze

/-- What an application does with a registry. -/
inductive Operation where
  | register (d : Declaration)
  /-- Make a decorator for a terminal. -/
  | terminal (heading : Heading)
  /-- Give a decorator the function. -/
  | decorate (heading : Heading) (scan : Option ScanFunction)
  | freeze
  | buildScanner

/-- What an operation answers. -/
inductive Outcome where
  | terminal (t : Terminal)
  | decorator (heading : Heading)
  | done

/-- The terminal that an operation answers. -/
def Outcome.terminal? : Outcome → Option Terminal
  | .terminal t => some t
  | _ => none

namespace Operation

/-- Perform an operation. -/
def run : Operation → EStateM RegistryError Catalog Outcome
  | .register d => do pure (.terminal (← Catalog.register d))
  | .terminal heading => pure (.decorator heading)
  | .decorate heading scan => do pure (.terminal (← Catalog.register (heading.declare scan)))
  | .freeze => do Catalog.freeze; pure .done
  | .buildScanner => do Catalog.buildScanner; pure .done

/-- What an operation answers, and what it leaves behind. -/
def perform (op : Operation) (c : Catalog) : Except RegistryError Outcome × Catalog :=
  match op.run c with
  | .ok a c => (.ok a, c)
  | .error e c => (.error e, c)

/-- Perform an operation on a registry that has no index. -/
def runOn (r : Registry) : Operation → Except RegistryError (Outcome × Registry)
  | .register d => (r.register d).map fun (t, r) => (.terminal t, r)
  | .terminal heading => .ok (.decorator heading, r)
  | .decorate heading scan =>
    (r.register (heading.declare scan)).map fun (t, r) => (.terminal t, r)
  | .freeze => r.freeze.map (.done, ·)
  | .buildScanner => r.ensureFrozen.map (.done, ·)

/-- What an operation answers, and what it leaves behind, on a registry that has no index. -/
def performOn (op : Operation) (r : Registry) : Except RegistryError Outcome × Registry :=
  match op.runOn r with
  | .ok (a, r) => (.ok a, r)
  | .error e => (.error e, r)

/-- Perform operations one after the other, also after one that is refused. -/
def inTurn {σ : Type} (perform : Operation → σ → Except RegistryError Outcome × σ) :
    List Operation → σ → List (Except RegistryError Outcome) × σ
  | [], s => ([], s)
  | op :: ops, s =>
    let (answer, s) := perform op s
    let (answers, s) := inTurn perform ops s
    (answer :: answers, s)

end Operation

/-- Perform operations one after the other. -/
def runAll (ops : List Operation) (c : Catalog) : List (Except RegistryError Outcome) × Catalog :=
  Operation.inTurn Operation.perform ops c

/-- The terminals that have been registered, in order. -/
def registered (answers : List (Except RegistryError Outcome)) : List Terminal :=
  answers.filterMap fun answer => answer.toOption.bind Outcome.terminal?

/-- The registry that has no index. -/
def registry (c : Catalog) : Registry := ⟨c.table, c.frozen⟩

end Catalog

end LineScan
