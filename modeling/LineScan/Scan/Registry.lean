import LineScan.Scan.State

/-!
# Terminals and their registry

A *terminal* is a lexical category of the application: a name, a scanning function, and how it is
called in messages. A *registry* holds the terminals in the order of their registration; the place
of a terminal is its id. Once a registry is frozen it takes no more terminals, and a frozen registry
is never empty.
-/

namespace LineScan

/-- The kind of value a terminal declares. -/
inductive ResultType where
  | integer
  | text
  | real
  deriving DecidableEq, Repr

/-- A registered terminal. -/
structure Terminal where
  id : Nat
  name : String
  scan : ScanFunction
  /-- The name in messages; empty when there is none. -/
  display : String
  resultType : Option ResultType

namespace Terminal

/-- The name used in messages. -/
def label (t : Terminal) : String := if t.display.isEmpty then t.name else t.display

/-- Two terminals are the same when all but their functions agree. -/
def same (s t : Terminal) : Bool :=
  s.id == t.id && s.name == t.name && s.display == t.display && s.resultType == t.resultType

end Terminal

/-- What is needed to register a terminal. The function may be missing, which is refused. -/
structure Declaration where
  name : String
  scan : Option ScanFunction
  display : Option String := none
  resultType : Option ResultType := none

/-- The table of terminals. -/
structure Registry where
  terminals : List Terminal := []
  frozen : Bool := false

namespace Registry

instance : Inhabited Registry := ⟨{}⟩

/-- How many terminals there are. -/
def size (r : Registry) : Nat := r.terminals.length

/-- The terminal of a name. -/
def find? (r : Registry) (name : String) : Option Terminal :=
  r.terminals.find? fun t => t.name == name

/-- The name is registered. -/
def contains (r : Registry) (name : String) : Bool := (r.find? name).isSome

/-- The terminal at an index; a negative index counts from the end. -/
def lookup (r : Registry) (index : Int) : Except Misplaced Terminal := Place.get r.terminals index

/-- Add a terminal at the end. -/
def register (r : Registry) (d : Declaration) : Except RegistryError (Terminal × Registry) :=
  if r.frozen then .error (.frozen d.name)
  else if d.name.isEmpty then .error .emptyName
  else if r.contains d.name then .error (.duplicate d.name)
  else match d.scan with
    | none => .error (.noFunction d.name)
    | some scan =>
      let t : Terminal := ⟨r.size, d.name, scan, d.display.getD "", d.resultType⟩
      .ok (t, { r with terminals := r.terminals ++ [t] })

/-- Close the registry. -/
def freeze (r : Registry) : Except RegistryError Registry :=
  if r.terminals.isEmpty then .error .noTerminals else .ok { r with frozen := true }

/-- Close the registry unless it is closed already, as building a scanner on it does. -/
def ensureFrozen (r : Registry) : Except RegistryError Registry :=
  if r.frozen then .ok r else r.freeze

/-- Register several terminals in order. -/
def registerAll (r : Registry) : List Declaration → Except RegistryError Registry
  | [] => .ok r
  | d :: rest => do
    let (_, r) ← r.register d
    registerAll r rest

/-- A closed registry of the given terminals. -/
def ofList (declarations : List Declaration) : Except RegistryError Registry := do
  (← registerAll {} declarations).freeze

end Registry

end LineScan
