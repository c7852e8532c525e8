/-!
# Bindings

A finite map from names to values that remembers the order in which the names first came.
-/

namespace LineScan

/-- Names with their values, in the order in which the names came. -/
abbrev Bindings (α : Type _) := List (String × α)

namespace Bindings

variable {α : Type _}

/-- The value of a name. -/
def get? (bindings : Bindings α) (name : String) : Option α := bindings.lookup name

/-- Give a name a value: a known name keeps its place, a new one comes last. -/
def insert (bindings : Bindings α) (name : String) (value : α) : Bindings α :=
  match bindings with
  | [] => [(name, value)]
  | (key, old) :: rest =>
    if key == name then (key, value) :: rest else (key, old) :: insert rest name value

/-- The name has a value. -/
def contains (bindings : Bindings α) (name : String) : Bool := (bindings.get? name).isSome

end Bindings

end LineScan
