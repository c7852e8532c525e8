/-!
# Places in a list

An *index* stands for a place in a list or a line: `0` is the first place, and a negative index
counts from the end. Indices are numbers of 64 bits with a sign. Any other number is refused, with
a cause of its own and whatever the list.
-/

namespace LineScan

/-- Why an index leads nowhere. -/
inductive Misplaced where
  /-- There is nothing at that place. -/
  | outside
  /-- The number is no index of any list. -/
  | unaddressable
  deriving DecidableEq, Repr

namespace Place

/-- The largest index. -/
def maxIndex : Nat := 9223372036854775807

/-- The number has 64 bits with a sign. -/
def isIndex (n : Int) : Bool := -(maxIndex : Int) ≤ n + 1 && n ≤ maxIndex

/-- The place that an index stands for among `size` places. -/
def ofIndex (size : Nat) (index : Int) : Except Misplaced Nat :=
  let place := if index < 0 then index + size else index
  if !isIndex index then .error .unaddressable
  else if 0 ≤ place && place < size then .ok place.toNat
  else .error .outside

/-- The entry of a list at an index. -/
def get {α : Type} (items : List α) (index : Int) : Except Misplaced α :=
  match ofIndex items.length index with
  | .error cause => .error cause
  | .ok place => (items[place]?).elim (.error .outside) .ok

end Place

end LineScan
