import LineScan.Place

/-!
# Lengths of texts

A text can be made as long as is asked for, as far as there is room. How much room there is depends
on the machine; it is never more than an index can address.
-/

namespace LineScan.Text

/-- Why a text cannot be made as long as it is asked for. -/
inductive Overlong where
  /-- The length is no index. -/
  | unaddressable
  /-- There is no room for so many characters. -/
  | noRoom
  deriving DecidableEq, Repr

/-- The wording of the two cases; a lack of room has none. -/
def Overlong.message : Overlong → String
  | .unaddressable => "cannot fit 'int' into an index-sized integer"
  | .noRoom => ""

/-- The room for a text on a machine, in characters. -/
structure Room where
  size : Nat
  addressable : size ≤ Place.maxIndex

namespace Room

/-- The room of a machine that is short of nothing but addresses. -/
def largest : Room := ⟨Place.maxIndex, Nat.le_refl _⟩

instance : Inhabited Room := ⟨largest⟩

/-- A length that is asked for, if a text can have it. -/
def length (room : Room) (n : Nat) : Except Overlong Nat :=
  if n > Place.maxIndex then .error .unaddressable
  else if n > room.size then .error .noRoom
  else .ok n

end Room

end LineScan.Text
