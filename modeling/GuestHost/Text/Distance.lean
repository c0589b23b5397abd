/-! # Edit distance

How many items have to be inserted, left out or replaced to make one list of another.  The
distances to all beginnings of the second list are kept as a row, which grows by one item of the
first list at a time. -/

namespace GuestHost.Distance

variable {α : Type} [BEq α]

/-- The distances from nothing to the beginnings of a list. -/
def firstRow (bs : List α) : List Nat := List.range (bs.length + 1)

/-- The rest of the row after one more item of the first list.  `left` is the distance just found
and `corner` the one above it. -/
def extend (a : α) (left corner : Nat) : List α → List Nat → List Nat
  | b :: bs, above :: row =>
    let d := if a == b then corner else min corner (min left above) + 1
    d :: extend a d above bs row
  | _, _ => []

/-- The row after one more item of the first list. -/
def nextRow (bs : List α) (row : List Nat) (a : α) : List Nat :=
  match row with
  | [] => []
  | corner :: row => (corner + 1) :: extend a (corner + 1) corner bs row

/-- The edit distance of two lists. -/
def distance (as bs : List α) : Nat :=
  (as.foldl (nextRow bs) (firstRow bs)).getLastD 0

end GuestHost.Distance
