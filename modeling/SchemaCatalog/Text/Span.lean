/-!
# Runs of code points

The tables of character properties list runs of code points.  A `Span` takes in every code point
from its first to its last, a `Stride` every `step`-th one, and a `Shift` moves the code points of a
stride by a fixed distance.
-/

namespace SchemaCatalog.Text

/-- The code points from `first` to `last`. -/
structure Span where
  first : Nat
  last : Nat

/-- Every `step`-th code point from `first` to `last`. -/
structure Stride where
  first : Nat
  last : Nat
  step : Nat

/-- The code points of a stride and the distance by which they move. -/
structure Shift where
  stride : Stride
  distance : Int

def Span.contains (s : Span) (n : Nat) : Bool :=
  s.first ≤ n && n ≤ s.last

def Stride.contains (s : Stride) (n : Nat) : Bool :=
  s.first ≤ n && n ≤ s.last && (n - s.first) % s.step == 0

/-- Where the first shift of the table that has `n` moves it, if one has it. -/
def Shift.move? (table : List Shift) (n : Nat) : Option Nat :=
  (table.find? (·.stride.contains n)).map fun s => (Int.ofNat n + s.distance).toNat

end SchemaCatalog.Text
