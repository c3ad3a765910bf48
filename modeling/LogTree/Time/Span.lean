import LogTree.Time.Instant

/-! Lengths of time, written in the largest unit that leaves a whole part. -/
namespace LogTree

structure Span where
  seconds : Nat
  nanos : Nat
  deriving DecidableEq, Repr, Inhabited

namespace Span

/-- Whole seconds in the second part move to the first. -/
def ofParts (seconds nanos : Nat) : Span :=
  ⟨seconds + nanos / Instant.billion, nanos % Instant.billion⟩

/-- The seconds are counted in 64 bits. -/
def fits (d : Span) : Bool := d.seconds < Nat.pow 2 64

def dropZeros (s : String) : String :=
  String.ofList (s.toList.reverse.dropWhile (· == '0')).reverse

/-- A fraction of `width` digits loses its trailing zeros. -/
def measure (whole fraction width : Nat) (unit : String) : String :=
  let tail := dropZeros (Instant.padded width fraction)
  toString whole ++ (if fraction == 0 then "" else "." ++ tail) ++ unit

def text (d : Span) : String :=
  if 0 < d.seconds then measure d.seconds d.nanos 9 "s"
  else if 1000000 ≤ d.nanos then measure (d.nanos / 1000000) (d.nanos % 1000000) 6 "ms"
  else if 1000 ≤ d.nanos then measure (d.nanos / 1000) (d.nanos % 1000) 3 "µs"
  else measure d.nanos 0 0 "ns"

end Span
end LogTree
