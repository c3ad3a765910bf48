import LogTree.Decimal.Binary

/-!
The shortest decimal that reads back as a double. The reals that round to `m · 2^q` form an interval,
whose ends belong to it iff `m` is even. For one digit, two digits and so on, the two neighbours of
the value on that decimal grid are tested; the first grid with a hit wins, and of two hits the nearer.
Two hits may be equally near, and formats differ in which of them they take.
-/
namespace LogTree

/-- The value `digits · 10^exponent`. -/
structure Decimal where
  digits : Nat
  exponent : Int
  deriving DecidableEq, Repr

namespace Decimal

/-- What becomes of a value halfway between two neighbours: the even one, or the greater. -/
inductive Tie where
  | even
  | up
  deriving DecidableEq, Repr

/-- Whether a tie above `below` leaves it for the next number. -/
def Tie.leaves : Tie → Nat → Bool
  | .even, below => below % 2 == 1
  | .up, _ => true

/-- The interval of the reals that round to a value, over one denominator. -/
structure Interval where
  low : Nat
  value : Nat
  high : Nat
  den : Nat
  closed : Bool

/-- The gap below a power of two is half the gap above it. -/
def Interval.around (m : Nat) (q : Int) : Interval :=
  let lowGap := if m == hiddenBit && decide (leastExponent < q) then 1 else 2
  let scale := Nat.pow 2 (q - 2).toNat
  ⟨(4 * m - lowGap) * scale, 4 * m * scale, (4 * m + 2) * scale, Nat.pow 2 (2 - q).toNat, m % 2 == 0⟩

/-- Both sides of `t · 10^e` against `n / den`, as whole numbers. -/
def sides (t : Nat) (e : Int) (n den : Nat) : Nat × Nat :=
  (t * den * Nat.pow 10 e.toNat, n * Nat.pow 10 (-e).toNat)

def Interval.holds (i : Interval) (t : Nat) (e : Int) : Bool :=
  let low := sides t e i.low i.den
  let high := sides t e i.high i.den
  if i.closed then low.2 ≤ low.1 && high.1 ≤ high.2 else low.2 < low.1 && high.1 < high.2

/-- The greatest `k` with `10^k ≤ n / den`, searched downwards from `start`. -/
def magnitude (n den : Nat) : Nat → Int → Int
  | 0, k => k
  | fuel + 1, k =>
    let (power, value) := sides 1 k n den
    if power ≤ value then k else magnitude n den fuel (k - 1)

/-- The neighbours of the value on the grid of `count` digits, if they read back. -/
def Interval.onGrid (tie : Tie) (i : Interval) (top : Int) (count : Nat) : Option Decimal :=
  let e := top - (count - 1)
  let below := i.value * Nat.pow 10 (-e).toNat / (i.den * Nat.pow 10 e.toNat)
  match i.holds below e, i.holds (below + 1) e with
  | true, false => some ⟨below, e⟩
  | false, true => some ⟨below + 1, e⟩
  | false, false => none
  | true, true =>
    let (twice, value) := sides (2 * below + 1) e (2 * i.value) i.den
    some ⟨if value < twice || (value == twice && !tie.leaves below) then below else below + 1, e⟩

/-- Moves factors of ten from the digits to the exponent. -/
def trim : Nat → Decimal → Decimal
  | 0, d => d
  | fuel + 1, d =>
    if d.digits != 0 && d.digits % 10 == 0 then trim fuel ⟨d.digits / 10, d.exponent + 1⟩ else d

/-- Seventeen digits always read back, so the search ends on a hit. -/
def shortest (tie : Tie) (m : Nat) (q : Int) : Decimal :=
  if m == 0 then ⟨0, 0⟩
  else
    let i := Interval.around m q
    let top := magnitude i.value i.den 700 330
    trim 20 (((List.range 17).findSome? fun n => i.onGrid tie top (n + 1)).getD
      ⟨i.value / i.den, 0⟩)

end Decimal
end LogTree
