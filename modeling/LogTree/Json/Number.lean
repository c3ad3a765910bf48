import LogTree.Data

/-!
Numbers of JSON. A whole number that fits in 64 bits is read exactly. Any other number is read with
two roundings: the leading digits that fit in 64 bits, then scaling by a power of ten.
-/
namespace LogTree.Json

structure Literal where
  negative : Bool
  whole : List Nat
  fraction : Option (List Nat)
  exponent : Option Int

def wordLimit : Nat := Nat.pow 2 64

def takeWord (n : Nat) : List Nat → Nat × List Nat
  | [] => (n, [])
  | d :: rest => if n * 10 + d < wordLimit then takeWord (n * 10 + d) rest else (n, d :: rest)

def tenTo (k : Nat) : Float := Float.ofScientific 1 false k

/-- The greatest exponent whose power of ten is a double. -/
def topPower : Nat := 308

/-- Far exponents are scaled in steps; `none` is a number out of range. -/
def scale : Nat → Float → Int → Option Float
  | 0, x, _ => some x
  | fuel + 1, x, e =>
    if e.natAbs ≤ topPower then
      if 0 ≤ e then
        let y := x * tenTo e.toNat
        if y.isInf then none else some y
      else some (x / tenTo e.natAbs)
    else if x == 0.0 then some x
    else if 0 ≤ e then none
    else scale fuel (x / tenTo topPower) (e + topPower)

def signed (negative : Bool) (x : Float) : Float := if negative then -x else x

def ofFloat : Option Float → Data
  | some x => .float x
  | none => .unreadable

/-- Minus zero is a float, as is a whole number beyond the words. -/
def ofWhole (negative : Bool) (n : Nat) : Data :=
  if !negative then .int n
  else if n == 0 || Nat.pow 2 63 < n then .float (signed true n.toUInt64.toFloat)
  else .int (-(n : Int))

namespace Literal

def value (l : Literal) : Data :=
  let (n, beyond) := takeWord 0 l.whole
  match l.fraction, l.exponent with
  | none, none =>
    if beyond.isEmpty then ofWhole l.negative n
    else ofFloat ((scale 8 n.toUInt64.toFloat beyond.length).map (signed l.negative))
  | fraction, exponent =>
    let ds := fraction.getD []
    let (m, left) := takeWord n ds
    let e := beyond.length - ((ds.length - left.length : Nat) : Int) + exponent.getD 0
    ofFloat ((scale 8 m.toUInt64.toFloat e).map (signed l.negative))

end Literal
end LogTree.Json
