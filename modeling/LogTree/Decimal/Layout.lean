import LogTree.Decimal.Shortest

/-!
Text of a double: its shortest digits laid out with or without an exponent, or a fixed number of
places. What differs between formats is one `FloatStyle`.
-/
namespace LogTree

/-- How a format writes its doubles. -/
structure FloatStyle where
  /-- A whole number keeps `.0`. -/
  keepsPoint : Bool
  /-- Exponents of the first digit that are written without an exponent; `none` means all. -/
  positional : Option (Int × Int)
  /-- The choice between two shortest texts that are equally near. -/
  tie : Decimal.Tie
  nan : String
  infinity : String

namespace Decimal

def zeros (n : Nat) : String := "".pushn '0' n

def sign (negative : Bool) : String := if negative then "-" else ""

def text (n : Nat) : String := toString n

/-- The exponent of the first digit. -/
def leading (d : Decimal) : Int := d.exponent + ((text d.digits).length : Int) - 1

/-- Digits and point only. -/
def plain (keepsPoint : Bool) (d : Decimal) : String :=
  let s := text d.digits
  let point := d.exponent + s.length
  if 0 ≤ d.exponent then s ++ zeros d.exponent.toNat ++ (if keepsPoint then ".0" else "")
  else if 0 < point then
    String.ofList (s.toList.take point.toNat) ++ "." ++ String.ofList (s.toList.drop point.toNat)
  else "0." ++ zeros (-point).toNat ++ s

/-- One digit before the point; the exponent always has a sign. -/
def scientific (d : Decimal) : String :=
  let e := d.leading
  let mantissa := match (text d.digits).toList with
    | [] => ""
    | [c] => c.toString
    | c :: rest => c.toString ++ "." ++ String.ofList rest
  mantissa ++ (if e < 0 then "e-" else "e+") ++ text e.natAbs

/-- `n / den` to the nearest whole number, a half to the even neighbour. -/
def roundHalfEven (n den : Nat) : Nat :=
  let whole := n / den
  let rest := n % den
  if 2 * rest < den || (2 * rest == den && whole % 2 == 0) then whole else whole + 1

end Decimal

namespace FloatStyle
open Decimal

def text (style : FloatStyle) (x : Float) : String :=
  match read x with
  | .nan => style.nan
  | .infinite negative => sign negative ++ style.infinity
  | .finite v =>
    let d := shortest style.tie v.m v.q
    let inRange := match style.positional with
      | none => true
      | some (low, high) => v.m == 0 || (low ≤ d.leading && d.leading ≤ high)
    sign v.negative ++ if inRange then plain style.keepsPoint d else scientific d

end FloatStyle

/-- The value with exactly `places` digits after the point, rounded on its binary value. -/
def Decimal.fixed (places : Nat) (x : Float) : String :=
  match read x with
  | .nan => "NaN"
  | .infinite negative => sign negative ++ "inf"
  | .finite v =>
    let scaled :=
      roundHalfEven (v.m * Nat.pow 2 v.q.toNat * Nat.pow 10 places) (Nat.pow 2 (-v.q).toNat)
    let digits := text scaled
    let padded := zeros (places + 1 - digits.length) ++ digits
    let whole := padded.length - places
    sign v.negative ++ String.ofList (padded.toList.take whole) ++
      (if places == 0 then "" else "." ++ String.ofList (padded.toList.drop whole))

end LogTree
