/-! Reading doubles from decimal text, correctly rounded. -/
namespace LogTree.Decimal

def digitValue (c : Char) : Nat := c.toNat - '0'.toNat

/-- The number that a run of decimal digits spells. -/
def ofDigits (cs : List Char) : Nat := cs.foldl (fun n c => n * 10 + digitValue c) 0

/-- `digits · 10^exponent`, rounded to nearest even; far exponents need no arithmetic. -/
def toFloat (negative : Bool) (digits : Nat) (exponent : Int) : Float :=
  let top := exponent + ((toString digits).length : Int)
  let size :=
    if digits == 0 || top < -400 then 0.0
    else if 400 < top then Float.ofScientific 1 false 400
    else Float.ofScientific digits (exponent < 0) exponent.natAbs
  if negative then -size else size

/-- A sign, if there is one, and what follows it. -/
def splitSign : List Char → Bool × List Char
  | '-' :: r => (true, r)
  | '+' :: r => (false, r)
  | r => (false, r)

/-- The exponent of a text that has none is zero; one without a digit is refused. -/
def readExponent : List Char → Option Int
  | [] => some 0
  | e :: r =>
    if e == 'e' || e == 'E' then
      let (negative, ds) := splitSign r
      if ds.isEmpty || !ds.all Char.isDigit then none
      else some (if negative then -(ofDigits ds : Int) else ofDigits ds)
    else none

/-- Whole digits, point, fraction digits, exponent; either digit run may be missing, not both. -/
def readUnsigned (negative : Bool) (cs : List Char) : Option Float :=
  let whole := cs.takeWhile Char.isDigit
  let rest := cs.dropWhile Char.isDigit
  let (fraction, tail) := match rest with
    | '.' :: r => (r.takeWhile Char.isDigit, r.dropWhile Char.isDigit)
    | r => ([], r)
  if whole.isEmpty && fraction.isEmpty then none
  else (readExponent tail).map fun e =>
    toFloat negative (ofDigits (whole ++ fraction)) (e - fraction.length)

/-- A decimal number, or `inf`, `infinity` and `nan` in any case, with an optional sign. -/
def readFloat? (s : String) : Option Float :=
  let (negative, cs) := splitSign s.toList
  match String.ofList (cs.map Char.toLower) with
  | "inf" | "infinity" => some (toFloat negative 1 400)
  | "nan" => some (0.0 / 0.0)
  | _ => readUnsigned negative cs

/-- A whole number in `[lo, hi]` with an optional sign. -/
def readInt? (lo hi : Int) (s : String) : Option Int :=
  let (negative, cs) := splitSign s.toList
  if cs.isEmpty || !cs.all Char.isDigit then none
  else
    let n : Int := if negative then -(ofDigits cs : Int) else ofDigits cs
    if lo ≤ n && n ≤ hi then some n else none

end LogTree.Decimal
