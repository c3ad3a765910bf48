import LogTree.Data
import LogTree.Toml.Moment

/-! Values of TOML that stand without quotes: booleans, numbers, dates and times. -/
namespace LogTree.Toml
open LogTree.Decimal (digitValue ofDigits splitSign toFloat)

/-- The digits of a number; an underscore is allowed between two of them. -/
def ungroup? (isDigit : Char → Bool) : List Char → Option (List Char)
  | [] => none
  | [c] => if isDigit c then some [c] else none
  | c :: '_' :: rest => if isDigit c then (ungroup? isDigit rest).map (c :: ·) else none
  | c :: rest => if isDigit c then (ungroup? isDigit rest).map (c :: ·) else none

/-- No zero before another digit. -/
def wholeDigits? (cs : List Char) : Option (List Char) :=
  match ungroup? Char.isDigit cs with
  | some ('0' :: _ :: _) => none
  | ds => ds

def hexValue? (c : Char) : Option Nat :=
  if c.isDigit then some (digitValue c)
  else if 'a' ≤ c && c ≤ 'f' then some (c.toNat - 'a'.toNat + 10)
  else if 'A' ≤ c && c ≤ 'F' then some (c.toNat - 'A'.toNat + 10)
  else none

def isDigitOf (base : Nat) (c : Char) : Bool := (hexValue? c).any (· < base)

def ofDigitsIn (base : Nat) (cs : List Char) : Nat :=
  cs.foldl (fun n c => n * base + (hexValue? c).getD 0) 0

/-- Beyond 64 bits a whole number is written well but stands for nothing; beyond 128 it is wrong. -/
def whole? (n : Int) : Option Data :=
  if -Int.pow 2 63 ≤ n && n < Int.pow 2 64 then some (.int n)
  else if -Int.pow 2 127 ≤ n && n < Int.pow 2 128 then some .unreadable
  else none

def based? (base : Nat) (cs : List Char) : Option Data :=
  (ungroup? (isDigitOf base) cs).bind fun ds => whole? (ofDigitsIn base ds)

def isExponentMark (c : Char) : Bool := c == 'e' || c == 'E'

def fractionDigits? : List Char → Option (List Char)
  | [] => some []
  | _ :: ds => ungroup? Char.isDigit ds

def exponent? : List Char → Option Int
  | [] => some 0
  | _ :: cs =>
    let (negative, ds) := splitSign cs
    (ungroup? Char.isDigit ds).map fun ds => if negative then -(ofDigits ds : Int) else ofDigits ds

/-- A number with a fraction, an exponent or both; none may be too large for a double. -/
def float? (negative : Bool) (cs : List Char) : Option Data := do
  let mantissa := cs.takeWhile (!isExponentMark ·)
  let whole ← wholeDigits? (mantissa.takeWhile (· != '.'))
  let fraction ← fractionDigits? (mantissa.dropWhile (· != '.'))
  let e ← exponent? (cs.dropWhile (!isExponentMark ·))
  let x := toFloat negative (ofDigits (whole ++ fraction)) (e - fraction.length)
  if x.isInf then none else some (.float x)

def number? (negative : Bool) (cs : List Char) : Option Data :=
  match String.ofList cs with
  | "inf" => some (.float (toFloat negative 1 400))
  | "nan" => some (.float (0.0 / 0.0))
  | _ =>
    if cs.any fun c => c == '.' || isExponentMark c then float? negative cs
    else (wholeDigits? cs).bind fun ds => whole? (if negative then -(ofDigits ds : Int) else ofDigits ds)

/-- A date or a time is a table of one entry. -/
def Moment.data (m : Moment) : Data := .table [("$__toml_private_datetime", .string m.text)]

def scalar? : List Char → Option Data
  | ['t', 'r', 'u', 'e'] => some (.bool true)
  | ['f', 'a', 'l', 's', 'e'] => some (.bool false)
  | '0' :: 'x' :: ds => based? 16 ds
  | '0' :: 'o' :: ds => based? 8 ds
  | '0' :: 'b' :: ds => based? 2 ds
  | cs =>
    match Moment.read? cs with
    | some m => some m.data
    | none =>
      let (negative, unsigned) := splitSign cs
      number? negative unsigned

end LogTree.Toml
