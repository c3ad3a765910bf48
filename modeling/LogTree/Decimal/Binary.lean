/-! The value of a double, read off its bits. -/
namespace LogTree.Decimal

/-- The positive value `m · 2^q`, or zero, with a sign beside it. -/
structure Binary where
  negative : Bool
  m : Nat
  q : Int
  deriving DecidableEq, Repr

inductive Reading where
  | nan
  | infinite (negative : Bool)
  | finite (value : Binary)
  deriving DecidableEq, Repr

/-- The smallest exponent of a double; subnormal values share it with the least normal ones. -/
def leastExponent : Int := -1074

/-- The significand of a normal double with no fraction bit set. -/
def hiddenBit : Nat := Nat.pow 2 52

def readBits (bits : UInt64) : Reading :=
  let negative := bits >>> 63 == 1
  let expo := ((bits >>> 52) &&& 0x7ff).toNat
  let fraction := (bits &&& 0xfffffffffffff).toNat
  if expo == 0x7ff then (if fraction == 0 then .infinite negative else .nan)
  else if expo == 0 then .finite ⟨negative, fraction, leastExponent⟩
  else .finite ⟨negative, fraction + hiddenBit, expo - 1075⟩

def read (x : Float) : Reading := readBits x.toBits

end LogTree.Decimal
