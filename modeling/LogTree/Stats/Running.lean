import LogTree.Decimal.Layout

/-!
Statistics of a sequence of numbers, kept without the numbers: count, mean, sum of squared deviations
from the mean, least and greatest. The numbers are of any type with exact or rounded arithmetic.
-/
namespace LogTree

/-- The arithmetic that running statistics need. -/
class Quantity (α : Type) extends Zero α, Add α, Sub α, Mul α, Div α where
  ofCount : Nat → α
  /-- The lesser of two numbers; the second one where neither is less. -/
  lesser : α → α → α
  greater : α → α → α

/-- What is not a number gives way to any number. Zeros of either sign are equal, so the second stays. -/
instance : Quantity Float where
  zero := 0.0
  ofCount := Float.ofNat
  lesser x y := if y.isNaN || x < y then x else y
  greater x y := if y.isNaN || y < x then x else y

structure Running (α : Type) where
  /-- Does not wrap, so it is right for fewer than 2^64 numbers. -/
  count : Nat
  mean : α
  /-- The sum of the squared deviations from the mean. -/
  squares : α
  least : α
  greatest : α

namespace Running
variable {α : Type} [Quantity α]
open Quantity

def empty : Running α := ⟨0, 0, 0, 0, 0⟩

/-- One more number. The mean moves by its part of the deviation. -/
def push (s : Running α) (x : α) : Running α :=
  if s.count == 0 then ⟨1, x, 0, x, x⟩
  else
    let n := s.count + 1
    let deviation := x - s.mean
    let mean := s.mean + deviation / ofCount n
    ⟨n, mean, s.squares + deviation * (x - mean), lesser s.least x, greater s.greatest x⟩

def ofList (xs : List α) : Running α := xs.foldl push empty

/-- The variance of a sample; one number has none. -/
def variance (s : Running α) : α := if s.count < 2 then 0 else s.squares / ofCount (s.count - 1)

def deviation (s : Running Float) : Float := s.variance.sqrt

def text (s : Running Float) : String :=
  let shown := Decimal.fixed 3
  if s.count == 0 then "N/A"
  else
    "min=" ++ shown s.least ++ ", max=" ++ shown s.greatest ++ ", mean=" ++ shown s.mean ++
      ", std=" ++ shown s.deviation ++ s!" (n={s.count})"

end Running
end LogTree
