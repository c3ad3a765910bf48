import LogTree.Decimal.Layout
import LogTree.Text.Quoted
import LogTree.Value

/-!
Two texts of a value: `text` for a reader of the log, where strings stand as they are and a group
is written in braces, and `inspect`, where strings are quoted and every part is named.
-/
namespace LogTree

/-- A float never has an exponent; a whole number is written without a point. -/
def Value.floatStyle : FloatStyle := ⟨false, none, .up, "NaN", "inf"⟩

def Key.inspect (k : Key) : String := "Key(" ++ Text.quoted k ++ ")"

def boolText (b : Bool) : String := if b then "true" else "false"

namespace Value

mutual

def text : Value → String
  | .string s => s
  | .int i => toString i.toInt
  | .uint n => toString n.toNat
  | .float x => floatStyle.text x
  | .bool b => boolText b
  | .time t => t.text
  | .duration d => d.text
  | .error s => s
  | .group as => "\x7b" ++ " ".intercalate (textEach as) ++ "\x7d"
  | .any _ => "Any(..)"

/-- Each attribute as `key=value`. -/
def textEach : List Attr → List String
  | [] => []
  | .mk k v :: rest => (k ++ "=" ++ text v) :: textEach rest

end

mutual

def inspect : Value → String
  | .string s => Text.quoted s
  | .error s => "Error(" ++ s ++ ")"
  | .group as => "[" ++ ", ".intercalate (inspectEach as) ++ "]"
  | .int i => toString i.toInt
  | .uint n => toString n.toNat
  | .float x => floatStyle.text x
  | .bool b => boolText b
  | .time t => t.text
  | .duration d => d.text
  | .any _ => "Any(..)"

def inspectEach : List Attr → List String
  | [] => []
  | .mk k v :: rest =>
    ("Attr \x7b key: " ++ Key.inspect k ++ ", value: " ++ inspect v ++ " \x7d") :: inspectEach rest

end

end Value

def Attr.text (a : Attr) : String := a.key ++ "=" ++ a.value.text

theorem Value.textEach_eq_map (as : List Attr) : Value.textEach as = as.map Attr.text := by
  induction as with
  | nil => simp [Value.textEach]
  | cons a rest ih => cases a; simp [Value.textEach, Attr.text, ih]

end LogTree
