import LogTree.Decimal.Read
import LogTree.Time.Span

/-!
Dates and times of TOML: a date, a time, or both with an optional offset from UTC. Seconds may be left
out. The text of a moment is written one way, however it was spelled.
-/
namespace LogTree.Toml
open LogTree.Decimal (ofDigits)
open LogTree.Instant (padded)

structure Date where
  year : Nat
  month : Nat
  day : Nat
  deriving DecidableEq, Repr

structure Clock where
  hour : Nat
  minute : Nat
  second : Nat
  nanosecond : Nat
  deriving DecidableEq, Repr

inductive Offset where
  | utc
  | minutes (east : Int)
  deriving DecidableEq, Repr

inductive Moment where
  | date (d : Date)
  | time (t : Clock)
  | both (d : Date) (t : Clock) (zone : Option Offset)
  deriving DecidableEq, Repr

def readCount (count : Nat) (cs : List Char) : Option (Nat × List Char) :=
  let ds := cs.take count
  if ds.length == count && ds.all Char.isDigit then some (ofDigits ds, cs.drop count) else none

def readMark (c : Char) : List Char → Option (List Char)
  | d :: rest => if c == d then some rest else none
  | [] => none

def isLeapYear (y : Nat) : Bool := y % 4 == 0 && (y % 100 != 0 || y % 400 == 0)

def daysInMonth (year month : Nat) : Nat :=
  if month == 2 then (if isLeapYear year then 29 else 28)
  else if [4, 6, 9, 11].contains month then 30
  else 31

def readDate (cs : List Char) : Option (Date × List Char) := do
  let (year, cs) ← readCount 4 cs
  let (month, cs) ← readCount 2 (← readMark '-' cs)
  let (day, cs) ← readCount 2 (← readMark '-' cs)
  if 1 ≤ month && month ≤ 12 && 1 ≤ day && day ≤ daysInMonth year month then
    some (⟨year, month, day⟩, cs)
  else none

/-- Nanoseconds; what digits are left over is cut off. -/
def readFraction : List Char → Option (Nat × List Char)
  | '.' :: rest =>
    let ds := rest.takeWhile Char.isDigit
    if ds.isEmpty then none
    else some (ofDigits (ds.take 9) * Nat.pow 10 (9 - ds.length), rest.drop ds.length)
  | cs => some (0, cs)

/-- Seconds and nanoseconds. A second of 60 is a leap second. -/
def readSeconds : List Char → Option (Nat × Nat × List Char)
  | ':' :: rest => do
    let (second, cs) ← readCount 2 rest
    let (nanosecond, cs) ← readFraction cs
    if second ≤ 60 then some (second, nanosecond, cs) else none
  | cs => some (0, 0, cs)

def readMinutes (cs : List Char) : Option (Nat × Nat × List Char) := do
  let (hour, cs) ← readCount 2 cs
  let (minute, cs) ← readCount 2 (← readMark ':' cs)
  if hour ≤ 23 && minute ≤ 59 then some (hour, minute, cs) else none

def readClock (cs : List Char) : Option (Clock × List Char) := do
  let (hour, minute, cs) ← readMinutes cs
  let (second, nanosecond, cs) ← readSeconds cs
  some (⟨hour, minute, second, nanosecond⟩, cs)

def readOffset : List Char → Option (Option Offset)
  | [] => some none
  | c :: rest =>
    if c == 'Z' || c == 'z' then (if rest.isEmpty then some (some .utc) else none)
    else if c == '+' || c == '-' then
      match readMinutes rest with
      | some (hours, minutes, []) =>
        let size : Int := hours * 60 + minutes
        some (some (.minutes (if c == '-' then -size else size)))
      | _ => none
    else none

namespace Moment

def read? (cs : List Char) : Option Moment :=
  match readDate cs with
  | none =>
    match readClock cs with
    | some (t, []) => some (.time t)
    | _ => none
  | some (d, []) => some (.date d)
  | some (d, c :: rest) => do
    let (t, tail) ← readClock rest
    if c == 'T' || c == 't' || c == ' ' then (readOffset tail).map (.both d t ·) else none

end Moment

def Date.text (d : Date) : String :=
  padded 4 d.year ++ "-" ++ padded 2 d.month ++ "-" ++ padded 2 d.day

/-- No zero stands at the end of a fraction. -/
def Clock.text (t : Clock) : String :=
  padded 2 t.hour ++ ":" ++ padded 2 t.minute ++ ":" ++ padded 2 t.second ++
    if t.nanosecond == 0 then "" else "." ++ Span.dropZeros (padded 9 t.nanosecond)

/-- No offset is negative and zero. -/
def Offset.text : Offset → String
  | .utc => "Z"
  | .minutes east =>
    let size := east.natAbs
    (if east < 0 then "-" else "+") ++ padded 2 (size / 60) ++ ":" ++ padded 2 (size % 60)

def Moment.text : Moment → String
  | .date d => d.text
  | .time t => t.text
  | .both d t zone => d.text ++ "T" ++ t.text ++ (zone.map Offset.text).getD ""

end LogTree.Toml
