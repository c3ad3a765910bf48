/-!
What a sink reports when it does not accept a record, and what a panic carries. An aggregate joins
the failures of several sinks; `leaves` takes it apart again, in order.
-/
namespace LogTree

inductive SinkError where
  | write (sink message : String)
  | panic (sink message : String)
  | aggregate (errors : List SinkError)
  | io (message : String)
  | other (message : String)

namespace SinkError

mutual

def text : SinkError → String
  | .write sink message => s!"sink '{sink}' write error: {message}"
  | .panic sink message => s!"sink '{sink}' panicked: {message}"
  | .aggregate es => "\n".intercalate (textEach es)
  | .io message => s!"io error: {message}"
  | .other message => message

def textEach : List SinkError → List String
  | [] => []
  | e :: rest => text e :: textEach rest

end

mutual

def leaves : SinkError → List SinkError
  | .aggregate es => leavesEach es
  | .write sink message => [.write sink message]
  | .panic sink message => [.panic sink message]
  | .io message => [.io message]
  | .other message => [.other message]

def leavesEach : List SinkError → List SinkError
  | [] => []
  | e :: rest => leaves e ++ leavesEach rest

end

def isPanic : SinkError → Bool
  | .panic _ _ => true
  | _ => false

/-- Nothing to report when nothing failed; else an aggregate, even of one. -/
def join : List SinkError → Except SinkError Unit
  | [] => .ok ()
  | es => .error (.aggregate es)

theorem join_eq_ok_iff (es : List SinkError) : join es = .ok () ↔ es = [] := by
  cases es with
  | nil => simp [join]
  | cons e rest => simp [join]

theorem join_of_ne_nil {es : List SinkError} (some : es ≠ []) : join es = .error (.aggregate es) := by
  cases es with
  | nil => exact absurd rfl some
  | cons e rest => rfl

theorem textEach_eq_map (es : List SinkError) : textEach es = es.map text := by
  induction es with
  | nil => simp [textEach]
  | cons e rest ih => simp [textEach, ih]

theorem leavesEach_eq_flatMap (es : List SinkError) : leavesEach es = es.flatMap leaves := by
  induction es with
  | nil => simp [leavesEach]
  | cons e rest ih => simp [leavesEach, ih]

theorem text_aggregate (es : List SinkError) :
    (aggregate es).text = "\n".intercalate (es.map text) := by
  rw [text, textEach_eq_map]

theorem leaves_aggregate (es : List SinkError) : (aggregate es).leaves = es.flatMap leaves := by
  rw [leaves, leavesEach_eq_flatMap]

end SinkError

inductive Payload where
  | text (s : String)
  | error (e : SinkError)
  | unknown

/-- The text that a fault boundary reports. -/
def Payload.message : Payload → String
  | .text s => s
  | .error e => e.text
  | .unknown => "unknown panic payload"

end LogTree
