import LogTree.Text.Printable

/-!
Quoted text: between double quotes, with a backslash before a quote or a backslash, short names for
four control characters, and code points in hexadecimal for all that cannot be shown.
-/
namespace LogTree.Text

def hexDigits (n : Nat) : String := String.ofList (Nat.toDigits 16 n)

def hexPadded (width n : Nat) : String :=
  let s := hexDigits n
  "".pushn '0' (width - s.length) ++ s

/-- A single quote stays as it is; a code point that extends the one before it does not. -/
def escapeChar (c : Char) : String :=
  if c == '\x00' then "\\0"
  else if c == '\t' then "\\t"
  else if c == '\r' then "\\r"
  else if c == '\n' then "\\n"
  else if c == '"' then "\\\""
  else if c == '\\' then "\\\\"
  else if isPrintable c && !isGraphemeExtend c then c.toString
  else "\\u\x7b" ++ hexDigits c.toNat ++ "\x7d"

def quoted (s : String) : String := "\"" ++ String.join (s.toList.map escapeChar) ++ "\""

end LogTree.Text
