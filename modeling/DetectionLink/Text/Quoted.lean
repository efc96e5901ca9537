import DetectionLink.Text.Visible
import DetectionLink.Number.Decimal

/-!
# Quoted echoes

Text from outside is echoed in log lines between double quotes, so that its ends and its
invisible characters can be seen.

* `quoted`: the echo of a text.
-/

namespace DetectionLink

/-- The character by its code in hexadecimal. -/
def byCode (c : Char) : String :=
  "\\u\x7b" ++ String.ofList (Nat.toDigits 16 c.toNat) ++ "\x7d"

/-- A character between double quotes: the quote and the backslash are escaped, the common
controls have short forms, and what cannot be seen is written by its code. -/
def quotedChar (c : Char) : String :=
  if c = '"' then "\\\""
  else if c = '\\' then "\\\\"
  else if c = '\t' then "\\t"
  else if c = '\n' then "\\n"
  else if c = '\r' then "\\r"
  else if c.toNat = 0 then "\\0"
  else if isInvisible c then byCode c
  else c.toString

def quoted (text : List Char) : String :=
  "\"" ++ String.join (text.map quotedChar) ++ "\""

end DetectionLink
