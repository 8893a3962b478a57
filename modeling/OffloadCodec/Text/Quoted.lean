import OffloadCodec.Text.Unprintable

/-!
# Quoted text

The quoted form of a name in a description: between double quotes, with quotes, backslashes and
characters that do not print escaped.
-/

namespace OffloadCodec.Text

/-- Lower-case hexadecimal digits, no leading zeros. -/
def hexDigits (n : Nat) : String := String.ofList (Nat.toDigits 16 n)

def escape (c : Char) : String :=
  if c = '"' then "\\\""
  else if c = '\\' then "\\\\"
  else if c = '\t' then "\\t"
  else if c = '\n' then "\\n"
  else if c = '\r' then "\\r"
  else if c.toNat = 0 then "\\0"
  else if isUnprintable c then "\\u\x7b" ++ hexDigits c.toNat ++ "\x7d"
  else c.toString

def quoted (text : String) : String :=
  "\"" ++ String.join (text.toList.map escape) ++ "\""

end OffloadCodec.Text
