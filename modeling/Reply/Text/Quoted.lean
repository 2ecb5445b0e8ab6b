import Reply.Text.Unshown

/-!
# Reply.Text.Quoted

Texts between quotes, as messages about a text show it.

* The quote and the backslash are marked by a backslash, and the tab, the two
  line breaks and the null character have letters of their own.
* Any other character without a shape is written as its number in braces.
* Everything else stands as it is.
-/

namespace Reply.Text

/-- A number in hexadecimal digits, small letters, no leading zeros. -/
def hex (n : Nat) : String := String.ofList (Nat.toDigits 16 n)

/-- One character as it stands between quotes. -/
def quotedChar (c : Char) : String :=
  if c == '"' then "\\\""
  else if c == '\\' then "\\\\"
  else if c == '\t' then "\\t"
  else if c == '\n' then "\\n"
  else if c == '\r' then "\\r"
  else if c.toNat == 0 then "\\0"
  else if c.toNat < 0x20 || isUnshown c then "\\u\x7b" ++ hex c.toNat ++ "\x7d"
  else c.toString

/-- A text between quotes. -/
def quoted (text : String) : String :=
  "\"" ++ String.join (text.toList.map quotedChar) ++ "\""

end Reply.Text
