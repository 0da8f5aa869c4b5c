import TokenClaim.Text.Printable
/-!
Text in quotes, as messages show it. A quote mark, a backslash and the four short controls are
written with a backslash; any other character that is not printable is written by its code point.
-/

set_option autoImplicit false

namespace TokenClaim.Text

def codePoint (c : Char) : String := String.ofList (Nat.toDigits 16 c.toNat)

/-- A character between two `mark`s. -/
def escape (mark c : Char) : String :=
  if c = '\x00' then "\\0"
  else if c = '\t' then "\\t"
  else if c = '\r' then "\\r"
  else if c = '\n' then "\\n"
  else if c = '\\' then "\\\\"
  else if c = mark then "\\" ++ String.singleton mark
  else if isPrintable c then String.singleton c
  else "\\u\x7b" ++ codePoint c ++ "\x7d"

def quote (text : String) : String :=
  "\"" ++ String.join (text.toList.map (escape '"')) ++ "\""

def quoteChar (c : Char) : String := "'" ++ escape '\'' c ++ "'"

end TokenClaim.Text
