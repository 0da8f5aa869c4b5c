import TokenClaim.Text.Blank
import TokenClaim.Text.Hex
/-!
The bytes that a file stands for. A file whose text is nothing but hexadecimal digits, with blanks
around them and `0x` in front, stands for the bytes they write; any other file stands for itself.
-/

set_option autoImplicit false

namespace TokenClaim.FileContent

def isHexDigit (c : Char) : Bool :=
  c.isDigit || ('a' ≤ c && c ≤ 'f') || ('A' ≤ c && c ≤ 'F')

def digits? (content : Bytes) : Option (List Char) := do
  let text ← Text.ofUtf8? content
  let digits := Text.Hex.dropMarks (Text.trim text.toList)
  if !digits.isEmpty ∧ digits.all isHexDigit then some digits else none

def bytes (content : Bytes) : Except Text.Hex.Fault Bytes :=
  match digits? content with
  | some digits => Text.Hex.decode (String.ofList digits)
  | none => .ok content

end TokenClaim.FileContent
