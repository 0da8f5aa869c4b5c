import TokenClaim.Bytes
/-!
Text as UTF-8 bytes, and where bytes that are not UTF-8 go wrong.
-/

set_option autoImplicit false

namespace TokenClaim.Text

def utf8 (text : String) : Bytes := text.toByteArray.data.toList

/-- What stands after the longest readable beginning, which ends before byte `index`: a sequence
whose first `length` bytes no character has, or one that the end of the input cuts short. -/
inductive Utf8Fault where
  | invalid (length index : Nat)
  | incomplete (index : Nat)
  deriving DecidableEq

namespace Utf8Fault

def message : Utf8Fault → String
  | invalid length index => s!"invalid utf-8 sequence of {length} bytes from index {index}"
  | incomplete index => s!"incomplete utf-8 byte sequence from index {index}"

/-- How a character that starts with a given byte goes on: the bounds of its second byte, and the
number of continuation bytes after that. -/
def tailOf (first : UInt8) : Option (UInt8 × UInt8 × Nat) :=
  if 0xC2 ≤ first && first ≤ 0xDF then some (0x80, 0xBF, 0)
  else if first == 0xE0 then some (0xA0, 0xBF, 1)
  else if first == 0xED then some (0x80, 0x9F, 1)
  else if 0xE1 ≤ first && first ≤ 0xEF then some (0x80, 0xBF, 1)
  else if first == 0xF0 then some (0x90, 0xBF, 2)
  else if 0xF1 ≤ first && first ≤ 0xF3 then some (0x80, 0xBF, 2)
  else if first == 0xF4 then some (0x80, 0x8F, 2)
  else none

def tail (index good : Nat) : List (UInt8 × UInt8) → Bytes → Except Utf8Fault Bytes
  | [], rest => .ok rest
  | _ :: _, [] => .error (.incomplete index)
  | (low, high) :: owed, byte :: rest =>
    if low ≤ byte && byte ≤ high then tail index (good + 1) owed rest
    else .error (.invalid good index)

def character (index : Nat) (first : UInt8) (rest : Bytes) : Except Utf8Fault Bytes :=
  if first < 0x80 then .ok rest
  else match tailOf first with
    | none => .error (.invalid 1 index)
    | some (low, high, more) =>
      tail index 1 ((low, high) :: List.replicate more (0x80, 0xBF)) rest

def find? (index : Nat) (bytes : Bytes) : Option Utf8Fault :=
  match bytes with
  | [] => none
  | first :: rest =>
    match character index first rest with
    | .error fault => some fault
    | .ok after =>
      if after.length ≤ rest.length then find? (index + (rest.length + 1 - after.length)) after
      else none
termination_by bytes.length

end Utf8Fault

def ofUtf8? (bytes : Bytes) : Option String :=
  if valid : (ByteArray.mk bytes.toArray).IsValidUTF8 then
    some (String.ofByteArray (ByteArray.mk bytes.toArray) valid)
  else none

def ofUtf8 (bytes : Bytes) : Except Utf8Fault String :=
  match ofUtf8? bytes with
  | some text => .ok text
  | none => .error ((Utf8Fault.find? 0 bytes).getD (.incomplete bytes.length))

theorem ofUtf8?_utf8 (text : String) : ofUtf8? (utf8 text) = some text := by
  have same : ByteArray.mk (utf8 text).toArray = text.toByteArray := by
    simp [utf8]
  unfold ofUtf8?
  rw [dif_pos (same ▸ text.isValidUTF8)]
  congr 1

theorem utf8_of_ofUtf8? {bytes : Bytes} {text : String} (read : ofUtf8? bytes = some text) :
    utf8 text = bytes := by
  unfold ofUtf8? at read
  split at read
  · cases read
    simp [utf8]
  · cases read

end TokenClaim.Text
