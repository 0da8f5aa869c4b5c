import TokenClaim.Failure
import TokenClaim.Text.Utf8
/-!
The files that a command reads.
-/

set_option autoImplicit false

namespace TokenClaim.CommandLine

inductive FileFault where
  | missing
  | directory
  | notDirectory
  | nameTooLong
  | other (text : String)
  deriving DecidableEq

def FileFault.message : FileFault → String
  | missing => "No such file or directory (os error 2)"
  | directory => "Is a directory (os error 21)"
  | notDirectory => "Not a directory (os error 20)"
  | nameTooLong => "File name too long (os error 36)"
  | other text => text

abbrev Files := String → Except FileFault Bytes

namespace Files

/-- Read a file; `what` says what was to be read if that fails. -/
def read (files : Files) (what path : String) : Except Failure Bytes :=
  (files path).mapError fun fault => ⟨s!"Failed to read {what}{path}", [fault.message]⟩

def readText (files : Files) (what path : String) : Except Failure String := do
  match Text.ofUtf8? (← files.read what path) with
  | some text => return text
  | none => throw ⟨s!"Failed to read {what}{path}", ["stream did not contain valid UTF-8"]⟩

end Files

end TokenClaim.CommandLine
