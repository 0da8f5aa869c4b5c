import TokenClaim.CommandLine.Run
/-!
The program: real arguments, variables and files.
-/

set_option autoImplicit false

namespace TokenClaim.CommandLine

/-- Read a file. Some calls hand the system's number of a fault on with a minus sign. -/
def readFile (path : String) : IO (Except FileFault Bytes) := do
  try
    return .ok (← IO.FS.readBinFile path).toList
  catch
    | .noFileOrDirectory .. => return .error .missing
    | .inappropriateType _ code details =>
      let number := min code (-code)
      if number = 20 then return .error .notDirectory
      if number = 21 then return .error .directory
      return .error (.other s!"{details} (os error {number})")
    | .invalidArgument _ code details =>
      let number := min code (-code)
      if number = 36 then return .error .nameTooLong
      return .error (.other s!"{details} (os error {number})")
    | fault => return .error (.other (toString fault))

def readFiles (paths : List String) : IO Files := do
  let contents ← paths.mapM fun path => return (path, ← readFile path)
  return fun path => ((contents.find? (·.1 = path)).map Prod.snd).getD (.error .missing)

def program (words : List String) : IO UInt32 := do
  let names := ["VAMP_CONFIG", "VAMP_AUTHORITY", "ETHEREUM_PRIVATE_KEY"]
  let values ← names.mapM fun name => return (name, ← IO.getEnv name)
  let environment (name : String) : Option String :=
    (values.find? (·.1 = name)).bind Prod.snd
  let paths := ((Invocation.parse? environment words).map Invocation.paths).getD []
  match run environment (← readFiles paths) words with
  | .output text =>
    IO.print text
    return 0
  | .failure failure =>
    IO.eprintln ("Error: " ++ failure.report)
    return 1
  | .misuse =>
    IO.eprintln "error: the arguments are not in order"
    return 2

end TokenClaim.CommandLine

def main (words : List String) : IO UInt32 := TokenClaim.CommandLine.program words
