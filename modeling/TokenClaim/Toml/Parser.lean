import TokenClaim.Toml.Scalar
import TokenClaim.Toml.Table
/-!
Reading TOML texts: keys, values, and the lines that give values to keys or open tables.
-/

set_option autoImplicit false

namespace TokenClaim.Toml

/-- How many names a key may have, and how deep arrays and tables may be nested in a value. -/
def maxDepth : Nat := 79

def isBareKey (c : Char) : Bool := c.isAlphanum || c == '_' || c == '-'

def readName (text : List Char) : Option (String × List Char) :=
  let name := text.takeWhile isBareKey
  if name.isEmpty then (readLine text).map fun (name, rest) => (String.ofList name, rest)
  else some (String.ofList name, text.drop name.length)

def readKey : (parts : Nat) → List Char → Option (Key × List Char)
  | 0, _ => none
  | parts + 1, text => do
    let (name, rest) ← readName (text.dropWhile isSpace)
    match rest.dropWhile isSpace with
    | '.' :: rest =>
      let (key, rest) ← readKey parts rest
      return ({ key with tables := name :: key.tables }, rest)
    | rest => return (⟨[], name⟩, rest)

/-- Pass over blanks, line breaks and comments between the items of an array. Each comment has an end
of its line; `inComment` says that it is being passed over. -/
def skipLines : (inComment : Bool) → List Char → Option (List Char)
  | _, '\n' :: rest => skipLines false rest
  | _, '\r' :: '\n' :: rest => skipLines false rest
  | true, c :: rest => if isPlain c then skipLines true rest else none
  | true, [] => none
  | false, c :: rest =>
    if isSpace c then skipLines false rest
    else if c = '#' then skipLines true rest
    else some (c :: rest)
  | false, [] => some []

def inlineTable (pairs : List (Key × Value)) : Option Value := do
  let members ← pairs.foldlM
    (fun members (key, value) => Members.assign key value .header members) []
  return .table (closeMembers members)

mutual

/-- A value, in which arrays and tables may be nested `depth` levels deep. Every call takes a step
off `fuel`. -/
def readValue : (fuel depth : Nat) → List Char → Option (Value × List Char)
  | 0, _, _ => none
  | fuel + 1, depth, text =>
    match text, depth with
    | '[' :: _, 0 => none
    | '\x7b' :: _, 0 => none
    | '[' :: rest, depth + 1 => do
      let (items, rest) ← readItems fuel depth rest
      return (.array items, rest)
    | '\x7b' :: rest, depth + 1 =>
      match rest.dropWhile isSpace with
      | '\x7d' :: rest => some (.table [], rest)
      | rest => do
        let (pairs, rest) ← readPairs fuel depth rest
        return (← inlineTable pairs, rest)
    | '"' :: _, _ => (readText text).map fun (value, rest) => (.text (String.ofList value), rest)
    | '\'' :: _, _ => (readText text).map fun (value, rest) => (.text (String.ofList value), rest)
    | text, _ => do
      let (written, rest) := spanBare text
      return (← bareValue? written, rest)

def readItems : (fuel depth : Nat) → List Char → Option (List Value × List Char)
  | 0, _, _ => none
  | fuel + 1, depth, text => do
    match ← skipLines false text with
    | ']' :: rest => return ([], rest)
    | start =>
      let (item, rest) ← readValue fuel depth start
      match ← skipLines false rest with
      | ',' :: rest =>
        let (items, rest) ← readItems fuel depth rest
        return (item :: items, rest)
      | ']' :: rest => return ([item], rest)
      | _ => none

def readPairs : (fuel depth : Nat) → List Char → Option (List (Key × Value) × List Char)
  | 0, _, _ => none
  | fuel + 1, depth, text => do
    match ← readKey maxDepth text with
    | (key, '=' :: rest) =>
      let (value, rest) ← readValue fuel depth (rest.dropWhile isSpace)
      match rest.dropWhile isSpace with
      | ',' :: rest =>
        let (pairs, rest) ← readPairs fuel depth rest
        return ((key, value) :: pairs, rest)
      | '\x7d' :: rest => return ([(key, value)], rest)
      | _ => none
    | _ => none

end

inductive Statement where
  | nothing
  | table (key : Key)
  | element (key : Key)
  | member (key : Key) (value : Value)

def endLine (text : List Char) : Option (List Char) :=
  let rest := match text.dropWhile isSpace with
    | '#' :: rest => rest.dropWhile isPlain
    | rest => rest
  if rest.isEmpty then some [] else afterNewline? rest

def readStatement (text : List Char) : Option (Statement × List Char) :=
  match text.dropWhile isSpace with
  | [] => some (.nothing, [])
  | '#' :: rest => some (.nothing, '#' :: rest)
  | '\n' :: rest => some (.nothing, '\n' :: rest)
  | '\r' :: rest => some (.nothing, '\r' :: rest)
  -- No blank may stand between the two brackets.
  | '[' :: '[' :: rest => do
    match ← readKey maxDepth rest with
    | (key, ']' :: ']' :: rest) => return (.element key, rest)
    | _ => none
  | '[' :: rest => do
    match ← readKey maxDepth rest with
    | (key, ']' :: rest) => return (.table key, rest)
    | _ => none
  | rest => do
    match ← readKey maxDepth rest with
    | (key, '=' :: rest) =>
      let (value, rest) ← readValue (2 * rest.length + 2) maxDepth (rest.dropWhile isSpace)
      return (.member key value, rest)
    | _ => none

def readStatements (text : List Char) : Option (List Statement) :=
  if text.isEmpty then some []
  else do
    let (statement, rest) ← readStatement text
    let rest ← endLine rest
    if rest.length < text.length then
      let statements ← readStatements rest
      return statement :: statements
    else none
termination_by text.length

/-- The tables so far, and the path to the one that keys without a header of their own belong to. -/
structure Progress where
  members : Members
  path : List String

def Progress.add (progress : Progress) : Statement → Option Progress
  | .nothing => some progress
  | .table key => do
    return ⟨← progress.members.openTable key, key.tables ++ [key.name]⟩
  | .element key => do
    return ⟨← progress.members.openElement key, key.tables ++ [key.name]⟩
  | .member key value => do
    let members ← Members.change .implied (Members.assign key value) progress.path .header
      progress.members
    return ⟨members, progress.path⟩

def dropOrderMark : List Char → List Char
  | '\uFEFF' :: rest => rest
  | text => text

def parse? (text : String) : Option Value := do
  let statements ← readStatements (dropOrderMark text.toList)
  let progress ← statements.foldlM Progress.add ⟨[], []⟩
  return .table (closeMembers progress.members)

end TokenClaim.Toml
