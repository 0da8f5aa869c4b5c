import TokenClaim.Json.Literal
import TokenClaim.Text.Numeral
/-!
Reading JSON texts.
-/

set_option autoImplicit false

namespace TokenClaim.Json

def isSpace (c : Char) : Bool := c == ' ' || c == '\n' || c == '\t' || c == '\r'

/-- What a string literal is made of: characters, and UTF-16 code units written by their number. -/
inductive Piece where
  | char (c : Char)
  | unit (value : Nat)

/-- The text of pieces, if every half of a surrogate pair has its other half next to it. -/
def textOf : List Piece → Option (List Char)
  | [] => some []
  | .char c :: rest => (textOf rest).map (c :: ·)
  | .unit high :: .unit low :: rest =>
    if 0xD800 ≤ high ∧ high < 0xDC00 then
      if 0xDC00 ≤ low ∧ low < 0xE000 then
        (textOf rest).map
          (Char.ofNat (0x10000 + (high - 0xD800) * 0x400 + (low - 0xDC00)) :: ·)
      else none
    else if 0xDC00 ≤ high ∧ high < 0xE000 then none
    else (textOf (.unit low :: rest)).map (Char.ofNat high :: ·)
  | .unit value :: rest =>
    if 0xD800 ≤ value ∧ value < 0xE000 then none else (textOf rest).map (Char.ofNat value :: ·)

def fourDigitValue? (digits : List Char) : Option Nat :=
  digits.foldlM (fun value c => (Text.Numeral.digit? 16 c).map (value * 16 + ·)) 0

def shortEscape? : Char → Option Char
  | '"' => some '"'
  | '\\' => some '\\'
  | '/' => some '/'
  | 'b' => some '\x08'
  | 'f' => some '\x0c'
  | 'n' => some '\n'
  | 'r' => some '\r'
  | 't' => some '\t'
  | _ => none

def readPieces : List Char → Option (List Piece × List Char)
  | '"' :: rest => some ([], rest)
  | '\\' :: 'u' :: a :: b :: c :: d :: rest => do
    let value ← fourDigitValue? [a, b, c, d]
    let (pieces, rest) ← readPieces rest
    return (.unit value :: pieces, rest)
  | '\\' :: c :: rest => do
    let c ← shortEscape? c
    let (pieces, rest) ← readPieces rest
    return (.char c :: pieces, rest)
  | c :: rest =>
    if c.toNat < 0x20 then none
    else do
      let (pieces, rest) ← readPieces rest
      return (.char c :: pieces, rest)
  | [] => none

def readString (text : List Char) : Option (Option String × List Char) :=
  (readPieces text).map fun (pieces, rest) => ((textOf pieces).map String.ofList, rest)

def skipDigits (text : List Char) : Option (List Char) :=
  let rest := text.dropWhile Char.isDigit
  if rest.length < text.length then some rest else none

def skipExponent : List Char → Option (List Char)
  | 'e' :: '+' :: rest | 'e' :: '-' :: rest | 'E' :: '+' :: rest | 'E' :: '-' :: rest
  | 'e' :: rest | 'E' :: rest => skipDigits rest
  | rest => some rest

def skipFraction : List Char → Option (List Char)
  | '.' :: rest => skipDigits rest
  | rest => some rest

/-- The digits before the point. A number does not start with zero unless it is zero there. -/
def readWhole (text : List Char) : Option (Nat × List Char) := do
  let digits := text.takeWhile Char.isDigit
  if digits.isEmpty then none
  if digits.head? = some '0' ∧ 1 < digits.length then none
  return (digits.foldl (fun value c => value * 10 + (c.toNat - 48)) 0, text.drop digits.length)

def readNumber : List Char → Option (Literal × List Char)
  | '-' :: rest => do
    let (_, rest) ← readWhole rest
    return (.other, ← skipExponent (← skipFraction rest))
  | text => do
    let (value, whole) ← readWhole text
    let rest ← skipExponent (← skipFraction whole)
    return (if rest.length = whole.length then .natural value else .other, rest)

mutual

/-- One value, after any blanks. Every call takes a step off `fuel`. -/
def readValue : (fuel : Nat) → List Char → Option (Literal × List Char)
  | 0, _ => none
  | fuel + 1, text =>
    match text.dropWhile isSpace with
    | 'n' :: 'u' :: 'l' :: 'l' :: rest => some (.null, rest)
    | 't' :: 'r' :: 'u' :: 'e' :: rest => some (.bool true, rest)
    | 'f' :: 'a' :: 'l' :: 's' :: 'e' :: rest => some (.bool false, rest)
    | '"' :: rest => (readString rest).map fun (text, rest) => (.string text, rest)
    | '[' :: rest =>
      match rest.dropWhile isSpace with
      | ']' :: rest => some (.array [], rest)
      | rest => do
        let (items, rest) ← readItems fuel rest
        return (.array items, rest)
    | '\x7b' :: rest =>
      match rest.dropWhile isSpace with
      | '\x7d' :: rest => some (.object [], rest)
      | rest => do
        let (members, rest) ← readMembers fuel rest
        return (.object members, rest)
    | text => readNumber text

def readItems : (fuel : Nat) → List Char → Option (List Literal × List Char)
  | 0, _ => none
  | fuel + 1, text => do
    let (item, rest) ← readValue fuel text
    match rest.dropWhile isSpace with
    | ']' :: rest => return ([item], rest)
    | ',' :: rest =>
      let (items, rest) ← readItems fuel rest
      return (item :: items, rest)
    | _ => none

def readMembers : (fuel : Nat) → List Char → Option (List (Option String × Literal) × List Char)
  | 0, _ => none
  | fuel + 1, text =>
    match text.dropWhile isSpace with
    | '"' :: rest => do
      let (name, rest) ← readString rest
      match rest.dropWhile isSpace with
      | ':' :: rest =>
        let (value, rest) ← readValue fuel rest
        match rest.dropWhile isSpace with
        | '\x7d' :: rest => return ([(name, value)], rest)
        | ',' :: rest =>
          let (members, rest) ← readMembers fuel rest
          return ((name, value) :: members, rest)
        | _ => none
      | _ => none
    | _ => none

end

def parse? (text : String) : Option Literal := do
  let characters := text.toList
  let (value, rest) ← readValue (2 * characters.length + 2) characters
  if rest.all isSpace then some value else none

end TokenClaim.Json
