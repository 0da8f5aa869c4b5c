import TokenClaim.Text.Numeral
import TokenClaim.Toml.Basic
/-!
Strings, numbers and points in time in a TOML text.
-/

set_option autoImplicit false

namespace TokenClaim.Toml

def isSpace (c : Char) : Bool := c == ' ' || c == '\t'

def isPlain (c : Char) : Bool := c == '\t' || (0x20 ≤ c.toNat && c.toNat != 0x7F)

def afterNewline? : List Char → Option (List Char)
  | '\n' :: rest => some rest
  | '\r' :: '\n' :: rest => some rest
  | _ => none

def scalar? (digits : List Char) : Option Char := do
  let value ← digits.foldlM (fun value c => (Text.Numeral.digit? 16 c).map (value * 16 + ·)) 0
  if value.isValidChar then some (Char.ofNat value) else none

def shortEscape? : Char → Option Char
  | 'b' => some '\x08'
  | 't' => some '\t'
  | 'n' => some '\n'
  | 'f' => some '\x0c'
  | 'r' => some '\r'
  | '"' => some '"'
  | '\\' => some '\\'
  | _ => none

def push (c : Char) : Option (List Char × List Char) → Option (List Char × List Char)
  | some (text, rest) => some (c :: text, rest)
  | none => none

/-- The rest of a string with escapes. One of several lines is closed by three quote marks, with up
to two more before them; a backslash at the end of a line joins it to the next text. `joining` says
that blanks and line breaks are being passed over. -/
def readBasic (lines : Bool) : (joining : Bool) → List Char → Option (List Char × List Char)
  | _, '\\' :: 'u' :: a :: b :: c :: d :: rest => do
    push (← scalar? [a, b, c, d]) (readBasic lines false rest)
  | _, '\\' :: 'U' :: a :: b :: c :: d :: e :: f :: g :: h :: rest => do
    push (← scalar? [a, b, c, d, e, f, g, h]) (readBasic lines false rest)
  | _, '\\' :: c :: rest =>
    match shortEscape? c with
    | some escaped => push escaped (readBasic lines false rest)
    | none =>
      if lines && (afterNewline? ((c :: rest).dropWhile isSpace)).isSome then
        readBasic lines true rest
      else none
  | _, '"' :: rest =>
    if lines then
      match rest with
      | '"' :: '"' :: '"' :: '"' :: rest => some (['"', '"'], rest)
      | '"' :: '"' :: '"' :: rest => some (['"'], rest)
      | '"' :: '"' :: rest => some ([], rest)
      | rest => push '"' (readBasic lines false rest)
    else some ([], rest)
  | joining, '\r' :: '\n' :: rest =>
    if joining then readBasic lines true rest
    else if lines then push '\n' (readBasic lines false rest)
    else none
  | joining, c :: rest =>
    if joining && (isSpace c || c == '\n') then readBasic lines true rest
    else if isPlain c || (lines && c == '\n') then push c (readBasic lines false rest)
    else none
  | _, [] => none

def readLiteral (lines : Bool) : List Char → Option (List Char × List Char)
  | '\'' :: rest =>
    if lines then
      match rest with
      | '\'' :: '\'' :: '\'' :: '\'' :: rest => some (['\'', '\''], rest)
      | '\'' :: '\'' :: '\'' :: rest => some (['\''], rest)
      | '\'' :: '\'' :: rest => some ([], rest)
      | rest => push '\'' (readLiteral lines rest)
    else some ([], rest)
  | '\r' :: '\n' :: rest => if lines then push '\n' (readLiteral lines rest) else none
  | c :: rest =>
    if isPlain c || (lines && c == '\n') then push c (readLiteral lines rest) else none
  | [] => none

def dropNewline (text : List Char) : List Char := (afterNewline? text).getD text

def readLine : List Char → Option (List Char × List Char)
  | '"' :: rest => readBasic false false rest
  | '\'' :: rest => readLiteral false rest
  | _ => none

def readText : List Char → Option (List Char × List Char)
  | '"' :: '"' :: '"' :: rest => readBasic true false (dropNewline rest)
  | '\'' :: '\'' :: '\'' :: rest => readLiteral true (dropNewline rest)
  | text => readLine text

def digits? (base : Nat) : List Char → Option (List Nat)
  | [c] => (Text.Numeral.digit? base c).map ([·])
  | c :: '_' :: rest => do return (← Text.Numeral.digit? base c) :: (← digits? base rest)
  | c :: rest => do return (← Text.Numeral.digit? base c) :: (← digits? base rest)
  | [] => none

def number? (base : Nat) (text : List Char) : Option Nat :=
  (digits? base text).map fun digits => digits.foldl (fun value d => value * base + d) 0

def splitSign : List Char → Bool × List Char
  | '+' :: rest => (false, rest)
  | '-' :: rest => (true, rest)
  | text => (false, text)

/-- A decimal number does not start with zero unless it is zero. -/
def whole? (text : List Char) : Option Nat :=
  match text with
  | ['0'] => some 0
  | '0' :: _ => none
  | text => number? 10 text

def integerLimit : Int := Int.ofNat (UInt64.size / 2)

def integer? (text : List Char) : Option Int := do
  let value : Int ← match text with
    | '0' :: 'x' :: digits => (number? 16 digits).map Int.ofNat
    | '0' :: 'o' :: digits => (number? 8 digits).map Int.ofNat
    | '0' :: 'b' :: digits => (number? 2 digits).map Int.ofNat
    | text =>
      let (negative, digits) := splitSign text
      (whole? digits).map fun value => if negative then -Int.ofNat value else Int.ofNat value
  if -integerLimit ≤ value ∧ value < integerLimit then some value else none

def splitAt (isMark : Char → Bool) (text : List Char) : List Char × Option (List Char) :=
  match text.dropWhile fun c => !isMark c with
  | [] => (text, none)
  | _ :: rest => (text.takeWhile fun c => !isMark c, some rest)

/-- From here on a number is nearer to `2 ^ 1024` than to the largest float below it. -/
def floatLimit : Nat := Nat.pow 2 1024 - Nat.pow 2 970

/-- Whether digits with the last `places` of them behind the point, times a power of ten, are too
many for a float. -/
def overflows (digits : List Char) (places : Nat) (exponent : Int) : Bool :=
  let value := (number? 10 digits).getD 0
  let shift := exponent - Int.ofNat places
  if 0 ≤ shift then
    value ≠ 0 && (309 < shift || floatLimit ≤ value * Nat.pow 10 shift.toNat)
  else
    shift.natAbs < digits.length && floatLimit * Nat.pow 10 shift.natAbs ≤ value

/-- A number with a fraction or an exponent, or one that is infinite or none. What is written in
digits stays below infinity. -/
def isFloat (text : List Char) : Bool :=
  let (negative, unsigned) := splitSign text
  if unsigned = "inf".toList ∨ unsigned = "nan".toList then true
  else
    let (mantissa, power) := splitAt (fun c => c == 'e' || c == 'E') unsigned
    let (front, fraction) := splitAt (· == '.') mantissa
    let (downward, powerDigits) := splitSign (power.getD ['0'])
    match whole? front, number? 10 (fraction.getD ['0']), number? 10 powerDigits with
    | some _, some _, some exponent =>
      let behind := (fraction.getD []).filter Char.isDigit
      (fraction.isSome || power.isSome) &&
        (negative ||
          !overflows (front ++ behind) behind.length
            (if downward then -Int.ofNat exponent else Int.ofNat exponent))
    | _, _, _ => false

def field? (count low high : Nat) (text : List Char) : Option Nat := do
  if text.length ≠ count ∨ !text.all Char.isDigit then none
  let value ← number? 10 text
  if low ≤ value ∧ value ≤ high then some value else none

def daysIn (year month : Nat) : Nat :=
  if month = 2 then
    if year % 4 = 0 ∧ (year % 100 ≠ 0 ∨ year % 400 = 0) then 29 else 28
  else if month = 4 ∨ month = 6 ∨ month = 9 ∨ month = 11 then 30
  else 31

def isDate (text : List Char) : Bool :=
  match text with
  | [y1, y2, y3, y4, '-', m1, m2, '-', d1, d2] => Option.isSome do
    let year ← field? 4 0 9999 [y1, y2, y3, y4]
    let month ← field? 2 1 12 [m1, m2]
    field? 2 1 (daysIn year month) [d1, d2]
  | _ => false

def isClock (text : List Char) : Bool :=
  match text with
  | [h1, h2, ':', m1, m2] =>
    (field? 2 0 23 [h1, h2]).isSome && (field? 2 0 59 [m1, m2]).isSome
  | _ => false

def isTime (text : List Char) : Bool :=
  isClock (text.take 5) &&
    match text.drop 5 with
    | ':' :: s1 :: s2 :: rest =>
      -- A minute may have a leap second.
      (field? 2 0 60 [s1, s2]).isSome &&
        match rest with
        | [] => true
        | '.' :: fraction => !fraction.isEmpty && fraction.all Char.isDigit
        | _ => false
    | _ => false

def isOffsetTime (text : List Char) : Bool :=
  let (time, zone) := splitAt (fun c => c == 'Z' || c == 'z' || c == '+' || c == '-') text
  let mark := (text.drop time.length).head?
  isTime time &&
    match zone with
    | none => true
    | some [] => mark == some 'Z' || mark == some 'z'
    | some clock => (mark == some '+' || mark == some '-') && isClock clock

def isMoment (text : List Char) : Bool :=
  isDate text || isTime text ||
    (isDate (text.take 10) &&
      match text.drop 10 with
      | mark :: time => (mark == 'T' || mark == 't' || mark == ' ') && isOffsetTime time
      | [] => false)

def isBareValue (c : Char) : Bool :=
  c.isAlphanum || c == '_' || c == '-' || c == '+' || c == '.' || c == ':'

/-- The characters of a value without marks of its own. A blank belongs to it between a date and a
time. -/
def spanBare (text : List Char) : List Char × List Char :=
  let first := text.takeWhile isBareValue
  match text.drop first.length with
  | ' ' :: c :: rest =>
    if isDate first && c.isDigit then
      let second := (c :: rest).takeWhile isBareValue
      (first ++ ' ' :: second, (c :: rest).drop second.length)
    else (first, ' ' :: c :: rest)
  | rest => (first, rest)

def bareValue? (text : List Char) : Option Value :=
  if text = "true".toList then some (.bool true)
  else if text = "false".toList then some (.bool false)
  else match integer? text with
    | some value => some (.integer value)
    | none =>
      if isFloat text then some .float else if isMoment text then some .moment else none

end TokenClaim.Toml
