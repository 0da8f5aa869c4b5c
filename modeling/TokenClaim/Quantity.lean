import TokenClaim.Checked
import TokenClaim.Refusal
/-!
Quantities and addresses as text, amounts of the source chain, and the number of an intent.
-/

set_option autoImplicit false

namespace TokenClaim

/-- The number of an intent that no number was given to: the sum without carry of its eight-byte
words. -/
def foldWords : Bytes → Option UInt64
  | [] => some 0
  | b0 :: b1 :: b2 :: b3 :: b4 :: b5 :: b6 :: b7 :: rest =>
    (foldWords rest).map (Word64.ofBytes [b0, b1, b2, b3, b4, b5, b6, b7] ^^^ ·)
  | _ => none

def foldIntent (intent : Bytes) : Result UInt64 :=
  match foldWords intent with
  | some word => .ok word
  | none => .error (.malformed (.intentLength intent.length))

def dropQuantityMark : List Char → List Char
  | '0' :: 'x' :: rest => rest
  | '0' :: 'X' :: rest => rest
  | text => text

def readHexQuantity (text : String) : Result UInt64 :=
  let digits := dropQuantityMark text.toList
  if digits.isEmpty then .error (.malformed (.emptyQuantity text))
  else match Text.Numeral.readWord64 16 digits with
    | .ok value => .ok value
    | .error fault => .error (.malformed (.badQuantity text fault))

namespace EthAddress

def parse (text : String) : Result EthAddress :=
  match Text.Hex.decode (String.ofList (Text.Hex.dropMarks text.toList)) with
  | .error fault => .error (.malformed (.badAddress text fault))
  | .ok bytes =>
    match Octets.ofBytes? 20 bytes with
    | some address => .ok address
    | none => .error (.malformed (.addressLength bytes.length))

def toText (address : EthAddress) : String := Text.Hex.encodeMarked address.toBytes

end EthAddress

namespace SourceAmount

def maxDecimals : Nat := 9

def limit : Nat := word128Size * word128Size

def div? (amount divisor : Nat) : Option Nat :=
  if divisor = 0 then none else some (amount / divisor)

def mul? (amount factor : Nat) : Option Nat :=
  if amount * factor < limit then some (amount * factor) else none

def dropDecimals (units dropped : Nat) : Result (Option Nat) := do
  let scale := Nat.pow 10 dropped
  let kept ← orOverflow (div? units scale)
  let restored ← orOverflow (mul? kept scale)
  return if restored = units then some kept else none

/-- Drop `dropped` decimals of a whole number of units, then one more at a time as long as what is
dropped is zero, until the rest fits in 64 bits. -/
def fitFrom (units more dropped : Nat) : Result (Option (UInt64 × UInt8)) := do
  match ← dropDecimals units dropped with
  | none => return none
  | some kept =>
    match Word64.ofNat? kept with
    | some amount => return some (amount, UInt8.ofNat (maxDecimals - dropped))
    | none =>
      match more with
      | 0 => return none
      | more + 1 => fitFrom units more (dropped + 1)

/-- Bring an amount with 18 decimals to at most nine. What is below the ninth is cut off; decimals
above it are only dropped where they are zero. -/
def normalize (amount : Nat) : Result (UInt64 × UInt8) := do
  let units ← orOverflow (div? amount (Nat.pow 10 maxDecimals))
  match ← fitFrom units maxDecimals 0 with
  | some result => return result
  | none => throw (.malformed (.amountTooLarge amount))

inductive Fault where
  | badDigit (code : UInt8)
  | tooLarge
  deriving DecidableEq

def Fault.message : Fault → String
  | badDigit code => s!"invalid digit: {Char.ofNat code.toNat}"
  | tooLarge => "the value is too large to fit the target type"

def splitBase : List Char → Nat × List Char
  | '0' :: 'x' :: rest => (16, rest)
  | '0' :: 'X' :: rest => (16, rest)
  | '0' :: 'o' :: rest => (8, rest)
  | '0' :: 'O' :: rest => (8, rest)
  | '0' :: 'b' :: rest => (2, rest)
  | '0' :: 'B' :: rest => (2, rest)
  | text => (10, text)

def digitOf (base : Nat) (code : UInt8) : Except Fault (Option Nat) :=
  -- An underscore divides digits.
  if code = 0x5F then .ok none
  else match Text.Numeral.digit? base (Char.ofNat code.toNat) with
    | some digit => .ok (some digit)
    | none => .error (.badDigit code)

/-- Add digits to a number, the lowest digit first; the next one counts `unit`. The number has to
fit at each digit, so of two faults the one further right in the text is told. -/
def readUpwards (base : Nat) : (unit value : Nat) → Bytes → Except Fault Nat
  | _, value, [] => .ok value
  | unit, value, code :: rest => do
    match ← digitOf base code with
    | none => readUpwards base unit value rest
    | some digit =>
      if value + digit * unit < limit then readUpwards base (unit * base) (value + digit * unit) rest
      else .error .tooLarge

def groupLength : Nat := 19

/-- Add decimal digits to a number, the highest digit first. The number has to fit where a group
ends, after `more` digits and the next one, and where the text ends: inside a group it may grow too
large, and a bad digit there is told first. -/
def readGroups : (more value : Nat) → Bytes → Except Fault Nat
  | _, value, [] => if value < limit then .ok value else .error .tooLarge
  | more, value, code :: rest => do
    match ← digitOf 10 code, more with
    | none, more => readGroups more value rest
    | some digit, more + 1 => readGroups more (value * 10 + digit) rest
    | some digit, 0 =>
      if value * 10 + digit < limit then readGroups (groupLength - 1) (value * 10 + digit) rest
      else .error .tooLarge

def parse (text : String) : Except Fault Nat :=
  let (base, digits) := splitBase text.toList
  let codes := Text.utf8 (String.ofList digits)
  -- The other bases are powers of two; their digits are read from the last to the first.
  if base = 10 then readGroups (groupLength - 1) 0 codes
  else readUpwards base 1 0 codes.reverse

end SourceAmount

end TokenClaim
