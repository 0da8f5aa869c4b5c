import TokenClaim.Text.Utf8
/-!
Layouts of stored records: numbers have a fixed width, least significant byte first; a string of
bytes, a text and a list have their length in front, in four bytes; an optional value has a byte 0
or 1 in front.
-/

set_option autoImplicit false

namespace TokenClaim.Record

inductive Fault where
  | unexpectedEnd
  | badFlag (byte : UInt8)
  | badPresence (byte : UInt8)
  | badVariant (byte : UInt8)
  | notText (fault : Text.Utf8Fault)
  /-- A length that four bytes cannot hold; only writing can meet it. -/
  | tooLong
  deriving DecidableEq

def Fault.message : Fault → String
  | unexpectedEnd => "Unexpected length of input"
  | badFlag byte => s!"Invalid bool representation: {byte.toNat}"
  | badPresence byte =>
    s!"Invalid Option representation: {byte.toNat}. The first byte must be 0 or 1"
  | badVariant byte => s!"Unexpected variant tag: {byte.toNat}"
  | notText fault => fault.message
  | tooLong => "invalid input parameter"

/-- How values of a type are written, which of them can be written, and how they are read off the
front of a byte string. -/
structure Layout (α : Type) where
  write : α → Bytes
  fits : α → Bool
  read : Bytes → Except Fault (α × Bytes)

namespace Layout

variable {α β : Type}

def take (count : Nat) (data : Bytes) : Except Fault (Bytes × Bytes) :=
  if data.length < count then .error .unexpectedEnd else .ok (data.take count, data.drop count)

def takeByte : Bytes → Except Fault (UInt8 × Bytes)
  | [] => .error .unexpectedEnd
  | byte :: rest => .ok (byte, rest)

def byte : Layout UInt8 where
  write value := [value]
  fits _ := true
  read := takeByte

def word64 : Layout UInt64 where
  write := Word64.toBytes
  fits _ := true
  read data := do
    let (bytes, rest) ← take 8 data
    return (Word64.ofBytes bytes, rest)

def flag : Layout Bool where
  write value := [if value then 1 else 0]
  fits _ := true
  read data := do
    let (byte, rest) ← takeByte data
    if byte = 0 then return (false, rest)
    else if byte = 1 then return (true, rest)
    else throw (.badFlag byte)

def octets (n : Nat) : Layout (Octets n) where
  write := Octets.toBytes
  fits _ := true
  read data :=
    match Octets.ofBytes? n (data.take n) with
    | some value => .ok (value, data.drop n)
    | none => .error .unexpectedEnd

def writeCount (count : Nat) : Bytes := LittleEndian.write 4 count

def readCount (data : Bytes) : Except Fault (Nat × Bytes) := do
  let (bytes, rest) ← take 4 data
  return (LittleEndian.read bytes, rest)

def countFits (count : Nat) : Bool := count < UInt32.size

def bytes : Layout Bytes where
  write value := writeCount value.length ++ value
  fits value := countFits value.length
  read data := do
    let (count, rest) ← readCount data
    take count rest

def text : Layout String where
  write value := bytes.write (Text.utf8 value)
  fits value := bytes.fits (Text.utf8 value)
  read data := do
    let (value, rest) ← bytes.read data
    match Text.ofUtf8 value with
    | .ok text => return (text, rest)
    | .error fault => throw (.notText fault)

def optional (layout : Layout α) : Layout (Option α) where
  write
    | none => [0]
    | some value => 1 :: layout.write value
  fits
    | none => true
    | some value => layout.fits value
  read data := do
    let (byte, rest) ← takeByte data
    if byte = 0 then return (none, rest)
    else if byte = 1 then
      let (value, rest) ← layout.read rest
      return (some value, rest)
    else throw (.badPresence byte)

def readMany (layout : Layout α) : Nat → Bytes → Except Fault (List α × Bytes)
  | 0, data => .ok ([], data)
  | count + 1, data => do
    let (value, rest) ← layout.read data
    let (values, rest) ← readMany layout count rest
    return (value :: values, rest)

def list (layout : Layout α) : Layout (List α) where
  write values := writeCount values.length ++ values.flatMap layout.write
  fits values := countFits values.length && values.all layout.fits
  read data := do
    let (count, rest) ← readCount data
    readMany layout count rest

def pair (first : Layout α) (second : Layout β) : Layout (α × β) where
  write value := first.write value.1 ++ second.write value.2
  fits value := first.fits value.1 && second.fits value.2
  read data := do
    let (a, rest) ← first.read data
    let (b, rest) ← second.read rest
    return ((a, b), rest)

def reshape (layout : Layout α) (forth : α → β) (back : β → α) : Layout β where
  write value := layout.write (back value)
  fits value := layout.fits (back value)
  read data := do
    let (value, rest) ← layout.read data
    return (forth value, rest)

end Layout

end TokenClaim.Record
