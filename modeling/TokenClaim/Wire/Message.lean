import TokenClaim.Text.Utf8
import TokenClaim.Wire.Varint
/-!
Messages of numbered fields. A reader takes fields in any order and any number of times: a later
value of a single field replaces an earlier one, a nested message goes on from what it already
holds, a list grows, and a field of an unknown number is passed over.
-/

set_option autoImplicit false

namespace TokenClaim.Wire

def depthLimit : Nat := 100

def expect (expected found : WireType) : Except Cause Unit :=
  if found = expected then .ok () else .error (.unexpected found expected)

section Repetition

variable {ε σ : Type}

/-- Take steps as long as more than `limit` bytes are left, and answer with what is left then. Each
step takes at least one byte. -/
def takeWhileAbove (step : σ → Bytes → Except ε (σ × Bytes)) (limit : Nat) (state : σ)
    (data : Bytes) : Except ε (σ × Bytes) :=
  if limit < data.length then
    match step state data with
    | .error fault => .error fault
    | .ok (next, rest) =>
      if rest.length < data.length then takeWhileAbove step limit next rest else .ok (next, rest)
  else .ok (state, data)
termination_by data.length

end Repetition

/-- Take steps through a part that a length introduces. The steps see the whole rest of the input;
the last one has to stop where the part ends. -/
def readPart {ε σ : Type} (fault : Cause → ε) (step : σ → Bytes → Except ε (σ × Bytes)) (state : σ)
    (data : Bytes) : Except ε (σ × Bytes) := do
  let (length, rest) ← (readLength data).mapError fault
  let limit := rest.length - length
  let (final, rest) ← takeWhileAbove step limit state rest
  if rest.length = limit then return (final, rest) else throw (fault .pastEnd)

def skipGroup (skipField : WireType → Nat → Bytes → Except Cause Bytes) (number : Nat)
    (data : Bytes) : Except Cause Bytes :=
  match readKey data with
  | .error cause => .error cause
  | .ok (inner, type, rest) =>
    if type = .groupEnd then if inner = number then .ok rest else .error .strayGroupEnd
    else match skipField type inner rest with
      | .error cause => .error cause
      | .ok rest =>
        if rest.length < data.length then skipGroup skipField number rest else .ok rest
termination_by data.length

def skipBytes (count : Nat) (data : Bytes) : Except Cause Bytes :=
  if data.length < count then .error .underflow else .ok (data.drop count)

def skip : Nat → WireType → Nat → Bytes → Except Cause Bytes
  | 0, _, _, _ => .error .tooDeep
  | _ + 1, .varint, _, data => (Varint.read data).map Prod.snd
  | _ + 1, .fixed64, _, data => skipBytes 8 data
  | _ + 1, .fixed32, _, data => skipBytes 4 data
  | _ + 1, .delimited, _, data => do
    let (length, rest) ← readLength data
    skipBytes length rest
  | depth + 1, .groupStart, number, data => skipGroup (skip depth) number data
  | _ + 1, .groupEnd, _, _ => .error .strayGroupEnd

/-- The values of one field: how one is laid out, and which value a message without the field
has. -/
structure Scalar (α : Type) where
  absent : α
  type : WireType
  read : Bytes → Except Cause (α × Bytes)
  write : α → Bytes

namespace Scalar

def word64 : Scalar UInt64 where
  absent := 0
  type := .varint
  read data := do
    let (value, rest) ← Varint.read data
    return (UInt64.ofNat value, rest)
  write value := Varint.write value.toNat

def word32 : Scalar UInt32 where
  absent := 0
  type := .varint
  read data := do
    let (value, rest) ← Varint.read data
    -- Of a longer number the low bits are kept.
    return (UInt32.ofNat value, rest)
  write value := Varint.write value.toNat

def flag : Scalar Bool where
  absent := false
  type := .varint
  read data := do
    let (value, rest) ← Varint.read data
    return (value != 0, rest)
  write value := [if value then 1 else 0]

def bytes : Scalar Bytes where
  absent := []
  type := .delimited
  read data := do
    let (length, rest) ← readLength data
    return (rest.take length, rest.drop length)
  write value := Varint.write value.length ++ value

def text : Scalar String where
  absent := ""
  type := .delimited
  read data := do
    let (value, rest) ← bytes.read data
    match Text.ofUtf8? value with
    | some text => return (text, rest)
    | none => throw .notText
  write value := bytes.write (Text.utf8 value)

end Scalar

structure Field (M : Type) where
  number : Nat
  name : String
  /-- Take in one more value of the field, inside at most `depth` messages and groups. -/
  merge : (depth : Nat) → WireType → M → Bytes → Except Fault (M × Bytes)
  write : M → Bytes

structure Schema (M : Type) where
  name : String
  empty : M
  fields : List (Field M)

def Fault.of (cause : Cause) : Fault := ⟨[], cause⟩

section Fields

variable {M α : Type}

def Scalar.readAs (scalar : Scalar α) (type : WireType) (data : Bytes) :
    Except Cause (α × Bytes) := do
  expect scalar.type type
  scalar.read data

def Scalar.writeField (scalar : Scalar α) (number : Nat) (value : α) : Bytes :=
  writeKey number scalar.type ++ scalar.write value

/-- A single value, not written where it is the absent one. -/
def Field.single [DecidableEq α] (number : Nat) (name : String) (scalar : Scalar α) (get : M → α)
    (set : α → M → M) : Field M where
  number := number
  name := name
  merge _ type message data := do
    let (value, rest) ← (scalar.readAs type data).mapError Fault.of
    return (set value message, rest)
  write message := if get message = scalar.absent then [] else scalar.writeField number (get message)

def Field.optional (number : Nat) (name : String) (scalar : Scalar α) (get : M → Option α)
    (set : Option α → M → M) : Field M where
  number := number
  name := name
  merge _ type message data := do
    let (value, rest) ← (scalar.readAs type data).mapError Fault.of
    return (set (some value) message, rest)
  write message := match get message with
    | some value => scalar.writeField number value
    | none => []

def Field.repeated (number : Nat) (name : String) (scalar : Scalar α) (get : M → List α)
    (set : List α → M → M) : Field M where
  number := number
  name := name
  merge _ type message data := do
    let (value, rest) ← (scalar.readAs type data).mapError Fault.of
    return (set (get message ++ [value]) message, rest)
  write message := (get message).flatMap (scalar.writeField number)

/-- A list written as one part. It is read as such, or value by value. -/
def Field.packed (number : Nat) (name : String) (scalar : Scalar α) (get : M → List α)
    (set : List α → M → M) : Field M where
  number := number
  name := name
  merge _ type message data :=
    if type = .delimited then do
      let element (values : List α) (data : Bytes) : Except Fault (List α × Bytes) := do
        let (value, rest) ← (scalar.read data).mapError Fault.of
        return (values ++ [value], rest)
      let (values, rest) ← readPart Fault.of element (get message) data
      return (set values message, rest)
    else do
      let (value, rest) ← (scalar.readAs type data).mapError Fault.of
      return (set (get message ++ [value]) message, rest)
  write message :=
    if (get message).isEmpty then []
    else Scalar.bytes.writeField number ((get message).flatMap scalar.write)

end Fields

namespace Schema

variable {M N : Type}

def write (schema : Schema M) (message : M) : Bytes :=
  schema.fields.flatMap fun field => field.write message

def mergeField (schema : Schema M) (depth : Nat) (message : M) (data : Bytes) :
    Except Fault (M × Bytes) := do
  let (number, type, rest) ← (readKey data).mapError Fault.of
  match schema.fields.find? (·.number == number) with
  | some field => (field.merge depth type message rest).mapError (Fault.within schema.name field.name)
  | none => return (message, ← (skip depth type number rest).mapError Fault.of)

def read (schema : Schema M) (data : Bytes) : Except Fault M := do
  let (message, _) ← takeWhileAbove (schema.mergeField depthLimit) 0 schema.empty data
  return message

def asField (schema : Schema M) (number : Nat) (name : String) (get : N → Option M)
    (set : Option M → N → N) : Field N where
  number := number
  name := name
  merge depth type outer data := do
    (expect .delimited type).mapError Fault.of
    match depth with
    | 0 => throw (Fault.of .tooDeep)
    | depth + 1 =>
      let start := (get outer).getD schema.empty
      let (message, rest) ← readPart Fault.of (schema.mergeField depth) start data
      return (set (some message) outer, rest)
  write outer := match get outer with
    | some message => Scalar.bytes.writeField number (schema.write message)
    | none => []

end Schema

end TokenClaim.Wire
