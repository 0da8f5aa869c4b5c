/-!
The six ways a field's value is laid out in a message, and what can be wrong with a message.
-/

set_option autoImplicit false

namespace TokenClaim.Wire

inductive WireType where
  | varint
  | fixed64
  | delimited
  | groupStart
  | groupEnd
  | fixed32
  deriving DecidableEq

namespace WireType

def code : WireType → Nat
  | varint => 0
  | fixed64 => 1
  | delimited => 2
  | groupStart => 3
  | groupEnd => 4
  | fixed32 => 5

def ofCode? : Nat → Option WireType
  | 0 => some varint
  | 1 => some fixed64
  | 2 => some delimited
  | 3 => some groupStart
  | 4 => some groupEnd
  | 5 => some fixed32
  | _ => none

theorem ofCode?_code (type : WireType) : ofCode? type.code = some type := by cases type <;> rfl

theorem code_lt (type : WireType) : type.code < 8 := by cases type <;> decide

def name : WireType → String
  | varint => "Varint"
  | fixed64 => "SixtyFourBit"
  | delimited => "LengthDelimited"
  | groupStart => "StartGroup"
  | groupEnd => "EndGroup"
  | fixed32 => "ThirtyTwoBit"

end WireType

inductive Cause where
  | badVarint
  | underflow
  /-- An element of a delimited part ran past the part's end. -/
  | pastEnd
  | badKey (value : Nat)
  | numberZero
  | badWireType (code : Nat)
  | unexpected (found expected : WireType)
  | notText
  | strayGroupEnd
  | tooDeep
  deriving DecidableEq

def Cause.message : Cause → String
  | badVarint => "invalid varint"
  | underflow => "buffer underflow"
  | pastEnd => "delimited length exceeded"
  | badKey value => s!"invalid key value: {value}"
  | numberZero => "invalid tag value: 0"
  | badWireType code => s!"invalid wire type value: {code}"
  | unexpected found expected => s!"invalid wire type: {found.name} (expected {expected.name})"
  | notText => "invalid string value: data is not UTF-8 encoded"
  | strayGroupEnd => "unexpected end group tag"
  | tooDeep => "recursion limit reached"

/-- A cause, and the fields in which it arose, the innermost first. -/
structure Fault where
  path : List (String × String)
  cause : Cause
  deriving DecidableEq

def Fault.within (message field : String) (fault : Fault) : Fault :=
  { fault with path := fault.path ++ [(message, field)] }

def Fault.message (fault : Fault) : String :=
  "failed to decode Protobuf message: " ++
    String.join (fault.path.map fun (message, field) => s!"{message}.{field}: ") ++
    fault.cause.message

end TokenClaim.Wire
