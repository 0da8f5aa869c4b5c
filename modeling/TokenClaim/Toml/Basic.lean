/-!
The values of a TOML text, and the records that they can be read as.
-/

set_option autoImplicit false

namespace TokenClaim.Toml

inductive Value where
  | text (value : String)
  | integer (value : Int)
  | bool (value : Bool)
  /-- A number with a fraction or an exponent. -/
  | float
  | moment
  | array (items : List Value)
  | table (members : List (String × Value))

namespace Value

def text? : Value → Option String
  | text value => some value
  | _ => none

def bool? : Value → Option Bool
  | bool value => some value
  | _ => none

def below? (bound : Nat) : Value → Option Nat
  | integer value => if 0 ≤ value ∧ value < bound then some value.toNat else none
  | _ => none

def word64? (value : Value) : Option UInt64 := (value.below? UInt64.size).map UInt64.ofNat

def word32? (value : Value) : Option UInt32 := (value.below? UInt32.size).map UInt32.ofNat

/-- The values of a record's fields, in the order of their names. An array is read as the fields in
their order; what goes beyond them is ignored, as are members of other names. A point in time is a
record without any of the fields. -/
def fields? (names : List String) : Value → Option (List (Option Value))
  | table members => some (names.map fun name => (members.find? (·.1 = name)).map Prod.snd)
  | array items =>
    some ((items.take names.length).map some ++ List.replicate (names.length - items.length) none)
  | moment => some (names.map fun _ => none)
  | _ => none

/-- A word out of a few. It may also stand as the only key of a table, with nothing behind it. -/
def choice? : Value → Option String
  | text word => some word
  | table [(word, table [])] => some word
  | table [(word, array [])] => some word
  | _ => none

end Value

end TokenClaim.Toml
