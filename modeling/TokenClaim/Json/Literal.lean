/-!
JSON as it stands in a text, and the typed values that can be taken from it. A record may be written
as an object, with members in any order, or as an array of its fields in their order.
-/

set_option autoImplicit false

namespace TokenClaim.Json

inductive Literal where
  | null
  | bool (value : Bool)
  /-- Digits alone. -/
  | natural (value : Nat)
  /-- A number with a sign, a fraction or an exponent. -/
  | other
  /-- A string literal stands for no text if its escapes leave half of a surrogate pair. -/
  | string (text : Option String)
  | array (items : List Literal)
  | object (members : List (Option String × Literal))

namespace Literal

def text? : Literal → Option String
  | string text => text
  | _ => none

def below? (bound : Nat) : Literal → Option Nat
  | natural value => if value < bound then some value else none
  | _ => none

def word64? (literal : Literal) : Option UInt64 := (literal.below? UInt64.size).map UInt64.ofNat

def list? {α : Type} (item : Literal → Option α) : Literal → Option (List α)
  | array items => items.mapM item
  | _ => none

def nullable? {α : Type} (value : Literal → Option α) : Literal → Option (Option α)
  | null => some none
  | literal => (value literal).map some

/-- The value of the only member of a name, if there is one. Two members of one name are a fault. -/
def memberOf (members : List (String × Literal)) (name : String) : Option (Option Literal) :=
  match members.filter (·.1 = name) with
  | [] => some none
  | [(_, value)] => some (some value)
  | _ => none

def fields? (names : List String) : Literal → Option (List (Option Literal))
  | object members => do
    let members ← members.mapM fun (name, value) => name.map (·, value)
    names.mapM (memberOf members)
  | array items =>
    if items.length ≤ names.length then
      some (items.map some ++ List.replicate (names.length - items.length) none)
    else none
  | _ => none

end Literal

end TokenClaim.Json
