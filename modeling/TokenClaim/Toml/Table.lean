import TokenClaim.Toml.Basic
/-!
Tables while their text is read. What may still be added to a table depends on how it came to be:
by a header, by the header of a table below it, or by a key with dots.
-/

set_option autoImplicit false

namespace TokenClaim.Toml

inductive Origin where
  | header
  | implied
  | dotted
  deriving DecidableEq

inductive Entry where
  | value (value : Value)
  | table (origin : Origin) (members : List (String × Entry))
  /-- The elements of a name so far. The text goes on with the last. -/
  | elements (earlier : List (List (String × Entry))) (last : List (String × Entry))

abbrev Members := List (String × Entry)

structure Key where
  tables : List String
  name : String
  deriving DecidableEq

namespace Members

def get? (name : String) : Members → Option Entry
  | [] => none
  | (other, entry) :: rest => if other = name then some entry else get? name rest

def put (name : String) (entry : Entry) : Members → Members
  | [] => [(name, entry)]
  | (other, kept) :: rest =>
    if other = name then (name, entry) :: rest else (other, kept) :: put name entry rest

/-- Change the table at the end of a path. Tables that are missing on the way are made, implied by a
header or by dots; dots do not lead into the table of a header. -/
def change (made : Origin) (act : Origin → Members → Option Members) :
    List String → Origin → Members → Option Members
  | [], origin, members => act origin members
  | name :: path, _, members =>
    match members.get? name with
    | none => do return members.put name (.table made (← change made act path made []))
    | some (.value _) => none
    | some (.table origin inner) =>
      if made = .dotted ∧ origin = .header then none
      else do return members.put name (.table origin (← change made act path origin inner))
    -- Only the last element is still open, and a header opened it.
    | some (.elements earlier last) => do
      return members.put name (.elements earlier (← change made act path .header last))

def assign (key : Key) (value : Value) (origin : Origin) (members : Members) : Option Members :=
  change .dotted
    (fun origin members =>
      -- A key with dots ends in a table that dots made.
      if key.tables ≠ [] ∧ origin ≠ .dotted then none
      else match members.get? key.name with
        | none => some (members.put key.name (.value value))
        | some _ => none)
    key.tables origin members

/-- The table of a header is new, or so far only implied by the headers of tables below it. -/
def openTable (key : Key) (members : Members) : Option Members :=
  change .implied
    (fun _ members =>
      match members.get? key.name with
      | none => some (members.put key.name (.table .header []))
      | some (.table .implied inner) => some (members.put key.name (.table .header inner))
      | some _ => none)
    key.tables .header members

def openElement (key : Key) (members : Members) : Option Members :=
  change .implied
    (fun _ members =>
      match members.get? key.name with
      | none => some (members.put key.name (.elements [] []))
      | some (.elements earlier last) =>
        some (members.put key.name (.elements (earlier ++ [last]) []))
      | some _ => none)
    key.tables .header members

end Members

mutual

def Entry.close : Entry → Value
  | .value value => value
  | .table _ members => .table (closeMembers members)
  | .elements earlier last => .array (closeElements earlier ++ [.table (closeMembers last)])

def closeMembers : List (String × Entry) → List (String × Value)
  | [] => []
  | (name, entry) :: rest => (name, entry.close) :: closeMembers rest

def closeElements : List (List (String × Entry)) → List Value
  | [] => []
  | members :: rest => .table (closeMembers members) :: closeElements rest

end

end TokenClaim.Toml
