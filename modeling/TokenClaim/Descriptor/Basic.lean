import TokenClaim.Allocation
import TokenClaim.Descriptor.Message
/-!
Descriptors: what a vamp is to be, as its producer sends it. Reading checks every field and decides
whether the vamp keeps the allocation table or only its root.
-/

set_option autoImplicit false

namespace TokenClaim

structure Descriptor where
  intent : Bytes
  name : String
  symbol : String
  uri : Option String
  erc20 : Bytes
  /-- The tokens minted. -/
  amount : UInt64
  decimals : UInt8
  chain : UInt64
  salt : UInt64
  solverKey : Bytes
  validatorKey : Bytes
  /-- Empty where the claimed address itself signs as owner. -/
  ownerKey : Bytes
  authorization : Authorization
  terms : Option Terms
  deriving DecidableEq

inductive AuthorizationMode where
  /-- A root where there is no table, or one over the limit. -/
  | auto
  | table
  | root
  deriving DecidableEq

structure AuthorizationPolicy where
  mode : AuthorizationMode
  /-- The longest table that is kept. -/
  tableLimit : Nat
  deriving DecidableEq

def AuthorizationPolicy.standard : AuthorizationPolicy := ⟨.auto, 1024⟩

def AuthorizationPolicy.select (policy : AuthorizationPolicy) (entries : AllocationTable)
    (root : Option Digest) : Except Malformed Authorization :=
  match policy.mode with
  | .auto =>
    if entries.isEmpty then
      match root with
      | some root => .ok (.root root)
      | none => .ok (.table entries)
    else if policy.tableLimit < entries.length then .ok (.root (root.getD entries.root))
    else .ok (.table entries)
  | .table =>
    if entries.isEmpty ∧ root.isSome then .error .tableRequired
    else if policy.tableLimit < entries.length then
      .error (.tableTooLong entries.length policy.tableLimit)
    else .ok (.table entries)
  | .root =>
    match root with
    | some root => .ok (.root root)
    | none => if entries.isEmpty then .error .rootOrTableRequired else .ok (.root entries.root)

def TableMessage.entries (message : TableMessage) (decimals : UInt8) :
    Except Malformed AllocationTable :=
  if message.addresses.length ≠ message.amounts.length then
    .error (.tableCounts message.addresses.length message.amounts.length)
  else
    (message.addresses.zip message.amounts).mapM fun (bytes, amount) =>
      match Octets.ofBytes? 20 bytes with
      | some address => .ok ⟨address, amount, decimals⟩
      | none => .error (.tableAddress bytes.length)

namespace Descriptor

def maxIntentLength : Nat := 32
def maxNameLength : Nat := 32
def maxSymbolLength : Nat := 10
def maxUriLength : Nat := 200
def maxDecimals : Nat := 9

def checkLength (field : String) (length : Nat) (allowed : Bool) : Except Malformed Unit :=
  if allowed then .ok () else .error (.fieldLength field length)

def checkLengths (m : DescriptorMessage) : Except Malformed Unit := do
  let address (bytes : Bytes) : Bool := bytes.length = 20
  let missingOr (length : Nat) (bytes : Bytes) : Bool := bytes.length = 0 ∨ bytes.length = length
  checkLength "intent_id" m.intent.length (1 ≤ m.intent.length && m.intent.length ≤ maxIntentLength)
  checkLength "token_name" m.name.utf8ByteSize (m.name.utf8ByteSize ≤ maxNameLength)
  checkLength "token_symbol" m.symbol.utf8ByteSize (m.symbol.utf8ByteSize ≤ maxSymbolLength)
  let uri := m.uri.getD ""
  checkLength "token_uri" uri.utf8ByteSize (uri.utf8ByteSize ≤ maxUriLength)
  checkLength "token_erc20_address" m.erc20.length (missingOr 20 m.erc20)
  checkLength "solver_public_key" m.solverKey.length (address m.solverKey)
  checkLength "validator_public_key" m.validatorKey.length (address m.validatorKey)
  checkLength "owner_public_key" m.ownerKey.length (missingOr 20 m.ownerKey)
  checkLength "merkle_root" m.root.length (missingOr 32 m.root)

/-- The sum of a table's amounts, if no address stands in it twice. Entries are looked at in order;
`seen` holds the addresses before them. -/
def allocated (seen : List EthAddress) (sum : UInt64) : AllocationTable → Result UInt64
  | [] => .ok sum
  | entry :: rest =>
    if entry.address ∈ seen then .error (.malformed (.duplicateAddress entry.address))
    else match Word64.add? sum entry.amount with
      | none => .error .overflow
      | some sum => allocated (entry.address :: seen) sum rest

def check {α : Type} (result : Except Malformed α) : Result α := result.mapError .malformed

def checkDecimals (decimals : UInt32) : Result Unit :=
  if maxDecimals < decimals.toNat then .error (.malformed (.decimals decimals.toNat)) else .ok ()

def checkAllocated (entries : AllocationTable) (amount : UInt64) : Result Unit := do
  let sum ← allocated [] 0 entries
  if amount < sum then throw (.malformed (.overAllocated sum amount))

/-- A root beside a table is the table's. -/
def checkRoot (entries : AllocationTable) : Option Digest → Result Unit
  | some root =>
    if !entries.isEmpty ∧ entries.root ≠ root then .error (.malformed .rootMismatch) else .ok ()
  | none => .ok ()

def checkTerms : Option Terms → Result Unit
  | some terms => terms.validate
  | none => .ok ()

def ofMessage (policy : AuthorizationPolicy) (m : DescriptorMessage) : Result Descriptor := do
  check (checkLengths m)
  checkDecimals m.decimals
  let decimals := UInt8.ofNat m.decimals.toNat
  let entries ← check ((m.table.getD TableMessage.empty).entries decimals)
  checkAllocated entries m.amount
  let root := Octets.ofBytes? 32 m.root
  checkRoot entries root
  let authorization ← check (policy.select entries root)
  let terms := m.terms.map TermsMessage.terms
  checkTerms terms
  return {
    intent := m.intent
    name := m.name
    symbol := m.symbol
    uri := m.uri
    erc20 := m.erc20
    amount := m.amount
    decimals := decimals
    chain := m.chain
    salt := m.salt
    solverKey := m.solverKey
    validatorKey := m.validatorKey
    ownerKey := m.ownerKey
    authorization := authorization
    terms := terms }

def read (policy : AuthorizationPolicy) (data : Bytes) : Result Descriptor := do
  let message ← (DescriptorMessage.schema.read data).mapError fun fault => .malformed (.wire fault)
  ofMessage policy message

/-- A table is sent as a table, a root as a root alone. -/
def toMessage (d : Descriptor) : DescriptorMessage where
  intent := d.intent
  name := d.name
  symbol := d.symbol
  erc20 := d.erc20
  uri := d.uri
  amount := d.amount
  decimals := UInt32.ofNat d.decimals.toNat
  table := match d.authorization with
    | .table entries => some ⟨entries.map (·.address.toBytes), entries.map (·.amount)⟩
    | .root _ => none
  chain := d.chain
  salt := d.salt
  solverKey := d.solverKey
  validatorKey := d.validatorKey
  root := match d.authorization with
    | .table _ => []
    | .root root => root.toBytes
  terms := d.terms.map TermsMessage.ofTerms
  ownerKey := d.ownerKey

def write (d : Descriptor) : Bytes := DescriptorMessage.schema.write d.toMessage

end Descriptor

end TokenClaim
