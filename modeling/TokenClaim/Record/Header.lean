import TokenClaim.Record.Vamp
/-!
The beginning of a vamp's record, read field by field. It can be read where the rest of the account
is not known, and a fault names the field and where it starts.
-/

set_option autoImplicit false

namespace TokenClaim

/-- What is left of account data, and how much was read before it. -/
structure AccountCursor where
  offset : Nat
  rest : Bytes

namespace AccountCursor

def ofBytes (data : Bytes) : AccountCursor := ⟨0, data⟩

def take (count : Nat) (field : String) (c : AccountCursor) :
    Except AccountFault (Bytes × AccountCursor) :=
  if c.rest.length < count then .error (.truncated field c.offset)
  else .ok (c.rest.take count, ⟨c.offset + count, c.rest.drop count⟩)

def word64 (field : String) (c : AccountCursor) : Except AccountFault (UInt64 × AccountCursor) := do
  let (bytes, c) ← c.take 8 field
  return (Word64.ofBytes bytes, c)

def pubkey (field : String) (c : AccountCursor) : Except AccountFault (Pubkey × AccountCursor) :=
  match Octets.ofBytes? 32 (c.rest.take 32) with
  | some key => .ok (key, ⟨c.offset + 32, c.rest.drop 32⟩)
  | none => .error (.truncated field c.offset)

def bytes (field : String) (c : AccountCursor) : Except AccountFault (Bytes × AccountCursor) := do
  let (count, c) ← c.take 4 field
  c.take (LittleEndian.read count) field

end AccountCursor

structure VampHeader where
  bump : UInt8
  mint : Pubkey
  solverKey : Bytes
  validatorKey : Bytes
  identifier : UInt64
  intent : Bytes
  totalClaimed : UInt64
  reserve : UInt64
  supply : UInt64
  exponent : UInt64
  initialPrice : UInt64
  payVault : Pubkey
  deriving DecidableEq

namespace VampHeader

def ofRecord (r : VampRecord) : VampHeader where
  bump := r.bump
  mint := r.mint
  solverKey := r.solverKey
  validatorKey := r.validatorKey
  identifier := r.identifier
  intent := r.intent
  totalClaimed := r.totalClaimed
  reserve := r.reserve
  supply := r.supply
  exponent := r.exponent
  initialPrice := r.initialPrice
  payVault := r.payVault

def readFields (data : Bytes) : Except AccountFault VampHeader := do
  let (discriminator, c) ← (AccountCursor.ofBytes data).take 8 "discriminator"
  if discriminator ≠ VampRecord.kind.discriminator.toBytes then throw .wrongDiscriminator
  let (bump, c) ← c.take 1 "bump"
  let (mint, c) ← c.pubkey "mint"
  let (solverKey, c) ← c.bytes "solver_public_key"
  let (validatorKey, c) ← c.bytes "validator_public_key"
  let (identifier, c) ← c.word64 "vamp_identifier"
  let (intent, c) ← c.bytes "intent_id"
  let (totalClaimed, c) ← c.word64 "total_claimed"
  let (reserve, c) ← c.word64 "reserve_balance"
  let (supply, c) ← c.word64 "token_supply"
  let (exponent, c) ← c.word64 "curve_exponent"
  let (initialPrice, c) ← c.word64 "initial_price"
  let (payVault, _) ← c.pubkey "sol_vault"
  return { bump := bump.headD 0, mint, solverKey, validatorKey, identifier, intent, totalClaimed,
           reserve, supply, exponent, initialPrice, payVault }

def ofAccount (data : Bytes) : Result VampHeader := (readFields data).mapError .invalidAccount

end VampHeader

end TokenClaim
