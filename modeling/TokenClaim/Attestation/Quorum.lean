import TokenClaim.Attestation.Signature
/-!
The three parties that have to attest a claim, each with a signature under its own key.
-/

set_option autoImplicit false

namespace TokenClaim

/-- A way to check one signature over a digest under one key. A refusal says why. -/
structure SignatureScheme where
  name : String
  verify : Digest → (signature : Bytes) → (key : Bytes) → Except String Unit

/-- Recoverable signatures of wallets; a key is the signer's 20-byte address. -/
def SignatureScheme.ethereumPersonalSign : SignatureScheme where
  name := "ethereum-personal-sign"
  verify digest signature key := (Signature.verify digest signature key).mapError (·.message)

inductive Role where
  | solver
  | validator
  | owner
  deriving DecidableEq

namespace Role

def name : Role → String
  | solver => "solver"
  | validator => "validator"
  | owner => "owner"

/-- The order in which signatures are checked. -/
def all : List Role := [solver, validator, owner]

end Role

structure PerRole (α : Type) where
  solver : α
  validator : α
  owner : α
  deriving DecidableEq

def PerRole.of {α : Type} (each : PerRole α) : Role → α
  | .solver => each.solver
  | .validator => each.validator
  | .owner => each.owner

/-- Signatures over one digest. An empty one counts as missing. -/
abbrev Attestation := PerRole Bytes

namespace Attestation

inductive Fault where
  | missing
  | noKey
  | rejected (reason : String)
  deriving DecidableEq

def Fault.message : Fault → String
  | missing => "missing signature"
  | noKey => "no public key configured"
  | rejected reason => reason

def check (scheme : SignatureScheme) (digest : Digest) (signature key : Bytes) :
    Except Fault Unit :=
  if signature.isEmpty then .error .missing
  else if key.isEmpty then .error .noKey
  else (scheme.verify digest signature key).mapError .rejected

def checkRoles (scheme : SignatureScheme) (digest : Digest) (attestation : Attestation)
    (keys : PerRole Bytes) : List Role → Except (Role × Fault) Unit
  | [] => .ok ()
  | role :: rest =>
    match check scheme digest (attestation.of role) (keys.of role) with
    | .error fault => .error (role, fault)
    | .ok () => checkRoles scheme digest attestation keys rest

def verify (scheme : SignatureScheme) (digest : Digest) (attestation : Attestation)
    (keys : PerRole Bytes) : Except (Role × Fault) Unit :=
  checkRoles scheme digest attestation keys Role.all

end Attestation

end TokenClaim
