import TokenClaim.Curve.Edwards25519
import TokenClaim.Hash.Sha256
import TokenClaim.Pubkey
/-!
Addresses derived from seeds and a program's key. A derived address is a hash that is no point of
the signature curve, so no private key can belong to it.
-/

set_option autoImplicit false

namespace TokenClaim.ProgramAddress

def maxSeeds : Nat := 16

def maxSeedLength : Nat := 32

def marker : Bytes := Text.utf8 "ProgramDerivedAddress"

def preimage (seeds : List Bytes) (program : Pubkey) : Bytes :=
  seeds.flatten ++ program.toBytes ++ marker

def admits (seeds : List Bytes) : Bool :=
  seeds.length ≤ maxSeeds && seeds.all (·.length ≤ maxSeedLength)

def derive? (seeds : List Bytes) (program : Pubkey) : Option Pubkey :=
  if admits seeds then
    let address := sha256 (preimage seeds program)
    if Edwards25519.isPoint address then none else some address
  else none

/-- The first address among the bumps below `count`, from the highest down. The bump is one more
seed, of one byte. -/
def searchBelow (seeds : List Bytes) (program : Pubkey) : Nat → Option (Pubkey × UInt8)
  | 0 => none
  | bump + 1 =>
    match derive? (seeds ++ [[UInt8.ofNat bump]]) program with
    | some address => some (address, UInt8.ofNat bump)
    | none => searchBelow seeds program bump

def search? (seeds : List Bytes) (program : Pubkey) : Option (Pubkey × UInt8) :=
  if maxSeeds ≤ seeds.length then none else searchBelow seeds program 256

end TokenClaim.ProgramAddress
