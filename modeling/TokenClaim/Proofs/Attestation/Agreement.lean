import TokenClaim.Proofs.Attestation.Quorum
import TokenClaim.Proofs.Attestation.Recovery
import TokenClaim.Proofs.Hash.Sha256
/-!
What a signer attests is what the verifier accepts: both put the same mark before the digest, read
the signature's parts from the same places and take the address of the same key.
-/

set_option autoImplicit false

namespace TokenClaim

open Secp256k1

namespace BigEndian

theorem read_write (width value : Nat) :
    read (write width value) = value % LittleEndian.capacity width := by
  rw [read, write, List.reverse_reverse, LittleEndian.read_write]

theorem read_write_of_lt_order {value : Nat} (below : value < order) :
    read (write 32 value) = value := by
  have fits : order < LittleEndian.capacity 32 := by decide
  rw [read_write, Nat.mod_eq_of_lt (below.trans fits)]

end BigEndian

namespace Signature

/-- The recovery byte as some wallets write it: the identifier alone, without 27 added to it. -/
def raw (signature : Signature) : Signature :=
  ⟨signature.toBytes.take 64 ++ [signature.toBytes.getD 64 0 - 27], by
    simp [signature.length_toBytes]⟩

theorem raw_ofParts (r s : Nat) (recoveryByte : UInt8) :
    (ofParts r s recoveryByte).raw = ofParts r s (recoveryByte - 27) := by
  apply Octets.toBytes_injective
  have front : (BigEndian.write 32 r ++ BigEndian.write 32 s).length = 64 := by simp
  simp only [raw, ofParts, List.take_left' front]
  simp

theorem recover_ofParts {digest : Digest} {r s x y : Nat} {recoveryByte : UInt8} {odd : Bool}
    (parity : parity? recoveryByte = some odd) (rBelow : r < order) (sBelow : s < order)
    (key : recoverKey? (Balance.personalHash digest) r s odd = some (x, y)) :
    recover digest (ofParts r s recoveryByte) = .ok (addressOf x y) := by
  have atEnd : (ofParts r s recoveryByte).toBytes.getD 64 0 = recoveryByte := by simp [ofParts]
  have first : (ofParts r s recoveryByte).toBytes.take 32 = BigEndian.write 32 r := by
    simp [ofParts]
  have second : ((ofParts r s recoveryByte).toBytes.drop 32).take 32 = BigEndian.write 32 s := by
    simp [ofParts]
  have inRange : ¬(order ≤ r ∨ order ≤ s) := not_or.mpr ⟨not_le.mpr rBelow, not_le.mpr sBelow⟩
  simp only [recover, atEnd, parity, first, second, BigEndian.read_write_of_lt_order rBelow,
    BigEndian.read_write_of_lt_order sBelow, if_neg inRange, key]
  rfl

theorem verify_of_recover {digest : Digest} {signature : Signature} {address : EthAddress}
    (recovered : recover digest signature = .ok address) :
    verify digest signature.toBytes address.toBytes = .ok () := by
  simp only [verify, Octets.ofBytes?_toBytes, address.length_toBytes, recovered]
  simp [pure, Except.pure, bind, Except.bind]

theorem parity?_recoveryByte {recovery : Nat} (plain : recovery < 2) :
    parity? (UInt8.ofNat (recovery + 27)) = some (recovery == 1)
      ∧ parity? (UInt8.ofNat (recovery + 27) - 27) = some (recovery == 1) := by
  obtain rfl | rfl : recovery = 0 ∨ recovery = 1 := by omega
  · decide
  · decide

end Signature

namespace Signer

variable {signer : Signer} {digest : Digest}

/-- One of the nonces that are tried gives a signature, and its recovery identifier is 0 or 1: the
`x` of the nonce's point is below the order. -/
def SignsPlainly (signer : Signer) (digest : Digest) : Prop :=
  ∃ r s recovery, signer.parts? digest = some (r, s, recovery) ∧ recovery < 2

theorem sign_eq {r s recovery : Nat} (found : signer.parts? digest = some (r, s, recovery)) :
    signer.sign digest = Signature.ofParts r s (UInt8.ofNat (recovery + 27)) := by
  simp only [sign, found, Option.getD_some]

theorem signFrom_eq_some {secret message attempts : Nat} {state : NonceState}
    {signature : Nat × Nat × Nat}
    (found : signFrom secret message attempts state = some signature) :
    ∃ nonce, signWithNonce? secret message nonce = some signature := by
  induction attempts generalizing state with
  | zero => cases found
  | succ attempts ih =>
    rw [signFrom] at found
    cases first : signWithNonce? secret message state.next.1.toNat with
    | none =>
      simp only [first] at found
      exact ih found
    | some other =>
      simp only [first] at found
      cases found
      exact ⟨_, first⟩

theorem signFrom_of_first {secret message attempts : Nat} {state : NonceState}
    {signature : Nat × Nat × Nat} (positive : 0 < attempts)
    (first : signWithNonce? secret message state.next.1.toNat = some signature) :
    signFrom secret message attempts state = some signature := by
  obtain ⟨more, rfl⟩ := Nat.exists_eq_add_of_lt positive
  simp only [signFrom, first]

theorem exists_affine? (signer : Signer) :
    ∃ x y, (generator.multiple signer.secret).affine? = some (x, y)
      ∧ signer.address = Signature.addressOf x y := by
  rw [address, (multiple_generator_stands signer.secret).affine?_eq]
  cases key : signer.secret • base with
  | zero => exact absurd key (nsmul_base_ne_zero signer.positive signer.belowOrder)
  | some x y on => exact ⟨x.val, y.val, rfl, rfl⟩

theorem recover_sign (plainly : signer.SignsPlainly digest) :
    Signature.recover digest (signer.sign digest) = .ok signer.address
      ∧ Signature.recover digest (signer.sign digest).raw = .ok signer.address := by
  obtain ⟨r, s, recovery, found, plain⟩ := plainly
  -- opened by hand, as to unfold the search while unifying would evaluate it
  have searched := found
  rw [parts?] at searched
  obtain ⟨nonce, signed⟩ := signFrom_eq_some searched
  obtain ⟨_, _, _, signedWith⟩ := exists_signedWith signed
  obtain ⟨used, signs⟩ := signedWith.exists_signs plain
  obtain ⟨x, y, key, isAddress⟩ := signer.exists_affine?
  obtain ⟨parity, rawParity⟩ := Signature.parity?_recoveryByte plain
  have isMessage : ((Balance.personalHash digest).toNat : ZMod order)
      = ((Balance.personalHash digest).toNat % order : Nat) := (ZMod.natCast_mod _ _).symm
  have recovered := (signs.recoverKey? isMessage).trans key
  rw [sign_eq found, Signature.raw_ofParts, isAddress]
  exact ⟨Signature.recover_ofParts parity signs.rBelow signs.sBelow recovered,
    Signature.recover_ofParts rawParity signs.rBelow signs.sBelow recovered⟩

end Signer

def PerRole.map {α β : Type} (f : α → β) (each : PerRole α) : PerRole β :=
  ⟨f each.solver, f each.validator, f each.owner⟩

theorem PerRole.of_map {α β : Type} (f : α → β) (each : PerRole α) (role : Role) :
    (each.map f).of role = f (each.of role) := by
  cases role <;> rfl

theorem SignatureScheme.ethereumPersonalSign_accepts {digest : Digest} {signature : Signature}
    {address : EthAddress} (recovered : Signature.recover digest signature = .ok address) :
    ethereumPersonalSign.verify digest signature.toBytes address.toBytes = .ok () := by
  simp only [ethereumPersonalSign, Signature.verify_of_recover recovered]
  rfl

theorem Octets.toBytes_ne_nil {n : Nat} (octets : Octets n) (positive : 0 < n) :
    octets.toBytes ≠ [] := by
  apply List.ne_nil_of_length_pos
  rw [octets.length_toBytes]
  exact positive

section Attest

variable (address : EthAddress) (amount : UInt64) (intent : Bytes)

/-- What a signer attests is verified under its address, with either form of the recovery byte, and
what three signers attest makes a quorum under their addresses. -/
theorem attest_verified :
    (∀ signer : Signer, signer.SignsPlainly (Balance.digest address amount intent) →
      SignatureScheme.ethereumPersonalSign.verify (Balance.digest address amount intent)
          (signer.attest address amount intent).toBytes signer.address.toBytes = .ok ()
        ∧ SignatureScheme.ethereumPersonalSign.verify (Balance.digest address amount intent)
          (signer.attest address amount intent).raw.toBytes signer.address.toBytes = .ok ())
      ∧ ∀ signers : PerRole Signer,
        (∀ role, (signers.of role).SignsPlainly (Balance.digest address amount intent)) →
        Attestation.verify .ethereumPersonalSign (Balance.digest address amount intent)
          (signers.map fun signer => (signer.attest address amount intent).toBytes)
          (signers.map fun signer => signer.address.toBytes) = .ok () := by
  constructor
  · intro signer plainly
    obtain ⟨recovered, rawRecovered⟩ := Signer.recover_sign plainly
    exact ⟨SignatureScheme.ethereumPersonalSign_accepts recovered,
      SignatureScheme.ethereumPersonalSign_accepts rawRecovered⟩
  · intro signers plainly
    rw [Attestation.verify_eq_ok_iff]
    intro role
    rw [PerRole.of_map, PerRole.of_map]
    have recovered := (Signer.recover_sign (plainly role)).1
    exact ⟨Octets.toBytes_ne_nil _ (by decide), Octets.toBytes_ne_nil _ (by decide),
      SignatureScheme.ethereumPersonalSign_accepts recovered⟩

end Attest

namespace Signer

def sample : Signer where
  secret := 0x4F3EDF983AC636A65A842CE7C78D9AA706D3B113BCE9C46F30D7D21715B23B1D
  positive := by decide
  belowOrder := by decide

def sampleDigest : Digest := Balance.digest (Octets.replicate 20 1) 5 [1, 2, 3]

theorem parts?_sample :
    sample.parts? sampleDigest =
      some (105946943786384882923486486089826770004614940052889599612024149407524395958837,
        26922683487248869557895522558991266302054366952616237935759036076660584513834, 0) := by
  rw [parts?]
  apply signFrom_of_first (by decide)
  simp only [NonceState.start, NonceState.next, NonceState.mix, Sha256.hmacSha256_eq_listed]
  decide +kernel

theorem sample_signsPlainly : sample.SignsPlainly sampleDigest :=
  ⟨_, _, _, parts?_sample, by decide⟩

end Signer

/-- One signer in all three roles. -/
theorem attest_verified_sample :
    let signature := Signer.sample.attest (Octets.replicate 20 1) 5 [1, 2, 3]
    let key := Signer.sample.address.toBytes
    SignatureScheme.ethereumPersonalSign.verify Signer.sampleDigest signature.toBytes key = .ok ()
      ∧ SignatureScheme.ethereumPersonalSign.verify Signer.sampleDigest signature.raw.toBytes key
        = .ok ()
      ∧ Attestation.verify .ethereumPersonalSign Signer.sampleDigest
        ⟨signature.toBytes, signature.toBytes, signature.toBytes⟩ ⟨key, key, key⟩ = .ok () := by
  have verified := attest_verified (Octets.replicate 20 1) 5 [1, 2, 3]
  obtain ⟨accepted, rawAccepted⟩ := verified.1 Signer.sample Signer.sample_signsPlainly
  have quorum := verified.2 ⟨Signer.sample, Signer.sample, Signer.sample⟩ fun role => by
    cases role <;> exact Signer.sample_signsPlainly
  exact ⟨accepted, rawAccepted, quorum⟩

end TokenClaim
