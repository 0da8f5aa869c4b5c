import TokenClaim.Proofs.Attestation.Agreement
/-!
With wallet signatures a quorum is three recoveries: from each role's signature the address has to
be recovered that is the role's key. Nothing else about a signature or a key counts, so that roles
with one signature have one key, and the recovery byte may be written in either way.
-/

set_option autoImplicit false

namespace TokenClaim

namespace Signature

structure Recovers (digest : Digest) (signature key : Bytes) : Prop where
  length : signature.length = 65
  keyLength : key.length = 20
  recovered : recover digest ⟨signature, length⟩ = .ok ⟨key, keyLength⟩

/-- Two ways to write one signature: the recovery byte is the identifier alone, or has 27 added. -/
inductive Respelled : Bytes → Bytes → Prop where
  | same (signature : Bytes) : Respelled signature signature
  | marked (body : Bytes) {byte : UInt8} (plain : byte = 0 ∨ byte = 1) :
    Respelled (body ++ [byte]) (body ++ [byte + 27])
  | bare (body : Bytes) {byte : UInt8} (plain : byte = 0 ∨ byte = 1) :
    Respelled (body ++ [byte + 27]) (body ++ [byte])

variable {digest : Digest} {signature key other : Bytes}

theorem Recovers.unique (recovers : Recovers digest signature key)
    (also : Recovers digest signature other) : key = other := by
  have same := recovers.recovered.symm.trans also.recovered
  exact congrArg Octets.toBytes (Except.ok.inj same)

theorem verify_eq_ok_iff :
    verify digest signature key = .ok () ↔ Recovers digest signature key := by
  constructor
  · intro accepted
    unfold verify at accepted
    split at accepted
    case h_1 => cases accepted
    case h_2 whole found =>
      obtain rfl := Octets.ofBytes?_eq_some_iff.mp found
      by_cases keyLength : key.length = 20
      · rw [if_neg (not_not_intro keyLength)] at accepted
        obtain ⟨signer, recovered, matched⟩ := bind_eq_ok_iff.mp accepted
        split at matched
        · cases matched
        · rename_i same
          obtain rfl := not_not.mp same
          exact ⟨whole.length_toBytes, keyLength, recovered⟩
      · rw [if_pos keyLength] at accepted
        cases accepted
  · intro recovers
    exact verify_of_recover recovers.recovered

theorem recover_congr {first second : Signature} {odd : Bool}
    (body : first.toBytes.take 64 = second.toBytes.take 64)
    (parity : parity? (first.toBytes.getD 64 0) = some odd)
    (alike : parity? (second.toBytes.getD 64 0) = some odd) :
    recover digest first = recover digest second := by
  have r : first.toBytes.take 32 = second.toBytes.take 32 := by
    simpa [List.take_take] using congrArg (List.take 32) body
  have s : (first.toBytes.drop 32).take 32 = (second.toBytes.drop 32).take 32 := by
    simpa only [List.drop_take] using congrArg (List.drop 32) body
  simp only [recover, parity, alike, r, s]

theorem parity?_add {byte : UInt8} (plain : byte = 0 ∨ byte = 1) :
    ∃ odd, parity? byte = some odd ∧ parity? (byte + 27) = some odd := by
  rcases plain with rfl | rfl
  · exact ⟨false, by decide, by decide⟩
  · exact ⟨true, by decide, by decide⟩

theorem verify_append_marked (body : Bytes) {byte : UInt8} (plain : byte = 0 ∨ byte = 1) :
    verify digest (body ++ [byte + 27]) key = verify digest (body ++ [byte]) key := by
  by_cases long : body.length = 64
  · obtain ⟨odd, parity, marked⟩ := parity?_add plain
    have whole (last : UInt8) : (body ++ [last]).length = 65 := by simp [long]
    have found (last : UInt8) : Octets.ofBytes? 65 (body ++ [last]) = some ⟨_, whole last⟩ :=
      Octets.ofBytes?_toBytes ⟨_, whole last⟩
    have atEnd (last : UInt8) : (body ++ [last]).getD 64 0 = last := by simp [← long]
    have recovered : recover digest ⟨_, whole (byte + 27)⟩ = recover digest ⟨_, whole byte⟩ := by
      have bodies (last : UInt8) : (body ++ [last]).take 64 = body := List.take_left' long
      exact recover_congr ((bodies _).trans (bodies _).symm)
        ((congrArg parity? (atEnd _)).trans marked) ((congrArg parity? (atEnd _)).trans parity)
    simp only [verify, found, recovered]
  · -- Both are refused for their length, which is the same.
    have short (last : UInt8) : Octets.ofBytes? 65 (body ++ [last]) = none := by
      simp [Octets.ofBytes?, long]
    simp only [verify, short, List.length_append, List.length_singleton]

theorem Respelled.verify_eq (respelled : Respelled signature other) :
    verify digest other key = verify digest signature key := by
  cases respelled with
  | same => rfl
  | marked body plain => exact verify_append_marked body plain
  | bare body plain => exact (verify_append_marked body plain).symm

theorem Respelled.isEmpty_eq (respelled : Respelled signature other) :
    other.isEmpty = signature.isEmpty := by
  cases respelled with
  | same => rfl
  | marked body _ => cases body <;> rfl
  | bare body _ => cases body <;> rfl

end Signature

namespace Attestation

variable {digest : Digest} {signature key other : Bytes}

theorem check_ethereumPersonalSign_eq_ok_iff :
    check .ethereumPersonalSign digest signature key = .ok () ↔
      Signature.Recovers digest signature key := by
  rw [check_eq_ok_iff, SignatureScheme.Accepts, SignatureScheme.ethereumPersonalSign,
    mapError_eq_ok_iff, Signature.verify_eq_ok_iff]
  constructor
  · rintro ⟨-, -, recovers⟩
    exact recovers
  · intro recovers
    refine ⟨?_, ?_, recovers⟩
    · exact List.ne_nil_of_length_eq_add_one recovers.keyLength
    · exact List.ne_nil_of_length_eq_add_one recovers.length

theorem check_of_respelled (respelled : Signature.Respelled signature other) :
    check .ethereumPersonalSign digest other key =
      check .ethereumPersonalSign digest signature key := by
  simp only [check, respelled.isEmpty_eq, SignatureScheme.ethereumPersonalSign,
    respelled.verify_eq]

/-- A quorum passes exactly if from each role's signature the role's key is recovered; otherwise the
first role is named for which it is not. So roles whose one signature is accepted have one key, and
signatures may be respelled without a change of the verdict. -/
theorem quorum_unanimous (digest : Digest) (attestation : Attestation) (keys : PerRole Bytes) :
    (verify .ethereumPersonalSign digest attestation keys = .ok () ↔
        ∀ role, Signature.Recovers digest (attestation.of role) (keys.of role)) ∧
      (∀ role,
        (∃ fault, verify .ethereumPersonalSign digest attestation keys = .error (role, fault)) ↔
          ¬Signature.Recovers digest (attestation.of role) (keys.of role) ∧
            ∀ earlier ∈ Role.all.takeWhile (· ≠ role),
              Signature.Recovers digest (attestation.of earlier) (keys.of earlier)) ∧
      (∀ first second, attestation.of first = attestation.of second →
        check .ethereumPersonalSign digest (attestation.of first) (keys.of first) = .ok () →
        check .ethereumPersonalSign digest (attestation.of second) (keys.of second) = .ok () →
          keys.of first = keys.of second) ∧
      ∀ other : Attestation,
        (∀ role, Signature.Respelled (attestation.of role) (other.of role)) →
          verify .ethereumPersonalSign digest other keys =
            verify .ethereumPersonalSign digest attestation keys := by
  refine ⟨?passes, ?refused, ?shared, ?respelled⟩
  case passes =>
    simp only [verify_eq_ok_iff, ← check_eq_ok_iff, check_ethereumPersonalSign_eq_ok_iff]
  case refused =>
    intro role
    simp only [verify_eq_error_iff, ne_eq, check_ethereumPersonalSign_eq_ok_iff]
  case shared =>
    intro first second same accepted also
    rw [check_ethereumPersonalSign_eq_ok_iff] at accepted also
    exact (same ▸ accepted).unique also
  case respelled =>
    intro other respelled
    exact checkRoles_congr (fun role => check_of_respelled (respelled role)) Role.all

end Attestation

namespace Signer

theorem recovers_sample : Signature.Recovers sampleDigest (sample.sign sampleDigest).toBytes
    sample.address.toBytes :=
  ⟨_, sample.address.length_toBytes, (recover_sign sample_signsPlainly).1⟩

theorem respelled_sample : Signature.Respelled (sample.sign sampleDigest).toBytes
    (sample.sign sampleDigest).raw.toBytes := by
  rw [sign_eq parts?_sample, Signature.raw_ofParts]
  exact .bare _ (Or.inl rfl)

end Signer

open Signer in
/-- One signer in all roles, as solver also with the recovery byte alone; without a signature the
owner is named. -/
theorem Attestation.quorum_unanimous_sample :
    let signature := (sample.sign sampleDigest).toBytes
    let key := sample.address.toBytes
    let keys : PerRole Bytes := ⟨key, key, key⟩
    verify .ethereumPersonalSign sampleDigest ⟨signature, signature, signature⟩ keys = .ok () ∧
      keys.of .solver = keys.of .validator ∧
      verify .ethereumPersonalSign sampleDigest
          ⟨(sample.sign sampleDigest).raw.toBytes, signature, signature⟩ keys = .ok () ∧
      ∃ fault, verify .ethereumPersonalSign sampleDigest ⟨signature, signature, []⟩ keys =
        .error (.owner, fault) := by
  intro signature key keys
  obtain ⟨passes, -, shared, respelled⟩ :=
    quorum_unanimous sampleDigest ⟨signature, signature, signature⟩ keys
  have recovers : Signature.Recovers sampleDigest signature key := recovers_sample
  have passed := passes.mpr fun role => by cases role <;> exact recovers
  have accepted := check_ethereumPersonalSign_eq_ok_iff.mpr recovers
  have unsigned : ¬Signature.Recovers sampleDigest [] key := fun signed => by
    have length := signed.length
    simp at length
  refine ⟨passed, shared .solver .validator rfl accepted accepted, ?_, ?_⟩
  · refine (respelled _ fun role => ?_).trans passed
    cases role with
    | solver => exact respelled_sample
    | validator => exact .same signature
    | owner => exact .same signature
  · refine ((quorum_unanimous sampleDigest _ keys).2.1 .owner).mpr ⟨unsigned, fun role before => ?_⟩
    cases role with
    | solver => exact recovers
    | validator => exact recovers
    | owner => exact absurd before (by decide)

end TokenClaim
