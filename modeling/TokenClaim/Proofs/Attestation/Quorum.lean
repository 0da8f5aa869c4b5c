import TokenClaim.Attestation.Quorum
import TokenClaim.Proofs.Checked
/-!
When an attestation passes: each of the three roles has a signature and a key, and the scheme
accepts the signature under the key. Otherwise the first role is named for which that is not so.
-/

set_option autoImplicit false

namespace TokenClaim

def SignatureScheme.Accepts (scheme : SignatureScheme) (digest : Digest) (signature key : Bytes) :
    Prop :=
  signature ≠ [] ∧ scheme.verify digest signature key = .ok ()

namespace Attestation

variable {scheme : SignatureScheme} {digest : Digest}

theorem check_eq_ok_iff {signature key : Bytes} :
    check scheme digest signature key = .ok () ↔
      key ≠ [] ∧ scheme.Accepts digest signature key := by
  unfold check SignatureScheme.Accepts
  cases signature with
  | nil => simp
  | cons first rest =>
    cases key with
    | nil => simp
    | cons firstKey restKey => simp [mapError_eq_ok_iff]

theorem checkRoles_eq_ok_iff {attestation : Attestation} {keys : PerRole Bytes}
    {roles : List Role} :
    checkRoles scheme digest attestation keys roles = .ok () ↔
      ∀ role ∈ roles, check scheme digest (attestation.of role) (keys.of role) = .ok () := by
  induction roles with
  | nil => simp [checkRoles]
  | cons role rest ih =>
    rw [List.forall_mem_cons, checkRoles]
    cases check scheme digest (attestation.of role) (keys.of role) with
    | error fault => simp
    | ok _ => simpa using ih

theorem verify_eq_ok_iff {attestation : Attestation} {keys : PerRole Bytes} :
    verify scheme digest attestation keys = .ok () ↔
      ∀ role : Role, keys.of role ≠ [] ∧
        scheme.Accepts digest (attestation.of role) (keys.of role) := by
  rw [verify, checkRoles_eq_ok_iff]
  constructor
  · intro all role
    exact check_eq_ok_iff.mp (all role (by cases role <;> decide))
  · intro all role _
    exact check_eq_ok_iff.mpr (all role)

theorem checkRoles_eq_error_iff {attestation : Attestation} {keys : PerRole Bytes} {role : Role}
    {roles : List Role} :
    (∃ fault, checkRoles scheme digest attestation keys roles = .error (role, fault)) ↔
      role ∈ roles ∧ check scheme digest (attestation.of role) (keys.of role) ≠ .ok () ∧
        ∀ earlier ∈ roles.takeWhile (· ≠ role),
          check scheme digest (attestation.of earlier) (keys.of earlier) = .ok () := by
  induction roles with
  | nil => simp [checkRoles]
  | cons first rest ih =>
    rw [checkRoles]
    by_cases here : first = role
    · subst here
      cases checked : check scheme digest (attestation.of first) (keys.of first) with
      | error fault => simp
      | ok _ => simp [ih, checked]
    · have next : (first :: rest).takeWhile (· ≠ role) = first :: rest.takeWhile (· ≠ role) := by
        simp [here]
      rw [next, List.forall_mem_cons, List.mem_cons]
      cases checked : check scheme digest (attestation.of first) (keys.of first) with
      | error fault => simp [here]
      | ok _ => simp [ih, Ne.symm here]

theorem verify_eq_error_iff {attestation : Attestation} {keys : PerRole Bytes} {role : Role} :
    (∃ fault, verify scheme digest attestation keys = .error (role, fault)) ↔
      check scheme digest (attestation.of role) (keys.of role) ≠ .ok () ∧
        ∀ earlier ∈ Role.all.takeWhile (· ≠ role),
          check scheme digest (attestation.of earlier) (keys.of earlier) = .ok () := by
  have listed : role ∈ Role.all := by cases role <;> decide
  rw [verify, checkRoles_eq_error_iff, and_iff_right listed]

/-- The verdict is made of the roles' own verdicts, faults included. -/
theorem checkRoles_congr {attestation other : Attestation} {keys : PerRole Bytes}
    (alike : ∀ role, check scheme digest (other.of role) (keys.of role) =
      check scheme digest (attestation.of role) (keys.of role)) (roles : List Role) :
    checkRoles scheme digest other keys roles = checkRoles scheme digest attestation keys roles := by
  induction roles with
  | nil => rfl
  | cons role rest ih => rw [checkRoles, checkRoles, alike, ih]

end Attestation

end TokenClaim
