import Mathlib.Order.Bounds.Basic
import TokenClaim.ProgramAddress
import TokenClaim.Proofs.Curve.Edwards25519
import TokenClaim.Proofs.Hash.Sha256
/-!
The search for a derived address. It finds the address of the greatest bump that gives one, and it
finds none exactly if no bump may follow the seeds or every bump leads to a point of the curve.
-/

set_option autoImplicit false

namespace TokenClaim.ProgramAddress

open Edwards25519 (OnCurve ordinate)

variable {seeds : List Bytes} {program address : Pubkey} {bump : UInt8} {count : Nat}

theorem admits_eq_true_iff :
    admits seeds = true ↔ seeds.length ≤ 16 ∧ ∀ seed ∈ seeds, seed.length ≤ 32 := by
  simp only [admits, Bool.and_eq_true, List.all_eq_true, decide_eq_true_eq]
  rfl

/-- A bump may follow the seeds: they are at most fifteen, of at most 32 bytes each. -/
def Extensible (seeds : List Bytes) : Prop :=
  seeds.length ≤ 15 ∧ ∀ seed ∈ seeds, seed.length ≤ 32

theorem admits_concat_iff : admits (seeds ++ [[bump]]) = true ↔ Extensible seeds := by
  rw [admits_eq_true_iff, List.length_append, List.forall_mem_append, List.forall_mem_singleton,
    Extensible]
  have room : seeds.length + 1 ≤ 16 ↔ seeds.length ≤ 15 := by omega
  have short : [bump].length ≤ 32 := by simp
  rw [List.length_singleton, room, and_iff_left short]

theorem derive?_eq_some_iff :
    derive? seeds program = some address ↔
      admits seeds = true ∧ address = sha256 (preimage seeds program) ∧
        ∀ x, ¬OnCurve x (ordinate address) := by
  rw [← not_exists, ← Edwards25519.isPoint_eq_true_iff, derive?]
  by_cases admitted : admits seeds = true
  · rw [if_pos admitted, and_iff_right admitted]
    constructor
    · intro derived
      dsimp only at derived
      split at derived
      · cases derived
      · rename_i off
        cases derived
        exact ⟨rfl, off⟩
    · rintro ⟨rfl, off⟩
      exact if_neg off
  · rw [if_neg admitted]
    exact iff_of_false nofun (fun derived => admitted derived.1)

theorem derive?_concat_eq_none_iff :
    derive? (seeds ++ [[bump]]) program = none ↔
      ¬Extensible seeds ∨
        ∃ x, OnCurve x (ordinate (sha256 (preimage (seeds ++ [[bump]]) program))) := by
  constructor
  · intro refused
    by_contra neither
    rw [not_or, not_not, not_exists] at neither
    have derived := derive?_eq_some_iff.mpr ⟨admits_concat_iff.mpr neither.1, rfl, neither.2⟩
    rw [refused] at derived
    cases derived
  · intro barred
    rw [Option.eq_none_iff_forall_ne_some]
    intro address derived
    obtain ⟨admitted, rfl, off⟩ := derive?_eq_some_iff.mp derived
    rcases barred with full | ⟨x, on⟩
    · exact full (admits_concat_iff.mp admitted)
    · exact off x on

section Search

def bumps (seeds : List Bytes) (program : Pubkey) (count : Nat) : Set UInt8 :=
  {bump | bump.toNat < count ∧ (derive? (seeds ++ [[bump]]) program).isSome}

theorem isGreatest_bumps_of_some (within : count < 256)
    (derived : derive? (seeds ++ [[UInt8.ofNat count]]) program = some address) :
    IsGreatest (bumps seeds program (count + 1)) (UInt8.ofNat count) := by
  have top : (UInt8.ofNat count).toNat = count := UInt8.toNat_ofNat_of_lt' within
  constructor
  · exact ⟨by omega, by rw [derived, Option.isSome_some]⟩
  · rintro bump ⟨below, -⟩
    rw [UInt8.le_iff_toNat_le]
    omega

theorem bumps_succ_of_none
    (refused : derive? (seeds ++ [[UInt8.ofNat count]]) program = none) :
    bumps seeds program (count + 1) = bumps seeds program count := by
  ext bump
  refine and_congr_left fun gives => ?_
  have lower : bump.toNat ≠ count := by
    rintro rfl
    rw [UInt8.ofNat_toNat] at refused
    rw [refused] at gives
    cases gives
  omega

theorem searchBelow_eq_none_iff (within : count ≤ 256) :
    searchBelow seeds program count = none ↔ bumps seeds program count = ∅ := by
  induction count with
  | zero => simp [searchBelow, bumps]
  | succ count ih =>
    cases derived : derive? (seeds ++ [[UInt8.ofNat count]]) program with
    | some found =>
      have greatest := isGreatest_bumps_of_some (by omega) derived
      simp only [searchBelow, derived]
      exact iff_of_false nofun (Set.Nonempty.ne_empty ⟨_, greatest.1⟩)
    | none =>
      -- The bump on top drops out, both of the search and of the set.
      simp only [searchBelow, derived]
      rw [bumps_succ_of_none derived]
      exact ih (by omega)

theorem searchBelow_eq_some_iff (within : count ≤ 256) :
    searchBelow seeds program count = some (address, bump) ↔
      IsGreatest (bumps seeds program count) bump ∧
        derive? (seeds ++ [[bump]]) program = some address := by
  induction count with
  | zero => simp [searchBelow, bumps, IsGreatest]
  | succ count ih =>
    cases derived : derive? (seeds ++ [[UInt8.ofNat count]]) program with
    | some found =>
      -- The bump on top gives an address, so it is the greatest that does.
      have greatest := isGreatest_bumps_of_some (by omega) derived
      simp only [searchBelow, derived, Option.some.injEq, Prod.mk.injEq]
      constructor
      · rintro ⟨rfl, rfl⟩
        exact ⟨greatest, derived⟩
      · rintro ⟨other, again⟩
        obtain rfl := UInt8.le_antisymm (other.2 greatest.1) (greatest.2 other.1)
        rw [derived] at again
        exact ⟨Option.some.inj again, rfl⟩
    | none =>
      simp only [searchBelow, derived]
      rw [bumps_succ_of_none derived]
      exact ih (by omega)

theorem mem_bumps_all : bump ∈ bumps seeds program 256 ↔
    (derive? (seeds ++ [[bump]]) program).isSome :=
  and_iff_right bump.toNat_lt

/-- To refuse too many seeds at once only saves the tries, which all fail on such seeds. -/
theorem search?_eq_searchBelow : search? seeds program = searchBelow seeds program 256 := by
  unfold search?
  split
  · rename_i many
    -- With the bump these are more seeds than an address may have.
    symm
    rw [searchBelow_eq_none_iff le_rfl, Set.eq_empty_iff_forall_notMem]
    intro bump gives
    have full : ¬Extensible seeds := fun extensible =>
      absurd (many.trans extensible.1) (by decide)
    rw [mem_bumps_all, derive?_concat_eq_none_iff.mpr (Or.inl full)] at gives
    cases gives
  · rfl

theorem search?_eq_some_iff :
    search? seeds program = some (address, bump) ↔
      IsGreatest {bump | (derive? (seeds ++ [[bump]]) program).isSome} bump ∧
        derive? (seeds ++ [[bump]]) program = some address := by
  have all : bumps seeds program 256 = {bump | (derive? (seeds ++ [[bump]]) program).isSome} :=
    Set.ext fun _ => mem_bumps_all
  rw [search?_eq_searchBelow, searchBelow_eq_some_iff le_rfl, all]

theorem search?_eq_none_iff :
    search? seeds program = none ↔ ∀ bump, derive? (seeds ++ [[bump]]) program = none := by
  simp only [search?_eq_searchBelow, searchBelow_eq_none_iff le_rfl,
    Set.eq_empty_iff_forall_notMem, mem_bumps_all, Bool.not_eq_true, Option.isSome_eq_false_iff,
    Option.isNone_iff_eq_none]

theorem eq_sha256_of_search? (found : search? seeds program = some (address, bump)) :
    address = sha256 (preimage (seeds ++ [[bump]]) program) :=
  (derive?_eq_some_iff.mp (search?_eq_some_iff.mp found).2).2.1

end Search

namespace Listed

/-- The address of the seeds, by the form of the hash that proofs evaluate. -/
def derive? (seeds : List Bytes) (program : Pubkey) : Option Pubkey :=
  if admits seeds then
    let address := Sha256.Listed.sha256 (preimage seeds program)
    if Edwards25519.isPoint address then none else some address
  else none

def searchBelow (seeds : List Bytes) (program : Pubkey) : Nat → Option (Pubkey × UInt8)
  | 0 => none
  | bump + 1 =>
    match derive? (seeds ++ [[UInt8.ofNat bump]]) program with
    | some address => some (address, UInt8.ofNat bump)
    | none => searchBelow seeds program bump

end Listed

theorem derive?_eq_listed (seeds : List Bytes) (program : Pubkey) :
    derive? seeds program = Listed.derive? seeds program := by
  simp only [derive?, Listed.derive?, Sha256.sha256_eq_listed]

theorem searchBelow_eq_listed (seeds : List Bytes) (program : Pubkey) (count : Nat) :
    searchBelow seeds program count = Listed.searchBelow seeds program count := by
  induction count with
  | zero => rfl
  | succ count ih =>
    cases derived : Listed.derive? (seeds ++ [[UInt8.ofNat count]]) program <;>
      simp only [searchBelow, Listed.searchBelow, derive?_eq_listed, derived, ih]

theorem search?_eq_listed (seeds : List Bytes) (program : Pubkey) :
    search? seeds program =
      if maxSeeds ≤ seeds.length then none else Listed.searchBelow seeds program 256 := by
  rw [search?, searchBelow_eq_listed]

/-- The search answers with the greatest bump that gives an address, and with that address. It finds
none exactly if no bump may follow the seeds or every bump leads to a point of the curve. A single
address has the same limits, with the bump among its seeds. -/
theorem search_exact (seeds : List Bytes) (program : Pubkey) :
    (∀ address bump,
      search? seeds program = some (address, bump) ↔
        Extensible seeds ∧
          IsGreatest {bump | (derive? (seeds ++ [[bump]]) program).isSome} bump ∧
          derive? (seeds ++ [[bump]]) program = some address) ∧
    (search? seeds program = none ↔
      ¬Extensible seeds ∨
        ∀ bump, ∃ x, OnCurve x (ordinate (sha256 (preimage (seeds ++ [[bump]]) program)))) ∧
    ∀ address,
      derive? seeds program = some address ↔
        (seeds.length ≤ 16 ∧ ∀ seed ∈ seeds, seed.length ≤ 32) ∧
          address = sha256 (preimage seeds program) ∧ ∀ x, ¬OnCurve x (ordinate address) := by
  refine ⟨fun address bump => ?found, ?nothing, fun address => ?single⟩
  case found =>
    rw [search?_eq_some_iff]
    constructor
    · rintro ⟨greatest, derived⟩
      exact ⟨admits_concat_iff.mp (derive?_eq_some_iff.mp derived).1, greatest, derived⟩
    · rintro ⟨-, greatest, derived⟩
      exact ⟨greatest, derived⟩
  case nothing =>
    simp only [search?_eq_none_iff, derive?_concat_eq_none_iff, forall_or_left]
  case single =>
    rw [derive?_eq_some_iff, admits_eq_true_iff]

section
-- Fifteen seeds of one byte, after which the hashes of the two highest bumps are points.
def fullSeeds : List Bytes := List.replicate 15 [1]

def fullProgram : Pubkey := .replicate 32 0

def fullAddress : Pubkey :=
  ⟨[165, 151, 241, 97, 93, 100, 202, 46, 67, 80, 30, 152, 80, 190, 75, 81, 92, 96, 88, 117, 65,
    231, 49, 35, 187, 212, 230, 198, 114, 103, 237, 41], rfl⟩

/-- As many seeds as a bump may follow. With one more of them there is still an address, but there
is none to be searched for. -/
theorem search_exact_full :
    search? fullSeeds fullProgram = some (fullAddress, 253) ∧
      IsGreatest {bump | (derive? (fullSeeds ++ [[bump]]) fullProgram).isSome} 253 ∧
      derive? (fullSeeds ++ [[253]]) fullProgram = some fullAddress ∧
      (derive? (fullSeeds ++ [[1]]) fullProgram).isSome ∧
      search? (fullSeeds ++ [[1]]) fullProgram = none := by
  have found : search? fullSeeds fullProgram = some (fullAddress, 253) := by
    rw [search?_eq_listed]
    decide +kernel
  have beyond : ¬(fullSeeds ++ [[1]]).length ≤ 15 := by decide
  have derived : (derive? (fullSeeds ++ [[1]]) fullProgram).isSome := by
    rw [derive?_eq_listed]
    decide +kernel
  obtain ⟨-, greatest, again⟩ := ((search_exact fullSeeds fullProgram).1 fullAddress 253).mp found
  refine ⟨found, greatest, again, derived, ?_⟩
  exact (search_exact (fullSeeds ++ [[1]]) fullProgram).2.1.mpr (Or.inl fun fits => beyond fits.1)

end

end TokenClaim.ProgramAddress
