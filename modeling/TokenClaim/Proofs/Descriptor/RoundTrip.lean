import TokenClaim.Proofs.Descriptor.Messages
import TokenClaim.Proofs.Ledger.AuthorizationModes
/-!
Descriptors are read back as they were written. What was selected for a vamp stays selected, so that
a descriptor that was read under some policy reads back under it, however its message looked.
-/

set_option autoImplicit false

namespace TokenClaim

open Wire

def Authorization.root? : Authorization → Option Digest
  | table _ => none
  | root kept => some kept

namespace AuthorizationPolicy

variable {policy : AuthorizationPolicy} {entries : AllocationTable} {root : Option Digest}

theorem KeepsTable.alone (keeps : policy.KeepsTable entries root) :
    policy.KeepsTable entries none := by
  revert keeps
  unfold KeepsTable
  cases policy.mode with
  | auto => grind
  | table => exact fun ⟨_, short⟩ => ⟨fun _ => rfl, short⟩
  | root => exact False.elim

theorem KeepsRoot.alone (keeps : policy.KeepsRoot entries root) (digest : Digest) :
    policy.KeepsRoot [] (some digest) := by
  revert keeps
  unfold KeepsRoot
  cases policy.mode with
  | auto => exact fun _ => Option.some_ne_none digest
  | table => exact False.elim
  | root => exact fun _ _ => Option.some_ne_none digest

theorem select_selected {authorization : Authorization}
    (selected : policy.select entries root = .ok authorization) :
    policy.select authorization.entries authorization.root? = .ok authorization := by
  cases authorization with
  | table kept =>
    obtain ⟨rfl, keeps⟩ := select_eq_table_iff.mp selected
    exact select_eq_table_iff.mpr ⟨rfl, keeps.alone⟩
  | root digest =>
    obtain ⟨-, keeps⟩ := select_eq_root_iff.mp selected
    exact select_eq_root_iff.mpr ⟨rfl, keeps.alone digest⟩

theorem select_standard {authorization : Authorization}
    (short : authorization.entries.length ≤ standard.tableLimit) :
    standard.select authorization.entries authorization.root? = .ok authorization := by
  cases authorization with
  | table kept =>
    have keeps : standard.KeepsTable kept none := by
      change if kept = [] then none = none else kept.length ≤ standard.tableLimit
      split
      · rfl
      · exact short
    exact select_eq_table_iff.mpr ⟨rfl, keeps⟩
  | root kept => rfl

end AuthorizationPolicy

namespace Descriptor

variable {policy : AuthorizationPolicy} {data : Bytes} {d : Descriptor}

theorem table_toMessage (d : Descriptor) :
    d.toMessage.table.getD TableMessage.empty = .ofEntries d.authorization.entries := by
  rw [toMessage]
  cases d.authorization <;> rfl

theorem givenRoot_toMessage (d : Descriptor) : d.toMessage.givenRoot = d.authorization.root? := by
  rw [toMessage, DescriptorMessage.givenRoot]
  cases d.authorization with
  | table entries => rfl
  | root kept => exact Octets.ofBytes?_toBytes kept

theorem toNat_decimals_toMessage (d : Descriptor) :
    d.toMessage.decimals.toNat = d.decimals.toNat := by
  have small := d.decimals.toNat_lt
  rw [toMessage, UInt32.toNat_ofNat']
  omega

theorem descriptor_toMessage (d : Descriptor) : d.toMessage.descriptor d.authorization = d := by
  have decimals : UInt8.ofNat d.toMessage.decimals.toNat = d.decimals := by
    rw [toNat_decimals_toMessage, UInt8.ofNat_toNat]
  have terms : d.toMessage.terms.map TermsMessage.terms = d.terms := by
    cases given : d.terms <;> simp [toMessage, given, TermsMessage.terms_ofTerms]
  simp only [DescriptorMessage.descriptor, decimals, terms]
  rfl

theorem WithinLimits.sized_toMessage (limits : d.WithinLimits) : d.toMessage.Sized where
  intent := limits.intent
  name := limits.name
  symbol := limits.symbol
  uri := limits.uri
  erc20 := limits.erc20
  solverKey := limits.solverKey
  validatorKey := limits.validatorKey
  ownerKey := limits.ownerKey
  root := by
    rw [toMessage]
    cases d.authorization with
    | table entries => exact Or.inl rfl
    | root kept => exact Or.inr kept.length_toBytes

theorem WithinLimits.valid_toMessage (limits : d.WithinLimits) :
    d.toMessage.Valid d.authorization.entries where
  lengths := checkLengths_eq_ok_iff.mpr limits.sized_toMessage
  decimals := d.toNat_decimals_toMessage ▸ limits.decimals
  listed := by
    rw [DescriptorMessage.entries, table_toMessage, toNat_decimals_toMessage, UInt8.ofNat_toNat]
    exact TableMessage.entries_eq_ok_iff.mpr ⟨rfl, limits.entries⟩
  distinct := limits.distinct
  covered := limits.covered
  root := by
    intro root given
    rw [givenRoot_toMessage] at given
    cases kept : d.authorization with
    | table entries =>
      rw [kept] at given
      cases given
    | root other => exact fun some => absurd rfl some
  terms := by
    intro terms given
    have same : (d.toMessage.descriptor d.authorization).terms = some terms := given
    rw [descriptor_toMessage] at same
    exact limits.terms terms same

theorem WithinLimits.ofMessage_toMessage (limits : d.WithinLimits)
    (selected : policy.select d.authorization.entries d.authorization.root? =
      .ok d.authorization) : ofMessage policy d.toMessage = .ok d := by
  rw [← givenRoot_toMessage] at selected
  exact ofMessage_eq_ok_iff.mpr
    ⟨_, _, limits.valid_toMessage, selected, d.descriptor_toMessage.symm⟩

theorem WithinLimits.length_field_lt (limits : d.WithinLimits)
    (countable : 20 * d.authorization.entries.length < 2 ^ 63) :
    ∀ field ∈ DescriptorMessage.schema.fields, (field.write d.toMessage).length < 2 ^ 64 := by
  have table : ∀ table, d.toMessage.table = some table →
      (TableMessage.schema.write table).length ≤ 36 * d.authorization.entries.length + 15 := by
    intro table given
    have same := d.table_toMessage
    rw [given, Option.getD_some] at same
    rw [same]
    exact TableMessage.length_write_le countable
  exact limits.sized_toMessage.length_field_lt table (by omega)

theorem WithinLimits.read_write (limits : d.WithinLimits)
    (countable : 20 * d.authorization.entries.length < 2 ^ 63)
    (selected : policy.select d.authorization.entries d.authorization.root? =
      .ok d.authorization) : read policy d.write = .ok d := by
  have message : DescriptorMessage.schema.read d.write = .ok d.toMessage :=
    Schema.read_write (DescriptorMessage.fills _ _) (limits.length_field_lt countable)
  exact read_eq_ok_iff.mpr ⟨_, message, limits.ofMessage_toMessage selected⟩

theorem entries_le_of_read (accepted : read policy data = .ok d) :
    20 * d.authorization.entries.length ≤ data.length := by
  obtain ⟨m, message, made⟩ := read_eq_ok_iff.mp accepted
  obtain ⟨entries, authorization, valid, selected, rfl⟩ := ofMessage_eq_ok_iff.mp made
  have held : m.addressBytes ≤ data.length :=
    Schema.weight_le_of_read DescriptorMessage.consumes rfl message
  have listed := (TableMessage.entries_eq_ok_iff.mp valid.listed).1
  rw [DescriptorMessage.addressBytes, listed, TableMessage.addressBytes_ofEntries] at held
  rcases AuthorizationPolicy.entries_of_select selected with same | none
  · simp only [DescriptorMessage.descriptor, same]
    exact held
  · simp only [DescriptorMessage.descriptor, none]
    exact Nat.zero_le _

/-- What is accepted under some policy reads back under it from what is written of it, and a
descriptor within the limits reads back under the standard policy unless its table is longer than
that keeps. Lengths are written as 64-bit numbers; no byte string in memory has 2 ^ 63 bytes. -/
theorem reads_back :
    (∀ (policy : AuthorizationPolicy) (data : Bytes) (d : Descriptor), data.length < 2 ^ 63 →
        read policy data = .ok d → read policy d.write = .ok d) ∧
      ∀ d : Descriptor, d.WithinLimits →
        d.authorization.entries.length ≤ AuthorizationPolicy.standard.tableLimit →
        read .standard d.write = .ok d := by
  constructor
  · intro policy data d addressable accepted
    obtain ⟨m, -, made⟩ := read_eq_ok_iff.mp accepted
    obtain ⟨entries, authorization, -, selected, rfl⟩ := ofMessage_eq_ok_iff.mp made
    exact (withinLimits_of_read accepted).read_write
      (Nat.lt_of_le_of_lt (entries_le_of_read accepted) addressable)
      (AuthorizationPolicy.select_selected selected)
  · intro d limits short
    refine limits.read_write ?_ ?_
    · simp only [AuthorizationPolicy.standard] at short
      omega
    · exact AuthorizationPolicy.select_standard short

end Descriptor

namespace Market

def bareOffer : Descriptor :=
  { offer with
    uri := some ""
    authorization := .table []
    terms := some { Terms.standard with ceiling := some 0 } }

theorem bareOffer_withinLimits : bareOffer.WithinLimits where
  intent := by decide
  name := by decide
  symbol := by decide
  uri := by decide
  erc20 := by decide
  solverKey := by decide
  validatorKey := by decide
  ownerKey := by decide
  decimals := by decide
  entries := by decide
  distinct := by decide
  covered := by decide
  terms := by
    intro terms given
    cases given
    rfl

set_option maxRecDepth 4000 in
theorem threeOffer_short : threeOffer.length < 2 ^ 63 := by
  with_unfolding_all decide

end Market

/-- A table of which the root was kept, and an offer with empty and zero fields. -/
theorem reads_back_root_and_bare :
    Descriptor.read ⟨.root, 1024⟩ (Market.offerTo (.root Market.threeShares.root)).write =
        .ok (Market.offerTo (.root Market.threeShares.root)) ∧
      Descriptor.read .standard Market.bareOffer.write = .ok Market.bareOffer := by
  obtain ⟨accepted, within⟩ := Descriptor.reads_back
  exact ⟨accepted _ _ _ Market.threeOffer_short (Market.read_threeOffer Market.selects_root),
    within _ Market.bareOffer_withinLimits (by decide)⟩

end TokenClaim
