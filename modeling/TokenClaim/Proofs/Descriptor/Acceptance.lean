import Mathlib.Algebra.Ring.Nat
import TokenClaim.Descriptor.Basic
import TokenClaim.Proofs.Checked
/-!
When a descriptor is accepted. A message is checked in the same way under every policy; the policy
only selects how the allocations are kept.
-/

set_option autoImplicit false

namespace TokenClaim

theorem Terms.validate_eq_ok_iff {terms : Terms} :
    terms.validate = .ok () ↔ terms.exponent ≤ maxExponent ∧
      (terms.onCurve = true → ∀ ceiling, terms.ceiling = some ceiling → terms.base ≤ ceiling) := by
  by_cases high : maxExponent < terms.exponent
  · rw [validate, if_pos high]
    constructor
    · intro valid
      cases valid
    · rintro ⟨low, -⟩
      exact absurd low (UInt32.not_le.mpr high)
  · rw [validate, if_neg high]
    simp only [UInt32.not_lt.mp high, true_and]
    cases terms.ceiling with
    | none => simp [pure, Except.pure]
    | some ceiling =>
      simp only [Option.some.injEq, forall_eq', ← UInt64.not_lt]
      split
      · rename_i below
        simp [below]
      · rename_i above
        exact ⟨fun _ curve below => above ⟨curve, below⟩, fun _ => rfl⟩

section Tables

def Allocation.ofRow (decimals : UInt8) (row : Bytes × UInt64) : Except Malformed Allocation :=
  match Octets.ofBytes? 20 row.1 with
  | some address => .ok ⟨address, row.2, decimals⟩
  | none => .error (.tableAddress row.1.length)

theorem TableMessage.entries_eq (message : TableMessage) (decimals : UInt8) :
    message.entries decimals =
      if message.addresses.length ≠ message.amounts.length then
        .error (.tableCounts message.addresses.length message.amounts.length)
      else (message.addresses.zip message.amounts).mapM (Allocation.ofRow decimals) := rfl

variable {decimals : UInt8} {entries : AllocationTable}

theorem Allocation.ofRow_eq_ok_iff {row : Bytes × UInt64} {entry : Allocation} :
    ofRow decimals row = .ok entry ↔
      row = (entry.address.toBytes, entry.amount) ∧ entry.decimals = decimals := by
  obtain ⟨bytes, amount⟩ := row
  obtain ⟨address, granted, digits⟩ := entry
  unfold ofRow
  split
  · rename_i known found
    obtain rfl := Octets.ofBytes?_eq_some_iff.mp found
    simp only [Except.ok.injEq, Allocation.mk.injEq, Prod.mk.injEq]
    constructor
    · rintro ⟨rfl, rfl, rfl⟩
      exact ⟨⟨rfl, rfl⟩, rfl⟩
    · rintro ⟨⟨same, rfl⟩, rfl⟩
      exact ⟨Octets.toBytes_injective same, rfl, rfl⟩
  · rename_i found
    simp only [reduceCtorEq, Prod.mk.injEq, false_iff]
    rintro ⟨⟨rfl, -⟩, -⟩
    rw [Octets.ofBytes?_toBytes] at found
    cases found

theorem Allocation.mapM_ofRow_eq_ok_iff {rows : List (Bytes × UInt64)} :
    rows.mapM (ofRow decimals) = .ok entries ↔
      rows = entries.map (fun entry => (entry.address.toBytes, entry.amount)) ∧
        ∀ entry ∈ entries, entry.decimals = decimals := by
  induction rows generalizing entries with
  | nil => cases entries <;> simp [pure, Except.pure]
  | cons row rows ih =>
    rw [List.mapM_cons]
    cases entries with
    | nil => simp [bind_eq_ok_iff, pure, Except.pure]
    | cons entry entries =>
      simp only [bind_eq_ok_iff, pure, Except.pure, Except.ok.injEq, List.cons.injEq,
        exists_eq_right_right, ofRow_eq_ok_iff, ih, List.map_cons, List.forall_mem_cons]
      grind

def TableMessage.ofEntries (entries : AllocationTable) : TableMessage :=
  ⟨entries.map (·.address.toBytes), entries.map (·.amount)⟩

theorem TableMessage.entries_eq_ok_iff {message : TableMessage} :
    message.entries decimals = .ok entries ↔
      message = ofEntries entries ∧ ∀ entry ∈ entries, entry.decimals = decimals := by
  obtain ⟨addresses, amounts⟩ := message
  rw [entries_eq, ofEntries, TableMessage.mk.injEq]
  simp only
  split
  · rename_i uneven
    simp only [reduceCtorEq, false_iff]
    rintro ⟨⟨rfl, rfl⟩, -⟩
    simp at uneven
  · rename_i even
    have unzip : addresses.zip amounts =
          entries.map (fun entry => (entry.address.toBytes, entry.amount)) ↔
        addresses = entries.map (·.address.toBytes) ∧ amounts = entries.map (·.amount) := by
      constructor
      · intro rows
        have first := congrArg (List.map Prod.fst) rows
        have second := congrArg (List.map Prod.snd) rows
        rw [List.map_fst_zip (by omega), List.map_map] at first
        rw [List.map_snd_zip (by omega), List.map_map] at second
        exact ⟨first, second⟩
      · rintro ⟨rfl, rfl⟩
        exact List.zip_map'
    rw [Allocation.mapM_ofRow_eq_ok_iff, unzip]

theorem TableMessage.decimals_of_entries {message : TableMessage}
    (listed : message.entries decimals = .ok entries) :
    ∀ entry ∈ entries, entry.decimals = decimals :=
  (entries_eq_ok_iff.mp listed).2

end Tables

namespace Descriptor

/-- Amounts are added up as long as no address comes again and 64 bits hold the sum. -/
theorem allocated_eq_ok_iff {seen : List EthAddress} {sum total : UInt64}
    {entries : AllocationTable} :
    allocated seen sum entries = .ok total ↔
      (∀ entry ∈ entries, entry.address ∉ seen) ∧ (entries.map (·.address)).Nodup ∧
        total.toNat = sum.toNat + (entries.map (·.amount.toNat)).sum := by
  -- `seen` and `sum` grow along the table, so that the statement is about any of them.
  induction entries generalizing seen sum with
  | nil => simp [allocated, ← UInt64.toNat_inj, eq_comm]
  | cons entry rest ih =>
    unfold allocated
    simp only [List.forall_mem_cons, List.map_cons, List.nodup_cons, List.sum_cons]
    split
    · rename_i again
      simp [again]
    · rename_i fresh
      -- The rest is free of the addresses seen exactly if it is free of the older ones and of this.
      have apart : (∀ other ∈ rest, other.address ∉ entry.address :: seen) ↔
          (∀ other ∈ rest, other.address ∉ seen) ∧
            entry.address ∉ rest.map (·.address) := by
        simp only [List.mem_cons, List.mem_map]
        grind
      cases added : Word64.add? sum entry.amount with
      | none =>
        have large := Word64.ofNat?_eq_none_iff.mp added
        have small : total.toNat < UInt64.size := total.toNat_lt
        simp only [reduceCtorEq, false_iff]
        omega
      | some next =>
        have value := Word64.add?_eq_some_iff.mp added
        simp only [ih, apart, value, fresh, not_false_eq_true, true_and, and_assoc, Nat.add_assoc]

theorem checkAllocated_eq_ok_iff {entries : AllocationTable} {amount : UInt64} :
    checkAllocated entries amount = .ok () ↔
      (entries.map (·.address)).Nodup ∧ (entries.map (·.amount.toNat)).sum ≤ amount.toNat := by
  have bound := amount.toNat_lt
  have covers : ∀ sum : UInt64,
      (if amount < sum then throw (.malformed (.overAllocated sum amount)) else pure () :
        Result Unit) = .ok () ↔ sum.toNat ≤ amount.toNat := by
    intro sum
    rw [← Nat.not_lt, ← UInt64.lt_iff_toNat_lt]
    split <;> simp_all [pure, Except.pure]
  simp only [checkAllocated, bind_eq_ok_iff, covers, allocated_eq_ok_iff, List.not_mem_nil,
    not_false_eq_true, implies_true, true_and, UInt64.toNat_zero, Nat.zero_add]
  constructor
  · rintro ⟨sum, ⟨distinct, total⟩, covered⟩
    exact ⟨distinct, total ▸ covered⟩
  · rintro ⟨distinct, covered⟩
    have total : (UInt64.ofNat (entries.map (·.amount.toNat)).sum).toNat =
        (entries.map (·.amount.toNat)).sum := by
      rw [UInt64.toNat_ofNat']
      omega
    refine ⟨_, ⟨distinct, total⟩, ?_⟩
    rw [total]
    exact covered

theorem checkDecimals_eq_ok_iff {decimals : UInt32} :
    checkDecimals decimals = .ok () ↔ decimals.toNat ≤ maxDecimals := by
  rw [checkDecimals, ← Nat.not_lt]
  split <;> simp_all

theorem checkRoot_eq_ok_iff {entries : AllocationTable} {root : Option Digest} :
    checkRoot entries root = .ok () ↔ ∀ given, root = some given → entries ≠ [] →
      entries.root = given := by
  cases root with
  | none => simp [checkRoot]
  | some given =>
    simp only [checkRoot, Option.some.injEq, forall_eq']
    split <;> simp_all

theorem checkTerms_eq_ok_iff {terms : Option Terms} :
    checkTerms terms = .ok () ↔ ∀ given, terms = some given → given.validate = .ok () := by
  cases terms <;> simp [checkTerms]

end Descriptor

namespace DescriptorMessage

def entries (m : DescriptorMessage) : Except Malformed AllocationTable :=
  (m.table.getD TableMessage.empty).entries (UInt8.ofNat m.decimals.toNat)

def givenRoot (m : DescriptorMessage) : Option Digest := Octets.ofBytes? 32 m.root

/-- What every policy asks of a message that lists the given entries. -/
structure Valid (m : DescriptorMessage) (entries : AllocationTable) : Prop where
  lengths : Descriptor.checkLengths m = .ok ()
  decimals : m.decimals.toNat ≤ Descriptor.maxDecimals
  listed : m.entries = .ok entries
  distinct : (entries.map (·.address)).Nodup
  covered : (entries.map (·.amount.toNat)).sum ≤ m.amount.toNat
  root : ∀ root, m.givenRoot = some root → entries ≠ [] → entries.root = root
  terms : ∀ terms, m.terms.map TermsMessage.terms = some terms → terms.validate = .ok ()

def descriptor (m : DescriptorMessage) (authorization : Authorization) : Descriptor where
  intent := m.intent
  name := m.name
  symbol := m.symbol
  uri := m.uri
  erc20 := m.erc20
  amount := m.amount
  decimals := UInt8.ofNat m.decimals.toNat
  chain := m.chain
  salt := m.salt
  solverKey := m.solverKey
  validatorKey := m.validatorKey
  ownerKey := m.ownerKey
  authorization := authorization
  terms := m.terms.map TermsMessage.terms

end DescriptorMessage

namespace Descriptor

variable {policy : AuthorizationPolicy} {m : DescriptorMessage} {d : Descriptor}

theorem ofMessage_eq_ok_iff :
    ofMessage policy m = .ok d ↔
      ∃ entries authorization, m.Valid entries ∧
        policy.select entries m.givenRoot = .ok authorization ∧ d = m.descriptor authorization := by
  simp only [ofMessage, check, bind_eq_ok_iff, mapError_eq_ok_iff]
  constructor
  · rintro ⟨⟨⟩, lengths, ⟨⟩, decimals, entries, listed, ⟨⟩, allocated, ⟨⟩, root, authorization,
      selected, ⟨⟩, terms, same⟩
    cases same
    obtain ⟨distinct, covered⟩ := checkAllocated_eq_ok_iff.mp allocated
    exact ⟨entries, authorization, ⟨lengths, checkDecimals_eq_ok_iff.mp decimals, listed, distinct,
      covered, checkRoot_eq_ok_iff.mp root, checkTerms_eq_ok_iff.mp terms⟩, selected, rfl⟩
  · rintro ⟨entries, authorization, valid, selected, rfl⟩
    exact ⟨(), valid.lengths, (), checkDecimals_eq_ok_iff.mpr valid.decimals, entries, valid.listed,
      (), checkAllocated_eq_ok_iff.mpr ⟨valid.distinct, valid.covered⟩, (),
      checkRoot_eq_ok_iff.mpr valid.root, authorization, selected, (),
      checkTerms_eq_ok_iff.mpr valid.terms, rfl⟩

theorem read_eq_ok_iff {data : Bytes} :
    read policy data = .ok d ↔
      ∃ m, DescriptorMessage.schema.read data = .ok m ∧ ofMessage policy m = .ok d := by
  simp only [read, bind_eq_ok_iff, mapError_eq_ok_iff]

end Descriptor

namespace AuthorizationPolicy

def KeepsTable (policy : AuthorizationPolicy) (entries : AllocationTable) (root : Option Digest) :
    Prop :=
  match policy.mode with
  | .auto => if entries = [] then root = none else entries.length ≤ policy.tableLimit
  | .table => (entries = [] → root = none) ∧ entries.length ≤ policy.tableLimit
  | .root => False

def KeepsRoot (policy : AuthorizationPolicy) (entries : AllocationTable) (root : Option Digest) :
    Prop :=
  match policy.mode with
  | .auto => if entries = [] then root ≠ none else policy.tableLimit < entries.length
  | .table => False
  | .root => entries = [] → root ≠ none

variable {policy : AuthorizationPolicy} {entries kept : AllocationTable} {root : Option Digest}

theorem select_eq_table_iff :
    policy.select entries root = .ok (.table kept) ↔
      kept = entries ∧ policy.KeepsTable entries root := by
  unfold select KeepsTable
  cases policy.mode with
  | auto => cases entries <;> cases root <;> grind
  | table => cases entries <;> cases root <;> grind
  | root => cases entries <;> cases root <;> grind

theorem select_eq_root_iff {digest : Digest} :
    policy.select entries root = .ok (.root digest) ↔
      digest = root.getD entries.root ∧ policy.KeepsRoot entries root := by
  unfold select KeepsRoot
  cases policy.mode with
  | auto => cases entries <;> cases root <;> grind
  | table => cases entries <;> cases root <;> grind
  | root => cases entries <;> cases root <;> grind

theorem table_or_root_of_select {authorization : Authorization}
    (agrees : ∀ given, root = some given → entries.root = given)
    (selected : policy.select entries root = .ok authorization) :
    authorization = .table entries ∨ authorization = .root entries.root := by
  cases authorization with
  | table kept => exact Or.inl (congrArg _ (select_eq_table_iff.mp selected).1)
  | root digest =>
    obtain ⟨rfl, -⟩ := select_eq_root_iff.mp selected
    cases root with
    | none => exact Or.inr rfl
    | some given => exact Or.inr (congrArg _ (agrees given rfl).symm)

end AuthorizationPolicy

/-- A table that a vamp is to keep allocates no more than the descriptor mints. -/
theorem Descriptor.table_covered {policy : AuthorizationPolicy} {data : Bytes} {d : Descriptor}
    {entries : AllocationTable} (accepted : read policy data = .ok d)
    (kept : d.authorization = .table entries) :
    (entries.map (·.amount.toNat)).sum ≤ d.amount.toNat := by
  obtain ⟨m, -, made⟩ := read_eq_ok_iff.mp accepted
  obtain ⟨listed, authorization, valid, selected, rfl⟩ := ofMessage_eq_ok_iff.mp made
  have inTable : authorization = .table entries := kept
  rw [inTable] at selected
  rw [(AuthorizationPolicy.select_eq_table_iff.mp selected).1]
  exact valid.covered

end TokenClaim
