import Mathlib.Data.List.Nodup
import TokenClaim.Proofs.Descriptor.Limits
import TokenClaim.Proofs.Ledger.AuthorizationModes
import TokenClaim.Proofs.Refusals
/-!
Which messages make a descriptor. The rules speak of the message as it is sent, with its addresses
as byte strings and its amounts as numbers that no word bounds; reading goes through exactly where
they hold, and otherwise tells what is malformed or that the amounts exceed a word.
-/

set_option autoImplicit false

namespace TokenClaim

/-- A table of so many entries, with or without a root beside it, can be kept as the policy says. -/
def AuthorizationPolicy.Admits (policy : AuthorizationPolicy) (entries : Nat) (rooted : Prop) :
    Prop :=
  match policy.mode with
  | .auto => True
  | .table => (rooted → entries ≠ 0) ∧ entries ≤ policy.tableLimit
  | .root => rooted ∨ entries ≠ 0

theorem AuthorizationPolicy.exists_select_iff {policy : AuthorizationPolicy}
    {entries : AllocationTable} {root : Option Digest} :
    (∃ authorization, policy.select entries root = .ok authorization) ↔
      policy.Admits entries.length (root.isSome = true) := by
  have kept : (∃ authorization, policy.select entries root = .ok authorization) ↔
      policy.KeepsTable entries root ∨ policy.KeepsRoot entries root := by
    constructor
    · rintro ⟨table | digest, selected⟩
      · exact Or.inl (select_eq_table_iff.mp selected).2
      · exact Or.inr (select_eq_root_iff.mp selected).2
    · rintro (keeps | keeps)
      · exact ⟨_, select_eq_table_iff.mpr ⟨rfl, keeps⟩⟩
      · exact ⟨_, select_eq_root_iff.mpr ⟨rfl, keeps⟩⟩
  rw [kept]
  unfold KeepsTable KeepsRoot Admits
  cases policy.mode with
  | auto => grind
  | table => cases root <;> grind
  | root => cases root <;> grind

/-- What the terms of a message may be. Without an exponent they mean a straight line. -/
structure TermsMessage.Sellable (terms : TermsMessage) : Prop where
  exponent : (terms.exponent.getD 1).toNat ≤ 3
  ceiling : terms.onCurve = true → ∀ ceiling, terms.ceiling = some ceiling → terms.base ≤ ceiling

theorem TermsMessage.validate_terms_iff {terms : TermsMessage} :
    terms.terms.validate = .ok () ↔ terms.Sellable := by
  rw [Terms.validate_eq_ok_iff, UInt32.le_iff_toNat_le]
  exact ⟨fun ⟨exponent, ceiling⟩ => ⟨exponent, ceiling⟩,
    fun sellable => ⟨sellable.exponent, sellable.ceiling⟩⟩

namespace TableMessage

def leaves (message : TableMessage) (decimals : UInt8) : List Digest :=
  List.zipWith (fun address amount => keccak256 (address ++ Word64.toBytes amount ++ [decimals]))
    message.addresses message.amounts

def total (message : TableMessage) : Nat := (message.amounts.map UInt64.toNat).sum

variable {decimals : UInt8}

theorem exists_entries_iff {message : TableMessage} :
    (∃ entries, message.entries decimals = .ok entries) ↔
      message.addresses.length = message.amounts.length ∧
        ∀ address ∈ message.addresses, address.length = 20 := by
  obtain ⟨addresses, amounts⟩ := message
  simp only [entries_eq_ok_iff, ofEntries, TableMessage.mk.injEq]
  constructor
  · rintro ⟨entries, ⟨rfl, rfl⟩, -⟩
    refine ⟨by simp, fun address listed => ?_⟩
    obtain ⟨entry, -, rfl⟩ := List.mem_map.mp listed
    exact entry.address.length_toBytes
  · rintro ⟨even, sized⟩
    -- Row by row, as long as both lists go on together.
    induction addresses generalizing amounts with
    | nil =>
      cases List.length_eq_zero_iff.mp even.symm
      exact ⟨[], ⟨rfl, rfl⟩, by simp⟩
    | cons address addresses ih =>
      cases amounts with
      | nil => cases even
      | cons amount amounts =>
        rw [List.forall_mem_cons] at sized
        obtain ⟨entries, ⟨rfl, rfl⟩, alike⟩ := ih amounts (Nat.succ.inj even) sized.2
        exact ⟨⟨⟨address, sized.1⟩, amount, decimals⟩ :: entries, ⟨rfl, rfl⟩,
          List.forall_mem_cons.mpr ⟨rfl, alike⟩⟩

section
variable {message : TableMessage} {entries : AllocationTable}
  (listed : message.entries decimals = .ok entries)
include listed

theorem length_of_entries : entries.length = message.addresses.length := by
  obtain ⟨rfl, -⟩ := entries_eq_ok_iff.mp listed
  rw [ofEntries, List.length_map]

theorem nodup_of_entries : (entries.map (·.address)).Nodup ↔ message.addresses.Nodup := by
  obtain ⟨rfl, -⟩ := entries_eq_ok_iff.mp listed
  have same : (ofEntries entries).addresses =
      (entries.map (·.address)).map Octets.toBytes := by
    rw [ofEntries, List.map_map]
    rfl
  rw [same]
  exact (List.nodup_map_iff fun _ _ => Octets.toBytes_injective).symm

theorem total_of_entries : (entries.map (·.amount.toNat)).sum = message.total := by
  obtain ⟨rfl, -⟩ := entries_eq_ok_iff.mp listed
  rw [total, ofEntries, List.map_map]
  rfl

theorem leaves_of_entries : entries.leaves = message.leaves decimals := by
  obtain ⟨rfl, alike⟩ := entries_eq_ok_iff.mp listed
  simp only [leaves, ofEntries, List.zipWith_map, List.zipWith_self, AllocationTable.leaves]
  refine List.map_congr_left fun entry member => ?_
  rw [Allocation.leaf, Allocation.leafBytes, alike entry member]

end

end TableMessage

namespace DescriptorMessage

def rows (m : DescriptorMessage) : TableMessage := m.table.getD TableMessage.empty

/-- The rules for a message under a policy. -/
structure Admissible (policy : AuthorizationPolicy) (m : DescriptorMessage) : Prop where
  sized : m.Sized
  decimals : m.decimals.toNat ≤ 9
  even : m.rows.addresses.length = m.rows.amounts.length
  addresses : ∀ address ∈ m.rows.addresses, address.length = 20
  distinct : m.rows.addresses.Nodup
  covered : m.rows.total ≤ m.amount.toNat
  /-- A root beside a table is the table's. -/
  root : m.root ≠ [] → m.rows.addresses ≠ [] →
    m.root = (Merkle.root (m.rows.leaves (UInt8.ofNat m.decimals.toNat))).toBytes
  kept : policy.Admits m.rows.addresses.length (m.root ≠ [])
  terms : ∀ terms, m.terms = some terms → terms.Sellable

variable {policy : AuthorizationPolicy} {m : DescriptorMessage}

theorem Sized.isSome_givenRoot_iff (sized : m.Sized) :
    m.givenRoot.isSome = true ↔ m.root ≠ [] := by
  rw [givenRoot, Octets.ofBytes?]
  rcases sized.root with none | digest
  · simp [List.length_eq_zero_iff.mp none]
  · have present : m.root ≠ [] := List.ne_nil_of_length_pos (by omega)
    simp [digest, present]

theorem sellable_iff :
    (∀ terms, m.terms.map TermsMessage.terms = some terms → terms.validate = .ok ()) ↔
      ∀ terms, m.terms = some terms → terms.Sellable := by
  cases m.terms with
  | none => simp
  | some terms => simp [TermsMessage.validate_terms_iff]

section
variable {entries : AllocationTable} (sized : m.Sized) (listed : m.entries = .ok entries)
include sized listed

theorem rootAgrees_iff :
    (∀ root, m.givenRoot = some root → entries ≠ [] → entries.root = root) ↔
      (m.root ≠ [] → m.rows.addresses ≠ [] →
        m.root = (Merkle.root (m.rows.leaves (UInt8.ofNat m.decimals.toNat))).toBytes) := by
  have filled : entries ≠ [] ↔ m.rows.addresses ≠ [] := by
    rw [← List.length_pos_iff, TableMessage.length_of_entries listed, List.length_pos_iff]
    rfl
  have computed : entries.root =
      Merkle.root (m.rows.leaves (UInt8.ofNat m.decimals.toNat)) := by
    rw [AllocationTable.root, TableMessage.leaves_of_entries listed]
    rfl
  constructor
  · intro agrees present rows
    obtain ⟨root, given⟩ := Option.isSome_iff_exists.mp (sized.isSome_givenRoot_iff.mpr present)
    rw [Octets.ofBytes?_eq_some_iff.mp given, ← agrees root given (filled.mpr rows), computed]
  · intro agrees root given nonempty
    have present := sized.isSome_givenRoot_iff.mp (by rw [given]; rfl)
    apply Octets.toBytes_injective
    rw [← Octets.ofBytes?_eq_some_iff.mp given, agrees present (filled.mp nonempty), computed]

theorem exists_select_iff :
    (∃ authorization, policy.select entries m.givenRoot = .ok authorization) ↔
      policy.Admits m.rows.addresses.length (m.root ≠ []) := by
  rw [AuthorizationPolicy.exists_select_iff, TableMessage.length_of_entries listed,
    sized.isSome_givenRoot_iff]
  rfl

end

theorem admissible_iff :
    m.Admissible policy ↔ ∃ entries authorization, m.Valid entries ∧
      policy.select entries m.givenRoot = .ok authorization := by
  constructor
  · intro rules
    obtain ⟨entries, listed⟩ :=
      TableMessage.exists_entries_iff.mpr ⟨rules.even, rules.addresses⟩
    obtain ⟨authorization, selected⟩ := (exists_select_iff rules.sized listed).mpr rules.kept
    refine ⟨entries, authorization, ?_, selected⟩
    exact {
      lengths := Descriptor.checkLengths_eq_ok_iff.mpr rules.sized
      decimals := rules.decimals
      listed := listed
      distinct := (TableMessage.nodup_of_entries listed).mpr rules.distinct
      covered := TableMessage.total_of_entries listed ▸ rules.covered
      root := (rootAgrees_iff rules.sized listed).mpr rules.root
      terms := sellable_iff.mpr rules.terms }
  · rintro ⟨entries, authorization, valid, selected⟩
    have sized := Descriptor.checkLengths_eq_ok_iff.mp valid.lengths
    have listed : m.rows.entries (UInt8.ofNat m.decimals.toNat) = .ok entries := valid.listed
    obtain ⟨even, addresses⟩ := TableMessage.exists_entries_iff.mp ⟨entries, listed⟩
    exact {
      sized := sized
      decimals := valid.decimals
      even := even
      addresses := addresses
      distinct := (TableMessage.nodup_of_entries listed).mp valid.distinct
      covered := TableMessage.total_of_entries listed ▸ valid.covered
      root := (rootAgrees_iff sized listed).mp valid.root
      kept := (exists_select_iff sized listed).mp ⟨authorization, selected⟩
      terms := sellable_iff.mp valid.terms }

inductive Refuses (m : DescriptorMessage) : Refusal → Prop where
  | malformed (cause : Malformed) : m.Refuses (.malformed cause)
  | overflow : UInt64.size ≤ m.rows.total → m.Refuses .overflow

end DescriptorMessage

namespace Descriptor

theorem check_refusedBy {α : Type} {m : DescriptorMessage} (result : Except Malformed α) :
    RefusedBy m.Refuses (check result) := by
  intro refusal refused
  obtain ⟨cause, -, rfl⟩ := mapError_eq_error_iff.mp refused
  exact .malformed cause

theorem allocated_refusedBy {m : DescriptorMessage} {seen : List EthAddress} {sum : UInt64}
    {entries : AllocationTable}
    (whole : sum.toNat + (entries.map (·.amount.toNat)).sum ≤ m.rows.total) :
    RefusedBy m.Refuses (allocated seen sum entries) := by
  induction entries generalizing seen sum with
  | nil => exact .ok sum
  | cons entry rest ih =>
    rw [List.map_cons, List.sum_cons] at whole
    unfold allocated
    refine .ite (.error (.malformed _)) ?_
    split
    · rename_i large
      have bound := Word64.ofNat?_eq_none_iff.mp large
      exact .error (.overflow (by omega))
    · rename_i next added
      have value := Word64.add?_eq_some_iff.mp added
      exact ih (by omega)

theorem validate_refusedBy {m : DescriptorMessage} (terms : Terms) :
    RefusedBy m.Refuses terms.validate := by
  by_cases high : maxExponent < terms.exponent
  · rw [Terms.validate, if_pos high]
    intro refusal refused
    cases refused
    exact .malformed _
  · rw [Terms.validate, if_neg high]
    split
    · exact .ite (.error (.malformed _)) (.ok ())
    · exact .ok ()

theorem ofMessage_refusedBy (policy : AuthorizationPolicy) (m : DescriptorMessage) :
    RefusedBy m.Refuses (ofMessage policy m) := by
  unfold ofMessage
  refine .bind (check_refusedBy _) fun _ => .bind (.ite (.error (.malformed _)) (.ok ())) fun _ => ?_
  refine .bind_of_eq (check_refusedBy _) fun entries done => ?_
  -- The amounts that are added up are those of the message.
  have whole := TableMessage.total_of_entries (mapError_eq_ok_iff.mp done)
  have sum : RefusedBy m.Refuses (checkAllocated entries m.amount) :=
    .bind (allocated_refusedBy (by rw [whole, UInt64.toNat_zero, Nat.zero_add]; exact Nat.le_refl _))
      fun sum => .ite (.error (.malformed _)) (.ok ())
  refine .bind sum fun _ => .bind ?root fun _ => .bind (check_refusedBy _) fun _ => .bind ?terms
    fun _ => .ok _
  case root =>
    unfold checkRoot
    split
    · exact .ite (.error (.malformed _)) (.ok ())
    · exact .ok ()
  case terms =>
    unfold checkTerms
    split
    · exact validate_refusedBy _
    · exact .ok ()

/-- Bytes are accepted exactly if they are a message that keeps the rules. All others are told to be
malformed, but for messages whose amounts come to more than a word holds. -/
theorem accepts_exactly (policy : AuthorizationPolicy) (data : Bytes) :
    ((∃ d, read policy data = .ok d) ↔
        ∃ m, DescriptorMessage.schema.read data = .ok m ∧ m.Admissible policy) ∧
      ∀ refusal, read policy data = .error refusal →
        (∃ cause, refusal = .malformed cause) ∨
          refusal = .overflow ∧ ∃ m, DescriptorMessage.schema.read data = .ok m ∧
            UInt64.size ≤ m.rows.total := by
  constructor
  · simp only [read_eq_ok_iff, DescriptorMessage.admissible_iff, ofMessage_eq_ok_iff]
    constructor
    · rintro ⟨d, m, message, entries, authorization, valid, selected, -⟩
      exact ⟨m, message, entries, authorization, valid, selected⟩
    · rintro ⟨m, message, entries, authorization, valid, selected⟩
      exact ⟨_, m, message, entries, authorization, valid, selected, rfl⟩
  · intro refusal refused
    rcases bind_eq_error_iff.mp refused with garbled | ⟨m, told, refused⟩
    · obtain ⟨fault, -, rfl⟩ := mapError_eq_error_iff.mp garbled
      exact Or.inl ⟨_, rfl⟩
    · cases ofMessage_refusedBy policy m refusal refused with
      | malformed cause => exact Or.inl ⟨cause, rfl⟩
      | overflow large => exact Or.inr ⟨rfl, m, mapError_eq_ok_iff.mp told, large⟩

end Descriptor

namespace Market

def vastMessage : DescriptorMessage :=
  { offer.toMessage with
    table := some ⟨[List.replicate 20 3, List.replicate 20 4], [18446744073709551615, 1]⟩ }

theorem read_vastMessage :
    DescriptorMessage.schema.read (DescriptorMessage.schema.write vastMessage) =
      .ok vastMessage := by
  with_unfolding_all rfl

theorem vastMessage_overflows : Descriptor.read .standard
    (DescriptorMessage.schema.write vastMessage) = .error .overflow := by
  rw [Descriptor.read, read_vastMessage]
  rfl

end Market

/-- The offer of three shares keeps the rules, and the vast one is refused for its amounts. -/
theorem accepts_exactly_two_offers :
    (∃ m, DescriptorMessage.schema.read Market.threeOffer = .ok m ∧ m.Admissible ⟨.root, 1024⟩) ∧
      ∃ m, DescriptorMessage.schema.read (DescriptorMessage.schema.write Market.vastMessage) =
          .ok m ∧ UInt64.size ≤ m.rows.total := by
  have kept := (Descriptor.accepts_exactly ⟨.root, 1024⟩ Market.threeOffer).1.mp
    ⟨_, Market.read_threeOffer Market.selects_root⟩
  have refused := (Descriptor.accepts_exactly .standard
    (DescriptorMessage.schema.write Market.vastMessage)).2 _ Market.vastMessage_overflows
  rcases refused with ⟨cause, other⟩ | ⟨-, large⟩
  · cases other
  · exact ⟨kept, large⟩

end TokenClaim
