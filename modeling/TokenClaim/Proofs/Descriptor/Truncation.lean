import TokenClaim.Proofs.Descriptor.RoundTrip
import TokenClaim.Proofs.Wire.Truncation
/-!
Descriptors that stop early. A cut inside a field is noticed, and so is one before the validator's
key, which no descriptor is without. After it come the root, the terms and the owner's key, and a
descriptor that is cut between these is accepted without what was cut off.
-/

set_option autoImplicit false

namespace TokenClaim

open Wire Wire.Field Wire.Scalar

namespace DescriptorMessage

def writeFirst (count : Nat) (m : DescriptorMessage) : Bytes :=
  (schema.fields.take count).flatMap fun field => field.write m

theorem failsCut (depth : Nat) : ∀ field ∈ schema.fields, field.FailsCut schema (depth + 1) := by
  simp only [schema, List.forall_mem_cons]
  exact ⟨single_failsCut ⟨rfl, rfl⟩ bytes_failsCut, single_failsCut ⟨rfl, rfl⟩ text_failsCut,
    single_failsCut ⟨rfl, rfl⟩ text_failsCut, single_failsCut ⟨rfl, rfl⟩ bytes_failsCut,
    optional_failsCut ⟨rfl, rfl⟩ text_failsCut, single_failsCut ⟨rfl, rfl⟩ word64_failsCut,
    single_failsCut ⟨rfl, rfl⟩ word32_failsCut, Schema.asField_failsCut ⟨rfl, rfl⟩,
    single_failsCut ⟨rfl, rfl⟩ word64_failsCut, single_failsCut ⟨rfl, rfl⟩ word64_failsCut,
    single_failsCut ⟨rfl, rfl⟩ bytes_failsCut, single_failsCut ⟨rfl, rfl⟩ bytes_failsCut,
    single_failsCut ⟨rfl, rfl⟩ bytes_failsCut, Schema.asField_failsCut ⟨rfl, rfl⟩,
    single_failsCut ⟨rfl, rfl⟩ bytes_failsCut, fun _ none => by cases none⟩

variable {m : DescriptorMessage} (fits : ∀ field ∈ schema.fields, (field.write m).length < 2 ^ 64)
include fits

theorem read_writeFirst {count : Nat} (enough : count ≤ schema.fields.length) :
    schema.read (m.writeFirst count) = .ok (m.first count) := by
  have fills := (m.fillsBy 99).take enough
  rw [Nat.zero_add] at fills
  have taken := fills.takeWhileAbove (fun field member => fits field (List.mem_of_mem_take member))
    (Nat.zero_le ([] : Bytes).length)
  rw [List.append_nil] at taken
  exact bind_eq_ok_iff.mpr ⟨_, taken.trans (takeWhileAbove_done (Nat.le_refl 0)), rfl⟩

theorem read_cut {cut : Bytes} (isCut : IsCut cut (schema.write m)) :
    Fails (schema.read cut) ∨ ∃ count < schema.fields.length, cut = m.writeFirst count := by
  rcases (m.fills 99).cut (failsCut 99) fits isCut with fails | between
  · exact Or.inl (fails.bind _)
  · exact Or.inr between

end DescriptorMessage

namespace Descriptor

variable {policy : AuthorizationPolicy} {data : Bytes} {d : Descriptor}

/-- What a descriptor is without its last fields. The first twelve are always there. -/
def first (count : Nat) (d : Descriptor) : Descriptor :=
  { d with
    authorization := if 13 ≤ count then d.authorization else .table d.authorization.entries
    terms := if 14 ≤ count then d.terms else none
    ownerKey := if 15 ≤ count then d.ownerKey else [] }

theorem entries_first (count : Nat) (d : Descriptor) :
    (d.first count).authorization.entries = d.authorization.entries := by
  simp only [first]
  split <;> rfl

theorem WithinLimits.first (limits : d.WithinLimits) (count : Nat) :
    (d.first count).WithinLimits where
  intent := limits.intent
  name := limits.name
  symbol := limits.symbol
  uri := limits.uri
  erc20 := limits.erc20
  solverKey := limits.solverKey
  validatorKey := limits.validatorKey
  ownerKey := by
    simp only [Descriptor.first]
    split
    · exact limits.ownerKey
    · exact Or.inl rfl
  decimals := limits.decimals
  entries := d.entries_first count ▸ limits.entries
  distinct := d.entries_first count ▸ limits.distinct
  covered := d.entries_first count ▸ limits.covered
  terms := by
    simp only [Descriptor.first]
    split
    · exact limits.terms
    · intro terms given
      cases given

theorem ofMessage_congr {m n : DescriptorMessage}
    (rows : m.table.getD TableMessage.empty = n.table.getD TableMessage.empty)
    (others : { m with table := none } = { n with table := none }) :
    ofMessage policy m = ofMessage policy n := by
  obtain ⟨⟩ := m
  obtain ⟨⟩ := n
  cases others
  simp only [ofMessage] at rows ⊢
  rw [rows]
  rfl

theorem root_first (count : Nat) (d : Descriptor) :
    (d.first count).toMessage.root = if 13 ≤ count then d.toMessage.root else [] := by
  by_cases rooted : 13 ≤ count
  · simp only [toMessage, first, if_pos rooted]
  · simp only [toMessage, first, if_neg rooted]

theorem terms_first (count : Nat) (d : Descriptor) :
    (d.first count).toMessage.terms = if 14 ≤ count then d.toMessage.terms else none := by
  simp only [toMessage, first]
  split <;> rfl

theorem ofMessage_first {count : Nat} (enough : 12 ≤ count) :
    ofMessage policy (d.toMessage.first count) = ofMessage policy (d.first count).toMessage := by
  have kept : ∀ {number : Nat}, number ≤ 12 → number ≤ count := fun low => Nat.le_trans low enough
  refine ofMessage_congr ?rows ?others
  case rows =>
    have present : (d.toMessage.first count).table = d.toMessage.table :=
      if_pos (kept (by decide))
    rw [present, table_toMessage, table_toMessage, entries_first]
  case others =>
    simp only [DescriptorMessage.first, ← root_first, ← terms_first, kept, Nat.reduceLeDiff, if_true]
    rfl

theorem length_entries_of_read (accepted : read .standard data = .ok d) :
    d.authorization.entries.length ≤ AuthorizationPolicy.standard.tableLimit := by
  obtain ⟨m, -, made⟩ := read_eq_ok_iff.mp accepted
  obtain ⟨entries, authorization, -, selected, rfl⟩ := ofMessage_eq_ok_iff.mp made
  simp only [DescriptorMessage.descriptor]
  cases authorization with
  | root digest => exact Nat.zero_le _
  | table kept =>
    obtain ⟨rfl, keeps⟩ := AuthorizationPolicy.select_eq_table_iff.mp selected
    change if kept = [] then _ else kept.length ≤ _ at keeps
    split at keeps
    · rename_i none
      rw [none]
      exact Nat.zero_le _
    · exact keeps

theorem WithinLimits.length_field_lt_of_short (limits : d.WithinLimits)
    (short : d.authorization.entries.length ≤ AuthorizationPolicy.standard.tableLimit) :
    ∀ field ∈ DescriptorMessage.schema.fields, (field.write d.toMessage).length < 2 ^ 64 := by
  simp only [AuthorizationPolicy.standard] at short
  exact limits.length_field_lt (by omega)

section Cuts
variable (limits : d.WithinLimits)
  (short : d.authorization.entries.length ≤ AuthorizationPolicy.standard.tableLimit) {count : Nat}
include limits short

theorem WithinLimits.read_writeFirst (enough : 12 ≤ count) (less : count < 15) :
    read .standard (d.toMessage.writeFirst count) = .ok (d.first count) := by
  have fits := limits.length_field_lt_of_short short
  refine read_eq_ok_iff.mpr ⟨_, DescriptorMessage.read_writeFirst fits (Nat.le_of_lt less), ?_⟩
  rw [ofMessage_first enough]
  refine (limits.first count).ofMessage_toMessage (AuthorizationPolicy.select_standard ?_)
  rw [entries_first]
  exact short

theorem WithinLimits.malformed_writeFirst (early : count < 12) :
    ∃ cause, read .standard (d.toMessage.writeFirst count) = .error (.malformed cause) := by
  have fits := limits.length_field_lt_of_short short
  have message : DescriptorMessage.schema.read (d.toMessage.writeFirst count) =
      .ok (d.toMessage.first count) :=
    DescriptorMessage.read_writeFirst fits (Nat.le_of_lt (Nat.lt_trans early (by decide)))
  cases checked : checkLengths (d.toMessage.first count) with
  | ok value =>
    -- The validator's key is not among the first fields.
    have key := (checkLengths_eq_ok_iff.mp checked).validatorKey
    simp only [DescriptorMessage.first, if_neg (Nat.not_le.mpr early)] at key
    cases key
  | error cause =>
    refine ⟨cause, ?_⟩
    simp only [read, message, ok_mapError, ok_bind, ofMessage, check, checked, error_mapError,
      error_bind]

end Cuts

/-- Of what is written of an accepted descriptor, a part that stops early is refused unless it stops
right behind the validator's key, the root or the terms. There it is accepted, without what would
have followed. -/
theorem cut_refused_iff {cut : Bytes} (accepted : read .standard data = .ok d)
    (isCut : IsCut cut d.write) :
    ((∃ cause, read .standard cut = .error (.malformed cause)) ↔
        ∀ count, 12 ≤ count → count < 15 → cut ≠ d.toMessage.writeFirst count) ∧
      ∀ count, 12 ≤ count → count < 15 → cut = d.toMessage.writeFirst count →
        read .standard cut = .ok (d.first count) := by
  have limits := withinLimits_of_read accepted
  have short := length_entries_of_read accepted
  have late : ∀ count, 12 ≤ count → count < 15 → cut = d.toMessage.writeFirst count →
      read .standard cut = .ok (d.first count) := by
    rintro count enough less rfl
    exact limits.read_writeFirst short enough less
  refine ⟨⟨?between, fun elsewhere => ?inside⟩, late⟩
  case between =>
    rintro ⟨cause, refused⟩ count enough less here
    rw [late count enough less here] at refused
    cases refused
  case inside =>
    have fits := limits.length_field_lt_of_short short
    rcases DescriptorMessage.read_cut fits isCut with ⟨fault, garbled⟩ | ⟨count, less, rfl⟩
    · exact ⟨.wire fault, by simp only [read, garbled, error_mapError, error_bind]⟩
    · have early : count < 12 := Nat.lt_of_not_le fun enough => elsewhere count enough less rfl
      exact limits.malformed_writeFirst short early

end Descriptor

namespace Market

def ownedOffer : Descriptor := { offer with ownerKey := List.replicate 20 3 }

theorem read_ownedOffer : Descriptor.read .standard ownedOffer.write = .ok ownedOffer := by
  with_unfolding_all rfl

theorem offer_isCut : IsCut offer.write ownedOffer.write where
  start := by
    refine ⟨Scalar.bytes.writeField 15 ownedOffer.ownerKey, ?_⟩
    with_unfolding_all rfl
  short same := by
    have lengths := congrArg List.length same
    revert lengths
    with_unfolding_all decide

end Market

/-- Without its last field the owned offer reads as the offer, and the addresses that claim sign for
themselves. -/
theorem cut_refused_iff_owned :
    IsCut Market.offer.write Market.ownedOffer.write ∧
      Descriptor.read .standard Market.offer.write = .ok (Market.ownedOffer.first 14) := by
  have law := Descriptor.cut_refused_iff Market.read_ownedOffer Market.offer_isCut
  refine ⟨Market.offer_isCut, law.2 14 (by decide) (by decide) ?_⟩
  with_unfolding_all rfl

theorem cut_offer_accepted :
    ¬ ∀ (data cut : Bytes) (d : Descriptor), Descriptor.read .standard data = .ok d →
      IsCut cut d.write → ∃ cause, Descriptor.read .standard cut = .error (.malformed cause) := by
  intro law
  obtain ⟨cause, refused⟩ := law _ _ _ Market.read_ownedOffer Market.offer_isCut
  have accepted : Descriptor.read .standard Market.offer.write = .ok Market.offer :=
    Market.read_offer
  rw [accepted] at refused
  cases refused

end TokenClaim
