import TokenClaim.Proofs.Descriptor.Limits
import TokenClaim.Proofs.Wire.Intake
import TokenClaim.Proofs.Wire.RoundTrip
import TokenClaim.Proofs.Wire.Sizes
/-!
The messages of descriptors on the wire: their fields fill them when they are read, so that they are
read back from what is written of them; how long they are at most; how many addresses the bytes of
one can hold; and which key they hold where a descriptor can be made of one.
-/

set_option autoImplicit false

namespace TokenClaim

open Wire Wire.Field Wire.Scalar

theorem TableMessage.fills (depth : Nat) (m : TableMessage) :
    TableMessage.schema.Fills depth m TableMessage.schema.fields TableMessage.schema.empty m :=
  .cons (repeated_fills ⟨rfl, rfl⟩ {} bytes_readsBack rfl)
    (.cons (packed_fills ⟨rfl, rfl⟩ {} word64_readsBack (fun _ => Varint.write_ne_nil _) rfl)
    (.nil m))

theorem TermsMessage.fills (depth : Nat) (m : TermsMessage) :
    TermsMessage.schema.Fills depth m TermsMessage.schema.fields TermsMessage.schema.empty m :=
  .cons (single_fills ⟨rfl, rfl⟩ {} flag_readsBack rfl)
    (.cons (single_fills ⟨rfl, rfl⟩ {} flag_readsBack rfl)
    (.cons (single_fills ⟨rfl, rfl⟩ {} word64_readsBack rfl)
    (.cons (single_fills ⟨rfl, rfl⟩ {} word64_readsBack rfl)
    (.cons (optional_fills ⟨rfl, rfl⟩ {} word64_readsBack rfl)
    (.cons (single_fills ⟨rfl, rfl⟩ {} word64_readsBack rfl)
    (.cons (optional_fills ⟨rfl, rfl⟩ {} word32_readsBack rfl)
    (.nil m)))))))

/-- The first fields of a message, as if the others had not been sent. -/
def DescriptorMessage.first (count : Nat) (m : DescriptorMessage) : DescriptorMessage where
  intent := if 1 ≤ count then m.intent else []
  name := if 2 ≤ count then m.name else ""
  symbol := if 3 ≤ count then m.symbol else ""
  erc20 := if 4 ≤ count then m.erc20 else []
  uri := if 5 ≤ count then m.uri else none
  amount := if 6 ≤ count then m.amount else 0
  decimals := if 7 ≤ count then m.decimals else 0
  table := if 8 ≤ count then m.table else none
  chain := if 9 ≤ count then m.chain else 0
  salt := if 10 ≤ count then m.salt else 0
  solverKey := if 11 ≤ count then m.solverKey else []
  validatorKey := if 12 ≤ count then m.validatorKey else []
  root := if 13 ≤ count then m.root else []
  terms := if 14 ≤ count then m.terms else none
  ownerKey := if 15 ≤ count then m.ownerKey else []

theorem DescriptorMessage.fillsBy (depth : Nat) (m : DescriptorMessage) :
    DescriptorMessage.schema.FillsBy (depth + 1) m (m.first ·) 0 DescriptorMessage.schema.fields :=
  ⟨single_fills ⟨rfl, rfl⟩ {} bytes_readsBack rfl,
    single_fills ⟨rfl, rfl⟩ {} text_readsBack rfl,
    single_fills ⟨rfl, rfl⟩ {} text_readsBack rfl,
    single_fills ⟨rfl, rfl⟩ {} bytes_readsBack rfl,
    optional_fills ⟨rfl, rfl⟩ {} text_readsBack rfl,
    single_fills ⟨rfl, rfl⟩ {} word64_readsBack rfl,
    single_fills ⟨rfl, rfl⟩ {} word32_readsBack rfl,
    Schema.asField_fills ⟨rfl, rfl⟩ {} (TableMessage.fills depth) rfl,
    single_fills ⟨rfl, rfl⟩ {} word64_readsBack rfl,
    single_fills ⟨rfl, rfl⟩ {} word64_readsBack rfl,
    single_fills ⟨rfl, rfl⟩ {} bytes_readsBack rfl,
    single_fills ⟨rfl, rfl⟩ {} bytes_readsBack rfl,
    single_fills ⟨rfl, rfl⟩ {} bytes_readsBack rfl,
    Schema.asField_fills ⟨rfl, rfl⟩ {} (TermsMessage.fills depth) rfl,
    single_fills ⟨rfl, rfl⟩ {} bytes_readsBack rfl, trivial⟩

theorem DescriptorMessage.fills (depth : Nat) (m : DescriptorMessage) :
    DescriptorMessage.schema.Fills (depth + 1) m DescriptorMessage.schema.fields
      DescriptorMessage.schema.empty m :=
  (m.fillsBy depth).take (Nat.le_refl 15)

section Sizes

theorem TermsMessage.length_write_le (m : TermsMessage) : (schema.write m).length ≤ 15 * 7 := by
  refine schema.length_write_le ?_
  simp only [schema, List.forall_mem_cons]
  exact ⟨length_single_le rfl (length_flag_le _), length_single_le rfl (length_flag_le _),
    length_single_le rfl (length_word64_le _), length_single_le rfl (length_word64_le _),
    length_optional_le rfl fun _ _ => length_word64_le _,
    length_single_le rfl (length_word64_le _),
    length_optional_le rfl fun _ _ => length_word32_le _, fun _ none => by cases none⟩

theorem TableMessage.length_write_le {entries : AllocationTable}
    (countable : 20 * entries.length < 2 ^ 63) :
    (schema.write (ofEntries entries)).length ≤ 36 * entries.length + 15 := by
  -- An entry takes a key, a length and 20 bytes, and at most ten bytes for its amount.
  have addresses : ∀ bytes ∈ (ofEntries entries).addresses,
      (Scalar.bytes.write bytes).length ≤ 21 := by
    intro bytes listed
    obtain ⟨entry, -, rfl⟩ := List.mem_map.mp listed
    have twenty := entry.address.length_toBytes
    have digits : entry.address.toBytes.length < 128 ^ (0 + 1) := by omega
    have counted := length_bytes_le digits
    omega
  have amounts : 10 * (ofEntries entries).amounts.length < 2 ^ 64 := by
    rw [ofEntries, List.length_map]
    omega
  have parts : schema.write (ofEntries entries) = _ ++ (_ ++ []) := rfl
  rw [parts, List.append_nil, List.length_append]
  refine Nat.le_trans (Nat.add_le_add (length_repeated_le rfl addresses)
    (length_packed_le rfl (fun _ _ => length_word64_le _) amounts)) ?_
  simp only [ofEntries, List.length_map]
  omega

/-- All fields but the table are short: a string has at most 32 bytes, a URI at most 200. -/
theorem DescriptorMessage.Sized.length_field_lt {m : DescriptorMessage} {bound : Nat}
    (sized : m.Sized)
    (table : ∀ table, m.table = some table → (TableMessage.schema.write table).length ≤ bound)
    (fits : bound + 15 < 2 ^ 64) :
    ∀ field ∈ schema.fields, (field.write m).length < 2 ^ 64 := by
  obtain ⟨⟨-, intent⟩, name, symbol, uri, erc20, solverKey, validatorKey, ownerKey, root⟩ := sized
  simp only [Descriptor.maxIntentLength, Descriptor.maxNameLength, Descriptor.maxSymbolLength,
    Descriptor.maxUriLength] at intent name symbol uri
  have bytes : ∀ {number : Nat} {name : String} {get : DescriptorMessage → Bytes}
      {set : Bytes → DescriptorMessage → DescriptorMessage}, validNumber number = true →
      (get m).length ≤ 32 →
      ((Field.single number name .bytes get set).write m).length < 2 ^ 64 := fun valid short =>
    Nat.lt_of_le_of_lt (length_single_le valid (length_bytes_le_ten (by omega))) (by omega)
  have text : ∀ {number : Nat} {name : String} {get : DescriptorMessage → String}
      {set : String → DescriptorMessage → DescriptorMessage}, validNumber number = true →
      (get m).utf8ByteSize ≤ 32 →
      ((Field.single number name .text get set).write m).length < 2 ^ 64 := fun valid short =>
    Nat.lt_of_le_of_lt (length_single_le valid (length_text_le (by omega))) (by omega)
  have word : 10 + 5 < 2 ^ 64 := by decide
  simp only [schema, List.forall_mem_cons]
  refine ⟨bytes rfl intent, text rfl name, text rfl (by omega), bytes rfl (by omega), ?uri,
    Nat.lt_of_le_of_lt (length_single_le rfl (length_word64_le _)) word,
    Nat.lt_of_le_of_lt (length_single_le rfl (length_word32_le _)) word, ?table,
    Nat.lt_of_le_of_lt (length_single_le rfl (length_word64_le _)) word,
    Nat.lt_of_le_of_lt (length_single_le rfl (length_word64_le _)) word, bytes rfl (by omega),
    bytes rfl (by omega), bytes rfl (by omega), ?terms, bytes rfl (by omega),
    fun _ none => by cases none⟩
  case uri =>
    have short : ∀ given, m.uri = some given → (Scalar.text.write given).length ≤ 210 := by
      intro given found
      rw [found, Option.getD_some] at uri
      exact Nat.le_trans (length_text_le (by omega)) (by omega)
    exact Nat.lt_of_le_of_lt (length_optional_le rfl short) (by decide)
  case table => exact Nat.lt_of_le_of_lt (Schema.length_asField_le rfl table (by omega)) fits
  case terms =>
    exact Nat.lt_of_le_of_lt
      (Schema.length_asField_le rfl (fun terms _ => terms.length_write_le) (by decide)) (by decide)

end Sizes

section Intake

def TableMessage.addressBytes (m : TableMessage) : Nat := (m.addresses.map List.length).sum

theorem TableMessage.consumes : ∀ field ∈ schema.fields, field.Consumes addressBytes := by
  simp only [schema, List.forall_mem_cons]
  refine ⟨repeated_consumes bytes_consumes fun value message => ?_,
    packed_consumes word64_consumes fun _ _ => Nat.le_refl _, fun _ none => by cases none⟩
  simp [addressBytes]

theorem TermsMessage.consumes : ∀ field ∈ schema.fields, field.Consumes fun _ => 0 := by
  simp only [schema, List.forall_mem_cons]
  exact ⟨single_consumes flag_consumes fun _ _ => Nat.zero_le _,
    single_consumes flag_consumes fun _ _ => Nat.zero_le _,
    single_consumes word64_consumes fun _ _ => Nat.zero_le _,
    single_consumes word64_consumes fun _ _ => Nat.zero_le _,
    optional_consumes word64_consumes fun _ _ => Nat.zero_le _,
    single_consumes word64_consumes fun _ _ => Nat.zero_le _,
    optional_consumes word32_consumes fun _ _ => Nat.zero_le _, fun _ none => by cases none⟩

def DescriptorMessage.addressBytes (m : DescriptorMessage) : Nat :=
  (m.table.getD TableMessage.empty).addressBytes

theorem DescriptorMessage.consumes : ∀ field ∈ schema.fields, field.Consumes addressBytes := by
  simp only [schema, List.forall_mem_cons]
  exact ⟨single_consumes bytes_consumes fun _ _ => Nat.le_add_right _ _,
    single_consumes text_consumes fun _ _ => Nat.le_refl _,
    single_consumes text_consumes fun _ _ => Nat.le_refl _,
    single_consumes bytes_consumes fun _ _ => Nat.le_add_right _ _,
    optional_consumes text_consumes fun _ _ => Nat.le_refl _,
    single_consumes word64_consumes fun _ _ => Nat.le_refl _,
    single_consumes word32_consumes fun _ _ => Nat.le_refl _,
    Schema.asField_consumes TableMessage.consumes fun _ _ => Nat.le_of_eq (Nat.add_comm _ _),
    single_consumes word64_consumes fun _ _ => Nat.le_refl _,
    single_consumes word64_consumes fun _ _ => Nat.le_refl _,
    single_consumes bytes_consumes fun _ _ => Nat.le_add_right _ _,
    single_consumes bytes_consumes fun _ _ => Nat.le_add_right _ _,
    single_consumes bytes_consumes fun _ _ => Nat.le_add_right _ _,
    Schema.asField_consumes TermsMessage.consumes fun _ _ => Nat.le_refl _,
    single_consumes bytes_consumes fun _ _ => Nat.le_add_right _ _, fun _ none => by cases none⟩

theorem TableMessage.addressBytes_ofEntries (entries : AllocationTable) :
    (ofEntries entries).addressBytes = 20 * entries.length := by
  induction entries with
  | nil => rfl
  | cons entry entries ih =>
    have twenty := entry.address.length_toBytes
    simp only [addressBytes, ofEntries, List.map_cons, List.sum_cons, List.length_cons] at ih ⊢
    omega

end Intake

section Keys

theorem TableMessage.forward : ∀ field ∈ schema.fields, field.Forward fun _ => () := by
  simp only [schema, List.forall_mem_cons]
  exact ⟨repeated_forward bytes_forward fun _ _ => rfl,
    packed_forward word64_forward fun _ _ => rfl, fun _ none => by cases none⟩

theorem TermsMessage.forward : ∀ field ∈ schema.fields, field.Forward fun _ => () := by
  simp only [schema, List.forall_mem_cons]
  exact ⟨single_forward flag_forward fun _ _ => rfl, single_forward flag_forward fun _ _ => rfl,
    single_forward word64_forward fun _ _ => rfl, single_forward word64_forward fun _ _ => rfl,
    optional_forward word64_forward fun _ _ => rfl, single_forward word64_forward fun _ _ => rfl,
    optional_forward word32_forward fun _ _ => rfl, fun _ none => by cases none⟩

theorem DescriptorMessage.forward_solverKey :
    ∀ field ∈ schema.fields, field.ForwardBeside 11 (·.solverKey) := by
  simp only [schema, List.forall_mem_cons]
  exact ⟨single_forward bytes_forward fun _ _ => rfl, single_forward text_forward fun _ _ => rfl,
    single_forward text_forward fun _ _ => rfl, single_forward bytes_forward fun _ _ => rfl,
    optional_forward text_forward fun _ _ => rfl, single_forward word64_forward fun _ _ => rfl,
    single_forward word32_forward fun _ _ => rfl,
    Schema.asField_forward TableMessage.forward fun _ _ => rfl,
    single_forward word64_forward fun _ _ => rfl, single_forward word64_forward fun _ _ => rfl,
    single_forward bytes_forward fun _ _ => rfl, single_forward bytes_forward fun _ _ => rfl,
    single_forward bytes_forward fun _ _ => rfl,
    Schema.asField_forward TermsMessage.forward fun _ _ => rfl,
    single_forward bytes_forward fun _ _ => rfl, fun _ none => by cases none⟩

/-- No descriptor is accepted without a solver's key, and its bytes come behind the key of their
field. -/
theorem Descriptor.hasKey_of_read {policy : AuthorizationPolicy} {data : Bytes} {d : Descriptor}
    (accepted : read policy data = .ok d) : HasKey 11 data := by
  obtain ⟨m, message, made⟩ := read_eq_ok_iff.mp accepted
  obtain ⟨entries, authorization, valid, -, -⟩ := ofMessage_eq_ok_iff.mp made
  have twenty := (checkLengths_eq_ok_iff.mp valid.lengths).solverKey
  refine Schema.hasKey_of_read DescriptorMessage.forward_solverKey message fun none => ?_
  rw [none] at twenty
  cases twenty

end Keys

section RoundTrip

/-- Every message is read back from what is written of it, whether or not a descriptor can be made
of it. Lengths are written as 64-bit numbers; no byte string in memory has 2 ^ 64 bytes. -/
theorem messages_round_trip :
    (∀ m : TableMessage, (TableMessage.schema.write m).length < 2 ^ 64 →
        TableMessage.schema.read (TableMessage.schema.write m) = .ok m) ∧
      (∀ m : TermsMessage, TermsMessage.schema.read (TermsMessage.schema.write m) = .ok m) ∧
      ∀ m : DescriptorMessage, (DescriptorMessage.schema.write m).length < 2 ^ 64 →
        DescriptorMessage.schema.read (DescriptorMessage.schema.write m) = .ok m := by
  refine ⟨fun m fits => ?table, fun m => ?terms, fun m fits => ?descriptor⟩
  case table => exact Schema.read_write_of_length (m.fills _) fits
  case terms =>
    have short := m.length_write_le
    exact Schema.read_write_of_length (m.fills _) (by omega)
  case descriptor => exact Schema.read_write_of_length (m.fills _) fits

/-- A message of which no descriptor can be made: its table has three addresses, none of 20 bytes,
and one amount, and what is optional is there but empty or zero. -/
def DescriptorMessage.unruly : DescriptorMessage :=
  { empty with
    uri := some ""
    decimals := 4294967295
    table := some ⟨[[], [1, 2, 3], List.replicate 200 7], [18446744073709551615]⟩
    root := [1]
    terms := some { TermsMessage.empty with ceiling := some 0, exponent := some 0 } }

set_option maxRecDepth 4000 in
theorem messages_round_trip_unruly :
    (DescriptorMessage.schema.write .unruly).length < 2 ^ 64 ∧
      DescriptorMessage.schema.read (DescriptorMessage.schema.write .unruly) = .ok .unruly ∧
      Descriptor.ofMessage .standard .unruly =
        .error (.malformed (.fieldLength "intent_id" 0)) := by
  have short : (DescriptorMessage.schema.write .unruly).length < 2 ^ 64 := by
    with_unfolding_all decide
  exact ⟨short, messages_round_trip.2.2 _ short, rfl⟩

end RoundTrip

end TokenClaim
