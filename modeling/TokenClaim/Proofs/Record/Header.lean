import TokenClaim.Proofs.Record.Accounts
import TokenClaim.Proofs.Refusals
import TokenClaim.Report.Account
/-!
The beginning of a vamp's account is read in two ways: with the whole record, and field by field
whatever follows it. Both read the same, and data that ends within the beginning is refused for the
field that it cuts.
-/

set_option autoImplicit false

namespace TokenClaim

open Record

namespace AccountCursor

variable {α β : Type}

/-- A reader of data that stands at an offset takes the written form of something off its front, and
its answer follows from the rest. Where the written form is cut, it misses a field that starts within
the data. -/
structure Decodes (read : Bytes → Except AccountFault β) (offset : Nat) (written : Bytes)
    (answer : Bytes → β) : Prop where
  whole : ∀ rest, read (written ++ rest) = .ok (answer rest)
  cut : ∀ front, front <+: written → front.length < written.length →
    ∃ field start, start ≤ offset + front.length ∧ read front = .error (.truncated field start)

theorem decodes_nothing (offset : Nat) (answer : Bytes → β) :
    Decodes (fun data => .ok (answer data)) offset [] answer where
  whole _ := rfl
  cut _ _ short := absurd short (Nat.not_lt_zero _)

def behind (offset : Nat) (written : Bytes) (value : α) (rest : Bytes) : α × AccountCursor :=
  (value, ⟨offset + written.length, rest⟩)

theorem Decodes.bind {step : Bytes → Except AccountFault (α × AccountCursor)}
    {next : α × AccountCursor → Except AccountFault β} {offset : Nat} {written more : Bytes}
    {value : α} {answer : Bytes → β}
    (first : Decodes step offset written (behind offset written value))
    (second : Decodes (fun rest => next (value, ⟨offset + written.length, rest⟩))
      (offset + written.length) more answer) :
    Decodes (fun data => step data >>= next) offset (written ++ more) answer where
  whole rest := by
    simp only [List.append_assoc, first.whole, ok_bind]
    exact second.whole rest
  cut front within short := by
    by_cases early : front.length < written.length
    · -- the cut is in the first field
      have inFirst := List.prefix_of_prefix_length_le within (List.prefix_append written more)
        (Nat.le_of_lt early)
      obtain ⟨field, start, inside, refused⟩ := first.cut front inFirst early
      exact ⟨field, start, inside, by simp only [refused, error_bind]⟩
    · have whole := List.prefix_of_prefix_length_le (List.prefix_append written more) within
        (Nat.not_lt.mp early)
      obtain ⟨rest, rfl⟩ := whole
      have further := (List.prefix_append_right_inj written).mp within
      simp only [List.length_append] at short
      obtain ⟨field, start, inside, refused⟩ := second.cut rest further (by omega)
      refine ⟨field, start, by rw [List.length_append]; omega, ?_⟩
      simp only [first.whole, ok_bind]
      exact refused

theorem Decodes.passes {read refused : Bytes → Except AccountFault β} {fails : Prop}
    [Decidable fails] {offset : Nat} {written : Bytes} {answer : Bytes → β} (holds : ¬fails)
    (next : Decodes read offset written answer) :
    Decodes (fun data => if fails then refused data else read data) offset written answer := by
  simpa only [if_neg holds] using next

variable (field : String) (offset : Nat)

theorem take_decodes {count : Nat} {bytes : Bytes} (length : bytes.length = count) :
    Decodes (fun data => take count field ⟨offset, data⟩) offset bytes
      (behind offset bytes bytes) where
  whole rest := by
    subst length
    simp [take, behind]
  cut front within short := by
    refine ⟨field, offset, Nat.le_add_right _ _, ?_⟩
    rw [take, if_pos (length ▸ short)]

theorem word64_decodes (word : UInt64) :
    Decodes (fun data => word64 field ⟨offset, data⟩) offset (Layout.word64.write word)
      (behind offset (Layout.word64.write word) word) := by
  have taken := take_decodes field offset (Word64.length_toBytes word)
  refine ⟨fun rest => ?_, fun front within short => ?_⟩
  · have read := taken.whole rest
    simp only [word64, Layout.word64, read, ok_bind, behind, Word64.ofBytes_toBytes]
    rfl
  · obtain ⟨name, start, inside, refused⟩ := taken.cut front within short
    exact ⟨name, start, inside, by simp only [word64, refused, error_bind]⟩

theorem pubkey_decodes (key : Pubkey) :
    Decodes (fun data => pubkey field ⟨offset, data⟩) offset ((Layout.octets 32).write key)
      (behind offset ((Layout.octets 32).write key) key) := by
  have written : (Layout.octets 32).write key = key.toBytes := rfl
  have length := key.length_toBytes
  rw [written]
  refine ⟨fun rest => ?_, fun front _ short => ?_⟩
  · simp only [pubkey, List.take_left' length, List.drop_left' length, Octets.ofBytes?_toBytes,
      behind, length]
  · have missing : (front.take 32).length ≠ 32 := by
      rw [List.length_take]
      omega
    refine ⟨field, offset, Nat.le_add_right _ _, ?_⟩
    simp only [pubkey, Octets.ofBytes?, missing, dite_false]

theorem bytes_decodes {value : Bytes} (fits : Layout.bytes.fits value = true) :
    Decodes (fun data => bytes field ⟨offset, data⟩) offset (Layout.bytes.write value)
      (behind offset (Layout.bytes.write value) value) := by
  have length : (Layout.writeCount value.length).length = 4 := LittleEndian.length_write 4 _
  refine (take_decodes field offset length).bind ?_
  have content : Decodes _ _ value _ :=
    take_decodes field (offset + (Layout.writeCount value.length).length) rfl
  simp only [Layout.read_writeCount fits]
  have same : behind (offset + (Layout.writeCount value.length).length) value value =
      behind offset (Layout.bytes.write value) value := by
    funext rest
    simp only [behind, Layout.bytes, List.length_append, Nat.add_assoc]
  exact same ▸ content

end AccountCursor

namespace VampHeader

def fields (h : VampHeader) : List Bytes := [
  VampRecord.kind.discriminator.toBytes,
  Layout.byte.write h.bump,
  (Layout.octets 32).write h.mint,
  Layout.bytes.write h.solverKey,
  Layout.bytes.write h.validatorKey,
  Layout.word64.write h.identifier,
  Layout.bytes.write h.intent,
  Layout.word64.write h.totalClaimed,
  Layout.word64.write h.reserve,
  Layout.word64.write h.supply,
  Layout.word64.write h.exponent,
  Layout.word64.write h.initialPrice,
  (Layout.octets 32).write h.payVault]

def write (h : VampHeader) : Bytes := h.fields.flatten

open AccountCursor in
theorem readFields_decodes {h : VampHeader} (solverKey : Layout.bytes.fits h.solverKey = true)
    (validatorKey : Layout.bytes.fits h.validatorKey = true)
    (intent : Layout.bytes.fits h.intent = true) :
    Decodes readFields 0 h.write fun _ => h := by
  simp only [write, fields, List.flatten_cons, List.flatten_nil]
  refine (take_decodes _ _ VampRecord.kind.discriminator.length_toBytes).bind ?_
  refine .passes (not_not_intro rfl) ?_
  have bump : (Layout.byte.write h.bump).length = 1 := rfl
  refine (take_decodes _ _ bump).bind ?_
  refine (pubkey_decodes _ _ _).bind ?_
  refine (bytes_decodes _ _ solverKey).bind ?_
  refine (bytes_decodes _ _ validatorKey).bind ?_
  refine (word64_decodes _ _ _).bind ?_
  refine (bytes_decodes _ _ intent).bind ?_
  refine (word64_decodes _ _ _).bind ?_
  refine (word64_decodes _ _ _).bind ?_
  refine (word64_decodes _ _ _).bind ?_
  refine (word64_decodes _ _ _).bind ?_
  refine (word64_decodes _ _ _).bind ?_
  refine (pubkey_decodes _ _ _).bind ?_
  exact decodes_nothing _ _

theorem write_ofRecord_prefix {record : VampRecord} {data : Bytes}
    (written : record.toAccount = .ok data) : (ofRecord record).write <+: data := by
  obtain ⟨-, rfl⟩ := Record.Kind.write_eq_ok_iff.mp (mapError_eq_ok_iff.mp written)
  simp only [write, fields, ofRecord, VampRecord.kind, VampRecord.layout, Layout.reshape,
    Layout.pair, List.flatten_cons, List.flatten_nil, List.append_nil,
    List.prefix_append_right_inj, List.prefix_append]

theorem readFields_decodes_ofRecord {record : VampRecord} (short : record.Countable) :
    AccountCursor.Decodes readFields 0 (ofRecord record).write fun _ => ofRecord record :=
  readFields_decodes (Layout.bytes_fits_iff.mpr short.solverKey)
    (Layout.bytes_fits_iff.mpr short.validatorKey) (Layout.bytes_fits_iff.mpr short.intent)

structure Shows (h : VampHeader) (r : VampRecord) : Prop where
  bump : h.bump = r.bump
  mint : h.mint = r.mint
  solverKey : ("solver_public_key", .string (Text.Hex.encode r.solverKey)) ∈ h.members
  validatorKey : ("validator_public_key", .string (Text.Hex.encode r.validatorKey)) ∈ h.members
  identifier : h.identifier = r.identifier
  intent : ("intent_id", .string (Text.Hex.encode r.intent)) ∈ h.members
  totalClaimed : h.totalClaimed = r.totalClaimed
  reserve : h.reserve = r.reserve
  supply : h.supply = r.supply
  exponent : h.exponent = r.exponent
  initialPrice : h.initialPrice = r.initialPrice
  payVault : h.payVault = r.payVault

theorem ofRecord_shows (record : VampRecord) : (ofRecord record).Shows record := by
  constructor <;> simp [ofRecord, members]

end VampHeader

/-- The header that is read where the whole record can be read is the header of that record. It is
read off the beginning of the record alone, whatever stands behind it, and not off less. -/
theorem header_agrees_with_record :
    (∀ record : VampRecord, (VampHeader.ofRecord record).Shows record) ∧
      (∀ (data : Bytes) (record : VampRecord), VampRecord.ofAccount data = .ok record →
        VampHeader.ofAccount data = .ok (.ofRecord record)) ∧
      ∀ (record : VampRecord) (data : Bytes), record.toAccount = .ok data →
        (VampHeader.ofRecord record).write <+: data ∧
          (∀ other, VampHeader.ofAccount ((VampHeader.ofRecord record).write ++ other) =
            .ok (.ofRecord record)) ∧
          ∀ front, front <+: (VampHeader.ofRecord record).write →
            front ≠ (VampHeader.ofRecord record).write →
            ∃ field start, start ≤ front.length ∧
              VampHeader.ofAccount front = .error (.invalidAccount (.truncated field start)) := by
  refine ⟨VampHeader.ofRecord_shows, fun data record found => ?_, fun record data written => ?_⟩
  · obtain ⟨written, made, complete⟩ := VampRecord.ofAccount_eq_ok_iff.mp found
    obtain ⟨tail, rfl⟩ := (VampHeader.write_ofRecord_prefix made).trans complete
    have short := VampRecord.exists_toAccount_iff.mp ⟨written, made⟩
    exact mapError_eq_ok_iff.mpr ((VampHeader.readFields_decodes_ofRecord short).whole tail)
  · have short := VampRecord.exists_toAccount_iff.mp ⟨data, written⟩
    have decodes := VampHeader.readFields_decodes_ofRecord short
    refine ⟨VampHeader.write_ofRecord_prefix written,
      fun other => mapError_eq_ok_iff.mpr (decodes.whole other), fun front within less => ?_⟩
    have shorter : front.length < (VampHeader.ofRecord record).write.length :=
      Nat.lt_of_le_of_ne within.length_le fun same => less (within.eq_of_length same)
    obtain ⟨field, start, inside, refused⟩ := decodes.cut front within shorter
    exact ⟨field, start, Nat.zero_add front.length ▸ inside,
      mapError_eq_error_iff.mpr ⟨_, refused, rfl⟩⟩

/-- The header is read with and without the rest of the record, and not off twenty bytes, where the
mint is cut. -/
theorem header_agrees_with_named :
    ∃ data, Market.named.toAccount = .ok data ∧
      VampHeader.ofAccount (data ++ [1]) = .ok (.ofRecord Market.named) ∧
      VampHeader.ofAccount ((VampHeader.ofRecord Market.named).write ++ [1]) =
        .ok (.ofRecord Market.named) ∧
      ∃ field start, start ≤ 20 ∧
        VampHeader.ofAccount ((VampHeader.ofRecord Market.named).write.take 20) =
          .error (.invalidAccount (.truncated field start)) := by
  obtain ⟨-, whole, beginning⟩ := header_agrees_with_record
  obtain ⟨data, written⟩ := VampRecord.exists_toAccount_iff.mpr Market.named_countable
  have stored : VampRecord.ofAccount (data ++ [1]) = .ok Market.named :=
    VampRecord.ofAccount_eq_ok_iff.mpr ⟨data, written, List.prefix_append _ _⟩
  obtain ⟨-, kept, cut⟩ := beginning Market.named data written
  have long : 20 < (VampHeader.ofRecord Market.named).write.length := by
    rw [VampHeader.write, List.length_flatten]
    decide
  have length : ((VampHeader.ofRecord Market.named).write.take 20).length = 20 :=
    List.length_take_of_le (Nat.le_of_lt long)
  refine ⟨data, written, whole _ _ stored, kept [1], ?_⟩
  exact length ▸ cut _ (List.take_prefix _ _) fun same => by rw [← same, length] at long; omega

end TokenClaim
