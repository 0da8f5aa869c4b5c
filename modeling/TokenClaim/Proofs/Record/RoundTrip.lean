import TokenClaim.Proofs.Checked
import TokenClaim.Record.Claim
import TokenClaim.Record.Vamp
/-!
A record is read back as it was written, whatever padding follows it, and no record of one kind is
read as one of another.
-/

set_option autoImplicit false

namespace TokenClaim

namespace Record.Layout

variable {α β : Type}

/-- Values that can be written are read back, and what follows them is left. -/
def ReadsBack (layout : Layout α) : Prop :=
  ∀ (value : α) (rest : Bytes), layout.fits value = true →
    layout.read (layout.write value ++ rest) = .ok (value, rest)

theorem take_append (front rest : Bytes) :
    take front.length (front ++ rest) = .ok (front, rest) := by
  simp [take]

theorem take_append_of_length {count : Nat} {front : Bytes} (rest : Bytes)
    (same : front.length = count) : take count (front ++ rest) = .ok (front, rest) :=
  same ▸ take_append front rest

theorem byte_readsBack : byte.ReadsBack := fun _ _ _ => rfl

theorem word64_readsBack : word64.ReadsBack := by
  intro word rest _
  simp only [word64, take_append_of_length rest (Word64.length_toBytes word), ok_bind,
    Word64.ofBytes_toBytes]
  rfl

theorem flag_readsBack : flag.ReadsBack := by
  intro value rest _
  cases value <;> rfl

theorem octets_readsBack (n : Nat) : (octets n).ReadsBack := by
  intro value rest _
  simp only [octets, List.take_left' value.length_toBytes, List.drop_left' value.length_toBytes,
    Octets.ofBytes?_toBytes]

theorem read_writeCount {count : Nat} (fits : countFits count = true) :
    LittleEndian.read (writeCount count) = count := by
  have small : count < 4294967296 := by simpa [countFits] using fits
  rw [writeCount, LittleEndian.read_write]
  simp only [LittleEndian.capacity]
  omega

theorem readCount_writeCount {count : Nat} (rest : Bytes) (fits : countFits count = true) :
    readCount (writeCount count ++ rest) = .ok (count, rest) := by
  have length : (writeCount count).length = 4 := LittleEndian.length_write 4 count
  simp only [readCount, take_append_of_length rest length, ok_bind, read_writeCount fits]
  rfl

theorem bytes_readsBack : bytes.ReadsBack := by
  intro value rest fits
  simp only [bytes, List.append_assoc, readCount_writeCount _ fits, ok_bind, take_append]

theorem text_readsBack : text.ReadsBack := by
  intro value rest fits
  have inner := bytes_readsBack (Text.utf8 value) rest fits
  simp only [text, inner, ok_bind, Text.ofUtf8, Text.ofUtf8?_utf8]
  rfl

theorem optional_readsBack {layout : Layout α} (inner : layout.ReadsBack) :
    layout.optional.ReadsBack := by
  intro value rest fits
  cases value with
  | none => rfl
  | some value =>
    simp only [optional, List.cons_append, takeByte, ok_bind, inner value rest fits]
    rfl

theorem readMany_flatMap {layout : Layout α} (inner : layout.ReadsBack) (values : List α)
    (rest : Bytes) (fits : values.all layout.fits = true) :
    readMany layout values.length (values.flatMap layout.write ++ rest) = .ok (values, rest) := by
  induction values with
  | nil => rfl
  | cons value values ih =>
    rw [List.all_cons, Bool.and_eq_true] at fits
    simp only [List.length_cons, List.flatMap_cons, List.append_assoc, readMany,
      inner value _ fits.1, ok_bind, ih fits.2]
    rfl

theorem list_readsBack {layout : Layout α} (inner : layout.ReadsBack) : layout.list.ReadsBack := by
  intro values rest fits
  simp only [list, Bool.and_eq_true] at fits
  simp only [list, List.append_assoc, readCount_writeCount _ fits.1, ok_bind,
    readMany_flatMap inner values rest fits.2]

theorem pair_readsBack {first : Layout α} {second : Layout β} (left : first.ReadsBack)
    (right : second.ReadsBack) : (first.pair second).ReadsBack := by
  intro value rest fits
  simp only [pair, Bool.and_eq_true] at fits
  simp only [pair, List.append_assoc, left value.1 _ fits.1, ok_bind, right value.2 _ fits.2]
  rfl

theorem reshape_readsBack {layout : Layout α} {forth : α → β} {back : β → α}
    (inner : layout.ReadsBack) (whole : ∀ value, forth (back value) = value) :
    (layout.reshape forth back).ReadsBack := by
  intro value rest fits
  simp only [reshape, inner (back value) rest fits, ok_bind, whole]
  rfl

theorem allocation_readsBack : allocation.ReadsBack :=
  reshape_readsBack
    (pair_readsBack (octets_readsBack 20) (pair_readsBack word64_readsBack byte_readsBack))
    fun _ => rfl

theorem authorization_readsBack : authorization.ReadsBack := by
  intro value rest fits
  cases value with
  | table entries =>
    simp only [authorization, List.cons_append, takeByte, ok_bind,
      list_readsBack allocation_readsBack entries rest fits]
    rfl
  | root root =>
    have notTable : ¬(1 : UInt8) = 0 := by decide
    have inner : (octets 32).read (root.toBytes ++ rest) = .ok (root, rest) :=
      octets_readsBack 32 root rest rfl
    simp only [authorization, List.cons_append, takeByte, ok_bind, notTable, if_false, if_true,
      inner]
    rfl

theorem metadata_readsBack : metadata.ReadsBack :=
  reshape_readsBack
    (pair_readsBack text_readsBack (pair_readsBack text_readsBack (pair_readsBack text_readsBack
      (pair_readsBack byte_readsBack bytes_readsBack))))
    fun _ => rfl

end Record.Layout

namespace Record.Kind

variable {α β : Type}

theorem write_eq_ok_iff {kind : Kind α} {record : α} {data : Bytes} :
    kind.write record = .ok data ↔
      kind.layout.fits record = true ∧
        kind.discriminator.toBytes ++ kind.layout.write record = data := by
  unfold write
  split <;> simp_all

theorem read_write {kind : Kind α} (inner : kind.layout.ReadsBack) {record : α} {data : Bytes}
    (written : kind.write record = .ok data) (padding : Bytes) :
    kind.read (data ++ padding) = .ok record := by
  obtain ⟨fits, rfl⟩ := write_eq_ok_iff.mp written
  have eight := kind.discriminator.length_toBytes
  have front : (kind.discriminator.toBytes ++ kind.layout.write record ++ padding).take 8 =
      kind.discriminator.toBytes := by
    rw [List.append_assoc, List.take_left' eight]
  have back : (kind.discriminator.toBytes ++ kind.layout.write record ++ padding).drop 8 =
      kind.layout.write record ++ padding := by
    rw [List.append_assoc, List.drop_left' eight]
  have long : ¬(kind.discriminator.toBytes ++ kind.layout.write record ++ padding).length < 8 := by
    simp only [List.length_append]
    omega
  simp only [read, long, front, back, ne_eq, not_true_eq_false, if_false,
    inner record padding fits]

theorem read_write_of_ne {kind : Kind α} {other : Kind β}
    (apart : kind.discriminator ≠ other.discriminator) {record : β} {data : Bytes}
    (written : other.write record = .ok data) (padding : Bytes) :
    kind.read (data ++ padding) = .error .wrongDiscriminator := by
  obtain ⟨fits, rfl⟩ := write_eq_ok_iff.mp written
  have eight := other.discriminator.length_toBytes
  have front : (other.discriminator.toBytes ++ other.layout.write record ++ padding).take 8 =
      other.discriminator.toBytes := by
    rw [List.append_assoc, List.take_left' eight]
  have long :
      ¬(other.discriminator.toBytes ++ other.layout.write record ++ padding).length < 8 := by
    simp only [List.length_append]
    omega
  have differ : other.discriminator.toBytes ≠ kind.discriminator.toBytes :=
    fun same => apart (Octets.toBytes_injective same).symm
  simp only [read, long, front, ne_eq, differ, not_false_eq_true, if_false, if_true]

end Record.Kind

section
open Record Record.Layout

theorem VampRecord.layout_readsBack : VampRecord.layout.ReadsBack :=
  reshape_readsBack
    (pair_readsBack byte_readsBack (pair_readsBack (octets_readsBack 32)
    (pair_readsBack bytes_readsBack (pair_readsBack bytes_readsBack
    (pair_readsBack word64_readsBack (pair_readsBack bytes_readsBack
    (pair_readsBack word64_readsBack (pair_readsBack word64_readsBack
    (pair_readsBack word64_readsBack (pair_readsBack word64_readsBack
    (pair_readsBack word64_readsBack (pair_readsBack (octets_readsBack 32)
    (pair_readsBack word64_readsBack (pair_readsBack word64_readsBack
    (pair_readsBack (optional_readsBack word64_readsBack) (pair_readsBack flag_readsBack
    (pair_readsBack flag_readsBack (pair_readsBack word64_readsBack
    (pair_readsBack (octets_readsBack 32) (pair_readsBack bytes_readsBack
    (pair_readsBack (octets_readsBack 32) (pair_readsBack word64_readsBack
    (pair_readsBack metadata_readsBack authorization_readsBack)))))))))))))))))))))))
    fun _ => rfl

theorem ClaimMarker.layout_readsBack : ClaimMarker.layout.ReadsBack :=
  reshape_readsBack
    (pair_readsBack flag_readsBack (pair_readsBack byte_readsBack
    (pair_readsBack (octets_readsBack 20) (pair_readsBack (octets_readsBack 32)
    (pair_readsBack word64_readsBack word64_readsBack)))))
    fun _ => rfl

end

theorem VampRecord.ofAccount_toAccount {record : VampRecord} {data : Bytes}
    (written : record.toAccount = .ok data) : VampRecord.ofAccount data = .ok record := by
  have inner := Record.Kind.read_write layout_readsBack (mapError_eq_ok_iff.mp written) []
  rw [List.append_nil] at inner
  exact mapError_eq_ok_iff.mpr inner

theorem ClaimMarker.ofAccount_toAccount {marker : ClaimMarker} {data : Bytes}
    (written : marker.toAccount = .ok data) : ClaimMarker.ofAccount data = .ok marker := by
  have inner := Record.Kind.read_write layout_readsBack (mapError_eq_ok_iff.mp written) []
  rw [List.append_nil] at inner
  exact mapError_eq_ok_iff.mpr inner

theorem VampRecord.ofAccount_marker {marker : ClaimMarker} {data : Bytes}
    (written : marker.toAccount = .ok data) :
    VampRecord.ofAccount data = .error (.invalidAccount .wrongDiscriminator) := by
  have apart : kind.discriminator ≠ ClaimMarker.kind.discriminator := by decide
  have inner := Record.Kind.read_write_of_ne apart (mapError_eq_ok_iff.mp written) []
  rw [List.append_nil] at inner
  rw [ofAccount, inner]
  rfl

end TokenClaim
