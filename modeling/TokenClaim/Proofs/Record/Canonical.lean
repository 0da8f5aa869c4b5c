import TokenClaim.Proofs.Record.RoundTrip
/-!
Accounts hold records in one form only: what is read from account data can be written, and stands at
the front of the data as it would be written.
-/

set_option autoImplicit false

namespace TokenClaim

namespace Record.Layout

variable {α β : Type}

/-- What is read can be written, and the data starts with it as it is written. -/
def Canonical (layout : Layout α) : Prop :=
  ∀ (data : Bytes) (value : α) (rest : Bytes), layout.read data = .ok (value, rest) →
    layout.fits value = true ∧ data = layout.write value ++ rest

theorem take_eq_ok_iff {count : Nat} {data front rest : Bytes} :
    take count data = .ok (front, rest) ↔ front.length = count ∧ data = front ++ rest := by
  constructor
  · intro taken
    unfold take at taken
    split at taken
    · cases taken
    · rename_i enough
      cases taken
      exact ⟨List.length_take_of_le (Nat.not_lt.mp enough), (List.take_append_drop _ _).symm⟩
  · rintro ⟨rfl, rfl⟩
    exact take_append front rest

theorem takeByte_eq_ok_iff {data rest : Bytes} {byte : UInt8} :
    takeByte data = .ok (byte, rest) ↔ data = byte :: rest := by
  cases data <;> simp [takeByte]

theorem byte_canonical : byte.Canonical := by
  intro data value rest found
  exact ⟨rfl, takeByte_eq_ok_iff.mp found⟩

theorem word64_canonical : word64.Canonical := by
  intro data value rest found
  obtain ⟨⟨front, after⟩, taken, same⟩ := bind_eq_ok_iff.mp found
  cases same
  obtain ⟨eight, split⟩ := take_eq_ok_iff.mp taken
  refine ⟨rfl, ?_⟩
  simp only [split, word64, Word64.toBytes_ofBytes eight]

theorem flag_canonical : flag.Canonical := by
  intro data value rest found
  obtain ⟨⟨byte, after⟩, taken, found⟩ := bind_eq_ok_iff.mp found
  have first := takeByte_eq_ok_iff.mp taken
  refine ⟨rfl, ?_⟩
  simp only at found
  split at found
  · rename_i zero
    cases found
    rw [first, zero]
    rfl
  · split at found
    · rename_i one
      cases found
      rw [first, one]
      rfl
    · cases found

theorem octets_canonical (n : Nat) : (octets n).Canonical := by
  intro data value rest found
  simp only [octets] at found
  split at found
  · rename_i front taken
    cases found
    have front := Octets.ofBytes?_eq_some_iff.mp taken
    simp only [octets, ← front, List.take_append_drop, and_self]
  · cases found

theorem readCount_eq_ok {data rest : Bytes} {count : Nat}
    (found : readCount data = .ok (count, rest)) :
    countFits count = true ∧ data = writeCount count ++ rest := by
  obtain ⟨⟨front, after⟩, taken, same⟩ := bind_eq_ok_iff.mp found
  cases same
  obtain ⟨four, split⟩ := take_eq_ok_iff.mp taken
  have small := LittleEndian.read_lt front
  rw [four] at small
  refine ⟨decide_eq_true small, ?_⟩
  rw [split, writeCount, ← four, LittleEndian.write_read]

theorem bytes_canonical : bytes.Canonical := by
  intro data value rest found
  obtain ⟨⟨count, after⟩, counted, taken⟩ := bind_eq_ok_iff.mp found
  obtain ⟨fits, front⟩ := readCount_eq_ok counted
  obtain ⟨rfl, split⟩ := take_eq_ok_iff.mp taken
  refine ⟨fits, ?_⟩
  rw [front, split, bytes, List.append_assoc]

theorem text_canonical : text.Canonical := by
  intro data value rest found
  obtain ⟨⟨front, after⟩, taken, found⟩ := bind_eq_ok_iff.mp found
  simp only [Text.ofUtf8] at found
  cases read : Text.ofUtf8? front with
  | none =>
    rw [read] at found
    cases found
  | some text =>
    rw [read] at found
    cases found
    have same := Text.utf8_of_ofUtf8? read
    have inner := bytes_canonical data front _ taken
    rw [← same] at inner
    exact inner

theorem optional_canonical {layout : Layout α} (inner : layout.Canonical) :
    layout.optional.Canonical := by
  intro data value rest found
  obtain ⟨⟨byte, after⟩, taken, found⟩ := bind_eq_ok_iff.mp found
  have first := takeByte_eq_ok_iff.mp taken
  simp only at found
  split at found
  · rename_i absent
    cases found
    refine ⟨rfl, ?_⟩
    rw [first, absent]
    rfl
  · split at found
    · rename_i present
      obtain ⟨⟨value, after⟩, read, same⟩ := bind_eq_ok_iff.mp found
      cases same
      obtain ⟨fits, split⟩ := inner _ _ _ read
      refine ⟨fits, ?_⟩
      rw [first, present, split]
      rfl
    · cases found

theorem readMany_eq_ok {layout : Layout α} (inner : layout.Canonical) {count : Nat}
    {data rest : Bytes} {values : List α} (found : readMany layout count data = .ok (values, rest)) :
    values.length = count ∧ values.all layout.fits = true ∧
      data = values.flatMap layout.write ++ rest := by
  induction count generalizing data values with
  | zero =>
    cases found
    exact ⟨rfl, rfl, rfl⟩
  | succ count ih =>
    obtain ⟨⟨value, after⟩, first, found⟩ := bind_eq_ok_iff.mp found
    obtain ⟨⟨others, last⟩, more, same⟩ := bind_eq_ok_iff.mp found
    cases same
    obtain ⟨fits, front⟩ := inner _ _ _ first
    obtain ⟨rfl, allFit, back⟩ := ih more
    refine ⟨rfl, ?_, ?_⟩
    · rw [List.all_cons, fits, allFit, Bool.and_self]
    · rw [front, back, List.flatMap_cons, List.append_assoc]

theorem list_canonical {layout : Layout α} (inner : layout.Canonical) : layout.list.Canonical := by
  intro data values rest found
  obtain ⟨⟨count, after⟩, counted, found⟩ := bind_eq_ok_iff.mp found
  obtain ⟨fits, front⟩ := readCount_eq_ok counted
  obtain ⟨rfl, allFit, back⟩ := readMany_eq_ok inner found
  refine ⟨Bool.and_eq_true_iff.mpr ⟨fits, allFit⟩, ?_⟩
  rw [front, back, list, List.append_assoc]

theorem pair_canonical {first : Layout α} {second : Layout β} (left : first.Canonical)
    (right : second.Canonical) : (first.pair second).Canonical := by
  intro data value rest found
  obtain ⟨⟨a, after⟩, former, found⟩ := bind_eq_ok_iff.mp found
  obtain ⟨⟨b, last⟩, latter, same⟩ := bind_eq_ok_iff.mp found
  cases same
  obtain ⟨leftFits, front⟩ := left _ _ _ former
  obtain ⟨rightFits, back⟩ := right _ _ _ latter
  refine ⟨Bool.and_eq_true_iff.mpr ⟨leftFits, rightFits⟩, ?_⟩
  rw [front, back, pair, List.append_assoc]

theorem reshape_canonical {layout : Layout α} {forth : α → β} {back : β → α}
    (inner : layout.Canonical) (whole : ∀ value, back (forth value) = value) :
    (layout.reshape forth back).Canonical := by
  intro data value rest found
  obtain ⟨⟨shaped, after⟩, read, same⟩ := bind_eq_ok_iff.mp found
  cases same
  simp only [reshape, whole]
  exact inner _ _ _ read

theorem allocation_canonical : allocation.Canonical :=
  reshape_canonical
    (pair_canonical (octets_canonical 20) (pair_canonical word64_canonical byte_canonical))
    fun _ => rfl

theorem authorization_canonical : authorization.Canonical := by
  intro data value rest found
  obtain ⟨⟨variant, after⟩, taken, found⟩ := bind_eq_ok_iff.mp found
  have first := takeByte_eq_ok_iff.mp taken
  simp only at found
  split at found
  · rename_i table
    obtain ⟨⟨entries, last⟩, read, same⟩ := bind_eq_ok_iff.mp found
    cases same
    obtain ⟨fits, split⟩ := list_canonical allocation_canonical _ _ _ read
    refine ⟨fits, ?_⟩
    rw [first, table, split]
    rfl
  · split at found
    · rename_i kept
      obtain ⟨⟨root, last⟩, read, same⟩ := bind_eq_ok_iff.mp found
      cases same
      obtain ⟨-, split⟩ := octets_canonical 32 _ _ _ read
      refine ⟨rfl, ?_⟩
      rw [first, kept, split]
      rfl
    · cases found

theorem metadata_canonical : metadata.Canonical :=
  reshape_canonical
    (pair_canonical text_canonical (pair_canonical text_canonical (pair_canonical text_canonical
      (pair_canonical byte_canonical bytes_canonical))))
    fun _ => rfl

end Record.Layout

theorem Record.Kind.read_eq_ok {α : Type} {kind : Kind α} (inner : kind.layout.Canonical)
    {record : α} {data : Bytes} (found : kind.read data = .ok record) :
    ∃ written padding, kind.write record = .ok written ∧ data = written ++ padding := by
  unfold read at found
  split at found
  · cases found
  split at found
  · cases found
  rename_i known
  split at found
  · rename_i padding read
    cases found
    obtain ⟨fits, rest⟩ := inner _ _ _ read
    refine ⟨_, padding, write_eq_ok_iff.mpr ⟨fits, rfl⟩, ?_⟩
    rw [List.append_assoc, ← rest, ← Decidable.not_not.mp known, List.take_append_drop]
  · cases found

/-- Data is read as a record exactly if it starts with the record as it is written. -/
theorem Record.Kind.read_eq_ok_iff {α : Type} {kind : Kind α} (back : kind.layout.ReadsBack)
    (canonical : kind.layout.Canonical) {record : α} {data : Bytes} :
    kind.read data = .ok record ↔ ∃ written, kind.write record = .ok written ∧ written <+: data := by
  constructor
  · intro found
    obtain ⟨written, padding, made, rfl⟩ := read_eq_ok canonical found
    exact ⟨written, made, List.prefix_append _ _⟩
  · rintro ⟨written, made, padding, rfl⟩
    exact read_write back made padding

open Record Record.Layout in
theorem VampRecord.layout_canonical : VampRecord.layout.Canonical :=
  reshape_canonical
    (pair_canonical byte_canonical (pair_canonical (octets_canonical 32)
    (pair_canonical bytes_canonical (pair_canonical bytes_canonical
    (pair_canonical word64_canonical (pair_canonical bytes_canonical
    (pair_canonical word64_canonical (pair_canonical word64_canonical
    (pair_canonical word64_canonical (pair_canonical word64_canonical
    (pair_canonical word64_canonical (pair_canonical (octets_canonical 32)
    (pair_canonical word64_canonical (pair_canonical word64_canonical
    (pair_canonical (optional_canonical word64_canonical) (pair_canonical flag_canonical
    (pair_canonical flag_canonical (pair_canonical word64_canonical
    (pair_canonical (octets_canonical 32) (pair_canonical bytes_canonical
    (pair_canonical (octets_canonical 32) (pair_canonical word64_canonical
    (pair_canonical metadata_canonical authorization_canonical)))))))))))))))))))))))
    fun _ => rfl

theorem VampRecord.fits_of_ofAccount {record : VampRecord} {data : Bytes}
    (found : ofAccount data = .ok record) : layout.fits record = true := by
  obtain ⟨_, _, written, -⟩ :=
    Record.Kind.read_eq_ok layout_canonical (mapError_eq_ok_iff.mp found)
  exact (Record.Kind.write_eq_ok_iff.mp written).1

open Record Record.Layout in
theorem ClaimMarker.layout_canonical : ClaimMarker.layout.Canonical :=
  reshape_canonical
    (pair_canonical flag_canonical (pair_canonical byte_canonical
    (pair_canonical (octets_canonical 20) (pair_canonical (octets_canonical 32)
    (pair_canonical word64_canonical word64_canonical)))))
    fun _ => rfl

theorem ClaimMarker.ofAccount_record {record : VampRecord} {data : Bytes}
    (found : VampRecord.ofAccount data = .ok record) :
    ClaimMarker.ofAccount data = .error (.invalidAccount .wrongDiscriminator) := by
  have apart : kind.discriminator ≠ VampRecord.kind.discriminator := by decide
  obtain ⟨written, padding, made, rfl⟩ :=
    Record.Kind.read_eq_ok VampRecord.layout_canonical (mapError_eq_ok_iff.mp found)
  rw [ofAccount, Record.Kind.read_write_of_ne apart made]
  rfl

end TokenClaim
