import TokenClaim.Proofs.Ledger.PathIndependence
import TokenClaim.Proofs.Record.Canonical
/-!
Account data and records. Data is read as a record exactly if it starts with the record as it is
written, so that padding and only padding is free; a record is written unless four bytes cannot
count one of its strings or the entries of its table.
-/

set_option autoImplicit false

namespace TokenClaim

namespace Record.Layout

variable {α β : Type}

def AlwaysFits (layout : Layout α) : Prop := ∀ value, layout.fits value = true

theorem byte_alwaysFits : byte.AlwaysFits := fun _ => rfl
theorem word64_alwaysFits : word64.AlwaysFits := fun _ => rfl
theorem flag_alwaysFits : flag.AlwaysFits := fun _ => rfl
theorem octets_alwaysFits (n : Nat) : (octets n).AlwaysFits := fun _ => rfl
theorem allocation_alwaysFits : allocation.AlwaysFits := fun _ => rfl

theorem optional_alwaysFits {layout : Layout α} (inner : layout.AlwaysFits) :
    layout.optional.AlwaysFits := by
  intro value
  cases value with
  | none => rfl
  | some value => exact inner value

theorem pair_fits_iff {first : Layout α} {second : Layout β} {value : α × β} :
    (first.pair second).fits value = true ↔
      first.fits value.1 = true ∧ second.fits value.2 = true := Bool.and_eq_true_iff

theorem bytes_fits_iff {value : Bytes} : bytes.fits value = true ↔ value.length < 2 ^ 32 :=
  decide_eq_true_iff

theorem text_fits_iff {value : String} : text.fits value = true ↔ value.utf8ByteSize < 2 ^ 32 :=
  decide_eq_true_iff

theorem metadata_fits_iff {value : TokenMetadata} :
    metadata.fits value = true ↔
      value.name.utf8ByteSize < 2 ^ 32 ∧ value.symbol.utf8ByteSize < 2 ^ 32 ∧
        value.uri.utf8ByteSize < 2 ^ 32 ∧ value.erc20.length < 2 ^ 32 := by
  simp only [metadata, reshape, pair_fits_iff, text_fits_iff, bytes_fits_iff, byte_alwaysFits _,
    true_and]

theorem authorization_fits_iff {value : Authorization} :
    authorization.fits value = true ↔ value.entries.length < 2 ^ 32 := by
  cases value with
  | table entries =>
    have rows := List.all_eq_true.mpr fun entry (_ : entry ∈ entries) => allocation_alwaysFits entry
    have parts : authorization.fits (.table entries) =
        (countFits entries.length && entries.all allocation.fits) := rfl
    rw [parts, rows, Bool.and_true]
    exact decide_eq_true_iff
  | root kept => exact ⟨fun _ => Nat.two_pow_pos 32, fun _ => rfl⟩

end Record.Layout

/-- Each string of a record, and its table, can be counted in four bytes. -/
structure VampRecord.Countable (record : VampRecord) : Prop where
  solverKey : record.solverKey.length < 2 ^ 32
  validatorKey : record.validatorKey.length < 2 ^ 32
  intent : record.intent.length < 2 ^ 32
  ownerKey : record.ownerKey.length < 2 ^ 32
  name : record.metadata.name.utf8ByteSize < 2 ^ 32
  symbol : record.metadata.symbol.utf8ByteSize < 2 ^ 32
  uri : record.metadata.uri.utf8ByteSize < 2 ^ 32
  erc20 : record.metadata.erc20.length < 2 ^ 32
  entries : record.authorization.entries.length < 2 ^ 32

open Record.Layout in
theorem VampRecord.fits_iff_countable {record : VampRecord} :
    layout.fits record = true ↔ record.Countable := by
  simp only [layout, reshape, pair_fits_iff, bytes_fits_iff, metadata_fits_iff,
    authorization_fits_iff, byte_alwaysFits _, word64_alwaysFits _, flag_alwaysFits _,
    octets_alwaysFits _ _, optional_alwaysFits word64_alwaysFits _, true_and]
  constructor
  · rintro ⟨solverKey, validatorKey, intent, ownerKey, ⟨name, symbol, uri, erc20⟩, entries⟩
    exact ⟨solverKey, validatorKey, intent, ownerKey, name, symbol, uri, erc20, entries⟩
  · intro short
    exact ⟨short.solverKey, short.validatorKey, short.intent, short.ownerKey,
      ⟨short.name, short.symbol, short.uri, short.erc20⟩, short.entries⟩

namespace VampRecord

theorem ofAccount_eq_ok_iff {record : VampRecord} {data : Bytes} :
    ofAccount data = .ok record ↔ ∃ written, record.toAccount = .ok written ∧ written <+: data := by
  simp only [ofAccount, toAccount, mapError_eq_ok_iff]
  exact Record.Kind.read_eq_ok_iff layout_readsBack layout_canonical

theorem exists_toAccount_iff {record : VampRecord} :
    (∃ data, record.toAccount = .ok data) ↔ record.Countable := by
  simp only [toAccount, mapError_eq_ok_iff, Record.Kind.write_eq_ok_iff, exists_and_left,
    exists_eq', and_true]
  exact fits_iff_countable

end VampRecord

namespace ClaimMarker

theorem ofAccount_eq_ok_iff {marker : ClaimMarker} {data : Bytes} :
    ofAccount data = .ok marker ↔ ∃ written, marker.toAccount = .ok written ∧ written <+: data := by
  simp only [ofAccount, toAccount, mapError_eq_ok_iff]
  exact Record.Kind.read_eq_ok_iff layout_readsBack layout_canonical

theorem exists_toAccount (marker : ClaimMarker) : ∃ data, marker.toAccount = .ok data := ⟨_, rfl⟩

end ClaimMarker

/-- Every record that can be counted, and every marker, is written and read back whatever padding
follows; what is read stands at the front of the data as it is written; and no data is read as both
a record and a marker. -/
theorem accounts_round_trip :
    (∀ record : VampRecord, record.Countable → ∃ data, record.toAccount = .ok data ∧
        ∀ padding, VampRecord.ofAccount (data ++ padding) = .ok record) ∧
      (∀ marker : ClaimMarker, ∃ data, marker.toAccount = .ok data ∧
        ∀ padding, ClaimMarker.ofAccount (data ++ padding) = .ok marker) ∧
      (∀ (data : Bytes) (record : VampRecord), VampRecord.ofAccount data = .ok record →
        ∃ written, record.toAccount = .ok written ∧ written <+: data) ∧
      (∀ (data : Bytes) (marker : ClaimMarker), ClaimMarker.ofAccount data = .ok marker →
        ∃ written, marker.toAccount = .ok written ∧ written <+: data) ∧
      ∀ (data : Bytes) (record : VampRecord) (marker : ClaimMarker),
        ¬(VampRecord.ofAccount data = .ok record ∧ ClaimMarker.ofAccount data = .ok marker) := by
  refine ⟨fun record short => ?_, fun marker => ?_, fun data record => ?_, fun data marker => ?_,
    fun data record marker => ?_⟩
  · obtain ⟨data, written⟩ := VampRecord.exists_toAccount_iff.mpr short
    exact ⟨data, written, fun padding => VampRecord.ofAccount_eq_ok_iff.mpr
      ⟨data, written, List.prefix_append _ _⟩⟩
  · obtain ⟨data, written⟩ := marker.exists_toAccount
    exact ⟨data, written, fun padding => ClaimMarker.ofAccount_eq_ok_iff.mpr
      ⟨data, written, List.prefix_append _ _⟩⟩
  · exact VampRecord.ofAccount_eq_ok_iff.mp
  · exact ClaimMarker.ofAccount_eq_ok_iff.mp
  · rintro ⟨stored, marked⟩
    rw [ClaimMarker.ofAccount_record stored] at marked
    cases marked

namespace Market

def named : VampRecord :=
  { freshOnCurve with
    ownerKey := List.replicate 20 9
    metadata := ⟨"Vamping Token", "VAMP", "", 9, List.replicate 20 7⟩
    authorization := .root (.replicate 32 8) }

theorem named_countable : named.Countable where
  solverKey := by decide
  validatorKey := by decide
  intent := by decide
  ownerKey := by decide
  name := by decide
  symbol := by decide
  uri := by decide
  erc20 := by decide
  entries := by decide

def paidMarker : ClaimMarker := ⟨true, 255, holder, creator, 5, 205⟩

end Market

theorem accounts_round_trip_padded :
    ∃ data markerData,
      VampRecord.ofAccount (data ++ [1]) = .ok Market.named ∧
        ClaimMarker.ofAccount (markerData ++ [1]) = .ok Market.paidMarker ∧
        (∃ written, Market.named.toAccount = .ok written ∧ written <+: data ++ [1]) ∧
        (∃ written, Market.paidMarker.toAccount = .ok written ∧ written <+: markerData ++ [1]) ∧
        ∀ marker, ClaimMarker.ofAccount (data ++ [1]) ≠ .ok marker := by
  obtain ⟨records, markers, fromRecord, fromMarker, apart⟩ := accounts_round_trip
  obtain ⟨data, -, read⟩ := records Market.named Market.named_countable
  obtain ⟨markerData, -, marked⟩ := markers Market.paidMarker
  exact ⟨data, markerData, read [1], marked [1], fromRecord _ _ (read [1]),
    fromMarker _ _ (marked [1]), fun marker other => apart _ _ marker ⟨read [1], other⟩⟩

end TokenClaim
