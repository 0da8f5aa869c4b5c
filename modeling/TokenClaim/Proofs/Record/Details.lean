import TokenClaim.Proofs.Ledger.WellFormed
import TokenClaim.Proofs.Record.Header
/-!
The details that an account report shows of a vamp, and the pricing that claims on it are charged
by. A report narrows the exponent to 32 bits, where pricing refuses one that does not fit. So the
two agree exactly where it fits, as it does in every record that an engine has made.
-/

set_option autoImplicit false

namespace TokenClaim

variable {data : Bytes} {record : VampRecord}

namespace VampRecord

theorem starts_with_kind (found : ofAccount data = .ok record) :
    kind.discriminator.toBytes <+: data := by
  obtain ⟨written, made, within⟩ := ofAccount_eq_ok_iff.mp found
  obtain ⟨-, rfl⟩ := Record.Kind.write_eq_ok_iff.mp (mapError_eq_ok_iff.mp made)
  exact (List.prefix_append _ _).trans within

theorem pricing_eq_shown (record : VampRecord) :
    record.pricing =
      if record.paid ∧ record.onCurve ∧ UInt32.size ≤ record.exponent.toNat then
        .error (.invalidAccount .exponentOutOfRange)
      else .ok (VampDetails.ofRecord record).terms.pricing := by
  unfold pricing VampDetails.ofRecord Terms.pricing
  cases record.paid <;> cases record.onCurve <;> simp [apply_ite]

end VampRecord

theorem VampHeader.ofAccount_ofRecord (found : VampRecord.ofAccount data = .ok record) :
    ofAccount data = .ok (.ofRecord record) := by
  obtain ⟨written, made, within⟩ := VampRecord.ofAccount_eq_ok_iff.mp found
  have starts := write_ofRecord_prefix made
  obtain ⟨tail, rfl⟩ := starts.trans within
  have short := VampRecord.exists_toAccount_iff.mp ⟨written, made⟩
  exact mapError_eq_ok_iff.mpr ((readFields_decodes_ofRecord short).whole tail)

namespace AccountReport

theorem ofAccount_of_record (found : VampRecord.ofAccount data = .ok record) :
    ofAccount data = .ok (.vamp (.ofRecord record) (some (.ofRecord record))) := by
  -- The kinds have as many bytes each, so that data which starts with one does not with another.
  have notMarker : ¬ClaimMarker.kind.discriminator.toBytes <+: data := fun marked =>
    have longer := List.prefix_of_prefix_length_le marked
      (VampRecord.starts_with_kind found) (by decide)
    absurd (longer.eq_of_length (by decide)) (by decide)
  rw [ofAccount, if_neg (mt List.isPrefixOf_iff_prefix.mp notMarker),
    VampHeader.ofAccount_ofRecord found, found]
  rfl

theorem ofAccount_eq_vamp_iff {header : VampHeader} {details : VampDetails} :
    ofAccount data = .ok (.vamp header (some details)) ↔ ∃ record,
      VampRecord.ofAccount data = .ok record ∧ header = .ofRecord record ∧
        details = .ofRecord record := by
  constructor
  · intro shown
    cases stored : VampRecord.ofAccount data with
    | ok record =>
      rw [ofAccount_of_record stored] at shown
      cases shown
      exact ⟨record, rfl, rfl, rfl⟩
    | error refusal =>
      -- A marker has no details, and a beginning alone has none either.
      exfalso
      unfold ofAccount at shown
      split at shown
      · cases marked : ClaimMarker.ofAccount data <;> rw [marked] at shown <;> cases shown
      · rw [stored] at shown
        obtain ⟨other, -, shown⟩ := bind_eq_ok_iff.mp shown
        cases shown
  · rintro ⟨record, found, rfl, rfl⟩
    exact ofAccount_of_record found

end AccountReport

structure VampDetails.PricesAs (details : VampDetails) (header : VampHeader)
    (record : VampRecord) : Prop where
  exponent : details.terms.exponent.toNat = header.exponent.toNat
  pricing : record.pricing = .ok details.terms.pricing

theorem VampDetails.pricesAs_iff :
    (ofRecord record).PricesAs (.ofRecord record) record ↔
      record.exponent.toNat < UInt32.size := by
  have narrowed : (ofRecord record).terms.exponent.toNat = record.exponent.toNat % UInt32.size :=
    UInt32.toNat_ofNat'
  constructor
  · intro same
    have kept : (ofRecord record).terms.exponent.toNat = record.exponent.toNat := same.exponent
    rw [← kept]
    exact UInt32.toNat_lt_size _
  · intro fits
    refine ⟨narrowed.trans (Nat.mod_eq_of_lt fits), ?_⟩
    rw [VampRecord.pricing_eq_shown, if_neg fun large => Nat.not_le.mpr fits large.2.2]

theorem VampRecord.Sized.exponent_lt (sized : record.Sized) :
    record.exponent.toNat < UInt32.size :=
  Nat.lt_of_le_of_lt sized.exponent (UInt32.toNat_lt_size _)

theorem Engine.Reaches.details_price {engine : Engine} {history : History} {ledger : Ledger}
    (reached : engine.Reaches history ledger) {account : Pubkey}
    (stands : ledger.accounts.find? account = some data)
    (found : VampRecord.ofAccount data = .ok record) :
    (VampDetails.ofRecord record).PricesAs (.ofRecord record) record := by
  have stored := Ledger.recordAt_eq_ok_iff.mpr ⟨data, stands, found⟩
  exact VampDetails.pricesAs_iff.mpr (reached.sized account record stored).exponent_lt

/-- A report with details shows the pricing of the record exactly if the exponent fits in 32 bits,
as it does wherever an engine has put the data. Where it does not fit, what is left of it is shown,
and claims are priced as shown or not at all. -/
theorem details_price_iff {header : VampHeader} {details : VampDetails}
    (shown : AccountReport.ofAccount data = .ok (.vamp header (some details))) :
    ∃ record, VampRecord.ofAccount data = .ok record ∧
      (details.PricesAs header record ↔ header.exponent.toNat < UInt32.size) ∧
      details.terms.exponent.toNat = header.exponent.toNat % UInt32.size ∧
      (record.pricing = .ok details.terms.pricing ∨
        record.pricing = .error (.invalidAccount .exponentOutOfRange)) ∧
      ∀ (engine : Engine) (operations : List Operation) (account : Pubkey),
        (engine.after operations).accounts.find? account = some data →
          details.PricesAs header record := by
  obtain ⟨record, found, rfl, rfl⟩ := AccountReport.ofAccount_eq_vamp_iff.mp shown
  refine ⟨record, found, VampDetails.pricesAs_iff, UInt32.toNat_ofNat', ?_,
    fun engine operations account stands => (engine.reaches operations).details_price stands found⟩
  rw [record.pricing_eq_shown]
  split
  · exact Or.inr rfl
  · exact Or.inl rfl

/-- The details of a cubic curve show its pricing, where the account data was written and where it
stands in a ledger. -/
theorem details_price_cubic :
    (∃ data header details,
      AccountReport.ofAccount data = .ok (.vamp header (some details)) ∧
        VampRecord.ofAccount data = .ok Market.named ∧ details.PricesAs header Market.named) ∧
      ∃ data header details,
        Market.fundedOnCurve.accounts.find? Market.first.record = some data ∧
          AccountReport.ofAccount data = .ok (.vamp header (some details)) ∧
          details.PricesAs header Market.freshOnCurve := by
  constructor
  · obtain ⟨data, written⟩ := VampRecord.exists_toAccount_iff.mpr Market.named_countable
    have read := VampRecord.ofAccount_toAccount written
    have shown := AccountReport.ofAccount_of_record read
    obtain ⟨record, found, agrees, -⟩ := details_price_iff shown
    rw [read] at found
    cases found
    exact ⟨data, _, _, shown, read, agrees.mpr (by decide)⟩
  · obtain ⟨data, stands, read⟩ := Ledger.recordAt_eq_ok_iff.mp Market.recordAt_fundedOnCurve
    have shown := AccountReport.ofAccount_of_record read
    obtain ⟨record, found, -, -, -, kept⟩ := details_price_iff shown
    rw [read] at found
    cases found
    refine ⟨data, _, _, stands, shown, kept Market.engine
      [.create Market.curveCreation, .deposit Market.creator 300] Market.first.record ?_⟩
    rw [Market.after_fundedOnCurve]
    exact stands

namespace Market

def wrapped : VampRecord := { named with exponent := 4294967297 }

theorem wrapped_countable : wrapped.Countable := { named_countable with }

end Market

/-- A record can be written whose report shows a line, where claims are refused. -/
theorem wrapped_exponent_shown :
    ¬ ∀ (data : Bytes) (header : VampHeader) (details : VampDetails),
      AccountReport.ofAccount data = .ok (.vamp header (some details)) →
        ∃ record, VampRecord.ofAccount data = .ok record ∧ details.PricesAs header record := by
  intro agree
  obtain ⟨data, written⟩ := VampRecord.exists_toAccount_iff.mpr Market.wrapped_countable
  have read := VampRecord.ofAccount_toAccount written
  obtain ⟨record, found, prices⟩ := agree _ _ _ (AccountReport.ofAccount_of_record read)
  rw [read] at found
  cases found
  exact absurd prices.exponent (by decide)

end TokenClaim
