import TokenClaim.Proofs.Addresses
import TokenClaim.Proofs.Ledger.PathIndependence
import TokenClaim.Proofs.Ledger.WellFormed
import TokenClaim.Proofs.Refusals
/-!
No account of a ledger is ever found invalid. What is looked for at an address is what an operation
has put there, unless a record and a marker are derived from strings of the same hash.
-/

set_option autoImplicit false

namespace TokenClaim

def NotInvalid : Refusal → Prop
  | .invalidAccount _ => False
  | _ => True

theorem checkCeiling_notInvalid (price : Nat) (ceiling : Option UInt64) :
    RefusedBy NotInvalid (checkCeiling price ceiling) := by
  cases ceiling with
  | none => exact .ok ()
  | some ceiling => exact .ite (.error trivial) (.ok ())

namespace Pricing

def Supported : Pricing → Prop
  | curve line => line.Supported
  | _ => True

variable {pricing : Pricing} (supported : pricing.Supported)
include supported

theorem cost_notInvalid (supply amount : UInt64) :
    RefusedBy NotInvalid (pricing.cost supply amount) := by
  cases pricing with
  | free => exact .ok 0
  | flat price ceiling =>
    exact .ite (.ok 0) ((checkCeiling_notInvalid _ _).bind fun _ => .orOverflow trivial)
  | curve line =>
    rw [cost, BondingCurve.cost_eq_exactCost supported]
    unfold BondingCurve.exactCost
    refine .ite (.ok 0) (.ite (.error trivial) ?_)
    split
    · exact .error trivial
    · exact .orOverflow trivial

theorem unitPrice_notInvalid (supply : UInt64) :
    RefusedBy NotInvalid (pricing.unitPrice supply) := by
  cases pricing with
  | free => exact .ok 0
  | flat price ceiling => exact .ok price
  | curve line =>
    rw [unitPrice, BondingCurve.priceAt_eq supported]
    exact .bind (.orOverflow trivial) fun _ => .orOverflow trivial

theorem quote_notInvalid (supply amount : UInt64) :
    RefusedBy NotInvalid (Quote.of pricing supply amount) :=
  (cost_notInvalid supported supply amount).bind fun _ => .bind (.orOverflow trivial) fun last =>
    (unitPrice_notInvalid supported last).bind fun _ => .ok _

end Pricing

namespace VampRecord

theorem Sized.exists_pricing {record : VampRecord} (sized : record.Sized) :
    ∃ pricing, record.pricing = .ok pricing ∧ pricing.Supported := by
  have low := sized.exponent
  have small : ¬UInt32.size ≤ record.exponent.toNat := by
    simp only [maxExponent, UInt32.size, UInt32.toNat_ofNat] at low ⊢
    omega
  unfold pricing
  split
  · exact ⟨_, rfl, trivial⟩
  · split
    · exact ⟨_, rfl, trivial⟩
    · refine ⟨_, rfl, Or.inl ?_⟩
      rw [UInt32.le_iff_toNat_le, UInt32.toNat_ofNat']
      omega

end VampRecord

namespace Ledger

theorem findAddresses_notInvalid (mint program : Pubkey) :
    RefusedBy NotInvalid (findAddresses mint program) := by
  unfold findAddresses
  split
  · exact .ok _
  · exact .error trivial

theorem findMarker_notInvalid (record : Pubkey) (source : EthAddress) (program : Pubkey) :
    RefusedBy NotInvalid (findMarker record source program) := by
  unfold findMarker
  split
  · exact .ok _
  · exact .error trivial

end Ledger

namespace Engine

theorem authorize_notInvalid (engine : Engine) (record : VampRecord) (request : ClaimRequest) :
    RefusedBy NotInvalid (engine.authorize record request) :=
  (engine.authorize_refusedBy record request).imp fun _ refused => by
    cases refused <;> trivial

theorem count_notInvalid (record : VampRecord) (amount cost : UInt64) :
    RefusedBy NotInvalid (count record amount cost) :=
  (count_refusedBy record amount cost).imp fun _ refused => by
    subst refused
    trivial

theorem settle_notInvalid (ledger : Ledger) (record : VampRecord) (claimant : Pubkey)
    (amount cost : UInt64) :
    RefusedBy NotInvalid (settle ledger record claimant amount cost) := by
  unfold settle
  simp only
  split
  · refine .bind (.ok _) fun _ => .bind (.orOverflow trivial) fun _ => ?_
    split
    · exact .bind (.ok _) fun _ => .bind (.orOverflow trivial) fun _ => .ok _
    · exact .error trivial
  · exact .error trivial

end Engine

def DerivedAccount.asked (program mint : Pubkey) (source : EthAddress) : List DerivedAccount :=
  .record mint ::
    match VampAddresses.ofMint? mint program with
    | some addresses => [.marker addresses.record source]
    | none => []

theorem DerivedAccount.marker_mem_asked {program mint : Pubkey} {source : EthAddress}
    {addresses : VampAddresses} (found : VampAddresses.ofMint? mint program = some addresses) :
    .marker addresses.record source ∈ asked program mint source := by
  rw [asked, found]
  exact List.mem_cons_of_mem _ List.mem_cons_self

/-- The accounts that an operation puts into the ledger, or puts anew. -/
def History.accountsOf (program : Pubkey) : Operation × Result Response → List DerivedAccount
  | (.create _, .ok (.created record)) => [.record record.mint]
  | (.claim _, .ok (.claimed receipt)) => DerivedAccount.asked program receipt.mint receipt.address
  | _ => []

def History.accounts (history : History) (program : Pubkey) : List DerivedAccount :=
  history.flatMap (accountsOf program)

theorem History.accounts_add (history : History) (program : Pubkey) (operation : Operation)
    (answer : Result Response) : (history.add operation answer).accounts program =
      history.accounts program ++ accountsOf program (operation, answer) := by
  rw [accounts, add, List.flatMap_append, List.flatMap_singleton, accounts]

theorem History.asked_subset_accounts {history : History} {claim : SettledClaim}
    (member : claim ∈ history.claims) (program : Pubkey) :
    DerivedAccount.asked program claim.receipt.mint claim.receipt.address ⊆
      history.accounts program := by
  obtain ⟨entry, listed, told⟩ := List.mem_filterMap.mp member
  intro account asked
  refine List.mem_flatMap.mpr ⟨entry, listed, ?_⟩
  unfold claim? at told
  split at told
  · cases told
    exact asked
  · cases told

namespace Engine

variable {engine : Engine} {history : History} {ledger : Ledger}

theorem Reaches.record_listed (reached : engine.Reaches history ledger) :
    ∀ account record, ledger.recordAt account = .ok record →
      .record record.mint ∈ history.accounts engine.program := by
  refine reached.each_record
    (motive := fun history _ record => .record record.mint ∈ history.accounts engine.program)
    ?refused ?created ?besideCreated ?claimed ?besideClaimed ?deposited
  case created =>
    intro history ledger request before steps
    rw [History.accounts_add]
    exact List.mem_append_right _ List.mem_cons_self
  case claimed =>
    intro history ledger request steps before
    rw [History.accounts_add, steps.counted_facts.continues.mint]
    exact List.mem_append_left _ before
  all_goals
    -- The record was listed before, and nothing is taken off a history.
    intros
    rw [History.accounts_add]
    exact List.mem_append_left _ (by assumption)

theorem Reaches.marker_listed (reached : engine.Reaches history ledger) {account : Pubkey}
    {marker : ClaimMarker} (stands : ledger.markerAt account = some marker) :
    ∃ vamp source bump, .marker vamp source ∈ history.accounts engine.program ∧
      (DerivedAccount.marker vamp source).find? engine.program = some (account, bump) := by
  obtain ⟨claim, member, rfl, -⟩ := reached.claim_of_markerAt stands
  obtain ⟨bump, derived, -⟩ := reached.marker_stands claim member
  obtain ⟨addresses, found, marked⟩ := Option.bind_eq_some_iff.mp derived
  exact ⟨addresses.record, _, bump, History.asked_subset_accounts member _
    (DerivedAccount.marker_mem_asked found), marked⟩

section
variable (reached : engine.Reaches history ledger) {mint : Pubkey}
include reached

theorem Reaches.recordAt_notInvalid {addresses : VampAddresses}
    (free : DerivedAccount.CollisionFree engine.program
      (history.accounts engine.program ++ [.record mint]))
    (found : VampAddresses.ofMint? mint engine.program = some addresses) :
    RefusedBy NotInvalid (ledger.recordAt addresses.record) := by
  cases held : ledger.accounts.find? addresses.record with
  | none =>
    rw [Ledger.recordAt, held]
    exact .error trivial
  | some data =>
    rw [Ledger.recordAt_eq_of_find? held]
    rcases reached.readable held with ⟨record, read⟩ | ⟨marker, read⟩
    · rw [read]
      exact .ok record
    · -- A marker stands elsewhere.
      obtain ⟨vamp, source, bump, listed, marked⟩ :=
        reached.marker_listed (Ledger.markerAt_of_find? held read)
      have apart := DerivedAccount.record_ne_marker free
        (List.mem_append_right _ List.mem_cons_self) (List.mem_append_left _ listed)
        (VampAddresses.find_record_of_ofMint? found) marked
      exact absurd rfl apart

theorem Reaches.vamp_notInvalid
    (free : DerivedAccount.CollisionFree engine.program
      (history.accounts engine.program ++ [.record mint])) :
    RefusedBy NotInvalid (ledger.vamp engine.program mint) :=
  .bind_of_eq (Ledger.findAddresses_notInvalid mint engine.program) fun _ found =>
    reached.recordAt_notInvalid free (Ledger.findAddresses_eq_ok_iff.mp found)

theorem Reaches.quote_notInvalid
    (free : DerivedAccount.CollisionFree engine.program
      (history.accounts engine.program ++ [.record mint])) (amount : UInt64) :
    RefusedBy NotInvalid (ledger.quote engine.program mint amount) := by
  refine .bind_of_eq (reached.vamp_notInvalid free) fun record told => ?_
  obtain ⟨addresses, -, stored⟩ := bind_eq_ok_iff.mp told
  obtain ⟨pricing, priced, supported⟩ := (reached.sized _ _ stored).exists_pricing
  rw [priced]
  exact Pricing.quote_notInvalid supported _ _

theorem Reaches.claim_notInvalid {request : ClaimRequest}
    (free : DerivedAccount.CollisionFree engine.program
      (history.accounts engine.program ++ [.record request.mint])) :
    RefusedBy NotInvalid (engine.claim request ledger) := by
  refine .bind_of_eq (Ledger.findAddresses_notInvalid _ _) fun addresses found => ?_
  refine .bind_of_eq (reached.recordAt_notInvalid free
    (Ledger.findAddresses_eq_ok_iff.mp found)) fun record stored => ?_
  refine .bind (authorize_notInvalid _ _ _) fun _ => ?_
  obtain ⟨pricing, priced, supported⟩ := (reached.sized _ _ stored).exists_pricing
  rw [priced, ok_bind]
  refine .bind (Pricing.cost_notInvalid supported _ _) fun cost => ?_
  refine .bind (settle_notInvalid _ _ _ _ _) fun settlement => ?_
  refine .bind_of_eq (count_notInvalid _ _ _) fun counted counts => ?_
  -- What was read can be written with moved counters, and a marker always.
  obtain ⟨written, done⟩ :=
    (counted_of_count counts).continues.exists_toAccount (Ledger.fits_of_recordAt stored)
  rw [done, ok_bind]
  refine .bind (Ledger.findMarker_notInvalid _ _ _) fun ⟨place, bump⟩ => ?_
  refine .bind (.ok _) fun markerData => ?_
  exact .ite (.error trivial) (.ok _)

theorem Reaches.marker_notInvalid {source : EthAddress}
    (free : DerivedAccount.CollisionFree engine.program
      (history.accounts engine.program ++ DerivedAccount.asked engine.program mint source)) :
    RefusedBy NotInvalid (ledger.marker engine.program mint source) := by
  refine .bind_of_eq (Ledger.findAddresses_notInvalid _ _) fun addresses found => ?_
  refine .bind_of_eq (Ledger.findMarker_notInvalid _ _ _) fun ⟨place, bump⟩ marked => ?_
  simp only
  split
  · exact .ok none
  · rename_i data held
    rcases reached.readable held with ⟨record, read⟩ | ⟨marker, read⟩
    · -- A record stands elsewhere.
      have stored := Ledger.recordAt_eq_ok_iff.mpr ⟨data, held, read⟩
      have asked : .marker addresses.record source ∈
          DerivedAccount.asked engine.program mint source :=
        DerivedAccount.marker_mem_asked (Ledger.findAddresses_eq_ok_iff.mp found)
      have apart := DerivedAccount.record_ne_marker free
        (List.mem_append_left _ (reached.record_listed _ _ stored))
        (List.mem_append_right _ asked)
        (VampAddresses.find_record_of_ofMint? (reached.placed _ _ stored))
        (Ledger.findMarker_eq_ok_iff.mp marked)
      exact absurd rfl apart
    · rw [read]
      exact .ok _

theorem Reaches.isClaimed_notInvalid {source : EthAddress}
    (free : DerivedAccount.CollisionFree engine.program
      (history.accounts engine.program ++ DerivedAccount.asked engine.program mint source)) :
    RefusedBy NotInvalid (ledger.isClaimed engine.program mint source) :=
  (reached.marker_notInvalid free).bind fun _ => .ok _

end

/-- After any run each account holds a record or a marker as it should be. If no two of the strings
that the accounts of the run and of a question are derived from have the same hash, then none of the
calls that look accounts up is refused for an invalid one. -/
theorem accounts_sound (engine : Engine) (operations : List Operation) :
    (engine.after operations).WellFormed engine.program ∧
      (∀ mint, DerivedAccount.CollisionFree engine.program
          ((engine.history operations).accounts engine.program ++ [.record mint]) → ∀ fault,
        (engine.after operations).vamp engine.program mint ≠ .error (.invalidAccount fault) ∧
          (∀ amount, (engine.after operations).quote engine.program mint amount ≠
            .error (.invalidAccount fault)) ∧
          ∀ request, request.mint = mint →
            engine.claim request (engine.after operations) ≠ .error (.invalidAccount fault)) ∧
      ∀ mint source, DerivedAccount.CollisionFree engine.program
          ((engine.history operations).accounts engine.program ++
            DerivedAccount.asked engine.program mint source) → ∀ fault,
        (engine.after operations).marker engine.program mint source ≠
            .error (.invalidAccount fault) ∧
          (engine.after operations).isClaimed engine.program mint source ≠
            .error (.invalidAccount fault) := by
  have reached := engine.reaches operations
  refine ⟨reached.wellFormed, fun mint free fault => ⟨?vamp, ?quote, ?claim⟩,
    fun mint source free fault => ⟨?marker, ?isClaimed⟩⟩
  case vamp => exact fun refused => reached.vamp_notInvalid free _ refused
  case quote => exact fun amount refused => reached.quote_notInvalid free amount _ refused
  case claim =>
    rintro request rfl refused
    exact reached.claim_notInvalid free _ refused
  case marker => exact fun refused => reached.marker_notInvalid free _ refused
  case isClaimed => exact fun refused => reached.isClaimed_notInvalid free _ refused

end Engine

namespace Market

theorem collisionFree_first :
    DerivedAccount.CollisionFree engine.program
      [.record first.mint, .marker first.record holder] := by
  have record : (DerivedAccount.record first.mint).find? engine.program =
      some (first.record, first.recordBump) :=
    VampAddresses.find_record_of_ofMint? (VampAddresses.ofMint?_of_derive? derive_first)
  have marker := Ledger.findMarker_eq_ok_iff.mp find_firstMarker
  have elsewhere : first.record ≠ firstMarker := by decide
  refine .of_apart ?_
  simp only [List.forall_mem_cons, record, marker, List.not_mem_nil, false_implies, implies_true,
    and_true, Option.some.injEq, Prod.mk.injEq, reduceCtorEq]
  grind

theorem asked_first : DerivedAccount.asked engine.program first.mint holder =
    [.record first.mint, .marker first.record holder] := by
  rw [DerivedAccount.asked, VampAddresses.ofMint?_of_derive? derive_first]

theorem reaches_claimedOnCurve :
    engine.Reaches [(.create curveCreation, .ok (.created openedOnCurve.record)),
      (.deposit creator 300, .ok (.deposited 300)),
      (.claim (claimOf first.mint creator), .ok (.claimed claimedOnCurve.receipt))]
      claimedOnCurve.next := by
  refine .claimed (.deposited (.created .start openedOnCurve) ?_) claimedOnCurve
  rfl

end Market

/-- The holder's claim on the cubic curve, and the questions about it. -/
theorem accounts_sound_cubic :
    ∃ operations,
      Market.engine.after operations = Market.claimedOnCurve.next ∧
        DerivedAccount.CollisionFree Market.engine.program
          ((Market.engine.history operations).accounts Market.engine.program ++
            DerivedAccount.asked Market.engine.program Market.first.mint Market.holder) ∧
        ∀ fault, (Market.engine.after operations).vamp Market.engine.program Market.first.mint ≠
            .error (.invalidAccount fault) ∧
          (Market.engine.after operations).isClaimed Market.engine.program Market.first.mint
            Market.holder ≠ .error (.invalidAccount fault) := by
  obtain ⟨operations, told, same⟩ := Market.reaches_claimedOnCurve.exists_run
  have accounts : (Market.engine.history operations).accounts Market.engine.program =
      .record Market.first.mint ::
        DerivedAccount.asked Market.engine.program Market.first.mint Market.holder := by
    rw [told]
    simp only [History.accounts, List.flatMap_cons, List.flatMap_nil, History.accountsOf,
      List.nil_append, List.append_nil, List.singleton_append]
    rfl
  have free : DerivedAccount.CollisionFree Market.engine.program
      ((Market.engine.history operations).accounts Market.engine.program ++
        DerivedAccount.asked Market.engine.program Market.first.mint Market.holder) := by
    rw [accounts, Market.asked_first]
    exact Market.collisionFree_first.mono (by simp)
  have ofRecord : DerivedAccount.CollisionFree Market.engine.program
      ((Market.engine.history operations).accounts Market.engine.program ++
        [.record Market.first.mint]) := by
    refine free.mono ?_
    rw [Market.asked_first]
    simp
  obtain ⟨-, ofMint, ofClaim⟩ := Engine.accounts_sound Market.engine operations
  exact ⟨operations, same, free, fun fault => ⟨(ofMint _ ofRecord fault).1,
    (ofClaim _ _ free fault).2⟩⟩

end TokenClaim
