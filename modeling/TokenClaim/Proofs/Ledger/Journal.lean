import TokenClaim.Proofs.Ledger.Markers
import TokenClaim.Proofs.Ledger.PathIndependence
/-!
The log as a journal. From the events of a vamp alone one can tell how it was opened, its counters
and who has claimed what: the log, the records, the counters and the markers never drift apart.
-/

set_option autoImplicit false

namespace TokenClaim

structure LoggedClaim where
  claimant : Pubkey
  address : EthAddress
  amount : UInt64
  cost : UInt64
  supply : UInt64

def LoggedClaim.event (mint : Pubkey) (claim : LoggedClaim) : Event :=
  .claimed mint claim.claimant claim.address claim.amount claim.cost claim.supply

def LoggedClaim.marker (claim : LoggedClaim) (bump : UInt8) : ClaimMarker :=
  ⟨true, bump, claim.address, claim.claimant, claim.amount, claim.cost⟩

namespace Event

def mint : Event → Pubkey
  | .minted mint .. => mint
  | .claimed mint .. => mint

def isClaim : Event → Bool
  | .minted .. => false
  | .claimed .. => true

def claimOn? (mint : Pubkey) : Event → Option LoggedClaim
  | .minted .. => none
  | .claimed vamp claimant address amount cost supply =>
    if vamp = mint then some ⟨claimant, address, amount, cost, supply⟩ else none

/-- Where the marker is looked for of the claim that the event tells of. -/
def marker? (program : Pubkey) : Event → Option Pubkey
  | .minted .. => none
  | .claimed mint _ address _ _ _ =>
    (DerivedAccount.findMarker? program mint address).map Prod.fst

section
variable {events : List Event} {event : Event} {mint : Pubkey}

theorem filter_mint_append (same : event.mint = mint) :
    (events ++ [event]).filter (·.mint = mint) = events.filter (·.mint = mint) ++ [event] := by
  simp [same]

theorem filter_mint_append_of_ne (other : event.mint ≠ mint) :
    (events ++ [event]).filter (·.mint = mint) = events.filter (·.mint = mint) := by
  simp [other]

end

end Event

def Ledger.loggedClaims (ledger : Ledger) (mint : Pubkey) : List LoggedClaim :=
  ledger.events.filterMap (Event.claimOn? mint)

def VampRecord.opening (record : VampRecord) (account : Pubkey) : Event :=
  .minted record.mint account record.metadata.name record.metadata.symbol record.metadata.erc20
    record.minted

theorem Ledger.Extends.known {before after : Ledger} {mint : Pubkey}
    (extends_ : before.Extends after)
    (known : ∃ account record, before.recordAt account = .ok record ∧ record.mint = mint) :
    ∃ account record, after.recordAt account = .ok record ∧ record.mint = mint := by
  obtain ⟨account, record, stored, same⟩ := known
  obtain ⟨later, kept, continues⟩ := extends_.records account record stored
  exact ⟨account, later, kept, continues.mint.trans same⟩

theorem VampRecord.mint_opening (record : VampRecord) (account : Pubkey) :
    (record.opening account).mint = record.mint := rfl

theorem VampRecord.Continues.opening {old new : VampRecord} (same : old.Continues new)
    (account : Pubkey) : new.opening account = old.opening account := by
  rw [same]
  rfl

namespace SettledClaim

def logged (claim : SettledClaim) : LoggedClaim :=
  ⟨claim.receipt.claimant, claim.receipt.address, claim.receipt.amount, claim.receipt.cost,
    claim.receipt.supply⟩

def event (claim : SettledClaim) : Event := claim.logged.event claim.receipt.mint

end SettledClaim

/-- Each claim is logged with the supply that it and those before it make. -/
def SuppliesRun (claims : List LoggedClaim) : Prop :=
  ∀ (place : Nat) (claim : LoggedClaim), claims[place]? = some claim →
    claim.supply.toNat = ((claims.take (place + 1)).map (·.amount.toNat)).sum

theorem SuppliesRun.snoc {claims : List LoggedClaim} {last : LoggedClaim}
    (runs : SuppliesRun claims)
    (sum : last.supply.toNat = (claims.map (·.amount.toNat)).sum + last.amount.toNat) :
    SuppliesRun (claims ++ [last]) := by
  intro place claim listed
  rcases Nat.lt_trichotomy place claims.length with before | rfl | beyond
  · rw [List.getElem?_append_left before] at listed
    rw [List.take_append_of_le_length before]
    exact runs place claim listed
  · rw [List.getElem?_concat_length] at listed
    cases listed
    rw [List.take_of_length_le (by simp), List.map_append, List.sum_append, sum]
    rfl
  · rw [List.getElem?_eq_none (by simpa using beyond)] at listed
    cases listed

/-- A vamp's events are its opening, at the account that its mint leads to, and then its claims. -/
def Ledger.Recounts (ledger : Ledger) (program : Pubkey) (record : VampRecord) : Prop :=
  ∀ addresses, VampAddresses.ofMint? record.mint program = some addresses →
    ledger.events.filter (·.mint = record.mint) =
      record.opening addresses.record ::
        (ledger.loggedClaims record.mint).map (LoggedClaim.event record.mint)

/-- The log tells the history of a vamp. -/
structure Ledger.Journals (ledger : Ledger) (program account : Pubkey) (record : VampRecord) :
    Prop where
  /-- The vamp's events are its opening and then its claims. -/
  events : ledger.events.filter (·.mint = record.mint) =
    record.opening account :: (ledger.loggedClaims record.mint).map (LoggedClaim.event record.mint)
  totalClaimed : record.totalClaimed.toNat =
    ((ledger.loggedClaims record.mint).map (·.amount.toNat)).sum
  supply : record.supply.toNat = ((ledger.loggedClaims record.mint).map (·.amount.toNat)).sum
  reserve : record.reserve.toNat = ((ledger.loggedClaims record.mint).map (·.cost.toNat)).sum
  running : SuppliesRun (ledger.loggedClaims record.mint)
  distinct : ((ledger.loggedClaims record.mint).map (·.address)).Nodup
  marked : ∀ claim ∈ ledger.loggedClaims record.mint, ∃ bump,
    ledger.marker program record.mint claim.address = .ok (some (claim.marker bump))

namespace Engine

variable {engine : Engine} {history : History} {ledger : Ledger}

section
variable {request : CreateRequest} (steps : CreateSteps engine request ledger)

theorem CreateSteps.events_next :
    steps.next.events = ledger.events ++ [steps.record.opening steps.addresses.record] := by
  rw [steps.built]
  rfl

theorem CreateSteps.loggedClaims_next (mint : Pubkey) :
    steps.next.loggedClaims mint = ledger.loggedClaims mint := by
  rw [Ledger.loggedClaims, steps.events_next, List.filterMap_append]
  exact List.append_nil _

end

section
variable {request : ClaimRequest} (steps : ClaimSteps engine request ledger)

theorem ClaimSteps.events_next :
    steps.next.events = ledger.events ++ [SettledClaim.event ⟨request, steps.receipt⟩] := rfl

theorem ClaimSteps.mint_event :
    (SettledClaim.event ⟨request, steps.receipt⟩).mint = steps.record.mint := rfl

theorem ClaimSteps.loggedClaims_next (mint : Pubkey) :
    steps.next.loggedClaims mint = ledger.loggedClaims mint ++
      if steps.record.mint = mint then [SettledClaim.logged ⟨request, steps.receipt⟩] else [] := by
  rw [Ledger.loggedClaims, steps.events_next, List.filterMap_append]
  congr 1
  by_cases same : steps.record.mint = mint
  · rw [if_pos same]
    exact List.filterMap_cons_some (if_pos same)
  · rw [if_neg same]
    exact List.filterMap_cons_none (if_neg same)

end

theorem Reaches.events_filter_isClaim (reached : engine.Reaches history ledger) :
    ledger.events.filter (·.isClaim) = history.claims.map SettledClaim.event := by
  induction reached with
  | start => rfl
  | refused _ _ ih => rwa [History.claims_refused]
  | created _ steps ih =>
    rw [History.claims_created, steps.events_next, List.filter_append, ih]
    exact List.append_nil _
  | claimed _ steps ih =>
    rw [History.claims_claimed, steps.events_next, List.filter_append, ih, List.map_append]
    rfl
  | deposited _ _ ih =>
    rw [History.claims_deposited]
    exact ih

theorem Reaches.loggedClaims_eq (reached : engine.Reaches history ledger) (mint : Pubkey) :
    ledger.loggedClaims mint = (history.claimsOn mint).map SettledClaim.logged := by
  induction reached with
  | start => rfl
  | refused _ _ ih => rwa [History.claimsOn_refused]
  | created _ steps ih => rw [History.claimsOn_created, steps.loggedClaims_next, ih]
  | claimed _ steps ih =>
    rw [History.claimsOn_claimed, steps.loggedClaims_next, ih, List.map_append]
    congr 1
    by_cases same : steps.record.mint = mint
    · rw [if_pos same, if_pos (show steps.receipt.mint = mint from same)]
      rfl
    · rw [if_neg same, if_neg (show steps.receipt.mint ≠ mint from same)]
      rfl
  | deposited _ _ ih =>
    rw [History.claimsOn_deposited]
    exact ih

theorem Reaches.event_known (reached : engine.Reaches history ledger) :
    ∀ event ∈ ledger.events, ∃ account record,
      ledger.recordAt account = .ok record ∧ record.mint = event.mint := by
  induction reached with
  | start => simp [Ledger.empty]
  | refused _ _ ih => exact ih
  | created _ steps ih =>
    intro event listed
    rw [steps.events_next, List.mem_append, List.mem_singleton] at listed
    rcases listed with listed | rfl
    · exact steps.extends.known (ih event listed)
    · exact ⟨_, _, steps.record_stored, rfl⟩
  | claimed _ steps ih =>
    intro event listed
    rw [steps.events_next, List.mem_append, List.mem_singleton] at listed
    rcases listed with listed | rfl
    · exact steps.extends.known (ih event listed)
    · exact ⟨_, _, steps.counted_stored, steps.counted_facts.continues.mint⟩
  | deposited _ _ ih => exact ih

section
variable {request : CreateRequest} (steps : CreateSteps engine request ledger)

theorem CreateSteps.loggedClaims_eq_nil (reached : engine.Reaches history ledger) :
    ledger.loggedClaims steps.record.mint = [] := by
  rw [reached.loggedClaims_eq, steps.claimsOn_eq_nil reached, List.map_nil]

theorem CreateSteps.filter_mint_eq_nil (reached : engine.Reaches history ledger) :
    ledger.events.filter (·.mint = steps.record.mint) = [] := by
  rw [List.filter_eq_nil_iff]
  intro event listed same
  obtain ⟨account, record, stored, mint⟩ := reached.event_known event listed
  exact steps.mint_ne reached.placed stored (mint.trans (of_decide_eq_true same))

end

theorem Reaches.recounts (reached : engine.Reaches history ledger) :
    ∀ account record, ledger.recordAt account = .ok record →
      ledger.Recounts engine.program record := by
  refine reached.each_record
    (motive := fun _ ledger record => ledger.Recounts engine.program record)
    ?refused ?created ?besideCreated ?claimed ?besideClaimed ?deposited
  case refused => exact fun _ _ before => before
  case created =>
    intro history ledger request before steps addresses found
    rw [steps.record_mint, steps.addresses_found] at found
    cases found
    rw [steps.events_next, Event.filter_mint_append (steps.record.mint_opening _),
      steps.filter_mint_eq_nil before, steps.loggedClaims_next, steps.loggedClaims_eq_nil before]
    rfl
  case besideCreated =>
    intro history ledger record request steps other before addresses found
    rw [steps.events_next, Event.filter_mint_append_of_ne (Ne.symm other), before addresses found,
      steps.loggedClaims_next]
  case claimed =>
    intro history ledger request steps before
    have same := steps.counted_facts.continues
    unfold Ledger.Recounts
    rw [same.mint]
    intro addresses found
    rw [steps.events_next, Event.filter_mint_append steps.mint_event, before addresses found,
      steps.loggedClaims_next, if_pos rfl, List.map_append, same.opening]
    rfl
  case besideClaimed =>
    intro history ledger record request steps other before addresses found
    rw [steps.events_next, Event.filter_mint_append_of_ne (Ne.symm other), before addresses found,
      steps.loggedClaims_next, if_neg (Ne.symm other), List.append_nil]
  case deposited => exact fun _ _ _ before => before

theorem Reaches.sum_amounts (reached : engine.Reaches history ledger) (mint : Pubkey) :
    ((ledger.loggedClaims mint).map (·.amount.toNat)).sum =
      totalOf Receipt.amount (history.claimsOn mint) := by
  rw [reached.loggedClaims_eq, List.map_map]
  rfl

theorem Reaches.supplies_run (reached : engine.Reaches history ledger) (mint : Pubkey) :
    SuppliesRun (ledger.loggedClaims mint) := by
  induction reached with
  | start =>
    intro place claim listed
    cases listed
  | refused _ _ ih => exact ih
  | created _ steps ih => rwa [steps.loggedClaims_next]
  | claimed before steps ih =>
    rw [steps.loggedClaims_next]
    by_cases same : steps.record.mint = mint
    · rw [if_pos same]
      refine ih.snoc ?_
      have tally := (before.tallies _ _ steps.stored).supply
      rw [same] at tally
      rw [before.sum_amounts, ← tally]
      exact steps.counted_facts.supply
    · rwa [if_neg same, List.append_nil]
  | deposited _ _ ih => exact ih

theorem Reaches.journals (reached : engine.Reaches history ledger) {account : Pubkey}
    {record : VampRecord} (stored : ledger.recordAt account = .ok record) :
    ledger.Journals engine.program account record := by
  have tallies := reached.tallies account record stored
  have logged := reached.loggedClaims_eq record.mint
  have amounts := reached.sum_amounts record.mint
  constructor
  case events =>
    have placed := reached.placed account record stored
    exact reached.recounts account record stored _ placed
  case totalClaimed => rw [amounts, tallies.totalClaimed]
  case supply => rw [amounts, tallies.supply]
  case reserve =>
    rw [logged, List.map_map, tallies.reserve]
    rfl
  case running => exact reached.supplies_run record.mint
  case distinct =>
    rw [logged, List.map_map]
    exact reached.addresses_nodup record.mint
  case marked =>
    intro claim listed
    rw [logged] at listed
    obtain ⟨settled, member, rfl⟩ := List.mem_map.mp listed
    obtain ⟨member, ofMint⟩ := List.mem_filter.mp member
    obtain ⟨bump, derived, stands⟩ := reached.marker_stands settled member
    rw [of_decide_eq_true ofMint] at derived
    exact ⟨bump, Ledger.marker_eq_some_iff.mpr ⟨_, bump, derived, stands⟩⟩

theorem Reaches.filter_marker?_eq (reached : engine.Reaches history ledger) (account : Pubkey) :
    ledger.events.filter (·.marker? engine.program = some account) =
      (history.claims.filter (·.receipt.marker = account)).map SettledClaim.event := by
  have onlyClaims : ledger.events.filter (·.marker? engine.program = some account) =
      (ledger.events.filter (·.isClaim)).filter (·.marker? engine.program = some account) := by
    rw [List.filter_filter]
    refine List.filter_congr fun event _ => ?_
    cases event <;> simp [Event.marker?, Event.isClaim]
  rw [onlyClaims, reached.events_filter_isClaim, List.filter_map]
  congr 1
  refine List.filter_congr fun claim member => ?_
  obtain ⟨bump, derived, -⟩ := reached.marker_stands claim member
  have place : claim.event.marker? engine.program = some claim.receipt.marker :=
    congrArg (Option.map Prod.fst) derived
  simp [place]

theorem Reaches.marker_logged (reached : engine.Reaches history ledger) {account : Pubkey}
    {marker : ClaimMarker} (stands : ledger.markerAt account = some marker) :
    ∃ mint supply, ledger.events.filter (·.marker? engine.program = some account) =
      [.claimed mint marker.claimant marker.address marker.amount marker.cost supply] := by
  obtain ⟨claim, member, here, left⟩ := reached.claim_of_markerAt stands
  have listed : claim ∈ history.claims.filter (·.receipt.marker = account) :=
    List.mem_filter.mpr ⟨member, decide_eq_true here⟩
  rcases filter_key_eq_nil_or_singleton reached.markers_nodup account with none | ⟨_, -, single⟩
  · rw [none] at listed
    cases listed
  · rw [single, List.mem_singleton] at listed
    refine ⟨claim.receipt.mint, claim.receipt.supply, ?_⟩
    rw [reached.filter_marker?_eq, single, ← listed, left]
    rfl

/-- After any run the log tells the history of every vamp and of nothing else, and has for every
marker the one claim that left it. -/
theorem log_is_journal (engine : Engine) (operations : List Operation) :
    (∀ account record, (engine.after operations).recordAt account = .ok record →
        (engine.after operations).Journals engine.program account record) ∧
      (∀ event ∈ (engine.after operations).events, ∃ account record,
        (engine.after operations).recordAt account = .ok record ∧ record.mint = event.mint) ∧
      ∀ account marker, (engine.after operations).markerAt account = some marker →
        ∃ mint supply,
          (engine.after operations).events.filter (·.marker? engine.program = some account) =
            [.claimed mint marker.claimant marker.address marker.amount marker.cost supply] := by
  have reached := engine.reaches operations
  exact ⟨fun _ _ stored => reached.journals stored, reached.event_known,
    fun _ _ stands => reached.marker_logged stands⟩

end Engine

/-- A claim of five tokens on a cubic curve, its record and its marker. -/
theorem cubic_claim_is_logged :
    ∃ operations mint supply,
      (Market.engine.after operations).Journals Market.engine.program Market.first.record
          Market.soldOnCurve ∧
        (Market.engine.after operations).events.filter
            (·.marker? Market.engine.program = some Market.firstMarker) =
          [.claimed mint Market.creator Market.holder 5 205 supply] := by
  have stored := Market.claimedOnCurve.counted_stored
  have stands := (Market.claimedOnCurve.markerAt_next Market.firstMarker).trans (if_pos rfl)
  rw [← Market.after_claimedOnCurve] at stored stands
  obtain ⟨journals, -, logged⟩ := Engine.log_is_journal Market.engine
    ([.create Market.curveCreation, .deposit Market.creator 300] ++
      [.claim (Market.claimOf Market.first.mint Market.creator)])
  obtain ⟨mint, supply, single⟩ := logged _ _ stands
  exact ⟨_, mint, supply, journals _ _ stored, single⟩

end TokenClaim
