import TokenClaim.Proofs.Ledger.History
import TokenClaim.Proofs.Record.Canonical
/-!
Vamp records in a ledger. Records and claim markers stand in one table of accounts, but a creation
and a claim only ever put an account where there is none, or a record with moved counters in the
place of itself. So a record stays for good, at the address that belongs to its mint.
-/

set_option autoImplicit false

namespace TokenClaim

theorem VampAddresses.mint_of_ofMint? {mint program : Pubkey} {addresses : VampAddresses}
    (found : ofMint? mint program = some addresses) : addresses.mint = mint := by
  simp only [ofMint?, Option.bind_eq_bind, Option.bind_eq_some_iff] at found
  obtain ⟨record, -, vault, -, payVault, -, same⟩ := found
  cases same
  rfl

theorem VampAddresses.ofMint?_of_derive? {authority program : Pubkey} {identifier : UInt64}
    {addresses : VampAddresses} (derived : derive? authority identifier program = some addresses) :
    ofMint? addresses.mint program = some addresses := by
  simp only [derive?, Option.bind_eq_bind, Option.bind_eq_some_iff] at derived
  obtain ⟨mint, -, found⟩ := derived
  rw [mint_of_ofMint? found, found]

namespace VampRecord.Continues

variable {old new : VampRecord}

/-- Only the sizes of a record's strings decide whether it can be written. -/
theorem fits (same : old.Continues new) : layout.fits new = layout.fits old := by
  rw [same]
  rfl

theorem exists_toAccount (same : old.Continues new) (fits : layout.fits old = true) :
    ∃ data, new.toAccount = .ok data :=
  ⟨_, mapError_eq_ok_iff.mpr (Record.Kind.write_eq_ok_iff.mpr ⟨same.fits.trans fits, rfl⟩)⟩

end VampRecord.Continues

namespace Ledger

theorem findAddresses_eq_ok_iff {mint program : Pubkey} {addresses : VampAddresses} :
    findAddresses mint program = .ok addresses ↔
      VampAddresses.ofMint? mint program = some addresses := by
  unfold findAddresses
  cases VampAddresses.ofMint? mint program <;> simp

theorem findMarker_eq_ok_iff {record program place : Pubkey} {source : EthAddress} {bump : UInt8} :
    findMarker record source program = .ok (place, bump) ↔
      (DerivedAccount.marker record source).find? program = some (place, bump) := by
  unfold findMarker
  cases (DerivedAccount.marker record source).find? program <;> simp

theorem recordAt_eq_ok_iff {ledger : Ledger} {account : Pubkey} {record : VampRecord} :
    ledger.recordAt account = .ok record ↔ ∃ data,
      ledger.accounts.find? account = some data ∧ VampRecord.ofAccount data = .ok record := by
  unfold recordAt
  cases ledger.accounts.find? account <;> simp

theorem fits_of_recordAt {ledger : Ledger} {account : Pubkey} {record : VampRecord}
    (stored : ledger.recordAt account = .ok record) : VampRecord.layout.fits record = true := by
  obtain ⟨data, -, read⟩ := recordAt_eq_ok_iff.mp stored
  exact VampRecord.fits_of_ofAccount read

theorem contains_of_recordAt {ledger : Ledger} {account : Pubkey} {record : VampRecord}
    (stored : ledger.recordAt account = .ok record) : ledger.accounts.contains account = true := by
  obtain ⟨data, found, -⟩ := recordAt_eq_ok_iff.mp stored
  rw [Table.contains, found]
  rfl

theorem recordAt_congr {first second : Ledger} {account : Pubkey}
    (same : first.accounts.find? account = second.accounts.find? account) :
    first.recordAt account = second.recordAt account := by
  unfold recordAt
  rw [same]

theorem recordAt_eq_of_find? {ledger : Ledger} {account : Pubkey} {data : Bytes}
    (found : ledger.accounts.find? account = some data) :
    ledger.recordAt account = VampRecord.ofAccount data := by
  unfold recordAt
  rw [found]

/-- Each record stands at the address that its mint leads to, and names the vaults and the bump
that the mint leads to. -/
def Placed (program : Pubkey) (ledger : Ledger) : Prop :=
  ∀ (account : Pubkey) (record : VampRecord), ledger.recordAt account = .ok record →
    VampAddresses.ofMint? record.mint program =
      some ⟨record.mint, account, record.bump, record.vault, record.payVault⟩

/-- No account has gone, and records have at most moved their counters. -/
structure Extends (before after : Ledger) : Prop where
  accounts : ∀ account : Pubkey, before.accounts.contains account = true →
    after.accounts.contains account = true
  records : ∀ (account : Pubkey) (record : VampRecord), before.recordAt account = .ok record →
    ∃ later, after.recordAt account = .ok later ∧ record.Continues later

namespace Placed

variable {program : Pubkey} {ledger : Ledger} {account : Pubkey} {record : VampRecord}

theorem unique (placed : ledger.Placed program) {other : Pubkey} {second : VampRecord}
    (stored : ledger.recordAt account = .ok record)
    (also : ledger.recordAt other = .ok second) (same : record.mint = second.mint) :
    account = other ∧ record = second := by
  have left := placed account record stored
  have right := placed other second also
  rw [same, right] at left
  have accounts : account = other := by
    have addresses := congrArg (Option.map VampAddresses.record) left
    exact (Option.some.inj addresses).symm
  subst accounts
  rw [stored] at also
  exact ⟨rfl, Except.ok.inj also⟩

theorem vamp_eq (placed : ledger.Placed program) (stored : ledger.recordAt account = .ok record) :
    ledger.vamp program record.mint = .ok record := by
  have found := findAddresses_eq_ok_iff.mpr (placed account record stored)
  simp only [vamp, found, ok_bind, stored]

end Placed

end Ledger

namespace Engine

variable {engine : Engine} {history : History} {ledger : Ledger}

section
variable {request : CreateRequest} (steps : CreateSteps engine request ledger)

theorem CreateSteps.addresses_found :
    VampAddresses.ofMint? steps.addresses.mint engine.program = some steps.addresses :=
  VampAddresses.ofMint?_of_derive? steps.derived

theorem CreateSteps.record_mint : steps.record.mint = steps.addresses.mint := by
  rw [steps.built]
  rfl

theorem CreateSteps.find?_vacant : ledger.accounts.find? steps.addresses.record = none := by
  simpa [Table.contains] using steps.vacant

theorem CreateSteps.find?_next (account : Pubkey) :
    steps.next.accounts.find? account =
      if account = steps.addresses.record then some steps.data
      else ledger.accounts.find? account :=
  ledger.accounts.find?_insert steps.addresses.record account steps.data

theorem CreateSteps.recordAt_next (account : Pubkey) :
    steps.next.recordAt account =
      if account = steps.addresses.record then .ok steps.record else ledger.recordAt account := by
  have lookup := steps.find?_next account
  split
  · rename_i here
    rw [if_pos here] at lookup
    rw [Ledger.recordAt_eq_of_find? lookup, VampRecord.ofAccount_toAccount steps.written]
  · rename_i elsewhere
    rw [if_neg elsewhere] at lookup
    exact Ledger.recordAt_congr lookup

theorem CreateSteps.record_stored :
    steps.next.recordAt steps.addresses.record = .ok steps.record := by
  rw [steps.recordAt_next, if_pos rfl]

theorem CreateSteps.ne_of_recordAt {account : Pubkey} {record : VampRecord}
    (stored : ledger.recordAt account = .ok record) : account ≠ steps.addresses.record := by
  rintro rfl
  -- A record is put only where there was no account.
  have taken := Ledger.contains_of_recordAt stored
  rw [steps.vacant] at taken
  cases taken

theorem CreateSteps.extends : ledger.Extends steps.next where
  accounts account taken := by
    unfold Table.contains at taken ⊢
    rw [steps.find?_next]
    split
    · rfl
    · exact taken
  records account record stored := by
    refine ⟨record, ?_, .refl record⟩
    rw [steps.recordAt_next, if_neg (steps.ne_of_recordAt stored), stored]

end

section
variable {request : ClaimRequest} (steps : ClaimSteps engine request ledger)

theorem ClaimSteps.counted_facts :
    Counted steps.record request.amount steps.cost steps.counted :=
  counted_of_count steps.counts

theorem ClaimSteps.settlement_facts :
    Settles ledger steps.record request.claimant request.amount steps.cost steps.settlement :=
  settles_of_settle steps.settled

theorem ClaimSteps.marker_ne_of_recordAt {account : Pubkey} {record : VampRecord}
    (stored : ledger.recordAt account = .ok record) : account ≠ steps.marker := by
  rintro rfl
  have taken := Ledger.contains_of_recordAt stored
  rw [steps.vacant] at taken
  cases taken

theorem ClaimSteps.find?_next (account : Pubkey) :
    steps.next.accounts.find? account =
      if account = steps.addresses.record then some steps.recordData
      else if account = steps.marker then some steps.markerData
      else ledger.accounts.find? account := by
  simp only [next, Table.find?_insert]

theorem ClaimSteps.recordAt_next_eq_ok_iff {account : Pubkey} {record : VampRecord} :
    steps.next.recordAt account = .ok record ↔
      (account = steps.addresses.record ∧ record = steps.counted) ∨
        (account ≠ steps.addresses.record ∧ ledger.recordAt account = .ok record) := by
  have lookup := steps.find?_next account
  by_cases here : account = steps.addresses.record
  · rw [if_pos here] at lookup
    rw [Ledger.recordAt_eq_of_find? lookup, VampRecord.ofAccount_toAccount steps.recordWritten]
    simp [here, eq_comm]
  · rw [if_neg here] at lookup
    by_cases marker : account = steps.marker
    · -- Neither before nor after is there a record: nothing stood here, and markers are no records.
      rw [if_pos marker] at lookup
      rw [Ledger.recordAt_eq_of_find? lookup, VampRecord.ofAccount_marker steps.markerWritten]
      have absent : ledger.recordAt account ≠ .ok record :=
        fun stored => steps.marker_ne_of_recordAt stored marker
      simp [here, absent]
    · rw [if_neg marker] at lookup
      rw [Ledger.recordAt_congr lookup]
      simp [here]

theorem ClaimSteps.counted_stored :
    steps.next.recordAt steps.addresses.record = .ok steps.counted :=
  steps.recordAt_next_eq_ok_iff.mpr (Or.inl ⟨rfl, rfl⟩)

theorem ClaimSteps.extends : ledger.Extends steps.next where
  accounts account taken := by
    unfold Table.contains at taken ⊢
    rw [steps.find?_next]
    split
    · rfl
    · split
      · rfl
      · exact taken
  records account record stored := by
    by_cases here : account = steps.addresses.record
    · refine ⟨steps.counted, here ▸ steps.counted_stored, ?_⟩
      have same : record = steps.record := by
        rw [here, steps.stored] at stored
        exact (Except.ok.inj stored).symm
      rw [same]
      exact steps.counted_facts.continues
    · exact ⟨record, steps.recordAt_next_eq_ok_iff.mpr (Or.inr ⟨here, stored⟩), .refl record⟩

theorem credited_extends (owner : Pubkey) (balance : UInt64) :
    ledger.Extends (credited ledger owner balance) where
  accounts _ taken := taken
  records _ record stored := ⟨record, stored, .refl record⟩

end

theorem Reaches.placed (reached : engine.Reaches history ledger) :
    ledger.Placed engine.program := by
  induction reached with
  | start =>
    intro account record stored
    cases stored
  | refused _ _ ih => exact ih
  | created _ steps ih =>
    intro account record stored
    rw [steps.recordAt_next] at stored
    split at stored
    · rename_i here
      cases stored
      rw [here, steps.built]
      exact steps.addresses_found
    · exact ih account record stored
  | claimed _ steps ih =>
    intro account record stored
    rcases steps.recordAt_next_eq_ok_iff.mp stored with ⟨here, same⟩ | ⟨_, before⟩
    · have old := ih steps.addresses.record steps.record steps.stored
      have kept := steps.counted_facts.continues
      rw [here, same, kept.mint, kept.bump, kept.vault, kept.payVault]
      exact old
    · exact ih account record before
  | deposited _ _ ih => exact ih

theorem CreateSteps.mint_ne {request : CreateRequest} (steps : CreateSteps engine request ledger)
    (placed : ledger.Placed engine.program) {account : Pubkey} {record : VampRecord}
    (stored : ledger.recordAt account = .ok record) : record.mint ≠ steps.record.mint := by
  intro same
  have known := placed account record stored
  rw [same, steps.record_mint, steps.addresses_found] at known
  have here : steps.addresses.record = account :=
    congrArg VampAddresses.record (Option.some.inj known)
  exact steps.ne_of_recordAt stored here.symm

/-- The induction behind laws about stored records. What happens to a vamp touches its own record,
so that a law has to be carried over a creation or a claim only for that record and for records of
other mints. -/
theorem Reaches.each_record {motive : History → Ledger → VampRecord → Prop}
    (refused : ∀ {history : History} {ledger : Ledger} {record : VampRecord} (operation : Operation)
      (refusal : Refusal), motive history ledger record →
      motive (history.add operation (.error refusal)) ledger record)
    (created : ∀ {history : History} {ledger : Ledger} {request : CreateRequest},
      engine.Reaches history ledger → ∀ steps : CreateSteps engine request ledger,
      motive (history.add (.create request) (.ok (.created steps.record))) steps.next steps.record)
    (besideCreated : ∀ {history : History} {ledger : Ledger} {record : VampRecord}
      {request : CreateRequest} (steps : CreateSteps engine request ledger),
      record.mint ≠ steps.record.mint → motive history ledger record →
      motive (history.add (.create request) (.ok (.created steps.record))) steps.next record)
    (claimed : ∀ {history : History} {ledger : Ledger} {request : ClaimRequest}
      (steps : ClaimSteps engine request ledger), motive history ledger steps.record →
      motive (history.add (.claim request) (.ok (.claimed steps.receipt))) steps.next steps.counted)
    (besideClaimed : ∀ {history : History} {ledger : Ledger} {record : VampRecord}
      {request : ClaimRequest} (steps : ClaimSteps engine request ledger),
      record.mint ≠ steps.record.mint → motive history ledger record →
      motive (history.add (.claim request) (.ok (.claimed steps.receipt))) steps.next record)
    (deposited : ∀ {history : History} {ledger : Ledger} {record : VampRecord} (owner : Pubkey)
      (amount balance : UInt64), motive history ledger record →
      motive (history.add (.deposit owner amount) (.ok (.deposited balance)))
        (credited ledger owner balance) record)
    (reached : engine.Reaches history ledger) :
    ∀ account record, ledger.recordAt account = .ok record → motive history ledger record := by
  induction reached with
  | start =>
    intro account record stored
    cases stored
  | refused _ _ ih => exact fun account record stored => refused _ _ (ih account record stored)
  | created before steps ih =>
    intro account record stored
    rw [steps.recordAt_next] at stored
    split at stored
    · cases stored
      exact created before steps
    · exact besideCreated steps (steps.mint_ne before.placed stored) (ih account record stored)
  | claimed before steps ih =>
    intro account record stored
    rcases steps.recordAt_next_eq_ok_iff.mp stored with ⟨-, rfl⟩ | ⟨elsewhere, older⟩
    · exact claimed steps (ih _ _ steps.stored)
    · have other : record.mint ≠ steps.record.mint := fun same =>
        elsewhere (before.placed.unique older steps.stored same).1
      exact besideClaimed steps other (ih account record older)
  | deposited _ _ ih =>
    exact fun account record stored => deposited _ _ _ (ih account record stored)

end Engine

end TokenClaim
