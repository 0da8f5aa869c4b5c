import TokenClaim.Proofs.Descriptor.Acceptance
import TokenClaim.Proofs.Record.Allocations
import TokenClaim.Proofs.Record.Canonical
/-!
Keeping a table and keeping its root authorize the same claims: under any two policies that accept a
descriptor, the vamps opened from it grant the same allocations, and a claim with the table's proof
is answered in the same way.
-/

set_option autoImplicit false

namespace TokenClaim

namespace Descriptor

def Carries (data : Bytes) (table : AllocationTable) : Prop :=
  ∃ m, DescriptorMessage.schema.read data = .ok m ∧ m.entries = .ok table

/-- The record of a vamp that was opened from a descriptor, whatever was claimed since. -/
def Opens (d : Descriptor) (record : VampRecord) : Prop :=
  ∃ addresses authority identifier terms initialPrice,
    (Engine.newRecord addresses authority identifier d terms initialPrice).Continues record

theorem Opens.decimals {d : Descriptor} {record : VampRecord} (opened : d.Opens record) :
    record.metadata.decimals = d.decimals := by
  obtain ⟨_, _, _, _, _, same⟩ := opened
  rw [same]
  rfl

theorem Opens.authorization {d : Descriptor} {record : VampRecord} (opened : d.Opens record) :
    record.authorization = d.authorization := by
  obtain ⟨_, _, _, _, _, same⟩ := opened
  rw [same]
  rfl

theorem valid_of_read {policy : AuthorizationPolicy} {data : Bytes} {m : DescriptorMessage}
    {table : AllocationTable} {d : Descriptor}
    (message : DescriptorMessage.schema.read data = .ok m) (listed : m.entries = .ok table)
    (nonempty : table ≠ []) (accepted : read policy data = .ok d) :
    m.Valid table ∧ d = m.descriptor d.authorization ∧
      (d.authorization = .table table ∨ d.authorization = .root table.root) := by
  obtain ⟨other, known, made⟩ := read_eq_ok_iff.mp accepted
  obtain rfl : m = other := Except.ok.inj (message.symm.trans known)
  obtain ⟨entries, authorization, valid, selected, rfl⟩ := ofMessage_eq_ok_iff.mp made
  obtain rfl : table = entries := Except.ok.inj (listed.symm.trans valid.listed)
  exact ⟨valid, rfl, AuthorizationPolicy.table_or_root_of_select
    (fun given present => valid.root given present nonempty) selected⟩

theorem Opens.granted {d : Descriptor} {record : VampRecord} {m : DescriptorMessage}
    {table : AllocationTable} {entry : Allocation} (opened : d.Opens record)
    (valid : m.Valid table) (made : d = m.descriptor d.authorization)
    (kept : d.authorization = .table table ∨ d.authorization = .root table.root)
    (member : entry ∈ table) :
    ∃ proof, table.prove? entry.address = some proof ∧
      record.allocationFor entry.address (some proof) = .ok entry.amount := by
  -- The leaf is checked with the record's decimals, which the message gave to every entry.
  have decimals : entry.decimals = record.metadata.decimals := by
    rw [TableMessage.decimals_of_entries valid.listed entry member, opened.decimals, made]
    rfl
  rw [← opened.authorization] at kept
  exact VampRecord.allocationFor_prove valid.distinct member decimals kept

end Descriptor

def VampRecord.keeping (record : VampRecord) (authorization : Authorization) : VampRecord :=
  { record with authorization }

theorem VampRecord.Continues.keeping {old new : VampRecord} (same : old.Continues new)
    (authorization : Authorization) :
    (old.keeping authorization).Continues (new.keeping authorization) :=
  congrArg (VampRecord.keeping · authorization) same

theorem Descriptor.Opens.keeping {d other : Descriptor} {record : VampRecord}
    (opened : d.Opens record) (same : other = { d with authorization := other.authorization }) :
    other.Opens (record.keeping other.authorization) := by
  obtain ⟨addresses, authority, identifier, terms, initialPrice, continues⟩ := opened
  refine ⟨addresses, authority, identifier, terms, initialPrice, ?_⟩
  have kept := continues.keeping other.authorization
  rw [same] at kept ⊢
  exact kept

namespace Ledger

structure Level (first second : Ledger) : Prop where
  contains : ∀ key, second.accounts.contains key = first.accounts.contains key
  lamports : ∀ owner, second.lamports.find? owner = first.lamports.find? owner
  tokens : ∀ key, second.tokens.find? key = first.tokens.find? key

structure SameButAuthorization (account : Pubkey) (record : VampRecord)
    (authorization : Authorization) (first second : Ledger) : Prop where
  stored : first.recordAt account = .ok record
  storedOther : second.recordAt account = .ok (record.keeping authorization)
  accounts : ∀ key, key ≠ account → second.accounts.find? key = first.accounts.find? key
  lamports : ∀ owner, second.lamports.find? owner = first.lamports.find? owner
  tokens : ∀ key, second.tokens.find? key = first.tokens.find? key
  events : second.events = first.events

theorem SameButAuthorization.level {account : Pubkey} {record : VampRecord}
    {authorization : Authorization} {first second : Ledger}
    (same : SameButAuthorization account record authorization first second) :
    first.Level second where
  contains key := by
    by_cases here : key = account
    · rw [here, contains_of_recordAt same.stored, contains_of_recordAt same.storedOther]
    · rw [Table.contains, same.accounts key here, ← Table.contains]
  lamports := same.lamports
  tokens := same.tokens

end Ledger

namespace Engine

variable {engine : Engine} {request : ClaimRequest} {record : VampRecord}
  {authorization : Authorization} {first second : Ledger}

theorem settle_keeping (level : first.Level second) (claimant : Pubkey) (amount cost : UInt64) :
    settle second (record.keeping authorization) claimant amount cost =
      settle first record claimant amount cost := by
  simp only [settle, Ledger.lamportsOf, Ledger.tokensOf, level.lamports, level.tokens,
    VampRecord.keeping]

theorem count_keeping (amount cost : UInt64) :
    count (record.keeping authorization) amount cost =
      count record amount cost >>= fun counted => .ok (counted.keeping authorization) := by
  simp only [count, bind_assoc]
  rfl

theorem authorize_keeping
    (granted : (record.keeping authorization).allocationFor request.address request.proof =
      record.allocationFor request.address request.proof) :
    engine.authorize (record.keeping authorization) request = engine.authorize record request := by
  simp only [authorize, granted]
  rfl

theorem claim_keeping {addresses : VampAddresses} (level : first.Level second)
    (found : Ledger.findAddresses request.mint engine.program = .ok addresses)
    (stored : first.recordAt addresses.record = .ok record)
    (storedOther : second.recordAt addresses.record = .ok (record.keeping authorization))
    (granted : (record.keeping authorization).allocationFor request.address request.proof =
      record.allocationFor request.address request.proof) :
    (engine.claim request second).map Prod.fst = (engine.claim request first).map Prod.fst := by
  -- Step by step both claims compute the same; only what they write differs.
  have pricing : (record.keeping authorization).pricing = record.pricing := rfl
  have supply : (record.keeping authorization).supply = record.supply := rfl
  simp only [claim, found, stored, storedOther, authorize_keeping granted, pricing, supply,
    settle_keeping level, count_keeping, bind_assoc, ok_bind, level.contains]
  refine map_bind_congr fun _ _ => map_bind_congr fun pricing _ => map_bind_congr fun cost _ =>
    map_bind_congr fun settlement _ => map_bind_congr fun counted counts => ?_
  -- Both records can be written: they were read, and only words have changed in them.
  have continues := (counted_of_count counts).continues
  obtain ⟨data, written⟩ := continues.exists_toAccount (Ledger.fits_of_recordAt stored)
  obtain ⟨dataOther, writtenOther⟩ :=
    (continues.keeping authorization).exists_toAccount (Ledger.fits_of_recordAt storedOther)
  rw [written, writtenOther]
  refine map_bind_congr fun marker _ => map_bind_congr fun markerData _ => ?_
  split <;> rfl

theorem claim_of_sameButAuthorization {account : Pubkey}
    (same : Ledger.SameButAuthorization account record authorization first second)
    (granted : (record.keeping authorization).allocationFor request.address request.proof =
      record.allocationFor request.address request.proof) :
    (engine.claim request second).map Prod.fst = (engine.claim request first).map Prod.fst := by
  cases found : Ledger.findAddresses request.mint engine.program with
  | error refusal => simp only [claim, found, error_bind]
  | ok addresses =>
    by_cases here : addresses.record = account
    · exact claim_keeping same.level found (here ▸ same.stored) (here ▸ same.storedOther) granted
    · have beside := Ledger.recordAt_congr (same.accounts addresses.record here)
      cases stored : first.recordAt addresses.record with
      | error refusal => simp only [claim, found, beside, stored, ok_bind, error_bind]
      | ok other =>
        -- a claim on another vamp meets the same record in both ledgers
        have storedOther : second.recordAt addresses.record =
            .ok (other.keeping other.authorization) := beside.trans stored
        exact claim_keeping same.level found stored storedOther rfl

end Engine

/-- A descriptor that lists a table is read in the same way under any two policies but for the
authorization, and that is the table or its root. The vamps opened from it grant each address of the
table its amount on the table's proof, so that claims with such proofs are answered the same. -/
theorem Descriptor.modes_authorize_alike {data : Bytes} {table : AllocationTable}
    {policy otherPolicy : AuthorizationPolicy} {one other : Descriptor}
    (carried : Carries data table) (nonempty : table ≠ []) (accepted : read policy data = .ok one)
    (acceptedOther : read otherPolicy data = .ok other) :
    other = { one with authorization := other.authorization } ∧
      (∀ d ∈ [one, other],
        (d.authorization = .table table ∨ d.authorization = .root table.root) ∧
          ∀ record, d.Opens record → ∀ entry ∈ table, ∃ proof,
            table.prove? entry.address = some proof ∧
              record.allocationFor entry.address (some proof) = .ok entry.amount) ∧
      ∀ (engine : Engine) (account : Pubkey) (record : VampRecord) (first second : Ledger)
        (request : ClaimRequest) (entry : Allocation), one.Opens record →
        Ledger.SameButAuthorization account record other.authorization first second →
        entry ∈ table → request.address = entry.address →
        request.proof = table.prove? entry.address →
        (engine.claim request second).map Prod.fst = (engine.claim request first).map Prod.fst := by
  obtain ⟨m, message, listed⟩ := carried
  obtain ⟨valid, made, kept⟩ := valid_of_read message listed nonempty accepted
  obtain ⟨-, madeOther, keptOther⟩ := valid_of_read message listed nonempty acceptedOther
  have same : other = { one with authorization := other.authorization } := by
    rw [madeOther, made]
    rfl
  refine ⟨same, ?modes, ?claims⟩
  case modes =>
    rw [List.forall_mem_cons, List.forall_mem_singleton]
    exact ⟨⟨kept, fun record opened entry member => opened.granted valid made kept member⟩,
      keptOther, fun record opened entry member => opened.granted valid madeOther keptOther member⟩
  case claims =>
    intro engine account record first second request entry opened differ member address shown
    obtain ⟨proof, proved, granted⟩ := opened.granted valid made kept member
    obtain ⟨otherProof, provedOther, grantedOther⟩ :=
      (opened.keeping same).granted valid madeOther keptOther member
    obtain rfl : otherProof = proof := Option.some.inj (provedOther.symm.trans proved)
    refine Engine.claim_of_sameButAuthorization differ ?_
    rw [address, shown, proved, granted, grantedOther]

namespace Market

open Engine

/-- Three shares, so that their tree has one leaf more than the table has entries. -/
def threeShares : AllocationTable := shares ++ [⟨.replicate 20 6, 2, 0⟩]

def threeOffer : Bytes := (offerTo (.table threeShares)).write

def threeMessage : DescriptorMessage := (offerTo (.table threeShares)).toMessage

set_option maxRecDepth 4000 in
theorem read_threeMessage : DescriptorMessage.schema.read threeOffer = .ok threeMessage := by
  with_unfolding_all rfl

theorem threeMessage_valid : threeMessage.Valid threeShares where
  lengths := rfl
  decimals := by decide
  listed := rfl
  distinct := by decide
  covered := by decide
  root := fun _ given => by cases given
  terms := fun _ given => by cases given

theorem read_threeOffer {policy : AuthorizationPolicy} {authorization : Authorization}
    (selected : policy.select threeShares none = .ok authorization) :
    Descriptor.read policy threeOffer = .ok (offerTo authorization) := by
  refine Descriptor.read_eq_ok_iff.mpr ⟨threeMessage, read_threeMessage, ?_⟩
  exact Descriptor.ofMessage_eq_ok_iff.mpr ⟨_, _, threeMessage_valid, selected, rfl⟩

def keptAs (authorization : Authorization) : VampRecord :=
  newRecord first creator 49 (offerTo authorization) .standard 0

theorem selects_table : AuthorizationPolicy.standard.select threeShares none =
    .ok (.table threeShares) := rfl

theorem selects_root : AuthorizationPolicy.select ⟨.root, 1024⟩ threeShares none =
    .ok (.root threeShares.root) := rfl

def openedByTable := openedFrom .standard (offerTo (.table threeShares)) threeOffer .standard 0
  (read_threeOffer selects_table) rfl rfl rfl

def openedByRoot := openedFrom ⟨.root, 1024⟩ (offerTo (.root threeShares.root)) threeOffer .standard
  0 (read_threeOffer selects_root) rfl rfl rfl

theorem recordAt_openedByTable :
    openedByTable.next.recordAt first.record = .ok (keptAs (.table threeShares)) :=
  openedByTable.record_stored

theorem openedByRoot_same : Ledger.SameButAuthorization first.record (keptAs (.table threeShares))
    (.root threeShares.root) openedByTable.next openedByRoot.next where
  stored := recordAt_openedByTable
  storedOther := openedByRoot.record_stored
  accounts key elsewhere := by
    rw [CreateSteps.find?_next, CreateSteps.find?_next]
    exact (if_neg elsewhere).trans (if_neg elsewhere).symm
  lamports _ := rfl
  tokens _ := rfl
  events := rfl

def provenClaim : ClaimRequest :=
  { claimOf first.mint creator with proof := threeShares.prove? holder }

def claimedByTable : ClaimSteps engine provenClaim openedByTable.next where
  addresses := first
  record := keptAs (.table threeShares)
  pricing := .free
  cost := 0
  settlement := ⟨0, 0, 5, 5⟩
  counted := { keptAs (.table threeShares) with totalClaimed := 5, supply := 5 }
  recordData := accountOf VampRecord.kind
    { keptAs (.table threeShares) with totalClaimed := 5, supply := 5 }
  marker := firstMarker
  bump := 255
  markerData := accountOf ClaimMarker.kind ⟨true, 255, holder, creator, 5, 0⟩
  found := Ledger.findAddresses_eq_ok_iff.mpr (VampAddresses.ofMint?_of_derive? derive_first)
  stored := recordAt_openedByTable
  authorized := rfl
  priced := rfl
  charged := rfl
  settled := rfl
  counts := rfl
  recordWritten := rfl
  marked := find_firstMarker
  markerWritten := rfl
  vacant := rfl

end Market

/-- The claim of the first of three shares goes through in both modes. -/
theorem modes_authorize_alike_three_shares :
    (Market.engine.claim Market.provenClaim Market.openedByTable.next).map Prod.fst =
        .ok Market.claimedByTable.receipt ∧
      (Market.engine.claim Market.provenClaim Market.openedByRoot.next).map Prod.fst =
        .ok Market.claimedByTable.receipt := by
  have carried : Descriptor.Carries Market.threeOffer Market.threeShares :=
    ⟨_, Market.read_threeMessage, Market.threeMessage_valid.listed⟩
  obtain ⟨-, -, alike⟩ := Descriptor.modes_authorize_alike carried (by decide)
    (Market.read_threeOffer Market.selects_table) (Market.read_threeOffer Market.selects_root)
  have opened : (Market.offerTo (.table Market.threeShares)).Opens
      (Market.keptAs (.table Market.threeShares)) := ⟨_, _, _, _, _, .refl _⟩
  have same := alike Market.engine Market.first.record _ _ _ Market.provenClaim
    ⟨Market.holder, 5, 0⟩ opened Market.openedByRoot_same (by decide) rfl rfl
  have done : (Market.engine.claim Market.provenClaim Market.openedByTable.next).map Prod.fst =
      .ok Market.claimedByTable.receipt := by
    rw [Engine.claim_eq_ok_iff.mpr ⟨Market.claimedByTable, rfl, rfl⟩]
    rfl
  exact ⟨done, same.trans done⟩

end TokenClaim
