import TokenClaim.Proofs.Ledger.Lamports
/-!
Whether the vaults hold what was paid into them. A vamp's record counts what claims on the vamp have
paid, but the vault is an account like any other, and claims on other vamps can name it as claimant.
-/

set_option autoImplicit false

namespace TokenClaim

def History.paidBeside (program : Pubkey) (history : History) (record : VampRecord) :
    List SettledClaim :=
  (history.paidTo program record.payVault).filter (·.receipt.mint ≠ record.mint)

/-- A vamp's vault has paid for claims on other vamps no more than it was given by deposits and by
claims on other vamps. -/
def History.Affords (program : Pubkey) (history : History) (record : VampRecord) : Prop :=
  totalOf Receipt.cost (history.paidFrom program record.payVault) ≤
    history.depositedTo record.payVault + totalOf Receipt.cost (history.paidBeside program record)

def Ledger.Solvent (ledger : Ledger) (record : VampRecord) : Prop :=
  record.reserve.toNat ≤ (ledger.lamportsOf record.payVault).toNat

namespace Engine

variable {engine : Engine} {history : History} {ledger : Ledger}

theorem claimsOn_eq_filter_paidTo (placed : ledger.Placed engine.program) {account : Pubkey}
    {record : VampRecord} (stored : ledger.recordAt account = .ok record) :
    (history.paidTo engine.program record.payVault).filter (·.receipt.mint = record.mint) =
      history.claimsOn record.mint := by
  rw [History.paidTo, List.filter_filter, History.claimsOn]
  refine List.filter_congr fun claim _ => ?_
  by_cases here : claim.receipt.mint = record.mint
  · have pays : claim.payVault? engine.program = some record.payVault := by
      rw [SettledClaim.payVault?, here, placed account record stored]
      rfl
    simp [here, pays]
  · simp [here]

theorem Reaches.cost_paidTo (reached : engine.Reaches history ledger) {account : Pubkey}
    {record : VampRecord} (stored : ledger.recordAt account = .ok record) :
    totalOf Receipt.cost (history.paidTo engine.program record.payVault) =
      record.reserve.toNat + totalOf Receipt.cost (history.paidBeside engine.program record) := by
  have parts := totalOf_filter_add Receipt.cost (·.receipt.mint = record.mint)
    (history.paidTo engine.program record.payVault)
  rw [claimsOn_eq_filter_paidTo reached.placed stored,
    ← (reached.tallies account record stored).reserve] at parts
  simp only [History.paidBeside, ne_eq, decide_not]
  exact parts.symm

theorem Reaches.solvent_iff_affords (reached : engine.Reaches history ledger) {account : Pubkey}
    {record : VampRecord} (stored : ledger.recordAt account = .ok record) :
    ledger.Solvent record ↔ history.Affords engine.program record := by
  have balance := reached.lamportsOf_eq record.payVault
  have income := reached.cost_paidTo stored
  unfold Ledger.Solvent History.Affords
  omega

/-- After any run a vamp's vault holds what the vamp's record counts as paid exactly if the vault
has paid for claims on other vamps no more than it was given besides. -/
theorem solvent_iff (engine : Engine) (operations : List Operation) (account : Pubkey) :
    (∀ record, (engine.after operations).recordAt account = .ok record →
        (engine.after operations).Solvent record) ↔
      ∀ record, (engine.after operations).recordAt account = .ok record →
        (engine.history operations).Affords engine.program record := by
  have reached := engine.reaches operations
  constructor
  · intro solvent record stored
    exact (reached.solvent_iff_affords stored).mp (solvent record stored)
  · intro affords record stored
    exact (reached.solvent_iff_affords stored).mpr (affords record stored)

end Engine

namespace Market

def second : VampAddresses where
  mint := ⟨[239, 145, 255, 159, 230, 90, 139, 205, 85, 94, 226, 6, 8, 174, 63, 149, 66, 227, 104,
    167, 237, 226, 238, 28, 2, 11, 104, 56, 37, 186, 225, 23], rfl⟩
  record := ⟨[164, 159, 114, 86, 236, 54, 235, 242, 225, 198, 214, 83, 149, 93, 255, 118, 236, 159,
    111, 95, 47, 244, 183, 131, 228, 121, 246, 242, 213, 82, 228, 168], rfl⟩
  recordBump := 255
  vault := ⟨[115, 160, 175, 251, 62, 27, 93, 148, 150, 145, 51, 163, 39, 131, 127, 77, 181, 171,
    164, 88, 117, 194, 86, 154, 179, 183, 52, 244, 237, 205, 158, 159], rfl⟩
  payVault := ⟨[237, 120, 59, 113, 118, 87, 226, 163, 16, 9, 71, 11, 198, 14, 51, 51, 85, 145, 232,
    161, 78, 113, 115, 77, 251, 133, 32, 185, 119, 92, 189, 224], rfl⟩

def secondMarker : Pubkey :=
  ⟨[50, 18, 186, 232, 107, 230, 201, 216, 221, 225, 214, 91, 145, 93, 195, 79, 39, 14, 43, 178, 127,
    110, 48, 111, 39, 203, 250, 207, 251, 210, 188, 0], rfl⟩

theorem derive_second : VampAddresses.derive? creator 62 engine.program = some second := by
  simp only [VampAddresses.derive?, VampAddresses.ofMint?, DerivedAccount.find?_eq_listed]
  decide +kernel

theorem find_secondMarker :
    Ledger.findMarker second.record holder engine.program = .ok (secondMarker, 255) := by
  rw [Ledger.findMarker_eq_ok_iff, DerivedAccount.find?_eq_listed]
  decide +kernel

def openedBeside : Engine.CreateSteps engine (creation 62) opened.next := created derive_second rfl

def bothFunded : Ledger := Engine.credited openedBeside.next creator 5

theorem recordAt_first_bothFunded : bothFunded.recordAt first.record = .ok (fresh first 49) := by
  have apart : first.record ≠ openedBeside.addresses.record := by decide
  have stored := openedBeside.recordAt_next first.record
  rw [if_neg apart] at stored
  exact stored.trans (recordAt_funded creator)

theorem recordAt_second_bothFunded : bothFunded.recordAt second.record = .ok (fresh second 62) :=
  openedBeside.record_stored

def claimedByCreator : Engine.ClaimSteps engine (claimOf first.mint creator) bothFunded :=
  claimed derive_first ⟨0, 5, 5, 5⟩ recordAt_first_bothFunded rfl find_firstMarker rfl

def claimedBeside :
    Engine.ClaimSteps engine (claimOf second.mint first.payVault) claimedByCreator.next :=
  claimed derive_second ⟨0, 5, 5, 5⟩
    (claimedByCreator.recordAt_next_eq_ok_iff.mpr
      (Or.inr ⟨by decide, recordAt_second_bothFunded⟩))
    rfl find_secondMarker rfl

end Market

/-- The first vamp counts five lamports as paid, and its vault has none of them. -/
theorem claim_beside_empties_pay_vault :
    ¬ ∀ (engine : Engine) (operations : List Operation) (account : Pubkey) (record : VampRecord),
      (engine.after operations).recordAt account = .ok record →
        (engine.after operations).Solvent record := by
  intro solvent
  have both := (Engine.Reaches.start.created Market.opened).created Market.openedBeside
  have funded : Market.engine.Reaches
      (History.add _ (.deposit Market.creator 5) (.ok (.deposited 5))) Market.bothFunded :=
    both.deposited rfl
  have reached := (funded.claimed Market.claimedByCreator).claimed Market.claimedBeside
  obtain ⟨operations, -, present⟩ := reached.exists_run
  have counted := Market.claimedByCreator.recordAt_next_eq_ok_iff.mpr (Or.inl ⟨rfl, rfl⟩)
  have stored := Market.claimedBeside.recordAt_next_eq_ok_iff.mpr (Or.inr ⟨by decide, counted⟩)
  rw [← present] at stored
  have held := solvent Market.engine operations _ _ stored
  rw [present] at held
  exact absurd held (by unfold Ledger.Solvent; decide +kernel)

end TokenClaim
