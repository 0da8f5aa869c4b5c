import TokenClaim.Proofs.Ledger.Tokens
/-!
The lamports of a ledger. They come in with deposits, and claims move them to the vaults that are
paid, unless a claim is paid for by the vault that is paid.
-/

set_option autoImplicit false

namespace TokenClaim

def SettledClaim.payVault? (program : Pubkey) (claim : SettledClaim) : Option Pubkey :=
  (VampAddresses.ofMint? claim.receipt.mint program).map (·.payVault)

namespace History

def depositTotal (history : History) : Nat := (history.deposits.map (·.2.toNat)).sum

def depositedTo (history : History) (owner : Pubkey) : Nat :=
  ((history.deposits.filter (·.1 = owner)).map (·.2.toNat)).sum

/-- The claims whose claimant was the vault that they pay to. -/
def selfPaid (program : Pubkey) (history : History) : List SettledClaim :=
  history.claims.filter fun claim => claim.payVault? program = some claim.receipt.claimant

def paidTo (program : Pubkey) (history : History) (vault : Pubkey) : List SettledClaim :=
  history.claims.filter fun claim => claim.payVault? program = some vault

/-- The claims that an account pays for and that do not pay to itself. -/
def paidFrom (program : Pubkey) (history : History) (owner : Pubkey) : List SettledClaim :=
  history.claims.filter fun claim =>
    claim.receipt.claimant = owner ∧ claim.payVault? program ≠ some owner

theorem depositTotal_deposited (history : History) (owner : Pubkey) (amount balance : UInt64) :
    (history.add (.deposit owner amount) (.ok (.deposited balance))).depositTotal =
      history.depositTotal + amount.toNat := by
  rw [depositTotal, deposits_deposited, List.map_append, List.sum_append, ← depositTotal,
    List.map_singleton, List.sum_singleton]

theorem depositedTo_deposited (history : History) (account owner : Pubkey)
    (amount balance : UInt64) :
    (history.add (.deposit owner amount) (.ok (.deposited balance))).depositedTo account =
      history.depositedTo account + if owner = account then amount.toNat else 0 := by
  rw [depositedTo, deposits_deposited, List.filter_append, List.map_append, List.sum_append,
    ← depositedTo]
  by_cases same : owner = account
  · simp [same]
  · simp [same]

end History

namespace Engine

variable {engine : Engine} {history : History} {ledger : Ledger}

section
variable {request : CreateRequest} (steps : CreateSteps engine request ledger)

theorem CreateSteps.lamportTotal_next : steps.next.lamportTotal = ledger.lamportTotal :=
  ledger.lamports.sum_insertIfNew steps.addresses.payVault rfl

theorem CreateSteps.lamportsOf_next (owner : Pubkey) :
    steps.next.lamportsOf owner = ledger.lamportsOf owner :=
  ledger.lamports.getD_find?_insertIfNew steps.addresses.payVault owner 0

end

section
variable {request : ClaimRequest} (steps : ClaimSteps engine request ledger)

theorem ClaimSteps.payVault?_eq (placed : ledger.Placed engine.program) :
    SettledClaim.payVault? engine.program ⟨request, steps.receipt⟩ =
      some steps.record.payVault := by
  have known := placed steps.addresses.record steps.record steps.stored
  exact congrArg (Option.map VampAddresses.payVault) known

theorem ClaimSteps.lamportTotal_next :
    steps.next.lamportTotal =
      ledger.lamportTotal +
        if steps.record.payVault = request.claimant then steps.cost.toNat else 0 := by
  have settled := steps.settlement_facts
  have taken : steps.settlement.claimantLamports.toNat + steps.cost.toNat =
      ledger.lamports.weightAt (fun _ balance => balance.toNat) request.claimant := by
    rw [ledger.weightAt_lamports]
    exact settled.claimantLamports
  have received : steps.settlement.payVaultLamports.toNat =
      ledger.lamports.weightAt (fun _ balance => balance.toNat) steps.record.payVault +
        steps.cost.toNat := by
    rw [ledger.weightAt_lamports]
    exact settled.payVaultLamports
  exact Table.sum_insert_insert taken received

theorem ClaimSteps.lamportsOf_next (owner : Pubkey) :
    steps.next.lamportsOf owner =
      if owner = steps.record.payVault then steps.settlement.payVaultLamports
      else if owner = request.claimant then steps.settlement.claimantLamports
      else ledger.lamportsOf owner := by
  simp only [Ledger.lamportsOf, next, Table.find?_insert]
  split
  · rfl
  · split <;> rfl

theorem ClaimSteps.lamports_moved (owner : Pubkey) :
    (steps.next.lamportsOf owner).toNat +
        (if request.claimant = owner ∧ steps.record.payVault ≠ owner then steps.cost.toNat else 0) =
      (ledger.lamportsOf owner).toNat +
        if steps.record.payVault = owner then steps.cost.toNat else 0 := by
  have settled := steps.settlement_facts
  rw [steps.lamportsOf_next]
  by_cases paid : steps.record.payVault = owner
  · have received := settled.payVaultLamports
    subst paid
    simpa using received
  · by_cases pays : request.claimant = owner
    · have taken := settled.claimantLamports
      subst pays
      simpa [paid, Ne.symm paid] using taken
    · simp [paid, pays, Ne.symm paid, Ne.symm pays]

end

section
variable {owner : Pubkey} {amount balance : UInt64}
  (fits : balance.toNat = (ledger.lamportsOf owner).toNat + amount.toNat)
include fits

theorem lamportTotal_credited :
    (credited ledger owner balance).lamportTotal = ledger.lamportTotal + amount.toNat := by
  have moved := ledger.lamports.sum_insert (fun _ balance => balance.toNat) owner balance
  rw [ledger.weightAt_lamports] at moved
  have total : (credited ledger owner balance).lamportTotal + (ledger.lamportsOf owner).toNat =
      ledger.lamportTotal + balance.toNat := moved
  omega

theorem lamportsOf_credited (account : Pubkey) :
    ((credited ledger owner balance).lamportsOf account).toNat =
      (ledger.lamportsOf account).toNat + if owner = account then amount.toNat else 0 := by
  unfold Ledger.lamportsOf credited at *
  rw [Table.find?_insert]
  by_cases same : account = owner
  · subst same
    rw [if_pos rfl, if_pos rfl]
    exact fits
  · rw [if_neg same, if_neg (Ne.symm same)]
    rfl

end

theorem Reaches.lamportTotal_eq (reached : engine.Reaches history ledger) :
    ledger.lamportTotal =
      history.depositTotal + totalOf Receipt.cost (history.selfPaid engine.program) := by
  induction reached with
  | start => rfl
  | refused _ _ ih =>
    rw [History.depositTotal, History.selfPaid, History.deposits_refused, History.claims_refused]
    exact ih
  | created _ steps ih =>
    rw [History.depositTotal, History.selfPaid, History.deposits_created, History.claims_created,
      steps.lamportTotal_next]
    exact ih
  | @claimed history _ request before steps ih =>
    have pays := steps.payVault?_eq before.placed
    -- The cost is new exactly where the filter takes the claim in.
    rw [History.depositTotal, History.selfPaid, History.deposits_claimed, History.claims_claimed,
      List.filter_append, totalOf_append, totalOf_filter_singleton, ← History.selfPaid,
      ← History.depositTotal, steps.lamportTotal_next, ih, pays]
    simp only [decide_eq_true_eq, Option.some.injEq]
    exact Nat.add_assoc _ _ _
  | deposited _ fits ih =>
    rw [History.depositTotal_deposited, History.selfPaid, History.claims_deposited,
      ← History.selfPaid, lamportTotal_credited fits, ih]
    omega

theorem Reaches.lamportsOf_eq (reached : engine.Reaches history ledger) (owner : Pubkey) :
    (ledger.lamportsOf owner).toNat +
        totalOf Receipt.cost (history.paidFrom engine.program owner) =
      history.depositedTo owner + totalOf Receipt.cost (history.paidTo engine.program owner) := by
  induction reached with
  | start => rfl
  | refused _ _ ih =>
    rw [History.depositedTo, History.paidFrom, History.paidTo, History.deposits_refused,
      History.claims_refused]
    exact ih
  | created _ steps ih =>
    rw [History.depositedTo, History.paidFrom, History.paidTo, History.deposits_created,
      History.claims_created, steps.lamportsOf_next]
    exact ih
  | @claimed history _ request before steps ih =>
    have pays := steps.payVault?_eq before.placed
    have moved := steps.lamports_moved owner
    rw [History.depositedTo, History.paidFrom, History.paidTo, History.deposits_claimed,
      History.claims_claimed, List.filter_append, List.filter_append, totalOf_append,
      totalOf_append, totalOf_filter_singleton, totalOf_filter_singleton, ← History.depositedTo,
      ← History.paidFrom, ← History.paidTo, pays]
    simp only [decide_eq_true_eq, ne_eq, Option.some.injEq] at moved ⊢
    have payer : steps.receipt.claimant = request.claimant := rfl
    have price : steps.receipt.cost = steps.cost := rfl
    rw [payer, price]
    omega
  | deposited _ fits ih =>
    rw [History.depositedTo_deposited, History.paidFrom, History.paidTo, History.claims_deposited,
      ← History.paidFrom, ← History.paidTo, lamportsOf_credited fits]
    omega

/-- After any run the lamports of the ledger are those that were deposited exactly if every claim
whose claimant is the vault that it pays to was free. -/
theorem lamports_conserved_iff (engine : Engine) (operations : List Operation) :
    (engine.after operations).lamportTotal = (engine.history operations).depositTotal ↔
      ∀ claim ∈ (engine.history operations).claims,
        claim.payVault? engine.program = some claim.receipt.claimant → claim.receipt.cost = 0 := by
  have total := (engine.reaches operations).lamportTotal_eq
  have free := totalOf_filter_eq_zero_iff Receipt.cost
    (fun claim => claim.payVault? engine.program = some claim.receipt.claimant)
    (engine.history operations).claims
  simp only [decide_eq_true_eq] at free
  rw [← free, ← History.selfPaid, total]
  omega

end Engine

def Market.claimedByPayVault :
    Engine.ClaimSteps engine (claimOf first.mint first.payVault) (funded first.payVault) :=
  claimed derive_first ⟨0, 10, 5, 5⟩ (recordAt_funded _) rfl find_firstMarker rfl

/-- The five lamports stay where they are, and another five come to them. -/
theorem claim_by_pay_vault_creates_lamports :
    ¬ ∀ (engine : Engine) (operations : List Operation),
      (engine.after operations).lamportTotal = (engine.history operations).depositTotal := by
  intro conserved
  have reached := (Market.reaches_funded Market.first.payVault rfl).claimed
    Market.claimedByPayVault
  obtain ⟨operations, past, present⟩ := reached.exists_run
  have total := conserved Market.engine operations
  rw [past, present] at total
  exact absurd total (by decide +kernel)

end TokenClaim
