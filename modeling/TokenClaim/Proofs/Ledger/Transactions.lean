import TokenClaim.Proofs.Ledger.Tokens
/-!
The operations as they work on a ledger in place, one write after the other. Nothing takes a write
back when a later step is refused, so that a refused operation leaves no trace only because of the
order of its checks and its writes.
-/

set_option autoImplicit false

namespace TokenClaim

theorem Ledger.insertIfNew_of_full {ledger : Ledger} {owner : Pubkey} {amount : UInt64}
    (full : Word64.add? (ledger.lamportsOf owner) amount = none) :
    ledger.lamports.insertIfNew owner 0 = ledger.lamports := by
  unfold Table.insertIfNew Table.contains
  cases held : ledger.lamports.find? owner with
  | some balance => rfl
  | none =>
    have nothing : ledger.lamportsOf owner = 0 := by
      rw [lamportsOf, held]
      rfl
    have fits : Word64.add? 0 amount = some amount :=
      Word64.add?_eq_some_iff.mpr (Nat.zero_add _).symm
    rw [nothing, fits] at full
    cases full

/-- Work on a ledger in place. What is written before a refusal stays written. -/
abbrev Transaction (α : Type) := ExceptT Refusal (StateM Ledger) α

namespace Transaction

def execute {α : Type} (work : Transaction α) (ledger : Ledger) : Result α × Ledger :=
  StateT.run (ExceptT.run work) ledger

def putAccount (account : Pubkey) (data : Bytes) : Transaction Unit :=
  modify fun ledger => { ledger with accounts := ledger.accounts.insert account data }

def putLamports (owner : Pubkey) (balance : UInt64) : Transaction Unit :=
  modify fun ledger => { ledger with lamports := ledger.lamports.insert owner balance }

def openLamports (owner : Pubkey) : Transaction Unit :=
  modify fun ledger => { ledger with lamports := ledger.lamports.insertIfNew owner 0 }

def putTokens (mint holder : Pubkey) (balance : UInt64) : Transaction Unit :=
  modify fun ledger => { ledger with tokens := ledger.tokens.insert (mint, holder) balance }

def emit (event : Event) : Transaction Unit :=
  modify fun ledger => { ledger with events := ledger.events ++ [event] }

def create (engine : Engine) (request : CreateRequest) : Transaction VampRecord := do
  let descriptor ← Descriptor.read engine.policy request.descriptor
  let terms := (request.terms.or descriptor.terms).getD engine.terms
  terms.validate
  let identifier ← Engine.chooseIdentifier request descriptor
  let some addresses := VampAddresses.derive? request.authority identifier engine.program
    | throw .noAddress
  if (← get).accounts.contains addresses.record then throw .alreadyInitialized
  let initialPrice ← terms.pricing.unitPrice 0
  let record :=
    Engine.newRecord addresses request.authority identifier descriptor terms initialPrice
  let data ← record.toAccount
  putAccount addresses.record data
  putTokens addresses.mint addresses.vault descriptor.amount
  openLamports addresses.payVault
  emit (.minted addresses.mint addresses.record descriptor.name descriptor.symbol descriptor.erc20
    descriptor.amount)
  return record

def claim (engine : Engine) (request : ClaimRequest) : Transaction Receipt := do
  let addresses ← Ledger.findAddresses request.mint engine.program
  let record ← (← get).recordAt addresses.record
  engine.authorize record request
  let pricing ← record.pricing
  let cost ← pricing.cost record.supply request.amount
  let settlement ← Engine.settle (← get) record request.claimant request.amount cost
  let counted ← Engine.count record request.amount cost
  let recordData ← counted.toAccount
  let (marker, bump) ← Ledger.findMarker addresses.record request.address engine.program
  let markerData ← ClaimMarker.toAccount
    ⟨true, bump, request.address, request.claimant, request.amount, cost⟩
  if (← get).accounts.contains marker then throw .alreadyClaimed
  putAccount marker markerData
  putLamports request.claimant settlement.claimantLamports
  putLamports record.payVault settlement.payVaultLamports
  putTokens record.mint record.vault settlement.vaultTokens
  putTokens record.mint request.claimant settlement.claimantTokens
  putAccount addresses.record recordData
  emit (.claimed record.mint request.claimant request.address request.amount cost counted.supply)
  return {
    mint := record.mint
    claimant := request.claimant
    address := request.address
    marker := marker
    amount := request.amount
    cost := cost
    totalClaimed := counted.totalClaimed
    reserve := counted.reserve
    supply := counted.supply }

/-- The account is opened before it is known whether its balance can take the amount. -/
def deposit (owner : Pubkey) (amount : UInt64) : Transaction UInt64 := do
  openLamports owner
  let balance ← orOverflow (Word64.add? ((← get).lamportsOf owner) amount)
  putLamports owner balance
  return balance

def perform (engine : Engine) : Operation → Transaction Response
  | .create request => return .created (← create engine request)
  | .claim request => return .claimed (← claim engine request)
  | .deposit owner amount => return .deposited (← deposit owner amount)

def outcome {α : Type} (ledger : Ledger) : Result (α × Ledger) → Result α × Ledger
  | .ok (value, next) => (.ok value, next)
  | .error refusal => (.error refusal, ledger)

/-- In place the work comes to what the attempt comes to. -/
def Commits {α : Type} (work : Transaction α) (ledger : Ledger)
    (attempt : Result (α × Ledger)) : Prop := work.execute ledger = outcome ledger attempt

namespace Commits

variable {α β : Type} {ledger : Ledger}

theorem throw (refusal : Refusal) :
    Commits (throw refusal : Transaction α) ledger (.error refusal) := rfl

theorem check {step : Result α} {work : α → Transaction β} {attempt : α → Result (β × Ledger)}
    (rest : ∀ value, step = .ok value → Commits (work value) ledger (attempt value)) :
    Commits (liftM step >>= work) ledger (step >>= attempt) := by
  cases step with
  | error refusal => exact Eq.refl _
  | ok value => exact rest value rfl

theorem read {work : Ledger → Transaction α} {attempt : Result (α × Ledger)}
    (rest : Commits (work ledger) ledger attempt) : Commits (get >>= work) ledger attempt := rest

theorem guard {condition : Prop} [Decidable condition] {refusal : Refusal}
    {work : Unit → Transaction α} {attempt : Unit → Result (α × Ledger)}
    (rest : Commits (work ()) ledger (attempt ())) :
    Commits (if condition then throwThe Refusal refusal >>= work else work ()) ledger
      (if condition then throwThe Refusal refusal >>= attempt else attempt ()) := by
  by_cases met : condition
  · rw [if_pos met, if_pos met]
    exact Eq.refl _
  · rw [if_neg met, if_neg met]
    exact rest

theorem answer {work : Transaction α} {attempt : Result (α × Ledger)} (respond : α → β)
    (commits : Commits work ledger attempt) :
    Commits (do return respond (← work)) ledger
      (do let (value, next) ← attempt; return (respond value, next)) := by
  have answered : execute (do return respond (← work)) ledger =
      ((work.execute ledger).1.map respond, (work.execute ledger).2) := by
    unfold execute
    rw [ExceptT.run_bind, StateT.run_bind]
    generalize StateT.run (ExceptT.run work) ledger = done
    obtain ⟨answer, reached⟩ := done
    cases answer <;> rfl
  unfold Commits
  rw [answered, commits]
  cases attempt <;> rfl

end Commits

theorem create_commits (engine : Engine) (request : CreateRequest) (ledger : Ledger) :
    Commits (create engine request) ledger (engine.create request ledger) := by
  refine .check fun descriptor _ => .check fun _ _ => ?_
  unfold Engine.chooseIdentifier
  cases request.identifier
  -- The rest is the same for an identifier that is asked for and one that is folded.
  all_goals
    refine .check fun identifier _ => ?_
    dsimp only
    cases VampAddresses.derive? request.authority identifier engine.program with
    | none => exact .throw .noAddress
    | some addresses =>
      simp only [pure_bind]
      refine .read <| .guard <| .check fun _ _ => .check fun _ _ => ?_
      rfl

theorem claim_commits (engine : Engine) (request : ClaimRequest) (ledger : Ledger) :
    Commits (claim engine request) ledger (engine.claim request ledger) := by
  refine .check fun addresses _ => .read <| .check fun record _ => .check fun _ _ =>
    .check fun pricing _ => .check fun cost _ => .read <| .check fun settlement _ =>
    .check fun counted _ => .check fun recordData _ => .check fun (marker, bump) _ =>
    .check fun markerData _ => .read <| .guard ?_
  rfl

theorem deposit_commits (owner : Pubkey) (amount : UInt64) (ledger : Ledger) :
    Commits (deposit owner amount) ledger (ledger.deposit owner amount) := by
  let opened : Ledger := { ledger with lamports := ledger.lamports.insertIfNew owner 0 }
  have held : opened.lamportsOf owner = ledger.lamportsOf owner :=
    ledger.lamports.getD_find?_insertIfNew owner owner 0
  have onceOpened : (deposit owner amount).execute ledger =
      execute (do
        let balance ← orOverflow (Word64.add? (opened.lamportsOf owner) amount)
        putLamports owner balance
        return balance) opened := rfl
  unfold Commits Ledger.deposit
  rw [onceOpened, held]
  cases added : Word64.add? (ledger.lamportsOf owner) amount with
  | some balance =>
    have written := congrArg (fun lamports => { ledger with lamports })
      (ledger.lamports.insert_insertIfNew owner 0 balance)
    exact congrArg (Prod.mk (Except.ok balance)) written
  | none =>
    have untouched := congrArg (fun lamports => { ledger with lamports })
      (Ledger.insertIfNew_of_full added)
    exact congrArg (Prod.mk (Except.error Refusal.overflow)) untouched

theorem perform_commits (engine : Engine) (ledger : Ledger) (operation : Operation) :
    Commits (perform engine operation) ledger (engine.perform ledger operation) := by
  cases operation with
  | create request => exact (create_commits engine request ledger).answer Response.created
  | claim request => exact (claim_commits engine request ledger).answer Response.claimed
  | deposit owner amount => exact (deposit_commits owner amount ledger).answer Response.deposited

theorem execute_perform (engine : Engine) (ledger : Ledger) (operation : Operation) :
    (perform engine operation).execute ledger = engine.step ledger operation := by
  rw [perform_commits, Engine.step]
  cases engine.perform ledger operation <;> rfl

end Transaction

namespace Engine

variable {engine : Engine} {ledger : Ledger}

theorem eq_of_step_error {operation : Operation} {refusal : Refusal} {next : Ledger}
    (refused : engine.step ledger operation = (.error refusal, next)) : next = ledger := by
  unfold step at refused
  split at refused
  · cases refused
  · cases refused
    rfl

theorem step_claim_of_error {request : ClaimRequest} {refusal : Refusal}
    (refused : engine.claim request ledger = .error refusal) :
    engine.step ledger (.claim request) = (.error refusal, ledger) := by
  simp only [step, Engine.perform, refused, error_bind]

def accepted (engine : Engine) (operations : List Operation) (ledger : Ledger) : List Operation :=
  ((operations.zip (engine.run operations ledger).1).filter (·.2.isOk)).map Prod.fst

theorem run_accepted (operations : List Operation) (ledger : Ledger) :
    engine.run (engine.accepted operations ledger) ledger =
      ((engine.run operations ledger).1.filter (·.isOk), (engine.run operations ledger).2) := by
  induction operations generalizing ledger with
  | nil => rfl
  | cons operation rest ih =>
    have whole := engine.run_cons operation rest ledger
    rcases done : engine.step ledger operation with ⟨answer, next⟩
    rw [done] at whole
    cases answer with
    | error refusal =>
      obtain rfl := eq_of_step_error done
      have dropped : engine.accepted (operation :: rest) next = engine.accepted rest next := by
        rw [accepted, whole]
        rfl
      rw [dropped, ih, whole]
      rfl
    | ok response =>
      have kept : engine.accepted (operation :: rest) ledger =
          operation :: engine.accepted rest next := by
        rw [accepted, whole]
        rfl
      rw [kept, run_cons, done, ih, whole]
      rfl

/-- In place an operation does what a step does. One that is refused, at whichever of its checks,
leaves the ledger as it was, and a run without its refused operations answers the others the same
and ends in the same ledger. -/
theorem refused_leaves_no_trace (engine : Engine) (ledger : Ledger) :
    (∀ operation, (Transaction.perform engine operation).execute ledger =
        engine.step ledger operation) ∧
      (∀ operation refusal next,
        (Transaction.perform engine operation).execute ledger = (.error refusal, next) →
          next = ledger) ∧
      ∀ operations, engine.run (engine.accepted operations ledger) ledger =
        ((engine.run operations ledger).1.filter (·.isOk), (engine.run operations ledger).2) := by
  refine ⟨Transaction.execute_perform engine ledger, ?_, fun operations =>
    run_accepted operations ledger⟩
  intro operation refusal next refused
  rw [Transaction.execute_perform] at refused
  exact eq_of_step_error refused

end Engine

namespace Market

theorem claim_again_refused :
    engine.claim (claimOf first.mint first.vault) claimedByVault.next =
      .error (.insufficientFunds 5 0) := by
  have found : Ledger.findAddresses (claimOf first.mint first.vault).mint engine.program =
      .ok first := claimedByVault.found
  have stored : claimedByVault.next.recordAt first.record = .ok claimedByVault.counted :=
    claimedByVault.counted_stored
  simp only [Engine.claim, found, stored, ok_bind]
  rfl

end Market

/-- A claim that its claimant cannot pay for leaves the ledger as it finds it. -/
theorem unpaid_claim_leaves_no_trace :
    ∃ next,
      (Transaction.perform Market.engine
          (.claim (Market.claimOf Market.first.mint Market.first.vault))).execute
          Market.claimedByVault.next = (.error (.insufficientFunds 5 0), next) ∧
        next = Market.claimedByVault.next := by
  obtain ⟨stepped, untouched, -⟩ :=
    Engine.refused_leaves_no_trace Market.engine Market.claimedByVault.next
  have answer := (stepped (.claim _)).trans (Engine.step_claim_of_error Market.claim_again_refused)
  exact ⟨_, answer, untouched _ _ _ answer⟩

end TokenClaim
