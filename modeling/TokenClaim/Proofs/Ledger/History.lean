import Mathlib.Algebra.Ring.Nat
import TokenClaim.Proofs.Ledger.Steps
/-!
Histories: the operations of a run with their answers. A history and the ledger at its end are
reached together, one operation after the other, which is what laws about runs are proved along.
-/

set_option autoImplicit false

namespace TokenClaim

abbrev History := List (Operation × Result Response)

def History.add (history : History) (operation : Operation) (answer : Result Response) : History :=
  history ++ [(operation, answer)]

structure SettledClaim where
  request : ClaimRequest
  receipt : Receipt

def totalOf (number : Receipt → UInt64) (claims : List SettledClaim) : Nat :=
  (claims.map fun claim => (number claim.receipt).toNat).sum

section
variable (number : Receipt → UInt64)

theorem totalOf_append (first second : List SettledClaim) :
    totalOf number (first ++ second) = totalOf number first + totalOf number second := by
  rw [totalOf, List.map_append, List.sum_append, ← totalOf, ← totalOf]

theorem totalOf_cons (claim : SettledClaim) (rest : List SettledClaim) :
    totalOf number (claim :: rest) = (number claim.receipt).toNat + totalOf number rest := by
  rw [totalOf, List.map_cons, List.sum_cons, ← totalOf]

theorem totalOf_singleton (claim : SettledClaim) :
    totalOf number [claim] = (number claim.receipt).toNat := by
  rw [totalOf_cons]
  rfl

theorem totalOf_filter_singleton (keep : SettledClaim → Bool) (claim : SettledClaim) :
    totalOf number ([claim].filter keep) =
      if keep claim then (number claim.receipt).toNat else 0 := by
  cases kept : keep claim with
  | false =>
    rw [List.filter_cons_of_neg (by simp [kept])]
    rfl
  | true =>
    rw [List.filter_cons_of_pos kept, List.filter_nil, totalOf_singleton]
    rfl

theorem totalOf_filter_add (keep : SettledClaim → Bool) (claims : List SettledClaim) :
    totalOf number (claims.filter keep) +
        totalOf number (claims.filter fun claim => !keep claim) =
      totalOf number claims := by
  induction claims with
  | nil => rfl
  | cons claim rest ih =>
    cases kept : keep claim with
    | true =>
      rw [List.filter_cons_of_pos kept, List.filter_cons_of_neg (by simp [kept]), totalOf_cons,
        totalOf_cons]
      omega
    | false =>
      rw [List.filter_cons_of_neg (by simp [kept]), List.filter_cons_of_pos (by simp [kept]),
        totalOf_cons, totalOf_cons]
      omega

theorem totalOf_filter_eq_zero_iff (keep : SettledClaim → Bool) (claims : List SettledClaim) :
    totalOf number (claims.filter keep) = 0 ↔
      ∀ claim ∈ claims, keep claim = true → number claim.receipt = 0 := by
  rw [totalOf, List.sum_eq_zero_iff_forall_eq_nat]
  constructor
  · intro nothing claim member kept
    have listed := List.mem_filter.mpr ⟨member, kept⟩
    exact UInt64.toNat_inj.mp (nothing _ (List.mem_map.mpr ⟨claim, listed, rfl⟩))
  · intro free weight listed
    obtain ⟨claim, member, rfl⟩ := List.mem_map.mp listed
    have selected := List.mem_filter.mp member
    rw [free claim selected.1 selected.2]
    rfl

end

namespace History

def claim? : Operation × Result Response → Option SettledClaim
  | (.claim request, .ok (.claimed receipt)) => some ⟨request, receipt⟩
  | _ => none

def claims (history : History) : List SettledClaim := history.filterMap claim?

def deposit? : Operation × Result Response → Option (Pubkey × UInt64)
  | (.deposit owner amount, .ok _) => some (owner, amount)
  | _ => none

def deposits (history : History) : List (Pubkey × UInt64) := history.filterMap deposit?

def claimsOn (history : History) (mint : Pubkey) : List SettledClaim :=
  history.claims.filter (·.receipt.mint = mint)

def claimsBy (history : History) (mint : Pubkey) (source : EthAddress) : List SettledClaim :=
  (history.claimsOn mint).filter (·.receipt.address = source)

section
variable (history : History)

@[simp] theorem claims_refused (operation : Operation) (refusal : Refusal) :
    (history.add operation (.error refusal)).claims = history.claims := by
  simp [claims, add, claim?]

@[simp] theorem claims_created (request : CreateRequest) (record : VampRecord) :
    (history.add (.create request) (.ok (.created record))).claims = history.claims := by
  simp [claims, add, claim?]

@[simp] theorem claims_claimed (request : ClaimRequest) (receipt : Receipt) :
    (history.add (.claim request) (.ok (.claimed receipt))).claims =
      history.claims ++ [⟨request, receipt⟩] := by
  simp [claims, add, claim?]

@[simp] theorem claims_deposited (owner : Pubkey) (amount balance : UInt64) :
    (history.add (.deposit owner amount) (.ok (.deposited balance))).claims = history.claims := by
  simp [claims, add, claim?]

@[simp] theorem deposits_refused (operation : Operation) (refusal : Refusal) :
    (history.add operation (.error refusal)).deposits = history.deposits := by
  simp [deposits, add, deposit?]

@[simp] theorem deposits_created (request : CreateRequest) (record : VampRecord) :
    (history.add (.create request) (.ok (.created record))).deposits = history.deposits := by
  simp [deposits, add, deposit?]

@[simp] theorem deposits_claimed (request : ClaimRequest) (receipt : Receipt) :
    (history.add (.claim request) (.ok (.claimed receipt))).deposits = history.deposits := by
  simp [deposits, add, deposit?]

@[simp] theorem deposits_deposited (owner : Pubkey) (amount balance : UInt64) :
    (history.add (.deposit owner amount) (.ok (.deposited balance))).deposits =
      history.deposits ++ [(owner, amount)] := by
  simp [deposits, add, deposit?]

variable (mint : Pubkey)

@[simp] theorem claimsOn_refused (operation : Operation) (refusal : Refusal) :
    (history.add operation (.error refusal)).claimsOn mint = history.claimsOn mint := by
  rw [claimsOn, claims_refused, claimsOn]

@[simp] theorem claimsOn_created (request : CreateRequest) (record : VampRecord) :
    (history.add (.create request) (.ok (.created record))).claimsOn mint =
      history.claimsOn mint := by
  rw [claimsOn, claims_created, claimsOn]

theorem claimsOn_claimed (request : ClaimRequest) (receipt : Receipt) :
    (history.add (.claim request) (.ok (.claimed receipt))).claimsOn mint =
      history.claimsOn mint ++ if receipt.mint = mint then [⟨request, receipt⟩] else [] := by
  by_cases same : receipt.mint = mint <;> simp [claimsOn, same]

@[simp] theorem claimsOn_deposited (owner : Pubkey) (amount balance : UInt64) :
    (history.add (.deposit owner amount) (.ok (.deposited balance))).claimsOn mint =
      history.claimsOn mint := by
  rw [claimsOn, claims_deposited, claimsOn]

end

end History

namespace Engine

def credited (ledger : Ledger) (owner : Pubkey) (balance : UInt64) : Ledger :=
  { ledger with lamports := ledger.lamports.insert owner balance }

/-- The history of a run, and the ledger after it. -/
inductive Reaches (engine : Engine) : History → Ledger → Prop where
  | start : Reaches engine [] .empty
  | refused {history : History} {ledger : Ledger} {operation : Operation} {refusal : Refusal} :
      Reaches engine history ledger → engine.perform ledger operation = .error refusal →
      Reaches engine (history.add operation (.error refusal)) ledger
  | created {history : History} {ledger : Ledger} {request : CreateRequest} :
      Reaches engine history ledger → (steps : CreateSteps engine request ledger) →
      Reaches engine (history.add (.create request) (.ok (.created steps.record))) steps.next
  | claimed {history : History} {ledger : Ledger} {request : ClaimRequest} :
      Reaches engine history ledger → (steps : ClaimSteps engine request ledger) →
      Reaches engine (history.add (.claim request) (.ok (.claimed steps.receipt))) steps.next
  | deposited {history : History} {ledger : Ledger} {owner : Pubkey} {amount balance : UInt64} :
      Reaches engine history ledger →
      balance.toNat = (ledger.lamportsOf owner).toNat + amount.toNat →
      Reaches engine (history.add (.deposit owner amount) (.ok (.deposited balance)))
        (credited ledger owner balance)

inductive Performs (engine : Engine) (ledger : Ledger) :
    Operation → Response → Ledger → Prop where
  | created {request : CreateRequest} (steps : CreateSteps engine request ledger) :
      Performs engine ledger (.create request) (.created steps.record) steps.next
  | claimed {request : ClaimRequest} (steps : ClaimSteps engine request ledger) :
      Performs engine ledger (.claim request) (.claimed steps.receipt) steps.next
  | deposited {owner : Pubkey} {amount balance : UInt64} :
      balance.toNat = (ledger.lamportsOf owner).toNat + amount.toNat →
      Performs engine ledger (.deposit owner amount) (.deposited balance)
        (credited ledger owner balance)

section
variable {engine : Engine} {history : History} {ledger : Ledger}

theorem performs_of_eq_ok {operation : Operation} {response : Response} {next : Ledger}
    (done : engine.perform ledger operation = .ok (response, next)) :
    Performs engine ledger operation response next := by
  cases operation with
  | create request =>
    obtain ⟨⟨record, other⟩, created, same⟩ := bind_eq_ok_iff.mp done
    cases same
    obtain ⟨steps, rfl, rfl⟩ := create_eq_ok_iff.mp created
    exact .created steps
  | claim request =>
    obtain ⟨⟨receipt, other⟩, claimed, same⟩ := bind_eq_ok_iff.mp done
    cases same
    obtain ⟨steps, rfl, rfl⟩ := claim_eq_ok_iff.mp claimed
    exact .claimed steps
  | deposit owner amount =>
    obtain ⟨⟨balance, other⟩, deposited, same⟩ := bind_eq_ok_iff.mp done
    cases same
    unfold Ledger.deposit at deposited
    split at deposited
    · cases deposited
    · rename_i fits
      cases deposited
      exact .deposited (Word64.add?_eq_some_iff.mp fits)

theorem Reaches.perform {operation : Operation} {response : Response} {next : Ledger}
    (reached : engine.Reaches history ledger)
    (done : engine.perform ledger operation = .ok (response, next)) :
    engine.Reaches (history.add operation (.ok response)) next := by
  cases performs_of_eq_ok done with
  | created steps => exact .created reached steps
  | claimed steps => exact .claimed reached steps
  | deposited fits => exact .deposited reached fits

theorem Reaches.step (reached : engine.Reaches history ledger) (operation : Operation) :
    engine.Reaches (history.add operation (engine.step ledger operation).1)
      (engine.step ledger operation).2 := by
  unfold Engine.step
  split
  · rename_i done
    exact reached.perform done
  · rename_i fault
    exact .refused reached fault

theorem Reaches.run (reached : engine.Reaches history ledger) (operations : List Operation) :
    engine.Reaches (history ++ operations.zip (engine.run operations ledger).1)
      (engine.run operations ledger).2 := by
  induction operations generalizing history ledger with
  | nil => simpa [Engine.run] using reached
  | cons operation rest ih =>
    have whole := ih (reached.step operation)
    rw [History.add, List.append_assoc] at whole
    exact whole

end

def history (engine : Engine) (operations : List Operation) : History :=
  operations.zip (engine.run operations .empty).1

def after (engine : Engine) (operations : List Operation) : Ledger :=
  (engine.run operations .empty).2

theorem reaches (engine : Engine) (operations : List Operation) :
    engine.Reaches (engine.history operations) (engine.after operations) :=
  Reaches.start.run operations

section
variable {engine : Engine} {ledger : Ledger}

theorem length_run (engine : Engine) (operations : List Operation) (ledger : Ledger) :
    (engine.run operations ledger).1.length = operations.length := by
  induction operations generalizing ledger with
  | nil => rfl
  | cons operation rest ih => exact congrArg (· + 1) (ih (engine.step ledger operation).2)

theorem run_cons (operation : Operation) (rest : List Operation) (ledger : Ledger) :
    engine.run (operation :: rest) ledger =
      ((engine.step ledger operation).1 :: (engine.run rest (engine.step ledger operation).2).1,
        (engine.run rest (engine.step ledger operation).2).2) := rfl

theorem run_append_singleton (operations : List Operation) (operation : Operation)
    (ledger : Ledger) :
    engine.run (operations ++ [operation]) ledger =
      ((engine.run operations ledger).1 ++
          [(engine.step (engine.run operations ledger).2 operation).1],
        (engine.step (engine.run operations ledger).2 operation).2) := by
  induction operations generalizing ledger with
  | nil => rfl
  | cons first rest ih =>
    rw [List.cons_append, run_cons, run_cons, ih]
    rfl

theorem exists_run_snoc {operations : List Operation} {operation : Operation}
    {answer : Result Response} {next : Ledger}
    (last : engine.step (engine.after operations) operation = (answer, next)) :
    ∃ longer, engine.history longer = (engine.history operations).add operation answer ∧
      engine.after longer = next := by
  refine ⟨operations ++ [operation], ?_, ?_⟩
  · have lengths := (engine.length_run operations .empty).symm
    rw [History.add, history, run_append_singleton, List.zip_append lengths, ← history, ← after,
      last]
    rfl
  · rw [after, run_append_singleton, ← after, last]

theorem CreateSteps.step_eq {request : CreateRequest} (steps : CreateSteps engine request ledger) :
    engine.step ledger (.create request) = (.ok (.created steps.record), steps.next) := by
  have done := create_eq_ok_iff.mpr ⟨steps, rfl, rfl⟩
  simp only [step, Engine.perform, done, ok_bind]
  rfl

theorem ClaimSteps.step_eq {request : ClaimRequest} (steps : ClaimSteps engine request ledger) :
    engine.step ledger (.claim request) = (.ok (.claimed steps.receipt), steps.next) := by
  have done := claim_eq_ok_iff.mpr ⟨steps, rfl, rfl⟩
  simp only [step, Engine.perform, done, ok_bind]
  rfl

theorem step_deposit {owner : Pubkey} {amount balance : UInt64}
    (fits : balance.toNat = (ledger.lamportsOf owner).toNat + amount.toNat) :
    engine.step ledger (.deposit owner amount) =
      (.ok (.deposited balance), credited ledger owner balance) := by
  have added := Word64.add?_eq_some_iff.mpr fits
  simp only [step, Engine.perform, Ledger.deposit, added, ok_bind]
  rfl

/-- Whatever can be reached is reached by a run. -/
theorem Reaches.exists_run {history : History} (reached : engine.Reaches history ledger) :
    ∃ operations, engine.history operations = history ∧ engine.after operations = ledger := by
  induction reached with
  | start => exact ⟨[], rfl, rfl⟩
  | refused _ fault ih =>
    obtain ⟨operations, rfl, rfl⟩ := ih
    refine exists_run_snoc ?_
    rw [Engine.step, fault]
  | created _ steps ih =>
    obtain ⟨operations, rfl, rfl⟩ := ih
    exact exists_run_snoc steps.step_eq
  | claimed _ steps ih =>
    obtain ⟨operations, rfl, rfl⟩ := ih
    exact exists_run_snoc steps.step_eq
  | deposited _ fits ih =>
    obtain ⟨operations, rfl, rfl⟩ := ih
    exact exists_run_snoc (step_deposit fits)

end

end Engine

end TokenClaim
