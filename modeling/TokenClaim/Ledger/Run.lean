import TokenClaim.Ledger.Engine
/-!
Runs: operations on a ledger, one after the other. A refused operation does not end a run.
-/

set_option autoImplicit false

namespace TokenClaim

inductive Operation where
  | create (request : CreateRequest)
  | claim (request : ClaimRequest)
  | deposit (owner : Pubkey) (amount : UInt64)

inductive Response where
  | created (record : VampRecord)
  | claimed (receipt : Receipt)
  | deposited (balance : UInt64)
  deriving DecidableEq

namespace Engine

def perform (engine : Engine) (ledger : Ledger) : Operation → Result (Response × Ledger)
  | .create request => do
    let (record, ledger) ← engine.create request ledger
    return (.created record, ledger)
  | .claim request => do
    let (receipt, ledger) ← engine.claim request ledger
    return (.claimed receipt, ledger)
  | .deposit owner amount => do
    let (balance, ledger) ← ledger.deposit owner amount
    return (.deposited balance, ledger)

/-- The answer to an operation, and the ledger that the next one finds. -/
def step (engine : Engine) (ledger : Ledger) (operation : Operation) : Result Response × Ledger :=
  match engine.perform ledger operation with
  | .ok (response, next) => (.ok response, next)
  | .error refusal => (.error refusal, ledger)

def run (engine : Engine) : List Operation → Ledger → List (Result Response) × Ledger
  | [], ledger => ([], ledger)
  | operation :: rest, ledger =>
    let (answer, next) := engine.step ledger operation
    let (answers, last) := engine.run rest next
    (answer :: answers, last)

end Engine

end TokenClaim
