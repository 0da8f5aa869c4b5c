import TokenClaim.Failure
import TokenClaim.Json.Parser
import TokenClaim.Report.Ledger
/-!
Trying out a vamp: it is created on an empty ledger, and published claims are made on it one after
the other.
-/

set_option autoImplicit false

namespace TokenClaim

def Failure.ofRefusal (refusal : Refusal) : Failure := .of refusal.message

structure ClaimEntry where
  address : String
  claimant : Pubkey
  /-- Lamports credited to the claimant before the claim. -/
  deposit : UInt64
  amount : String
  signatures : PerRole (Option String)
  proof : Option AllocationProof
  deriving DecidableEq

namespace ClaimEntry

open Json

def pubkey? (literal : Literal) : Option Pubkey := do (Pubkey.parse (← literal.text?)).toOption

def digest? (literal : Literal) : Option Digest := do
  Octets.ofBytes? 32 (← literal.list? fun item => (item.below? 256).map UInt8.ofNat)

def proof? (literal : Literal) : Option AllocationProof := do
  match ← literal.fields? ["allocation", "index", "siblings"] with
  | [some amount, some index, some siblings] =>
    return ⟨← amount.word64?, ← index.below? UInt64.size, ← siblings.list? digest?⟩
  | _ => none

def ofLiteral? (literal : Literal) : Option ClaimEntry := do
  match ← literal.fields?
      ["eth_address", "claimant", "deposit", "b", "ss", "vs", "os", "proof"] with
  | [some address, some claimant, deposit, some amount, solver, validator, owner, proof] =>
    let text (field : Option Literal) : Option (Option String) :=
      field.elim (some none) (Literal.nullable? Literal.text?)
    return {
      address := ← address.text?
      claimant := ← pubkey? claimant
      deposit := ← deposit.elim (some 0) Literal.word64?
      amount := ← amount.text?
      signatures := ⟨← text solver, ← text validator, ← text owner⟩
      proof := ← proof.elim (some none) (Literal.nullable? proof?) }
  | _ => none

def parse? (text : String) : Option (List ClaimEntry) := do
  let literal ← Json.parse? text
  literal.list? ofLiteral?

/-- A signature in hexadecimal digits with one `0x` in front; without digits there is none. -/
def signature : Option String → Except Text.Hex.Fault Bytes
  | none => .ok []
  | some text => Text.Hex.decode (String.ofList (Text.Hex.dropMark text.toList))

def request (entry : ClaimEntry) (mint : Pubkey) : Except Failure ClaimRequest := do
  let amount ← (Text.Numeral.readWord64 10 entry.amount.toList).mapError fun fault =>
    ⟨s!"Invalid balance {Text.quote entry.amount}", [fault.message]⟩
  let address ← (EthAddress.parse entry.address).mapError Failure.ofRefusal
  let signatureOf (role : Role) : Except Failure Bytes :=
    (signature (entry.signatures.of role)).mapError fun fault =>
      ⟨s!"Invalid {role.name} signature", [fault.message]⟩
  return {
    mint := mint
    claimant := entry.claimant
    address := address
    amount := amount
    attestation :=
      ⟨← signatureOf .solver, ← signatureOf .validator, ← signatureOf .owner⟩
    proof := entry.proof }

end ClaimEntry

inductive ClaimOutcome where
  | claimed (receipt : Receipt)
  | rejected (address : String) (refusal : Refusal)
  deriving DecidableEq

structure SimulationReport where
  mint : Pubkey
  claims : List ClaimOutcome
  events : List Event

namespace Simulation

/-- Make one claim. A refused claim is an outcome; an entry that asks for none is a failure. -/
def replay (engine : Engine) (mint : Pubkey) (entry : ClaimEntry) (ledger : Ledger) :
    Except Failure (ClaimOutcome × Ledger) := do
  let request ← entry.request mint
  let ledger ← if entry.deposit = 0 then pure ledger else
    match ledger.deposit entry.claimant entry.deposit with
    | .ok (_, ledger) => pure ledger
    | .error refusal => throw (Failure.ofRefusal refusal)
  match engine.claim request ledger with
  | .ok (receipt, ledger) => return (.claimed receipt, ledger)
  | .error refusal => return (.rejected entry.address refusal, ledger)

def replayAll (engine : Engine) (mint : Pubkey) :
    List ClaimEntry → Ledger → Except Failure (List ClaimOutcome × Ledger)
  | [], ledger => .ok ([], ledger)
  | entry :: rest, ledger => do
    let (outcome, ledger) ← replay engine mint entry ledger
    let (outcomes, ledger) ← replayAll engine mint rest ledger
    return (outcome :: outcomes, ledger)

def run (engine : Engine) (request : CreateRequest) (entries : List ClaimEntry) :
    Except Failure SimulationReport := do
  let (record, ledger) ← (engine.create request Ledger.empty).mapError fun refusal =>
    (Failure.ofRefusal refusal).within "Failed to initialize vamp"
  let (outcomes, ledger) ← replayAll engine record.mint entries ledger
  return ⟨record.mint, outcomes, ledger.events⟩

end Simulation

def ClaimOutcome.toJson : ClaimOutcome → Json
  | claimed receipt => .object (("status", .string "claimed") :: receipt.members)
  | rejected address refusal => .object [
    ("status", .string "rejected"),
    ("eth_address", .string address),
    ("error", .string refusal.message)]

def SimulationReport.toJson (report : SimulationReport) : Json := .object [
  ("mint", .string report.mint.toText),
  ("claims", .array (report.claims.map ClaimOutcome.toJson)),
  ("events", .array (report.events.map Event.toJson))]

end TokenClaim
