import TokenClaim.Attestation.Signer
import TokenClaim.CommandLine.Command
import TokenClaim.CommandLine.Files
import TokenClaim.Config.Document
import TokenClaim.FileContent
import TokenClaim.Report.Descriptor
import TokenClaim.Report.Simulation
/-!
Carrying out commands: what they show, or why they fail.
-/

set_option autoImplicit false

namespace TokenClaim.CommandLine

inductive Outcome where
  | output (text : String)
  | failure (failure : Failure)
  /-- The command line is not in order. -/
  | misuse
  deriving DecidableEq

def orFail {α : Type} (result : Result α) : Except Failure α :=
  result.mapError Failure.ofRefusal

def loadConfig (files : Files) : Option String → Except Failure Config
  | none => .ok .standard
  | some path => do
    let text ← files.readText "config file " path
    (Config.parse text).mapError (·.failure path)

def loadBytes (files : Files) (path : String) : Except Failure Bytes := do
  let content ← files.read "" path
  (FileContent.bytes content).mapError fun fault => ⟨s!"Invalid hex in {path}", [fault.message]⟩

def loadEntries (files : Files) (path : String) : Except Failure (List ClaimEntry) := do
  match ClaimEntry.parse? (← files.readText "" path) with
  | some entries => return entries
  | none => throw (.of s!"Invalid claim entries in {path}")

def BalanceArguments.parts (balance : BalanceArguments) : Except Failure (EthAddress × Bytes) := do
  let address ← orFail (EthAddress.parse balance.address)
  let digits := Text.Hex.dropMarks balance.intent.toList
  let intent ← (Text.Hex.decode (String.ofList digits)).mapError fun fault =>
    ⟨"Invalid intent id", [fault.message]⟩
  return (address, intent)

namespace Command

def showDigest (balance : BalanceArguments) : Except Failure Json := do
  let (address, intent) ← balance.parts
  let digest := Balance.digest address balance.amount intent
  let wrapped := Balance.personalHash digest
  let message := Balance.message address balance.amount intent
  return .object [
    ("digest", .string (Text.Hex.encodeMarked digest.toBytes)),
    ("eth_signed_message_hash", .string (Text.Hex.encodeMarked wrapped.toBytes)),
    ("message", .string (Text.Hex.encode message))]

def showSignature (balance : BalanceArguments) (privateKey : String) : Except Failure Json := do
  let (address, intent) ← balance.parts
  let signer ← (Signer.parse privateKey).mapError fun fault => .of fault.message
  let signature := signer.attest address balance.amount intent
  return .object [
    ("signature", .string (Text.Hex.encodeMarked signature.toBytes)),
    ("signer", .string signer.address.toText)]

def showQuote (supply amount : UInt64) (terms : Terms) : Except Failure Json := do
  orFail terms.validate
  let quote ← orFail (Quote.of terms.pricing supply amount)
  return quote.toJson

def showConversion (text : String) : Except Failure Json := do
  let units ← (SourceAmount.parse text).mapError fun fault =>
    .of s!"Invalid source amount {Text.quote text}: {fault.message}"
  let (amount, decimals) ← orFail (SourceAmount.normalize units)
  return .object [("amount", .word amount), ("decimals", .number decimals.toNat)]

def showDescriptor (policy : AuthorizationPolicy) (data : Bytes) : Except Failure Json := do
  let descriptor ← orFail (Descriptor.read policy data)
  return descriptor.toJson

def showAccount (path : String) (data : Bytes) : Except Failure Json := do
  let report ← (AccountReport.ofAccount data).mapError fun refusal =>
    .of s!"{path}: {refusal.message}"
  return report.toJson

def run (files : Files) (config : Config) : Command → Except Failure Json
  | digest balance => showDigest balance
  | sign balance privateKey => showSignature balance privateKey
  | quote supply amount terms => showQuote supply amount (terms.apply config.terms)
  | convert amount => showConversion amount
  | descriptor file => do showDescriptor config.policy (← loadBytes files file)
  | inspect file => do showAccount file (← loadBytes files file)
  | simulate file claims authority identifier terms => do
    let data ← loadBytes files file
    let entries ← loadEntries files claims
    let request : CreateRequest := {
      authority := authority
      identifier := identifier
      descriptor := data
      terms := if terms = .none then none else some (terms.apply config.terms) }
    let report ← Simulation.run config.engine request entries
    return report.toJson

end Command

/-- What an invocation shows. The configuration is loaded first. -/
def Invocation.run (files : Files) (invocation : Invocation) : Except Failure Json := do
  let config ← loadConfig files invocation.config
  invocation.command.run files config

def run (environment : String → Option String) (files : Files) (words : List String) : Outcome :=
  match Invocation.parse? environment words with
  | none => .misuse
  | some invocation =>
    match invocation.run files with
    | .ok shown => .output (shown.pretty 0 ++ "\n")
    | .error failure => .failure failure

end TokenClaim.CommandLine
