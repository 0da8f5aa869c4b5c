import TokenClaim.Json.Basic
import TokenClaim.Record.Claim
import TokenClaim.Record.Header
/-!
What an account holds, as it is shown. Of a vamp's record the beginning is shown, and more if the
rest can be read.
-/

set_option autoImplicit false

namespace TokenClaim

def Terms.toJson (terms : Terms) : Json := .object [
  ("paid_claiming_enabled", .bool terms.paid),
  ("use_bonding_curve", .bool terms.onCurve),
  ("curve_slope", .word terms.slope),
  ("base_price", .word terms.base),
  ("max_price", .ofOption .word terms.ceiling),
  ("flat_price_per_token", .word terms.flatPrice),
  ("curve_exponent", .number terms.exponent.toNat)]

def Authorization.describe : Authorization → String
  | .table entries => s!"inline ({entries.length} entries)"
  | .root kept => s!"merkle (root {Text.Hex.encodeMarked kept.toBytes})"

structure VampDetails where
  authority : Pubkey
  vault : Pubkey
  minted : UInt64
  name : String
  symbol : String
  decimals : UInt8
  authorization : String
  terms : Terms
  deriving DecidableEq

/-- The low 32 bits of the exponent are shown. -/
def VampDetails.ofRecord (r : VampRecord) : VampDetails where
  authority := r.authority
  vault := r.vault
  minted := r.minted
  name := r.metadata.name
  symbol := r.metadata.symbol
  decimals := r.metadata.decimals
  authorization := r.authorization.describe
  terms := {
    paid := r.paid
    onCurve := r.onCurve
    slope := r.slope
    base := r.base
    ceiling := r.ceiling
    flatPrice := r.flatPrice
    exponent := UInt32.ofNat r.exponent.toNat }

inductive AccountReport where
  | vamp (header : VampHeader) (details : Option VampDetails)
  | claim (marker : ClaimMarker)
  deriving DecidableEq

namespace AccountReport

def ofAccount (data : Bytes) : Result AccountReport :=
  if ClaimMarker.kind.discriminator.toBytes.isPrefixOf data then
    (ClaimMarker.ofAccount data).map claim
  else do
    let header ← VampHeader.ofAccount data
    let details := match VampRecord.ofAccount data with
      | .ok record => some (VampDetails.ofRecord record)
      | .error _ => none
    return .vamp header details

end AccountReport

def VampHeader.members (h : VampHeader) : List (String × Json) := [
  ("bump", .number h.bump.toNat),
  ("mint", .string h.mint.toText),
  ("solver_public_key", .string (Text.Hex.encode h.solverKey)),
  ("validator_public_key", .string (Text.Hex.encode h.validatorKey)),
  ("vamp_identifier", .word h.identifier),
  ("intent_id", .string (Text.Hex.encode h.intent)),
  ("total_claimed", .word h.totalClaimed),
  ("reserve_balance", .word h.reserve),
  ("token_supply", .word h.supply),
  ("curve_exponent", .word h.exponent),
  ("initial_price", .word h.initialPrice),
  ("sol_vault", .string h.payVault.toText)]

def VampDetails.toJson (d : VampDetails) : Json := .object [
  ("authority", .string d.authority.toText),
  ("vault", .string d.vault.toText),
  ("minted_supply", .word d.minted),
  ("token_name", .string d.name),
  ("token_symbol", .string d.symbol),
  ("token_decimals", .number d.decimals.toNat),
  ("authorization", .string d.authorization),
  ("pricing", d.terms.toJson)]

def ClaimMarker.members (m : ClaimMarker) : List (String × Json) := [
  ("is_claimed", .bool m.isClaimed),
  ("bump", .number m.bump.toNat),
  ("eth_address", .array (m.address.toBytes.map fun byte => .number byte.toNat)),
  ("claimant", .string m.claimant.toText),
  ("amount", .word m.amount),
  ("cost", .word m.cost)]

/-- The kind of account comes first; details that are missing are left out. -/
def AccountReport.toJson : AccountReport → Json
  | vamp header details =>
    .object (("account", .string "VampState") :: header.members ++
      match details with
      | some details => [("details", details.toJson)]
      | none => [])
  | claim marker => .object (("account", .string "ClaimState") :: marker.members)

end TokenClaim
