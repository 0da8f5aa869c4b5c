import TokenClaim.Descriptor.Basic
import TokenClaim.Quantity
import TokenClaim.Report.Account
/-!
What a descriptor says, as it is shown.
-/

set_option autoImplicit false

namespace TokenClaim

/-- The number that a vamp gets if none is given to it. -/
def Descriptor.defaultIdentifier? (d : Descriptor) : Option UInt64 := foldWords d.intent

def Descriptor.toJson (d : Descriptor) : Json := .object [
  ("intent_id", .string (Text.Hex.encode d.intent)),
  ("default_vamp_identifier", .ofOption .word d.defaultIdentifier?),
  ("token_name", .string d.name),
  ("token_symbol", .string d.symbol),
  ("token_uri", .ofOption .string d.uri),
  ("token_erc20_address", .string (Text.Hex.encodeMarked d.erc20)),
  ("amount", .word d.amount),
  ("decimals", .number d.decimals.toNat),
  ("chain_id", .word d.chain),
  ("solver_public_key", .string (Text.Hex.encodeMarked d.solverKey)),
  ("validator_public_key", .string (Text.Hex.encodeMarked d.validatorKey)),
  ("owner_public_key",
    if d.ownerKey.isEmpty then .null else .string (Text.Hex.encodeMarked d.ownerKey)),
  ("authorization", .string d.authorization.describe),
  ("inline_entries", .number d.authorization.entries.length),
  ("merkle_root", .string (Text.Hex.encodeMarked d.authorization.merkleRoot.toBytes)),
  ("vamping_params", .ofOption Terms.toJson d.terms)]

end TokenClaim
