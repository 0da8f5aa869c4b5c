import TokenClaim.Json.Basic
import TokenClaim.Ledger.Engine
/-!
Quotes, receipts and events as they are shown.
-/

set_option autoImplicit false

namespace TokenClaim

def Quote.toJson (q : Quote) : Json := .object [
  ("token_amount", .word q.amount),
  ("current_supply", .word q.supply),
  ("cost", .word q.cost),
  ("marginal_price", .word q.marginalPrice),
  ("cost_sol", .string (coinText q.cost))]

def Receipt.members (r : Receipt) : List (String × Json) := [
  ("mint", .string r.mint.toText),
  ("claimant", .string r.claimant.toText),
  ("eth_address", .string r.address.toText),
  ("claim_state", .string r.marker.toText),
  ("amount", .word r.amount),
  ("cost", .word r.cost),
  ("total_claimed", .word r.totalClaimed),
  ("reserve_balance", .word r.reserve),
  ("token_supply", .word r.supply)]

def Event.toJson : Event → Json
  | minted mint record name symbol erc20 amount => .object [
    ("event", .string "TokenMintCreated"),
    ("mint_account", .string mint.toText),
    ("vamp_state", .string record.toText),
    ("token_name", .string name),
    ("token_symbol", .string symbol),
    ("token_erc20_address", .string (Text.Hex.encodeMarked erc20)),
    ("amount", .word amount)]
  | claimed mint claimant address amount cost supply => .object [
    ("event", .string "TokensClaimed"),
    ("mint_account", .string mint.toText),
    ("claimant", .string claimant.toText),
    ("eth_address", .string address.toText),
    ("amount", .word amount),
    ("cost", .word cost),
    ("token_supply", .word supply)]

end TokenClaim
