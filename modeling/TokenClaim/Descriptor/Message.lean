import TokenClaim.Pricing.Terms
import TokenClaim.Wire.Message
/-!
The messages that a descriptor is sent in, as they are on the wire and before any check of their
contents.
-/

set_option autoImplicit false

namespace TokenClaim

structure TableMessage where
  addresses : List Bytes
  amounts : List UInt64
  deriving DecidableEq

namespace TableMessage

def empty : TableMessage := ⟨[], []⟩

def schema : Wire.Schema TableMessage where
  name := "TokenMappingProto"
  empty := empty
  fields := [
    .repeated 1 "addresses" .bytes (·.addresses) fun v m => { m with addresses := v },
    .packed 2 "amounts" .word64 (·.amounts) fun v m => { m with amounts := v }]

end TableMessage

structure TermsMessage where
  paid : Bool
  onCurve : Bool
  slope : UInt64
  base : UInt64
  ceiling : Option UInt64
  flatPrice : UInt64
  exponent : Option UInt32
  deriving DecidableEq

namespace TermsMessage

def empty : TermsMessage := ⟨false, false, 0, 0, none, 0, none⟩

def schema : Wire.Schema TermsMessage where
  name := "VampingParamsProto"
  empty := empty
  fields := [
    .single 1 "paid_claiming_enabled" .flag (·.paid) fun v m => { m with paid := v },
    .single 2 "use_bonding_curve" .flag (·.onCurve) fun v m => { m with onCurve := v },
    .single 3 "curve_slope" .word64 (·.slope) fun v m => { m with slope := v },
    .single 4 "base_price" .word64 (·.base) fun v m => { m with base := v },
    .optional 5 "max_price" .word64 (·.ceiling) fun v m => { m with ceiling := v },
    .single 6 "flat_price_per_token" .word64 (·.flatPrice) fun v m => { m with flatPrice := v },
    .optional 7 "curve_exponent" .word32 (·.exponent) fun v m => { m with exponent := v }]

/-- A message without an exponent means a straight line. -/
def terms (message : TermsMessage) : Terms where
  paid := message.paid
  onCurve := message.onCurve
  slope := message.slope
  base := message.base
  ceiling := message.ceiling
  flatPrice := message.flatPrice
  exponent := message.exponent.getD Terms.standard.exponent

def ofTerms (terms : Terms) : TermsMessage where
  paid := terms.paid
  onCurve := terms.onCurve
  slope := terms.slope
  base := terms.base
  ceiling := terms.ceiling
  flatPrice := terms.flatPrice
  exponent := some terms.exponent

theorem terms_ofTerms (terms : Terms) : (ofTerms terms).terms = terms := rfl

end TermsMessage

structure DescriptorMessage where
  intent : Bytes
  name : String
  symbol : String
  erc20 : Bytes
  uri : Option String
  amount : UInt64
  decimals : UInt32
  table : Option TableMessage
  chain : UInt64
  salt : UInt64
  solverKey : Bytes
  validatorKey : Bytes
  root : Bytes
  terms : Option TermsMessage
  ownerKey : Bytes
  deriving DecidableEq

namespace DescriptorMessage

def empty : DescriptorMessage where
  intent := []
  name := ""
  symbol := ""
  erc20 := []
  uri := none
  amount := 0
  decimals := 0
  table := none
  chain := 0
  salt := 0
  solverKey := []
  validatorKey := []
  root := []
  terms := none
  ownerKey := []

def schema : Wire.Schema DescriptorMessage where
  name := "TokenVampingInfoProto"
  empty := empty
  fields := [
    .single 1 "intent_id" .bytes (·.intent) fun v m => { m with intent := v },
    .single 2 "token_name" .text (·.name) fun v m => { m with name := v },
    .single 3 "token_symbol" .text (·.symbol) fun v m => { m with symbol := v },
    .single 4 "token_erc20_address" .bytes (·.erc20) fun v m => { m with erc20 := v },
    .optional 5 "token_uri" .text (·.uri) fun v m => { m with uri := v },
    .single 6 "amount" .word64 (·.amount) fun v m => { m with amount := v },
    .single 7 "decimal" .word32 (·.decimals) fun v m => { m with decimals := v },
    TableMessage.schema.asField 8 "token_mapping" (·.table) fun v m => { m with table := v },
    .single 9 "chain_id" .word64 (·.chain) fun v m => { m with chain := v },
    .single 10 "salt" .word64 (·.salt) fun v m => { m with salt := v },
    .single 11 "solver_public_key" .bytes (·.solverKey) fun v m => { m with solverKey := v },
    .single 12 "validator_public_key" .bytes (·.validatorKey) fun v m => { m with validatorKey := v },
    .single 13 "merkle_root" .bytes (·.root) fun v m => { m with root := v },
    TermsMessage.schema.asField 14 "vamping_params" (·.terms) fun v m => { m with terms := v },
    .single 15 "owner_public_key" .bytes (·.ownerKey) fun v m => { m with ownerKey := v }]

end DescriptorMessage

end TokenClaim
