import TokenClaim.CommandLine.Options
import TokenClaim.Pricing.Override
import TokenClaim.Pubkey
import TokenClaim.Quantity
/-!
The commands, and how they are written.
-/

set_option autoImplicit false

namespace TokenClaim.CommandLine

structure BalanceArguments where
  address : String
  amount : UInt64
  intent : String
  deriving DecidableEq

inductive Command where
  | digest (balance : BalanceArguments)
  | sign (balance : BalanceArguments) (privateKey : String)
  | quote (supply amount : UInt64) (terms : TermsOverride)
  | convert (amount : String)
  | descriptor (file : String)
  | inspect (file : String)
  | simulate (descriptor claims : String) (authority : Pubkey) (identifier : Option UInt64)
      (terms : TermsOverride)
  deriving DecidableEq

structure Invocation where
  /-- The file of the configuration. -/
  config : Option String
  command : Command
  deriving DecidableEq

namespace Read

def path? (text : String) : Option String := if text.isEmpty then none else some text

def word64? (text : String) : Option UInt64 := (Text.Numeral.readWord64 10 text.toList).toOption

def quantity? (text : String) : Option UInt64 :=
  match text.toList with
  | '0' :: 'x' :: _ | '0' :: 'X' :: _ => (readHexQuantity text).toOption
  | _ => word64? text

def switch? : String → Option Bool
  | "true" => some true
  | "false" => some false
  | _ => none

/-- A number of 32 bits. Zero may have a minus sign. -/
def word32? (text : String) : Option UInt32 :=
  match text.toList with
  | '-' :: digits =>
    match Text.Numeral.readDigits 10 1 0 digits with
    | .ok _ => if digits.isEmpty then none else some 0
    | .error _ => none
  | digits => (Text.Numeral.readBelow 10 UInt32.size digits).toOption.map UInt32.ofNat

def pubkey? (text : String) : Option Pubkey := (Pubkey.parse text).toOption

end Read

inductive CommandName where
  | digest
  | sign
  | quote
  | convert
  | descriptor
  | inspect
  | simulate
  deriving DecidableEq

namespace CommandName

def ofWord? : String → Option CommandName
  | "digest" => some digest
  | "sign" => some sign
  | "quote" => some quote
  | "convert" => some convert
  | "descriptor" => some descriptor
  | "inspect" => some inspect
  | "simulate" => some simulate
  | _ => none

def balanceOptions : List (String × OptionKind) :=
  [("eth-address", .valued), ("amount", .valued), ("intent-id", .valued)]

def termsOptions : List (String × OptionKind) := [
  ("paid-claiming-enabled", .switch),
  ("use-bonding-curve", .switch),
  ("curve-slope", .valued),
  ("base-price", .valued),
  ("max-price", .valued),
  ("flat-price-per-token", .valued),
  ("curve-exponent", .valued)]

def options : CommandName → List (String × OptionKind)
  | digest => balanceOptions
  | sign => ("private-key", .valued) :: balanceOptions
  | quote => ("supply", .valued) :: ("amount", .valued) :: termsOptions
  | convert => []
  | descriptor => [("file", .valued)]
  | inspect => [("file", .valued)]
  | simulate =>
    ("descriptor", .valued) :: ("claims", .valued) :: ("authority", .valued) ::
      ("vamp-identifier", .valued) :: termsOptions

def kindOf (name : CommandName) (option : String) : Option OptionKind :=
  ((("config", .valued) :: name.options).find? (·.1 = option)).map Prod.snd

def sources : CommandName → List (String × String)
  | sign => [("private-key", "ETHEREUM_PRIVATE_KEY")]
  | simulate => [("authority", "VAMP_AUTHORITY")]
  | _ => []

end CommandName

def BalanceArguments.ofArguments? (arguments : Arguments) : Option BalanceArguments := do
  return {
    address := ← arguments.required some "eth-address"
    amount := ← arguments.required Read.quantity? "amount"
    intent := ← arguments.required some "intent-id" }

def termsOverride? (arguments : Arguments) : Option TermsOverride := do
  return {
    paid := ← arguments.optional Read.switch? "paid-claiming-enabled"
    onCurve := ← arguments.optional Read.switch? "use-bonding-curve"
    slope := ← arguments.optional Read.quantity? "curve-slope"
    base := ← arguments.optional Read.quantity? "base-price"
    ceiling := ← arguments.optional Read.quantity? "max-price"
    flatPrice := ← arguments.optional Read.quantity? "flat-price-per-token"
    exponent := ← arguments.optional Read.word32? "curve-exponent" }

/-- The command of a name with its arguments. Only an amount to convert is an operand. -/
def Command.ofArguments? (name : CommandName) (arguments : Arguments) : Option Command :=
  match name, arguments.operands with
  | .digest, [] => do return .digest (← BalanceArguments.ofArguments? arguments)
  | .sign, [] => do
    return .sign (← BalanceArguments.ofArguments? arguments)
      (← arguments.required some "private-key")
  | .quote, [] => do
    return .quote (← arguments.required Read.quantity? "supply")
      (← arguments.required Read.quantity? "amount") (← termsOverride? arguments)
  | .convert, [amount] => some (.convert amount)
  | .descriptor, [] => do return .descriptor (← arguments.required Read.path? "file")
  | .inspect, [] => do return .inspect (← arguments.required Read.path? "file")
  | .simulate, [] => do
    return .simulate (← arguments.required Read.path? "descriptor")
      (← arguments.required Read.path? "claims") (← arguments.required Read.pubkey? "authority")
      (← arguments.optional Read.word64? "vamp-identifier") (← termsOverride? arguments)
  | _, _ => none

namespace Invocation

/-- The configuration's file may be given before the command and after it; the latter wins. The
environment has a say where one of the two places does not give it, and is read there. -/
def config? (environment : String → Option String) (before after : Arguments) :
    Option (Option String) := do
  let fallback := environment "VAMP_CONFIG"
  let outer ← (before.orFrom "config" fallback).optional Read.path? "config"
  let inner ← (after.orFrom "config" fallback).optional Read.path? "config"
  return if (after.value? "config").isSome then inner else outer

def parse? (environment : String → Option String) (words : List String) : Option Invocation := do
  let tokens ← Token.ofWords? words
  let (leading, word, rest) ← splitCommand (· = "config") tokens
  let before : Arguments := ⟨leading, []⟩
  let name ← CommandName.ofWord? word
  let after ← Arguments.ofTokens? name.kindOf rest
  if ¬ before.Distinct ∨ ¬ after.Distinct then none
  let complete := name.sources.foldl
    (fun arguments (option, source) => arguments.orFrom option (environment source)) after
  return {
    config := ← config? environment before after
    command := ← Command.ofArguments? name complete }

def paths (invocation : Invocation) : List String :=
  invocation.config.toList ++
    match invocation.command with
    | .descriptor file | .inspect file => [file]
    | .simulate descriptor claims .. => [descriptor, claims]
    | _ => []

end Invocation

end TokenClaim.CommandLine
