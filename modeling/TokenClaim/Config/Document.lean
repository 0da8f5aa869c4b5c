import TokenClaim.Config
import TokenClaim.Failure
import TokenClaim.Toml.Parser
/-!
A configuration as a TOML text. Whatever the text leaves out is as in the standard configuration.
-/

set_option autoImplicit false

namespace TokenClaim

open Toml (Value)

def Terms.ofToml? (value : Value) : Option Terms := do
  match ← value.fields? ["paid_claiming_enabled", "use_bonding_curve", "curve_slope", "base_price",
      "max_price", "flat_price_per_token", "curve_exponent"] with
  | [paid, onCurve, slope, base, ceiling, flatPrice, exponent] =>
    return {
      paid := ← paid.elim (some standard.paid) Value.bool?
      onCurve := ← onCurve.elim (some standard.onCurve) Value.bool?
      slope := ← slope.elim (some standard.slope) Value.word64?
      base := ← base.elim (some standard.base) Value.word64?
      ceiling := ← ceiling.elim (some standard.ceiling) fun value => value.word64?.map some
      flatPrice := ← flatPrice.elim (some standard.flatPrice) Value.word64?
      exponent := ← exponent.elim (some standard.exponent) Value.word32? }
  | _ => none

def AuthorizationMode.ofToml? (value : Value) : Option AuthorizationMode := do
  match ← value.choice? with
  | "auto" => some .auto
  | "inline" => some .table
  | "merkle" => some .root
  | _ => none

def AuthorizationMode.name : AuthorizationMode → String
  | .auto => "auto"
  | .table => "inline"
  | .root => "merkle"

def AuthorizationPolicy.ofToml? (value : Value) : Option AuthorizationPolicy := do
  match ← value.fields? ["mode", "max_inline_entries"] with
  | [mode, limit] =>
    return {
      mode := ← mode.elim (some standard.mode) AuthorizationMode.ofToml?
      tableLimit := ← limit.elim (some standard.tableLimit) (Value.below? UInt64.size) }
  | _ => none

namespace Config

def programOfToml? (value : Value) : Option Pubkey := do
  match ← value.fields? ["program_id"] with
  | [key] => key.elim (some standard.program) fun value => do
    (Pubkey.parse (← value.text?)).toOption
  | _ => none

def ofToml? (value : Value) : Option Config := do
  match ← value.fields? ["program", "authorization", "pricing"] with
  | [program, policy, terms] =>
    return {
      program := ← program.elim (some standard.program) programOfToml?
      policy := ← policy.elim (some standard.policy) AuthorizationPolicy.ofToml?
      terms := ← terms.elim (some standard.terms) Terms.ofToml? }
  | _ => none

inductive Fault where
  /-- The text is not TOML, or a value is not of its field's type. -/
  | format
  | pricing (refusal : Refusal)
  deriving DecidableEq

def Fault.failure (name : String) : Fault → Failure
  | format => .of s!"Invalid config format in {name}"
  | pricing refusal => .within "Invalid [pricing] section" (.of refusal.message)

/-- The configuration that a text describes, if vamps can be sold under its terms. -/
def parse (text : String) : Except Fault Config :=
  match (Toml.parse? text).bind ofToml? with
  | none => .error .format
  | some config =>
    match config.terms.validate with
    | .ok () => .ok config
    | .error refusal => .error (.pricing refusal)

end Config

end TokenClaim
