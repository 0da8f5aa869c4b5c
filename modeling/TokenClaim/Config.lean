import TokenClaim.Ledger.Engine
/-!
What an operator sets for all vamps of an engine.
-/

set_option autoImplicit false

namespace TokenClaim

structure Config where
  program : Pubkey
  policy : AuthorizationPolicy
  /-- The terms of vamps for which nobody else sets any. -/
  terms : Terms
  deriving DecidableEq

namespace Config

/-- The program's key, `CABA3ibLCuTDcTF4DQXuHK54LscXM5vBg7nWx1rzPaJH`. -/
def standardProgram : Pubkey :=
  ⟨[165, 202, 68, 81, 233, 110, 200, 3, 214, 239, 132, 220, 177, 123, 45, 113, 97, 110, 46, 206,
    249, 142, 250, 155, 89, 153, 28, 105, 211, 242, 1, 174], rfl⟩

def standard : Config := ⟨standardProgram, .standard, .standard⟩

def engine (config : Config) : Engine :=
  ⟨config.program, config.policy, config.terms, .ethereumPersonalSign⟩

end Config

end TokenClaim
