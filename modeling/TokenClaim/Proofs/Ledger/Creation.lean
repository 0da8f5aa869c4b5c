import TokenClaim.Proofs.Ledger.Lamports
import TokenClaim.Proofs.Ledger.PathIndependence
/-!
What a creation does to a ledger. It puts one record where there was no account, mints the tokens
into the vamp's vault and reports that; nothing else in the ledger reads differently.
-/

set_option autoImplicit false

namespace TokenClaim

namespace Engine

def chooseTerms (engine : Engine) (request : CreateRequest) (descriptor : Descriptor) : Terms :=
  match request.terms, descriptor.terms with
  | some asked, _ => asked
  | none, some described => described
  | none, none => engine.terms

structure Created (engine : Engine) (request : CreateRequest) (before : Ledger)
    (descriptor : Descriptor) (addresses : VampAddresses) (record : VampRecord)
    (after : Ledger) : Prop where
  vacant : before.accounts.find? addresses.record = none
  stored : ∃ data, record.toAccount = .ok data ∧
    after.accounts.find? addresses.record = some data
  otherAccounts : ∀ account, account ≠ addresses.record →
    after.accounts.find? account = before.accounts.find? account
  placed : record.mint = addresses.mint ∧ record.vault = addresses.vault ∧
    record.payVault = addresses.payVault
  counters : record.totalClaimed = 0 ∧ record.reserve = 0 ∧ record.supply = 0
  pricing : record.pricing = .ok (engine.chooseTerms request descriptor).pricing
  initialPrice :
    (engine.chooseTerms request descriptor).pricing.unitPrice 0 = .ok record.initialPrice
  vaultTokens : after.tokensOf addresses.mint addresses.vault = descriptor.amount
  otherTokens : ∀ mint holder, (mint, holder) ≠ (addresses.mint, addresses.vault) →
    after.tokensOf mint holder = before.tokensOf mint holder
  lamports : ∀ owner, after.lamportsOf owner = before.lamportsOf owner
  events : after.events = before.events ++
    [.minted addresses.mint addresses.record descriptor.name descriptor.symbol descriptor.erc20
      descriptor.amount]

section
variable {engine : Engine} {request : CreateRequest} {ledger : Ledger}
  (steps : CreateSteps engine request ledger)

theorem CreateSteps.terms_eq : steps.terms = engine.chooseTerms request steps.descriptor := by
  rw [steps.chosen, chooseTerms]
  cases request.terms with
  | some asked => rfl
  | none =>
    cases steps.descriptor.terms with
    | some described => rfl
    | none => rfl

theorem CreateSteps.pricing_record : steps.record.pricing = .ok steps.terms.pricing := by
  rw [steps.built]
  -- The exponent comes back from the record's wider word as it went in.
  exact pricing_newRecord _ _ _ _ _ _

theorem CreateSteps.created :
    Created engine request ledger steps.descriptor steps.addresses steps.record steps.next where
  vacant := steps.find?_vacant
  stored := ⟨steps.data, steps.written, (steps.find?_next _).trans (if_pos rfl)⟩
  otherAccounts account elsewhere := (steps.find?_next account).trans (if_neg elsewhere)
  placed := by
    rw [steps.built]
    exact ⟨rfl, rfl, rfl⟩
  counters := by
    rw [steps.built]
    exact ⟨rfl, rfl, rfl⟩
  pricing := steps.terms_eq ▸ steps.pricing_record
  initialPrice := by
    have priced := steps.priced
    rw [steps.terms_eq] at priced
    rw [steps.built]
    exact priced
  vaultTokens := (steps.tokensOf_next _ _).trans (if_pos rfl)
  otherTokens mint holder elsewhere := (steps.tokensOf_next mint holder).trans (if_neg elsewhere)
  lamports := steps.lamportsOf_next
  events := rfl

end

/-- A creation that goes through does exactly this, whatever the ledger held before: even lamports
that the vault to be paid already has stay. -/
theorem creates_exactly {engine : Engine} {request : CreateRequest} {before after : Ledger}
    {record : VampRecord} (done : engine.create request before = .ok (record, after)) :
    ∃ descriptor identifier addresses,
      Descriptor.read engine.policy request.descriptor = .ok descriptor ∧
        chooseIdentifier request descriptor = .ok identifier ∧
        VampAddresses.derive? request.authority identifier engine.program = some addresses ∧
        Created engine request before descriptor addresses record after := by
  obtain ⟨steps, rfl, rfl⟩ := create_eq_ok_iff.mp done
  exact ⟨steps.descriptor, steps.identifier, steps.addresses, steps.described, steps.identified,
    steps.derived, steps.created⟩

end Engine

/-- Seven lamports wait at the vault that the new vamp is paid to. -/
def Market.openedOnDeposit :
    Engine.CreateSteps engine (creation 49) (Engine.credited .empty first.payVault 7) :=
  created derive_first rfl

theorem creates_exactly_on_deposit :
    ∃ record after, Market.engine.create (Market.creation 49)
        (Engine.credited .empty Market.first.payVault 7) = .ok (record, after) ∧
      ∃ descriptor identifier addresses,
        Descriptor.read Market.engine.policy (Market.creation 49).descriptor = .ok descriptor ∧
          Engine.chooseIdentifier (Market.creation 49) descriptor = .ok identifier ∧
          VampAddresses.derive? (Market.creation 49).authority identifier Market.engine.program =
            some addresses ∧
          Engine.Created Market.engine (Market.creation 49)
            (Engine.credited .empty Market.first.payVault 7) descriptor addresses record after := by
  have done := Engine.create_eq_ok_iff.mpr ⟨Market.openedOnDeposit, rfl, rfl⟩
  exact ⟨_, _, done, Engine.creates_exactly done⟩

end TokenClaim
