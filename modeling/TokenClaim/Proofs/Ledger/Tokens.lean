import TokenClaim.Proofs.Addresses
import TokenClaim.Proofs.Ledger.Counters
import TokenClaim.Proofs.Ledger.Totals
/-!
The tokens of a vamp. A creation mints them into the vamp's vault and claims take them out of it, so
that they stay as many as were minted, unless a claim pays them to the vault that they come from.
-/

set_option autoImplicit false

namespace TokenClaim

def History.returned (history : History) (record : VampRecord) : List SettledClaim :=
  (history.claimsOn record.mint).filter (·.receipt.claimant = record.vault)

namespace Ledger

/-- All tokens that were minted are there, and those that the vault lacks have been claimed. -/
def TokensConserved (ledger : Ledger) (record : VampRecord) : Prop :=
  (ledger.tokensOf record.mint record.vault).toNat + record.totalClaimed.toNat =
      record.minted.toNat ∧
    ledger.tokenTotal record.mint = record.minted.toNat

/-- The tokens of a vamp, `returned` of which claims have paid to the vault that they came from. -/
structure TokensAccounted (ledger : Ledger) (record : VampRecord) (returned : Nat) : Prop where
  vault : (ledger.tokensOf record.mint record.vault).toNat + record.totalClaimed.toNat =
    record.minted.toNat + 2 * returned
  total : ledger.tokenTotal record.mint = record.minted.toNat + returned

theorem TokensAccounted.conserved_iff {ledger : Ledger} {record : VampRecord} {returned : Nat}
    (accounted : ledger.TokensAccounted record returned) :
    ledger.TokensConserved record ↔ returned = 0 := by
  have vault := accounted.vault
  have total := accounted.total
  unfold TokensConserved
  omega

end Ledger

namespace Engine

variable {engine : Engine} {history : History} {ledger : Ledger}

section
variable {request : CreateRequest} (steps : CreateSteps engine request ledger)

theorem CreateSteps.tokensOf_next (mint holder : Pubkey) :
    steps.next.tokensOf mint holder =
      if (mint, holder) = (steps.addresses.mint, steps.addresses.vault) then
        steps.descriptor.amount
      else ledger.tokensOf mint holder := by
  simp only [Ledger.tokensOf, next, Table.find?_insert]
  split <;> rfl

theorem CreateSteps.vaultTokens_next :
    steps.next.tokensOf steps.record.mint steps.record.vault = steps.record.minted := by
  rw [steps.built]
  exact (steps.tokensOf_next _ _).trans (if_pos rfl)

theorem CreateSteps.tokensOf_next_of_ne {mint : Pubkey} (other : mint ≠ steps.record.mint)
    (holder : Pubkey) : steps.next.tokensOf mint holder = ledger.tokensOf mint holder := by
  rw [steps.record_mint] at other
  have elsewhere : (mint, holder) ≠ (steps.addresses.mint, steps.addresses.vault) :=
    fun same => other (Prod.mk.inj same).1
  rw [steps.tokensOf_next, if_neg elsewhere]

theorem CreateSteps.tokenTotal_next_of_ne {mint : Pubkey} (other : mint ≠ steps.record.mint) :
    steps.next.tokenTotal mint = ledger.tokenTotal mint := by
  rw [steps.record_mint] at other
  have moved := ledger.tokens.sum_insert (Ledger.tokenWeight mint)
    (steps.addresses.mint, steps.addresses.vault) steps.descriptor.amount
  rw [ledger.weightAt_tokens_of_ne (Ne.symm other), Ledger.tokenWeight, if_neg (Ne.symm other)]
    at moved
  exact moved

theorem CreateSteps.tokenTotal_next (unused : ledger.tokenTotal steps.record.mint = 0) :
    steps.next.tokenTotal steps.record.mint = steps.record.minted.toNat := by
  have minted : steps.record.minted = steps.descriptor.amount := by
    rw [steps.built]
    rfl
  have held := ledger.tokensOf_le_tokenTotal steps.record.mint steps.addresses.vault
  rw [steps.record_mint] at held unused
  have moved := ledger.tokens.sum_insert (Ledger.tokenWeight steps.addresses.mint)
    (steps.addresses.mint, steps.addresses.vault) steps.descriptor.amount
  rw [ledger.weightAt_tokens, Ledger.tokenWeight, if_pos rfl] at moved
  have total : steps.next.tokenTotal steps.addresses.mint +
      (ledger.tokensOf steps.addresses.mint steps.addresses.vault).toNat =
        ledger.tokenTotal steps.addresses.mint + steps.descriptor.amount.toNat := moved
  rw [steps.record_mint, minted]
  omega

end

section
variable {request : ClaimRequest} (steps : ClaimSteps engine request ledger)

theorem ClaimSteps.tokensOf_next (mint holder : Pubkey) :
    steps.next.tokensOf mint holder =
      if (mint, holder) = (steps.record.mint, request.claimant) then
        steps.settlement.claimantTokens
      else if (mint, holder) = (steps.record.mint, steps.record.vault) then
        steps.settlement.vaultTokens
      else ledger.tokensOf mint holder := by
  simp only [Ledger.tokensOf, next, Table.find?_insert]
  split
  · rfl
  · split <;> rfl

theorem ClaimSteps.tokensOf_next_of_ne {mint : Pubkey} (other : mint ≠ steps.record.mint)
    (holder : Pubkey) : steps.next.tokensOf mint holder = ledger.tokensOf mint holder := by
  have elsewhere (account : Pubkey) : (mint, holder) ≠ (steps.record.mint, account) :=
    fun same => other (Prod.mk.inj same).1
  rw [steps.tokensOf_next, if_neg (elsewhere _), if_neg (elsewhere _)]

theorem ClaimSteps.vaultTokens_next :
    (steps.next.tokensOf steps.record.mint steps.record.vault).toNat + request.amount.toNat =
      (ledger.tokensOf steps.record.mint steps.record.vault).toNat +
        if request.claimant = steps.record.vault then 2 * request.amount.toNat else 0 := by
  have settled := steps.settlement_facts
  rw [steps.tokensOf_next]
  by_cases own : request.claimant = steps.record.vault
  · -- The balance with the amount given is put where the one with the amount taken was.
    have given := settled.claimantTokens
    rw [own] at given ⊢
    rw [if_pos rfl, if_pos rfl]
    omega
  · have elsewhere : (steps.record.mint, steps.record.vault) ≠
        (steps.record.mint, request.claimant) :=
      fun same => own (Prod.mk.inj same).2.symm
    have taken := settled.vaultTokens
    rw [if_neg elsewhere, if_pos rfl, if_neg own]
    omega

theorem ClaimSteps.tokenTotal_next :
    steps.next.tokenTotal steps.record.mint =
      ledger.tokenTotal steps.record.mint +
        if request.claimant = steps.record.vault then request.amount.toNat else 0 := by
  have settled := steps.settlement_facts
  have taken : Ledger.tokenWeight steps.record.mint (steps.record.mint, steps.record.vault)
      steps.settlement.vaultTokens + request.amount.toNat =
        ledger.tokens.weightAt (Ledger.tokenWeight steps.record.mint)
          (steps.record.mint, steps.record.vault) := by
    rw [ledger.weightAt_tokens, Ledger.tokenWeight, if_pos rfl]
    exact settled.vaultTokens
  have given : Ledger.tokenWeight steps.record.mint (steps.record.mint, request.claimant)
      steps.settlement.claimantTokens =
        ledger.tokens.weightAt (Ledger.tokenWeight steps.record.mint)
          (steps.record.mint, request.claimant) + request.amount.toNat := by
    rw [ledger.weightAt_tokens, Ledger.tokenWeight, if_pos rfl]
    exact settled.claimantTokens
  have moved := Table.sum_insert_insert taken given
  simp only [Prod.mk.injEq, true_and] at moved
  exact moved

theorem ClaimSteps.tokenTotal_next_of_ne {mint : Pubkey} (other : mint ≠ steps.record.mint) :
    steps.next.tokenTotal mint = ledger.tokenTotal mint := by
  have weightless (account : Pubkey) (balance : UInt64) :
      Ledger.tokenWeight mint (steps.record.mint, account) balance = 0 :=
    if_neg (Ne.symm other)
  have taken : Ledger.tokenWeight mint (steps.record.mint, steps.record.vault)
      steps.settlement.vaultTokens + 0 =
        ledger.tokens.weightAt (Ledger.tokenWeight mint)
          (steps.record.mint, steps.record.vault) := by
    rw [weightless, ledger.weightAt_tokens_of_ne (Ne.symm other)]
  have given : Ledger.tokenWeight mint (steps.record.mint, request.claimant)
      steps.settlement.claimantTokens =
        ledger.tokens.weightAt (Ledger.tokenWeight mint)
          (steps.record.mint, request.claimant) + 0 := by
    rw [weightless, ledger.weightAt_tokens_of_ne (Ne.symm other)]
  have moved := Table.sum_insert_insert taken given
  rw [ite_self, Nat.add_zero] at moved
  exact moved

end

theorem Reaches.tokenTotal_eq_zero {mint : Pubkey} (reached : engine.Reaches history ledger)
    (absent : ∀ account record, ledger.recordAt account = .ok record → record.mint ≠ mint) :
    ledger.tokenTotal mint = 0 := by
  -- Records stay, so that a mint that has none at the end had none before.
  induction reached with
  | start => rfl
  | refused _ _ ih => exact ih absent
  | created _ steps ih =>
    have other : mint ≠ steps.record.mint := (absent _ _ steps.record_stored).symm
    rw [steps.tokenTotal_next_of_ne other]
    refine ih fun account record stored => ?_
    refine absent account record ?_
    rw [steps.recordAt_next, if_neg (steps.ne_of_recordAt stored), stored]
  | claimed _ steps ih =>
    have other : mint ≠ steps.record.mint := by
      have counted := absent _ _ steps.counted_stored
      rw [steps.counted_facts.continues.mint] at counted
      exact counted.symm
    rw [steps.tokenTotal_next_of_ne other]
    refine ih fun account record stored => ?_
    obtain ⟨later, kept, same⟩ := steps.extends.records account record stored
    rw [← same.mint]
    exact absent account later kept
  | deposited _ _ ih => exact ih absent

theorem ClaimSteps.amount_returned_next {request : ClaimRequest}
    (steps : ClaimSteps engine request ledger) :
    totalOf Receipt.amount
        ((history.add (.claim request) (.ok (.claimed steps.receipt))).returned steps.counted) =
      totalOf Receipt.amount (history.returned steps.record) +
        if request.claimant = steps.record.vault then request.amount.toNat else 0 := by
  have same := steps.counted_facts.continues
  rw [History.returned, same.mint, same.vault, steps.claimsOn_next, List.filter_append,
    totalOf_append, ← History.returned, totalOf_filter_singleton]
  simp only [decide_eq_true_eq]
  rfl

theorem ClaimSteps.tokens_accounted {request : ClaimRequest}
    (steps : ClaimSteps engine request ledger) {returned : Nat}
    (before : ledger.TokensAccounted steps.record returned) :
    steps.next.TokensAccounted steps.counted
      (returned + if request.claimant = steps.record.vault then request.amount.toNat else 0) := by
  have moved := steps.counted_facts
  have vault := before.vault
  have vaultNext := steps.vaultTokens_next
  have claimed := moved.totalClaimed
  constructor
  · rw [moved.continues.mint, moved.continues.vault, moved.continues.minted]
    by_cases own : request.claimant = steps.record.vault
    · rw [if_pos own] at vaultNext ⊢
      omega
    · rw [if_neg own] at vaultNext ⊢
      omega
  · rw [moved.continues.mint, moved.continues.minted, steps.tokenTotal_next, before.total,
      Nat.add_assoc]

theorem Reaches.tokens_accounted (reached : engine.Reaches history ledger) :
    ∀ account record, ledger.recordAt account = .ok record →
      ledger.TokensAccounted record (totalOf Receipt.amount (history.returned record)) := by
  refine reached.each_record
    (motive := fun history ledger record =>
      ledger.TokensAccounted record (totalOf Receipt.amount (history.returned record)))
    ?refused ?created ?besideCreated ?claimed ?besideClaimed ?deposited
  case refused =>
    intro history ledger record operation refusal before
    rwa [History.returned, History.claimsOn_refused, ← History.returned]
  case created =>
    intro history ledger request before steps
    -- What the creation mints replaces nothing only if the mint is unused.
    have unused := before.tokenTotal_eq_zero fun account record stored =>
      steps.mint_ne before.placed stored
    rw [History.returned, History.claimsOn_created, steps.claimsOn_eq_nil before]
    constructor
    · rw [steps.vaultTokens_next, steps.built]
      rfl
    · exact steps.tokenTotal_next unused
  case besideCreated =>
    intro history ledger record request steps other before
    rw [History.returned, History.claimsOn_created, ← History.returned]
    constructor
    · rw [steps.tokensOf_next_of_ne other]
      exact before.vault
    · rw [steps.tokenTotal_next_of_ne other]
      exact before.total
  case claimed =>
    intro history ledger request steps before
    rw [steps.amount_returned_next]
    exact steps.tokens_accounted before
  case besideClaimed =>
    intro history ledger record request steps other before
    rw [History.returned, steps.claimsOn_next_of_ne other, ← History.returned]
    constructor
    · rw [steps.tokensOf_next_of_ne other]
      exact before.vault
    · rw [steps.tokenTotal_next_of_ne other]
      exact before.total
  case deposited =>
    intro history ledger record owner amount balance before
    rw [History.returned, History.claimsOn_deposited, ← History.returned]
    exact ⟨before.vault, before.total⟩

theorem Reaches.amount_returned_eq_zero_iff (reached : engine.Reaches history ledger)
    (record : VampRecord) :
    totalOf Receipt.amount (history.returned record) = 0 ↔
      ∀ claim ∈ history.claimsOn record.mint, claim.receipt.claimant ≠ record.vault := by
  rw [History.returned, totalOf_filter_eq_zero_iff]
  constructor
  · intro nothing claim member own
    -- A claim that went through has a positive amount.
    obtain ⟨account, other, kept⟩ := reached.keeps claim (List.mem_filter.mp member).1
    have positive := kept.entitled.positive
    rw [nothing claim member (decide_eq_true own)] at positive
    exact absurd positive (by decide)
  · intro elsewhere claim member own
    exact absurd (of_decide_eq_true own) (elsewhere claim member)

/-- After any run the tokens of a vamp are conserved exactly if no claim on the vamp named the
vamp's own vault as its claimant. -/
theorem tokens_conserved_iff (engine : Engine) (operations : List Operation) (account : Pubkey) :
    (∀ record, (engine.after operations).recordAt account = .ok record →
        (engine.after operations).TokensConserved record) ↔
      ∀ record, (engine.after operations).recordAt account = .ok record →
        ∀ claim ∈ (engine.history operations).claimsOn record.mint,
          claim.receipt.claimant ≠ record.vault := by
  have reached := engine.reaches operations
  constructor
  · intro conserved record stored
    rw [← reached.amount_returned_eq_zero_iff]
    have accounted := reached.tokens_accounted account record stored
    exact accounted.conserved_iff.mp (conserved record stored)
  · intro elsewhere record stored
    have nothing := (reached.amount_returned_eq_zero_iff record).mpr (elsewhere record stored)
    have accounted := reached.tokens_accounted account record stored
    exact accounted.conserved_iff.mpr nothing

end Engine

/-! A market on which laws can be tried: no signature is refused, and a vamp has ten tokens at one
lamport each, five of them for one holder. -/

namespace Market

open Engine

def engine : Engine where
  program := .replicate 32 1
  policy := .standard
  terms := { Terms.standard with paid := true }
  scheme := ⟨"lenient", fun _ _ _ => .ok ()⟩

def creator : Pubkey := .replicate 32 2

def holder : EthAddress := .replicate 20 3

def offer : Descriptor where
  intent := [1]
  name := ""
  symbol := ""
  uri := none
  erc20 := []
  amount := 10
  decimals := 0
  chain := 0
  salt := 0
  solverKey := List.replicate 20 1
  validatorKey := List.replicate 20 2
  ownerKey := []
  authorization := .table [⟨holder, 5, 0⟩]
  terms := none

def offerTo (authorization : Authorization) : Descriptor := { offer with authorization }

def shares : AllocationTable := [⟨holder, 5, 0⟩, ⟨.replicate 20 4, 3, 0⟩]

theorem read_offer : Descriptor.read engine.policy offer.write = .ok offer := by
  with_unfolding_all rfl

def creation (identifier : UInt64) : CreateRequest := ⟨creator, some identifier, offer.write, none⟩

def claimOf (mint claimant : Pubkey) : ClaimRequest :=
  ⟨mint, claimant, holder, 5, ⟨[1], [1], [1]⟩, none⟩

def fresh (addresses : VampAddresses) (identifier : UInt64) : VampRecord :=
  newRecord addresses creator identifier offer engine.terms 1

def sold (record : VampRecord) : VampRecord :=
  { record with totalClaimed := 5, reserve := 5, supply := 5 }

def accountOf {α : Type} (kind : Record.Kind α) (content : α) : Bytes :=
  kind.discriminator.toBytes ++ kind.layout.write content

section
variable {identifier : UInt64} {addresses : VampAddresses} {ledger : Ledger}
  (derived : VampAddresses.derive? creator identifier engine.program = some addresses)
include derived

def created (vacant : ledger.accounts.contains addresses.record = false) :
    CreateSteps engine (creation identifier) ledger where
  descriptor := offer
  terms := engine.terms
  identifier := identifier
  addresses := addresses
  initialPrice := 1
  record := fresh addresses identifier
  data := accountOf VampRecord.kind (fresh addresses identifier)
  described := read_offer
  chosen := rfl
  valid := rfl
  identified := rfl
  derived := derived
  vacant := vacant
  priced := rfl
  built := rfl
  written := rfl

def claimed {claimant marker : Pubkey} {bump : UInt8} (settlement : Settlement)
    (stored : ledger.recordAt addresses.record = .ok (fresh addresses identifier))
    (settled : settle ledger (fresh addresses identifier) claimant 5 5 = .ok settlement)
    (marked : Ledger.findMarker addresses.record holder engine.program = .ok (marker, bump))
    (vacant : ledger.accounts.contains marker = false) :
    ClaimSteps engine (claimOf addresses.mint claimant) ledger where
  addresses := addresses
  record := fresh addresses identifier
  pricing := .flat 1 (some 1000)
  cost := 5
  settlement := settlement
  counted := sold (fresh addresses identifier)
  recordData := accountOf VampRecord.kind (sold (fresh addresses identifier))
  marker := marker
  bump := bump
  markerData := accountOf ClaimMarker.kind ⟨true, bump, holder, claimant, 5, 5⟩
  found := Ledger.findAddresses_eq_ok_iff.mpr (VampAddresses.ofMint?_of_derive? derived)
  stored := stored
  authorized := rfl
  priced := rfl
  charged := rfl
  settled := settled
  counts := rfl
  recordWritten := rfl
  marked := marked
  markerWritten := rfl
  vacant := vacant

end

def first : VampAddresses where
  mint := ⟨[79, 27, 144, 223, 14, 174, 94, 164, 136, 66, 161, 199, 242, 197, 34, 228, 110, 58, 216,
    89, 196, 99, 231, 215, 153, 255, 219, 154, 78, 164, 75, 135], rfl⟩
  record := ⟨[114, 135, 216, 21, 151, 67, 40, 243, 229, 160, 38, 3, 122, 231, 156, 22, 99, 224, 189,
    229, 243, 221, 76, 94, 30, 71, 175, 142, 29, 228, 160, 121], rfl⟩
  recordBump := 255
  vault := ⟨[32, 133, 119, 17, 184, 87, 73, 234, 83, 228, 219, 236, 246, 73, 101, 138, 62, 144, 79,
    148, 246, 209, 167, 210, 206, 1, 144, 66, 135, 52, 180, 189], rfl⟩
  payVault := ⟨[167, 105, 85, 47, 3, 182, 250, 237, 31, 243, 149, 34, 219, 188, 48, 130, 38, 118,
    219, 245, 31, 48, 123, 203, 34, 65, 66, 230, 198, 252, 133, 58], rfl⟩

def firstMarker : Pubkey :=
  ⟨[143, 82, 1, 24, 242, 216, 73, 51, 142, 117, 194, 71, 192, 83, 83, 180, 161, 219, 225, 128, 115,
    23, 114, 208, 65, 166, 13, 197, 62, 245, 162, 225], rfl⟩

theorem derive_first : VampAddresses.derive? creator 49 engine.program = some first := by
  simp only [VampAddresses.derive?, VampAddresses.ofMint?, DerivedAccount.find?_eq_listed]
  decide +kernel

theorem find_firstMarker :
    Ledger.findMarker first.record holder engine.program = .ok (firstMarker, 255) := by
  rw [Ledger.findMarker_eq_ok_iff, DerivedAccount.find?_eq_listed]
  decide +kernel

def secondShareMarker : Pubkey :=
  ⟨[161, 19, 30, 33, 38, 132, 138, 119, 2, 131, 203, 159, 27, 125, 105, 19, 31, 89, 253, 123, 91,
    122, 143, 219, 196, 212, 73, 164, 26, 95, 135, 155], rfl⟩

theorem find_secondShareMarker :
    Ledger.findMarker first.record (.replicate 20 4) engine.program =
      .ok (secondShareMarker, 254) := by
  rw [Ledger.findMarker_eq_ok_iff, DerivedAccount.find?_eq_listed]
  decide +kernel

def opened : CreateSteps engine (creation 49) .empty := created derive_first rfl

/-- The first vamp as it is opened from any descriptor, on terms that its creator asks for. -/
def openedFrom (policy : AuthorizationPolicy) (descriptor : Descriptor) (sent : Bytes)
    (terms : Terms) (initialPrice : UInt64)
    (described : Descriptor.read policy sent = .ok descriptor) (valid : terms.validate = .ok ())
    (priced : terms.pricing.unitPrice 0 = .ok initialPrice)
    (written : (newRecord first creator 49 descriptor terms initialPrice).toAccount =
      .ok (accountOf VampRecord.kind (newRecord first creator 49 descriptor terms initialPrice))) :
    CreateSteps { engine with policy } ⟨creator, some 49, sent, some terms⟩ .empty where
  descriptor := descriptor
  terms := terms
  identifier := 49
  addresses := first
  initialPrice := initialPrice
  record := newRecord first creator 49 descriptor terms initialPrice
  data := accountOf VampRecord.kind (newRecord first creator 49 descriptor terms initialPrice)
  described := described
  chosen := rfl
  valid := valid
  identified := rfl
  derived := derive_first
  vacant := rfl
  priced := priced
  built := rfl
  written := written

def funded (owner : Pubkey) : Ledger := credited opened.next owner 5

theorem reaches_funded (owner : Pubkey) (unused : opened.next.lamportsOf owner = 0) :
    engine.Reaches [(.create (creation 49), .ok (.created opened.record)),
      (.deposit owner 5, .ok (.deposited 5))] (funded owner) := by
  refine .deposited (.created .start opened) ?_
  rw [unused]
  rfl

theorem recordAt_funded (owner : Pubkey) :
    (funded owner).recordAt first.record = .ok (fresh first 49) := opened.record_stored

def claimedByVault : ClaimSteps engine (claimOf first.mint first.vault) (funded first.vault) :=
  claimed derive_first ⟨0, 5, 5, 15⟩ (recordAt_funded _) rfl find_firstMarker rfl

end Market

/-- The vault keeps the five tokens that are counted as claimed, and gets them once more. -/
theorem claim_by_vault_creates_tokens :
    ¬ ∀ (engine : Engine) (operations : List Operation) (account : Pubkey) (record : VampRecord),
      (engine.after operations).recordAt account = .ok record →
        (engine.after operations).TokensConserved record := by
  intro conserved
  have reached := (Market.reaches_funded Market.first.vault rfl).claimed Market.claimedByVault
  obtain ⟨operations, -, same⟩ := reached.exists_run
  have stored := Market.claimedByVault.recordAt_next_eq_ok_iff.mpr (Or.inl ⟨rfl, rfl⟩)
  rw [← same] at stored
  have kept := (conserved Market.engine operations _ _ stored).1
  rw [same] at kept
  exact absurd kept (by decide +kernel)

end TokenClaim
