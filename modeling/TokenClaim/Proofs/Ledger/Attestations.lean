import TokenClaim.Proofs.Ledger.Entitlement
import TokenClaim.Proofs.Ledger.Solvency
import TokenClaim.Proofs.Merkle.Soundness
/-!
A signature is good for one balance. What is signed can be taken apart again, as only the intent at
its end varies in length; so claims that show the same signature under the same key are claims of
the same address, for the same amount, under the same intent.
-/

set_option autoImplicit false

namespace TokenClaim

theorem Balance.message_injective {address other : EthAddress} {amount otherAmount : UInt64}
    {intent otherIntent : Bytes}
    (same : message address amount intent = message other otherAmount otherIntent) :
    address = other ∧ amount = otherAmount ∧ intent = otherIntent := by
  unfold message at same
  have front : (address.toBytes ++ Word64.toBytes amount).length =
      (other.toBytes ++ Word64.toBytes otherAmount).length := by
    simp only [List.length_append, Octets.length_toBytes, Word64.length_toBytes]
  obtain ⟨fixed, intents⟩ := List.append_inj same front
  obtain ⟨addresses, amounts⟩ := List.append_inj fixed
    (address.length_toBytes.trans other.length_toBytes.symm)
  have words := congrArg Word64.ofBytes amounts
  rw [Word64.ofBytes_toBytes, Word64.ofBytes_toBytes] at words
  exact ⟨Octets.toBytes_injective addresses, words, intents⟩

/-- Under the key the signature is one of at most one digest. -/
def SignatureScheme.Binds (scheme : SignatureScheme) (signature key : Bytes) : Prop :=
  ∀ first second : Digest, scheme.verify first signature key = .ok () →
    scheme.verify second signature key = .ok () → first = second

namespace SettledClaim

def balance (claim : SettledClaim) (record : VampRecord) : Bytes :=
  Balance.message claim.receipt.address claim.receipt.amount record.intent

/-- A claim on the vamp of a record shows a signature in a role whose key is the given one. -/
def Presents (claim : SettledClaim) (record : VampRecord) (role : Role) (signature key : Bytes) :
    Prop :=
  claim.request.attestation.of role = signature ∧
    (Engine.roleKeys record claim.receipt.address).of role = key

end SettledClaim

theorem Entitled.accepts {scheme : SignatureScheme} {record : VampRecord} {claim : SettledClaim}
    (entitled : Entitled scheme record claim) {role : Role} {signature key : Bytes}
    (shown : claim.Presents record role signature key) :
    scheme.verify (keccak256 (claim.balance record)) signature key = .ok () := by
  obtain ⟨rfl, rfl⟩ := shown
  cases role with
  | solver => exact entitled.solver.2
  | validator => exact entitled.validator.2
  | owner =>
    rw [Engine.roleKeys_owner]
    exact entitled.owner.2

theorem Entitled.same_balance {scheme : SignatureScheme} {record other : VampRecord}
    {claim otherClaim : SettledClaim} (entitled : Entitled scheme record claim)
    (otherEntitled : Entitled scheme other otherClaim) {role otherRole : Role}
    {signature key : Bytes} (binds : scheme.Binds signature key)
    (shown : claim.Presents record role signature key)
    (otherShown : otherClaim.Presents other otherRole signature key)
    (free : CollisionFree [claim.balance record, otherClaim.balance other]) :
    claim.balance record = otherClaim.balance other :=
  free _ (by simp) _ (by simp)
    (binds _ _ (entitled.accepts shown) (otherEntitled.accepts otherShown))

namespace Engine

theorem Reaches.exists_entitled {engine : Engine} {history : History} {ledger : Ledger}
    (reached : engine.Reaches history ledger) {claim : SettledClaim}
    (settled : claim ∈ history.claims) :
    ∃ record, ledger.vamp engine.program claim.receipt.mint = .ok record ∧
      Entitled engine.scheme record claim := by
  obtain ⟨account, record, kept⟩ := reached.keeps claim settled
  exact ⟨record, kept.mint ▸ reached.placed.vamp_eq kept.stored, kept.entitled⟩

/-- Two claims that go through under one scheme, in the same run or in different ones, and show the
same signature under the same key: if that is a signature of at most one digest and the hashes of
the two messages do not collide, then both claims are of the same address and amount, on vamps with
the same intent. -/
theorem signature_covers_one_balance (engine other : Engine)
    (sameScheme : other.scheme = engine.scheme) (operations otherOperations : List Operation)
    {claim otherClaim : SettledClaim} (settled : claim ∈ (engine.history operations).claims)
    (otherSettled : otherClaim ∈ (other.history otherOperations).claims) :
    ∃ record otherRecord,
      (engine.after operations).vamp engine.program claim.receipt.mint = .ok record ∧
        (other.after otherOperations).vamp other.program otherClaim.receipt.mint =
          .ok otherRecord ∧
        ∀ (role otherRole : Role) (signature key : Bytes), engine.scheme.Binds signature key →
          claim.Presents record role signature key →
          otherClaim.Presents otherRecord otherRole signature key →
          CollisionFree [claim.balance record, otherClaim.balance otherRecord] →
          claim.receipt.address = otherClaim.receipt.address ∧
            claim.receipt.amount = otherClaim.receipt.amount ∧
            record.intent = otherRecord.intent := by
  obtain ⟨record, found, entitled⟩ := (engine.reaches operations).exists_entitled settled
  obtain ⟨otherRecord, otherFound, otherEntitled⟩ :=
    (other.reaches otherOperations).exists_entitled otherSettled
  rw [sameScheme] at otherEntitled
  refine ⟨record, otherRecord, found, otherFound, ?_⟩
  intro role otherRole signature key binds shown otherShown free
  exact Balance.message_injective (entitled.same_balance otherEntitled binds shown otherShown free)

end Engine

namespace Market

open Engine

/-- A signature is the digest itself. -/
def echo : SignatureScheme where
  name := "echo"
  verify digest signature _ :=
    if signature = digest.toBytes then .ok () else .error "signature of another digest"

theorem echo_binds (signature key : Bytes) : echo.Binds signature key := by
  intro first second one two
  have same : first.toBytes = second.toBytes := by
    by_cases ofFirst : signature = first.toBytes
    · by_cases ofSecond : signature = second.toBytes
      · exact ofFirst.symm.trans ofSecond
      · simp [echo, ofSecond] at two
    · simp [echo, ofFirst] at one
  exact Octets.toBytes_injective same

theorem echo_accepts (digest : Digest) (key : Bytes) : echo.Accepts digest digest.toBytes key :=
  ⟨List.ne_nil_of_length_eq_add_one digest.length_toBytes, if_pos rfl⟩

def echoEngine : Engine := { engine with scheme := echo }

def openedUnderEcho {request : CreateRequest} {ledger : Ledger}
    (steps : CreateSteps engine request ledger) : CreateSteps echoEngine request ledger :=
  { steps with }

def signedClaimOf (digest : Digest) (mint claimant : Pubkey) : ClaimRequest :=
  { claimOf mint claimant with attestation := ⟨digest.toBytes, digest.toBytes, digest.toBytes⟩ }

theorem roleKeys_fresh (addresses : VampAddresses) (identifier : UInt64) (role : Role) :
    (roleKeys (fresh addresses identifier) holder).of role ≠ [] := by
  cases role <;> exact fun none => nomatch none

section
-- The digest is a variable, so that nothing below computes a hash.
variable {digest : Digest} (signed : Balance.digest holder 5 offer.intent = digest)
include signed

theorem authorize_signed (addresses : VampAddresses) (identifier : UInt64) (mint claimant : Pubkey) :
    echoEngine.authorize (fresh addresses identifier) (signedClaimOf digest mint claimant) =
      .ok () := by
  have verified : Attestation.verify echo digest
      ⟨digest.toBytes, digest.toBytes, digest.toBytes⟩
      (roleKeys (fresh addresses identifier) holder) = .ok () := by
    refine Attestation.verify_eq_ok_iff.mpr fun role =>
      ⟨roleKeys_fresh addresses identifier role, ?_⟩
    cases role <;> exact echo_accepts _ _
  have intent : (fresh addresses identifier).intent = offer.intent := rfl
  simp only [authorize, echoEngine, signedClaimOf, claimOf, intent, signed, verified]
  rfl

def signedByCreator :
    ClaimSteps echoEngine (signedClaimOf digest first.mint creator) bothFunded :=
  { claimedByCreator with authorized := authorize_signed signed first 49 _ _ }

def signedBeside : ClaimSteps echoEngine (signedClaimOf digest second.mint first.payVault)
    (signedByCreator signed).next :=
  { claimedBeside with authorized := authorize_signed signed second 62 _ _ }

theorem reaches_signedBeside :
    ∃ history, echoEngine.Reaches history (signedBeside signed).next ∧
      ⟨signedClaimOf digest first.mint creator, (signedByCreator signed).receipt⟩ ∈
        history.claims ∧
      ⟨signedClaimOf digest second.mint first.payVault, (signedBeside signed).receipt⟩ ∈
        history.claims := by
  have both := (Reaches.start.created (openedUnderEcho opened)).created
    (openedUnderEcho openedBeside)
  have funded : echoEngine.Reaches (History.add _ (.deposit creator 5) (.ok (.deposited 5)))
      bothFunded := both.deposited rfl
  refine ⟨_, (funded.claimed (signedByCreator signed)).claimed (signedBeside signed), ?_, ?_⟩ <;>
    simp [History.claims_claimed]

theorem recordAt_first_signedBeside :
    (signedBeside signed).next.recordAt first.record = .ok (sold (fresh first 49)) := by
  have apart : first.record ≠ second.record := by decide
  have counted := (signedByCreator signed).recordAt_next_eq_ok_iff.mpr (Or.inl ⟨rfl, rfl⟩)
  exact (signedBeside signed).recordAt_next_eq_ok_iff.mpr (Or.inr ⟨apart, counted⟩)

theorem recordAt_second_signedBeside :
    (signedBeside signed).next.recordAt second.record = .ok (sold (fresh second 62)) :=
  (signedBeside signed).recordAt_next_eq_ok_iff.mpr (Or.inl ⟨rfl, rfl⟩)

end

end Market

/-- The holder's signatures for five tokens under the intent of both vamps are good on both. -/
theorem signature_covers_one_balance_beside :
    ∃ operations, ∃ claim ∈ (Market.echoEngine.history operations).claims,
      ∃ otherClaim ∈ (Market.echoEngine.history operations).claims,
        ∃ record otherRecord signature, claim.receipt.mint ≠ otherClaim.receipt.mint ∧
          claim.Presents record .solver signature record.solverKey ∧
          otherClaim.Presents otherRecord .solver signature record.solverKey ∧
          claim.receipt.address = otherClaim.receipt.address ∧
          claim.receipt.amount = otherClaim.receipt.amount ∧
          record.intent = otherRecord.intent := by
  obtain ⟨digest, signed⟩ : ∃ digest, Balance.digest Market.holder 5 Market.offer.intent = digest :=
    ⟨_, rfl⟩
  obtain ⟨history, reached, settled, otherSettled⟩ := Market.reaches_signedBeside signed
  have vamp := reached.placed.vamp_eq (Market.recordAt_first_signedBeside signed)
  have otherVamp := reached.placed.vamp_eq (Market.recordAt_second_signedBeside signed)
  obtain ⟨operations, rfl, present⟩ := reached.exists_run
  obtain ⟨record, otherRecord, found, otherFound, one⟩ :=
    Market.echoEngine.signature_covers_one_balance Market.echoEngine rfl operations operations
      settled otherSettled
  rw [present] at found otherFound
  obtain rfl := Except.ok.inj (vamp.symm.trans found)
  obtain rfl := Except.ok.inj (otherVamp.symm.trans otherFound)
  have apart : Market.first.mint ≠ Market.second.mint := by decide
  refine ⟨operations, _, settled, _, otherSettled, _, Market.sold (Market.fresh Market.second 62),
    digest.toBytes, apart, ⟨rfl, rfl⟩, ⟨rfl, rfl⟩, ?_⟩
  refine one .solver .solver _ _ (Market.echo_binds digest.toBytes _) ⟨rfl, rfl⟩ ⟨rfl, rfl⟩ ?_
  exact fun _ here _ there _ => by
    simp only [List.mem_cons, List.not_mem_nil, or_false] at here there
    rcases here with rfl | rfl <;> rcases there with rfl | rfl <;> rfl

end TokenClaim
