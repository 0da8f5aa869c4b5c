import TokenClaim.Proofs.Descriptor.Acceptance
/-!
The limits of what a descriptor can hold, and that every descriptor which is accepted keeps to them.
-/

set_option autoImplicit false

namespace TokenClaim

structure DescriptorMessage.Sized (m : DescriptorMessage) : Prop where
  intent : 1 ≤ m.intent.length ∧ m.intent.length ≤ Descriptor.maxIntentLength
  name : m.name.utf8ByteSize ≤ Descriptor.maxNameLength
  symbol : m.symbol.utf8ByteSize ≤ Descriptor.maxSymbolLength
  uri : (m.uri.getD "").utf8ByteSize ≤ Descriptor.maxUriLength
  erc20 : m.erc20.length = 0 ∨ m.erc20.length = 20
  solverKey : m.solverKey.length = 20
  validatorKey : m.validatorKey.length = 20
  ownerKey : m.ownerKey.length = 0 ∨ m.ownerKey.length = 20
  root : m.root.length = 0 ∨ m.root.length = 32

theorem Descriptor.checkLength_eq_ok_iff {field : String} {length : Nat} {allowed : Bool}
    {result : Unit} : checkLength field length allowed = .ok result ↔ allowed = true := by
  cases allowed <;> simp [checkLength]

theorem Descriptor.checkLengths_eq_ok_iff {m : DescriptorMessage} :
    checkLengths m = .ok () ↔ m.Sized := by
  simp only [checkLengths, bind_eq_ok_iff, checkLength_eq_ok_iff, exists_const, Bool.and_eq_true,
    decide_eq_true_eq]
  constructor
  · rintro ⟨intent, name, symbol, uri, erc20, solverKey, validatorKey, ownerKey, root⟩
    exact ⟨intent, name, symbol, uri, erc20, solverKey, validatorKey, ownerKey, root⟩
  · intro sized
    exact ⟨sized.intent, sized.name, sized.symbol, sized.uri, sized.erc20, sized.solverKey,
      sized.validatorKey, sized.ownerKey, sized.root⟩

/-- What holds of a descriptor whichever way it keeps its allocations. -/
structure Descriptor.WithinLimits (d : Descriptor) : Prop where
  intent : 1 ≤ d.intent.length ∧ d.intent.length ≤ maxIntentLength
  name : d.name.utf8ByteSize ≤ maxNameLength
  symbol : d.symbol.utf8ByteSize ≤ maxSymbolLength
  uri : (d.uri.getD "").utf8ByteSize ≤ maxUriLength
  erc20 : d.erc20.length = 0 ∨ d.erc20.length = 20
  solverKey : d.solverKey.length = 20
  validatorKey : d.validatorKey.length = 20
  ownerKey : d.ownerKey.length = 0 ∨ d.ownerKey.length = 20
  decimals : d.decimals.toNat ≤ maxDecimals
  entries : ∀ entry ∈ d.authorization.entries, entry.decimals = d.decimals
  distinct : (d.authorization.entries.map (·.address)).Nodup
  covered : (d.authorization.entries.map (·.amount.toNat)).sum ≤ d.amount.toNat
  terms : ∀ terms, d.terms = some terms → terms.validate = .ok ()

theorem AuthorizationPolicy.entries_of_select {policy : AuthorizationPolicy}
    {entries : AllocationTable} {root : Option Digest} {authorization : Authorization}
    (selected : policy.select entries root = .ok authorization) :
    authorization.entries = entries ∨ authorization.entries = [] := by
  cases authorization with
  | table kept => exact Or.inl (select_eq_table_iff.mp selected).1
  | root kept => exact Or.inr rfl

namespace Descriptor

variable {policy : AuthorizationPolicy} {data : Bytes} {d : Descriptor}

theorem toNat_ofNat_of_le {decimals : UInt32} (small : decimals.toNat ≤ maxDecimals) :
    (UInt8.ofNat decimals.toNat).toNat = decimals.toNat := by
  simp only [maxDecimals] at small
  rw [UInt8.toNat_ofNat']
  omega

theorem withinLimits_of_ofMessage {m : DescriptorMessage} (made : ofMessage policy m = .ok d) :
    d.WithinLimits := by
  obtain ⟨entries, authorization, valid, selected, rfl⟩ := ofMessage_eq_ok_iff.mp made
  have sized := checkLengths_eq_ok_iff.mp valid.lengths
  have alike := TableMessage.decimals_of_entries valid.listed
  -- A root leaves no entries to speak of.
  have kept : ∀ law : AllocationTable → Prop, law entries → law [] → law authorization.entries := by
    intro law ofTable ofNone
    rcases AuthorizationPolicy.entries_of_select selected with same | none
    · rw [same]
      exact ofTable
    · rw [none]
      exact ofNone
  exact {
    intent := sized.intent
    name := sized.name
    symbol := sized.symbol
    uri := sized.uri
    erc20 := sized.erc20
    solverKey := sized.solverKey
    validatorKey := sized.validatorKey
    ownerKey := sized.ownerKey
    decimals := Nat.le_trans (Nat.le_of_eq (toNat_ofNat_of_le valid.decimals)) valid.decimals
    entries := kept (fun table => ∀ entry ∈ table, entry.decimals = UInt8.ofNat m.decimals.toNat)
      alike (by simp)
    distinct := kept (fun table => (table.map (·.address)).Nodup) valid.distinct (by simp)
    covered := kept (fun table => (table.map (·.amount.toNat)).sum ≤ m.amount.toNat)
      valid.covered (by simp)
    terms := valid.terms }

theorem withinLimits_of_read (accepted : read policy data = .ok d) : d.WithinLimits := by
  obtain ⟨m, -, made⟩ := read_eq_ok_iff.mp accepted
  exact withinLimits_of_ofMessage made

end Descriptor

end TokenClaim
