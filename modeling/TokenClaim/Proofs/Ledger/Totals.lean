import Mathlib.Algebra.Ring.Nat
import TokenClaim.Ledger.Basic
/-!
Sums over finite tables: an entry that is put into a table changes a sum by what it weighs more than
the entry it replaces. All lamports of a ledger and all tokens of one mint are such sums.
-/

set_option autoImplicit false

namespace TokenClaim

namespace Table

variable {κ ν : Type}

def sum (weigh : κ → ν → Nat) (table : Table κ ν) : Nat :=
  (table.entries.map fun entry => weigh entry.1 entry.2).sum

variable [DecidableEq κ]

def weightAt (weigh : κ → ν → Nat) (table : Table κ ν) (key : κ) : Nat :=
  (table.find? key).elim 0 (weigh key)

theorem weight_setEntry (weigh : κ → ν → Nat) (key : κ) (value : ν) (entries : List (κ × ν)) :
    ((setEntry key value entries).map fun entry => weigh entry.1 entry.2).sum +
        ((entries.find? (·.1 = key)).map Prod.snd).elim 0 (weigh key) =
      (entries.map fun entry => weigh entry.1 entry.2).sum + weigh key value := by
  induction entries with
  | nil => simp [setEntry]
  | cons entry rest ih =>
    by_cases same : entry.1 = key
    · simp only [setEntry, same, if_true, List.map_cons, List.sum_cons, List.find?_cons,
        decide_true, Option.map_some, Option.elim_some]
      omega
    · simp only [setEntry, same, if_false, List.map_cons, List.sum_cons, List.find?_cons,
        decide_false]
      omega

theorem sum_insert (weigh : κ → ν → Nat) (table : Table κ ν) (key : κ) (value : ν) :
    (table.insert key value).sum weigh + table.weightAt weigh key =
      table.sum weigh + weigh key value :=
  weight_setEntry weigh key value table.entries

theorem weightAt_insert (weigh : κ → ν → Nat) (table : Table κ ν) (key other : κ) (value : ν) :
    (table.insert key value).weightAt weigh other =
      if other = key then weigh key value else table.weightAt weigh other := by
  rw [weightAt, find?_insert]
  split
  · rename_i same
    rw [same]
    rfl
  · rfl

theorem weightAt_le_sum (weigh : κ → ν → Nat) (table : Table κ ν) (key : κ) :
    table.weightAt weigh key ≤ table.sum weigh := by
  unfold weightAt sum find?
  induction table.entries with
  | nil => simp
  | cons entry rest ih =>
    by_cases same : entry.1 = key
    · simp [same]
    · simp only [List.find?_cons, same, decide_false, List.map_cons, List.sum_cons]
      omega

/-- Where an amount is taken from one key and given to another, each new value from the table as it
was, the sum keeps still; but where both keys are one, the given value stands and the amount is
new. -/
theorem sum_insert_insert {weigh : κ → ν → Nat} {table : Table κ ν} {source target : κ}
    {left given : ν} {amount : Nat}
    (taken : weigh source left + amount = table.weightAt weigh source)
    (received : weigh target given = table.weightAt weigh target + amount) :
    ((table.insert source left).insert target given).sum weigh =
      table.sum weigh + if target = source then amount else 0 := by
  have first := table.sum_insert weigh source left
  -- The second entry replaces what stands after the first, not what stood before both.
  have second := (table.insert source left).sum_insert weigh target given
  rw [weightAt_insert] at second
  by_cases same : target = source
  · subst same
    rw [if_pos rfl] at second
    rw [if_pos rfl]
    omega
  · rw [if_neg same] at second
    rw [if_neg same]
    omega

theorem find?_insertIfNew (table : Table κ ν) (key other : κ) (value : ν) :
    (table.insertIfNew key value).find? other =
      if other = key then some ((table.find? key).getD value) else table.find? other := by
  unfold insertIfNew contains
  cases found : table.find? key with
  | none => simp [find?_insert]
  | some old =>
    by_cases same : other = key
    · simp [same, found]
    · simp [same]

theorem setEntry_setEntry (key : κ) (first second : ν) (entries : List (κ × ν)) :
    setEntry key second (setEntry key first entries) = setEntry key second entries := by
  induction entries with
  | nil => simp [setEntry]
  | cons entry rest ih =>
    by_cases same : entry.1 = key
    · simp [setEntry, same]
    · simp [setEntry, same, ih]

theorem insert_insertIfNew (table : Table κ ν) (key : κ) (first second : ν) :
    (table.insertIfNew key first).insert key second = table.insert key second := by
  unfold insertIfNew
  split
  · rfl
  · simp only [insert, setEntry_setEntry]

theorem getD_find?_insertIfNew (table : Table κ ν) (key other : κ) (value : ν) :
    ((table.insertIfNew key value).find? other).getD value = (table.find? other).getD value := by
  rw [find?_insertIfNew]
  split
  · rename_i same
    rw [same, Option.getD_some]
  · rfl

theorem sum_insertIfNew {weigh : κ → ν → Nat} (table : Table κ ν) (key : κ) {value : ν}
    (weightless : weigh key value = 0) :
    (table.insertIfNew key value).sum weigh = table.sum weigh := by
  unfold insertIfNew contains
  cases found : table.find? key with
  | some old => rfl
  | none =>
    have moved := table.sum_insert weigh key value
    have nothing : table.weightAt weigh key = 0 := by rw [weightAt, found, Option.elim_none]
    rw [nothing, weightless] at moved
    exact moved

end Table

namespace Ledger

def lamportTotal (ledger : Ledger) : Nat := ledger.lamports.sum fun _ balance => balance.toNat

def tokenWeight (mint : Pubkey) (key : Pubkey × Pubkey) (balance : UInt64) : Nat :=
  if key.1 = mint then balance.toNat else 0

def tokenTotal (ledger : Ledger) (mint : Pubkey) : Nat := ledger.tokens.sum (tokenWeight mint)

theorem weightAt_lamports (ledger : Ledger) (owner : Pubkey) :
    ledger.lamports.weightAt (fun _ balance => balance.toNat) owner =
      (ledger.lamportsOf owner).toNat := by
  unfold Table.weightAt lamportsOf
  cases ledger.lamports.find? owner <;> rfl

theorem weightAt_tokens (ledger : Ledger) (mint holder : Pubkey) :
    ledger.tokens.weightAt (tokenWeight mint) (mint, holder) =
      (ledger.tokensOf mint holder).toNat := by
  unfold Table.weightAt tokensOf
  cases ledger.tokens.find? (mint, holder) with
  | none => rfl
  | some balance => exact if_pos rfl

theorem weightAt_tokens_of_ne (ledger : Ledger) {mint other : Pubkey} (distinct : other ≠ mint)
    (holder : Pubkey) : ledger.tokens.weightAt (tokenWeight mint) (other, holder) = 0 := by
  unfold Table.weightAt
  cases ledger.tokens.find? (other, holder) with
  | none => rfl
  | some balance => exact if_neg distinct

theorem tokensOf_le_tokenTotal (ledger : Ledger) (mint holder : Pubkey) :
    (ledger.tokensOf mint holder).toNat ≤ ledger.tokenTotal mint := by
  rw [← ledger.weightAt_tokens]
  exact ledger.tokens.weightAt_le_sum _ _

end Ledger

end TokenClaim
