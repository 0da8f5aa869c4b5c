import TokenClaim.Proofs.Wire.RoundTrip
/-!
What a reader finds in a message that stops early. Every part of a field tells how far it goes, so
that a cut inside a field is noticed. A cut between two fields is not: what stands before it is a
message.
-/

set_option autoImplicit false

namespace TokenClaim

def Fails {ε α : Type} (step : Except ε α) : Prop := ∃ fault, step = .error fault

namespace Fails

variable {ε ε' α β : Type} {step : Except ε α}

theorem error (fault : ε) : Fails (.error fault : Except ε α) := ⟨fault, rfl⟩

theorem bind (fails : Fails step) (next : α → Except ε β) : Fails (step >>= next) := by
  obtain ⟨fault, rfl⟩ := fails
  exact ⟨fault, rfl⟩

theorem mapError (fails : Fails step) (wrap : ε → ε') : Fails (step.mapError wrap) := by
  obtain ⟨fault, rfl⟩ := fails
  exact ⟨wrap fault, rfl⟩

end Fails

namespace Wire

/-- The bytes that stop before others do. -/
structure IsCut (cut whole : Bytes) : Prop where
  start : cut <+: whole
  short : cut ≠ whole

namespace IsCut

variable {cut first second : Bytes}

theorem length_lt {whole : Bytes} (isCut : IsCut cut whole) : cut.length < whole.length :=
  Nat.lt_of_le_of_ne isCut.start.length_le fun same => isCut.short (isCut.start.eq_of_length same)

theorem eq_nil {byte : UInt8} (isCut : IsCut cut [byte]) : cut = [] := by
  have short := isCut.length_lt
  rw [List.length_singleton] at short
  exact List.length_eq_zero_iff.mp (by omega)

theorem of_append_left (first : Bytes) {rest : Bytes}
    (isCut : IsCut (first ++ rest) (first ++ second)) : IsCut rest second where
  start := (List.prefix_append_right_inj first).mp isCut.start
  short same := isCut.short (same ▸ rfl)

theorem append (isCut : IsCut cut (first ++ second)) :
    IsCut cut first ∨ ∃ rest, cut = first ++ rest ∧ IsCut rest second := by
  by_cases whole : cut = first
  · subst whole
    have behind : IsCut (cut ++ []) (cut ++ second) := by rwa [List.append_nil]
    exact Or.inr ⟨[], (List.append_nil cut).symm, behind.of_append_left cut⟩
  · rcases List.prefix_or_prefix_of_prefix isCut.start (List.prefix_append first second) with
      within | ⟨rest, rfl⟩
    · exact Or.inl ⟨within, whole⟩
    · exact Or.inr ⟨rest, rfl, isCut.of_append_left first⟩

end IsCut

section Numbers

variable {cut : Bytes}

theorem Varint.readUpTo_cut {left value : Nat} (isCut : IsCut cut (write value)) :
    readUpTo left cut = none := by
  induction left generalizing value cut with
  | zero => rfl
  | succ left ih =>
    cases cut with
    | nil => rfl
    | cons byte rest =>
      by_cases small : value < 128
      · rw [write_of_lt small] at isCut
        cases isCut.eq_nil
      · rw [write_of_le (Nat.not_lt.mp small)] at isCut
        obtain ⟨rfl, -⟩ := List.cons_prefix_cons.mp isCut.start
        have high : ¬(UInt8.ofNat (128 + value % 128)).toNat < 128 := by
          rw [UInt8.toNat_ofNat']
          omega
        have further : IsCut rest (write (value / 128)) := IsCut.of_append_left [_] isCut
        rw [readUpTo, if_neg high, ih further, Option.map_none]

theorem Varint.read_cut {value : Nat} (isCut : IsCut cut (write value)) : Fails (read cut) := by
  rw [read, readUpTo_cut isCut]
  exact .error _

theorem readKey_cut {number : Nat} {type : WireType} (isCut : IsCut cut (writeKey number type)) :
    Fails (readKey cut) :=
  (Varint.read_cut isCut).bind _

theorem readLength_cut {content : Bytes} (fits : content.length < 2 ^ 64)
    (isCut : IsCut cut (Varint.write content.length ++ content)) : Fails (readLength cut) := by
  rcases isCut.append with inside | ⟨rest, rfl, behind⟩
  · exact (Varint.read_cut inside).bind _
  · simp only [readLength, Varint.read_write rest fits, ok_bind, if_pos behind.length_lt]
    exact .error _

end Numbers

namespace Scalar

variable {α : Type}

def FailsCut (scalar : Scalar α) : Prop :=
  ∀ (value : α) (cut : Bytes), (scalar.write value).length < 2 ^ 64 →
    IsCut cut (scalar.write value) → Fails (scalar.read cut)

theorem word64_failsCut : word64.FailsCut :=
  fun _ _ _ isCut => (Varint.read_cut isCut).bind _

theorem word32_failsCut : word32.FailsCut :=
  fun _ _ _ isCut => (Varint.read_cut isCut).bind _

theorem bytes_failsCut : bytes.FailsCut := by
  intro value cut fits isCut
  simp only [bytes, List.length_append] at fits
  exact (readLength_cut (by omega) isCut).bind _

theorem text_failsCut : text.FailsCut :=
  fun value cut fits isCut => (bytes_failsCut (Text.utf8 value) cut fits isCut).bind _

theorem readAs_cut {scalar : Scalar α} (failsCut : scalar.FailsCut) {value : α} {cut : Bytes}
    (fits : (scalar.write value).length < 2 ^ 64) (isCut : IsCut cut (scalar.write value)) :
    Fails (scalar.readAs scalar.type cut) := by
  simp only [readAs, expect, if_pos, ok_bind]
  exact failsCut value cut fits isCut

end Scalar

section Fields

variable {M N α : Type} {schema : Schema M} {depth number : Nat} {name : String}
  {message before after : M}

/-- Whatever was read before, no step goes through on less than what the field writes, unless
nothing is left of it. -/
def Field.FailsCut (schema : Schema M) (depth : Nat) (field : Field M) : Prop :=
  ∀ (message before : M) (cut : Bytes), (field.write message).length < 2 ^ 64 → cut ≠ [] →
    IsCut cut (field.write message) → Fails (schema.mergeField depth before cut)

theorem mergeField_cut {field : Field M} (has : schema.Has field) {type : WireType}
    {value cut : Bytes}
    (inside : ∀ rest, IsCut rest value → Fails (field.merge depth type before rest))
    (isCut : IsCut cut (writeKey field.number type ++ value)) :
    Fails (schema.mergeField depth before cut) := by
  rcases isCut.append with early | ⟨rest, rfl, behind⟩
  · exact ((readKey_cut early).mapError _).bind _
  · simp only [Schema.mergeField, readKey_writeKey type rest has.valid, ok_mapError, ok_bind,
      has.found]
    exact (inside rest behind).mapError _

section Values

variable {scalar : Scalar α}

theorem Scalar.mergeField_writeField_cut (failsCut : scalar.FailsCut) {field : Field M}
    (has : schema.Has field) (same : field.number = number) {value : α} {cut : Bytes}
    (fits : (scalar.writeField number value).length < 2 ^ 64)
    (isCut : IsCut cut (scalar.writeField number value))
    (merges : ∀ data, Fails (scalar.readAs scalar.type data) →
      Fails (field.merge depth scalar.type before data)) :
    Fails (schema.mergeField depth before cut) := by
  subst same
  rw [Scalar.writeField, List.length_append] at fits
  refine mergeField_cut has (fun rest behind => merges rest ?_) isCut
  exact Scalar.readAs_cut failsCut (by omega) behind

theorem Field.single_failsCut [DecidableEq α] {get : M → α} {set : α → M → M}
    (has : schema.Has (.single number name scalar get set)) (failsCut : scalar.FailsCut) :
    (Field.single number name scalar get set).FailsCut schema depth := by
  intro message before cut fits some isCut
  simp only [Field.single] at fits isCut
  split at isCut
  · exact absurd (List.prefix_nil.mp isCut.start) some
  · rename_i present
    rw [if_neg present] at fits
    exact Scalar.mergeField_writeField_cut failsCut has rfl fits isCut
      fun data fails => (fails.mapError _).bind _

theorem Field.optional_failsCut {get : M → Option α} {set : Option α → M → M}
    (has : schema.Has (.optional number name scalar get set)) (failsCut : scalar.FailsCut) :
    (Field.optional number name scalar get set).FailsCut schema depth := by
  intro message before cut fits some isCut
  simp only [Field.optional] at fits isCut
  cases given : get message with
  | none =>
    simp only [given] at isCut
    exact absurd (List.prefix_nil.mp isCut.start) some
  | some value =>
    simp only [given] at fits isCut
    exact Scalar.mergeField_writeField_cut failsCut has rfl fits isCut
      fun data fails => (fails.mapError _).bind _

end Values

theorem Schema.asField_failsCut {inner : Schema N} {get : M → Option N} {set : Option N → M → M}
    (has : schema.Has (inner.asField number name get set)) :
    (inner.asField number name get set).FailsCut schema (depth + 1) := by
  intro message before cut fits some isCut
  simp only [Schema.asField] at fits isCut
  cases given : get message with
  | none =>
    simp only [given] at isCut
    exact absurd (List.prefix_nil.mp isCut.start) some
  | some content =>
    simp only [given, Scalar.writeField, Scalar.bytes, List.length_append] at fits isCut
    have sized : (inner.write content).length < 2 ^ 64 := by omega
    refine mergeField_cut has (fun rest behind => ?_) isCut
    -- The length stands before the message, which is not looked at where it stops early.
    have counted := readLength_cut sized behind
    simp only [Schema.asField, expect, if_pos, ok_mapError, ok_bind, readPart]
    exact ((counted.mapError _).bind _).bind _

/-- A cut is noticed, or it is between two fields. -/
theorem Schema.Fills.cut {fields : List (Field M)}
    (fills : schema.Fills depth message fields before after)
    (failsCut : ∀ field ∈ fields, field.FailsCut schema depth)
    (fits : ∀ field ∈ fields, (field.write message).length < 2 ^ 64) {cut : Bytes}
    (isCut : IsCut cut (fields.flatMap fun field => field.write message)) :
    Fails (Wire.takeWhileAbove (schema.mergeField depth) 0 before cut) ∨
      ∃ count < fields.length,
        cut = (fields.take count).flatMap fun field => field.write message := by
  induction fills generalizing cut with
  | nil reached => exact absurd (List.prefix_nil.mp isCut.start) isCut.short
  | cons first _ ih =>
    obtain ⟨noticed, others⟩ := List.forall_mem_cons.mp failsCut
    obtain ⟨here, further⟩ := List.forall_mem_cons.mp fits
    rw [List.flatMap_cons] at isCut
    rcases isCut.append with inside | ⟨rest, rfl, behind⟩
    · by_cases none : cut = []
      · exact Or.inr ⟨0, Nat.succ_pos _, none⟩
      · obtain ⟨fault, stepped⟩ := noticed _ _ _ here none inside
        have more : 0 < cut.length := List.length_pos_iff.mpr none
        refine Or.inl ⟨fault, ?_⟩
        rw [Wire.takeWhileAbove, if_pos more, stepped]
    · rw [first here 0 rest (Nat.zero_le _)]
      rcases ih others further behind with fails | ⟨count, less, rfl⟩
      · exact Or.inl fails
      · exact Or.inr ⟨count + 1, Nat.succ_lt_succ less, rfl⟩

end Fields

end Wire

end TokenClaim
