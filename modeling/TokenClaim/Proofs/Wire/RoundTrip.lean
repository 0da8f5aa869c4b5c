import TokenClaim.Proofs.Wire.Varint
import TokenClaim.Wire.Message
/-!
A message is read back as it was written. The fields are taken in one after the other: each finds
its own part of the message still as it was in the empty message and leaves there what was written,
so that after the last field the whole message is there. All sizes are such that 64 bits count them.
-/

set_option autoImplicit false

namespace TokenClaim.Wire

section Repetition

variable {ε σ : Type} {step : σ → Bytes → Except ε (σ × Bytes)} {limit : Nat} {state : σ}

theorem takeWhileAbove_done {data : Bytes} (short : data.length ≤ limit) :
    takeWhileAbove step limit state data = .ok (state, data) := by
  rw [takeWhileAbove, if_neg (Nat.not_lt.mpr short)]

theorem takeWhileAbove_step {data rest : Bytes} {next : σ} (more : limit < data.length)
    (shorter : rest.length < data.length) (taken : step state data = .ok (next, rest)) :
    takeWhileAbove step limit state data = takeWhileAbove step limit next rest := by
  rw [takeWhileAbove, if_pos more, taken]
  exact if_pos shorter

theorem readPart_write {fault : Cause → ε} {part rest : Bytes} {final : σ}
    (fits : part.length < 2 ^ 64)
    (taken : takeWhileAbove step rest.length state (part ++ rest) = .ok (final, rest)) :
    readPart fault step state (Varint.write part.length ++ (part ++ rest)) = .ok (final, rest) := by
  have counted : readLength (Varint.write part.length ++ (part ++ rest)) =
      .ok (part.length, part ++ rest) := readLength_write fits (by simp)
  have limit : (part ++ rest).length - part.length = rest.length := by simp
  simp only [readPart, counted, ok_mapError, ok_bind, limit, taken, if_pos]
  rfl

end Repetition

namespace Scalar

variable {α : Type}

/-- What is written of a value is read as that value, and what follows it is left. -/
def ReadsBack (scalar : Scalar α) : Prop :=
  ∀ (value : α) (rest : Bytes), (scalar.write value).length < 2 ^ 64 →
    scalar.read (scalar.write value ++ rest) = .ok (value, rest)

theorem word64_readsBack : word64.ReadsBack := by
  intro value rest _
  simp only [word64, Varint.read_write rest value.toNat_lt, ok_bind, UInt64.ofNat_toNat]
  rfl

theorem word32_readsBack : word32.ReadsBack := by
  intro value rest _
  have small := value.toNat_lt
  have read : Varint.read (Varint.write value.toNat ++ rest) = .ok (value.toNat, rest) :=
    Varint.read_write rest (by omega)
  simp only [word32, read, ok_bind, UInt32.ofNat_toNat]
  rfl

theorem flag_readsBack : flag.ReadsBack := by
  intro value rest _
  cases value <;> rfl

theorem bytes_readsBack : bytes.ReadsBack := by
  intro value rest fits
  have counted : readLength (Varint.write value.length ++ (value ++ rest)) =
      .ok (value.length, value ++ rest) := by
    refine readLength_write ?_ (by simp)
    simp only [bytes, List.length_append] at fits
    omega
  simp only [bytes, List.append_assoc, counted, ok_bind, List.take_left, List.drop_left]
  rfl

theorem text_readsBack : text.ReadsBack := by
  intro value rest fits
  have inner := bytes_readsBack (Text.utf8 value) rest fits
  simp only [text, inner, ok_bind, Text.ofUtf8?_utf8]
  rfl

theorem readAs_write {scalar : Scalar α} (reads : scalar.ReadsBack) {value : α} (rest : Bytes)
    (fits : (scalar.write value).length < 2 ^ 64) :
    scalar.readAs scalar.type (scalar.write value ++ rest) = .ok (value, rest) := by
  simp only [readAs, expect, if_pos, ok_bind, reads value rest fits]

end Scalar

structure IsPart {M α : Type} (get : M → α) (set : α → M → M) : Prop where
  get_set : ∀ value message, get (set value message) = value := by exact fun _ _ => rfl
  set_get : ∀ message, set (get message) message = message := by exact fun _ => rfl
  set_set : ∀ value other message, set value (set other message) = set value message := by
    exact fun _ _ _ => rfl

theorem IsPart.set_eq {M α : Type} {get : M → α} {set : α → M → M} (part : IsPart get set)
    {message : M} {value : α} (same : get message = value) : set value message = message := by
  rw [← same, part.set_get]

section Fields

variable {M N α : Type} {schema : Schema M} {depth number : Nat} {name : String}
  {message before after : M}

structure Schema.Has (schema : Schema M) (field : Field M) : Prop where
  found : schema.fields.find? (·.number == field.number) = some field
  valid : validNumber field.number = true

/-- A reader that goes over what the field writes of a message comes from one message to another. -/
def Field.Fills (schema : Schema M) (depth : Nat) (message : M) (field : Field M)
    (before after : M) : Prop :=
  (field.write message).length < 2 ^ 64 → ∀ (limit : Nat) (rest : Bytes), limit ≤ rest.length →
    takeWhileAbove (schema.mergeField depth) limit before (field.write message ++ rest) =
      takeWhileAbove (schema.mergeField depth) limit after rest

inductive Schema.Fills (schema : Schema M) (depth : Nat) (message : M) :
    List (Field M) → M → M → Prop where
  | nil (reached : M) : Fills schema depth message [] reached reached
  | cons {field : Field M} {rest : List (Field M)} {before between after : M} :
      field.Fills schema depth message before between →
      Fills schema depth message rest between after →
      Fills schema depth message (field :: rest) before after

/-- The same with the messages in between, the first of them under the number `start`. -/
def Schema.FillsBy (schema : Schema M) (depth : Nat) (message : M) (between : Nat → M) :
    Nat → List (Field M) → Prop
  | _, [] => True
  | start, field :: rest =>
    field.Fills schema depth message (between start) (between (start + 1)) ∧
      FillsBy schema depth message between (start + 1) rest

theorem Schema.FillsBy.take {between : Nat → M} {fields : List (Field M)} {start count : Nat}
    (fills : schema.FillsBy depth message between start fields) (enough : count ≤ fields.length) :
    schema.Fills depth message (fields.take count) (between start) (between (start + count)) := by
  induction fields generalizing start count with
  | nil =>
    cases Nat.le_zero.mp enough
    exact .nil _
  | cons field rest ih =>
    cases count with
    | zero => exact .nil _
    | succ count =>
      have further := ih fills.2 (Nat.le_of_succ_le_succ enough)
      rw [Nat.add_right_comm] at further
      exact .cons fills.1 further

theorem takeWhileAbove_field {field : Field M} (has : schema.Has field) {type : WireType}
    {data rest : Bytes} {limit : Nat} (left : limit ≤ rest.length)
    (shorter : rest.length ≤ data.length)
    (merged : field.merge depth type before data = .ok (after, rest)) :
    takeWhileAbove (schema.mergeField depth) limit before (writeKey field.number type ++ data) =
      takeWhileAbove (schema.mergeField depth) limit after rest := by
  have key : 0 < (writeKey field.number type).length :=
    List.length_pos_iff.mpr (Varint.write_ne_nil _)
  have taken : schema.mergeField depth before (writeKey field.number type ++ data) =
      .ok (after, rest) := by
    simp only [Schema.mergeField, readKey_writeKey type data has.valid, ok_mapError, ok_bind,
      has.found, merged]
  refine takeWhileAbove_step ?_ ?_ taken
  · rw [List.length_append]
    omega
  · rw [List.length_append]
    omega

theorem Scalar.takeWhileAbove_writeField {scalar : Scalar α} (reads : scalar.ReadsBack)
    {field : Field M} (has : schema.Has field) (same : field.number = number) {value : α}
    (fits : (scalar.writeField number value).length < 2 ^ 64) {limit : Nat} {rest : Bytes}
    (left : limit ≤ rest.length)
    (merged : ∀ data, scalar.readAs scalar.type data = .ok (value, rest) →
      field.merge depth scalar.type before data = .ok (after, rest)) :
    takeWhileAbove (schema.mergeField depth) limit before
        (scalar.writeField number value ++ rest) =
      takeWhileAbove (schema.mergeField depth) limit after rest := by
  subst same
  rw [Scalar.writeField, List.length_append] at fits
  rw [Scalar.writeField, List.append_assoc]
  refine takeWhileAbove_field has left (by simp) (merged _ ?_)
  exact Scalar.readAs_write reads rest (by omega)

section Values

variable {scalar : Scalar α}

theorem Field.single_fills [DecidableEq α] {get : M → α} {set : α → M → M}
    (has : schema.Has (.single number name scalar get set)) (part : IsPart get set)
    (reads : scalar.ReadsBack) (fresh : get before = scalar.absent) :
    (Field.single number name scalar get set).Fills schema depth message before
      (set (get message) before) := by
  intro fits limit rest left
  simp only [Field.single] at fits ⊢
  split
  · -- What is not written is in the message as it is.
    rename_i absent
    rw [absent, part.set_eq fresh, List.nil_append]
  · rename_i present
    rw [if_neg present] at fits
    refine Scalar.takeWhileAbove_writeField reads has rfl fits left fun data read => ?_
    simp only [Field.single, read, ok_mapError, ok_bind]
    rfl

theorem Field.optional_fills {get : M → Option α} {set : Option α → M → M}
    (has : schema.Has (.optional number name scalar get set)) (part : IsPart get set)
    (reads : scalar.ReadsBack) (fresh : get before = none) :
    (Field.optional number name scalar get set).Fills schema depth message before
      (set (get message) before) := by
  intro fits limit rest left
  simp only [Field.optional] at fits ⊢
  cases given : get message with
  | none => rw [part.set_eq fresh, List.nil_append]
  | some value =>
    simp only [given] at fits
    refine Scalar.takeWhileAbove_writeField reads has rfl fits left fun data read => ?_
    simp only [Field.optional, read, ok_mapError, ok_bind]
    rfl

theorem Field.takeWhileAbove_repeated {get : M → List α} {set : List α → M → M}
    (has : schema.Has (.repeated number name scalar get set)) (part : IsPart get set)
    (reads : scalar.ReadsBack) (values : List α) {limit : Nat} {rest : Bytes}
    (fits : (values.flatMap (scalar.writeField number)).length < 2 ^ 64)
    (left : limit ≤ rest.length) :
    takeWhileAbove (schema.mergeField depth) limit before
        (values.flatMap (scalar.writeField number) ++ rest) =
      takeWhileAbove (schema.mergeField depth) limit (set (get before ++ values) before) rest := by
  induction values generalizing before with
  | nil => rw [List.append_nil, part.set_get, List.flatMap_nil, List.nil_append]
  | cons value values ih =>
    rw [List.flatMap_cons, List.length_append] at fits
    have first : (scalar.writeField number value).length < 2 ^ 64 := by omega
    -- One more value is in the list when the others are read.
    have taken : takeWhileAbove (schema.mergeField depth) limit before
          (scalar.writeField number value ++
            (values.flatMap (scalar.writeField number) ++ rest)) =
        takeWhileAbove (schema.mergeField depth) limit (set (get before ++ [value]) before)
          (values.flatMap (scalar.writeField number) ++ rest) := by
      refine Scalar.takeWhileAbove_writeField reads has rfl first ?_ fun data read => ?_
      · rw [List.length_append]
        omega
      · simp only [Field.repeated, read, ok_mapError, ok_bind]
        rfl
    rw [List.flatMap_cons, List.append_assoc, taken, ih (by omega), part.get_set, part.set_set,
      List.append_assoc, List.singleton_append]

theorem Field.repeated_fills {get : M → List α} {set : List α → M → M}
    (has : schema.Has (.repeated number name scalar get set)) (part : IsPart get set)
    (reads : scalar.ReadsBack) (fresh : get before = []) :
    (Field.repeated number name scalar get set).Fills schema depth message before
      (set (get message) before) := by
  intro fits limit rest left
  have same : get before ++ get message = get message := by rw [fresh, List.nil_append]
  simp only [Field.repeated] at fits ⊢
  rw [Field.takeWhileAbove_repeated has part reads (get message) fits left, same]

theorem Scalar.takeWhileAbove_flatMap (reads : scalar.ReadsBack)
    (nonempty : ∀ value, scalar.write value ≠ []) (values : List α) {known : List α}
    {rest : Bytes} (fits : (values.flatMap scalar.write).length < 2 ^ 64)
    {step : List α → Bytes → Except Fault (List α × Bytes)}
    (appends : ∀ known value data rest, scalar.read data = .ok (value, rest) →
      step known data = .ok (known ++ [value], rest)) :
    takeWhileAbove step rest.length known (values.flatMap scalar.write ++ rest) =
      .ok (known ++ values, rest) := by
  induction values generalizing known with
  | nil =>
    rw [List.flatMap_nil, List.nil_append, List.append_nil]
    exact takeWhileAbove_done (Nat.le_refl _)
  | cons value values ih =>
    rw [List.flatMap_cons, List.length_append] at fits
    have some : 0 < (scalar.write value).length := List.length_pos_iff.mpr (nonempty value)
    have taken := appends known value _ _
      (reads value (values.flatMap scalar.write ++ rest) (by omega))
    rw [List.flatMap_cons, List.append_assoc, takeWhileAbove_step ?_ ?_ taken, ih (by omega),
      List.append_assoc, List.singleton_append]
    · simp only [List.length_append]
      omega
    · simp only [List.length_append]
      omega

theorem Field.packed_fills {get : M → List α} {set : List α → M → M}
    (has : schema.Has (.packed number name scalar get set)) (part : IsPart get set)
    (reads : scalar.ReadsBack) (nonempty : ∀ value, scalar.write value ≠ [])
    (fresh : get before = []) :
    (Field.packed number name scalar get set).Fills schema depth message before
      (set (get message) before) := by
  intro fits limit rest left
  simp only [Field.packed] at fits ⊢
  split
  · rename_i absent
    rw [List.isEmpty_iff.mp absent, part.set_eq fresh, List.nil_append]
  · rename_i present
    rw [if_neg present] at fits
    simp only [Scalar.writeField, Scalar.bytes, List.length_append] at fits
    simp only [Scalar.writeField, Scalar.bytes, List.append_assoc]
    refine takeWhileAbove_field has left (by simp only [List.length_append]; omega) ?_
    simp only [Field.packed, if_pos]
    refine bind_eq_ok_iff.mpr ⟨(get message, rest), readPart_write (by omega) ?_, rfl⟩
    rw [fresh, Scalar.takeWhileAbove_flatMap reads nonempty _ (by omega), List.nil_append]
    intro known value data rest read
    simp only [read, ok_mapError, ok_bind]
    rfl

end Values

theorem Schema.Fills.takeWhileAbove {fields : List (Field M)}
    (fills : schema.Fills depth message fields before after) {limit : Nat} {rest : Bytes}
    (fits : ∀ field ∈ fields, (field.write message).length < 2 ^ 64)
    (left : limit ≤ rest.length) :
    takeWhileAbove (schema.mergeField depth) limit before
        ((fields.flatMap fun field => field.write message) ++ rest) =
      takeWhileAbove (schema.mergeField depth) limit after rest := by
  induction fills with
  | nil reached => rw [List.flatMap_nil, List.nil_append]
  | cons first _ ih =>
    obtain ⟨here, further⟩ := List.forall_mem_cons.mp fits
    rw [List.flatMap_cons, List.append_assoc, first here limit _ ?_, ih further]
    rw [List.length_append]
    omega

theorem Schema.length_field_le (schema : Schema M) (message : M) :
    ∀ field ∈ schema.fields, (field.write message).length ≤ (schema.write message).length := by
  intro field member
  have part := List.sublist_flatten_of_mem (List.mem_map_of_mem (f := (·.write message)) member)
  rw [← List.flatMap_def] at part
  exact part.length_le

theorem Schema.asField_fills {inner : Schema N} {get : M → Option N} {set : Option N → M → M}
    (has : schema.Has (inner.asField number name get set)) (part : IsPart get set)
    (fills : ∀ content, inner.Fills depth content inner.fields inner.empty content)
    (fresh : get before = none) :
    (inner.asField number name get set).Fills schema (depth + 1) message before
      (set (get message) before) := by
  intro fits limit rest left
  simp only [Schema.asField] at fits ⊢
  cases given : get message with
  | none => rw [part.set_eq fresh, List.nil_append]
  | some content =>
    simp only [given, Scalar.writeField, Scalar.bytes, List.length_append] at fits
    simp only [Scalar.writeField, Scalar.bytes, List.append_assoc]
    refine takeWhileAbove_field has left (by simp only [List.length_append]; omega) ?_
    have sized : (inner.write content).length < 2 ^ 64 := by omega
    have taken : takeWhileAbove (inner.mergeField depth) rest.length inner.empty
        (inner.write content ++ rest) = .ok (content, rest) := by
      refine ((fills content).takeWhileAbove (fun field member => ?_) (Nat.le_refl _)).trans ?_
      · exact Nat.lt_of_le_of_lt (inner.length_field_le content field member) sized
      · exact takeWhileAbove_done (Nat.le_refl _)
    simp only [Schema.asField, expect, if_pos, ok_mapError, ok_bind, fresh, Option.getD_none,
      readPart_write sized taken]
    rfl

/-- A message is read back if its fields fill it. -/
theorem Schema.read_write
    (fills : schema.Fills depthLimit message schema.fields schema.empty message)
    (fits : ∀ field ∈ schema.fields, (field.write message).length < 2 ^ 64) :
    schema.read (schema.write message) = .ok message := by
  have taken : takeWhileAbove (schema.mergeField depthLimit) 0 schema.empty
      (schema.write message ++ []) = .ok (message, []) :=
    (fills.takeWhileAbove fits (Nat.le_refl 0)).trans (takeWhileAbove_done (Nat.le_refl 0))
  rw [List.append_nil] at taken
  simp only [Schema.read, taken, ok_bind]
  rfl

theorem Schema.read_write_of_length
    (fills : schema.Fills depthLimit message schema.fields schema.empty message)
    (fits : (schema.write message).length < 2 ^ 64) :
    schema.read (schema.write message) = .ok message :=
  read_write fills fun field member =>
    Nat.lt_of_le_of_lt (schema.length_field_le message field member) fits

end Fields

end TokenClaim.Wire
