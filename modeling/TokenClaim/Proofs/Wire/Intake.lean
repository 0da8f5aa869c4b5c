import TokenClaim.Proofs.Wire.Remainder
/-!
How much a message can hold that is read from given bytes. Each reader leaves the less the more it
takes in, so that what a message weighs is bounded by the bytes that it is read from, whatever
fields they hold and in whatever order.
-/

set_option autoImplicit false

namespace TokenClaim.Wire

section Repetition

variable {ε σ : Type}

/-- What a step adds to the weight of a state, it takes off the bytes. -/
def Consumes (weight : σ → Nat) (step : σ → Bytes → Except ε (σ × Bytes)) : Prop :=
  ∀ (state : σ) (data : Bytes) (next : σ) (rest : Bytes), step state data = .ok (next, rest) →
    weight next + rest.length ≤ weight state + data.length

variable {weight : σ → Nat} {step : σ → Bytes → Except ε (σ × Bytes)}

theorem Consumes.takeWhileAbove (consumes : Consumes weight step) (limit : Nat) :
    Consumes weight (takeWhileAbove step limit) := by
  intro state data next rest taken
  exact takeWhileAbove_along (fun here there =>
      weight there.1 + there.2.length ≤ weight here.1 + here.2.length)
    (fun _ => Nat.le_refl _) (fun _ _ _ earlier later => Nat.le_trans later earlier)
    (fun _ _ _ stepped => consumes _ _ _ _ stepped) taken

theorem Consumes.readPart (consumes : Consumes weight step) (fault : Cause → ε) :
    Consumes weight (readPart fault step) := by
  intro state data next rest taken
  obtain ⟨⟨length, part⟩, counted, taken⟩ := bind_eq_ok_iff.mp taken
  have shorter := (readLength_eq_ok (mapError_eq_ok_iff.mp counted)).1
  obtain ⟨⟨final, left⟩, stepped, taken⟩ := bind_eq_ok_iff.mp taken
  simp only at taken
  split at taken
  · cases taken
    have within := consumes.takeWhileAbove _ _ _ _ _ stepped
    omega
  · cases taken

end Repetition

def Scalar.Consumes {α : Type} (scalar : Scalar α) (weight : α → Nat) : Prop :=
  ∀ (data : Bytes) (value : α) (rest : Bytes), scalar.read data = .ok (value, rest) →
    weight value + rest.length ≤ data.length

namespace Scalar

theorem word64_consumes : word64.Consumes fun _ => 0 := by
  intro data value rest found
  obtain ⟨⟨number, after⟩, read, same⟩ := bind_eq_ok_iff.mp found
  cases same
  rw [Nat.zero_add]
  exact Nat.le_of_lt (Varint.read_shortens read)

theorem word32_consumes : word32.Consumes fun _ => 0 := by
  intro data value rest found
  obtain ⟨⟨number, after⟩, read, same⟩ := bind_eq_ok_iff.mp found
  cases same
  rw [Nat.zero_add]
  exact Nat.le_of_lt (Varint.read_shortens read)

theorem flag_consumes : flag.Consumes fun _ => 0 := by
  intro data value rest found
  obtain ⟨⟨number, after⟩, read, same⟩ := bind_eq_ok_iff.mp found
  cases same
  rw [Nat.zero_add]
  exact Nat.le_of_lt (Varint.read_shortens read)

theorem bytes_consumes : bytes.Consumes List.length := by
  intro data value rest found
  obtain ⟨⟨length, part⟩, counted, same⟩ := bind_eq_ok_iff.mp found
  cases same
  obtain ⟨shorter, enough⟩ := readLength_eq_ok counted
  rw [List.length_take, List.length_drop]
  omega

theorem text_consumes : text.Consumes fun _ => 0 := by
  intro data value rest found
  obtain ⟨⟨content, after⟩, read, found⟩ := bind_eq_ok_iff.mp found
  have within := bytes_consumes _ _ _ read
  simp only at found
  split at found
  · cases found
    rw [Nat.zero_add]
    omega
  · cases found

theorem readAs_consumes {α : Type} {scalar : Scalar α} {weight : α → Nat}
    (consumes : scalar.Consumes weight) {type : WireType} {data rest : Bytes} {value : α}
    (found : (scalar.readAs type data).mapError Fault.of = .ok (value, rest)) :
    weight value + rest.length ≤ data.length := by
  obtain ⟨-, -, read⟩ := bind_eq_ok_iff.mp (mapError_eq_ok_iff.mp found)
  exact consumes _ _ _ read

end Scalar

section Fields

variable {M N α : Type} {number : Nat} {name : String} {weight : M → Nat}

def Field.Consumes (field : Field M) (weight : M → Nat) : Prop :=
  ∀ (depth : Nat) (type : WireType), Wire.Consumes weight (field.merge depth type)

theorem Schema.mergeField_consumes {schema : Schema M}
    (consumes : ∀ field ∈ schema.fields, field.Consumes weight) (depth : Nat) :
    Consumes weight (schema.mergeField depth) := by
  intro message data next rest merged
  obtain ⟨⟨number, type, after⟩, key, merged⟩ := bind_eq_ok_iff.mp merged
  have shorter := readKey_shortens (mapError_eq_ok_iff.mp key)
  simp only at merged
  split at merged
  · rename_i field found
    have member := List.mem_of_find?_eq_some found
    have within := consumes field member _ _ _ _ _ _ (mapError_eq_ok_iff.mp merged)
    omega
  · obtain ⟨left, skipped, same⟩ := bind_eq_ok_iff.mp merged
    cases same
    have within := (skip_suffix (mapError_eq_ok_iff.mp skipped)).length_le
    omega

section Values

variable {scalar : Scalar α} {size : α → Nat}

theorem Field.single_consumes [DecidableEq α] {get : M → α} {set : α → M → M}
    (consumes : scalar.Consumes size)
    (adds : ∀ value message, weight (set value message) ≤ weight message + size value) :
    (Field.single number name scalar get set).Consumes weight := by
  intro depth type message data next rest merged
  obtain ⟨⟨value, after⟩, read, same⟩ := bind_eq_ok_iff.mp merged
  cases same
  have within := Scalar.readAs_consumes consumes read
  have bound := adds value message
  omega

theorem Field.optional_consumes {get : M → Option α} {set : Option α → M → M}
    (consumes : scalar.Consumes size)
    (adds : ∀ value message, weight (set (some value) message) ≤ weight message + size value) :
    (Field.optional number name scalar get set).Consumes weight := by
  intro depth type message data next rest merged
  obtain ⟨⟨value, after⟩, read, same⟩ := bind_eq_ok_iff.mp merged
  cases same
  have within := Scalar.readAs_consumes consumes read
  have bound := adds value message
  omega

theorem Field.repeated_consumes {get : M → List α} {set : List α → M → M}
    (consumes : scalar.Consumes size)
    (adds : ∀ value message,
      weight (set (get message ++ [value]) message) ≤ weight message + size value) :
    (Field.repeated number name scalar get set).Consumes weight := by
  intro depth type message data next rest merged
  obtain ⟨⟨value, after⟩, read, same⟩ := bind_eq_ok_iff.mp merged
  cases same
  have within := Scalar.readAs_consumes consumes read
  have bound := adds value message
  omega

theorem Scalar.element_consumes (consumes : scalar.Consumes fun _ => 0) :
    Wire.Consumes (fun _ : List α => 0) fun known data => do
      let (value, rest) ← (scalar.read data).mapError Fault.of
      return (known ++ [value], rest) := by
  intro known data next rest stepped
  obtain ⟨⟨value, after⟩, read, same⟩ := bind_eq_ok_iff.mp stepped
  cases same
  have within := consumes _ _ _ (mapError_eq_ok_iff.mp read)
  simp only at within ⊢
  omega

theorem Field.packed_consumes {get : M → List α} {set : List α → M → M}
    (consumes : scalar.Consumes fun _ => 0)
    (adds : ∀ values message, weight (set values message) ≤ weight message) :
    (Field.packed number name scalar get set).Consumes weight := by
  intro depth type message data next rest merged
  simp only [Field.packed] at merged
  split at merged
  · obtain ⟨⟨values, after⟩, read, same⟩ := bind_eq_ok_iff.mp merged
    cases same
    have within := (Scalar.element_consumes consumes).readPart Fault.of _ _ _ _ read
    have bound := adds values message
    simp only at within ⊢
    omega
  · obtain ⟨⟨value, after⟩, read, same⟩ := bind_eq_ok_iff.mp merged
    cases same
    have within := Scalar.readAs_consumes consumes read
    have bound := adds (get message ++ [value]) message
    simp only at within ⊢
    omega

end Values

theorem Schema.asField_consumes {inner : Schema N} {get : M → Option N} {set : Option N → M → M}
    {part : N → Nat} (consumes : ∀ field ∈ inner.fields, field.Consumes part)
    (adds : ∀ content message, weight (set (some content) message) +
      part ((get message).getD inner.empty) ≤ weight message + part content) :
    (inner.asField number name get set).Consumes weight := by
  intro depth type message data next rest merged
  obtain ⟨-, -, merged⟩ := bind_eq_ok_iff.mp merged
  cases depth with
  | zero => cases merged
  | succ depth =>
    obtain ⟨⟨content, after⟩, read, same⟩ := bind_eq_ok_iff.mp merged
    cases same
    have within := (Schema.mergeField_consumes consumes depth).readPart Fault.of _ _ _ _ read
    have bound := adds content message
    omega

/-- A message weighs at most as much as there are bytes that it is read from. -/
theorem Schema.weight_le_of_read {schema : Schema M}
    (consumes : ∀ field ∈ schema.fields, field.Consumes weight) (empty : weight schema.empty = 0)
    {data : Bytes} {message : M} (found : schema.read data = .ok message) :
    weight message ≤ data.length := by
  obtain ⟨⟨final, rest⟩, taken, same⟩ := bind_eq_ok_iff.mp found
  cases same
  have within := (Schema.mergeField_consumes consumes depthLimit).takeWhileAbove 0 _ _ _ _ taken
  omega

end Fields

end TokenClaim.Wire
