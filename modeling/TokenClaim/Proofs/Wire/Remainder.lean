import TokenClaim.Proofs.Wire.Varint
import TokenClaim.Wire.Message
/-!
What a reader leaves is the end of what it was given, whatever it passes over on the way. So where a
part of a message is not as it was at the start, the key of its field stands in the bytes, in
whatever order and among whatever else they hold.
-/

set_option autoImplicit false

namespace TokenClaim.Wire

theorem Varint.read_suffix {value : Nat} {data rest : Bytes}
    (found : read data = .ok (value, rest)) : rest <:+ data := by
  obtain ⟨first, tail, rfl, -, behind⟩ := read_first found
  exact behind.trans (List.suffix_cons _ _)

theorem readKey_suffix {number : Nat} {type : WireType} {data rest : Bytes}
    (found : readKey data = .ok (number, type, rest)) : rest <:+ data := by
  obtain ⟨key, read, -⟩ := readKey_eq_ok found
  exact Varint.read_suffix read

theorem readLength_suffix {length : Nat} {data rest : Bytes}
    (found : readLength data = .ok (length, rest)) : rest <:+ data := by
  obtain ⟨⟨count, after⟩, read, found⟩ := bind_eq_ok_iff.mp found
  simp only at found
  split at found
  · cases found
  · cases found
    exact Varint.read_suffix read

section Repetition

variable {ε σ β : Type} {step : σ → Bytes → Except ε (σ × Bytes)}

theorem takeWhileAbove_along (across : σ × Bytes → σ × Bytes → Prop)
    (stay : ∀ here, across here here)
    (join : ∀ first between last, across first between → across between last → across first last)
    (each : ∀ state data reached, step state data = .ok reached → across (state, data) reached)
    {limit : Nat} {state : σ} {data : Bytes} {reached : σ × Bytes}
    (taken : takeWhileAbove step limit state data = .ok reached) :
    across (state, data) reached := by
  fun_induction takeWhileAbove step limit state data with
  | case1 state data more fault refused => cases taken
  | case2 state data more between left stepped shorter ih =>
    exact join _ _ _ (each _ _ _ stepped) (ih taken)
  | case3 state data more between left stepped stuck =>
    cases taken
    exact each _ _ _ stepped
  | case4 state data short =>
    cases taken
    exact stay _

/-- A step that goes through leaves the end of the bytes, and a view of the state as it was. -/
def Forward (view : σ → β) (step : σ → Bytes → Except ε (σ × Bytes)) : Prop :=
  ∀ (state : σ) (data : Bytes) (next : σ) (rest : Bytes), step state data = .ok (next, rest) →
    rest <:+ data ∧ view next = view state

variable {view : σ → β}

theorem Forward.takeWhileAbove (forward : Forward view step) (limit : Nat) :
    Forward view (takeWhileAbove step limit) := by
  intro state data next rest taken
  refine takeWhileAbove_along (fun here there => there.2 <:+ here.2 ∧ view there.1 = view here.1)
    (fun _ => ⟨List.suffix_rfl, rfl⟩) ?join (fun _ _ _ stepped => forward _ _ _ _ stepped) taken
  case join =>
    rintro first between last ⟨shorter, same⟩ ⟨further, still⟩
    exact ⟨further.trans shorter, still.trans same⟩

theorem Forward.readPart (forward : Forward view step) (fault : Cause → ε) :
    Forward view (readPart fault step) := by
  intro state data next rest taken
  obtain ⟨⟨length, part⟩, counted, taken⟩ := bind_eq_ok_iff.mp taken
  have behind := readLength_suffix (mapError_eq_ok_iff.mp counted)
  obtain ⟨⟨final, left⟩, stepped, taken⟩ := bind_eq_ok_iff.mp taken
  simp only at taken
  split at taken
  · cases taken
    obtain ⟨within, same⟩ := forward.takeWhileAbove _ _ _ _ _ stepped
    exact ⟨within.trans behind, same⟩
  · cases taken

end Repetition

section Skipping

theorem skipBytes_suffix {count : Nat} {data rest : Bytes}
    (skipped : skipBytes count data = .ok rest) : rest <:+ data := by
  unfold skipBytes at skipped
  split at skipped
  · cases skipped
  · cases skipped
    exact List.drop_suffix _ _

theorem skipGroup_suffix {skipField : WireType → Nat → Bytes → Except Cause Bytes}
    (forward : ∀ type number data rest, skipField type number data = .ok rest → rest <:+ data)
    {number : Nat} {data rest : Bytes} (skipped : skipGroup skipField number data = .ok rest) :
    rest <:+ data := by
  fun_induction skipGroup skipField number data with
  | case1 data cause refused => cases skipped
  | case2 data after key =>
    cases skipped
    exact readKey_suffix key
  | case3 data inner after stray key => cases skipped
  | case4 data inner type after key more cause refused => cases skipped
  | case5 data inner type after key more left field shorter ih =>
    exact (ih skipped).trans ((forward _ _ _ _ field).trans (readKey_suffix key))
  | case6 data inner type after key more left field stuck =>
    cases skipped
    exact (forward _ _ _ _ field).trans (readKey_suffix key)

theorem skip_suffix {depth number : Nat} {type : WireType} {data rest : Bytes}
    (skipped : skip depth type number data = .ok rest) : rest <:+ data := by
  -- Groups nest, so that what one depth leaves rests on what the depth below it does.
  induction depth generalizing type number data rest with
  | zero => cases skipped
  | succ depth ih =>
    cases type with
    | varint =>
      simp only [skip] at skipped
      cases read : Varint.read data with
      | error cause =>
        rw [read] at skipped
        cases skipped
      | ok found =>
        rw [read] at skipped
        cases skipped
        exact Varint.read_suffix read
    | fixed64 => exact skipBytes_suffix skipped
    | fixed32 => exact skipBytes_suffix skipped
    | delimited =>
      obtain ⟨⟨length, part⟩, counted, skipped⟩ := bind_eq_ok_iff.mp skipped
      exact (skipBytes_suffix skipped).trans (readLength_suffix counted)
    | groupStart => exact skipGroup_suffix (fun _ _ _ _ inner => ih inner) skipped
    | groupEnd => cases skipped

end Skipping

namespace Scalar

variable {α : Type}

def Forward (scalar : Scalar α) : Prop :=
  ∀ (data : Bytes) (value : α) (rest : Bytes), scalar.read data = .ok (value, rest) → rest <:+ data

theorem number_suffix (ofNat : Nat → α) {data rest : Bytes} {value : α}
    (found : (do
      let (number, rest) ← Varint.read data
      return (ofNat number, rest)) = .ok (value, rest)) : rest <:+ data := by
  obtain ⟨⟨number, after⟩, read, same⟩ := bind_eq_ok_iff.mp found
  cases same
  exact Varint.read_suffix read

theorem word64_forward : word64.Forward := fun _ _ _ found => number_suffix UInt64.ofNat found

theorem word32_forward : word32.Forward := fun _ _ _ found => number_suffix UInt32.ofNat found

theorem flag_forward : flag.Forward := fun _ _ _ found => number_suffix (· != 0) found

theorem bytes_forward : bytes.Forward := by
  intro data value rest found
  obtain ⟨⟨length, part⟩, counted, same⟩ := bind_eq_ok_iff.mp found
  cases same
  exact (List.drop_suffix _ _).trans (readLength_suffix counted)

theorem text_forward : text.Forward := by
  intro data value rest found
  obtain ⟨⟨content, after⟩, read, found⟩ := bind_eq_ok_iff.mp found
  have behind := bytes_forward _ _ _ read
  simp only at found
  split at found
  · cases found
    exact behind
  · cases found

end Scalar

section Fields

variable {M N α β : Type} {number : Nat} {name : String} {view : M → β}

def Field.Forward (field : Field M) (view : M → β) : Prop :=
  ∀ (depth : Nat) (type : WireType), Wire.Forward view (field.merge depth type)

section Values

variable {scalar : Scalar α} (forward : scalar.Forward)
include forward

theorem Scalar.merge_forward (put : α → M → M)
    (keeps : ∀ value message, view (put value message) = view message) (type : WireType) :
    Wire.Forward view fun message data => do
      let (value, rest) ← (scalar.readAs type data).mapError Fault.of
      return (put value message, rest) := by
  intro message data next rest merged
  obtain ⟨⟨value, after⟩, found, same⟩ := bind_eq_ok_iff.mp merged
  cases same
  obtain ⟨-, -, read⟩ := bind_eq_ok_iff.mp (mapError_eq_ok_iff.mp found)
  exact ⟨forward _ _ _ read, keeps value message⟩

theorem Field.single_forward [DecidableEq α] {get : M → α} {set : α → M → M}
    (keeps : ∀ value message, view (set value message) = view message) :
    (Field.single number name scalar get set).Forward view :=
  fun _ type => Scalar.merge_forward forward set keeps type

theorem Field.optional_forward {get : M → Option α} {set : Option α → M → M}
    (keeps : ∀ value message, view (set value message) = view message) :
    (Field.optional number name scalar get set).Forward view :=
  fun _ type => Scalar.merge_forward forward (fun value => set (some value))
    (fun value => keeps (some value)) type

theorem Field.repeated_forward {get : M → List α} {set : List α → M → M}
    (keeps : ∀ values message, view (set values message) = view message) :
    (Field.repeated number name scalar get set).Forward view :=
  fun _ type => Scalar.merge_forward forward
    (fun value message => set (get message ++ [value]) message) (fun _ message => keeps _ message)
    type

theorem Scalar.element_forward : Wire.Forward (fun _ : List α => ()) fun known data => do
    let (value, rest) ← (scalar.read data).mapError Fault.of
    return (known ++ [value], rest) := by
  intro known data next rest stepped
  obtain ⟨⟨value, after⟩, found, same⟩ := bind_eq_ok_iff.mp stepped
  cases same
  exact ⟨forward _ _ _ (mapError_eq_ok_iff.mp found), rfl⟩

theorem Field.packed_forward {get : M → List α} {set : List α → M → M}
    (keeps : ∀ values message, view (set values message) = view message) :
    (Field.packed number name scalar get set).Forward view := by
  intro depth type message data next rest merged
  simp only [Field.packed] at merged
  split at merged
  · obtain ⟨⟨values, after⟩, read, same⟩ := bind_eq_ok_iff.mp merged
    cases same
    exact ⟨((Scalar.element_forward forward).readPart Fault.of _ _ _ _ read).1, keeps _ _⟩
  · -- A single value is taken in as in a list that is not packed.
    exact Scalar.merge_forward forward (fun value message => set (get message ++ [value]) message)
      (fun _ message => keeps _ message) type _ _ _ _ merged

end Values

theorem Schema.mergeField_forward {schema : Schema M}
    (forward : ∀ field ∈ schema.fields, field.Forward view) (depth : Nat) :
    Forward view (schema.mergeField depth) := by
  intro message data next rest merged
  obtain ⟨⟨number, type, after⟩, key, merged⟩ := bind_eq_ok_iff.mp merged
  have behind := readKey_suffix (mapError_eq_ok_iff.mp key)
  simp only at merged
  split at merged
  · rename_i field found
    have member := List.mem_of_find?_eq_some found
    obtain ⟨within, same⟩ := forward field member _ _ _ _ _ _ (mapError_eq_ok_iff.mp merged)
    exact ⟨within.trans behind, same⟩
  · obtain ⟨left, skipped, same⟩ := bind_eq_ok_iff.mp merged
    cases same
    exact ⟨(skip_suffix (mapError_eq_ok_iff.mp skipped)).trans behind, rfl⟩

theorem Schema.asField_forward {inner : Schema N} {get : M → Option N} {set : Option N → M → M}
    (forward : ∀ field ∈ inner.fields, field.Forward fun _ => ())
    (keeps : ∀ content message, view (set content message) = view message) :
    (inner.asField number name get set).Forward view := by
  intro depth type message data next rest merged
  obtain ⟨-, -, merged⟩ := bind_eq_ok_iff.mp merged
  cases depth with
  | zero => cases merged
  | succ depth =>
    obtain ⟨⟨content, after⟩, read, same⟩ := bind_eq_ok_iff.mp merged
    cases same
    have part := (Schema.mergeField_forward forward depth).readPart Fault.of _ _ _ _ read
    exact ⟨part.1, keeps _ _⟩

def HasKey (number : Nat) (data : Bytes) : Prop :=
  ∃ start type rest, start <:+ data ∧ readKey start = .ok (number, type, rest)

theorem HasKey.of_suffix {tail data : Bytes} (has : HasKey number tail) (behind : tail <:+ data) :
    HasKey number data := by
  obtain ⟨start, type, rest, within, key⟩ := has
  exact ⟨start, type, rest, within.trans behind, key⟩

theorem HasKey.exists_byte {data : Bytes} (has : HasKey number data) :
    ∃ byte ∈ data, byte.toNat % 128 / 8 = number % 16 := by
  obtain ⟨start, type, rest, within, key⟩ := has
  obtain ⟨value, read, rfl⟩ := readKey_eq_ok key
  obtain ⟨first, tail, rfl, low, -⟩ := Varint.read_first read
  exact ⟨first, within.subset List.mem_cons_self, by omega⟩

/-- A view of a message, for fields that do not change it: what the field of one number does is not
looked at. -/
def Field.ForwardBeside (field : Field M) (number : Nat) (view : M → β) : Prop :=
  field.Forward fun message => if field.number = number then none else some (view message)

/-- If no other field changes what is looked at, it is as in the empty message, or the bytes hold a
key of the one that does. -/
theorem Schema.hasKey_of_read {schema : Schema M} {data : Bytes} {message : M}
    (forward : ∀ field ∈ schema.fields, field.ForwardBeside number view)
    (found : schema.read data = .ok message) (changed : view message ≠ view schema.empty) :
    HasKey number data := by
  obtain ⟨⟨final, rest⟩, taken, same⟩ := bind_eq_ok_iff.mp found
  cases same
  have unseen : ∀ field ∈ schema.fields, field.Forward fun _ => () :=
    fun field member _ _ _ _ _ _ merged => ⟨(forward field member _ _ _ _ _ _ merged).1, rfl⟩
  have along := takeWhileAbove_along (fun here there =>
      there.2 <:+ here.2 ∧ (view there.1 = view here.1 ∨ HasKey number here.2))
    (fun _ => ⟨List.suffix_rfl, Or.inl rfl⟩) ?join ?each taken
  case join =>
    rintro first between last ⟨shorter, same | has⟩ ⟨further, still⟩
    · refine ⟨further.trans shorter, ?_⟩
      rcases still with still | has
      · exact Or.inl (still.trans same)
      · exact Or.inr (has.of_suffix shorter)
    · exact ⟨further.trans shorter, Or.inr has⟩
  case each =>
    rintro state bytes ⟨next, left⟩ merged
    refine ⟨(Schema.mergeField_forward unseen depthLimit _ _ _ _ merged).1, ?_⟩
    obtain ⟨⟨here, type, after⟩, key, merged⟩ := bind_eq_ok_iff.mp merged
    have key := mapError_eq_ok_iff.mp key
    by_cases same : here = number
    · exact Or.inr ⟨bytes, type, after, List.suffix_rfl, same ▸ key⟩
    simp only at merged
    split at merged
    · rename_i field found
      have other : field.number ≠ number := by
        have numbered := List.find?_some found
        exact fun equal => same ((beq_iff_eq.mp numbered).symm.trans equal)
      have kept := (forward field (List.mem_of_find?_eq_some found) _ _ _ _ _ _
        (mapError_eq_ok_iff.mp merged)).2
      simp only [if_neg other, Option.some.injEq] at kept
      exact Or.inl kept
    · obtain ⟨_, -, done⟩ := bind_eq_ok_iff.mp merged
      cases done
      exact Or.inl rfl
  exact along.2.resolve_left changed

end Fields

end TokenClaim.Wire
