import TokenClaim.Proofs.Checked
import TokenClaim.Proofs.Text.Hex
import TokenClaim.Proofs.Text.Numeral
import TokenClaim.Proofs.Text.Positional
import TokenClaim.Quantity
/-!
Quantities in hexadecimal digits are read exactly: after at most one mark there is at least one
digit, in either case and with any zeros in front, and the number fits in 64 bits. One kind of text
is read besides: a plus sign may stand before the digits, also after the mark.
-/

set_option autoImplicit false

namespace TokenClaim

open Text Text.Hex

theorem Text.Hex.digit?_sixteen_iff {c : Char} {value : Nat} :
    Numeral.digit? 16 c = some value ↔ IsDigit c value := by
  rw [isDigit_iff, Numeral.digit?, Option.filter_eq_some_iff, Numeral.alphanumeric?]
  simp only [Bool.and_eq_true, decide_eq_true_eq]
  split
  · simp only [Option.some.injEq]
    omega
  split
  · simp only [Option.some.injEq]
    omega
  split
  · simp only [Option.some.injEq]
    omega
  · simp only [reduceCtorEq, false_and, false_iff]
    omega

namespace HexQuantity

variable {chars : List Char} {value : Nat} {text : String} {quantity : UInt64}

/-- A number in hexadecimal digits: at least one, in either case and with any zeros in front. -/
structure Digits (chars : List Char) (value : Nat) : Prop where
  nonempty : chars ≠ []
  number : ∃ digits, List.Forall₂ IsDigit chars digits ∧ ofPositional 16 digits = value

def IsMark (mark : List Char) : Prop := mark = [] ∨ mark = ['0', 'x'] ∨ mark = ['0', 'X']

/-- A quantity is written as its digits after a mark, with a sign between the two. -/
def SpelledWith (sign : List Char) (text : String) (quantity : UInt64) : Prop :=
  ∃ mark digits, IsMark mark ∧ text.toList = mark ++ (sign ++ digits) ∧
    Digits digits quantity.toNat

theorem not_isDigit {c : Char} {digit : Nat} (other : c = '+' ∨ c = 'x' ∨ c = 'X') :
    ¬IsDigit c digit := by
  intro isDigit
  have range := isDigit_iff.mp isDigit
  rcases other with rfl | rfl | rfl <;> simp only [Char.reduceToNat] at range <;> omega

theorem Digits.not_mem {c : Char} (written : Digits chars value)
    (other : c = '+' ∨ c = 'x' ∨ c = 'X') : c ∉ chars := by
  obtain ⟨-, digits, alike, -⟩ := written
  induction alike with
  | nil => exact List.not_mem_nil
  | cons first _ ih =>
    rw [List.mem_cons, not_or]
    exact ⟨fun same => not_isDigit other (same ▸ first), ih⟩

theorem Digits.dropQuantityMark_eq (written : Digits chars value) :
    dropQuantityMark chars = chars := by
  fun_cases dropQuantityMark chars
  · exact absurd (by simp) (written.not_mem (Or.inr (Or.inl rfl)))
  · exact absurd (by simp) (written.not_mem (Or.inr (Or.inr rfl)))
  · rfl

theorem dropQuantityMark_mark {mark rest : List Char} (isMark : IsMark mark)
    (plain : dropQuantityMark rest = rest) : dropQuantityMark (mark ++ rest) = rest := by
  rcases isMark with rfl | rfl | rfl
  · exact plain
  · rfl
  · rfl

theorem exists_mark (text : List Char) :
    ∃ mark, IsMark mark ∧ text = mark ++ dropQuantityMark text := by
  fun_cases dropQuantityMark text
  · exact ⟨['0', 'x'], Or.inr (Or.inl rfl), rfl⟩
  · exact ⟨['0', 'X'], Or.inr (Or.inr rfl), rfl⟩
  · exact ⟨[], Or.inl rfl, rfl⟩

theorem Digits.iff_readDigits : Digits chars quantity.toNat ↔
    chars ≠ [] ∧ Numeral.readDigits 16 UInt64.size 0 chars = .ok quantity.toNat := by
  simp only [Numeral.readDigits_eq_ok_iff (by decide : 0 < 16) (by decide : 0 < UInt64.size),
    digit?_sixteen_iff]
  constructor
  · rintro ⟨some, number⟩
    exact ⟨some, quantity.toNat_lt, number⟩
  · rintro ⟨some, -, number⟩
    exact ⟨some, number⟩

theorem readWord64_sixteen_eq_ok_iff :
    Numeral.readWord64 16 chars = .ok quantity ↔
      ∃ digits, (chars = digits ∨ chars = '+' :: digits) ∧ Digits digits quantity.toNat := by
  rw [Numeral.readWord64_eq_ok_iff (by decide), Numeral.readBelow_eq_ok_iff]
  refine exists_congr fun digits => ?_
  rw [Digits.iff_readDigits, and_left_comm]

theorem read_eq_ok_iff_readWord64 :
    readHexQuantity text = .ok quantity ↔
      Numeral.readWord64 16 (dropQuantityMark text.toList) = .ok quantity := by
  unfold readHexQuantity
  cases digits : dropQuantityMark text.toList with
  | nil => simp [Numeral.readWord64, Numeral.readBelow, Except.map]
  | cons first rest =>
    simp only [List.isEmpty_cons, Bool.false_eq_true, if_false]
    split <;> simp [*]

theorem read_eq_ok_iff :
    readHexQuantity text = .ok quantity ↔
      SpelledWith [] text quantity ∨ SpelledWith ['+'] text quantity := by
  rw [read_eq_ok_iff_readWord64, readWord64_sixteen_eq_ok_iff]
  constructor
  · rintro ⟨digits, signed, written⟩
    obtain ⟨mark, isMark, split⟩ := exists_mark text.toList
    rcases signed with same | same
    · exact Or.inl ⟨mark, digits, isMark, by rw [split, same]; rfl, written⟩
    · exact Or.inr ⟨mark, digits, isMark, by rw [split, same]; rfl, written⟩
  · rintro (⟨mark, digits, isMark, split, written⟩ | ⟨mark, digits, isMark, split, written⟩)
    · refine ⟨digits, Or.inl ?_, written⟩
      rw [split]
      exact dropQuantityMark_mark isMark written.dropQuantityMark_eq
    · refine ⟨digits, Or.inr ?_, written⟩
      rw [split]
      exact dropQuantityMark_mark isMark rfl

theorem read_refused (text : String) :
    (∃ quantity, readHexQuantity text = .ok quantity) ∨
      ∃ cause, readHexQuantity text = .error (.malformed cause) := by
  unfold readHexQuantity
  dsimp only
  split
  · exact Or.inr ⟨_, rfl⟩
  split
  · exact Or.inl ⟨_, rfl⟩
  · exact Or.inr ⟨_, rfl⟩

theorem SpelledWith.no_plus (spelled : SpelledWith [] text quantity) : '+' ∉ text.toList := by
  obtain ⟨mark, digits, isMark, split, written⟩ := spelled
  rw [split, List.nil_append, List.mem_append, not_or]
  refine ⟨?_, written.not_mem (Or.inl rfl)⟩
  rcases isMark with rfl | rfl | rfl <;> decide

theorem SpelledWith.plus (spelled : SpelledWith ['+'] text quantity) : '+' ∈ text.toList := by
  obtain ⟨mark, digits, -, split, -⟩ := spelled
  rw [split]
  simp

section Rendering

theorem Digits.concat {c : Char} {digit : Nat} (written : Digits chars value)
    (isDigit : IsDigit c digit) : Digits (chars ++ [c]) (value * 16 + digit) := by
  obtain ⟨-, digits, alike, rfl⟩ := written
  refine ⟨by simp, digits ++ [digit], ?_, ofPositional_concat 16 digits digit⟩
  exact List.rel_append alike (List.Forall₂.cons isDigit List.Forall₂.nil)

theorem digits_toDigits (letterCase : Char → Char)
    (kept : ∀ digit < 16, IsDigit (letterCase (Nat.digitChar digit)) digit) (value : Nat) :
    Digits ((Nat.toDigits 16 value).map letterCase) value := by
  induction value using Nat.strongRecOn with
  | ind value ih =>
    rcases Nat.lt_or_ge value 16 with small | large
    · rw [Nat.toDigits_of_lt_base small]
      refine ⟨by simp, [value], List.Forall₂.cons (kept value small) List.Forall₂.nil, ?_⟩
      simp [ofPositional]
    · have higher := ih (value / 16) (Nat.div_lt_self (by omega) (by omega))
      have last := kept (value % 16) (Nat.mod_lt _ (by omega))
      rw [Nat.toDigits_of_base_le (by omega) large, List.map_append, List.map_singleton]
      have whole := higher.concat last
      rwa [Nat.div_add_mod'] at whole

theorem digits_lower (value : Nat) : Digits (Nat.toDigits 16 value) value := by
  have kept : ∀ value < 16, (Nat.digitChar value).toLower = digit value := by decide
  have written := digits_toDigits id (fun value small => ⟨small, kept value small⟩) value
  rwa [List.map_id] at written

theorem digits_upper (value : Nat) : Digits ((Nat.toDigits 16 value).map Char.toUpper) value := by
  have kept : ∀ value < 16, (Nat.digitChar value).toUpper.toLower = digit value := by decide
  exact digits_toDigits Char.toUpper (fun value small => ⟨small, kept value small⟩) value

theorem read_spelled {mark : List Char} (isMark : IsMark mark)
    (written : Digits chars quantity.toNat) :
    readHexQuantity (String.ofList (mark ++ chars)) = .ok quantity :=
  read_eq_ok_iff.mpr (Or.inl ⟨mark, chars, isMark, String.toList_ofList, written⟩)

end Rendering

/-- Which quantities are read: those of a text in digits, with or without a plus sign before the
digits; any other text is refused as malformed. So a text is read exactly if it is none with such a
sign, and what is written of a quantity in either case is read as that quantity. -/
theorem read_exact (text : String) (quantity : UInt64) :
    (readHexQuantity text = .ok quantity ↔
      SpelledWith [] text quantity ∨ SpelledWith ['+'] text quantity) ∧
    ((∃ read, readHexQuantity text = .ok read) ∨
      ∃ cause, readHexQuantity text = .error (.malformed cause)) ∧
    ((∀ read, readHexQuantity text = .ok read ↔ SpelledWith [] text read) ↔
      ∀ read, ¬SpelledWith ['+'] text read) ∧
    ∀ mark, IsMark mark →
      readHexQuantity (String.ofList (mark ++ Nat.toDigits 16 quantity.toNat)) = .ok quantity ∧
      readHexQuantity (String.ofList (mark ++ (Nat.toDigits 16 quantity.toNat).map Char.toUpper)) =
        .ok quantity := by
  refine ⟨read_eq_ok_iff, read_refused text, ?signs, fun mark isMark => ?rendered⟩
  case signs =>
    simp only [read_eq_ok_iff]
    constructor
    · intro exact read signed
      exact ((exact read).mp (Or.inr signed)).no_plus signed.plus
    · intro unsigned read
      exact or_iff_left (unsigned read)
  case rendered =>
    exact ⟨read_spelled isMark (digits_lower _), read_spelled isMark (digits_upper _)⟩

theorem read_exact_capitals :
    IsMark ['0', 'X'] ∧ readHexQuantity "0XFFFFFFFFFFFFFFFF" = .ok 0xFFFFFFFFFFFFFFFF := by
  have isMark : IsMark ['0', 'X'] := Or.inr (Or.inr rfl)
  exact ⟨isMark, ((read_exact "" 0xFFFFFFFFFFFFFFFF).2.2.2 _ isMark).2⟩

theorem signed_quantity_read :
    ¬∀ text quantity, readHexQuantity text = .ok quantity ↔
      SpelledWith [] text quantity := by
  intro exact
  have read : readHexQuantity "0x+5" = .ok 5 := rfl
  exact ((exact "0x+5" 5).mp read).no_plus (by decide)

end HexQuantity

end TokenClaim
