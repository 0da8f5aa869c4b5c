import Mathlib.Data.List.TakeWhile
import TokenClaim.FileContent
import TokenClaim.Proofs.Descriptor.RoundTrip
import TokenClaim.Proofs.Text.Hex
import TokenClaim.Record.Claim
import TokenClaim.Record.Vamp
/-!
When a file is taken for hexadecimal text. Such a text is made of digits, blanks and the mark, so it
has none of the bytes that start the key of a descriptor's solver, nor those that tell the kinds of
account data. On the other hand each such text is read as the bytes that its digits write.
-/

set_option autoImplicit false

namespace TokenClaim

namespace Text

variable {c : Char} {text : List Char}

/-- Where the blanks are: below the digits, or far above the letters. -/
theorem toNat_of_isBlank (blank : isBlank c = true) :
    c.toNat ≤ 32 ∨ c.toNat = 133 ∨ c.toNat = 160 ∨ c.toNat = 5760 ∨ 8192 ≤ c.toNat := by
  simp only [isBlank, Bool.or_eq_true, Bool.and_eq_true, decide_eq_true_eq, beq_iff_eq] at blank
  omega

theorem mem_dropWhile_isBlank (member : c ∈ text) : c ∈ text.dropWhile isBlank ∨ isBlank c := by
  rw [← text.takeWhile_append_dropWhile (p := isBlank), List.mem_append] at member
  rcases member with blank | kept
  · exact Or.inr (List.mem_takeWhile_imp blank)
  · exact Or.inl kept

theorem mem_trim (member : c ∈ text) : c ∈ trim text ∨ isBlank c := by
  rcases mem_dropWhile_isBlank member with kept | blank
  · have turned := mem_dropWhile_isBlank (List.mem_reverse.mpr kept)
    rwa [← List.mem_reverse] at turned
  · exact Or.inr blank

theorem dropWhile_isBlank_append {before middle : List Char} (blank : ∀ c ∈ before, isBlank c)
    (solid : ∀ c ∈ middle, ¬isBlank c) (some : middle ≠ []) (after : List Char) :
    (before ++ (middle ++ after)).dropWhile isBlank = middle ++ after := by
  rw [List.dropWhile_append_of_pos blank]
  cases middle with
  | nil => exact absurd rfl some
  | cons first rest => exact List.dropWhile_cons_of_neg (solid first List.mem_cons_self)

theorem trim_append {before middle after : List Char} (blankBefore : ∀ c ∈ before, isBlank c)
    (blankAfter : ∀ c ∈ after, isBlank c) (solid : ∀ c ∈ middle, ¬isBlank c) (some : middle ≠ []) :
    trim (before ++ (middle ++ after)) = middle := by
  have turned : (middle ++ after).reverse = after.reverse ++ (middle.reverse ++ []) := by
    rw [List.reverse_append, List.append_nil]
  rw [trim, dropWhile_isBlank_append blankBefore solid some, turned, dropWhile_isBlank_append,
    List.append_nil, List.reverse_reverse]
  · simpa using blankAfter
  · simpa using solid
  · simpa using some

theorem Hex.mem_dropMarks (member : c ∈ text) : c ∈ dropMarks text ∨ c = '0' ∨ c = 'x' := by
  fun_induction dropMarks text with
  | case1 rest ih =>
    rcases List.mem_cons.mp member with rfl | member
    · exact Or.inr (Or.inl rfl)
    rcases List.mem_cons.mp member with rfl | member
    · exact Or.inr (Or.inr rfl)
    · exact ih member
  | case2 => exact Or.inl member

end Text

namespace FileContent

open Text Text.Hex

theorem isHexDigit_iff {c : Char} : isHexDigit c = true ↔
    48 ≤ c.toNat ∧ c.toNat ≤ 57 ∨ 97 ≤ c.toNat ∧ c.toNat ≤ 102 ∨ 65 ≤ c.toNat ∧ c.toNat ≤ 70 := by
  simp only [isHexDigit, Char.isDigit, Bool.or_eq_true, Bool.and_eq_true, decide_eq_true_eq,
    Char.le_def, ge_iff_le, UInt32.le_iff_toNat_le, Char.toNat_val, or_assoc]
  rfl

theorem isHexDigit_of_isDigit {c : Char} {value : Nat} (isDigit : IsDigit c value) :
    isHexDigit c = true := by
  have range := isDigit_iff.mp isDigit
  exact isHexDigit_iff.mpr (by omega)

def IsPlain (c : Char) : Prop := isHexDigit c = true ∨ isBlank c = true ∨ c = 'x'

theorem IsPlain.point {c : Char} (plain : IsPlain c) :
    c.toNat ≠ 71 ∧ c.toNat / 8 ≠ 11 ∧ (c.toNat < 1536 ∨ 2048 ≤ c.toNat) := by
  rcases plain with hex | blank | rfl
  · have range := isHexDigit_iff.mp hex
    omega
  · have range := toNat_of_isBlank blank
    omega
  · decide

/-- A byte that no plain character has: `G`, those from `X` to `_`, and those that start a character
between U+0600 and U+07FF. -/
def IsForeign (byte : UInt8) : Prop := byte.toNat = 71 ∨ byte.toNat % 128 / 8 = 11

theorem IsPlain.not_isForeign {c : Char} {byte : UInt8} (plain : IsPlain c)
    (member : byte ∈ String.utf8EncodeChar c) : ¬IsForeign byte := by
  obtain ⟨single, double⟩ := of_mem_utf8EncodeChar member
  have point := plain.point
  have small := byte.toNat_lt
  unfold IsForeign
  omega

variable {content : Bytes}

theorem plain_of_digits? {digits : List Char} (found : digits? content = some digits) :
    ∃ text, utf8 text = content ∧ ∀ c ∈ text.toList, IsPlain c := by
  obtain ⟨text, read, found⟩ := Option.bind_eq_some_iff.mp found
  simp only at found
  split at found
  · rename_i taken
    refine ⟨text, utf8_of_ofUtf8? read, fun c member => ?_⟩
    rcases mem_trim member with kept | blank
    · rcases mem_dropMarks kept with digit | rfl | rfl
      · exact Or.inl (List.all_eq_true.mp taken.2 c digit)
      · exact Or.inl rfl
      · exact Or.inr (Or.inr rfl)
    · exact Or.inr (Or.inl blank)
  · cases found

theorem bytes_of_foreign {byte : UInt8} (member : byte ∈ content) (foreign : IsForeign byte) :
    bytes content = .ok content := by
  cases found : digits? content with
  | none => simp only [bytes, found]
  | some digits =>
    obtain ⟨text, rfl, plain⟩ := plain_of_digits? found
    rw [utf8_eq_flatMap] at member
    obtain ⟨c, inside, part⟩ := List.mem_flatMap.mp member
    exact absurd foreign ((plain c inside).not_isForeign part)

/-- A file that writes bytes: their digits in either case, with `0x` in front or not, and with any
blanks around. -/
inductive WritesHex (written : Bytes) : Bytes → Prop where
  | intro {before mark digits after : List Char} (blankBefore : ∀ c ∈ before, isBlank c = true)
      (marked : mark = [] ∨ mark = ['0', 'x']) (spells : Spells digits written)
      (blankAfter : ∀ c ∈ after, isBlank c = true) :
      WritesHex written (utf8 (String.ofList (before ++ (mark ++ digits ++ after))))

theorem not_isBlank_of_isHexDigit {c : Char} (hex : isHexDigit c = true) : ¬isBlank c = true := by
  intro blank
  have digits := isHexDigit_iff.mp hex
  have blanks := toNat_of_isBlank blank
  omega

section Marks

variable {mark digits : List Char} (all : ∀ c ∈ digits, isHexDigit c = true)
  (marked : mark = [] ∨ mark = ['0', 'x'])
include all

theorem dropMarks_of_all : dropMarks digits = digits := by
  fun_cases dropMarks digits with
  | case1 rest => exact absurd (all 'x' (by simp)) (by decide)
  | case2 => rfl

include marked

theorem dropMarks_marked : dropMarks (mark ++ digits) = digits := by
  rcases marked with rfl | rfl
  · exact dropMarks_of_all all
  · exact dropMarks_of_all all

theorem not_isBlank_marked : ∀ c ∈ mark ++ digits, ¬isBlank c = true := by
  intro c member
  rcases List.mem_append.mp member with inMark | digit
  · rcases marked with rfl | rfl
    · cases inMark
    · simp only [List.mem_cons, List.not_mem_nil, or_false] at inMark
      rcases inMark with rfl | rfl <;> decide
  · exact not_isBlank_of_isHexDigit (all c digit)

end Marks

theorem bytes_of_writesHex {written : Bytes} (nonempty : written ≠ [])
    (writes : WritesHex written content) : bytes content = .ok written := by
  obtain @⟨before, mark, digits, after, blankBefore, marked, spells, blankAfter⟩ := writes
  have all : ∀ c ∈ digits, isHexDigit c = true := by
    intro c member
    obtain ⟨value, isDigit⟩ := spells.all_digits c member
    exact isHexDigit_of_isDigit isDigit
  have some := spells.ne_nil nonempty
  have trimmed : trim (before ++ (mark ++ digits ++ after)) = mark ++ digits :=
    trim_append blankBefore blankAfter (not_isBlank_marked all marked) (by simp [some])
  have taken : (!digits.isEmpty) = true ∧ digits.all isHexDigit = true :=
    ⟨by simpa using some, List.all_eq_true.mpr all⟩
  have found : digits? (utf8 (String.ofList (before ++ (mark ++ digits ++ after)))) = digits := by
    simp only [digits?, ofUtf8?_utf8, Option.bind_eq_bind, Option.bind_some, String.toList_ofList,
      trimmed, dropMarks_marked all marked, if_pos taken]
  simp only [bytes, found, spells.decode]

/-- No file that holds what is to be read is misread: a descriptor that some policy accepts and
account data of either kind stand for themselves, and bytes that are written in hexadecimal are
read from it. -/
theorem never_misread (content : Bytes) :
    (∀ policy d, Descriptor.read policy content = .ok d → bytes content = .ok content) ∧
      (VampRecord.kind.discriminator.toBytes <+: content ∨
          ClaimMarker.kind.discriminator.toBytes <+: content → bytes content = .ok content) ∧
      ∀ written, written ≠ [] → WritesHex written content → bytes content = .ok written := by
  refine ⟨fun policy d accepted => ?descriptor, fun told => ?account,
    fun written nonempty writes => bytes_of_writesHex nonempty writes⟩
  case descriptor =>
    obtain ⟨byte, member, low⟩ := (Descriptor.hasKey_of_read accepted).exists_byte
    exact bytes_of_foreign member (Or.inr low)
  case account =>
    have firstOfVamp : IsForeign 222 := Or.inr rfl
    have firstOfMarker : IsForeign 71 := Or.inl rfl
    rcases told with vamp | marker
    · exact bytes_of_foreign (vamp.subset List.mem_cons_self) firstOfVamp
    · exact bytes_of_foreign (marker.subset List.mem_cons_self) firstOfMarker

end FileContent

namespace Market

def overlongOffer : Bytes :=
  [0xDA, 0x00] ++ Wire.Scalar.bytes.write offer.solverKey ++
    Descriptor.write { offer with solverKey := [] }

theorem read_overlongOffer : Descriptor.read .standard overlongOffer = .ok offer := by
  with_unfolding_all rfl

end Market

/-- A descriptor with an overlong key, the beginning of a vamp's account, and a marked text in both
cases with blanks around it. -/
theorem never_misread_overlong :
    FileContent.bytes Market.overlongOffer = .ok Market.overlongOffer ∧
      FileContent.bytes (VampRecord.kind.discriminator.toBytes ++ [0x30]) =
        .ok (VampRecord.kind.discriminator.toBytes ++ [0x30]) ∧
      FileContent.bytes (Text.utf8 "\t0xaB0c\r\n") = .ok [0xAB, 0x0C] := by
  have text : FileContent.WritesHex [0xAB, 0x0C] (Text.utf8 "\t0xaB0c\r\n") :=
    @FileContent.WritesHex.intro _ ['\t'] ['0', 'x'] ['a', 'B', '0', 'c'] ['\r', '\n']
      (List.all_eq_true.mp rfl) (Or.inr rfl) rfl (List.all_eq_true.mp rfl)
  exact ⟨(FileContent.never_misread _).1 _ _ Market.read_overlongOffer,
    (FileContent.never_misread _).2.1 (Or.inl (List.prefix_append _ _)),
    (FileContent.never_misread _).2.2 _ (by decide) text⟩

end TokenClaim
