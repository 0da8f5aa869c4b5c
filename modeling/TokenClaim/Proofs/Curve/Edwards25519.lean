import TokenClaim.Curve.Edwards25519
import TokenClaim.Proofs.Curve.Primes
/-!
The short forms of the points of the signature curve. The strings that pass for one are exactly
those whose `y` belongs to a point of the curve.
-/

set_option autoImplicit false

namespace TokenClaim.Edwards25519

def primeCertificate : List Modular.CertificateLine :=
  [⟨37, 2, [2, 2, 3, 3]⟩,
    ⟨43, 3, [2, 3, 7]⟩,
    ⟨47, 5, [2, 23]⟩,
    ⟨107, 2, [2, 53]⟩,
    ⟨127, 3, [2, 3, 3, 7]⟩,
    ⟨173, 2, [2, 2, 43]⟩,
    ⟨223, 3, [2, 3, 37]⟩,
    ⟨353, 3, [2, 2, 2, 2, 2, 11]⟩,
    ⟨479, 13, [2, 239]⟩,
    ⟨487, 3, [2, 3, 3, 3, 3, 3]⟩,
    ⟨991, 6, [2, 3, 3, 5, 11]⟩,
    ⟨1723, 3, [2, 3, 7, 41]⟩,
    ⟨2437, 2, [2, 2, 3, 7, 29]⟩,
    ⟨3727, 3, [2, 3, 3, 3, 3, 23]⟩,
    ⟨4153, 5, [2, 2, 2, 3, 173]⟩,
    ⟨9463, 3, [2, 3, 19, 83]⟩,
    ⟨32573, 2, [2, 2, 17, 479]⟩,
    ⟨37853, 2, [2, 2, 9463]⟩,
    ⟨57467, 2, [2, 59, 487]⟩,
    ⟨65147, 2, [2, 32573]⟩,
    ⟨75707, 2, [2, 37853]⟩,
    ⟨132049, 26, [2, 2, 2, 2, 3, 3, 7, 131]⟩,
    ⟨430751, 17, [2, 5, 5, 5, 1723]⟩,
    ⟨569003, 2, [2, 7, 97, 419]⟩,
    ⟨1923133, 2, [2, 2, 3, 43, 3727]⟩,
    ⟨8574133, 2, [2, 2, 3, 7, 103, 991]⟩,
    ⟨2773320623, 5, [2, 2437, 569003]⟩,
    ⟨72106336199, 7, [2, 13, 2773320623]⟩,
    ⟨31757755568855353, 10, [2, 2, 2, 3, 31, 107, 223, 4153, 430751]⟩,
    ⟨1919519569386763, 2, [2, 3, 7, 19, 47, 47, 127, 8574133]⟩,
    ⟨75445702479781427272750846543864801, 7,
      [2, 2, 2, 2, 2, 3, 3, 5, 5, 75707, 72106336199, 1919519569386763]⟩,
    ⟨74058212732561358302231226437062788676166966415465897661863160754340907, 2,
      [2, 3, 353, 57467, 132049, 1923133, 31757755568855353,
        75445702479781427272750846543864801]⟩,
    ⟨prime, 2,
      [2, 2, 3, 65147, 74058212732561358302231226437062788676166966415465897661863160754340907]⟩]

theorem certifies_primeCertificate :
    Modular.certifies Modular.firstPrimes primeCertificate = true := by
  decide +kernel

theorem prime_prime : Nat.Prime prime :=
  Modular.prime_of_certifies Modular.prime_of_mem_firstPrimes certifies_primeCertificate _
    (List.mem_of_getLast? rfl)

instance : Fact (Nat.Prime prime) := ⟨prime_prime⟩

def OnCurve (x y : ZMod prime) : Prop :=
  -x ^ 2 + y ^ 2 = 1 + -121665 / 121666 * x ^ 2 * y ^ 2

/-- The `y` of a short form: its bits but for the highest, which is the sign of `x`. -/
def ordinate (short : Digest) : ZMod prime :=
  (LittleEndian.read short.toBytes % 2 ^ 255 : Nat)

theorem coefficient_eq : (coefficient : ZMod prime) = -121665 / 121666 := by
  have divisor : ((121666 : Nat) : ZMod prime) ≠ 0 := by
    rw [ne_eq, Modular.cast_eq_zero_iff (by decide)]
    decide
  have product : ((coefficient * 121666 + 121665 : Nat) : ZMod prime) = 0 := by
    rw [ZMod.natCast_eq_zero_iff]
    decide
  push_cast at divisor product
  rw [eq_div_iff divisor]
  linear_combination product

theorem neg_one_square : IsSquare (-1 : ZMod prime) :=
  ZMod.exists_sq_eq_neg_one_iff.mpr (by decide)

theorem coefficient_not_square : ¬IsSquare (coefficient : ZMod prime) := by
  rw [← Modular.isSquare_eq_true_iff (by decide)]
  decide +kernel

/-- The divisor in the equation for `x²` is never zero: the coefficient would be the square of a
root of minus one over `y`. -/
theorem divisor_ne_zero (y : ZMod prime) : (coefficient : ZMod prime) * y ^ 2 + 1 ≠ 0 := by
  intro zero
  have nonzero : y ≠ 0 := by
    rintro rfl
    simp at zero
  obtain ⟨root, square⟩ := neg_one_square
  refine coefficient_not_square ⟨root / y, ?_⟩
  field_simp
  linear_combination zero + square

theorem isSquare_mul_iff {value divisor : ZMod prime} (nonzero : divisor ≠ 0) :
    IsSquare (value * divisor) ↔ ∃ x, value = x ^ 2 * divisor := by
  constructor
  · rintro ⟨root, square⟩
    refine ⟨root / divisor, ?_⟩
    field_simp
    linear_combination square
  · rintro ⟨x, rfl⟩
    exact ⟨x * divisor, by ring⟩

theorem onCurve_iff {x y : ZMod prime} :
    OnCurve x y ↔ y ^ 2 - 1 = x ^ 2 * (coefficient * y ^ 2 + 1) := by
  rw [OnCurve, ← coefficient_eq]
  constructor
  · intro equation
    linear_combination equation
  · intro equation
    linear_combination equation

theorem cast_prime_sub_one : ((prime - 1 : Nat) : ZMod prime) = -1 := by
  rw [Nat.cast_sub prime_prime.one_le, ZMod.natCast_self, Nat.cast_one, zero_sub]

/-- A string is a short form exactly if the curve has a point with its `y`. -/
theorem isPoint_eq_true_iff {short : Digest} :
    isPoint short = true ↔ ∃ x, OnCurve x (ordinate short) := by
  simp only [onCurve_iff, ← isSquare_mul_iff (divisor_ne_zero _)]
  rw [isPoint, Modular.isSquare_eq_true_iff (by decide)]
  simp only [Nat.cast_mul, Nat.cast_add, Nat.cast_one, ZMod.natCast_mod, cast_prime_sub_one,
    Nat.cast_pow, ← pow_two, ← sub_eq_add_neg]
  rfl

end TokenClaim.Edwards25519
