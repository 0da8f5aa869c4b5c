import Mathlib.Data.List.Prime
import Mathlib.NumberTheory.LucasPrimality
import Mathlib.Tactic.NormNum.Prime
import TokenClaim.Curve.Secp256k1
import TokenClaim.Proofs.Curve.Modular
/-!
The size of the curve's field and the order of its generator are prime.

Lucas's test proves a number prime from a root of its units and the primes of the number before it.
A certificate lists numbers with what the test needs, such that the primes of a line stand on the
lines before it.
-/

set_option autoImplicit false

namespace TokenClaim.Modular

/-- A number, a root of its units, and the prime factors of the number before it. -/
structure CertificateLine where
  number : Nat
  root : Nat
  factors : List Nat

namespace CertificateLine

variable {known : List Nat} {line : CertificateLine}

/-- Lucas's test, with the numbers that are known to be prime. -/
def holds (known : List Nat) (line : CertificateLine) : Bool :=
  1 < line.number && line.factors.prod == line.number - 1
    && power line.number line.root (line.number - 1) == 1
    && line.factors.all fun factor =>
      known.contains factor && power line.number line.root ((line.number - 1) / factor) != 1

theorem prime_of_holds (primes : ∀ number ∈ known, number.Prime)
    (holding : line.holds known = true) : line.number.Prime := by
  simp only [holds, Bool.and_eq_true, decide_eq_true_eq, beq_iff_eq, List.all_eq_true,
    List.contains_iff_mem, bne_iff_ne] at holding
  obtain ⟨⟨⟨big, product⟩, whole⟩, parts⟩ := holding
  apply lucas_primality line.number line.root ((cast_pow_eq_one_iff big _ _).mpr whole)
  intro factor prime divides
  rw [← product] at divides
  obtain ⟨listed, isListed, divides⟩ := (Prime.dvd_prod_iff prime.prime).mp divides
  obtain ⟨isKnown, notOne⟩ := parts listed isListed
  have same : factor = listed :=
    (Nat.prime_dvd_prime_iff_eq prime (primes listed isKnown)).mp divides
  rw [same, ne_eq, cast_pow_eq_one_iff big]
  exact notOne

end CertificateLine

def certifies (known : List Nat) : List CertificateLine → Bool
  | [] => true
  | line :: rest => line.holds known && certifies (line.number :: known) rest

theorem prime_of_certifies {known : List Nat} {lines : List CertificateLine}
    (primes : ∀ number ∈ known, number.Prime) (holding : certifies known lines = true) :
    ∀ line ∈ lines, line.number.Prime := by
  induction lines generalizing known with
  | nil => simp
  | cons first rest ih =>
    simp only [certifies, Bool.and_eq_true] at holding
    have prime := CertificateLine.prime_of_holds primes holding.1
    rw [List.forall_mem_cons]
    exact ⟨prime, ih (List.forall_mem_cons.mpr ⟨prime, primes⟩) holding.2⟩

def firstPrimes : List Nat :=
  [2, 3, 5, 7, 11, 13, 17, 19, 23, 29, 31, 41, 53, 59, 67, 83, 97, 101, 103, 109, 113, 131, 149,
    239, 293, 419, 443, 461, 631, 797, 887, 971, 1373, 1409, 1627, 1871]

theorem prime_of_mem_firstPrimes : ∀ number ∈ firstPrimes, number.Prime := by
  simp only [firstPrimes, List.forall_mem_cons]
  norm_num

end TokenClaim.Modular

namespace TokenClaim.Secp256k1

def primeCertificate : List Modular.CertificateLine :=
  [⟨13441, 11, [2, 2, 2, 2, 2, 2, 2, 3, 5, 7]⟩,
    ⟨7723, 3, [2, 3, 3, 3, 11, 13]⟩,
    ⟨5323, 5, [2, 3, 887]⟩,
    ⟨2621, 2, [2, 2, 5, 131]⟩,
    ⟨24809, 6, [2, 2, 2, 7, 443]⟩,
    ⟨13331831, 13, [2, 5, 971, 1373]⟩,
    ⟨173378833005251801, 6, [2, 2, 2, 5, 5, 2621, 24809, 13331831]⟩,
    ⟨22149492674086928081353, 5, [2, 2, 2, 3, 5323, 173378833005251801]⟩,
    ⟨132896956044521568488119, 6, [2, 3, 22149492674086928081353]⟩,
    ⟨2657, 3, [2, 2, 2, 2, 2, 83]⟩,
    ⟨4423, 3, [2, 3, 11, 67]⟩,
    ⟨41201, 3, [2, 2, 2, 2, 5, 5, 103]⟩,
    ⟨96557, 2, [2, 2, 101, 239]⟩,
    ⟨20113, 10, [2, 2, 2, 2, 3, 419]⟩,
    ⟨1206781, 10, [2, 2, 3, 5, 20113]⟩,
    ⟨7240687, 3, [2, 3, 1206781]⟩,
    ⟨107590001, 3, [2, 2, 2, 2, 5, 5, 5, 5, 7, 29, 53]⟩,
    ⟨255515944373312847190720520512484175977, 3,
      [2, 2, 2, 7, 7, 11, 1627, 2657, 4423, 41201, 96557, 7240687, 107590001]⟩,
    ⟨205115282021455665897114700593932402728804164701536103180137503955397371, 10,
      [2, 3, 5, 29, 29, 31, 7723, 132896956044521568488119,
        255515944373312847190720520512484175977]⟩,
    ⟨prime, 3,
      [2, 3, 7, 13441, 205115282021455665897114700593932402728804164701536103180137503955397371]⟩]

def orderCertificate : List Modular.CertificateLine :=
  [⟨16699, 3, [2, 3, 11, 11, 23]⟩,
    ⟨2861, 2, [2, 2, 5, 11, 13]⟩,
    ⟨85831, 3, [2, 3, 5, 2861]⟩,
    ⟨2011, 3, [2, 3, 5, 67]⟩,
    ⟨4681609, 23, [2, 2, 2, 3, 97, 2011]⟩,
    ⟨107361793816595537, 3, [2, 2, 2, 2, 16699, 85831, 4681609]⟩,
    ⟨4051, 10, [2, 3, 3, 3, 3, 5, 5]⟩,
    ⟨120233, 3, [2, 2, 2, 7, 19, 113]⟩,
    ⟨9349, 2, [2, 2, 3, 19, 41]⟩,
    ⟨44706919, 6, [2, 3, 797, 9349]⟩,
    ⟨174723607534414371449, 3, [2, 2, 2, 17, 59, 4051, 120233, 44706919]⟩,
    ⟨2731, 3, [2, 3, 5, 7, 13]⟩,
    ⟨305873, 3, [2, 2, 2, 2, 7, 2731]⟩,
    ⟨28181, 2, [2, 2, 5, 1409]⟩,
    ⟨545358713, 5, [2, 2, 2, 41, 59, 28181]⟩,
    ⟨1627771, 3, [2, 3, 5, 29, 1871]⟩,
    ⟨297159362677, 2, [2, 2, 3, 3, 11, 461, 1627771]⟩,
    ⟨29047611873442575647497758179, 2, [2, 293, 305873, 545358713, 297159362677]⟩,
    ⟨341948486974166000522343609283189, 2, [2, 2, 3, 3, 3, 109, 29047611873442575647497758179]⟩,
    ⟨order, 7,
      [2, 2, 2, 2, 2, 2, 3, 149, 631, 107361793816595537, 174723607534414371449,
        341948486974166000522343609283189]⟩]

theorem certifies_certificates :
    Modular.certifies Modular.firstPrimes (primeCertificate ++ orderCertificate) = true := by
  decide +kernel

theorem prime_of_mem_certificates :
    ∀ line ∈ primeCertificate ++ orderCertificate, line.number.Prime :=
  Modular.prime_of_certifies Modular.prime_of_mem_firstPrimes certifies_certificates

theorem prime_prime : Nat.Prime prime :=
  prime_of_mem_certificates _ (List.mem_append_left _ (List.mem_of_getLast? rfl))

theorem order_prime : Nat.Prime order :=
  prime_of_mem_certificates _ (List.mem_append_right _ (List.mem_of_getLast? rfl))

instance : Fact (Nat.Prime prime) := ⟨prime_prime⟩

instance : Fact (Nat.Prime order) := ⟨order_prime⟩

end TokenClaim.Secp256k1
