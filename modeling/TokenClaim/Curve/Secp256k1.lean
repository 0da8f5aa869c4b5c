import TokenClaim.Curve.Modular
/-!
The curve `y² = x³ + 7` over the numbers modulo a prime, its points added in projective form.
-/

set_option autoImplicit false

namespace TokenClaim.Secp256k1

def prime : Nat := Nat.pow 2 256 - Nat.pow 2 32 - 977

def order : Nat :=
  115792089237316195423570985008687907852837564279074904382605163141518161494337

/-- The point `(x / z², y / z³)`; with `z = 0` the neutral point. -/
structure Point where
  x : Nat
  y : Nat
  z : Nat
  deriving DecidableEq

namespace Point

def zero : Point := ⟨1, 1, 0⟩

def ofAffine (x y : Nat) : Point := ⟨x, y, 1⟩

def affine? (p : Point) : Option (Nat × Nat) :=
  if p.z % prime = 0 then none
  else
    let scale := Modular.inverse prime p.z
    let scale2 := scale * scale % prime
    some (p.x * scale2 % prime, p.y * (scale2 * scale % prime) % prime)

def double (p : Point) : Point :=
  if p.z = 0 ∨ p.y = 0 then zero
  else
    let sub := Modular.sub prime
    let a := p.x * p.x % prime
    let b := p.y * p.y % prime
    let c := b * b % prime
    let d := 4 * p.x * b % prime
    let e := 3 * a % prime
    let x := sub (e * e % prime) (2 * d % prime)
    ⟨x, sub (e * sub d x % prime) (8 * c % prime), 2 * p.y * p.z % prime⟩

def add (p q : Point) : Point :=
  if p.z = 0 then q
  else if q.z = 0 then p
  else
    let sub := Modular.sub prime
    let pz2 := p.z * p.z % prime
    let qz2 := q.z * q.z % prime
    let u1 := p.x * qz2 % prime
    let u2 := q.x * pz2 % prime
    let s1 := p.y * (qz2 * q.z % prime) % prime
    let s2 := q.y * (pz2 * p.z % prime) % prime
    if u1 = u2 then if s1 = s2 then double p else zero
    else
      let h := sub u2 u1
      let r := sub s2 s1
      let h2 := h * h % prime
      let h3 := h2 * h % prime
      let v := u1 * h2 % prime
      let x := sub (sub (r * r % prime) h3) (2 * v % prime)
      ⟨x, sub (r * sub v x % prime) (s1 * h3 % prime), p.z * q.z % prime * h % prime⟩

def multiple (count : Nat) (p : Point) : Point :=
  if count = 0 then zero
  else
    let rest := multiple (count / 2) (double p)
    if count % 2 = 0 then rest else add p rest
termination_by count

end Point

def generator : Point :=
  Point.ofAffine
    0x79BE667EF9DCBBAC55A06295CE870B07029BFCDB2DCE28D959F2815B16F81798
    0x483ADA7726A3C4655DA4FBFC0E1108A8FD17B448A68554199C47D08FFB10D4B8

/-- The point with the given `x` whose `y` is odd or even, if the curve has one. As the field's size
is 3 modulo 4, a square's root is its power by a quarter of `prime + 1`. -/
def liftX? (x : Nat) (odd : Bool) : Option Point :=
  let square := (x * x % prime * x + 7) % prime
  -- The prime is 3 modulo 4, so that a square's root is this power of it.
  let root := Modular.power prime square ((prime + 1) / 4)
  if root * root % prime = square then
    some (Point.ofAffine x (if (root % 2 == 1) = odd then root else prime - root))
  else none

end TokenClaim.Secp256k1
