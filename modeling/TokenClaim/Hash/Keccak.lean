import TokenClaim.Bytes
/-!
Keccak-256: the sponge over 25 lanes of 64 bits, with a rate of 136 bytes and the padding `01 … 80`.
The lane of column `x` and row `y` stands at index `5 y + x`.
-/

set_option autoImplicit false

namespace TokenClaim

namespace Keccak

abbrev Lanes := Vector UInt64 25

def rotateLeft (lane : UInt64) (amount : UInt64) : UInt64 :=
  if amount = 0 then lane else (lane <<< amount) ||| (lane >>> (64 - amount))

def rotations : Vector UInt64 25 :=
  #v[0, 1, 62, 28, 27, 36, 44, 6, 55, 20, 3, 10, 43, 25, 39, 41, 45, 15, 21, 8, 18, 2, 61, 56, 14]

def roundConstants : List UInt64 :=
  [0x0000000000000001, 0x0000000000008082, 0x800000000000808A, 0x8000000080008000,
   0x000000000000808B, 0x0000000080000001, 0x8000000080008081, 0x8000000000008009,
   0x000000000000008A, 0x0000000000000088, 0x0000000080008009, 0x000000008000000A,
   0x000000008000808B, 0x800000000000008B, 0x8000000000008089, 0x8000000000008003,
   0x8000000000008002, 0x8000000000000080, 0x000000000000800A, 0x800000008000000A,
   0x8000000080008081, 0x8000000000008080, 0x0000000080000001, 0x8000000080008008]

def columns (s : Lanes) : Vector UInt64 5 :=
  Vector.ofFn fun x => s[x.val] ^^^ s[x.val + 5] ^^^ s[x.val + 10] ^^^ s[x.val + 15] ^^^ s[x.val + 20]

/-- Add to each lane the column before it and the column after it turned by one. -/
def theta (s : Lanes) : Lanes :=
  let sums := columns s
  let parity := Vector.ofFn fun x : Fin 5 => sums[x + 4] ^^^ rotateLeft sums[x + 1] 1
  Vector.ofFn fun i => s[i] ^^^ parity[i.val % 5]

/-- The lane that lands at an index, turned by its amount: column `x` of row `y` takes the lane of
column `x + 3 y` of row `x`. -/
def rhoPi (s : Lanes) : Lanes :=
  Vector.ofFn fun i =>
    let source : Fin 25 := Fin.ofNat 25 (5 * (i.val % 5) + (i.val % 5 + 3 * (i.val / 5)) % 5)
    rotateLeft s[source] rotations[source]

def chi (s : Lanes) : Lanes :=
  Vector.ofFn fun i =>
    let next (k : Nat) : Fin 25 := Fin.ofNat 25 (5 * (i.val / 5) + (i.val % 5 + k) % 5)
    s[i] ^^^ (~~~s[next 1] &&& s[next 2])

def iota (constant : UInt64) (s : Lanes) : Lanes := s.set 0 (s[0] ^^^ constant)

def permute (s : Lanes) : Lanes :=
  roundConstants.foldl (fun s constant => iota constant (chi (rhoPi (theta s)))) s

def rate : Nat := 136

def pad (message : Bytes) : Bytes :=
  let missing := rate - message.length % rate
  if missing = 1 then message ++ [0x81]
  else message ++ 0x01 :: List.replicate (missing - 2) 0 ++ [0x80]

def words : Nat → Bytes → List UInt64
  | 0, _ => []
  | count + 1, block => Word64.ofBytes (block.take 8) :: words count (block.drop 8)

def absorbBlock (s : Lanes) (block : Bytes) : Lanes :=
  let lanes := (words 17 block).toArray
  permute (Vector.ofFn fun i => s[i] ^^^ lanes.getD i.val 0)

def absorb : Nat → Lanes → Bytes → Lanes
  | 0, s, _ => s
  | blocks + 1, s, message => absorb blocks (absorbBlock s (message.take rate)) (message.drop rate)

end Keccak

def keccak256 (message : Bytes) : Digest :=
  let padded := Keccak.pad message
  let lanes := Keccak.absorb (padded.length / Keccak.rate) (Vector.replicate 25 0) padded
  ⟨Word64.toBytes lanes[0] ++ Word64.toBytes lanes[1] ++ Word64.toBytes lanes[2] ++
    Word64.toBytes lanes[3], by simp⟩

end TokenClaim
