/-!
Byte strings, byte strings of a fixed length, and the two byte orders of a number.
-/

set_option autoImplicit false

namespace TokenClaim

abbrev Bytes := List UInt8

structure Octets (n : Nat) where
  toBytes : Bytes
  length_toBytes : toBytes.length = n
  deriving DecidableEq

namespace Octets

variable {n : Nat}

theorem toBytes_injective {a b : Octets n} (same : a.toBytes = b.toBytes) : a = b := by
  cases a
  cases b
  cases same
  rfl

def ofBytes? (n : Nat) (bytes : Bytes) : Option (Octets n) :=
  if fits : bytes.length = n then some ⟨bytes, fits⟩ else none

theorem ofBytes?_toBytes (octets : Octets n) : ofBytes? n octets.toBytes = some octets := by
  simp [ofBytes?, octets.length_toBytes]

theorem ofBytes?_eq_some_iff {bytes : Bytes} {octets : Octets n} :
    ofBytes? n bytes = some octets ↔ bytes = octets.toBytes := by
  constructor
  · intro found
    unfold ofBytes? at found
    split at found
    · cases found
      rfl
    · cases found
  · rintro rfl
    exact ofBytes?_toBytes octets

def replicate (n : Nat) (byte : UInt8) : Octets n :=
  ⟨List.replicate n byte, List.length_replicate⟩

end Octets

/-- A 20-byte account address of the source chain. -/
abbrev EthAddress := Octets 20

abbrev Digest := Octets 32

namespace LittleEndian

def write : Nat → Nat → Bytes
  | 0, _ => []
  | width + 1, value => UInt8.ofNat value :: write width (value / 256)

def capacity : (width : Nat) → Nat
  | 0 => 1
  | width + 1 => 256 * capacity width

def read : Bytes → Nat
  | [] => 0
  | byte :: rest => byte.toNat + 256 * read rest

@[simp] theorem length_write (width value : Nat) : (write width value).length = width := by
  induction width generalizing value with
  | zero => rfl
  | succ width ih => simp [write, ih]

theorem read_write (width value : Nat) : read (write width value) = value % capacity width := by
  induction width generalizing value with
  | zero => simp [write, read, capacity, Nat.mod_one]
  | succ width ih =>
    rw [write, read, ih, capacity, Nat.mod_mul]
    simp [UInt8.toNat_ofNat']

theorem read_lt (bytes : Bytes) : read bytes < capacity bytes.length := by
  induction bytes with
  | nil => simp [read, capacity]
  | cons byte rest ih =>
    have small := byte.toNat_lt
    simp only [read, List.length_cons, capacity]
    omega

theorem write_read (bytes : Bytes) : write bytes.length (read bytes) = bytes := by
  induction bytes with
  | nil => rfl
  | cons byte rest ih =>
    have small := byte.toNat_lt
    have quotient : (byte.toNat + 256 * read rest) / 256 = read rest := by omega
    rw [read, List.length_cons, write, quotient, ih]
    congr 1
    apply UInt8.toNat_inj.mp
    rw [UInt8.toNat_ofNat']
    omega

end LittleEndian

namespace BigEndian

def write (width value : Nat) : Bytes := (LittleEndian.write width value).reverse

def read (bytes : Bytes) : Nat := LittleEndian.read bytes.reverse

@[simp] theorem length_write (width value : Nat) : (write width value).length = width := by
  simp [write]

end BigEndian

def Octets.toNat {n : Nat} (octets : Octets n) : Nat := BigEndian.read octets.toBytes

namespace Word64

/-- A 64-bit word as eight bytes, least significant first. -/
def toBytes (word : UInt64) : Bytes := LittleEndian.write 8 word.toNat

def ofBytes (bytes : Bytes) : UInt64 := UInt64.ofNat (LittleEndian.read bytes)

@[simp] theorem length_toBytes (word : UInt64) : (toBytes word).length = 8 :=
  LittleEndian.length_write 8 word.toNat

@[simp] theorem ofBytes_toBytes (word : UInt64) : ofBytes (toBytes word) = word := by
  have bound := word.toNat_lt
  apply UInt64.toNat_inj.mp
  rw [ofBytes, toBytes, LittleEndian.read_write, UInt64.toNat_ofNat']
  simp only [LittleEndian.capacity]
  omega

theorem toBytes_ofBytes {bytes : Bytes} (eight : bytes.length = 8) :
    toBytes (ofBytes bytes) = bytes := by
  have bound := LittleEndian.read_lt bytes
  rw [eight] at bound
  simp only [LittleEndian.capacity] at bound
  have whole : (ofBytes bytes).toNat = LittleEndian.read bytes := by
    rw [ofBytes, UInt64.toNat_ofNat']
    omega
  rw [toBytes, whole, ← eight, LittleEndian.write_read]

end Word64

end TokenClaim
