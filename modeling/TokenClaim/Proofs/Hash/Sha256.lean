import TokenClaim.Hash.Sha256
/-!
SHA-256 with the window of its schedule as a list. It is the same hash, and a list slides without
being built anew, so that proofs can evaluate the hash of given bytes.
-/

set_option autoImplicit false

namespace TokenClaim.Sha256

namespace Listed

def next (window : List UInt32) : UInt32 :=
  let w1 := window.getD 1 0
  let w14 := window.getD 14 0
  let s0 := rotateRight w1 7 ^^^ rotateRight w1 18 ^^^ (w1 >>> 3)
  let s1 := rotateRight w14 17 ^^^ rotateRight w14 19 ^^^ (w14 >>> 10)
  window.getD 0 0 + s0 + window.getD 9 0 + s1

def rounds : (constants : List UInt32) → State → (window : List UInt32) → State
  | [], s, _ => s
  | constant :: rest, s, window =>
    rounds rest (round s constant (window.getD 0 0)) (window.drop 1 ++ [next window])

def compress (s : State) (block : Bytes) : State :=
  s.add (rounds roundConstants s (words 16 block))

def absorb : Nat → State → Bytes → State
  | 0, s, _ => s
  | blocks + 1, s, message => absorb blocks (compress s (message.take 64)) (message.drop 64)

def sha256 (message : Bytes) : Digest :=
  let padded := pad message
  let last := absorb (padded.length / 64) initial padded
  ⟨last.toBytes, last.length_toBytes⟩

def hmacSha256 (key message : Bytes) : Digest :=
  let block := key ++ List.replicate (64 - key.length) 0
  sha256 (block.map (· ^^^ 0x5C) ++ (sha256 (block.map (· ^^^ 0x36) ++ message)).toBytes)

end Listed

theorem next_eq_listed (w : Window) : w.next = Listed.next w.toList := by
  simp [Window.next, Listed.next, List.getD]

theorem toList_slide (w : Window) : w.slide.toList = w.toList.drop 1 ++ [w.next] := by
  apply List.ext_getElem
  · simp
  · intro i inside _
    have below : i < 16 := by simpa using inside
    by_cases early : i < 15
    · have left : i < (w.toList.drop 1).length := by simpa using early
      rw [List.getElem_append_left left]
      simp [Window.slide, early]
    · obtain rfl : i = 15 := by omega
      rw [List.getElem_append_right (by simp)]
      simp [Window.slide]

/-- Whatever makes one round and slides the window makes the rounds of the list. -/
theorem foldl_eq_listed {step : State × Window → UInt32 → State × Window}
    (makesRound : ∀ s w constant,
      step (s, w) constant = (round s constant (w.toList.getD 0 0), w.slide))
    (constants : List UInt32) (s : State) (w : Window) :
    (constants.foldl step (s, w)).1 = Listed.rounds constants s w.toList := by
  induction constants generalizing s w with
  | nil => rfl
  | cons constant rest ih =>
    rw [List.foldl_cons, makesRound, ih, toList_slide, next_eq_listed, Listed.rounds]

theorem length_words (count : Nat) (block : Bytes) : (words count block).length = count := by
  induction count generalizing block with
  | zero => rfl
  | succ count ih => rw [words, List.length_cons, ih]

theorem compress_eq_listed (s : State) (block : Bytes) :
    compress s block = Listed.compress s block := by
  have window : (Vector.ofFn fun i : Fin 16 => (words 16 block).toArray.getD i.val 0).toList
      = words 16 block := by
    apply List.ext_getElem
    · simp [length_words]
    · intro i _ inside
      simp [Array.getD, inside]
  rw [compress, Listed.compress]
  generalize made : List.foldl _ _ roundConstants = final
  obtain ⟨last, _⟩ := final
  have rounds := congrArg Prod.fst made
  rw [foldl_eq_listed, window] at rounds
  · rw [rounds]
  · intro t w constant
    simp [List.getD]

theorem absorb_eq_listed (blocks : Nat) (s : State) (message : Bytes) :
    absorb blocks s message = Listed.absorb blocks s message := by
  induction blocks generalizing s message with
  | zero => rfl
  | succ blocks ih => rw [absorb, Listed.absorb, ih, compress_eq_listed]

theorem sha256_eq_listed (message : Bytes) : sha256 message = Listed.sha256 message := by
  simp only [sha256, Listed.sha256, absorb_eq_listed]

theorem hmacSha256_eq_listed (key message : Bytes) :
    hmacSha256 key message = Listed.hmacSha256 key message := by
  simp only [hmacSha256, Listed.hmacSha256, sha256_eq_listed]

end TokenClaim.Sha256
