/-
# SHA-256

The hash function on a list of bytes, with words that are natural numbers
reduced modulo `2 ^ 32`.  `hexdigest` writes the eight words of the
final state as lowercase hexadecimal, so it is always 64 digits
(`length_hexdigest`, `mem_hexDigits_of_mem_hexdigest`).

Nothing else is used of it: that two messages of interest hash differently is
an assumption of the theorems that need it, made of those messages only.
-/

import Mathlib.Algebra.Ring.Nat
import Mathlib.Data.List.GetD
import Mathlib.Data.Nat.Notation

namespace Library
namespace Sha256

/-- Rotate a 32-bit word to the right. -/
def rotr (n x : ℕ) : ℕ := ((x >>> n) ||| (x <<< (32 - n))) % 2 ^ 32

/-- The round constants: fractional parts of the cube roots of the first 64 primes. -/
def roundConstants : List ℕ :=
  [0x428a2f98, 0x71374491, 0xb5c0fbcf, 0xe9b5dba5, 0x3956c25b, 0x59f111f1, 0x923f82a4, 0xab1c5ed5,
    0xd807aa98, 0x12835b01, 0x243185be, 0x550c7dc3, 0x72be5d74, 0x80deb1fe, 0x9bdc06a7, 0xc19bf174,
    0xe49b69c1, 0xefbe4786, 0x0fc19dc6, 0x240ca1cc, 0x2de92c6f, 0x4a7484aa, 0x5cb0a9dc, 0x76f988da,
    0x983e5152, 0xa831c66d, 0xb00327c8, 0xbf597fc7, 0xc6e00bf3, 0xd5a79147, 0x06ca6351, 0x14292967,
    0x27b70a85, 0x2e1b2138, 0x4d2c6dfc, 0x53380d13, 0x650a7354, 0x766a0abb, 0x81c2c92e, 0x92722c85,
    0xa2bfe8a1, 0xa81a664b, 0xc24b8b70, 0xc76c51a3, 0xd192e819, 0xd6990624, 0xf40e3585, 0x106aa070,
    0x19a4c116, 0x1e376c08, 0x2748774c, 0x34b0bcb5, 0x391c0cb3, 0x4ed8aa4a, 0x5b9cca4f, 0x682e6ff3,
    0x748f82ee, 0x78a5636f, 0x84c87814, 0x8cc70208, 0x90befffa, 0xa4506ceb, 0xbef9a3f7, 0xc67178f2]

/-- The eight working words. -/
structure State where
  (a b c d e f g h : ℕ)

/-- The initial hash value: fractional parts of the square roots of the first 8 primes. -/
def initial : State :=
  ⟨0x6a09e667, 0xbb67ae85, 0x3c6ef372, 0xa54ff53a, 0x510e527f, 0x9b05688c, 0x1f83d9ab, 0x5be0cd19⟩

/-- One of the 64 rounds, with its constant and its scheduled word. -/
def round (s : State) (kw : ℕ × ℕ) : State :=
  let s1 := rotr 6 s.e ^^^ rotr 11 s.e ^^^ rotr 25 s.e
  let ch := (s.e &&& s.f) ^^^ ((2 ^ 32 - 1 - s.e) &&& s.g)
  let t1 := s.h + s1 + ch + kw.1 + kw.2
  let s0 := rotr 2 s.a ^^^ rotr 13 s.a ^^^ rotr 22 s.a
  let maj := (s.a &&& s.b) ^^^ (s.a &&& s.c) ^^^ (s.b &&& s.c)
  ⟨(t1 + s0 + maj) % 2 ^ 32, s.a, s.b, s.c, (s.d + t1) % 2 ^ 32, s.e, s.f, s.g⟩

/-- Extend the message schedule by `n` words.  The newest word is kept first. -/
def schedule : ℕ → List ℕ → List ℕ
  | 0, w => w
  | n + 1, w =>
    let w15 := w.getD 14 0
    let w2 := w.getD 1 0
    let s0 := rotr 7 w15 ^^^ rotr 18 w15 ^^^ (w15 >>> 3)
    let s1 := rotr 17 w2 ^^^ rotr 19 w2 ^^^ (w2 >>> 10)
    schedule n ((w.getD 15 0 + s0 + w.getD 6 0 + s1) % 2 ^ 32 :: w)

/-- Mix one block of 16 words into the hash value. -/
def compress (s : State) (block : List ℕ) : State :=
  let r := (roundConstants.zip (schedule 48 block.reverse).reverse).foldl round s
  ⟨(s.a + r.a) % 2 ^ 32, (s.b + r.b) % 2 ^ 32, (s.c + r.c) % 2 ^ 32, (s.d + r.d) % 2 ^ 32,
    (s.e + r.e) % 2 ^ 32, (s.f + r.f) % 2 ^ 32, (s.g + r.g) % 2 ^ 32, (s.h + r.h) % 2 ^ 32⟩

/-- The message, a one bit, zeros up to 8 bytes short of a block, and the
length in bits as a 64-bit big-endian number. -/
def pad (m : List ℕ) : List ℕ :=
  m ++ [0x80] ++ List.replicate ((119 - m.length % 64) % 64) 0 ++
    (List.range 8).map fun i => m.length * 8 / 256 ^ (7 - i) % 256

/-- Big-endian words from bytes. -/
def words : List ℕ → List ℕ
  | a :: b :: c :: d :: rest => (a * 2 ^ 24 + b * 2 ^ 16 + c * 2 ^ 8 + d) :: words rest
  | _ => []

/-- The first `n` blocks of 16 words. -/
def blocks : ℕ → List ℕ → List (List ℕ)
  | 0, _ => []
  | n + 1, w => w.take 16 :: blocks n (w.drop 16)

/-- The hash value of a message. -/
def digest (m : List ℕ) : State :=
  let w := words (pad m)
  (blocks (w.length / 16) w).foldl compress initial

/-- The lowercase hexadecimal digits. -/
def hexDigits : List Char :=
  ['0', '1', '2', '3', '4', '5', '6', '7', '8', '9', 'a', 'b', 'c', 'd', 'e', 'f']

/-- A 32-bit word as eight hexadecimal digits. -/
def hexWord (x : ℕ) : List Char :=
  (List.range 8).map fun i => hexDigits.getD (x / 16 ^ (7 - i) % 16) '0'

/-- The hash value as text. -/
@[irreducible] def hexdigest (m : List ℕ) : List Char :=
  let s := digest m
  [s.a, s.b, s.c, s.d, s.e, s.f, s.g, s.h].flatMap hexWord

theorem length_hexWord (x : ℕ) : (hexWord x).length = 8 := by
  rw [hexWord, List.length_map, List.length_range]

theorem mem_hexDigits_of_mem_hexWord {x : ℕ} {c : Char} (h : c ∈ hexWord x) :
    c ∈ hexDigits := by
  rw [hexWord, List.mem_map] at h
  obtain ⟨i, -, rfl⟩ := h
  have hlt : x / 16 ^ (7 - i) % 16 < hexDigits.length := Nat.mod_lt _ (by decide)
  rw [List.getD_eq_getElem _ _ hlt]
  exact List.getElem_mem hlt

/-- A hash value is 64 digits long. -/
theorem length_hexdigest (m : List ℕ) : (hexdigest m).length = 64 := by
  simp only [hexdigest, List.flatMap_cons, List.flatMap_nil, List.length_append, length_hexWord,
    List.length_nil]

/-- Every digit of a hash value is a lowercase hexadecimal digit. -/
theorem mem_hexDigits_of_mem_hexdigest {m : List ℕ} {c : Char} (h : c ∈ hexdigest m) :
    c ∈ hexDigits := by
  rw [hexdigest, List.mem_flatMap] at h
  obtain ⟨x, -, hx⟩ := h
  exact mem_hexDigits_of_mem_hexWord hx

set_option maxRecDepth 20000 in
/-- The test vector of the one-block message `abc`. -/
example : String.ofList (hexdigest [97, 98, 99]) =
    "ba7816bf8f01cfea414140de5dae2223b00361a396177a9cb410ff61f20015ad" := by
  decide +kernel

end Sha256
end Library
