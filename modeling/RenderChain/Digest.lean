/-
  RenderChain/Digest.lean
  =======================
  **SHA-256**, for the keys under which outputs are cached.

  The message is padded to whole blocks of 64 bytes, every block is expanded to
  64 words, and the words are folded into eight words of state.  Everything is
  a total function on lists of bytes and words; `hex` is the digest as text.
-/
import RenderChain.Text.Escape

namespace RenderChain.Digest

/-- The first 32 bits of the fractional parts of the cube roots of the first 64 primes. -/
def roundConstants : List UInt32 := [
  0x428a2f98, 0x71374491, 0xb5c0fbcf, 0xe9b5dba5, 0x3956c25b, 0x59f111f1, 0x923f82a4, 0xab1c5ed5,
  0xd807aa98, 0x12835b01, 0x243185be, 0x550c7dc3, 0x72be5d74, 0x80deb1fe, 0x9bdc06a7, 0xc19bf174,
  0xe49b69c1, 0xefbe4786, 0x0fc19dc6, 0x240ca1cc, 0x2de92c6f, 0x4a7484aa, 0x5cb0a9dc, 0x76f988da,
  0x983e5152, 0xa831c66d, 0xb00327c8, 0xbf597fc7, 0xc6e00bf3, 0xd5a79147, 0x06ca6351, 0x14292967,
  0x27b70a85, 0x2e1b2138, 0x4d2c6dfc, 0x53380d13, 0x650a7354, 0x766a0abb, 0x81c2c92e, 0x92722c85,
  0xa2bfe8a1, 0xa81a664b, 0xc24b8b70, 0xc76c51a3, 0xd192e819, 0xd6990624, 0xf40e3585, 0x106aa070,
  0x19a4c116, 0x1e376c08, 0x2748774c, 0x34b0bcb5, 0x391c0cb3, 0x4ed8aa4a, 0x5b9cca4f, 0x682e6ff3,
  0x748f82ee, 0x78a5636f, 0x84c87814, 0x8cc70208, 0x90befffa, 0xa4506ceb, 0xbef9a3f7, 0xc67178f2]

/-- Eight words, each updated from all of them in every round. -/
structure State where
  a : UInt32
  b : UInt32
  c : UInt32
  d : UInt32
  e : UInt32
  f : UInt32
  g : UInt32
  h : UInt32
  deriving DecidableEq, Repr

/-- The first 32 bits of the fractional parts of the square roots of the first 8 primes. -/
def State.start : State :=
  ⟨0x6a09e667, 0xbb67ae85, 0x3c6ef372, 0xa54ff53a, 0x510e527f, 0x9b05688c, 0x1f83d9ab, 0x5be0cd19⟩

def rotateRight (x : UInt32) (n : UInt32) : UInt32 := (x >>> n) ||| (x <<< (32 - n))

/-! ## Blocks -/

/-- The eight bytes of `n` below `2 ^ 64`, the most significant one first. -/
def bigEndian64 (n : Nat) : List UInt8 :=
  [56, 48, 40, 32, 24, 16, 8, 0].map fun shift => (n / Nat.pow 2 shift % 256).toUInt8

/-- The message with a one bit, zeros, and its length in bits: whole blocks of 64 bytes. -/
def padded (message : List UInt8) : List UInt8 :=
  message ++ 0x80 :: List.replicate ((119 - message.length % 64) % 64) 0 ++
    bigEndian64 (message.length * 8)

/-- Bytes as big-endian words. -/
def words : List UInt8 → List UInt32
  | a :: b :: c :: d :: rest =>
    (a.toUInt32 <<< 24 ||| b.toUInt32 <<< 16 ||| c.toUInt32 <<< 8 ||| d.toUInt32) :: words rest
  | _ => []

/-- Cuts a list into runs of `n + 1`. -/
def runs {α : Type} (n : Nat) : List α → List (List α)
  | [] => []
  | x :: rest => (x :: rest.take n) :: runs n (rest.drop n)
termination_by xs => xs.length
decreasing_by simp only [List.length_cons, List.length_drop]; omega

/-! ## Rounds -/

/-- The next word of the schedule, from the sixteen last ones. -/
def nextWord (last : Array UInt32) : UInt32 :=
  let at_ (i : Nat) := last.getD (last.size - i) 0
  let s0 := let w := at_ 15; rotateRight w 7 ^^^ rotateRight w 18 ^^^ (w >>> 3)
  let s1 := let w := at_ 2; rotateRight w 17 ^^^ rotateRight w 19 ^^^ (w >>> 10)
  at_ 16 + s0 + at_ 7 + s1

/-- The sixteen words of a block, followed by `n` more. -/
def schedule (block : Array UInt32) : Nat → Array UInt32
  | 0 => block
  | n + 1 => let ws := schedule block n; ws.push (nextWord ws)

def State.round (s : State) (constant word : UInt32) : State :=
  let big1 := rotateRight s.e 6 ^^^ rotateRight s.e 11 ^^^ rotateRight s.e 25
  let choice := (s.e &&& s.f) ^^^ (~~~ s.e &&& s.g)
  let t1 := s.h + big1 + choice + constant + word
  let big0 := rotateRight s.a 2 ^^^ rotateRight s.a 13 ^^^ rotateRight s.a 22
  let majority := (s.a &&& s.b) ^^^ (s.a &&& s.c) ^^^ (s.b &&& s.c)
  ⟨t1 + (big0 + majority), s.a, s.b, s.c, s.d + t1, s.e, s.f, s.g⟩

/-- Folds one block into the state. -/
def State.absorb (s : State) (block : List UInt32) : State :=
  let mixed := (roundConstants.zip (schedule block.toArray 48).toList).foldl
    (fun t p => t.round p.1 p.2) s
  ⟨s.a + mixed.a, s.b + mixed.b, s.c + mixed.c, s.d + mixed.d,
    s.e + mixed.e, s.f + mixed.f, s.g + mixed.g, s.h + mixed.h⟩

/-! ## The digest -/

/-- The eight words of the digest. -/
def sha256 (message : List UInt8) : State :=
  (runs 15 (words (padded message))).foldl State.absorb State.start

def wordBytes (w : UInt32) : List UInt8 :=
  [24, 16, 8, 0].map fun shift : UInt32 => (w >>> shift).toUInt8

/-- The digest of the bytes as 64 hexadecimal digits. -/
def hex (message : List UInt8) : String :=
  let s := sha256 message
  Text.hexBytes ([s.a, s.b, s.c, s.d, s.e, s.f, s.g, s.h].flatMap wordBytes)

theorem length_bigEndian64 (n : Nat) : (bigEndian64 n).length = 8 := rfl

/-- Padding fills the last block. -/
theorem length_padded (message : List UInt8) : (padded message).length % 64 = 0 := by
  simp only [padded, List.length_append, List.length_cons, List.length_replicate,
    length_bigEndian64]
  omega

end RenderChain.Digest
