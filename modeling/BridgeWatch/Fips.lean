/-
SHA-256 as FIPS 180-4 specifies it, on words that are natural numbers below
`2 ^ 32`.

No result depends on this file: SHA-256 stays a parameter of the model, and what
is proved holds of every hash function that meets the stated hypotheses. It is
here so that the hypotheses can be discharged at the function the program really
calls. Natural numbers rather than `UInt32` keep it cheap for the kernel, which
computes with them directly.
-/
import BridgeWatch.Bytes

set_option autoImplicit false

namespace BridgeWatch.Fips

/-- Addition of words. -/
def add (x y : ℕ) : ℕ := (x + y) % 0x100000000

/-- Rotation of a word to the right by `0 < n < 32`. -/
def rotr (n x : ℕ) : ℕ := (x >>> n) ||| (x <<< (32 - n)) % 0x100000000

def bigSigma0 (x : ℕ) : ℕ := rotr 2 x ^^^ rotr 13 x ^^^ rotr 22 x

def bigSigma1 (x : ℕ) : ℕ := rotr 6 x ^^^ rotr 11 x ^^^ rotr 25 x

def smallSigma0 (x : ℕ) : ℕ := rotr 7 x ^^^ rotr 18 x ^^^ (x >>> 3)

def smallSigma1 (x : ℕ) : ℕ := rotr 17 x ^^^ rotr 19 x ^^^ (x >>> 10)

def ch (x y z : ℕ) : ℕ := (x &&& y) ^^^ ((0xffffffff ^^^ x) &&& z)

def maj (x y z : ℕ) : ℕ := (x &&& y) ^^^ (x &&& z) ^^^ (y &&& z)

/-- The round constants. -/
def roundConstants : List ℕ :=
  [0x428a2f98, 0x71374491, 0xb5c0fbcf, 0xe9b5dba5, 0x3956c25b, 0x59f111f1, 0x923f82a4, 0xab1c5ed5,
   0xd807aa98, 0x12835b01, 0x243185be, 0x550c7dc3, 0x72be5d74, 0x80deb1fe, 0x9bdc06a7, 0xc19bf174,
   0xe49b69c1, 0xefbe4786, 0x0fc19dc6, 0x240ca1cc, 0x2de92c6f, 0x4a7484aa, 0x5cb0a9dc, 0x76f988da,
   0x983e5152, 0xa831c66d, 0xb00327c8, 0xbf597fc7, 0xc6e00bf3, 0xd5a79147, 0x06ca6351, 0x14292967,
   0x27b70a85, 0x2e1b2138, 0x4d2c6dfc, 0x53380d13, 0x650a7354, 0x766a0abb, 0x81c2c92e, 0x92722c85,
   0xa2bfe8a1, 0xa81a664b, 0xc24b8b70, 0xc76c51a3, 0xd192e819, 0xd6990624, 0xf40e3585, 0x106aa070,
   0x19a4c116, 0x1e376c08, 0x2748774c, 0x34b0bcb5, 0x391c0cb3, 0x4ed8aa4a, 0x5b9cca4f, 0x682e6ff3,
   0x748f82ee, 0x78a5636f, 0x84c87814, 0x8cc70208, 0x90befffa, 0xa4506ceb, 0xbef9a3f7, 0xc67178f2]

/-- The eight working variables. -/
structure Words where
  a : ℕ
  b : ℕ
  c : ℕ
  d : ℕ
  e : ℕ
  f : ℕ
  g : ℕ
  h : ℕ

/-- The initial hash value. -/
def initial : Words :=
  ⟨0x6a09e667, 0xbb67ae85, 0x3c6ef372, 0xa54ff53a,
    0x510e527f, 0x9b05688c, 0x1f83d9ab, 0x5be0cd19⟩

/-- One round, with the round constant `k` and the schedule word `w`. -/
def round (v : Words) (kw : ℕ × ℕ) : Words :=
  let t1 := add (add (add (add v.h (bigSigma1 v.e)) (ch v.e v.f v.g)) kw.1) kw.2
  let t2 := add (bigSigma0 v.a) (maj v.a v.b v.c)
  ⟨add t1 t2, v.a, v.b, v.c, add v.d t1, v.e, v.f, v.g⟩

/-- The message schedule, extended by `n` words: `w` holds the words so far, the
last one first. -/
def schedule : ℕ → List ℕ → List ℕ
  | 0, w => w.reverse
  | n + 1, w =>
      schedule n (add (add (smallSigma1 (w.getD 1 0)) (w.getD 6 0))
        (add (smallSigma0 (w.getD 14 0)) (w.getD 15 0)) :: w)

/-- The big-endian words of a byte string. -/
def words : Buffer → List ℕ
  | a :: b :: c :: d :: rest =>
      (((a.toNat * 256 + b.toNat) * 256 + c.toNat) * 256 + d.toNat) :: words rest
  | _ => []

/-- The compression function, on a block of sixteen words. -/
def compress (v : Words) (block : List ℕ) : Words :=
  let u := (roundConstants.zip (schedule 48 block.reverse)).foldl round v
  ⟨add v.a u.a, add v.b u.b, add v.c u.c, add v.d u.d,
    add v.e u.e, add v.f u.f, add v.g u.g, add v.h u.h⟩

/-- The padded message: a one bit, zeros, and the length in bits. -/
def pad (m : Buffer) : Buffer :=
  m ++ [(0x80 : UInt8)] ++ List.replicate ((119 - m.length % 64) % 64) (0 : UInt8) ++
    (List.range 8).map fun i => UInt8.ofNat ((8 * m.length) >>> (8 * (7 - i)))

/-- The first `n` blocks of sixteen words. -/
def blocks : ℕ → List ℕ → List (List ℕ)
  | 0, _ => []
  | n + 1, ws => ws.take 16 :: blocks n (ws.drop 16)

/-- SHA-256. -/
def sha256 : Sha256 := fun m =>
  let ws := words (pad m)
  let v := (blocks (ws.length / 16) ws).foldl compress initial
  Vector.ofFn fun i : Fin 32 =>
    UInt8.ofNat
      ([v.a, v.b, v.c, v.d, v.e, v.f, v.g, v.h].getD (i.val / 4) 0 >>> (8 * (3 - i.val % 4)))

/-- The empty string, one of the standard's test vectors. -/
example : toHex (sha256 []).toList
    = js "e3b0c44298fc1c149afbf4c8996fb92427ae41e4649b934ca495991b7852b855" := by
  decide +kernel

end BridgeWatch.Fips
