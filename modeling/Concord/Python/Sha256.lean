import Mathlib.Algebra.Group.Nat.Defs
import Concord.Python.Json

/-!
# `hashlib.sha256(text.encode()).hexdigest()`

SHA-256 over the UTF-8 bytes of a `str`, as the 64 lower-case hex digits that
`hexdigest` returns. Words are natural numbers below `2 ^ 32` and every sum is
reduced with `wrap`. The function is here so that a chain of hashes can be
evaluated on concrete rows; the results about chains assume of it no more than
that it does not collide on the texts they name.
-/

namespace Concord.Python.Sha256

open Concord.Python

def roundConstants : List Nat :=
  [0x428a2f98, 0x71374491, 0xb5c0fbcf, 0xe9b5dba5, 0x3956c25b, 0x59f111f1,
   0x923f82a4, 0xab1c5ed5, 0xd807aa98, 0x12835b01, 0x243185be, 0x550c7dc3,
   0x72be5d74, 0x80deb1fe, 0x9bdc06a7, 0xc19bf174, 0xe49b69c1, 0xefbe4786,
   0x0fc19dc6, 0x240ca1cc, 0x2de92c6f, 0x4a7484aa, 0x5cb0a9dc, 0x76f988da,
   0x983e5152, 0xa831c66d, 0xb00327c8, 0xbf597fc7, 0xc6e00bf3, 0xd5a79147,
   0x06ca6351, 0x14292967, 0x27b70a85, 0x2e1b2138, 0x4d2c6dfc, 0x53380d13,
   0x650a7354, 0x766a0abb, 0x81c2c92e, 0x92722c85, 0xa2bfe8a1, 0xa81a664b,
   0xc24b8b70, 0xc76c51a3, 0xd192e819, 0xd6990624, 0xf40e3585, 0x106aa070,
   0x19a4c116, 0x1e376c08, 0x2748774c, 0x34b0bcb5, 0x391c0cb3, 0x4ed8aa4a,
   0x5b9cca4f, 0x682e6ff3, 0x748f82ee, 0x78a5636f, 0x84c87814, 0x8cc70208,
   0x90befffa, 0xa4506ceb, 0xbef9a3f7, 0xc67178f2]

/-- The eight working words. -/
structure State where
  (a b c d e f g h : Nat)
  deriving DecidableEq

def initial : State where
  a := 0x6a09e667
  b := 0xbb67ae85
  c := 0x3c6ef372
  d := 0xa54ff53a
  e := 0x510e527f
  f := 0x9b05688c
  g := 0x1f83d9ab
  h := 0x5be0cd19

def wrap (x : Nat) : Nat := x % 0x100000000

def rotr (x n : Nat) : Nat := (x >>> n) ||| wrap (x <<< (32 - n))

def bigSigma0 (x : Nat) : Nat := rotr x 2 ^^^ rotr x 13 ^^^ rotr x 22

def bigSigma1 (x : Nat) : Nat := rotr x 6 ^^^ rotr x 11 ^^^ rotr x 25

def smallSigma0 (x : Nat) : Nat := rotr x 7 ^^^ rotr x 18 ^^^ (x >>> 3)

def smallSigma1 (x : Nat) : Nat := rotr x 17 ^^^ rotr x 19 ^^^ (x >>> 10)

/-- The message schedule: the sixteen words of a block, then `n` more. The list
is the window of the sixteen words before the next one. -/
def schedule : Nat → List Nat → List Nat
  | 0, w => w
  | n + 1, w =>
    w.headD 0 :: schedule n (w.tail ++
      [wrap (smallSigma1 (w.getD 14 0) + w.getD 9 0 + smallSigma0 (w.getD 1 0)
        + w.headD 0)])

def round (s : State) (k w : Nat) : State :=
  let choice := (s.e &&& s.f) ^^^ ((0xffffffff - s.e) &&& s.g)
  let majority := (s.a &&& s.b) ^^^ (s.a &&& s.c) ^^^ (s.b &&& s.c)
  let t1 := s.h + bigSigma1 s.e + choice + k + w
  let t2 := bigSigma0 s.a + majority
  ⟨wrap (t1 + t2), s.a, s.b, s.c, wrap (s.d + t1), s.e, s.f, s.g⟩

def rounds : State → List Nat → List Nat → State
  | s, k :: ks, w :: ws => rounds (round s k w) ks ws
  | s, _, _ => s

def State.add (s t : State) : State :=
  ⟨wrap (s.a + t.a), wrap (s.b + t.b), wrap (s.c + t.c), wrap (s.d + t.d),
   wrap (s.e + t.e), wrap (s.f + t.f), wrap (s.g + t.g), wrap (s.h + t.h)⟩

def compress (s : State) (block : List Nat) : State :=
  s.add (rounds s roundConstants (schedule 48 block))

def toWords : List Nat → List Nat
  | a :: b :: c :: d :: rest =>
    (((a * 256 + b) * 256 + c) * 256 + d) :: toWords rest
  | _ => []

/-- A one bit, zeros to the end of a block, and the length in bits as the last
eight bytes. -/
def pad (m : List Nat) : List Nat :=
  m ++ [0x80] ++ List.replicate ((119 - m.length % 64) % 64) 0 ++
    (List.range 8).map fun i => m.length * 8 / 256 ^ (7 - i) % 256

/-- The first `n` blocks. -/
def blocks : Nat → List Nat → List (List Nat)
  | 0, _ => []
  | n + 1, w => w.take 16 :: blocks n (w.drop 16)

def digest (m : List Nat) : State :=
  (blocks ((pad m).length / 64) (toWords (pad m))).foldl compress initial

def hexWord (w : Nat) : Text :=
  (List.range 8).map fun i => Nat.digitChar (w / 16 ^ (7 - i) % 16)

def State.hex (s : State) : Text :=
  [s.a, s.b, s.c, s.d, s.e, s.f, s.g, s.h].flatMap hexWord

/-- `str.encode()`. -/
def encode (s : Text) : List Nat :=
  (s.flatMap String.utf8EncodeChar).map UInt8.toNat

/-- `hashlib.sha256(text.encode()).hexdigest()`. -/
def hexdigest (s : Text) : Text := (digest (encode s)).hex

example :
    hexdigest "abc".toList =
      "ba7816bf8f01cfea414140de5dae2223b00361a396177a9cb410ff61f20015ad".toList := by
  decide +kernel

end Concord.Python.Sha256
