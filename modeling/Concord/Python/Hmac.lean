import Concord.Python.Bytes
import Concord.Python.Sha256

/-!
# `hashlib` and `hmac` over bytes

SHA-256 with its digest as 32 bytes, HMAC over it, and the one block of
PBKDF2-HMAC-SHA256 that a 32-byte key takes. HMAC fills a key up to its block
length with zeros, so two keys that differ only in zeros at the end have the same
codes (`hmacSha256_append_zero`).

A time-based code is computed from HMAC-SHA-1 and base32: `hashlib.sha1`,
`hmac.new(key, m, hashlib.sha1)` and `base64.b32decode`. The padding and the words of SHA-1 are
those of SHA-256.
-/

namespace Concord.Python

def wordBytes (w : Nat) : Bytes :=
  [UInt8.ofNat (w / 16777216), UInt8.ofNat (w / 65536), UInt8.ofNat (w / 256), UInt8.ofNat w]

def Sha256.State.bytes (s : Sha256.State) : Bytes :=
  [s.a, s.b, s.c, s.d, s.e, s.f, s.g, s.h].flatMap wordBytes

/-- `hashlib.sha256(m).digest()`. -/
def sha256 (m : Bytes) : Bytes := (Sha256.digest (m.map UInt8.toNat)).bytes

theorem sha256_length (m : Bytes) : (sha256 m).length = 32 := rfl

def hmacBlock (key : Bytes) : Bytes :=
  -- a key longer than a block is hashed first
  let k := if 64 < key.length then sha256 key else key
  k ++ List.replicate (64 - k.length) 0

/-- `hmac.new(key, m, hashlib.sha256).digest()`. -/
def hmacSha256 (key m : Bytes) : Bytes :=
  sha256 ((hmacBlock key).map (· ^^^ 0x5c) ++ sha256 ((hmacBlock key).map (· ^^^ 0x36) ++ m))

theorem hmacSha256_length (key m : Bytes) : (hmacSha256 key m).length = 32 := rfl

theorem hmacSha256_append_zero {key : Bytes} (h : key.length < 64) :
    hmacSha256 (key ++ [0]) = hmacSha256 key := by
  have hblock : hmacBlock (key ++ [0]) = hmacBlock key := by
    obtain ⟨n, hn⟩ : ∃ n, 64 - key.length = n + 1 := ⟨63 - key.length, by omega⟩
    have hn' : 64 - (key.length + 1) = n := by omega
    have h1 : ¬ 64 < key.length + 1 := by omega
    have h2 : ¬ 64 < key.length := by omega
    simp [hmacBlock, h1, h2, hn, hn', List.replicate_succ]
  funext m
  rw [hmacSha256, hmacSha256, hblock]

/-- `n` further rounds: the code of the last round, and the sum of them all. -/
def pbkdf2Rounds (code : Bytes → Bytes) : Nat → Bytes → Bytes → Bytes
  | 0, _, sum => sum
  | n + 1, u, sum => pbkdf2Rounds code n (code u) (List.zipWith (· ^^^ ·) sum (code u))

/-- `hashlib.pbkdf2_hmac("sha256", password, salt, rounds)`, with
`hmacSha256 password` as the code. The key is as long as a digest, so there is
one block. -/
def pbkdf2 (code : Bytes → Bytes) (salt : Bytes) (rounds : Nat) : Bytes :=
  let u := code (salt ++ [0, 0, 0, 1])
  pbkdf2Rounds code (rounds - 1) u u

theorem pbkdf2Rounds_length {code : Bytes → Bytes} {k : Nat} (hcode : ∀ m, (code m).length = k)
    (n : Nat) (u : Bytes) {sum : Bytes} (hsum : sum.length = k) :
    (pbkdf2Rounds code n u sum).length = k := by
  induction n generalizing u sum with
  | zero => exact hsum
  | succ n ih => exact ih _ (by simp [hsum, hcode])

theorem pbkdf2_length (key salt : Bytes) (rounds : Nat) :
    (pbkdf2 (hmacSha256 key) salt rounds).length = 32 :=
  pbkdf2Rounds_length (hmacSha256_length key) _ _ (hmacSha256_length key _)

/-! ## SHA-1 and base32 -/

namespace Sha1

open Sha256 (wrap toWords pad blocks)

/-- The five working words. -/
structure State where
  (a b c d e : Nat)
  deriving DecidableEq

def initial : State where
  a := 0x67452301
  b := 0xefcdab89
  c := 0x98badcfe
  d := 0x10325476
  e := 0xc3d2e1f0

def rotl (x n : Nat) : Nat := wrap (x <<< n) ||| (x >>> (32 - n))

/-- The message schedule, as for SHA-256: the list is the window of sixteen words. -/
def schedule : Nat → List Nat → List Nat
  | 0, w => w
  | n + 1, w =>
    w.headD 0 :: schedule n (w.tail ++
      [rotl (w.getD 13 0 ^^^ w.getD 8 0 ^^^ w.getD 2 0 ^^^ w.headD 0) 1])

def mix (i b c d : Nat) : Nat :=
  if i < 20 then ((b &&& c) ||| ((0xffffffff - b) &&& d)) + 0x5a827999
  else if i < 40 then (b ^^^ c ^^^ d) + 0x6ed9eba1
  else if i < 60 then ((b &&& c) ||| (b &&& d) ||| (c &&& d)) + 0x8f1bbcdc
  else (b ^^^ c ^^^ d) + 0xca62c1d6

def round (s : State) (i w : Nat) : State :=
  ⟨wrap (rotl s.a 5 + mix i s.b s.c s.d + s.e + w), s.a, rotl s.b 30, s.c, s.d⟩

/-- The rounds from number `i` on. -/
def rounds (s : State) (i : Nat) : List Nat → State
  | [] => s
  | w :: ws => rounds (round s i w) (i + 1) ws

def compress (s : State) (block : List Nat) : State :=
  let t := rounds s 0 (schedule 64 block)
  ⟨wrap (s.a + t.a), wrap (s.b + t.b), wrap (s.c + t.c), wrap (s.d + t.d), wrap (s.e + t.e)⟩

def digest (m : List Nat) : State :=
  (blocks ((pad m).length / 64) (toWords (pad m))).foldl compress initial

end Sha1

/-- `hashlib.sha1(m).digest()`. -/
def sha1 (m : Bytes) : Bytes :=
  let s := Sha1.digest (m.map UInt8.toNat)
  [s.a, s.b, s.c, s.d, s.e].flatMap wordBytes

/-- `hmac.new(key, m, hashlib.sha1).digest()`. -/
def hmacSha1 (key m : Bytes) : Bytes :=
  let k := if 64 < key.length then sha1 key else key
  let block := k ++ List.replicate (64 - k.length) 0
  sha1 (block.map (· ^^^ 0x5c) ++ sha1 (block.map (· ^^^ 0x36) ++ m))

example : hex (sha1 (utf8 "abc".toList)) = "a9993e364706816aba3e25717850c26c9cd0d89d".toList := by
  decide +kernel

/-! ## Base32 -/

def b32Value (c : Char) : Option Nat :=
  "ABCDEFGHIJKLMNOPQRSTUVWXYZ234567".toList.idxOf? c

def quantum (acc : Nat) : Bytes := UInt8.ofNat (acc / 4294967296) :: wordBytes acc

/-- The quanta of the digits before the padding: the bytes so far, and the bits of the last
one, which may be short. `none` is `binascii.Error`. -/
def b32Quanta : Nat → Text → Option (Bytes × Nat)
  | 0, _ => some ([], 0)
  | n + 1, s => do
    let digits ← (s.take 8).mapM b32Value
    let acc := digits.foldl (fun acc v => 32 * acc + v) 0
    if s.length ≤ 8 then
      return (quantum acc, acc)
    let (rest, last) ← b32Quanta n (s.drop 8)
    return (quantum acc ++ rest, last)

/-- `base64.b32decode(s)` of an ASCII string. -/
def b32decode (s : Text) : Option Bytes :=
  let digits := (s.reverse.dropWhile (· = '=')).reverse
  let padding := s.length - digits.length
  if s.length % 8 ≠ 0 then none
  else if digits.isEmpty then
    if padding ∈ [0, 1, 3, 4, 6] then some [] else none
  else
    (b32Quanta digits.length digits).bind fun (decoded, acc) =>
      if padding = 0 then some decoded
      else if padding ∈ [1, 3, 4, 6] then
        -- the last quantum is filled up with zeros and cut to the bytes it had
        some (decoded.take (decoded.length - 5) ++
          (quantum (acc * 32 ^ padding)).take ((43 - 5 * padding) / 8))
      else none

example : b32decode "MZXW6YTB".toList = some (utf8 "fooba".toList) ∧
    b32decode "MZXW6===".toList = some (utf8 "foo".toList) := by
  decide +kernel

end Concord.Python
