import Mathlib.Data.List.TakeDrop
import Mathlib.Data.List.Find
import Concord.Python.Json

/-!
# Python `bytes`

The conversions between `str`, `int` and `bytes` the modelled code uses: UTF-8,
`bytes.hex` and `bytes.fromhex`, two-byte big-endian integers, and
`base64.urlsafe_b64encode` with its decoder. The decoder is the state machine of
`binascii.a2b_base64` outside strict mode: it skips what is not in the alphabet,
stops at a complete padding, and refuses an input that ends inside a group.

Every decoder undoes its encoder (`decodeUtf8_utf8`, `fromHex_hex`,
`fromBigEndian_toBigEndian`, `urlsafeB64decode_encode`).
-/

namespace Concord.Python

abbrev Bytes := List UInt8

/-- `s.encode("utf-8")`. -/
def utf8 (s : Text) : Bytes := s.flatMap String.utf8EncodeChar

/-- `b.decode("utf-8")`; `none` is `UnicodeDecodeError`. -/
def decodeUtf8 (b : Bytes) : Option Text :=
  (ByteArray.utf8Decode? b.toByteArray).map Array.toList

theorem decodeUtf8_utf8 (s : Text) : decodeUtf8 (utf8 s) = some s := by
  have h : (utf8 s).toByteArray = s.utf8Encode := rfl
  simp [decodeUtf8, h]

/-! ## Hex digits -/

/-- `b.hex()`. -/
def hex (b : Bytes) : Text :=
  b.flatMap fun x => [Nat.digitChar (x.toNat / 16), Nat.digitChar (x.toNat % 16)]

def hexValue (c : Char) : Option Nat :=
  if '0' ≤ c ∧ c ≤ '9' then some (c.toNat - 48)
  else if 'a' ≤ c ∧ c ≤ 'f' then some (c.toNat - 87)
  else if 'A' ≤ c ∧ c ≤ 'F' then some (c.toNat - 55)
  else none

/-- `bytes.fromhex(s)` of a string without blanks. -/
def fromHex : Text → Option Bytes
  | [] => some []
  | [_] => none
  | hi :: lo :: s => do
    let a ← hexValue hi
    let b ← hexValue lo
    let rest ← fromHex s
    return UInt8.ofNat (16 * a + b) :: rest

theorem ofNat_eq_of_eq_toNat {n : Nat} {x : UInt8} (h : n = x.toNat) :
    UInt8.ofNat n = x := by
  rw [h, UInt8.ofNat_toNat]

theorem hexValue_digitChar : ∀ n : Fin 16, hexValue (Nat.digitChar n) = some n.val := by
  decide

theorem fromHex_hex (b : Bytes) : fromHex (hex b) = some b := by
  induction b with
  | nil => rfl
  | cons x b ih =>
    have hx := x.toNat_lt
    have hi := hexValue_digitChar ⟨x.toNat / 16, by omega⟩
    have lo := hexValue_digitChar ⟨x.toNat % 16, by omega⟩
    have hb : fromHex (b.flatMap fun x =>
        [Nat.digitChar (x.toNat / 16), Nat.digitChar (x.toNat % 16)]) = some b := ih
    have hx : UInt8.ofNat (16 * (x.toNat / 16) + x.toNat % 16) = x :=
      ofNat_eq_of_eq_toNat (by omega)
    simp only [hex, List.flatMap_cons, List.cons_append, List.nil_append, fromHex, hi, lo, hb,
      Option.bind_eq_bind, Option.bind_some, Option.pure_def, hx]

theorem hex_length (b : Bytes) : (hex b).length = 2 * b.length := by
  induction b with
  | nil => rfl
  | cons x b ih =>
    have h : hex (x :: b) =
        [Nat.digitChar (x.toNat / 16), Nat.digitChar (x.toNat % 16)] ++ hex b := rfl
    rw [h, List.length_append, ih, List.length_cons]
    simp only [List.length_cons, List.length_nil]
    omega

theorem hex_take (b : Bytes) (n : Nat) : (hex b).take (2 * n) = hex (b.take n) := by
  induction n generalizing b with
  | zero => simp [hex]
  | succ n ih =>
    cases b with
    | nil => simp [hex]
    | cons x b =>
      have := ih b
      simp only [hex, List.flatMap_cons, List.take_succ_cons] at this ⊢
      rw [show 2 * (n + 1) = 2 * n + 1 + 1 by omega]
      simp [this]

/-! ## Integers -/

/-- `n.to_bytes(2, "big")`; `none` is `OverflowError`. -/
def toBigEndian (n : Nat) : Option Bytes :=
  if n < 65536 then some [UInt8.ofNat (n / 256), UInt8.ofNat (n % 256)] else none

/-- `int.from_bytes(b, "big")`. -/
def fromBigEndian (b : Bytes) : Nat := b.foldl (fun n x => 256 * n + x.toNat) 0

theorem toBigEndian_eq_some {n : Nat} {b : Bytes} (h : toBigEndian n = some b) :
    b.length = 2 ∧ fromBigEndian b = n := by
  unfold toBigEndian at h
  split at h
  next hn =>
    cases h
    refine ⟨rfl, ?_⟩
    simp only [fromBigEndian, List.foldl_cons, List.foldl_nil, UInt8.toNat_ofNat']
    omega
  next => cases h

/-! ## Base64 -/

/-- The alphabet of `urlsafe_b64encode`. -/
def b64Alphabet : Text :=
  "ABCDEFGHIJKLMNOPQRSTUVWXYZabcdefghijklmnopqrstuvwxyz0123456789-_".toList

def b64Char (v : Nat) : Char := b64Alphabet.getD v 'A'

/-- The value of a character. The decoder maps `-` and `_` to the `+` and `/` of
the standard alphabet first, so it takes all four. -/
def b64Value (c : Char) : Option Nat :=
  b64Alphabet.idxOf? (if c = '+' then '-' else if c = '/' then '_' else c)

/-- `base64.urlsafe_b64encode(b).decode("ascii")`. -/
def urlsafeB64encode : Bytes → Text
  | [] => []
  | [a] => [b64Char (a.toNat / 4), b64Char (a.toNat % 4 * 16), '=', '=']
  | [a, b] =>
    [b64Char (a.toNat / 4), b64Char (a.toNat % 4 * 16 + b.toNat / 16),
     b64Char (b.toNat % 16 * 4), '=']
  | a :: b :: c :: rest =>
    b64Char (a.toNat / 4) :: b64Char (a.toNat % 4 * 16 + b.toNat / 16) ::
      b64Char (b.toNat % 16 * 4 + c.toNat / 64) :: b64Char (c.toNat % 64) ::
      urlsafeB64encode rest

/-- `binascii.a2b_base64`, from position `quad` of a group, with the bits `left`
over and `pads` padding characters seen. `none` is `binascii.Error`. -/
def a2bBase64 (quad left pads : Nat) : Text → Option Bytes
  | [] => if quad = 0 then some [] else none
  | c :: s =>
    if c = '=' then
      -- padding counts from the third place of a group
      if 2 ≤ quad ∧ 4 ≤ quad + (pads + 1) then some []
      else a2bBase64 quad left (if 2 ≤ quad then pads + 1 else pads) s
    else
      match b64Value c with
      -- outside the alphabet: skipped
      | none => a2bBase64 quad left pads s
      | some v =>
        match quad with
        | 0 => a2bBase64 1 v 0 s
        | 1 => (a2bBase64 2 (v % 16) 0 s).map (UInt8.ofNat (left * 4 + v / 16) :: ·)
        | 2 => (a2bBase64 3 (v % 4) 0 s).map (UInt8.ofNat (left * 16 + v / 4) :: ·)
        | _ => (a2bBase64 0 0 0 s).map (UInt8.ofNat (left * 64 + v) :: ·)

/-- `base64.urlsafe_b64decode(s.encode("ascii"))` of an ASCII string. -/
def urlsafeB64decode (s : Text) : Option Bytes := a2bBase64 0 0 0 s

theorem b64Value_b64Char : ∀ v : Fin 64,
    b64Char v ≠ '=' ∧ b64Value (b64Char v) = some v.val := by
  decide +kernel

section Decoder

variable {v : Nat} (hv : v < 64) (left pads : Nat) (s : Text)
include hv

theorem a2bBase64_first : a2bBase64 0 left pads (b64Char v :: s) = a2bBase64 1 v 0 s := by
  obtain ⟨hpad, hval⟩ := b64Value_b64Char ⟨v, hv⟩
  simp [a2bBase64, hpad, hval]

theorem a2bBase64_second :
    a2bBase64 1 left pads (b64Char v :: s) =
      (a2bBase64 2 (v % 16) 0 s).map (UInt8.ofNat (left * 4 + v / 16) :: ·) := by
  obtain ⟨hpad, hval⟩ := b64Value_b64Char ⟨v, hv⟩
  simp only [a2bBase64, if_neg hpad, hval]

theorem a2bBase64_third :
    a2bBase64 2 left pads (b64Char v :: s) =
      (a2bBase64 3 (v % 4) 0 s).map (UInt8.ofNat (left * 16 + v / 4) :: ·) := by
  obtain ⟨hpad, hval⟩ := b64Value_b64Char ⟨v, hv⟩
  simp only [a2bBase64, if_neg hpad, hval]

theorem a2bBase64_fourth :
    a2bBase64 3 left pads (b64Char v :: s) =
      (a2bBase64 0 0 0 s).map (UInt8.ofNat (left * 64 + v) :: ·) := by
  obtain ⟨hpad, hval⟩ := b64Value_b64Char ⟨v, hv⟩
  simp only [a2bBase64, if_neg hpad, hval]

end Decoder

theorem urlsafeB64decode_encode (b : Bytes) :
    urlsafeB64decode (urlsafeB64encode b) = some b := by
  unfold urlsafeB64decode
  fun_induction urlsafeB64encode b with
  | case1 => rfl
  | case2 a =>
    have ha := a.toNat_lt
    have h1 : UInt8.ofNat (a.toNat / 4 * 4 + a.toNat % 4 * 16 / 16) = a :=
      ofNat_eq_of_eq_toNat (by omega)
    rw [a2bBase64_first (by omega), a2bBase64_second (by omega), h1]
    rfl
  | case3 a b =>
    have ha := a.toNat_lt
    have hb := b.toNat_lt
    have h1 : UInt8.ofNat (a.toNat / 4 * 4 + (a.toNat % 4 * 16 + b.toNat / 16) / 16) = a :=
      ofNat_eq_of_eq_toNat (by omega)
    have h2 : UInt8.ofNat ((a.toNat % 4 * 16 + b.toNat / 16) % 16 * 16 +
        b.toNat % 16 * 4 / 4) = b :=
      ofNat_eq_of_eq_toNat (by omega)
    rw [a2bBase64_first (by omega), a2bBase64_second (by omega),
      a2bBase64_third (by omega), h1, h2]
    rfl
  | case4 a b c rest ih =>
    have ha := a.toNat_lt
    have hb := b.toNat_lt
    have hc := c.toNat_lt
    have h1 : UInt8.ofNat (a.toNat / 4 * 4 + (a.toNat % 4 * 16 + b.toNat / 16) / 16) = a :=
      ofNat_eq_of_eq_toNat (by omega)
    have h2 : UInt8.ofNat ((a.toNat % 4 * 16 + b.toNat / 16) % 16 * 16 +
        (b.toNat % 16 * 4 + c.toNat / 64) / 4) = b :=
      ofNat_eq_of_eq_toNat (by omega)
    have h3 : UInt8.ofNat ((b.toNat % 16 * 4 + c.toNat / 64) % 4 * 64 + c.toNat % 64) = c :=
      ofNat_eq_of_eq_toNat (by omega)
    rw [a2bBase64_first (by omega), a2bBase64_second (by omega),
      a2bBase64_third (by omega), a2bBase64_fourth (by omega), ih, h1, h2, h3]
    rfl

/-- Every character of `s` is ASCII, so that `s.encode("ascii")` does not raise. -/
def isAscii (s : Text) : Bool := s.all fun c => c.toNat < 128

theorem b64Char_of_forall {P : Char → Prop} (h : ∀ v : Fin 64, P (b64Char v)) (v : Nat) :
    P (b64Char v) := by
  by_cases hv : v < 64
  · exact h ⟨v, hv⟩
  · have hlen : b64Alphabet.length = 64 := rfl
    have hout : b64Char v = b64Char 0 := by
      simp [b64Char, List.getD_eq_getElem?_getD, List.getElem?_eq_none (hlen ▸ Nat.le_of_not_lt hv)]
      rfl
    rw [hout]
    exact h 0

theorem b64Char_ascii (v : Nat) : (b64Char v).toNat < 128 :=
  b64Char_of_forall (P := fun c => c.toNat < 128) (by decide +kernel) v

theorem isAscii_urlsafeB64encode (b : Bytes) : isAscii (urlsafeB64encode b) := by
  fun_induction urlsafeB64encode b with
  | case1 => rfl
  | case2 a => simp [isAscii, b64Char_ascii]
  | case3 a b => simp [isAscii, b64Char_ascii]
  | case4 a b c rest ih => simpa [isAscii, b64Char_ascii] using ih

theorem isAscii_hex (b : Bytes) : isAscii (hex b) = true := by
  have hdigit : ∀ n, n < 16 → (Nat.digitChar n).toNat < 128 := fun n hn =>
    (by decide : ∀ n : Fin 16, (Nat.digitChar n).toNat < 128) ⟨n, hn⟩
  refine List.all_eq_true.mpr fun c hc => ?_
  obtain ⟨x, -, hx⟩ := List.mem_flatMap.mp hc
  have hlt := x.toNat_lt
  simp only [List.mem_cons, List.not_mem_nil, or_false] at hx
  rcases hx with rfl | rfl
  · exact decide_eq_true (hdigit _ (by omega))
  · exact decide_eq_true (hdigit _ (by omega))

/-! ## Padding -/

/-- `s.rstrip("=")`. -/
def rstripPad (s : Text) : Text := (s.reverse.dropWhile (· = '=')).reverse

/-- `s + "=" * (-len(s) % 4)`. -/
def padBase64 (s : Text) : Text := s ++ List.replicate ((4 - s.length % 4) % 4) '='

theorem urlsafeB64encode_form (b : Bytes) : ∃ body k, k < 4 ∧ (body.length + k) % 4 = 0 ∧
    (∀ c ∈ body, ∃ v, c = b64Char v) ∧
      urlsafeB64encode b = body ++ List.replicate k '=' := by
  fun_induction urlsafeB64encode b with
  | case1 => exact ⟨[], 0, by decide, rfl, List.forall_mem_nil _, rfl⟩
  | case2 a => exact ⟨[_, _], 2, by decide, by simp, by simp, rfl⟩
  | case3 a b => exact ⟨[_, _, _], 1, by decide, by simp, by simp, rfl⟩
  | case4 a b c rest ih =>
    obtain ⟨body, k, hk, hlen, hbody, hrest⟩ := ih
    refine ⟨_ :: _ :: _ :: _ :: body, k, hk, ?_, ?_, by rw [hrest]; rfl⟩
    · simp only [List.length_cons]
      omega
    · intro d hd
      simp only [List.mem_cons] at hd
      rcases hd with rfl | rfl | rfl | rfl | hd
      · exact ⟨_, rfl⟩
      · exact ⟨_, rfl⟩
      · exact ⟨_, rfl⟩
      · exact ⟨_, rfl⟩
      · exact hbody d hd

theorem rstripPad_append {body : Text} (h : '=' ∉ body) (k : Nat) :
    rstripPad (body ++ List.replicate k '=') = body := by
  have hreplicate : ∀ c ∈ List.replicate k '=', decide (c = '=') = true :=
    fun c hc => decide_eq_true (List.eq_of_mem_replicate hc)
  have hbody : body.reverse.dropWhile (· = '=') = body.reverse := by
    cases hrev : body.reverse with
    | nil => rfl
    | cons c s =>
      have hc : c ≠ '=' := by
        rintro rfl
        exact h (List.mem_reverse.mp (hrev ▸ List.mem_cons_self))
      exact List.dropWhile_cons_of_neg (by simp [hc])
  rw [rstripPad, List.reverse_append, List.reverse_replicate,
    List.dropWhile_append_of_pos hreplicate, hbody, List.reverse_reverse]

theorem rstripPad_form (b : Bytes) : ∃ k, k < 4 ∧
    ((rstripPad (urlsafeB64encode b)).length + k) % 4 = 0 ∧
    (∀ c ∈ rstripPad (urlsafeB64encode b), ∃ v, c = b64Char v) ∧
      urlsafeB64encode b = rstripPad (urlsafeB64encode b) ++ List.replicate k '=' := by
  obtain ⟨body, k, hk, hlen, hbody, hb⟩ := urlsafeB64encode_form b
  have hpad : '=' ∉ body := by
    intro hmem
    obtain ⟨v, hv⟩ := hbody _ hmem
    exact b64Char_of_forall (P := fun c => '=' ≠ c) (by decide +kernel) v hv
  have hstrip : rstripPad (urlsafeB64encode b) = body := by rw [hb, rstripPad_append hpad]
  exact ⟨k, hk, hstrip ▸ hlen, hstrip ▸ hbody, hstrip ▸ hb⟩

theorem padBase64_rstripPad (b : Bytes) :
    padBase64 (rstripPad (urlsafeB64encode b)) = urlsafeB64encode b := by
  obtain ⟨k, hk, hlen, -, hb⟩ := rstripPad_form b
  have hcount : (4 - (rstripPad (urlsafeB64encode b)).length % 4) % 4 = k := by omega
  rw [padBase64, hcount, ← hb]

theorem notMem_rstripPad {c : Char} (h : ∀ v : Fin 64, c ≠ b64Char v) (b : Bytes) :
    c ∉ rstripPad (urlsafeB64encode b) := by
  obtain ⟨k, -, -, hbody, -⟩ := rstripPad_form b
  intro hmem
  obtain ⟨v, hv⟩ := hbody c hmem
  exact b64Char_of_forall (P := fun d => c ≠ d) h v hv

end Concord.Python
