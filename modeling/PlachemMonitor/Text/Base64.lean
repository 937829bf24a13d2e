import Mathlib.Data.List.Basic

/-!
# Base64

The URL-safe Base64 of bytes, without the padding, as it is written and read with `base64`.

* `encode`, `unpadded`: the characters of the bytes, with and without the padding.
* `decode`: the lenient decoder of `binascii`, which leaves out what is no character of the alphabet and
  stops at a padding that completes a group.
* `decode_padded`: it reads back what has been written, after the padding is restored.
-/

namespace Plachem

namespace Base64

/-- `A-Z`, `a-z`, `0-9`, `-`, `_` -/
def digit (n : Nat) : Char :=
  if n < 26 then Char.ofNat (65 + n)
  else if n < 52 then Char.ofNat (71 + n)
  else if n < 62 then Char.ofNat (n - 4)
  else if n = 62 then '-' else '_'

/-- The value of a character. After the translation of `-` and `_`, those that they stand for are read
as well. -/
def value (c : Char) : Option Nat :=
  let n := c.toNat
  if 65 ≤ n ∧ n ≤ 90 then some (n - 65)
  else if 97 ≤ n ∧ n ≤ 122 then some (n - 71)
  else if 48 ≤ n ∧ n ≤ 57 then some (n + 4)
  else if c = '-' ∨ c = '+' then some 62
  else if c = '_' ∨ c = '/' then some 63
  else none

/-- `urlsafe_b64encode` -/
def encode : List UInt8 → List Char
  | [] => []
  | [a] => [digit (a.toNat / 4), digit (a.toNat % 4 * 16), '=', '=']
  | [a, b] =>
    [digit (a.toNat / 4), digit (a.toNat % 4 * 16 + b.toNat / 16), digit (b.toNat % 16 * 4), '=']
  | a :: b :: c :: bytes =>
    digit (a.toNat / 4) :: digit (a.toNat % 4 * 16 + b.toNat / 16) ::
      digit (b.toNat % 16 * 4 + c.toNat / 64) :: digit (c.toNat % 64) :: encode bytes

/-- `.rstrip("=")` -/
def strip (text : List Char) : List Char := (text.reverse.dropWhile (· == '=')).reverse

def unpadded (bytes : List UInt8) : List Char := strip (encode bytes)

/-- `"=" * (-len(value) % 4)` -/
def padding (length : Nat) : List Char := List.replicate ((4 - length % 4) % 4) '='

/-- `a2b_base64` from inside a group: so many of its characters have been read, `left` are the bits of the
last one that are not yet given out, and so many paddings have been seen. -/
def decodeFrom : Nat → Nat → Nat → List Char → Option (List UInt8)
  | quad, _, _, [] => if quad = 0 then some [] else none
  | quad, left, pads, c :: cs =>
    if c = '=' then
      if 2 ≤ quad ∧ 4 ≤ quad + (pads + 1) then some []
      else decodeFrom quad left (if 2 ≤ quad then pads + 1 else pads) cs
    else
      match value c with
      | none => decodeFrom quad left pads cs
      | some v =>
        match quad with
        | 0 => decodeFrom 1 v 0 cs
        | 1 => (decodeFrom 2 (v % 16) 0 cs).map (UInt8.ofNat (left * 4 + v / 16) :: ·)
        | 2 => (decodeFrom 3 (v % 4) 0 cs).map (UInt8.ofNat (left * 16 + v / 4) :: ·)
        | _ => (decodeFrom 0 0 0 cs).map (UInt8.ofNat (left * 64 + v) :: ·)

/-- `urlsafe_b64decode`; `none` is a `binascii.Error`. -/
def decode (text : List Char) : Option (List UInt8) := decodeFrom 0 0 0 text

/-! ## Reading back -/

theorem value_digit : ∀ n < 64, value (digit n) = some n := by decide

theorem digit_ne_pad : ∀ n < 64, digit n ≠ '=' := by decide

section

variable {n : Nat} (hn : n < 64) (left pads : Nat) (cs : List Char)

include hn

theorem decodeFrom_zero : decodeFrom 0 left pads (digit n :: cs) = decodeFrom 1 n 0 cs := by
  rw [decodeFrom.eq_def]
  simp only [digit_ne_pad n hn, if_false, value_digit n hn]

theorem decodeFrom_one : decodeFrom 1 left pads (digit n :: cs) =
    (decodeFrom 2 (n % 16) 0 cs).map (UInt8.ofNat (left * 4 + n / 16) :: ·) := by
  rw [decodeFrom.eq_def]
  simp only [digit_ne_pad n hn, if_false, value_digit n hn]

theorem decodeFrom_two : decodeFrom 2 left pads (digit n :: cs) =
    (decodeFrom 3 (n % 4) 0 cs).map (UInt8.ofNat (left * 16 + n / 4) :: ·) := by
  rw [decodeFrom.eq_def]
  simp only [digit_ne_pad n hn, if_false, value_digit n hn]

theorem decodeFrom_three : decodeFrom 3 left pads (digit n :: cs) =
    (decodeFrom 0 0 0 cs).map (UInt8.ofNat (left * 64 + n) :: ·) := by
  rw [decodeFrom.eq_def]
  simp only [digit_ne_pad n hn, if_false, value_digit n hn]

end

/-- A byte in its two parts. -/
theorem ofNat_parts {a : UInt8} {n : Nat} (h : n = a.toNat) : UInt8.ofNat n = a := by
  rw [h, UInt8.ofNat_toNat]

theorem decode_encode (bytes : List UInt8) : decode (encode bytes) = some bytes := by
  unfold decode
  induction bytes using encode.induct with
  | case1 => rfl
  | case2 a =>
    have ha := a.toNat_lt
    rw [encode, decodeFrom_zero (by omega), decodeFrom_one (by omega), ofNat_parts (a := a) (by omega)]
    rfl
  | case3 a b =>
    have ha := a.toNat_lt
    have hb := b.toNat_lt
    rw [encode, decodeFrom_zero (by omega), decodeFrom_one (by omega), decodeFrom_two (by omega),
      ofNat_parts (a := a) (by omega), ofNat_parts (a := b) (by omega)]
    rfl
  | case4 a b c bytes ih =>
    have ha := a.toNat_lt
    have hb := b.toNat_lt
    have hc := c.toNat_lt
    rw [encode, decodeFrom_zero (by omega), decodeFrom_one (by omega), decodeFrom_two (by omega),
      decodeFrom_three (by omega), ih, ofNat_parts (a := a) (by omega), ofNat_parts (a := b) (by omega),
      ofNat_parts (a := c) (by omega)]
    rfl

/-- The digits of the bytes, and the padding after them. -/
theorem encode_split (bytes : List UInt8) :
    ∃ body, encode bytes = body ++ padding body.length ∧ bytes.length ≤ body.length ∧
      ∀ c ∈ body, ∃ n < 64, c = digit n := by
  induction bytes using encode.induct with
  | case1 => exact ⟨[], rfl, Nat.le_refl _, fun c hc => absurd hc List.not_mem_nil⟩
  | case2 a =>
    have ha := a.toNat_lt
    refine ⟨[digit (a.toNat / 4), digit (a.toNat % 4 * 16)], rfl, by simp, fun c hc => ?_⟩
    rcases List.mem_pair.mp hc with rfl | rfl
    · exact ⟨_, by omega, rfl⟩
    · exact ⟨_, by omega, rfl⟩
  | case3 a b =>
    have ha := a.toNat_lt
    have hb := b.toNat_lt
    refine ⟨[digit (a.toNat / 4), digit (a.toNat % 4 * 16 + b.toNat / 16), digit (b.toNat % 16 * 4)], rfl,
      by simp, fun c hc => ?_⟩
    rcases List.mem_cons.mp hc with rfl | hc
    · exact ⟨_, by omega, rfl⟩
    · rcases List.mem_pair.mp hc with rfl | rfl
      · exact ⟨_, by omega, rfl⟩
      · exact ⟨_, by omega, rfl⟩
  | case4 a b c bytes ih =>
    have ha := a.toNat_lt
    have hb := b.toNat_lt
    have hc := c.toNat_lt
    obtain ⟨body, hbody, hlength, hdigits⟩ := ih
    refine ⟨digit (a.toNat / 4) :: digit (a.toNat % 4 * 16 + b.toNat / 16) ::
      digit (b.toNat % 16 * 4 + c.toNat / 64) :: digit (c.toNat % 64) :: body, ?_, ?_, fun e he => ?_⟩
    · have hmod : (body.length + 1 + 1 + 1 + 1) % 4 = body.length % 4 := by omega
      rw [encode, hbody]
      simp only [padding, List.length_cons, hmod, List.cons_append]
    · simp only [List.length_cons]
      omega
    · rcases List.mem_cons.mp he with rfl | he
      · exact ⟨_, by omega, rfl⟩
      · rcases List.mem_cons.mp he with rfl | he
        · exact ⟨_, by omega, rfl⟩
        · rcases List.mem_cons.mp he with rfl | he
          · exact ⟨_, by omega, rfl⟩
          · rcases List.mem_cons.mp he with rfl | he
            · exact ⟨_, by omega, rfl⟩
            · exact hdigits e he

theorem dropWhile_replicate {α : Type*} {p : α → Bool} {a : α} (ha : p a = true) (k : Nat) (l : List α) :
    (List.replicate k a ++ l).dropWhile p = l.dropWhile p := by
  induction k with
  | zero => rfl
  | succ k ih => rw [List.replicate_succ, List.cons_append, List.dropWhile_cons_of_pos ha, ih]

/-- Only the padding is stripped. -/
theorem strip_padding {body : List Char} (h : ∀ c ∈ body, ∃ n < 64, c = digit n) :
    strip (body ++ padding body.length) = body := by
  have hstart : body.reverse.dropWhile (· == '=') = body.reverse := by
    cases hbody : body.reverse with
    | nil => rfl
    | cons c cs =>
      obtain ⟨n, hn, rfl⟩ := h c (List.mem_reverse.mp (hbody ▸ List.mem_cons_self))
      exact List.dropWhile_cons_of_neg (by simpa using digit_ne_pad n hn)
  rw [strip, padding, List.reverse_append, List.reverse_replicate, dropWhile_replicate rfl, hstart,
    List.reverse_reverse]

/-- What has been written without the padding is read back after it is restored. -/
theorem decode_padded (bytes : List UInt8) :
    decode (unpadded bytes ++ padding (unpadded bytes).length) = some bytes := by
  obtain ⟨body, hbody, -, hdigits⟩ := encode_split bytes
  have hunpadded : unpadded bytes = body := by rw [unpadded, hbody, strip_padding hdigits]
  rw [hunpadded, ← hbody]
  exact decode_encode bytes

/-- The characters that are written. -/
theorem mem_unpadded {bytes : List UInt8} {c : Char} (h : c ∈ unpadded bytes) : ∃ n < 64, c = digit n := by
  obtain ⟨body, hbody, -, hdigits⟩ := encode_split bytes
  rw [unpadded, hbody, strip_padding hdigits] at h
  exact hdigits c h

theorem length_unpadded (bytes : List UInt8) : bytes.length ≤ (unpadded bytes).length := by
  obtain ⟨body, hbody, hlength, hdigits⟩ := encode_split bytes
  rwa [unpadded, hbody, strip_padding hdigits]

/-- The first digit is that of the first byte. -/
theorem unpadded_cons (a : UInt8) (bytes : List UInt8) :
    ∃ rest, unpadded (a :: bytes) = digit (a.toNat / 4) :: rest := by
  obtain ⟨body, hbody, -, hdigits⟩ := encode_split (a :: bytes)
  have hunpadded : unpadded (a :: bytes) = body := by rw [unpadded, hbody, strip_padding hdigits]
  have hhead : (encode (a :: bytes)).head? = some (digit (a.toNat / 4)) := by
    rcases bytes with _ | ⟨b, _ | ⟨c, bytes⟩⟩
    · rfl
    · rfl
    · rfl
  rw [hunpadded]
  cases body with
  | nil =>
    rw [hbody] at hhead
    exact absurd hhead (by simp [padding])
  | cons d rest =>
    rw [hbody, List.cons_append, List.head?_cons, Option.some_inj] at hhead
    exact ⟨rest, by rw [hhead]⟩

end Base64

end Plachem
