/-
# Bytes as text

`btoa` and `atob`, and what `TextEncoder` and `TextDecoder` make of a text.

In base64 three bytes are four digits.  One or two bytes that are left make two or three digits, and the
text is filled up to a multiple of four.  `atob` forgives: it drops blanks, the signs at the end and the
bits that are left over, and so gives the bytes of the digits (`atob_digits`).  What it does not forgive is
any other character (`atob_eq_none`).

A text that was encoded in UTF-8 is decoded again (`decode_encode`).  The decoder puts U+FFFD where the
bytes are no UTF-8, and refuses forms that are too long, surrogates and what lies above U+10FFFF by the
bounds of the second byte; the bytes of a character keep within these bounds (`decodeFrom_encodeChar`).
Only a byte order mark at the beginning is lost.
-/
import Mathlib

namespace ByteText

/-! ## 1. Base64 -/

/-- The character of six bits. -/
def digitChar (n : Nat) : Char :=
  if n < 26 then Char.ofNat (65 + n)
  else if n < 52 then Char.ofNat (71 + n)
  else if n < 62 then Char.ofNat (n - 4)
  else if n = 62 then '+'
  else '/'

def digitValue (c : Char) : Option Nat :=
  if 'A' ≤ c ∧ c ≤ 'Z' then some (c.toNat - 65)
  else if 'a' ≤ c ∧ c ≤ 'z' then some (c.toNat - 71)
  else if '0' ≤ c ∧ c ≤ '9' then some (c.toNat + 4)
  else if c = '+' then some 62
  else if c = '/' then some 63
  else none

/-- The bytes, six bits at a time. -/
def digits : List UInt8 → List Nat
  | a :: b :: c :: rest =>
    a.toNat / 4 :: (a.toNat % 4 * 16 + b.toNat / 16) :: (b.toNat % 16 * 4 + c.toNat / 64) ::
      c.toNat % 64 :: digits rest
  | [a, b] => [a.toNat / 4, a.toNat % 4 * 16 + b.toNat / 16, b.toNat % 16 * 4]
  | [a] => [a.toNat / 4, a.toNat % 4 * 16]
  | [] => []

/-- The bytes of the digits.  What is left over is dropped. -/
def bytes : List Nat → List UInt8
  | a :: b :: c :: d :: rest =>
    UInt8.ofNat (a * 4 + b / 16) :: UInt8.ofNat (b % 16 * 16 + c / 4) ::
      UInt8.ofNat (c % 4 * 64 + d) :: bytes rest
  | [a, b, c] => [UInt8.ofNat (a * 4 + b / 16), UInt8.ofNat (b % 16 * 16 + c / 4)]
  | [a, b] => [UInt8.ofNat (a * 4 + b / 16)]
  | _ => []

/-- The signs that fill the last four characters up. -/
def padding (length : Nat) : List Char := List.replicate ((4 - length % 4) % 4) '='

def btoa (data : List UInt8) : List Char :=
  (digits data).map digitChar ++ padding (digits data).length

def isBlank (c : Char) : Bool := c ∈ ['\t', '\n', '\x0c', '\r', ' ']

/-- The text without one or two signs at its end. -/
def stripPadding (text : List Char) : List Char :=
  if ['=', '='].IsSuffix text then text.take (text.length - 2)
  else if ['='].IsSuffix text then text.take (text.length - 1)
  else text

def atob (text : List Char) : Option (List UInt8) :=
  let text := text.filter (fun c => !isBlank c)
  let text := if text.length % 4 = 0 then stripPadding text else text
  if text.length % 4 = 1 then none else (text.mapM digitValue).map bytes

theorem digitValue_digitChar : ∀ n < 64, digitValue (digitChar n) = some n := by decide

theorem isBlank_digitChar : ∀ n < 64, isBlank (digitChar n) = false := by decide

theorem digitChar_ne_pad : ∀ n < 64, digitChar n ≠ '=' := by decide

theorem digits_lt (data : List UInt8) : ∀ n ∈ digits data, n < 64 := by
  fun_induction digits data with
  | case1 a b c rest ih =>
    intro n hn
    have ha := a.toNat_lt
    have hb := b.toNat_lt
    have hc := c.toNat_lt
    simp only [List.mem_cons] at hn
    rcases hn with rfl | rfl | rfl | rfl | hn
    · omega
    · omega
    · omega
    · omega
    · exact ih n hn
  | case2 a b =>
    intro n hn
    have ha := a.toNat_lt
    have hb := b.toNat_lt
    simp only [List.mem_cons, List.not_mem_nil, or_false] at hn
    omega
  | case3 a =>
    intro n hn
    have ha := a.toNat_lt
    simp only [List.mem_cons, List.not_mem_nil, or_false] at hn
    omega
  | case4 => exact fun n hn => absurd hn List.not_mem_nil

/-- The digits never leave six bits alone. -/
theorem digits_length_mod (data : List UInt8) : (digits data).length % 4 ≠ 1 := by
  fun_induction digits data with
  | case1 a b c rest ih =>
    simp only [List.length_cons]
    omega
  | case2 a b => simp
  | case3 a => simp
  | case4 => simp

theorem ofNat_eq {b : UInt8} {n : Nat} (h : n = b.toNat) : UInt8.ofNat n = b := by
  rw [h, UInt8.ofNat_toNat]

/-- **The digits of bytes give the bytes.** Three bytes make four digits of six bits; one or two that
are left make two or three, whose last bits are zero and are dropped again. -/
theorem bytes_digits (data : List UInt8) : bytes (digits data) = data := by
  fun_induction digits data with
  | case1 a b c rest ih =>
    have ha := a.toNat_lt
    have hb := b.toNat_lt
    have hc := c.toNat_lt
    rw [bytes, ih, ofNat_eq (b := a) (by omega), ofNat_eq (b := b) (by omega),
      ofNat_eq (b := c) (by omega)]
  | case2 a b =>
    have ha := a.toNat_lt
    have hb := b.toNat_lt
    rw [bytes, ofNat_eq (b := a) (by omega), ofNat_eq (b := b) (by omega)]
  | case3 a =>
    have ha := a.toNat_lt
    rw [bytes, ofNat_eq (b := a) (by omega)]
  | case4 => rfl

theorem mapM_digitValue {ds : List Nat} (h : ∀ n ∈ ds, n < 64) :
    (ds.map digitChar).mapM digitValue = some ds := by
  induction ds with
  | nil => rfl
  | cons n ds ih =>
    rw [List.map_cons, List.mapM_cons, digitValue_digitChar n (h n List.mem_cons_self),
      ih fun m hm => h m (List.mem_cons_of_mem _ hm)]
    rfl

/-- The digits are no blanks and no padding. -/
theorem filter_digits {ds : List Nat} (h : ∀ n ∈ ds, n < 64) (k : Nat) :
    (ds.map digitChar ++ List.replicate k '=').filter (fun c => !isBlank c) =
      ds.map digitChar ++ List.replicate k '=' := by
  refine List.filter_eq_self.mpr fun c hc => ?_
  rcases List.mem_append.mp hc with hc | hc
  · obtain ⟨n, hn, rfl⟩ := List.mem_map.mp hc
    rw [isBlank_digitChar n (h n hn)]
    rfl
  · rw [List.eq_of_mem_replicate hc]
    rfl

theorem stripPadding_digits {ds : List Nat} (h : ∀ n ∈ ds, n < 64) :
    ∀ k < 3, stripPadding (ds.map digitChar ++ List.replicate k '=') = ds.map digitChar := by
  have hlast : ¬['='].IsSuffix (ds.map digitChar) := by
    rintro ⟨front, hfront⟩
    have hmem : '=' ∈ ds.map digitChar := by
      rw [← hfront]
      exact List.mem_append_right _ List.mem_cons_self
    obtain ⟨n, hn, hpad⟩ := List.mem_map.mp hmem
    exact digitChar_ne_pad n (h n hn) hpad
  have hlast' : ¬['=', '='].IsSuffix (ds.map digitChar) :=
    fun hsuffix => hlast ((List.suffix_cons '=' ['=']).trans hsuffix)
  intro k hk
  match k, hk with
  | 0, _ =>
    rw [List.replicate_zero, List.append_nil, stripPadding, if_neg hlast', if_neg hlast]
  | 1, _ =>
    have hone : ¬['=', '='].IsSuffix (ds.map digitChar ++ ['=']) := by
      rintro ⟨front, hfront⟩
      rw [List.append_cons front '=' ['=']] at hfront
      exact hlast ⟨front, (List.append_left_inj _).mp hfront⟩
    rw [stripPadding, List.replicate_one, if_neg hone, if_pos ⟨_, rfl⟩, List.length_append,
      List.length_singleton, Nat.add_sub_cancel, List.take_left]
  | 2, _ =>
    rw [stripPadding, if_pos ⟨_, rfl⟩, List.length_append, List.length_replicate,
      Nat.add_sub_cancel, List.take_left]

/-- **What was written in base64 is read back**, as `btoa` writes it: its digits, filled up. -/
theorem atob_digits (data : List UInt8) :
    atob ((digits data).map digitChar ++ padding (digits data).length) = some data := by
  have hlt := digits_lt data
  have hmod := digits_length_mod data
  have hfour : ((digits data).length + (4 - (digits data).length % 4) % 4) % 4 = 0 := by omega
  have hstrip := stripPadding_digits hlt ((4 - (digits data).length % 4) % 4) (by omega)
  simp only [atob, padding, filter_digits hlt, List.length_append, List.length_map,
    List.length_replicate, if_pos hfour, hstrip, if_neg hmod, mapM_digitValue hlt, Option.map_some,
    bytes_digits]

/-- A text with a character that is no digit, no blank and no padding is refused. -/
theorem atob_eq_none {text : List Char} {c : Char} (hmem : c ∈ text) (hdigit : digitValue c = none)
    (hblank : isBlank c = false) (hpad : c ≠ '=') : atob text = none := by
  have hfilter : c ∈ text.filter (fun c => !isBlank c) :=
    List.mem_filter.mpr ⟨hmem, by rw [hblank]; rfl⟩
  have hstrip : ∀ {text : List Char}, c ∈ text → c ∈ stripPadding text := by
    intro text hc
    rw [stripPadding]
    split_ifs with htwo hone
    · obtain ⟨front, rfl⟩ := htwo
      rw [List.length_append, List.length_cons, List.length_singleton, Nat.add_sub_cancel,
        List.take_left]
      rcases List.mem_append.mp hc with hc | hc
      · exact hc
      · simp only [List.mem_cons, List.not_mem_nil, or_false, or_self] at hc
        exact absurd hc hpad
    · obtain ⟨front, rfl⟩ := hone
      rw [List.length_append, List.length_singleton, Nat.add_sub_cancel, List.take_left]
      rcases List.mem_append.mp hc with hc | hc
      · exact hc
      · exact absurd (List.mem_singleton.mp hc) hpad
    · exact hc
  have hnone : ∀ {text : List Char}, c ∈ text → text.mapM digitValue = none := by
    intro text hc
    induction text with
    | nil => exact absurd hc List.not_mem_nil
    | cons d text ih =>
      rw [List.mapM_cons]
      rcases List.mem_cons.mp hc with rfl | hc
      · rw [hdigit]
        rfl
      · rw [ih hc]
        cases digitValue d <;> rfl
  have htext : (if (text.filter (fun c => !isBlank c)).length % 4 = 0 then
      stripPadding (text.filter (fun c => !isBlank c))
      else text.filter (fun c => !isBlank c)).mapM digitValue = none := by
    refine hnone ?_
    split
    · exact hstrip hfilter
    · exact hfilter
  rw [atob, htext, Option.map_none, ite_self]

/-! ## 2. UTF-8 -/

/-- `TextEncoder.encode`. -/
def encode (text : List Char) : List UInt8 := text.flatMap String.utf8EncodeChar

/-- A character that has begun: how many bytes it needs, where the next one lies, and its bits so
far. -/
structure Pending where
  needed : Nat
  lower : Nat
  upper : Nat
  bits : Nat

def replacement : Char := Char.ofNat 0xFFFD

/-- The first byte of a character. -/
def firstByte (byte : Nat) : List Char × Option Pending :=
  if byte ≤ 0x7F then ([Char.ofNat byte], none)
  else if 0xC2 ≤ byte ∧ byte ≤ 0xDF then ([], some ⟨1, 0x80, 0xBF, byte % 0x20⟩)
  else if 0xE0 ≤ byte ∧ byte ≤ 0xEF then
    ([], some ⟨2, if byte = 0xE0 then 0xA0 else 0x80, if byte = 0xED then 0x9F else 0xBF,
      byte % 0x10⟩)
  else if 0xF0 ≤ byte ∧ byte ≤ 0xF4 then
    ([], some ⟨3, if byte = 0xF0 then 0x90 else 0x80, if byte = 0xF4 then 0x8F else 0xBF,
      byte % 0x08⟩)
  else ([replacement], none)

/-- A byte out of its range ends the character, and begins another. -/
def nextByte (pending : Option Pending) (byte : Nat) : List Char × Option Pending :=
  match pending with
  | none => firstByte byte
  | some p =>
    if p.lower ≤ byte ∧ byte ≤ p.upper then
      let bits := p.bits * 64 + byte % 64
      if p.needed = 1 then ([Char.ofNat bits], none)
      else ([], some ⟨p.needed - 1, 0x80, 0xBF, bits⟩)
    else (replacement :: (firstByte byte).1, (firstByte byte).2)

def decodeFrom (pending : Option Pending) : List UInt8 → List Char
  | [] => if pending.isSome then [replacement] else []
  | byte :: rest =>
    (nextByte pending byte.toNat).1 ++ decodeFrom (nextByte pending byte.toNat).2 rest

/-- `TextDecoder.decode`. -/
def decode : List UInt8 → List Char
  | 0xEF :: 0xBB :: 0xBF :: rest => decodeFrom none rest
  | data => decodeFrom none data

theorem ofNat_bits {c : Char} {n : Nat} (h : n = c.toNat) : Char.ofNat n = c := by
  rw [h, Char.ofNat_toNat]

/-- A byte in its range, when more are needed. -/
theorem decodeFrom_more {p : Pending} {n : Nat} {rest : List UInt8} (hlt : n < 256)
    (hlower : p.lower ≤ n) (hupper : n ≤ p.upper) (hneeded : p.needed ≠ 1) :
    decodeFrom (some p) (UInt8.ofNat n :: rest) =
      decodeFrom (some ⟨p.needed - 1, 0x80, 0xBF, p.bits * 64 + n % 64⟩) rest := by
  have hbyte : (UInt8.ofNat n).toNat = n := by
    rw [UInt8.toNat_ofNat']
    exact Nat.mod_eq_of_lt hlt
  simp only [decodeFrom, nextByte, hbyte, if_pos (And.intro hlower hupper), if_neg hneeded,
    List.nil_append]

/-- The last byte of a character. -/
theorem decodeFrom_last {p : Pending} {n : Nat} {rest : List UInt8} (hlt : n < 256)
    (hlower : p.lower ≤ n) (hupper : n ≤ p.upper) (hneeded : p.needed = 1) :
    decodeFrom (some p) (UInt8.ofNat n :: rest) =
      Char.ofNat (p.bits * 64 + n % 64) :: decodeFrom none rest := by
  have hbyte : (UInt8.ofNat n).toNat = n := by
    rw [UInt8.toNat_ofNat']
    exact Nat.mod_eq_of_lt hlt
  simp only [decodeFrom, nextByte, hbyte, if_pos (And.intro hlower hupper), if_pos hneeded,
    List.singleton_append]

theorem decodeFrom_first {n : Nat} {rest : List UInt8} (hlt : n < 256) :
    decodeFrom none (UInt8.ofNat n :: rest) =
      (firstByte n).1 ++ decodeFrom (firstByte n).2 rest := by
  have hbyte : (UInt8.ofNat n).toNat = n := by
    rw [UInt8.toNat_ofNat']
    exact Nat.mod_eq_of_lt hlt
  rw [decodeFrom, nextByte, hbyte]

/-- **A character** is decoded from its bytes, for each of the four lengths. The decoder refuses
overlong forms, surrogates and code points that are too high by the bounds of the second byte, and the
bytes of a character keep within them. -/
theorem decodeFrom_encodeChar (c : Char) (rest : List UInt8) :
    decodeFrom none (String.utf8EncodeChar c ++ rest) = c :: decodeFrom none rest := by
  have hvalid : c.val.toNat < 0xD800 ∨ 0xDFFF < c.val.toNat ∧ c.val.toNat < 0x110000 := c.valid
  have hchar : c.toNat = c.val.toNat := rfl
  rw [String.utf8EncodeChar]
  split_ifs with hone htwo hthree
  · rw [List.singleton_append, decodeFrom_first (by omega), firstByte, if_pos hone,
      ofNat_bits hchar.symm]
    rfl
  · rw [List.cons_append, List.singleton_append, decodeFrom_first (by omega), firstByte,
      if_neg (by omega), if_pos (by omega), List.nil_append,
      decodeFrom_last (by omega) (by simp only; omega) (by simp only; omega) rfl]
    rw [ofNat_bits (c := c) (by simp only; omega)]
  · rw [List.cons_append, List.cons_append, List.singleton_append, decodeFrom_first (by omega),
      firstByte, if_neg (by omega), if_neg (by omega), if_pos (by omega), List.nil_append,
      decodeFrom_more (by omega) (by simp only; split <;> omega) (by simp only; split <;> omega)
        (by simp only; omega),
      decodeFrom_last (by omega) (by simp only; omega) (by simp only; omega) rfl]
    rw [ofNat_bits (c := c) (by simp only; omega)]
  · rw [List.cons_append, List.cons_append, List.cons_append, List.singleton_append,
      decodeFrom_first (by omega), firstByte, if_neg (by omega), if_neg (by omega),
      if_neg (by omega), if_pos (by omega), List.nil_append,
      decodeFrom_more (by omega) (by simp only; split <;> omega) (by simp only; split <;> omega)
        (by simp only; omega),
      decodeFrom_more (by omega) (by simp only; omega) (by simp only; omega) (by simp only; omega),
      decodeFrom_last (by omega) (by simp only; omega) (by simp only; omega) rfl]
    rw [ofNat_bits (c := c) (by simp only; omega)]

theorem decodeFrom_encode (text : List Char) : decodeFrom none (encode text) = text := by
  induction text with
  | nil => rfl
  | cons c text ih =>
    rw [encode, List.flatMap_cons, decodeFrom_encodeChar]
    exact congrArg _ ih

/-- **A text that begins with no byte order mark** is decoded from its bytes. -/
theorem decode_encode {text : List Char} (h : text.head? ≠ some (Char.ofNat 0xFEFF)) :
    decode (encode text) = text := by
  rw [decode.eq_2, decodeFrom_encode]
  intro rest hmark
  have htext := decodeFrom_encode text
  rw [hmark] at htext
  have hfirst : decodeFrom none (0xEF :: 0xBB :: 0xBF :: rest) =
      Char.ofNat 0xFEFF :: decodeFrom none rest := rfl
  rw [hfirst] at htext
  exact h (by rw [← htext]; rfl)

end ByteText
