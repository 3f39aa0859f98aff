/-
**Text that went through its bytes.**

A reader of bytes keeps no more of them than a state: how many it still waits for, and the bits that
it has put together.  Most bytes can also stand where they must not, and are then replaced; nothing
in the reader says that this never happens to the bytes of a text.  What says so is the arithmetic
of the encoding: the first byte of a character announces how many follow, each of these is in the
range that the first one demands, and the bits that come together are the number of the character,
which is no half of a pair and not too great.

Main results:

* `Text.Utf8State.begin_two`, `Text.Utf8State.begin_three`, `Text.Utf8State.begin_four` — what the
  first byte of a longer character announces;
* `Text.decodeUtf8From_char` — the bytes of a character are read as the character;
* `Text.decodeUtf8_encoded` — **the bytes of a text are read as the text**.
-/

import FieldQuery.Text.Encoding

set_option autoImplicit false

namespace FieldQuery.Text

theorem toNat_ofNat_of_lt {n : Nat} (h : n < 256) : (UInt8.ofNat n).toNat = n := by
  rw [UInt8.toNat_ofNat']
  exact Nat.mod_eq_of_lt h

/-! ### First bytes -/

theorem Utf8State.begin_one {n : Nat} (h : n < 128) :
    begin (UInt8.ofNat n) = ([Char.ofNat n], .between) := by
  simp only [begin, toNat_ofNat_of_lt (show n < 256 by omega)]
  exact if_pos h

/-- Two bytes, of which the first has five bits; fewer than two of them would be an ASCII
character. -/
theorem Utf8State.begin_two {k : Nat} (hk : 2 ≤ k) (hk' : k < 32) :
    begin (UInt8.ofNat (k + 192)) = ([], ⟨1, k, 0x80, 0xBF⟩) := by
  simp only [begin, toNat_ofNat_of_lt (show k + 192 < 256 by omega)]
  rw [if_neg (by omega), if_pos (by omega), Nat.add_sub_cancel]

/-- Three bytes, of which the first has four bits and the second `x`: what is demanded of the second
holds for every number that two bytes do not cover and that is no half of a pair. -/
theorem Utf8State.begin_three {k x : Nat} (hk : k < 16) (hx : x < 64) (hlow : 32 ≤ k * 64 + x)
    (hpair : k * 64 + x < 864 ∨ 896 ≤ k * 64 + x) :
    ∃ least greatest, begin (UInt8.ofNat (k + 224)) = ([], ⟨2, k, least, greatest⟩) ∧
      least ≤ x + 128 ∧ x + 128 ≤ greatest := by
  simp only [begin, toNat_ofNat_of_lt (show k + 224 < 256 by omega)]
  rw [if_neg (by omega), if_neg (by omega)]
  split
  · obtain rfl : k = 0 := by omega
    exact ⟨0xA0, 0xBF, rfl, by omega, by omega⟩
  split
  · obtain rfl : k = 13 := by omega
    exact ⟨0x80, 0x9F, rfl, by omega, by omega⟩
  · rw [if_pos (by omega), Nat.add_sub_cancel]
    exact ⟨0x80, 0xBF, rfl, by omega, by omega⟩

/-- Four bytes, of which the first has three bits and the second `x`: what is demanded of the second
holds for every number that three bytes do not cover and that is not too great. -/
theorem Utf8State.begin_four {k x : Nat} (hx : x < 64) (hlow : 16 ≤ k * 64 + x)
    (hhigh : k * 64 + x < 272) :
    ∃ least greatest, begin (UInt8.ofNat (k + 240)) = ([], ⟨3, k, least, greatest⟩) ∧
      least ≤ x + 128 ∧ x + 128 ≤ greatest := by
  simp only [begin, toNat_ofNat_of_lt (show k + 240 < 256 by omega)]
  rw [if_neg (by omega), if_neg (by omega), if_neg (by omega), if_neg (by omega),
    if_neg (by omega)]
  split
  · obtain rfl : k = 0 := by omega
    exact ⟨0x90, 0xBF, rfl, by omega, by omega⟩
  split
  · rw [Nat.add_sub_cancel]
    exact ⟨0x80, 0xBF, rfl, by omega, by omega⟩
  · obtain rfl : k = 4 := by omega
    exact ⟨0x80, 0x8F, rfl, by omega, by omega⟩

/-! ### Bytes that follow -/

/-- Between two characters a byte begins the next one. -/
theorem decodeUtf8From_between (b : UInt8) (r : List UInt8) :
    decodeUtf8From .between (b :: r) =
      (Utf8State.begin b).1 ++ decodeUtf8From (Utf8State.begin b).2 r := rfl

/-- The last byte of a character adds its six bits. -/
theorem decodeUtf8From_last {bits least greatest x : Nat} (hx : x < 64) (hleast : least ≤ x + 128)
    (hgreatest : x + 128 ≤ greatest) (r : List UInt8) :
    decodeUtf8From ⟨1, bits, least, greatest⟩ (UInt8.ofNat (x + 128) :: r) =
      Char.ofNat (bits * 64 + x) :: decodeUtf8From .between r := by
  have hb : (UInt8.ofNat (x + 128)).toNat = x + 128 := toNat_ofNat_of_lt (by omega)
  rw [decodeUtf8From, if_neg (by simp), hb, if_pos ⟨hleast, hgreatest⟩, Nat.add_sub_cancel]
  rfl

/-- A byte before the last one adds its six bits. -/
theorem decodeUtf8From_more {owed bits least greatest x : Nat} (hx : x < 64)
    (hleast : least ≤ x + 128) (hgreatest : x + 128 ≤ greatest) (r : List UInt8) :
    decodeUtf8From ⟨owed + 2, bits, least, greatest⟩ (UInt8.ofNat (x + 128) :: r) =
      decodeUtf8From ⟨owed + 1, bits * 64 + x, 0x80, 0xBF⟩ r := by
  have hb : (UInt8.ofNat (x + 128)).toNat = x + 128 := toNat_ofNat_of_lt (by omega)
  rw [decodeUtf8From, if_neg (by simp), hb, if_pos ⟨hleast, hgreatest⟩, Nat.add_sub_cancel]
  exact if_neg (by simp)

/-! ### Characters -/

/-- The number of a character is no half of a pair, and not too great. -/
theorem toNat_valid (c : Char) : c.toNat < 0xD800 ∨ 0xDFFF < c.toNat ∧ c.toNat < 0x110000 :=
  c.valid

/-- The bytes of a character are read as the character. -/
theorem decodeUtf8From_char (c : Char) (r : List UInt8) :
    decodeUtf8From .between (String.utf8EncodeChar c ++ r) = c :: decodeUtf8From .between r := by
  have hvalid := toNat_valid c
  have hval : c.val.toNat = c.toNat := rfl
  have hc : Char.ofNat c.toNat = c := Char.ofNat_toNat c
  unfold String.utf8EncodeChar
  rw [hval]
  generalize c.toNat = n at hvalid hc
  dsimp only
  -- in each case the bits of the bytes are put together to the number of the character
  split
  · rw [List.singleton_append, decodeUtf8From_between, Utf8State.begin_one (by omega), hc]
    rfl
  split
  · have hsum : n / 64 % 32 * 64 + n % 64 = n := by omega
    rw [List.cons_append, decodeUtf8From_between, Utf8State.begin_two (by omega) (by omega)]
    change decodeUtf8From _ _ = _
    rw [List.singleton_append, decodeUtf8From_last (by omega) (by omega) (by omega), hsum, hc]
  split
  · have hsum : (n / 4096 % 16 * 64 + n / 64 % 64) * 64 + n % 64 = n := by omega
    obtain ⟨least, greatest, hbegin, hleast, hgreatest⟩ :=
      Utf8State.begin_three (k := n / 4096 % 16) (x := n / 64 % 64) (by omega) (by omega)
        (by omega) (by omega)
    rw [List.cons_append, decodeUtf8From_between, hbegin]
    change decodeUtf8From _ _ = _
    rw [List.cons_append, decodeUtf8From_more (by omega) hleast hgreatest, List.singleton_append,
      decodeUtf8From_last (by omega) (by omega) (by omega), hsum, hc]
  · have hsum : ((n / 262144 % 8 * 64 + n / 4096 % 64) * 64 + n / 64 % 64) * 64 + n % 64 = n := by
      omega
    obtain ⟨least, greatest, hbegin, hleast, hgreatest⟩ :=
      Utf8State.begin_four (k := n / 262144 % 8) (x := n / 4096 % 64) (by omega) (by omega)
        (by omega)
    rw [List.cons_append, decodeUtf8From_between, hbegin]
    change decodeUtf8From _ _ = _
    rw [List.cons_append, decodeUtf8From_more (by omega) hleast hgreatest, List.cons_append,
      decodeUtf8From_more (by omega) (by omega) (by omega), List.singleton_append,
      decodeUtf8From_last (by omega) (by omega) (by omega), hsum, hc]

/-- **The bytes of a text** are read as the text. -/
theorem decodeUtf8_encoded (cs : List Char) :
    decodeUtf8 (cs.flatMap String.utf8EncodeChar) = cs := by
  unfold decodeUtf8
  induction cs with
  | nil => rfl
  | cons c cs ih => rw [List.flatMap_cons, decodeUtf8From_char, ih]

end FieldQuery.Text
