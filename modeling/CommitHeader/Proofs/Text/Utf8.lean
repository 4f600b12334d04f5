import CommitHeader.Text.Utf8
import Mathlib

/-!
# Reading text back from its bytes

The strict reader of UTF-8 gives every text back from the bytes that it is stored as. A character
takes one byte to four; the bounds that the first byte sets for the second one leave out overlong
forms, surrogates and numbers above U+10FFFF, none of which a character needs.
-/

namespace CommitHeader.Text.Utf8

theorem toNat_ofNat_byte {n : Nat} (h : n < 256) : (UInt8.ofNat n).toNat = n := by
  simpa using h

theorem toNat_isValid (c : Char) :
    c.toNat < 0xd800 ∨ (0xdfff < c.toNat ∧ c.toNat < 0x110000) :=
  c.valid

/-! ## The first byte -/

theorem ofByte_one {v : Nat} (h : v < 0x80) :
    Start.ofByte (UInt8.ofNat v) = .complete (Char.ofNat v) := by
  unfold Start.ofByte
  rw [toNat_ofNat_byte (by omega)]
  dsimp only
  rw [if_pos h]

theorem ofByte_two {v : Nat} (hlow : 0x80 ≤ v) (hhigh : v < 0x800) :
    Start.ofByte (UInt8.ofNat (v / 64 + 192)) = .opens ⟨v / 64, 0x80, 0xbf, 1⟩ := by
  unfold Start.ofByte
  rw [toNat_ofNat_byte (by omega)]
  dsimp only
  rw [if_neg (by omega), if_neg (by omega), if_pos (by omega), Nat.add_sub_cancel]

/-- The bounds that are set for the second of three bytes fit a number that is no surrogate. -/
theorem ofByte_three {v : Nat} (hlow : 0x800 ≤ v) (hhigh : v < 0x10000)
    (hvalid : v < 0xd800 ∨ 0xdfff < v) :
    ∃ low high, Start.ofByte (UInt8.ofNat (v / 4096 + 224)) = .opens ⟨v / 4096, low, high, 2⟩ ∧
      low ≤ v / 64 % 64 + 128 ∧ v / 64 % 64 + 128 ≤ high := by
  unfold Start.ofByte
  rw [toNat_ofNat_byte (by omega)]
  dsimp only
  rw [if_neg (by omega), if_neg (by omega), if_neg (by omega)]
  by_cases hfirst : v / 4096 + 224 = 0xe0
  · rw [if_pos hfirst]
    have hzero : v / 4096 = 0 := by omega
    rw [hzero]
    exact ⟨_, _, rfl, by omega, by omega⟩
  rw [if_neg hfirst]
  by_cases hlast : v / 4096 + 224 = 0xed
  · rw [if_pos hlast, Nat.add_sub_cancel]
    exact ⟨_, _, rfl, by omega, by omega⟩
  rw [if_neg hlast, if_pos (by omega), Nat.add_sub_cancel]
  exact ⟨_, _, rfl, by omega, by omega⟩

/-- The bounds that are set for the second of four bytes fit a number up to U+10FFFF. -/
theorem ofByte_four {v : Nat} (hlow : 0x10000 ≤ v) (hhigh : v < 0x110000) :
    ∃ low high, Start.ofByte (UInt8.ofNat (v / 262144 + 240)) =
        .opens ⟨v / 262144, low, high, 3⟩ ∧
      low ≤ v / 4096 % 64 + 128 ∧ v / 4096 % 64 + 128 ≤ high := by
  unfold Start.ofByte
  rw [toNat_ofNat_byte (by omega)]
  dsimp only
  rw [if_neg (by omega), if_neg (by omega), if_neg (by omega), if_neg (by omega),
    if_neg (by omega), if_neg (by omega)]
  by_cases hfirst : v / 262144 + 240 = 0xf0
  · rw [if_pos hfirst]
    have hzero : v / 262144 = 0 := by omega
    rw [hzero]
    exact ⟨_, _, rfl, by omega, by omega⟩
  rw [if_neg hfirst]
  by_cases hlast : v / 262144 + 240 = 0xf4
  · rw [if_neg (by omega), if_pos hlast, Nat.add_sub_cancel]
    exact ⟨_, _, rfl, by omega, by omega⟩
  rw [if_pos (by omega), Nat.add_sub_cancel]
  exact ⟨_, _, rfl, by omega, by omega⟩

/-! ## The bytes after the first -/

/-- Every byte after the first carries six bits. -/
theorem pieces_next {bits low high n m : Nat} (hn : n < 64) (hlow : low ≤ n + 128)
    (hhigh : n + 128 ≤ high) (bs : List UInt8) :
    pieces (some ⟨bits, low, high, m + 2⟩) (UInt8.ofNat (n + 128) :: bs) =
      pieces (some ⟨bits * 64 + n, 0x80, 0xbf, m + 1⟩) bs := by
  have hbits : (n + 128) % 64 = n := by omega
  rw [pieces, toNat_ofNat_byte (by omega), if_pos ⟨hlow, hhigh⟩, hbits]

theorem pieces_last {bits n : Nat} (hn : n < 64) (bs : List UInt8) :
    pieces (some ⟨bits, 0x80, 0xbf, 1⟩) (UInt8.ofNat (n + 128) :: bs) =
      some (Char.ofNat (bits * 64 + n)) :: pieces none bs := by
  have hbits : (n + 128) % 64 = n := by omega
  have hbounds : 0x80 ≤ n + 128 ∧ n + 128 ≤ 0xbf := by omega
  rw [pieces, toNat_ofNat_byte (by omega), if_pos hbounds, hbits]

/-! ## Characters and texts -/

theorem pieces_encode (c : Char) (bs : List UInt8) :
    pieces none (String.utf8EncodeChar c ++ bs) = some c :: pieces none bs := by
  have hvalid := toNat_isValid c
  have hnumber : c.val.toNat = c.toNat := rfl
  have hofNat : Char.ofNat c.toNat = c := Char.ofNat_toNat c
  unfold String.utf8EncodeChar
  simp only [hnumber]
  generalize c.toNat = v at hvalid hofNat
  subst hofNat
  split_ifs with hone htwo hthree
  · rw [List.singleton_append, pieces, ofByte_one (by omega)]
  · have hfirst : v / 64 % 32 = v / 64 := by omega
    rw [hfirst, List.cons_append, pieces, ofByte_two (by omega) (by omega)]
    dsimp only
    rw [List.singleton_append, pieces_last (by omega)]
    congr 3
    omega
  · have hfirst : v / 4096 % 16 = v / 4096 := by omega
    obtain ⟨low, high, hstart, hlow, hhigh⟩ :=
      ofByte_three (v := v) (by omega) (by omega) (by omega)
    rw [hfirst, List.cons_append, pieces, hstart]
    dsimp only
    rw [List.cons_append, pieces_next (by omega) hlow hhigh, List.singleton_append,
      pieces_last (by omega)]
    congr 3
    omega
  · have hfirst : v / 262144 % 8 = v / 262144 := by omega
    obtain ⟨low, high, hstart, hlow, hhigh⟩ := ofByte_four (v := v) (by omega) (by omega)
    rw [hfirst, List.cons_append, pieces, hstart]
    dsimp only
    rw [List.cons_append, pieces_next (by omega) hlow hhigh, List.cons_append,
      pieces_next (by omega) (by omega) (by omega), List.singleton_append, pieces_last (by omega)]
    congr 3
    omega

theorem pieces_flatMap (cs : List Char) :
    pieces none (cs.flatMap String.utf8EncodeChar) = cs.map some := by
  induction cs with
  | nil => rfl
  | cons c cs ih => rw [List.flatMap_cons, pieces_encode, ih, List.map_cons]

theorem toList_loop (bytes : ByteArray) (i : Nat) (earlier : List UInt8) :
    ByteArray.toList.loop bytes i earlier = earlier.reverse ++ bytes.data.toList.drop i := by
  fun_induction ByteArray.toList.loop bytes i earlier with
  | case1 i earlier h ih =>
      have hget : bytes.data.toList.drop i = bytes.get! i :: bytes.data.toList.drop (i + 1) := by
        rw [List.drop_eq_getElem_cons (by simpa using h)]
        congr 1
        rw [Array.getElem_toList]
        exact (getElem!_pos bytes.data i h).symm
      rw [ih, hget, List.reverse_cons, List.append_assoc, List.singleton_append]
  | case2 i earlier h =>
      have hdrop : bytes.data.toList.drop i = [] := List.drop_eq_nil_of_le (by simpa using h)
      rw [hdrop, List.append_nil]

theorem toList_toUTF8 (text : String) :
    text.toUTF8.toList = text.toList.flatMap String.utf8EncodeChar := by
  have hbytes : text.toUTF8 = (text.toList.flatMap String.utf8EncodeChar).toByteArray := by
    rw [String.toUTF8_eq_toByteArray, ← String.utf8Encode_toList]
    rfl
  rw [ByteArray.toList, toList_loop, hbytes, List.toList_data_toByteArray]
  rfl

/-- The strict reader takes back what a text is stored as. -/
theorem decode?_toUTF8 (text : String) : decode? text.toUTF8.toList = some text := by
  have hpieces : (text.toList.map some).mapM id = some text.toList := by
    simpa using List.mapM_pure (m := Option) (l := text.toList) (f := id)
  rw [decode?, toList_toUTF8, pieces_flatMap, hpieces, Option.map_some, String.ofList_toList]

end CommitHeader.Text.Utf8
