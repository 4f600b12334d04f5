import CommitHeader.Proofs.ObjectId
import CommitHeader.Proofs.ObjectId.Filling
import CommitHeader.Proofs.Text.Slice

/-!
# Ids and their texts

A text is an id exactly if it is forty digits of either case, and the id is written as that text in
lower case. Any other text is refused for its length in bytes or for its first character that is no
digit. Reading into the bytes in place gives the same answer and stays within them.
-/

namespace CommitHeader.ObjectId

open String (utf8Len utf8Len_cons)
open Text.Hex (IsDigit digit)

/-! ## Lengths -/

theorem utf8Len_of_forall_isDigit {cs : List Char} (h : ∀ c ∈ cs, IsDigit c) :
    utf8Len cs = cs.length := by
  induction cs with
  | nil => rfl
  | cons c cs ih =>
      obtain ⟨hc, hcs⟩ := List.forall_mem_cons.mp h
      rw [utf8Len_cons, List.length_cons, ih hcs, hc.utf8Size_eq]

theorem length_le_utf8Len (cs : List Char) : cs.length ≤ utf8Len cs := by
  induction cs with
  | nil => exact Nat.le_refl 0
  | cons c cs ih =>
      have hsize := c.utf8Size_pos
      rw [utf8Len_cons, List.length_cons]
      omega

theorem toList_toLower (s : String) : s.toLower.toList = s.toList.map Char.toLower :=
  String.toList_map

theorem toList_toUpper (s : String) : s.toUpper.toList = s.toList.map Char.toUpper :=
  String.toList_map

/-! ## Results -/

theorem parse_of_length_ne {s : String} (h : s.utf8ByteSize ≠ 40) :
    parse s = .error (.invalidLength s.utf8ByteSize) := by
  rw [parse, if_neg h]

theorem parse_of_error {s : String} {e : ParseError} (hlength : s.utf8ByteSize = 40)
    (h : readDigits 0 s.toList = .error e) : parse s = .error e := by
  rw [parse, if_pos hlength, h]

/-- Forty bytes that are all digits are forty digits, which make twenty bytes. -/
theorem parse_of_ok {s : String} {values : List Nat} (hlength : s.utf8ByteSize = 40)
    (h : readDigits 0 s.toList = .ok values) :
    values.length = 40 ∧ ∃ id, parse s = .ok id ∧ id.bytes = packed values := by
  have hdigits : ∀ c ∈ s.toList, IsDigit c := exists_readDigits_iff.mp ⟨values, h⟩
  have hmap := congrArg List.length (readDigits_eq_ok_iff.mp h).2
  rw [List.length_map, List.length_map, ← utf8Len_of_forall_isDigit hdigits, String.utf8Len_toList,
    hlength] at hmap
  have hbytes : (packed values).length = 20 := by rw [length_packed, hmap]
  refine ⟨hmap, ⟨packed values, hbytes⟩, ?_, rfl⟩
  rw [parse, if_pos hlength, h]
  simp only [ofBytes?, dif_pos hbytes]

theorem of_parse_eq_ok {s : String} {id : ObjectId} (h : parse s = .ok id) :
    s.utf8ByteSize = 40 ∧ ∃ values, readDigits 0 s.toList = .ok values ∧ id.bytes = packed values := by
  by_cases hlength : s.utf8ByteSize = 40
  · refine ⟨hlength, ?_⟩
    cases hread : readDigits 0 s.toList with
    | error e =>
        rw [parse_of_error hlength hread] at h
        cases h
    | ok values =>
        obtain ⟨-, other, hother, hbytes⟩ := parse_of_ok hlength hread
        rw [h, Except.ok.injEq] at hother
        exact ⟨values, rfl, by rw [hother, hbytes]⟩
  · rw [parse_of_length_ne hlength] at h
    cases h

theorem digits_of_bytes_eq {id : ObjectId} {values : List Nat} (hlt : ∀ n ∈ values, n < 16)
    (hlength : values.length = 40) (h : id.bytes = packed values) :
    id.digits = values.map digit := by
  rw [digits, h, flatMap_ofByte_packed hlt (by rw [hlength])]

/-- An id is read from a text exactly if it is written as that text in lower case. -/
theorem parse_eq_ok_iff {s : String} {id : ObjectId} : parse s = .ok id ↔ id.hex = s.toLower := by
  rw [← String.toList_inj, hex, String.toList_ofList, toList_toLower]
  constructor
  · intro h
    obtain ⟨hlength, values, hread, hbytes⟩ := of_parse_eq_ok h
    obtain ⟨hlt, hmap⟩ := readDigits_eq_ok_iff.mp hread
    rw [digits_of_bytes_eq hlt (parse_of_ok hlength hread).1 hbytes, hmap]
  · intro h
    have hread : readDigits 0 s.toList = .ok (values id.bytes) := by
      rw [readDigits_eq_ok_iff, map_digit_values]
      exact ⟨fun _ => lt_of_mem_values, h⟩
    have hcount : s.toList.length = 40 := by
      rw [← List.length_map Char.toLower, ← h, length_digits]
    have hlength : s.utf8ByteSize = 40 := by
      rw [← String.utf8Len_toList,
        utf8Len_of_forall_isDigit (exists_readDigits_iff.mp ⟨_, hread⟩), hcount]
    obtain ⟨-, other, hother, hbytes⟩ := parse_of_ok hlength hread
    rw [packed_values] at hbytes
    rw [hother]
    cases id
    cases other
    cases hbytes
    rfl

theorem exists_parse_iff {s : String} :
    (∃ id, parse s = .ok id) ↔ s.length = 40 ∧ ∀ c ∈ s.toList, IsDigit c := by
  constructor
  · rintro ⟨id, h⟩
    obtain ⟨hlength, values, hread, -⟩ := of_parse_eq_ok h
    have hdigits := exists_readDigits_iff.mp ⟨values, hread⟩
    refine ⟨?_, hdigits⟩
    rw [← String.length_toList, ← utf8Len_of_forall_isDigit hdigits, String.utf8Len_toList, hlength]
  · rintro ⟨hcount, hdigits⟩
    obtain ⟨values, hread⟩ := exists_readDigits_iff.mpr hdigits
    have hlength : s.utf8ByteSize = 40 := by
      rw [← String.utf8Len_toList, utf8Len_of_forall_isDigit hdigits, String.length_toList, hcount]
    obtain ⟨-, id, hid, -⟩ := parse_of_ok hlength hread
    exact ⟨id, hid⟩

/-- Of the two ways to fail, the length goes first. -/
theorem parse_eq_error_iff {s : String} {e : ParseError} :
    parse s = .error e ↔ (s.utf8ByteSize ≠ 40 ∧ e = .invalidLength s.utf8ByteSize) ∨
      (s.utf8ByteSize = 40 ∧ readDigits 0 s.toList = .error e) := by
  by_cases hlength : s.utf8ByteSize = 40
  · cases hread : readDigits 0 s.toList with
    | error other => simp [parse_of_error hlength hread, hlength]
    | ok values =>
        obtain ⟨-, id, hid, -⟩ := parse_of_ok hlength hread
        simp [hid, hlength]
  · simp [parse_of_length_ne hlength, hlength, eq_comm]

theorem parse_eq_invalidLength_iff {s : String} {bytes : Nat} :
    parse s = .error (.invalidLength bytes) ↔ s.utf8ByteSize = bytes ∧ bytes ≠ 40 := by
  rw [parse_eq_error_iff, readDigits_eq_error_iff]
  constructor
  · rintro (⟨hlength, h⟩ | ⟨-, before, c, after, -, -, -, h⟩)
    · cases h
      exact ⟨rfl, hlength⟩
    · cases h
  · rintro ⟨rfl, hlength⟩
    exact Or.inl ⟨hlength, rfl⟩

theorem parse_eq_invalidCharacter_iff {s : String} {c : Char} {offset : Nat} :
    parse s = .error (.invalidCharacter c offset) ↔ s.utf8ByteSize = 40 ∧
      ∃ before after, s.toList = before ++ c :: after ∧ (∀ b ∈ before, IsDigit b) ∧
        ¬ IsDigit c ∧ utf8Len before = offset := by
  rw [parse_eq_error_iff, readDigits_eq_error_iff]
  constructor
  · rintro (⟨-, h⟩ | ⟨hlength, before, d, after, hsplit, hbefore, hd, h⟩)
    · cases h
    · obtain ⟨rfl, rfl⟩ := ParseError.invalidCharacter.inj h
      exact ⟨hlength, before, after, hsplit, hbefore, hd, (Nat.zero_add _).symm⟩
  · rintro ⟨hlength, before, after, hsplit, hbefore, hc, rfl⟩
    exact Or.inr ⟨hlength, before, c, after, hsplit, hbefore, hc, by rw [Nat.zero_add]⟩

/-! ## In place -/

/-- Forty bytes of text have at most forty characters, so every digit has its place in the twenty
bytes. -/
theorem fill?_eq_parse {s : String} (hlength : s.utf8ByteSize = 40) :
    fill? (List.replicate 20 0) 0 0 s.toList = some ((parse s).map bytes) := by
  have hle : s.toList.length ≤ 40 := by
    rw [← hlength, ← String.utf8Len_toList]
    exact length_le_utf8Len _
  have hzeros : List.replicate 20 0 =
      packed ([] ++ List.replicate (s.toList.length + (40 - s.toList.length)) 0) := by
    rw [Nat.add_sub_cancel' hle]
    rfl
  have hfill := fill?_packed (List.forall_mem_nil _) s.toList (40 - s.toList.length)
    (by rw [List.length_nil]; omega) 0
  rw [← hzeros, List.length_nil] at hfill
  rw [hfill]
  cases hread : readDigits 0 s.toList with
  | error e =>
      rw [parse_of_error hlength hread]
      rfl
  | ok values =>
      obtain ⟨hcount, id, hid, hbytes⟩ := parse_of_ok hlength hread
      have hmap := congrArg List.length (readDigits_eq_ok_iff.mp hread).2
      rw [List.length_map, List.length_map, hcount] at hmap
      rw [hid, ← hmap]
      simp [Except.map, hbytes]

/-! ## Written ids -/

theorem toList_hex (id : ObjectId) : id.hex.toList = (values id.bytes).map digit := by
  rw [hex, String.toList_ofList, map_digit_values, digits]

theorem parse_hex (id : ObjectId) : parse id.hex = .ok id := by
  rw [parse_eq_ok_iff, ← String.toList_inj, toList_toLower, toList_hex, List.map_map]
  apply List.map_congr_left
  intro n hn
  exact (Text.Hex.toLower_digit n (lt_of_mem_values hn)).symm

theorem parse_toUpper_hex (id : ObjectId) : parse id.hex.toUpper = .ok id := by
  rw [parse_eq_ok_iff, ← String.toList_inj, toList_toLower, toList_toUpper, toList_hex,
    List.map_map, List.map_map]
  apply List.map_congr_left
  intro n hn
  exact (Text.Hex.toLower_toUpper_digit n (lt_of_mem_values hn)).symm

theorem toList_short (id : ObjectId) : id.short.toList = id.hex.toList.take 8 := by
  rw [short, hex, String.toList_ofList, String.toList_ofList]
  rfl

/-- The first eight characters are the first eight bytes. -/
theorem cutAtByte?_hex (id : ObjectId) :
    Text.cutAtByte? 8 id.hex.toList = some (id.short.toList, id.hex.toList.drop 8) := by
  have hdigits : ∀ c ∈ id.hex.toList, IsDigit c := (exists_parse_iff.mp ⟨id, parse_hex id⟩).2
  have hshort : ∀ c ∈ id.short.toList, IsDigit c := by
    intro c hc
    rw [toList_short] at hc
    exact hdigits c (List.mem_of_mem_take hc)
  have hsize : utf8Len id.short.toList = 8 := by
    rw [utf8Len_of_forall_isDigit hshort, String.length_toList, length_short]
    rfl
  have hcut := Text.cutAtByte?_utf8Len id.short.toList (id.hex.toList.drop 8)
  rw [hsize, toList_short, List.take_append_drop] at hcut
  rw [hcut, toList_short]

/-- A text is an id exactly if it is forty digits of either case, and then the id is written as that
text in lower case. Whatever the case of its digits, a written id is read as that id, and its short
form is what stands before the eighth byte. A text that is no id is refused for a length in bytes
other than forty, or else for its first character that is no digit, at the byte where that begins.
Reading into twenty bytes in place gives the same, and no digit falls outside them. -/
theorem texts_and_ids_are_inverse (s : String) (id : ObjectId) :
    ((∃ read, parse s = .ok read) ↔ s.length = 40 ∧ ∀ c ∈ s.toList, IsDigit c) ∧
    (parse s = .ok id ↔ id.hex = s.toLower) ∧
    (parse id.hex = .ok id ∧ parse id.hex.toUpper = .ok id) ∧
    (id.short.toList = id.hex.toList.take 8 ∧
      Text.cutAtByte? 8 id.hex.toList = some (id.short.toList, id.hex.toList.drop 8)) ∧
    (∀ bytes, parse s = .error (.invalidLength bytes) ↔ s.utf8ByteSize = bytes ∧ bytes ≠ 40) ∧
    (∀ c offset, parse s = .error (.invalidCharacter c offset) ↔ s.utf8ByteSize = 40 ∧
      ∃ before after, s.toList = before ++ c :: after ∧ (∀ b ∈ before, IsDigit b) ∧
        ¬ IsDigit c ∧ utf8Len before = offset) ∧
    (s.utf8ByteSize = 40 →
      fill? (List.replicate 20 0) 0 0 s.toList = some ((parse s).map bytes)) :=
  ⟨exists_parse_iff, parse_eq_ok_iff, ⟨parse_hex id, parse_toUpper_hex id⟩,
    ⟨toList_short id, cutAtByte?_hex id⟩, fun _ => parse_eq_invalidLength_iff,
    fun _ _ => parse_eq_invalidCharacter_iff, fill?_eq_parse⟩

/-- Digits of both cases, and forty bytes that end in a character of two. -/
theorem texts_and_ids_are_inverse_sample :
    let text := "3B6CE324e30ed7fda24483fd56a180c34a262202"
    let broken := "3B6CE324e30ed7fda24483fd56a180c34a2622\u00e9"
    (∃ id, parse text = .ok id ∧ id.hex = "3b6ce324e30ed7fda24483fd56a180c34a262202" ∧
      id.short.toList = "3b6ce324".toList) ∧
    broken.utf8ByteSize = 40 ∧ parse broken = .error (.invalidCharacter '\u00e9' 38) ∧
    fill? (List.replicate 20 0) 0 0 broken.toList =
      some (.error (.invalidCharacter '\u00e9' 38)) := by
  intro text broken
  have hdigits : text.length = 40 ∧ ∀ c ∈ text.toList, IsDigit c :=
    ⟨by decide +kernel, List.all_iff_forall_prop.mp (by decide +kernel)⟩
  have hlower : text.toLower = "3b6ce324e30ed7fda24483fd56a180c34a262202" := by decide +kernel
  obtain ⟨id, hid⟩ := (texts_and_ids_are_inverse text (.repeated 0)).1.mpr hdigits
  obtain ⟨-, hread, -, hshort, -⟩ := texts_and_ids_are_inverse text id
  obtain ⟨-, -, -, -, -, hcharacter, hfill⟩ := texts_and_ids_are_inverse broken (.repeated 0)
  have hlength : broken.utf8ByteSize = 40 := by decide +kernel
  have hbroken : parse broken = .error (.invalidCharacter '\u00e9' 38) :=
    (hcharacter _ _).mpr ⟨hlength, "3B6CE324e30ed7fda24483fd56a180c34a2622".toList, [],
      by decide +kernel, List.all_iff_forall_prop.mp (by decide +kernel), by decide +kernel,
      by decide +kernel⟩
  have hhex : id.hex = "3b6ce324e30ed7fda24483fd56a180c34a262202" := (hread.mp hid).trans hlower
  refine ⟨⟨id, hid, hhex, ?_⟩, hlength, hbroken, ?_⟩
  · rw [hshort.1, hhex]
    decide +kernel
  · rw [hfill hlength, hbroken]
    rfl

end CommitHeader.ObjectId
