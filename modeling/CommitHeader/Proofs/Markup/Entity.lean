import CommitHeader.Markup.Entity
import CommitHeader.Proofs.Text.Cut
import Mathlib.Data.Bool.AllAny
import Mathlib.Data.List.Basic

/-!
# Encoded text

Encoding loses nothing, since each written form is read back as the character it stands for whatever
follows it. What is written holds none of the characters that begin or end markup, every ampersand
in it stands where a mark of the text is written, and the texts without any of the five are the ones
that are written as they are.
-/

namespace CommitHeader.Markup.Entity

/-- The characters with a meaning in markup. -/
def marks : List Char := ['&', '<', '>', '"', '\'']

/-- The characters that the written forms of the marks consist of. -/
def letters : List Char := marks.flatMap ofChar

/-! ## One character -/

theorem ofChar_of_not_mem {c : Char} (h : c ∉ marks) : ofChar c = [c] := by
  simp only [marks, List.mem_cons, List.not_mem_nil, or_false, not_or] at h
  obtain ⟨hamp, hlt, hgt, hquote, hapostrophe⟩ := h
  rw [ofChar, if_neg hamp, if_neg hlt, if_neg hgt, if_neg hquote, if_neg hapostrophe]

/-- The form of a mark is an ampersand and a name, which holds no other one. -/
theorem ofChar_of_mem {c : Char} (h : c ∈ marks) :
    ∃ name, ofChar c = '&' :: name ∧ '&' ∉ name ∧ name ≠ [] := by
  simp only [marks, List.mem_cons, List.not_mem_nil, or_false] at h
  rcases h with rfl | rfl | rfl | rfl | rfl <;> exact ⟨_, rfl, by decide, by decide⟩

/-- An ampersand begins the form of a mark, or it belongs to what is written after this
character. -/
theorem ampersand_cases {c : Char} {written before after : List Char}
    (h : ofChar c ++ written = before ++ '&' :: after) :
    (before = [] ∧ c ∈ marks) ∨
      ∃ more, before = ofChar c ++ more ∧ written = more ++ '&' :: after := by
  by_cases hc : c ∈ marks
  · obtain ⟨name, hform, hname, -⟩ := ofChar_of_mem hc
    cases before with
    | nil => exact Or.inl ⟨rfl, hc⟩
    | cons b before =>
        rw [hform, List.cons_append, List.cons_append] at h
        obtain ⟨rfl, hrest⟩ := List.cons.inj h
        obtain ⟨more, rfl, hmore⟩ := Text.exists_of_append_eq_append_mark hrest hname
        exact Or.inr ⟨more, by rw [hform]; rfl, hmore⟩
  · have hamp : '&' ∉ ofChar c := by
      rw [ofChar_of_not_mem hc, List.mem_singleton]
      rintro rfl
      exact hc (by decide)
    exact Or.inr (Text.exists_of_append_eq_append_mark h hamp)

theorem length_ofChar_pos (c : Char) : 0 < (ofChar c).length := by
  by_cases hc : c ∈ marks
  · obtain ⟨name, hform, -⟩ := ofChar_of_mem hc
    rw [hform]
    exact Nat.succ_pos _
  · rw [ofChar_of_not_mem hc]
    exact Nat.one_pos

theorem mem_letters_or_eq {written c : Char} (h : written ∈ ofChar c) :
    written ∈ letters ∨ written = c ∧ c ∉ marks := by
  by_cases hc : c ∈ marks
  · exact Or.inl (List.mem_flatMap.mpr ⟨c, hc, h⟩)
  · rw [ofChar_of_not_mem hc, List.mem_singleton] at h
    exact Or.inr ⟨h, hc⟩

theorem decodeChars_cons_of_ne {c : Char} (h : c ≠ '&') (cs : List Char) :
    decodeChars (c :: cs) = c :: decodeChars cs := by
  simp [decodeChars, h]

theorem decodeChars_ofChar_append (c : Char) (cs : List Char) :
    decodeChars (ofChar c ++ cs) = c :: decodeChars cs := by
  by_cases hc : c ∈ marks
  · simp only [marks, List.mem_cons, List.not_mem_nil, or_false] at hc
    rcases hc with rfl | rfl | rfl | rfl | rfl <;> rfl
  · have hamp : c ≠ '&' := by
      rintro rfl
      exact hc (by decide)
    rw [ofChar_of_not_mem hc]
    exact decodeChars_cons_of_ne hamp cs

/-! ## Texts -/

theorem encodeChars_cons (c : Char) (cs : List Char) :
    encodeChars (c :: cs) = ofChar c ++ encodeChars cs := rfl

theorem decodeChars_encodeChars (cs : List Char) : decodeChars (encodeChars cs) = cs := by
  induction cs with
  | nil => rfl
  | cons c cs ih => rw [encodeChars_cons, decodeChars_ofChar_append, ih]

theorem decode_encode (s : String) : decode (encode s) = s := by
  rw [decode, encode, String.toList_ofList, decodeChars_encodeChars, String.ofList_toList]

/-- Of the marks, only the ampersand is written; of other characters, only those of the text and
of the written forms. -/
theorem not_mem_encode {c : Char} (hletters : c ∉ letters) {s : String}
    (h : c ∈ marks ∨ c ∉ s.toList) : c ∉ (encode s).toList := by
  rw [encode, encodeChars, String.toList_ofList, List.mem_flatMap]
  rintro ⟨original, hmem, hwritten⟩
  rcases mem_letters_or_eq hwritten with hletter | ⟨rfl, hmark⟩
  · exact hletters hletter
  · rcases h with h | h
    · exact hmark h
    · exact h hmem

theorem encode_of_forall_not_mem {s : String} (h : ∀ c ∈ s.toList, c ∉ marks) : encode s = s := by
  have hchars : s.toList.flatMap ofChar = s.toList.flatMap fun c => [c] :=
    List.flatMap_congr fun c hc => ofChar_of_not_mem (h c hc)
  rw [encode, encodeChars, hchars, List.flatMap_singleton', String.ofList_toList]

theorem encode_append (s t : String) : encode (s ++ t) = encode s ++ encode t := by
  rw [encode, encode, encode, String.toList_append, encodeChars, List.flatMap_append,
    String.ofList_append]
  rfl

theorem encode_injective {s t : String} (h : encode s = encode t) : s = t := by
  rw [← decode_encode s, h, decode_encode t]

/-- Every ampersand is the first character of what is written for a mark of the text. What stands
before it is written for the text before that mark, and what follows for the text after it. -/
theorem exists_mark_of_ampersand {cs before after : List Char}
    (h : encodeChars cs = before ++ '&' :: after) :
    ∃ lead mark rest, mark ∈ marks ∧ cs = lead ++ mark :: rest ∧ before = encodeChars lead ∧
      '&' :: after = ofChar mark ++ encodeChars rest := by
  induction cs generalizing before with
  | nil => simp [encodeChars] at h
  | cons c cs ih =>
      rw [encodeChars_cons] at h
      rcases ampersand_cases h with ⟨rfl, hc⟩ | ⟨more, rfl, hmore⟩
      · exact ⟨[], c, cs, hc, rfl, rfl, h.symm⟩
      · obtain ⟨lead, mark, rest, hmark, rfl, rfl, hrest⟩ := ih hmore
        exact ⟨c :: lead, mark, rest, hmark, rfl, rfl, hrest⟩

theorem length_le_length_encodeChars (cs : List Char) : cs.length ≤ (encodeChars cs).length := by
  induction cs with
  | nil => exact Nat.le_refl 0
  | cons c cs ih =>
      have hform := length_ofChar_pos c
      rw [encodeChars_cons, List.length_append, List.length_cons]
      omega

/-- A mark makes the written form longer than the text. -/
theorem encodeChars_eq_self_iff {cs : List Char} : encodeChars cs = cs ↔ ∀ c ∈ cs, c ∉ marks := by
  induction cs with
  | nil => simp [encodeChars]
  | cons c cs ih =>
      rw [encodeChars_cons, List.forall_mem_cons]
      by_cases hc : c ∈ marks
      · obtain ⟨name, hform, -, hname⟩ := ofChar_of_mem hc
        have hlonger : ofChar c ++ encodeChars cs ≠ c :: cs := by
          intro h
          have hlength := congrArg List.length h
          have hle := length_le_length_encodeChars cs
          have hpos := List.length_pos_iff.mpr hname
          rw [hform, List.cons_append, List.length_cons, List.length_append, List.length_cons]
            at hlength
          omega
        simp [hc, hlonger]
      · simp [ofChar_of_not_mem hc, hc, ih]

theorem encode_eq_self_iff {s : String} : encode s = s ↔ ∀ c ∈ s.toList, c ∉ marks := by
  rw [← encodeChars_eq_self_iff, encode, ← String.toList_inj, String.toList_ofList]

/-- A written text holds no bracket and no quotation mark, and each of its ampersands begins the
entity of a mark of the text. It is read back as the text, even where that looks like written text
itself, so different texts are written differently. Texts put together are written one after the
other, and exactly the texts without a mark are written as they are. -/
theorem written_text_is_free_of_markup_and_lossless (s : String) :
    (∀ c ∈ ['<', '>', '"', '\''], c ∉ (encode s).toList) ∧
    (∀ before after, (encode s).toList = before ++ '&' :: after →
      ∃ lead mark rest, mark ∈ marks ∧ s.toList = lead ++ mark :: rest ∧
        before = encodeChars lead ∧ '&' :: after = ofChar mark ++ encodeChars rest) ∧
    decode (encode s) = s ∧
    decode (encode (encode s)) = encode s ∧
    (∀ other, encode s = encode other → s = other) ∧
    (∀ other, encode (s ++ other) = encode s ++ encode other) ∧
    (encode s = s ↔ ∀ c ∈ s.toList, c ∉ marks) := by
  refine ⟨?_, ?_, decode_encode s, decode_encode (encode s), fun _ => encode_injective,
    encode_append s, encode_eq_self_iff⟩
  · have hmarks : ∀ c ∈ ['<', '>', '"', '\''], c ∉ letters ∧ c ∈ marks :=
      List.all_iff_forall_prop.mp (by decide)
    intro c hc
    obtain ⟨hletters, hmark⟩ := hmarks c hc
    exact not_mem_encode hletters (Or.inl hmark)
  · intro before after h
    rw [encode, String.toList_ofList] at h
    exact exists_mark_of_ampersand h

/-- A text that looks like written text, in which a shorter one would be read at once. -/
theorem written_text_is_free_of_markup_and_lossless_sample :
    let s := "&amp;lt;<'>"
    encode s = "&amp;amp;lt;&lt;&#39;&gt;" ∧ decode (encode s) = s ∧ decode s = "&lt;<'>" ∧
      ∃ lead mark rest, mark ∈ marks ∧ s.toList = lead ++ mark :: rest ∧
        "&amp;amp;lt;".toList = encodeChars lead ∧
        "&lt;&#39;&gt;".toList = ofChar mark ++ encodeChars rest := by
  intro s
  obtain ⟨-, hampersand, hdecode, -⟩ := written_text_is_free_of_markup_and_lossless s
  have hwritten : (encode s).toList = "&amp;amp;lt;".toList ++ '&' :: "lt;&#39;&gt;".toList := by
    decide +kernel
  exact ⟨by decide +kernel, hdecode, by decide +kernel, hampersand _ _ hwritten⟩

end CommitHeader.Markup.Entity
