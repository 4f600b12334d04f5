import CommitHeader.Proofs.Toml.StringForm
import CommitHeader.Toml.Document
import Mathlib

/-!
# Reading lines back

A line that holds a bare key, an equals sign between two spaces and a value is the statement of that
key and value, and the reader goes on just after it. The same holds of a line with a bare key in
brackets, which is a header.
-/

namespace CommitHeader.Toml

/-- A name that a key may have without quotes. -/
structure IsBareName (name : String) : Prop where
  ne_empty : name.toList ≠ []
  all_bare : ∀ c ∈ name.toList, isBare c = true

/-! ## Keys -/

theorem ne_of_isBare {c d : Char} (hc : isBare c = true) (hd : isBare d = false) : c ≠ d := by
  rintro rfl
  rw [hc] at hd
  cases hd

theorem isSpace_of_isBare {c : Char} (h : isBare c = true) : isSpace c = false := by
  have hblank := ne_of_isBare h (d := ' ') (by decide)
  have htab := ne_of_isBare h (d := '\t') (by decide)
  simp [isSpace, hblank, htab]

theorem opening?_eq_none {c : Char} (hdouble : c ≠ '"') (hsingle : c ≠ '\'') (cs : List Char) :
    StringForm.opening? (c :: cs) = none := by
  unfold StringForm.opening?
  split <;> simp_all

theorem IsBareName.exists_eq {name : String} (h : IsBareName name) :
    ∃ c cs, name.toList = c :: cs ∧ isBare c = true := by
  obtain ⟨c, cs, heq⟩ := List.exists_cons_of_ne_nil h.ne_empty
  exact ⟨c, cs, heq, h.all_bare c (heq ▸ List.mem_cons_self)⟩

theorem takeWhile_bare {name : String} (h : IsBareName name) {c : Char} (hc : isBare c = false)
    (cs : List Char) : (name.toList ++ c :: cs).takeWhile isBare = name.toList := by
  rw [List.takeWhile_append_of_pos h.all_bare, List.takeWhile_cons_of_neg (by simp [hc]),
    List.append_nil]

theorem dropWhile_bare {name : String} (h : IsBareName name) {c : Char} (hc : isBare c = false)
    (cs : List Char) : (name.toList ++ c :: cs).dropWhile isBare = c :: cs := by
  rw [List.dropWhile_append_of_pos h.all_bare, List.dropWhile_cons_of_neg (by simp [hc])]

theorem key?_bare {name : String} (h : IsBareName name) {c : Char} (hc : isBare c = false)
    (cs : List Char) : key? (name.toList ++ c :: cs) = some (name, c :: cs) := by
  obtain ⟨first, others, heq, hfirst⟩ := h.exists_eq
  have hopening : StringForm.opening? (name.toList ++ c :: cs) = none := by
    rw [heq]
    exact opening?_eq_none (ne_of_isBare hfirst (by decide)) (ne_of_isBare hfirst (by decide)) _
  rw [key?, hopening]
  dsimp only
  rw [takeWhile_bare h hc, dropWhile_bare h hc, if_neg (by simp [h.ne_empty]),
    String.ofList_toList]

/-- A bare key that no point follows is a path of its own. -/
theorem path?_bare {name : String} (h : IsBareName name) {c : Char} (hc : isBare c = false)
    (cs : List Char) (hpoint : '.' ∉ (dropSpace (c :: cs)).head?) :
    path? (name.toList ++ c :: cs) = some ([name], dropSpace (c :: cs)) := by
  have hkeys : keys? (name.toList ++ c :: cs) = some ([name], dropSpace (c :: cs)) := by
    rw [keys?, key?_bare h hc]
    dsimp only
    split
    · simp_all
    · rfl
  rw [path?, hkeys]
  rfl

/-! ## Values -/

theorem value?_of_opening {cs rest : List Char} {text : String} {form : StringForm}
    {start : List Char} (hopening : StringForm.opening? cs = some (form, start))
    (hread : StringForm.read? cs = some (text, rest)) (depth : Nat) :
    value? depth cs = some (.string text, rest) := by
  have hbracket : ∀ after, cs ≠ '[' :: after := by
    rintro after rfl
    rw [opening?_eq_none (by decide) (by decide)] at hopening
    cases hopening
  have hbrace : ∀ after, cs ≠ '{' :: after := by
    rintro after rfl
    rw [opening?_eq_none (by decide) (by decide)] at hopening
    cases hopening
  unfold value?
  split
  · exact absurd rfl (hbracket _)
  · exact absurd rfl (hbrace _)
  · exact absurd rfl (hbracket _)
  · exact absurd rfl (hbrace _)
  · rw [if_pos (by rw [hopening]; rfl), hread, Option.map_some]

/-- A value ends where its line ends. -/
theorem value?_write (text : String) (rest : List Char) (depth : Nat) :
    value? depth (StringForm.write text ++ '\n' :: rest) = some (.string text, '\n' :: rest) := by
  have hhead : ∀ c ∈ ('\n' :: rest).head?, c ≠ '"' ∧ c ≠ '\'' := by
    rintro c ⟨⟩
    decide
  exact value?_of_opening
    (StringForm.opening?_write text (StringForm.quote_not_mem_head hhead _))
    (StringForm.read?_write text hhead) depth

theorem value?_boolean (flag : Bool) (rest : List Char) (depth : Nat) :
    value? depth ((if flag then ['t', 'r', 'u', 'e'] else ['f', 'a', 'l', 's', 'e']) ++
      '\n' :: rest) = some (.boolean flag, '\n' :: rest) := by
  cases flag <;> cases depth <;> rfl

/-! ## Lines -/

theorem dropSpace_cons {c : Char} (h : isSpace c = false) (cs : List Char) :
    dropSpace (c :: cs) = c :: cs := by
  rw [dropSpace, List.dropWhile_cons_of_neg (by simp [h])]

/-- A bare key is not part of the gap before a statement. -/
theorem dropGap?_bare {c : Char} (h : isBare c = true) (cs : List Char) :
    dropGap? false (c :: cs) = some (c :: cs) := by
  have hfeed := ne_of_isBare h (d := '\n') (by decide)
  have hreturn := ne_of_isBare h (d := '\r') (by decide)
  have hmark := ne_of_isBare h (d := '#') (by decide)
  have hspace := isSpace_of_isBare h
  unfold dropGap?
  split <;> simp_all

theorem all?_of_read? {cs start rest : List Char} {c : Char} {statement : Statement}
    (hgap : dropGap? false cs = some (c :: start))
    (hread : Statement.read? (c :: start) = some (statement, rest))
    (hshorter : rest.length < cs.length) :
    Statement.all? cs = (Statement.all? rest).map (statement :: ·) := by
  rw [Statement.all?, hgap]
  dsimp only
  rw [hread]
  dsimp only
  rw [if_pos hshorter]

theorem assignment?_bare {name : String} (h : IsBareName name) {value : Reader Value}
    {text rest : List Char} {v : Value} (hspace : ∀ c ∈ text.head?, isSpace c = false)
    (hvalue : value text = some (v, rest)) :
    assignment? (some ∘ dropSpace) value (name.toList ++ ' ' :: '=' :: ' ' :: text) =
      some (([name], v), rest) := by
  have hsign : ∀ cs, dropSpace (' ' :: '=' :: cs) = '=' :: cs := fun _ => rfl
  have hpath := path?_bare h (c := ' ') (by decide) ('=' :: ' ' :: text) (by simp [hsign])
  have htext : dropSpace (' ' :: text) = text := by
    rw [dropSpace, List.dropWhile_cons_of_pos (by decide)]
    cases text with
    | nil => rfl
    | cons c text => exact dropSpace_cons (hspace c rfl) text
  simp only [assignment?, hpath, Option.bind_eq_bind, Option.bind_some, Function.comp_apply, hsign]
  have hequals : dropSpace ('=' :: ' ' :: text) = '=' :: ' ' :: text := rfl
  rw [hequals]
  simp only [htext, hvalue, Option.bind_some]
  rfl

namespace Statement

theorem content?_bare {name : String} (h : IsBareName name) {text rest : List Char} {v : Value}
    (hspace : ∀ c ∈ text.head?, isSpace c = false)
    (hvalue : value? maxDepth text = some (v, rest)) :
    content? (name.toList ++ ' ' :: '=' :: ' ' :: text) = some (.entry [name] v, rest) := by
  have hassignment := assignment?_bare h hspace hvalue
  obtain ⟨c, cs, heq, hbare⟩ := h.exists_eq
  rw [heq] at hassignment ⊢
  have hbracket : c ≠ '[' := ne_of_isBare hbare (by decide)
  unfold content?
  split
  · simp_all
  · simp_all
  · rw [hassignment]
    rfl

/-- A line with a bare key and a value is an entry, and the reader goes on below it. -/
theorem all?_entry {name : String} (h : IsBareName name) {text : List Char} {v : Value}
    (hspace : ∀ c ∈ text.head?, isSpace c = false) {rest : List Char}
    (hvalue : value? maxDepth (text ++ '\n' :: rest) = some (v, '\n' :: rest)) :
    all? (name.toList ++ ' ' :: '=' :: ' ' :: (text ++ '\n' :: rest)) =
      (all? rest).map (.entry [name] v :: ·) := by
  have hhead : ∀ c ∈ (text ++ '\n' :: rest).head?, isSpace c = false := by
    cases text with
    | nil => rintro c ⟨⟩; decide
    | cons c text => simpa using hspace
  have hcontent := content?_bare h hhead hvalue
  have hread : read? (name.toList ++ ' ' :: '=' :: ' ' :: (text ++ '\n' :: rest)) =
      some (.entry [name] v, rest) := by
    rw [read?, hcontent]
    rfl
  have hshorter :
      rest.length < (name.toList ++ ' ' :: '=' :: ' ' :: (text ++ '\n' :: rest)).length := by
    simp only [List.length_append, List.length_cons]
    omega
  obtain ⟨c, cs, heq, hbare⟩ := h.exists_eq
  rw [heq] at hread hshorter ⊢
  exact all?_of_read? (dropGap?_bare hbare _) hread hshorter

/-- A bare key in brackets, below an empty line, is a header. -/
theorem all?_header {name : String} (h : IsBareName name) (rest : List Char) :
    all? ('\n' :: '[' :: (name.toList ++ ']' :: '\n' :: rest)) =
      (all? rest).map (.header [name] :: ·) := by
  have hend : dropSpace (']' :: '\n' :: rest) = ']' :: '\n' :: rest := dropSpace_cons (by decide) _
  have hpath := path?_bare h (c := ']') (by decide) ('\n' :: rest) (by simp [hend])
  have hread : read? ('[' :: (name.toList ++ ']' :: '\n' :: rest)) =
      some (.header [name], rest) := by
    obtain ⟨c, cs, heq, hbare⟩ := h.exists_eq
    have hbracket : c ≠ '[' := ne_of_isBare hbare (by decide)
    have hspace := dropSpace_cons (isSpace_of_isBare hbare) (cs ++ ']' :: '\n' :: rest)
    rw [hend] at hpath
    rw [heq, List.cons_append] at hpath ⊢
    have hbracketed : bracketed? [']'] (c :: (cs ++ ']' :: '\n' :: rest)) =
        some ([name], '\n' :: rest) := by
      rw [bracketed?, hspace, hpath]
      rfl
    have hcontent : content? ('[' :: c :: (cs ++ ']' :: '\n' :: rest)) =
        some (.header [name], '\n' :: rest) := by
      unfold content?
      split <;> simp_all
    rw [read?, hcontent]
    rfl
  have hgap : dropGap? false ('\n' :: '[' :: (name.toList ++ ']' :: '\n' :: rest)) =
      some ('[' :: (name.toList ++ ']' :: '\n' :: rest)) := rfl
  apply all?_of_read? hgap hread
  simp only [List.length_append, List.length_cons]
  omega

end Statement

end CommitHeader.Toml
