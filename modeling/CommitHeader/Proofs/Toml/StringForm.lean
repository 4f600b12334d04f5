import CommitHeader.Toml.StringForm.Writer
import Mathlib

/-!
# Reading strings back

What may stand between the quotes of a form is a small grammar, `Spells`: a character by itself, an
escape, or one of at most two quotes in a row. The reader takes back every spelling of a text, and
the writer writes one for every text, whichever form it chooses.

The quotes need care only in the long forms. There the reader sees a run of quotes as a whole, and
the last three of the run close the string; so a spelling counts the quotes just before it.
-/

namespace CommitHeader.Toml

/-- An escape and the character that it stands for. -/
inductive IsEscape : List Char → Char → Prop
  | short {mark c : Char} (h : List.lookup mark shortEscapes = some c) : IsEscape ['\\', mark] c
  | number {c : Char} (h : c.toNat < 0x10000) : IsEscape (StringForm.numbered c) c

namespace StringForm

/-- A character that stands for itself in a form, quotes apart. -/
def IsPlain (form : StringForm) (c : Char) : Prop :=
  (c = '\n' ∧ form.isLong = true) ∨ (isControl c = false ∧ (c = '\\' → form.hasEscapes = false))

/-- `form.Spells run w cs` says that `w` spells the text `cs` in a form, after a run of so many
quotes that belong to the text. -/
inductive Spells (form : StringForm) : Nat → List Char → List Char → Prop
  | nil {run : Nat} : Spells form run [] []
  | quote {run : Nat} {w cs : List Char} (hlong : form.isLong = true) (hrun : run < 2)
      (h : Spells form (run + 1) w cs) : Spells form run (form.quote :: w) (form.quote :: cs)
  | plain {run : Nat} {c : Char} {w cs : List Char} (hquote : c ≠ form.quote)
      (hplain : form.IsPlain c) (h : Spells form 0 w cs) : Spells form run (c :: w) (c :: cs)
  | escape {run : Nat} {c : Char} {e w cs : List Char} (hescapes : form.hasEscapes = true)
      (he : IsEscape e c) (h : Spells form 0 w cs) : Spells form run (e ++ w) (c :: cs)

/-! ## Escapes -/

theorem value?_upperDigit {n : Nat} (h : n < 16) :
    Text.Hex.value? (Text.Hex.upperDigit n) = some n := by
  decide +revert

theorem numbered_eq (c : Char) :
    numbered c = ['\\', 'u', Text.Hex.upperDigit (c.toNat / 4096 % 16),
      Text.Hex.upperDigit (c.toNat / 256 % 16), Text.Hex.upperDigit (c.toNat / 16 % 16),
      Text.Hex.upperDigit (c.toNat / 1 % 16)] := rfl

theorem charOf?_toNat (c : Char) : charOf? c.toNat = some c := by
  have hvalid : c.toNat.isValidChar := c.valid
  rw [charOf?, if_pos hvalid, Char.ofNat_toNat]

theorem readOnto?_numbered {n : Nat} (h : n < 0x10000) :
    Text.Hex.readOnto? 0 [Text.Hex.upperDigit (n / 4096 % 16), Text.Hex.upperDigit (n / 256 % 16),
      Text.Hex.upperDigit (n / 16 % 16), Text.Hex.upperDigit (n / 1 % 16)] = some n := by
  have hdigit (weight : Nat) : n / weight % 16 < 16 := Nat.mod_lt _ (by omega)
  simp only [Text.Hex.readOnto?, value?_upperDigit (hdigit _)]
  congr 1
  omega

theorem escaped?_numbered {c : Char} (h : c.toNat < 0x10000) (w : List Char) :
    escaped? ((numbered c).tail ++ w) = some (c, w) := by
  rw [numbered_eq]
  simp only [List.tail_cons, List.cons_append, List.nil_append]
  have hshort : List.lookup 'u' shortEscapes = none := by decide
  have hcount : List.lookup 'u' digitEscapes = some 4 := by decide
  rw [escaped?, hshort, hcount]
  dsimp only
  rw [if_neg (by simp)]
  simp only [List.take_succ_cons, List.take_zero, List.drop_succ_cons, List.drop_zero,
    readOnto?_numbered h, Option.bind_some, charOf?_toNat]

theorem foldedLine?_cons {c : Char} (hspace : isSpace c = false) (hfeed : c ≠ '\n')
    (hreturn : c ≠ '\r') (w : List Char) : foldedLine? (c :: w) = none := by
  unfold foldedLine? dropSpace
  rw [List.dropWhile_cons_of_neg (by simp [hspace])]
  split <;> simp_all

/-- What follows a backslash is the mark of an escape, and so never a line that is folded. -/
theorem exists_of_isEscape {e : List Char} {c : Char} (h : IsEscape e c) :
    ∃ mark after, e = '\\' :: mark :: after ∧ (∀ w, foldedLine? (mark :: w) = none) ∧
      ∀ w, escaped? (mark :: (after ++ w)) = some (c, w) := by
  cases h with
  | @short mark c h =>
      have hmark : mark ∉ [' ', '\t', '\n', '\r'] := by
        intro hmem
        have hnone : ∀ m ∈ [' ', '\t', '\n', '\r'], List.lookup m shortEscapes = none := by
          simp [shortEscapes, List.lookup_cons]
        rw [hnone mark hmem] at h
        cases h
      simp only [List.mem_cons, List.not_mem_nil, or_false, not_or] at hmark
      obtain ⟨hspace, htab, hfeed, hreturn⟩ := hmark
      refine ⟨mark, [], rfl, foldedLine?_cons (by simp [isSpace, hspace, htab]) hfeed hreturn,
        fun w => ?_⟩
      rw [List.nil_append, escaped?, h]
  | number h =>
      refine ⟨'u', _, numbered_eq c, foldedLine?_cons (by decide) (by decide) (by decide),
        fun w => ?_⟩
      exact escaped?_numbered h w

/-! ## One part of a spelling -/

theorem part?_plain {form : StringForm} {c : Char} (h : form.IsPlain c) (w : List Char) :
    form.part? (c :: w) = some ([c], w) := by
  rcases h with ⟨rfl, hlong⟩ | ⟨hcontrol, hback⟩
  · rw [part?, if_pos hlong]
  · have hfeed : c ≠ '\n' := by
      rintro rfl
      revert hcontrol
      decide
    have hreturn : c ≠ '\r' := by
      rintro rfl
      revert hcontrol
      decide
    unfold part?
    split
    · contradiction
    · simp_all
    · simp_all
    · rename_i heq
      obtain ⟨rfl, rfl⟩ := List.cons.inj heq
      rw [if_neg (by simpa using hback), hcontrol]
      rfl

theorem part?_escape {form : StringForm} {e : List Char} {c : Char}
    (hescapes : form.hasEscapes = true) (he : IsEscape e c) (w : List Char) :
    form.part? (e ++ w) = some ([c], w) := by
  obtain ⟨mark, after, rfl, hfolded, hescaped⟩ := exists_of_isEscape he
  have hfold : (if form.isLong then foldedLine? (mark :: (after ++ w)) else none) = none := by
    rw [hfolded, ite_self]
  rw [List.cons_append, List.cons_append, part?]
  · rw [if_pos (by simp [hescapes]), hfold]
    simp only [hescaped, Option.map_some]
  all_goals simp

/-! ## The closing quotes -/

theorem quotes_of_isLong {form : StringForm} (h : form.isLong = true) :
    form.quotes = [form.quote, form.quote, form.quote] := by
  rw [quotes, if_pos h]
  rfl

theorem quotes_of_not_isLong {form : StringForm} (h : form.isLong = false) :
    form.quotes = [form.quote] := by
  rw [quotes, h]
  rfl

theorem quotes_ne_nil (form : StringForm) : form.quotes ≠ [] := by
  cases form <;> decide

theorem backslash_ne_quote (form : StringForm) : '\\' ≠ form.quote := by
  cases form <;> decide

theorem takeWhile_quote_take {form : StringForm} {rest : List Char}
    (hrest : form.quote ∉ rest.head?) (n : Nat) :
    (rest.take n).takeWhile (· = form.quote) = [] := by
  cases n with
  | zero => rfl
  | succ n =>
      cases rest with
      | nil => rfl
      | cons c rest =>
          rw [List.take_succ_cons, List.takeWhile_cons_of_neg]
          simpa [eq_comm] using hrest

/-- Quotes close a string where no further one follows them. -/
theorem closing?_quotes {form : StringForm} {rest : List Char} (hrest : form.quote ∉ rest.head?) :
    form.closing? (form.quotes ++ rest) = some ([], rest) := by
  have hlead : Text.dropLead? form.quotes (form.quotes ++ rest) = some rest :=
    Text.dropLead?_eq_some_iff.mpr rfl
  simp only [closing?, hlead, takeWhile_quote_take hrest, List.length_nil, List.drop_zero, ite_self]

/-- One or two more quotes before the closing ones of a long form belong to the string. -/
theorem closing?_extra {form : StringForm} (hlong : form.isLong = true) {k : Nat} (hk : k ≤ 2)
    {rest : List Char} (hrest : form.quote ∉ rest.head?) :
    form.closing? (List.replicate k form.quote ++ (form.quotes ++ rest)) =
      some (List.replicate k form.quote, rest) := by
  have hswap : List.replicate k form.quote ++ (form.quotes ++ rest) =
      form.quotes ++ (List.replicate k form.quote ++ rest) := by
    rw [quotes, if_pos hlong, ← List.append_assoc, ← List.append_assoc,
      List.replicate_append_replicate, List.replicate_append_replicate, Nat.add_comm]
  have hlead : Text.dropLead? form.quotes (form.quotes ++ (List.replicate k form.quote ++ rest)) =
      some (List.replicate k form.quote ++ rest) := Text.dropLead?_eq_some_iff.mpr rfl
  have hextra : ((List.replicate k form.quote ++ rest).take 2).takeWhile (· = form.quote) =
      List.replicate k form.quote := by
    rw [List.take_append, List.take_of_length_le (by simpa using hk),
      List.takeWhile_append_of_pos (by simp), takeWhile_quote_take hrest, List.append_nil]
  rw [hswap, closing?, hlead]
  dsimp only
  rw [if_pos hlong, hextra, List.drop_left]

/-- Fewer quotes than the form stands between do not close a string. -/
theorem closing?_eq_none {form : StringForm} {k : Nat} (hk : k < form.quotes.length) {c : Char}
    (hc : c ≠ form.quote) (w : List Char) :
    form.closing? (List.replicate k form.quote ++ c :: w) = none := by
  have hlead : Text.dropLead? form.quotes (List.replicate k form.quote ++ c :: w) = none := by
    rw [Option.eq_none_iff_forall_ne_some]
    intro rest hrest
    have hat := congrArg (·[k]?) (Text.dropLead?_eq_some_iff.mp hrest)
    rw [quotes, List.length_replicate] at hk
    simp only [quotes, List.getElem?_append, List.length_replicate, Nat.lt_irrefl, if_false,
      Nat.sub_self, List.getElem?_cons_zero, hk, if_true, List.getElem?_replicate] at hat
    exact hc (Option.some.inj hat)
  rw [closing?, hlead]

/-! ## Whole spellings -/

theorem body?_of_closing {form : StringForm} {cs text rest : List Char}
    (h : form.closing? cs = some (text, rest)) : form.body? cs = some (text, rest) := by
  rw [body?, h]

theorem body?_of_part {form : StringForm} (part : List Char) {e cs text rest : List Char}
    (he : e ≠ []) (hclosing : form.closing? (e ++ cs) = none)
    (hpart : form.part? (e ++ cs) = some (part, cs)) (h : form.body? cs = some (text, rest)) :
    form.body? (e ++ cs) = some (part ++ text, rest) := by
  have hshorter : cs.length < (e ++ cs).length := by
    have hpos := List.length_pos_iff.mpr he
    rw [List.length_append]
    omega
  rw [body?, hclosing, hpart]
  dsimp only
  rw [if_pos hshorter, h, Option.map_some]

/-- The quotes at the start of a spelling: they are all of it, or something else follows them. -/
theorem Spells.leading_quotes {form : StringForm} {run : Nat} {w cs : List Char}
    (h : form.Spells run w cs) (hrun : run ≤ 2) :
    ∃ k, run + k ≤ 2 ∧ ((w = List.replicate k form.quote ∧ cs = List.replicate k form.quote) ∨
      ∃ c after, c ≠ form.quote ∧ w = List.replicate k form.quote ++ c :: after) := by
  induction h with
  | nil => exact ⟨0, hrun, .inl ⟨rfl, rfl⟩⟩
  | quote _ hlt _ ih =>
      obtain ⟨k, hk, ⟨rfl, rfl⟩ | ⟨c, after, hc, rfl⟩⟩ := ih hlt
      · exact ⟨k + 1, by omega, .inl ⟨rfl, rfl⟩⟩
      · exact ⟨k + 1, by omega, .inr ⟨c, after, hc, rfl⟩⟩
  | @plain _ c w _ hquote _ _ _ => exact ⟨0, hrun, .inr ⟨c, w, hquote, rfl⟩⟩
  | @escape _ c e w _ _ he _ _ =>
      obtain ⟨mark, after, rfl, -, -⟩ := exists_of_isEscape he
      exact ⟨0, hrun, .inr ⟨'\\', mark :: after ++ w, form.backslash_ne_quote, rfl⟩⟩

/-- The reader takes back what a spelling spells, up to the closing quotes. -/
theorem body?_of_spells {form : StringForm} {run : Nat} {w cs rest : List Char}
    (h : form.Spells run w cs) (hrun : run ≤ 2) (hrest : form.quote ∉ rest.head?) :
    form.body? (w ++ (form.quotes ++ rest)) = some (cs, rest) := by
  have hpos : 0 < form.quotes.length := List.length_pos_iff.mpr form.quotes_ne_nil
  induction h with
  | nil => exact body?_of_closing (closing?_quotes hrest)
  | @quote run w cs hlong hlt h ih =>
      obtain ⟨k, hk, ⟨rfl, rfl⟩ | ⟨c, after, hc, rfl⟩⟩ := h.leading_quotes hlt
      · -- The rest of the text is quotes: the reader takes all of them at once.
        exact body?_of_closing (closing?_extra (k := k + 1) hlong (by omega) hrest)
      · have hlength : form.quotes.length = 3 := by rw [quotes_of_isLong hlong]; rfl
        have hplain : form.IsPlain form.quote := by
          right
          cases form <;> simp [StringForm.quote] <;> decide
        refine body?_of_part [form.quote] (e := [form.quote]) (by simp) ?_
          (part?_plain hplain _) (ih hlt)
        have hnone := closing?_eq_none (k := k + 1) (by omega) hc
          (after ++ (form.quotes ++ rest))
        simpa [List.replicate_succ] using hnone
  | @plain _ c w cs hquote hplain h ih =>
      exact body?_of_part [c] (e := [c]) (by simp)
        (closing?_eq_none (k := 0) hpos hquote _) (part?_plain hplain _) (ih (Nat.zero_le 2))
  | @escape _ c e w cs hescapes he h ih =>
      have hpart := part?_escape hescapes he (w ++ (form.quotes ++ rest))
      obtain ⟨mark, after, rfl, -, -⟩ := exists_of_isEscape he
      rw [List.append_assoc]
      exact body?_of_part [c] (by simp)
        (closing?_eq_none (k := 0) hpos form.backslash_ne_quote _) hpart (ih (Nat.zero_le 2))

/-! ## What the writer writes -/

/-- A character other than a quote is spelled as the writer writes it. -/
theorem spells_escape {form : StringForm} (hescapes : form.hasEscapes = true) {c : Char}
    (hquote : c ≠ form.quote) {run : Nat} {w cs : List Char} (h : form.Spells 0 w cs) :
    form.Spells run (form.escape c ++ w) (c :: cs) := by
  have hshort {mark shown : Char} (hmark : List.lookup mark shortEscapes = some shown) :
      form.Spells run (['\\', mark] ++ w) (shown :: cs) := .escape hescapes (.short hmark) h
  unfold StringForm.escape
  split_ifs with hb ht hf hr hback hfeed hlong hcontrol
  · subst hb
    exact hshort rfl
  · subst ht
    exact hshort rfl
  · subst hf
    exact hshort rfl
  · subst hr
    exact hshort rfl
  · subst hback
    exact hshort rfl
  · subst hfeed
    exact .plain hquote (.inl ⟨rfl, hlong⟩) h
  · subst hfeed
    exact hshort rfl
  · have hsmall : c.toNat < 0x10000 := by
      unfold isControl at hcontrol
      simp only [Bool.or_eq_true, Bool.and_eq_true, decide_eq_true_eq] at hcontrol
      rcases hcontrol with ⟨hlt, -⟩ | rfl
      · omega
      · decide
    exact .escape hescapes (.number hsmall) h
  · exact .plain hquote (.inr ⟨by simpa using hcontrol, fun heq => absurd heq hback⟩) h

theorem quote_of_hasEscapes {form : StringForm} (h : form.hasEscapes = true) :
    form.quote = '"' := by
  cases form with
  | basic => rfl
  | longBasic => rfl
  | literal => cases h
  | longLiteral => cases h

/-- A form with escapes spells every text. -/
theorem spells_escapeFrom {form : StringForm} (hescapes : form.hasEscapes = true) (run : Nat)
    (cs : List Char) : form.Spells run (form.escapeFrom run cs) cs := by
  have hquote := quote_of_hasEscapes hescapes
  induction cs generalizing run with
  | nil => exact .nil
  | cons c cs ih =>
      unfold escapeFrom
      split_ifs with hc hrun
      · obtain ⟨hlong, hlt⟩ := Bool.and_eq_true_iff.mp hrun
        rw [hc, ← hquote]
        exact .quote hlong (of_decide_eq_true hlt) (ih (run + 1))
      · subst hc
        exact .escape (e := ['\\', '"']) hescapes (.short rfl) (ih 0)
      · exact spells_escape hescapes (hquote ▸ hc) (ih 0)

theorem hasRunOfThree_of_cons {mark c : Char} {cs : List Char}
    (h : hasRunOfThree mark (c :: cs) = false) : hasRunOfThree mark cs = false := by
  match cs, h with
  | [], _ => rfl
  | [_], _ => rfl
  | _ :: _ :: _, h => exact (Bool.or_eq_false_iff.mp h).2

theorem hasRunOfThree_of_append {mark : Char} (before : List Char) {cs : List Char}
    (h : hasRunOfThree mark (before ++ cs) = false) : hasRunOfThree mark cs = false := by
  induction before with
  | nil => exact h
  | cons c before ih => exact ih (hasRunOfThree_of_cons h)

/-- Within a text without a run of three quotes at most two of them stand before another one. -/
theorem run_lt_two {mark : Char} {run : Nat} {cs : List Char}
    (h : hasRunOfThree mark (List.replicate run mark ++ mark :: cs) = false) : run < 2 := by
  by_contra hrun
  have hsplit : List.replicate run mark ++ mark :: cs =
      List.replicate (run - 2) mark ++ mark :: mark :: mark :: cs := by
    have hreplicate : List.replicate run mark =
        List.replicate (run - 2) mark ++ List.replicate 2 mark := by
      rw [List.replicate_append_replicate]
      congr 1
      omega
    rw [hreplicate, List.append_assoc]
    rfl
  have hthree := hasRunOfThree_of_append _ (hsplit ▸ h)
  simp [hasRunOfThree] at hthree

/-- A form without escapes spells a text by itself unless a control is in it, quotes end it early or
it has more lines than the form may have. -/
theorem spells_self {form : StringForm} (hescapes : form.hasEscapes = false) {run : Nat}
    {cs : List Char} (hcontrols : hasControls cs = false)
    (hfeed : form.isLong = false → '\n' ∉ cs) (hquote : form.isLong = false → form.quote ∉ cs)
    (hthree : form.isLong = true →
      hasRunOfThree form.quote (List.replicate run form.quote ++ cs) = false) :
    form.Spells run cs cs := by
  induction cs generalizing run with
  | nil => exact .nil
  | cons c cs ih =>
      obtain ⟨hcontrol, hcontrols⟩ := Bool.or_eq_false_iff.mp hcontrols
      have hnext (run : Nat) (h : form.isLong = true →
          hasRunOfThree form.quote (List.replicate run form.quote ++ cs) = false) :
          form.Spells run cs cs :=
        ih hcontrols (fun hshort => List.not_mem_of_not_mem_cons (hfeed hshort))
          (fun hshort => List.not_mem_of_not_mem_cons (hquote hshort)) h
      by_cases hc : c = form.quote
      · subst hc
        have hlong : form.isLong = true := by
          by_contra hshort
          exact hquote (by simpa using hshort) List.mem_cons_self
        refine .quote hlong (run_lt_two (hthree hlong)) (hnext (run + 1) fun _ => ?_)
        rw [List.replicate_succ', List.append_assoc]
        exact hthree hlong
      · have hplain : form.IsPlain c := by
          by_cases hline : c = '\n'
          · refine .inl ⟨hline, ?_⟩
            by_contra hshort
            exact hfeed (by simpa using hshort) (hline ▸ List.mem_cons_self)
          · exact .inr ⟨by simpa [hline] using hcontrol, fun _ => hescapes⟩
        refine .plain hc hplain (hnext 0 fun hlong => ?_)
        apply hasRunOfThree_of_append (List.replicate run form.quote ++ [c])
        rw [List.append_assoc]
        exact hthree hlong

/-- The writer takes a form without escapes only for a text that such a form can hold. -/
theorem forText_of_not_hasEscapes {cs : List Char} (h : (forText cs).hasEscapes = false) :
    hasControls cs = false ∧
      ((forText cs = .literal ∧ '\n' ∉ cs ∧ '\'' ∉ cs) ∨
        (forText cs = .longLiteral ∧ hasRunOfThree '\'' cs = false)) := by
  unfold forText at h ⊢
  dsimp only at h ⊢
  split_ifs at h ⊢ with hbasic hliteral hlongBasic hlongLiteral
  · cases h
  · simp only [Bool.and_eq_true, Bool.not_eq_true'] at hliteral
    obtain ⟨⟨hcontrols, hline⟩, hquote⟩ := hliteral
    exact ⟨hcontrols, .inl ⟨rfl, by simpa using hline, by simpa using hquote⟩⟩
  · cases h
  · simp only [Bool.and_eq_true, Bool.not_eq_true'] at hlongLiteral
    exact ⟨hlongLiteral.1, .inr ⟨rfl, hlongLiteral.2⟩⟩
  · cases h
  · cases h

/-- What the writer puts between the quotes spells the text. -/
theorem spells_content (cs : List Char) : (forText cs).Spells 0 ((forText cs).content cs) cs := by
  by_cases hescapes : (forText cs).hasEscapes = true
  · rw [content, if_pos hescapes]
    exact spells_escapeFrom hescapes 0 cs
  · have hescapes : (forText cs).hasEscapes = false := by simpa using hescapes
    rw [content, hescapes, if_neg Bool.false_ne_true]
    obtain ⟨hcontrols, ⟨hform, hline, hquote⟩ | ⟨hform, hthree⟩⟩ :=
      forText_of_not_hasEscapes hescapes
    · rw [hform]
      exact spells_self rfl hcontrols (fun _ => hline) (fun _ => hquote) fun hlong => by cases hlong
    · rw [hform]
      exact spells_self rfl hcontrols (fun hshort => by cases hshort)
        (fun hshort => by cases hshort) fun _ => hthree

/-! ## The opening quotes -/

theorem dropLineEnd_of_head {cs : List Char} (hfeed : '\n' ∉ cs.head?) (hreturn : '\r' ∉ cs.head?) :
    dropLineEnd cs = cs := by
  unfold dropLineEnd
  split <;> simp_all

/-- A spelling that starts with the end of a line spells a text that has one. -/
theorem Spells.head_of_not_mem {form : StringForm} {run : Nat} {w cs : List Char}
    (h : form.Spells run w cs) (hline : '\n' ∉ cs) (rest : List Char) :
    '\n' ∉ (w ++ (form.quotes ++ rest)).head? ∧ '\r' ∉ (w ++ (form.quotes ++ rest)).head? := by
  have hquote : form.quote ≠ '\n' ∧ form.quote ≠ '\r' := by cases form <;> decide
  cases h with
  | nil =>
      rw [List.nil_append, quotes]
      split_ifs <;> simpa [List.replicate_succ] using hquote
  | quote => simpa using hquote
  | @plain _ c w cs _ hplain =>
      have hfeed : c ≠ '\n' := fun heq => hline (heq ▸ List.mem_cons_self)
      have hreturn : c ≠ '\r' := by
        rintro rfl
        rcases hplain with ⟨heq, -⟩ | ⟨hcontrol, -⟩
        · cases heq
        · revert hcontrol
          decide
      simpa using ⟨hfeed, hreturn⟩
  | escape _ he =>
      obtain ⟨mark, after, rfl, -, -⟩ := exists_of_isEscape he
      simp

theorem Spells.head_of_not_isLong {form : StringForm} {run : Nat} {w cs : List Char}
    (h : form.Spells run w cs) (hshort : form.isLong = false) : form.quote ∉ w.head? := by
  cases h with
  | nil => simp
  | quote hlong => rw [hshort] at hlong; cases hlong
  | plain hquote => simpa [eq_comm] using hquote
  | escape _ he =>
      obtain ⟨mark, after, rfl, -, -⟩ := exists_of_isEscape he
      simpa [eq_comm] using form.backslash_ne_quote

/-- The reader tells a short form from a long one by what follows the first quote. -/
theorem opening?_short {form : StringForm} (hshort : form.isLong = false) {w rest : List Char}
    (hw : form.quote ∉ w.head?) (hrest : form.quote ∉ rest.head?) :
    opening? (form.quotes ++ (w ++ (form.quotes ++ rest))) =
      some (form, w ++ (form.quotes ++ rest)) := by
  rw [quotes_of_not_isLong hshort]
  have hlead : ∀ second third, second :: third = w ++ ([form.quote] ++ rest) →
      second ≠ form.quote ∨ form.quote ∉ third.head? := by
    intro second third heq
    cases w with
    | nil =>
        obtain ⟨-, rfl⟩ := List.cons.inj heq
        exact .inr hrest
    | cons c w =>
        obtain ⟨rfl, -⟩ := List.cons.inj heq
        exact .inl (by simpa [eq_comm] using hw)
  generalize w ++ ([form.quote] ++ rest) = cs at hlead
  cases form with
  | basic =>
      unfold opening?
      split <;> simp_all [StringForm.quote]
  | literal =>
      unfold opening?
      split <;> simp_all [StringForm.quote]
  | longBasic => cases hshort
  | longLiteral => cases hshort

theorem opening?_long {form : StringForm} (hlong : form.isLong = true) (cs : List Char) :
    opening? (form.quotes ++ cs) = some (form, dropLineEnd cs) := by
  cases form with
  | longBasic => rfl
  | longLiteral => rfl
  | basic => cases hlong
  | literal => cases hlong

theorem opening?_write (text : String) {rest : List Char}
    (hrest : (forText text.toList).quote ∉ rest.head?) :
    opening? (write text ++ rest) = some (forText text.toList,
      (forText text.toList).content text.toList ++ ((forText text.toList).quotes ++ rest)) := by
  have hspells := spells_content text.toList
  unfold write
  dsimp only
  generalize forText text.toList = form at *
  generalize form.content text.toList = w at *
  simp only [List.append_assoc]
  by_cases hlong : form.isLong = true
  · rw [opening?_long hlong]
    by_cases hline : '\n' ∈ text.toList
    · rw [if_pos (by simp [hlong, hline])]
      rfl
    · obtain ⟨hfeed, hreturn⟩ := hspells.head_of_not_mem hline rest
      rw [if_neg (by simp [hline]), List.nil_append, dropLineEnd_of_head hfeed hreturn]
  · have hshort : form.isLong = false := by simpa using hlong
    rw [if_neg (by simp [hshort]), List.nil_append,
      opening?_short hshort (hspells.head_of_not_isLong hshort) hrest]

theorem quote_not_mem_head {rest : List Char} (hrest : ∀ c ∈ rest.head?, c ≠ '"' ∧ c ≠ '\'')
    (form : StringForm) : form.quote ∉ rest.head? := by
  intro hmem
  obtain ⟨hdouble, hsingle⟩ := hrest _ hmem
  cases form with
  | basic => exact hdouble rfl
  | longBasic => exact hdouble rfl
  | literal => exact hsingle rfl
  | longLiteral => exact hsingle rfl

/-- The reader gives every text back from the string that the writer makes of it, and leaves what
follows that string. -/
theorem read?_write (text : String) {rest : List Char}
    (hrest : ∀ c ∈ rest.head?, c ≠ '"' ∧ c ≠ '\'') :
    read? (write text ++ rest) = some (text, rest) := by
  have hquote := quote_not_mem_head hrest (forText text.toList)
  rw [read?, opening?_write text hquote]
  dsimp only
  rw [body?_of_spells (spells_content text.toList) (Nat.zero_le 2) hquote, Option.map_some,
    String.ofList_toList]

end StringForm

end CommitHeader.Toml
