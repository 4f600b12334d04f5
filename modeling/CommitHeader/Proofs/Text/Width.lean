import CommitHeader.Proofs.Text.Cut
import CommitHeader.Text.Width

/-!
# Width at the end of a text

A colon or a space at the end of a text adds its own column and leaves the columns before it as they
are. Laid out between tab stops, a text that ends in tabs ends at a stop.
-/

namespace CommitHeader.Text

/-! ## Plain characters -/

/-- A character that takes one column, shares it with nothing and offers nothing to its left. -/
def IsPlain (c : Char) : Prop := alone c = (1, .plain)

theorem isPlain_colon : IsPlain ':' := by
  unfold IsPlain
  decide

theorem isPlain_space : IsPlain ' ' := by
  unfold IsPlain
  decide

/-- Columns counted before a text is read stay apart from those of the text. -/
theorem foldr_widen_add (cs : List Char) (n : Nat) (follow : Follow) :
    cs.foldr widen (n, follow) =
      ((cs.foldr widen (0, follow)).1 + n, (cs.foldr widen (0, follow)).2) := by
  induction cs with
  | nil => simp
  | cons c cs ih =>
      rw [List.foldr_cons, List.foldr_cons, ih]
      simp only [widen]
      rw [Nat.add_assoc]

@[simp] theorem widthOf_nil : widthOf [] = 0 := rfl

theorem widthOf_append_plain {c : Char} (hc : IsPlain c) (cs : List Char) :
    widthOf (cs ++ [c]) = widthOf cs + 1 := by
  have hstart : widen c (0, .plain) = (1, .plain) := by
    rw [IsPlain] at hc
    simp [widen, widthStep, Follow.combine?, Follow.owed, hc]
  unfold widthOf
  rw [List.foldr_append, List.foldr_cons, List.foldr_nil, hstart, foldr_widen_add]
  dsimp only
  omega

theorem widthOf_append_replicate {c : Char} (hc : IsPlain c) (cs : List Char) (n : Nat) :
    widthOf (cs ++ List.replicate n c) = widthOf cs + n := by
  induction n with
  | zero => simp
  | succ n ih =>
      rw [List.replicate_succ', ← List.append_assoc, widthOf_append_plain hc, ih, Nat.add_assoc]

@[simp] theorem width_empty : width "" = 0 := rfl

theorem width_append_colon (s : String) : width (s ++ ":") = width s + 1 := by
  unfold width
  rw [String.toList_append]
  exact widthOf_append_plain isPlain_colon s.toList

/-! ## Tab stops -/

/-- The control characters. -/
def IsControl (c : Char) : Prop :=
  c.toNat < 0x20 ∨ (0x7f ≤ c.toNat ∧ c.toNat < 0xa0)

instance (c : Char) : Decidable (IsControl c) :=
  inferInstanceAs (Decidable (_ ∨ _))

/-- The first tab stop strictly past a column. -/
def nextStop (size column : Nat) : Nat :=
  (column / size + 1) * size

/-- The column at which a text ends that starts at the left and moves to the next stop with every
tab. -/
def laidOut (size : Nat) (s : String) : Nat :=
  match cutEach '\t' s.toList with
  | [] => 0
  | first :: others =>
      others.foldl (fun column piece => nextStop size column + widthOf piece) (widthOf first)

theorem cutEach_replicate (mark : Char) (n : Nat) :
    cutEach mark (List.replicate n mark) = [] :: List.replicate n [] := by
  induction n with
  | zero => rfl
  | succ n ih => rw [List.replicate_succ, cutEach, if_pos rfl, ih, List.replicate_succ]

theorem cutEach_append_replicate {mark : Char} {cs : List Char} (hcs : mark ∉ cs) (n : Nat) :
    cutEach mark (cs ++ List.replicate n mark) = cs :: List.replicate n [] := by
  cases n with
  | zero => rw [List.replicate_zero, List.append_nil, cutEach_of_not_mem hcs, List.replicate_zero]
  | succ n => rw [List.replicate_succ, cutEach_append hcs, cutEach_replicate, List.replicate_succ]

/-- Tabs alone move from stop to stop. -/
theorem foldl_nextStop {size : Nat} (hsize : 0 < size) (n column : Nat) :
    (List.replicate (n + 1) []).foldl
        (fun column piece => nextStop size column + widthOf piece) column =
      (column / size + (n + 1)) * size := by
  induction n generalizing column with
  | zero => simp [nextStop]
  | succ n ih =>
      rw [List.replicate_succ, List.foldl_cons, ih, widthOf_nil, Nat.add_zero, nextStop,
        Nat.mul_div_cancel _ hsize]
      congr 1
      omega

/-- A text without tabs and one tab or more after it end as many stops past the last one within the
text as there are tabs. -/
theorem laidOut_append_tabs {size : Nat} (hsize : 0 < size) {s : String} (hs : '\t' ∉ s.toList)
    (n : Nat) :
    laidOut size (s ++ String.ofList (List.replicate (n + 1) '\t')) =
      (width s / size + (n + 1)) * size := by
  unfold laidOut width
  rw [String.toList_append, String.toList_ofList, cutEach_append_replicate hs]
  exact foldl_nextStop hsize n _

end CommitHeader.Text
