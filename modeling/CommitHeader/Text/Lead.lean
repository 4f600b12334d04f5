/-!
# The start of a text

Taking a given text off the start or the end of another one.
-/

namespace CommitHeader.Text

/-- What follows `lead` in a text that begins with it. -/
def dropLead? : List Char → List Char → Option (List Char)
  | [], cs => some cs
  | _ :: _, [] => none
  | l :: ls, c :: cs => if l = c then dropLead? ls cs else none

theorem dropLead?_eq_some_iff {lead cs rest : List Char} :
    dropLead? lead cs = some rest ↔ cs = lead ++ rest := by
  induction lead generalizing cs with
  | nil => simp [dropLead?]
  | cons l ls ih =>
      cases cs with
      | nil => simp [dropLead?]
      | cons c cs =>
          by_cases h : l = c
          · simp [dropLead?, h, ih]
          · simp [dropLead?, h, Ne.symm h]

theorem length_of_dropLead? {lead cs rest : List Char} (h : dropLead? lead cs = some rest) :
    rest.length ≤ cs.length := by
  rw [dropLead?_eq_some_iff.mp h, List.length_append]
  omega

/-- What follows `lead` in a text that begins with it. -/
def afterLead? (lead s : String) : Option String :=
  (dropLead? lead.toList s.toList).map String.ofList

/-- What stands before `tail` in a text that ends with it. -/
def beforeTail? (tail s : String) : Option String :=
  (dropLead? tail.toList.reverse s.toList.reverse).map fun cs => String.ofList cs.reverse

end CommitHeader.Text
