import CommitHeader.Command.Line

/-!
# Operands of a command line

The operands of a line are words of it, in the order in which they stand there. An option settled
in between changes none of them.
-/

namespace CommitHeader

theorem exists_of_bind_eq_ok {ε α β : Type} {step : Except ε α} {continuation : α → Except ε β}
    {result : β} (h : step >>= continuation = .ok result) :
    ∃ value, step = .ok value ∧ continuation value = .ok result := by
  cases step with
  | error cause => cases h
  | ok value => exact ⟨value, rfl, h⟩

namespace Arguments

/-! ## Options -/

/-- The operands that a step leaves, if it comes to an end, are those from before. -/
def KeepsOperands (arguments : Arguments) (step : Except UsageError Arguments) : Prop :=
  ∀ next, step = .ok next → next.operands = arguments.operands

namespace KeepsOperands

variable {arguments : Arguments}

theorem error (fault : UsageError) : KeepsOperands arguments (.error fault) := by
  intro next h
  cases h

theorem ok {next : Arguments} (h : next.operands = arguments.operands) :
    KeepsOperands arguments (.ok next) := by
  intro other hother
  cases hother
  exact h

theorem bind {step : Except UsageError Arguments}
    {continuation : Arguments → Except UsageError Arguments}
    (hstep : KeepsOperands arguments step)
    (hcontinuation : ∀ next, KeepsOperands next (continuation next)) :
    KeepsOperands arguments (step >>= continuation) := by
  intro next h
  obtain ⟨middle, hmiddle, hnext⟩ := exists_of_bind_eq_ok h
  exact (hcontinuation middle next hnext).trans (hstep middle hmiddle)

end KeepsOperands

theorem keepsOperands_accept (arguments : Arguments) (name value : String)
    (fault? : String → Option UsageError) :
    KeepsOperands arguments (arguments.accept name value fault?) := by
  unfold accept
  split
  · exact .error _
  · split
    · exact .error _
    · exact .ok rfl

theorem keepsOperands_settle (arguments : Arguments) :
    KeepsOperands arguments arguments.settle := by
  unfold settle
  split
  · exact .ok rfl
  · exact .error _
  · exact keepsOperands_accept { arguments with pending := .nothing } _ _ _

theorem keepsOperands_give (arguments : Arguments) (option : OptionSpec) :
    KeepsOperands arguments (arguments.give option) := by
  refine (keepsOperands_settle arguments).bind fun settled => ?_
  split
  · exact .error _
  · exact .error _
  · exact .ok rfl
  · split
    · exact .error _
    · exact .ok rfl
  · exact .ok rfl

theorem keepsOperands_giveValue (arguments : Arguments) (option : OptionSpec) (value : String) :
    KeepsOperands arguments (arguments.giveValue option value) := by
  unfold giveValue
  split
  · exact (keepsOperands_settle arguments).bind fun settled => keepsOperands_accept settled _ _ _
  · exact .error _

theorem keepsOperands_giveLetters (grammar : Grammar) (arguments : Arguments)
    (letters : List Char) :
    KeepsOperands arguments (giveLetters grammar arguments letters) := by
  induction letters generalizing arguments with
  | nil => exact .ok rfl
  | cons letter rest ih =>
      unfold giveLetters
      split
      · exact .error _
      · split
        · exact keepsOperands_giveValue arguments _ _
        · exact keepsOperands_giveValue arguments _ _
        · exact (keepsOperands_give arguments _).bind ih

theorem keepsOperands_giveName (grammar : Grammar) (arguments : Arguments) (word : List Char) :
    KeepsOperands arguments (arguments.giveName grammar word) := by
  unfold giveName
  split
  split
  · exact .error _
  · exact keepsOperands_give arguments _
  · exact keepsOperands_giveValue arguments _ _

/-! ## Words -/

theorem operands_of_giveOperand {grammar : Grammar} {arguments next : Arguments} {word : String}
    (h : arguments.giveOperand grammar word = .ok next) :
    next.operands = arguments.operands ++ [word] := by
  unfold giveOperand at h
  split at h
  · split at h <;> cases h
  · split at h
    · obtain ⟨settled, hsettled, h⟩ := exists_of_bind_eq_ok h
      cases h
      exact congrArg (· ++ [word]) (keepsOperands_settle arguments settled hsettled)
    · cases h

/-- A word is the next operand, or the operands stay as they are. -/
theorem operands_of_giveWord {grammar : Grammar} {arguments next : Arguments} {word : String}
    (h : arguments.giveWord grammar word = .ok next) :
    next.operands = arguments.operands ∨ next.operands = arguments.operands ++ [word] := by
  unfold giveWord at h
  split at h
  · exact Or.inr (operands_of_giveOperand h)
  · split at h
    · cases h
      exact Or.inl rfl
    · exact Or.inl (keepsOperands_giveName grammar arguments _ next h)
    · exact Or.inl (keepsOperands_giveLetters grammar arguments _ next h)
    · cases h
      exact Or.inl rfl
    · exact Or.inr (operands_of_giveOperand h)

/-- The operands of a line are some of its words, and so is what follows its command. -/
theorem sublist_of_read {grammar : Grammar} {arguments after : Arguments} {words : List String}
    {command? : Option (String × List String)}
    (h : read grammar arguments words = .ok (after, command?)) :
    (∃ taken, taken.Sublist words ∧ after.operands = arguments.operands ++ taken) ∧
      ∀ command rest, command? = some (command, rest) → rest.Sublist words := by
  induction words generalizing arguments with
  | nil =>
      cases h
      refine ⟨⟨[], List.Sublist.refl _, by simp⟩, ?_⟩
      intro command rest hcommand
      cases hcommand
  | cons word words ih =>
      unfold read at h
      split at h
      · cases h
        refine ⟨⟨[], List.nil_sublist _, by simp⟩, ?_⟩
        intro command rest hcommand
        cases hcommand
        exact List.sublist_cons_self _ _
      · split at h
        · cases h
        · rename_i next hnext
          obtain ⟨⟨taken, htaken, hoperands⟩, hrest⟩ := ih h
          refine ⟨?_, fun command rest hcommand => (hrest command rest hcommand).cons word⟩
          rcases operands_of_giveWord hnext with hkept | hadded
          · exact ⟨taken, htaken.cons word, hkept ▸ hoperands⟩
          · exact ⟨word :: taken, htaken.cons_cons word, by simp [hoperands, hadded]⟩

end Arguments

namespace Invocation

theorem operands_of_requestOf {command : String} {arguments : Arguments} {request : TracksRequest}
    (h : requestOf command arguments = .ok (.tracks request)) :
    arguments.operands = [request.branch, request.remote] := by
  unfold requestOf at h
  split at h
  · cases h
  · rename_i hoperands
    cases h
    exact hoperands
  · cases h
  · cases h

/-- What a line asks for is read off the words after its command. -/
theorem exists_read_of_ofWords {words : List String} {invocation : Invocation}
    (h : ofWords words = .ok invocation) :
    ∃ command rest inner after settled, rest.Sublist words ∧
      Arguments.read (innerGrammar command) {} rest = .ok (inner, after) ∧
      inner.settle = .ok settled ∧ requestOf command settled = .ok invocation.request := by
  obtain ⟨⟨outer, command?⟩, houter, h⟩ := exists_of_bind_eq_ok h
  cases command? with
  | none =>
      obtain ⟨settled, -, h⟩ := exists_of_bind_eq_ok h
      split at h <;> cases h
  | some found =>
      obtain ⟨command, rest⟩ := found
      obtain ⟨⟨inner, after⟩, hinner, h⟩ := exists_of_bind_eq_ok h
      obtain ⟨settled, hsettled, h⟩ := exists_of_bind_eq_ok h
      obtain ⟨request, hrequest, h⟩ := exists_of_bind_eq_ok h
      obtain ⟨_, -, h⟩ := exists_of_bind_eq_ok h
      cases h
      have hrest := (Arguments.sublist_of_read houter).2 command rest rfl
      exact ⟨command, rest, inner, after, settled, hrest, hinner, hsettled, hrequest⟩

/-- Both names that are asked about stand on the line. -/
theorem names_sublist_of_ofWords {words : List String} {invocation : Invocation}
    {request : TracksRequest} (h : ofWords words = .ok invocation)
    (hrequest : invocation.request = .tracks request) :
    [request.branch, request.remote].Sublist words := by
  obtain ⟨command, rest, inner, after, settled, hrest, hread, hsettled, hof⟩ :=
    exists_read_of_ofWords h
  rw [hrequest] at hof
  obtain ⟨⟨taken, htaken, hinner⟩, -⟩ := Arguments.sublist_of_read hread
  have hsame : settled.operands = taken := by
    rw [Arguments.keepsOperands_settle inner settled hsettled, hinner]
    rfl
  rw [← operands_of_requestOf hof, hsame]
  exact htaken.trans hrest

end Invocation

end CommitHeader
