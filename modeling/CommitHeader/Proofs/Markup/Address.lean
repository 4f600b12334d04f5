import CommitHeader.Markup.Link
import CommitHeader.Proofs.Text.Slice
import CommitHeader.Store.Person

/-!
# The address of a signature

The address stands between the first opening and the last closing bracket. Found by byte offsets it
is the same: both brackets are found in the whole text, and the slice between them exists exactly if
the opening one comes first. A signature made of a name and an address gives the address back if the
name brings in no opening bracket, whatever brackets the address holds.
-/

namespace CommitHeader.Markup

open String (utf8Len)

/-- A signature in three parts around an address that is not blank: no opening bracket before it and
no closing one after it. -/
structure Encloses (signature lead address rest : String) : Prop where
  eq : signature = lead ++ "<" ++ address ++ ">" ++ rest
  opening_not_mem : '<' ∉ lead.toList
  closing_not_mem : '>' ∉ rest.toList
  exists_ink : ∃ c ∈ address.toList, Text.isBlank c = false

theorem hasInk_iff {cs : List Char} : Text.hasInk cs = true ↔ ∃ c ∈ cs, Text.isBlank c = false := by
  simp [Text.hasInk]

theorem addressChars?_eq_some_iff {cs address : List Char} :
    addressChars? cs = some address ↔ ∃ lead rest, cs = lead ++ '<' :: (address ++ '>' :: rest) ∧
      '<' ∉ lead ∧ '>' ∉ rest ∧ Text.hasInk address = true := by
  constructor
  · intro h
    obtain ⟨⟨lead, after⟩, hopening, h⟩ := Option.bind_eq_some_iff.mp h
    obtain ⟨⟨found, rest⟩, hclosing, h⟩ := Option.bind_eq_some_iff.mp h
    dsimp only at h
    split_ifs at h with hink
    cases h
    obtain ⟨rfl, hlead⟩ := Text.cutFirst?_eq_some_iff.mp hopening
    obtain ⟨rfl, hrest⟩ := Text.cutLast?_eq_some_iff.mp hclosing
    exact ⟨lead, rest, rfl, hlead, hrest, hink⟩
  · rintro ⟨lead, rest, rfl, hlead, hrest, hink⟩
    have hopening : Text.cutFirst? '<' (lead ++ '<' :: (address ++ '>' :: rest)) =
        some (lead, address ++ '>' :: rest) :=
      Text.cutFirst?_eq_some_iff.mpr ⟨rfl, hlead⟩
    have hclosing : Text.cutLast? '>' (address ++ '>' :: rest) = some (address, rest) :=
      Text.cutLast?_eq_some_iff.mpr ⟨rfl, hrest⟩
    simp only [addressChars?, hopening, hclosing, Option.bind_eq_bind, Option.bind_some, hink,
      if_true]

theorem Encloses.toList_eq {signature lead address rest : String}
    (h : Encloses signature lead address rest) :
    signature.toList = lead.toList ++ '<' :: (address.toList ++ '>' :: rest.toList) := by
  rw [h.eq]
  simp

theorem address?_eq_some_iff {signature address : String} :
    address? signature = some address ↔ ∃ lead rest, Encloses signature lead address rest := by
  rw [address?, Option.map_eq_some_iff]
  constructor
  · rintro ⟨found, hfound, rfl⟩
    obtain ⟨lead, rest, hsplit, hlead, hrest, hink⟩ := addressChars?_eq_some_iff.mp hfound
    refine ⟨String.ofList lead, String.ofList rest, ?_, ?_, ?_, ?_⟩
    · apply String.toList_inj.mp
      rw [hsplit]
      simp
    · rwa [String.toList_ofList]
    · rwa [String.toList_ofList]
    · rw [String.toList_ofList]
      exact hasInk_iff.mp hink
  · rintro ⟨lead, rest, h⟩
    exact ⟨address.toList, addressChars?_eq_some_iff.mpr ⟨lead.toList, rest.toList, h.toList_eq,
      h.opening_not_mem, h.closing_not_mem, hasInk_iff.mpr h.exists_ink⟩, String.ofList_toList⟩

theorem Encloses.unique {signature lead address rest lead' address' rest' : String}
    (h : Encloses signature lead address rest) (h' : Encloses signature lead' address' rest') :
    lead = lead' ∧ address = address' ∧ rest = rest' := by
  have heq := h.toList_eq.symm.trans h'.toList_eq
  obtain ⟨hlead, hafter⟩ := (Text.append_mark_inj h.opening_not_mem h'.opening_not_mem).mp heq
  obtain ⟨haddress, hrest⟩ :=
    (Text.append_lastMark_inj h.closing_not_mem h'.closing_not_mem).mp hafter
  exact ⟨String.toList_inj.mp hlead, String.toList_inj.mp haddress, String.toList_inj.mp hrest⟩

/-! ## Byte offsets -/

theorem isSome_slice?_iff {signature : List Char} {start stop : Nat}
    (hstart : Text.firstOffset? '<' signature = some start)
    (hstop : Text.lastOffset? '>' signature = some stop) :
    (Text.slice? (start + 1) stop signature).isSome = true ↔ start < stop := by
  obtain ⟨lead, after, hopening, -, rfl⟩ := Text.firstOffset?_eq_some_iff.mp hstart
  obtain ⟨before, rest, hclosing, -, rfl⟩ := Text.lastOffset?_eq_some_iff.mp hstop
  have hmarks := Text.slice?_marks (by decide : '<' ≠ '>') (hopening.symm.trans hclosing)
  rw [← hopening] at hmarks
  rcases hmarks with ⟨part, -, -, hlt, hslice⟩ | ⟨part, -, -, hlt, hslice⟩
  · exact iff_of_true (Option.isSome_iff_exists.mpr ⟨part, hslice⟩) hlt
  · have hnone : Text.slice? (utf8Len lead + 1) (utf8Len before) signature = none := hslice
    rw [hnone]
    exact iff_of_false (by simp) (Nat.lt_asymm hlt)

theorem slicedAddress?_eq_some_iff {cs address : List Char} :
    slicedAddress? cs = some address ↔ ∃ lead rest, cs = lead ++ '<' :: (address ++ '>' :: rest) ∧
      '<' ∉ lead ∧ '>' ∉ rest ∧ Text.hasInk address = true := by
  constructor
  · intro h
    obtain ⟨start, hstart, h⟩ := Option.bind_eq_some_iff.mp h
    obtain ⟨stop, hstop, h⟩ := Option.bind_eq_some_iff.mp h
    obtain ⟨found, hfound, h⟩ := Option.bind_eq_some_iff.mp h
    split_ifs at h with hink
    cases h
    obtain ⟨lead, after, hopening, hlead, rfl⟩ := Text.firstOffset?_eq_some_iff.mp hstart
    obtain ⟨before, rest, hclosing, hrest, rfl⟩ := Text.lastOffset?_eq_some_iff.mp hstop
    have hmarks := Text.slice?_marks (by decide : '<' ≠ '>') (hopening.symm.trans hclosing)
    rw [← hopening] at hmarks
    -- Where the last closing bracket stands before the first opening one there is no slice.
    rcases hmarks with ⟨part, -, hafter, -, hslice⟩ | ⟨part, -, -, -, hslice⟩
    · obtain rfl := Option.some.inj (hslice.symm.trans hfound)
      exact ⟨lead, rest, by rw [hopening, hafter], hlead, hrest, hink⟩
    · cases hslice.symm.trans hfound
  · rintro ⟨lead, rest, rfl, hlead, hrest, hink⟩
    have hone : utf8Len (lead ++ ['<']) = utf8Len lead + 1 := String.utf8Len_append ..
    have hstart : Text.firstOffset? '<' (lead ++ '<' :: (address ++ '>' :: rest)) =
        some (utf8Len lead) :=
      Text.firstOffset?_eq_some_iff.mpr ⟨lead, _, rfl, hlead, rfl⟩
    have hstop : Text.lastOffset? '>' (lead ++ '<' :: (address ++ '>' :: rest)) =
        some (utf8Len lead + 1 + utf8Len address) := by
      apply Text.lastOffset?_eq_some_iff.mpr
      refine ⟨lead ++ ['<'] ++ address, rest, by simp, hrest, ?_⟩
      rw [String.utf8Len_append, hone]
    have hslice := Text.slice?_between (lead ++ ['<']) address ('>' :: rest)
    rw [hone, List.append_assoc, List.singleton_append] at hslice
    simp only [slicedAddress?, hstart, hstop, hslice, Option.bind_eq_bind, Option.bind_some, hink,
      if_true]

/-- Both are told by the same cut around the address. -/
theorem addressChars?_eq_slicedAddress? (signature : List Char) :
    addressChars? signature = slicedAddress? signature := by
  apply Option.ext
  intro address
  rw [addressChars?_eq_some_iff, slicedAddress?_eq_some_iff]

/-! ## Signatures of people -/

theorem address?_signature_iff {name email : String} :
    address? (name ++ " <" ++ email ++ ">") = some email ↔
      '<' ∉ name.toList ∧ ∃ c ∈ email.toList, Text.isBlank c = false := by
  have hwritten : (name ++ " <" ++ email ++ ">").toList =
      (name.toList ++ [' '] ++ '<' :: email.toList) ++ ['>'] := by
    simp
  rw [address?_eq_some_iff]
  constructor
  · rintro ⟨lead, rest, h⟩
    refine ⟨?_, h.exists_ink⟩
    have hfound : (name ++ " <" ++ email ++ ">").toList =
        (lead.toList ++ '<' :: email.toList) ++ '>' :: rest.toList := by
      rw [h.toList_eq]
      simp
    -- The last character is a closing bracket, so nothing stands behind the address.
    have hbefore := ((Text.append_lastMark_inj h.closing_not_mem List.not_mem_nil).mp
      (hfound.symm.trans hwritten)).1
    have hlead : lead.toList = name.toList ++ [' '] := List.append_cancel_right hbefore
    intro hname
    apply h.opening_not_mem
    rw [hlead]
    exact List.mem_append_left _ hname
  · rintro ⟨hname, hink⟩
    refine ⟨name ++ " ", "", ?_, ?_, List.not_mem_nil, hink⟩
    · apply String.toList_inj.mp
      simp
    · simpa using hname

/-- A signature has an address exactly if it can be cut around one that is not blank, without an
opening bracket before it and without a closing one after it; there is only one such cut. Byte
offsets lead to the same address, and the slice between the brackets fails only where the last
closing one stands before the first opening one. The signature of a person gives the address of that
person exactly if the name holds no opening bracket and the address is not blank. -/
theorem address_between_outer_brackets (signature : String) (person : Person) :
    (∀ address, address? signature = some address ↔
      ∃ lead rest, Encloses signature lead address rest) ∧
    (∀ lead address rest lead' address' rest', Encloses signature lead address rest →
      Encloses signature lead' address' rest' → lead = lead' ∧ address = address' ∧ rest = rest') ∧
    address? signature = (slicedAddress? signature.toList).map String.ofList ∧
    (∀ start stop, Text.firstOffset? '<' signature.toList = some start →
      Text.lastOffset? '>' signature.toList = some stop →
        ((Text.slice? (start + 1) stop signature.toList).isSome = true ↔ start < stop)) ∧
    (address? person.signature = some (Text.Utf8.decodeLossy person.email) ↔
      '<' ∉ (Text.Utf8.decodeLossy person.name).toList ∧
        ∃ c ∈ (Text.Utf8.decodeLossy person.email).toList, Text.isBlank c = false) := by
  refine ⟨fun _ => address?_eq_some_iff, fun _ _ _ _ _ _ => Encloses.unique, ?_,
    fun _ _ => isSome_slice?_iff, address?_signature_iff⟩
  rw [address?, addressChars?_eq_slicedAddress?]

/-- Brackets in an address of two-byte letters, crossed brackets around them, and a name that is
no UTF-8. -/
theorem address_between_outer_brackets_sample :
    let signature := "\u00e9>\u00e9 <\u00e9<>\u00e9>\u00e9"
    let person : Person := ⟨[0xe9, 0x3e], [0xc3, 0xa9, 0x3e, 0x3c], 0, 0⟩
    Encloses signature "\u00e9>\u00e9 " "\u00e9<>\u00e9" "\u00e9" ∧
      (∀ lead address rest, Encloses signature lead address rest →
        address = "\u00e9<>\u00e9") ∧
      address? signature = some "\u00e9<>\u00e9" ∧
      Text.firstOffset? '<' signature.toList = some 6 ∧
      Text.lastOffset? '>' signature.toList = some 13 ∧
      (Text.slice? 7 13 signature.toList).isSome = true ∧
      person.signature = "\ufffd> <\u00e9><>" ∧
      address? person.signature = some "\u00e9><" := by
  intro signature person
  obtain ⟨haddress, hunique, -, hslice, hperson⟩ := address_between_outer_brackets signature person
  have hencloses : Encloses signature "\u00e9>\u00e9 " "\u00e9<>\u00e9" "\u00e9" :=
    ⟨by decide +kernel, by decide +kernel, by decide +kernel, '<', by decide +kernel,
      by decide +kernel⟩
  have hstart : Text.firstOffset? '<' signature.toList = some 6 := by decide +kernel
  have hstop : Text.lastOffset? '>' signature.toList = some 13 := by decide +kernel
  have hemail : Text.Utf8.decodeLossy person.email = "\u00e9><" := by decide +kernel
  refine ⟨hencloses, ?_, (haddress _).mpr ⟨_, _, hencloses⟩, hstart, hstop,
    (hslice 6 13 hstart hstop).mpr (by decide), by decide +kernel, ?_⟩
  · intro lead address rest hother
    exact (hunique _ _ _ _ _ _ hother hencloses).2.1
  · rw [← hemail]
    exact hperson.mpr ⟨by decide +kernel, '<', by decide +kernel, by decide +kernel⟩

end CommitHeader.Markup
