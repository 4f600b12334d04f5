import CommitHeader.Markup.Link
import CommitHeader.Proofs.Markup.Entity
import CommitHeader.Proofs.ObjectId
import CommitHeader.Proofs.Text.Cut
import CommitHeader.Settings

/-!
# Anchors read back

Whatever is read as the target of an anchor ends before the first apostrophe. An anchor with content
free of markup is therefore read back exactly if its target holds no apostrophe. Signatures and ids
make such content, so only an address or a scheme with an apostrophe ends its target too early.
-/

namespace CommitHeader.Markup

namespace Anchor

theorem parse?_render {anchor : Anchor} (htarget : '\'' ∉ anchor.target.toList)
    (hcontent : '<' ∉ anchor.content.toList) : parse? anchor.render = some anchor := by
  let afterBracket := anchor.content.toList ++ (closing ++ [])
  let afterTarget := '>' :: afterBracket
  have htext : anchor.render.toList =
      opening ++ (anchor.target.toList ++ '\'' :: afterTarget) := by
    simp only [render, String.toList_append, List.append_assoc, afterTarget, afterBracket,
      List.append_nil]
    rfl
  have hopening : Text.dropLead? opening anchor.render.toList =
      some (anchor.target.toList ++ '\'' :: afterTarget) :=
    Text.dropLead?_eq_some_iff.mpr htext
  have hquote : Text.cutFirst? '\'' (anchor.target.toList ++ '\'' :: afterTarget) =
      some (anchor.target.toList, afterTarget) :=
    Text.cutFirst?_eq_some_iff.mpr ⟨rfl, htarget⟩
  have hbracket : Text.dropLead? ['>'] afterTarget = some afterBracket := rfl
  have hclosing : Text.cutAt? closing afterBracket = some (anchor.content.toList, []) :=
    Text.cutAt?_append hcontent "/a>".toList []
  unfold parse?
  simp only [hopening, hquote, hbracket, hclosing, Option.bind_eq_bind, Option.bind_some,
    List.isEmpty_nil, if_true, String.ofList_toList]

theorem apostrophe_not_mem_of_parse? {s : String} {anchor : Anchor} (h : parse? s = some anchor) :
    '\'' ∉ anchor.target.toList := by
  obtain ⟨afterOpening, -, h⟩ := Option.bind_eq_some_iff.mp h
  obtain ⟨⟨target, afterTarget⟩, htarget, h⟩ := Option.bind_eq_some_iff.mp h
  obtain ⟨afterBracket, -, h⟩ := Option.bind_eq_some_iff.mp h
  obtain ⟨⟨content, rest⟩, -, h⟩ := Option.bind_eq_some_iff.mp h
  dsimp only at h
  split_ifs at h
  cases h
  rw [String.toList_ofList]
  exact (Text.cutFirst?_eq_some_iff.mp htarget).2

theorem parse?_render_iff {anchor : Anchor} (hcontent : '<' ∉ anchor.content.toList) :
    parse? anchor.render = some anchor ↔ '\'' ∉ anchor.target.toList :=
  ⟨apostrophe_not_mem_of_parse?, fun htarget => parse?_render htarget hcontent⟩

end Anchor

theorem apostrophe_not_mem_append {lead rest : String} (hlead : '\'' ∉ lead.toList) :
    '\'' ∉ (lead ++ rest).toList ↔ '\'' ∉ rest.toList := by
  simp [hlead]

/-- The target of a mail link ends with its address, and what is shown stands for the signature,
exactly if the address holds no apostrophe; the rest of a signature makes no difference. A commit
link is read back exactly if its scheme holds none. -/
theorem anchors_read_back (signature address scheme : String) (id : ObjectId)
    (haddress : address? signature = some address) :
    ((∃ content, Anchor.parse? (signatureMarkup signature) =
          some ⟨"mailto:" ++ address, content⟩ ∧ Entity.decode content = signature) ↔
        '\'' ∉ address.toList) ∧
      (Anchor.parse? (commitLink scheme id id.short).render =
          some ⟨scheme ++ id.hex, id.short⟩ ↔ '\'' ∉ scheme.toList) := by
  have hmarkup : signatureMarkup signature = (mailLink signature address).render := by
    rw [signatureMarkup, haddress]
  have hencoded : '<' ∉ (Entity.encode signature).toList :=
    Entity.not_mem_encode (by decide) (Or.inl (by decide))
  have hmail : '\'' ∉ ("mailto:" ++ address).toList ↔ '\'' ∉ address.toList :=
    apostrophe_not_mem_append (by decide)
  refine ⟨⟨?_, ?_⟩, ?_⟩
  · rintro ⟨content, hparse, -⟩
    exact hmail.mp (Anchor.apostrophe_not_mem_of_parse? hparse)
  · intro hquote
    refine ⟨Entity.encode signature, ?_, Entity.decode_encode signature⟩
    rw [hmarkup]
    exact Anchor.parse?_render (hmail.mpr hquote) hencoded
  · have hid : '\'' ∉ id.hex.toList := id.not_mem_hex (by decide)
    have hshort : '<' ∉ id.short.toList := id.not_mem_short (by decide)
    have htarget : '\'' ∉ (scheme ++ id.hex).toList ↔ '\'' ∉ scheme.toList := by
      simp [hid]
    rw [← htarget]
    exact Anchor.parse?_render_iff hshort

/-- Brackets, quotation marks and ampersands within a signature, some of them in its address. -/
theorem anchors_read_back_sample :
    let signature := "A 'B' & \"C\" <d&e>f <g@h.i>"
    address? signature = some "d&e>f <g@h.i" ∧
      ∃ content, Anchor.parse? (signatureMarkup signature) =
        some ⟨"mailto:d&e>f <g@h.i", content⟩ ∧ Entity.decode content = signature := by
  intro signature
  have haddress : address? signature = some "d&e>f <g@h.i" := by decide +kernel
  have hread := anchors_read_back signature "d&e>f <g@h.i" defaultCommitScheme (.repeated 1) haddress
  exact ⟨haddress, hread.1.mpr (by decide +kernel)⟩

/-- An apostrophe in an address ends the target there. The remainder may even look like the end of
the opening tag, and then another target is read. A scheme without faults can hold an apostrophe
too. -/
theorem apostrophe_ends_target :
    address? "A <o'b@c.d>" = some "o'b@c.d" ∧
      Anchor.parse? (signatureMarkup "A <o'b@c.d>") = none ∧
      address? "A <b'>c>" = some "b'>c" ∧
      Anchor.parse? (signatureMarkup "A <b'>c>") =
        some ⟨"mailto:b", "c'>A &lt;b&#39;&gt;c&gt;"⟩ ∧
      ({ scheme := "go:'" } : Settings).fault? = none ∧
      Anchor.parse? (commitLink "go:'" (.repeated 1) (ObjectId.repeated 1).short).render = none := by
  decide +kernel

end CommitHeader.Markup
