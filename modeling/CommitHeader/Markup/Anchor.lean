import CommitHeader.Text.Cut

/-!
# Anchors

An anchor is a target and the markup shown for it. It is written with the target between
apostrophes, taken verbatim. The reader takes the target up to the next apostrophe and the content
up to the next closing tag, and accepts nothing after it.
-/

namespace CommitHeader.Markup

/-- A link: where it leads and the markup shown for it. -/
structure Anchor where
  target : String
  content : String
deriving DecidableEq

namespace Anchor

/-- What stands before the target. -/
def opening : List Char := "<a href='".toList

/-- What stands after the apostrophe that ends the target. -/
def closing : List Char := "</a>".toList

def render (a : Anchor) : String :=
  "<a href='" ++ a.target ++ "'>" ++ a.content ++ "</a>"

/-- Reads a text that is one whole anchor. -/
def parse? (s : String) : Option Anchor := do
  let rest ← Text.dropLead? opening s.toList
  let (target, rest) ← Text.cutFirst? '\'' rest
  let rest ← Text.dropLead? ['>'] rest
  let (content, rest) ← Text.cutAt? closing rest
  if rest.isEmpty then some ⟨String.ofList target, String.ofList content⟩ else none

end Anchor

end CommitHeader.Markup
