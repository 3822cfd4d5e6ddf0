import TypedScript.Lexicon.Keyword

/-!
Options for reading a text.
-/

namespace TypedScript

/-- How deep types and expressions may nest, and which words are reserved. -/
structure ParseOptions where
  nestingLimit : Nat
  keywords : KeywordSet

namespace ParseOptions

def greatestLimit : Nat := 1000

def default : ParseOptions :=
  ⟨100, .full⟩

def withLimit (options : ParseOptions) (limit : Nat) : ParseOptions :=
  { options with nestingLimit := max 1 (min limit greatestLimit) }

def withKeywords (options : ParseOptions) (keywords : KeywordSet) : ParseOptions :=
  { options with keywords }

end ParseOptions

end TypedScript
