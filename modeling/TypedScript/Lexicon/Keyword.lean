/-!
Reserved words. Which of them are reserved is an option of the lexer; a word that is not reserved
is a plain name.
-/

namespace TypedScript

inductive Keyword where
  | constWord
  | exportWord
  | functionWord
  | importWord
  | interfaceWord
  | newWord
  | returnWord
  | typeWord
deriving DecidableEq, Repr

namespace Keyword

def spelling : Keyword → String
  | .constWord => "const"
  | .exportWord => "export"
  | .functionWord => "function"
  | .importWord => "import"
  | .interfaceWord => "interface"
  | .newWord => "new"
  | .returnWord => "return"
  | .typeWord => "type"

def name : Keyword → String
  | .constWord => "ConstKeyword"
  | .exportWord => "ExportKeyword"
  | .functionWord => "FunctionKeyword"
  | .importWord => "ImportKeyword"
  | .interfaceWord => "InterfaceKeyword"
  | .newWord => "NewKeyword"
  | .returnWord => "ReturnKeyword"
  | .typeWord => "TypeKeyword"

def all : List Keyword := [
    .constWord, .exportWord, .functionWord, .importWord, .interfaceWord, .newWord, .returnWord,
    .typeWord]

theorem mem_all (word : Keyword) : word ∈ all := by
  cases word <;> decide

def ofSpelling? (text : String) : Option Keyword :=
  all.find? (·.spelling == text)

def flag (word : Keyword) : Nat :=
  Nat.pow 2 (all.idxOf word)

end Keyword

structure KeywordSet where
  reserves : Keyword → Bool

namespace KeywordSet

def full : KeywordSet :=
  ⟨fun _ => true⟩

def empty : KeywordSet :=
  ⟨fun _ => false⟩

def insert (set : KeywordSet) (word : Keyword) : KeywordSet :=
  ⟨fun other => other == word || set.reserves other⟩

def toList (set : KeywordSet) : List Keyword :=
  Keyword.all.filter set.reserves

def bits (set : KeywordSet) : Nat :=
  set.toList.foldr (fun word others => word.flag + others) 0

def lookup (set : KeywordSet) (text : String) : Option Keyword :=
  (Keyword.ofSpelling? text).filter set.reserves

theorem lookup_spelling {set : KeywordSet} {word : Keyword} (reserved : set.reserves word = true) :
    set.lookup word.spelling = some word := by
  cases word <;>
    simp [lookup, Keyword.ofSpelling?, Keyword.all, Keyword.spelling, reserved]

theorem of_lookup {set : KeywordSet} {text : String} {word : Keyword}
    (found : set.lookup text = some word) : text = word.spelling ∧ set.reserves word = true := by
  obtain ⟨found, reserved⟩ := Option.filter_eq_some_iff.mp found
  have same := List.find?_some found
  exact ⟨(beq_iff_eq.mp same).symm, reserved⟩

/-- The set of the words with the given spellings, or the first spelling that is no reserved
word's. -/
def ofSpellings : List String → Except String KeywordSet
  | [] => .ok empty
  | spelling :: rest =>
      match Keyword.ofSpelling? spelling with
      | none => .error spelling
      | some word => (ofSpellings rest).map (·.insert word)

end KeywordSet

end TypedScript
