import TypedScript.Proofs.Checked.Bytes

/-!
The first line terminator of a text. Main statement: a search among the bytes finds the first
character that ends a line, together with the line feed after a carriage return, and what it finds
begins and ends between characters. The bytes of a character that ends no line, which may begin like
those of one that does, are passed over.
-/

namespace TypedScript

/-- A place between two characters of a text, or at one of its ends, parts the text. -/
theorem isValid_iff_split {text : String} {offset : Nat} :
    (String.Pos.Raw.mk offset).IsValid text ↔
      ∃ before after, text.toList = before ++ after ∧ byteLength before = offset := by
  rw [String.Pos.Raw.isValid_iff_exists_append]
  constructor
  · rintro ⟨before, after, rfl, place⟩
    refine ⟨before.toList, after.toList, String.toList_append, ?_⟩
    rw [byteLength_toList]
    exact (congrArg String.Pos.Raw.byteIdx place).symm
  · rintro ⟨before, after, whole, rfl⟩
    refine ⟨String.ofList before, String.ofList after, ?_, ?_⟩
    · rw [← String.ofList_append, ← whole, String.ofList_toList]
    · rw [← utf8ByteSize_ofList]
      rfl

namespace LineBreak

structure Found.IsFirst (found : Found) (text : String) : Prop where
  first : ∃ line char rest, text.toList = line ++ char :: rest ∧
    (∀ other ∈ line, isLineTerminator other = false) ∧ isLineTerminator char = true ∧
    found.offset = byteLength line ∧
    found.width = if char = '\r' ∧ rest.head? = some '\n' then 2 else char.utf8Size
  start : (String.Pos.Raw.mk found.offset).IsValid text
  stop : (String.Pos.Raw.mk (found.offset + found.width)).IsValid text

theorem Found.isFirst_of_lineEnd {text : String} {line terminator rest : List Char}
    (whole : text.toList = line ++ (terminator ++ rest))
    (oneLine : ∀ char ∈ line, isLineTerminator char = false) (ends : LineEnd terminator rest) :
    Found.IsFirst ⟨byteLength line, byteLength terminator⟩ text where
  first := by
    cases ends with
    | both => exact ⟨line, '\r', '\n' :: rest, whole, oneLine, rfl, rfl, rfl⟩
    | @single char _ terminates alone =>
        refine ⟨line, char, rest, whole, oneLine, terminates, rfl, ?_⟩
        rw [if_neg fun both => alone both.1 both.2]
        rfl
  start := isValid_iff_split.mpr ⟨line, terminator ++ rest, whole, rfl⟩
  stop := isValid_iff_split.mpr
    ⟨line ++ terminator, rest, by rw [whole, List.append_assoc], byteLength_append line terminator⟩

/-- The bytes of a text hold no terminator if no character ends a line, and otherwise the first is
found. -/
theorem find?_text (text : String) :
    (find? text.toUTF8.toList = none ∧ ∀ char ∈ text.toList, isLineTerminator char = false) ∨
      ∃ found : Found, find? text.toUTF8.toList = some found ∧ found.IsFirst text := by
  have bytes : text.toUTF8.toList = encoded text.toList := toUTF8_toList text
  rcases find?_encoded text.toList with none | ⟨line, terminator, rest, whole, oneLine, ends, found⟩
  · exact .inl (bytes ▸ none)
  · exact .inr ⟨_, bytes ▸ found, Found.isFirst_of_lineEnd whole oneLine ends⟩

/-- The search finds nothing exactly if no character ends a line, and otherwise the first that
does. -/
theorem find?_first_terminator (text : String) :
    search text.toUTF8.toList 0 = some (find? text.toUTF8.toList) ∧
      (find? text.toUTF8.toList = none ↔ ∀ char ∈ text.toList, isLineTerminator char = false) ∧
      ∀ found, find? text.toUTF8.toList = some found → found.IsFirst text := by
  refine ⟨search_eq_find? _, ?_⟩
  rcases find?_text text with ⟨none, oneLine⟩ | ⟨found, isFound, isFirst⟩
  · refine ⟨iff_of_true none oneLine, fun found isFound => ?_⟩
    cases none.symm.trans isFound
  · rcases isFirst.first with ⟨line, char, rest, whole, _, terminates, _⟩
    have member : char ∈ text.toList := by simp [whole]
    refine ⟨iff_of_false (fun none => ?_) fun oneLine => ?_, fun other isOther => ?_⟩
    · cases isFound.symm.trans none
    · cases (oneLine char member).symm.trans terminates
    · cases isFound.symm.trans isOther
      exact isFirst

/-- The bytes of an ellipsis begin like those of a separator. -/
theorem find?_first_terminator_ellipsis :
    find? "\u2026é\r\nx\u2028".toUTF8.toList = some ⟨5, 2⟩ ∧
      Found.IsFirst ⟨5, 2⟩ "\u2026é\r\nx\u2028" := by
  have found : find? "\u2026é\r\nx\u2028".toUTF8.toList = some ⟨5, 2⟩ := by decide +kernel
  exact ⟨found, (find?_first_terminator _).2.2 _ found⟩

end LineBreak

end TypedScript
