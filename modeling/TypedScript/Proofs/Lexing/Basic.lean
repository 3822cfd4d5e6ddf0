import TypedScript.Token.Lexer

/-!
One step of a lexer, case by case: what the next token is, and what it adds to the tokens of the
whole text.
-/

namespace TypedScript.Lexer

variable {lexer after : Lexer} {token : Token}

theorem next_of_end (finished : lexer.gap.rest = []) :
    lexer.next = .ok (⟨.endOfFile, "", lexer.gap.position, lexer.gap.position.offset,
      lexer.gap.brokeLine, false⟩, { lexer with rest := [], position := lexer.gap.position }) := by
  unfold next
  dsimp only
  rw [finished]

theorem next_of_fault {first : Char} {rest : List Char} {fault : LexicalFault}
    (shape : lexer.gap.rest = first :: rest)
    (failed : Scan.scan lexer.keywords first rest lexer.gap.position = .error fault) :
    lexer.next = .error ⟨fault, lexer.gap.position⟩ := by
  unfold next
  dsimp only
  rw [shape]
  dsimp only
  rw [failed]

theorem next_of_scan {first : Char} {rest : List Char} {scanned : Scanned}
    (shape : lexer.gap.rest = first :: rest)
    (found : Scan.scan lexer.keywords first rest lexer.gap.position = .ok scanned) :
    lexer.next = .ok (⟨scanned.kind, String.ofList scanned.text, lexer.gap.position,
      scanned.after.offset, lexer.gap.brokeLine, scanned.hasEscape⟩,
      { lexer with rest := scanned.rest, position := scanned.after }) := by
  unfold next
  dsimp only
  rw [shape]
  dsimp only
  rw [found]

theorem ofChars_cases (keywords : KeywordSet) (chars : List Char) :
    (∃ tail, chars = '#' :: '!' :: tail ∧ ofChars keywords chars =
      ⟨keywords, chars.dropWhile (!isLineTerminator ·),
        Position.origin.steps (chars.takeWhile (!isLineTerminator ·))⟩) ∨
    (∀ tail, chars ≠ '#' :: '!' :: tail) ∧ ofChars keywords chars = ⟨keywords, chars, .origin⟩ := by
  unfold ofChars
  split
  · next tail => exact .inl ⟨tail, rfl, rfl⟩
  · next noLine => exact .inr ⟨noLine, rfl⟩

theorem ofSource_plain (keywords : KeywordSet) {source : String}
    (noLine : ¬['#', '!'] <+: source.toList) :
    ofSource keywords source = ⟨keywords, source.toList, .origin⟩ := by
  rcases ofChars_cases keywords source.toList with ⟨tail, shape, _⟩ | ⟨_, plain⟩
  · rw [shape] at noLine
    exact absurd ⟨tail, rfl⟩ noLine
  · exact plain

theorem next_cases (lexer : Lexer) :
    lexer.gap.rest = [] ∨
    (∃ first rest fault, lexer.gap.rest = first :: rest ∧
      Scan.scan lexer.keywords first rest lexer.gap.position = .error fault) ∨
    ∃ first rest scanned, lexer.gap.rest = first :: rest ∧
      Scan.scan lexer.keywords first rest lexer.gap.position = .ok scanned := by
  cases shape : lexer.gap.rest with
  | nil => exact .inl rfl
  | cons first rest =>
      cases found : Scan.scan lexer.keywords first rest lexer.gap.position with
      | error fault => exact .inr (.inl ⟨first, rest, fault, rfl, found⟩)
      | ok scanned => exact .inr (.inr ⟨first, rest, scanned, rfl, found⟩)

theorem next_eq_ok (found : lexer.next = .ok (token, after)) (more : token.kind ≠ .endOfFile) :
    ∃ first rest scanned, lexer.gap.rest = first :: rest ∧
      Scan.scan lexer.keywords first rest lexer.gap.position = .ok scanned ∧
      token = ⟨scanned.kind, String.ofList scanned.text, lexer.gap.position, scanned.after.offset,
        lexer.gap.brokeLine, scanned.hasEscape⟩ ∧
      after = { lexer with rest := scanned.rest, position := scanned.after } := by
  rcases lexer.next_cases with finished | ⟨_, _, _, shape, failed⟩ |
    ⟨first, rest, scanned, shape, scans⟩
  · cases found.symm.trans (next_of_end finished)
    exact absurd rfl more
  · cases found.symm.trans (next_of_fault shape failed)
  · cases found.symm.trans (next_of_scan shape scans)
    exact ⟨first, rest, scanned, shape, scans, rfl, rfl⟩

theorem next_start (found : lexer.next = .ok (token, after)) :
    token.start = lexer.gap.position.offset := by
  rcases lexer.next_cases with finished | ⟨_, _, _, shape, failed⟩ | ⟨_, _, _, shape, scans⟩
  · cases found.symm.trans (next_of_end finished)
    rfl
  · cases found.symm.trans (next_of_fault shape failed)
  · cases found.symm.trans (next_of_scan shape scans)
    rfl

theorem run_of_fault {error : LexicalError} (failed : lexer.next = .error error) :
    lexer.run.tokens = [] ∧ lexer.run.ending = .failure error := by
  fun_cases run lexer with
  | case1 other found =>
      cases failed.symm.trans found
      exact ⟨rfl, rfl⟩
  | case2 _ _ found => cases failed.symm.trans found
  | case3 _ _ found => cases failed.symm.trans found

theorem run_of_end (found : lexer.next = .ok (token, after)) (last : token.kind = .endOfFile) :
    lexer.run.tokens = [] ∧ lexer.run.ending = .endOfFile token := by
  fun_cases run lexer with
  | case1 _ failed => cases found.symm.trans failed
  | case2 _ _ otherFound =>
      cases found.symm.trans otherFound
      exact ⟨rfl, rfl⟩
  | case3 _ _ otherFound more =>
      cases found.symm.trans otherFound
      exact absurd last more

theorem run_of_token (found : lexer.next = .ok (token, after)) (more : token.kind ≠ .endOfFile) :
    lexer.run.tokens = token :: after.run.tokens ∧ lexer.run.ending = after.run.ending := by
  fun_cases run lexer with
  | case1 _ failed => cases found.symm.trans failed
  | case2 _ _ otherFound last =>
      cases found.symm.trans otherFound
      exact absurd last more
  | case3 _ _ otherFound =>
      cases found.symm.trans otherFound
      exact ⟨rfl, rfl⟩

theorem withEnd_of_token (found : lexer.next = .ok (token, after))
    (more : token.kind ≠ .endOfFile) : lexer.run.withEnd = token :: after.run.withEnd := by
  rw [Lexed.withEnd, Lexed.withEnd, (run_of_token found more).1, (run_of_token found more).2]
  cases after.run.ending with
  | endOfFile => rfl
  | failure => rfl

theorem mem_withEnd (member : token ∈ lexer.run.withEnd) :
    ∃ first after, lexer.next = .ok (first, after) ∧
      (token = first ∨ first.kind ≠ .endOfFile ∧ token ∈ after.run.withEnd) := by
  cases found : lexer.next with
  | error error =>
      rw [Lexed.withEnd, (run_of_fault found).1, (run_of_fault found).2] at member
      cases member
  | ok step =>
      rcases step with ⟨first, after⟩
      refine ⟨first, after, rfl, ?_⟩
      by_cases last : first.kind = .endOfFile
      · rw [Lexed.withEnd, (run_of_end found last).1, (run_of_end found last).2] at member
        exact .inl (List.mem_singleton.mp member)
      · rw [withEnd_of_token found last] at member
        exact (List.mem_cons.mp member).imp_right fun later => ⟨last, later⟩

theorem run_of_next_eq {other : Lexer} (same : lexer.next = other.next) :
    lexer.run.tokens = other.run.tokens ∧ lexer.run.ending = other.run.ending := by
  cases found : other.next with
  | error error =>
      rw [(run_of_fault found).1, (run_of_fault found).2]
      exact run_of_fault (same.trans found)
  | ok step =>
      rcases step with ⟨token, after⟩
      by_cases last : token.kind = .endOfFile
      · rw [(run_of_end found last).1, (run_of_end found last).2]
        exact run_of_end (same.trans found) last
      · rw [(run_of_token found last).1, (run_of_token found last).2]
        exact run_of_token (same.trans found) last

end TypedScript.Lexer
