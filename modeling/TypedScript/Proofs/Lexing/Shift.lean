import TypedScript.Proofs.Lexing.Basic
import TypedScript.Proofs.TokenOrder
import TypedScript.Proofs.TwoRuns.Basic

/-!
Reading the same characters from another place. Where a text begins matters to the places of its
tokens and to nothing else about them.
-/

namespace TypedScript

namespace Trivia

theorem skip_anywhere (mode : Mode) (chars : List Char) (here there : Position) (broke : Bool) :
    (skip mode chars there broke).rest = (skip mode chars here broke).rest ∧
      (skip mode chars there broke).brokeLine = (skip mode chars here broke).brokeLine := by
  fun_induction skip mode chars here broke generalizing there with
  | case1 => simp [skip]
  | case2 mode rest here broke induction =>
      simp only [skip]
      exact induction _
  | case3 rest here broke induction =>
      simp only [skip]
      exact induction _
  | case4 rest here broke induction =>
      simp only [skip]
      exact induction _
  | case5 rest here broke induction =>
      simp only [skip]
      exact induction _
  | case6 mode char rest here broke noBreak noLine noBlock noClose terminates induction =>
      rw [skip.eq_6 _ _ _ _ _ noBreak noLine noBlock noClose, if_pos terminates]
      exact induction _
  | case7 mode char rest here broke noBreak noLine noBlock noClose goesOn skipped induction =>
      rw [skip.eq_6 _ _ _ _ _ noBreak noLine noBlock noClose, if_neg goesOn, if_pos skipped]
      exact induction _
  | case8 mode char rest here broke noBreak noLine noBlock noClose goesOn stops =>
      rw [skip.eq_6 _ _ _ _ _ noBreak noLine noBlock noClose, if_neg goesOn, if_neg stops]
      exact ⟨rfl, rfl⟩

end Trivia

namespace Scan

theorem stringTail?_anywhere {quote : Char} {chars : List Char} {here : Position}
    {tail : StringTail} (found : stringTail? quote chars here = some tail) (there : Position) :
    ∃ after, stringTail? quote chars there = some { tail with after := after } := by
  fun_induction stringTail? quote chars here generalizing tail there with
  | case1 => cases found
  | case2 rest here induction =>
      rcases Option.map_eq_some_iff.mp found with ⟨inner, innerFound, rfl⟩
      rcases induction innerFound ((there.step '\\').newLine 2) with ⟨after, other⟩
      exact ⟨after, by rw [stringTail?, other]; rfl⟩
  | case3 char rest here noBreak induction =>
      rcases Option.map_eq_some_iff.mp found with ⟨inner, innerFound, rfl⟩
      rcases induction innerFound (afterEscape there char) with ⟨after, other⟩
      exact ⟨after, by rw [stringTail?.eq_3 _ _ _ _ noBreak, other]; rfl⟩
  | case4 char rest here noBreak noEscape closes =>
      cases found
      exact ⟨there.step char, by rw [stringTail?.eq_4 _ _ _ _ noBreak noEscape, if_pos closes]⟩
  | case5 => cases found
  | case6 char rest here noBreak noEscape unclosed goesOn induction =>
      rcases Option.map_eq_some_iff.mp found with ⟨inner, innerFound, rfl⟩
      rcases induction innerFound (there.step char) with ⟨after, other⟩
      refine ⟨after, ?_⟩
      rw [stringTail?.eq_4 _ _ _ _ noBreak noEscape, if_neg unclosed, if_neg goesOn, other]
      rfl

theorem scan_anywhere (keywords : KeywordSet) (first : Char) (rest : List Char)
    (here there : Position) :
    (∃ fault, scan keywords first rest here = .error fault ∧
      scan keywords first rest there = .error fault) ∨
    ∃ scanned after, scan keywords first rest here = .ok scanned ∧
      scan keywords first rest there = .ok { scanned with after := after } := by
  simp only [scan_eq]
  split
  · cases found : stringTail? first rest (here.step first) with
    | some tail =>
        rcases stringTail?_anywhere found (there.step first) with ⟨after, other⟩
        rw [other]
        exact .inr ⟨_, after, rfl, rfl⟩
    | none =>
        cases other : stringTail? first rest (there.step first) with
        | none => exact .inl ⟨_, rfl, rfl⟩
        | some tail =>
            rcases stringTail?_anywhere other (here.step first) with ⟨after, contrary⟩
            rw [found] at contrary
            cases contrary
  · split
    · exact .inr ⟨_, _, rfl, rfl⟩
    · split
      · split
        · exact .inl ⟨_, rfl, rfl⟩
        · exact .inr ⟨_, _, rfl, rfl⟩
      · exact .inr ⟨_, _, rfl, rfl⟩

end Scan

/-- Offsets of the same place in two texts, the second of which begins `amount` later. -/
def Later (amount offset other : Nat) : Prop :=
  other = offset + amount

namespace Lexer

variable {amount : Nat} {lexer other : Lexer}

theorem gap_later (rest : other.rest = lexer.rest)
    (later : Later amount lexer.position.offset other.position.offset) :
    other.gap.rest = lexer.gap.rest ∧ other.gap.brokeLine = lexer.gap.brokeLine ∧
      Later amount lexer.gap.position.offset other.gap.position.offset := by
  have offset := lexer.gap_offset
  have otherOffset := other.gap_offset
  have same := Trivia.skip_anywhere .plain lexer.rest lexer.position other.position false
  rw [← rest] at same
  have sameRest : other.gap.rest = lexer.gap.rest := by
    rw [gap, gap, same.1, rest]
  have sameBreaks : other.gap.brokeLine = lexer.gap.brokeLine := by
    rw [gap, gap, same.2, rest]
  refine ⟨sameRest, sameBreaks, ?_⟩
  rw [sameRest] at otherOffset
  simp only [Later, limit, rest] at *
  omega

theorem next_later (keywords : other.keywords = lexer.keywords) (rest : other.rest = lexer.rest)
    (later : Later amount lexer.position.offset other.position.offset) :
    (∃ error otherError, lexer.next = .error error ∧ other.next = .error otherError ∧
      error.fault = otherError.fault) ∨
    ∃ token otherToken after otherAfter, lexer.next = .ok (token, after) ∧
      other.next = .ok (otherToken, otherAfter) ∧ token.Alike (Later amount) otherToken ∧
      otherAfter.keywords = after.keywords ∧ otherAfter.rest = after.rest ∧
      Later amount after.position.offset otherAfter.position.offset := by
  rcases gap_later rest later with ⟨sameRest, sameBreaks, place⟩
  cases shape : lexer.gap.rest with
  | nil =>
      refine .inr ⟨_, _, _, _, next_of_end shape, next_of_end (sameRest.trans shape), ?_, keywords,
        rfl, place⟩
      exact ⟨rfl, rfl, sameBreaks.symm, rfl, place, place⟩
  | cons first chars =>
      have otherShape := sameRest.trans shape
      rcases Scan.scan_anywhere lexer.keywords first chars lexer.gap.position other.gap.position
        with ⟨fault, failed, otherFailed⟩ | ⟨scanned, stop, found, otherFound⟩
      · rw [← keywords] at otherFailed
        exact .inl ⟨_, _, next_of_fault shape failed, next_of_fault otherShape otherFailed, rfl⟩
      · have offset := Scan.scan_offset found
        have otherOffset := Scan.scan_offset otherFound
        have ends : Later amount scanned.after.offset stop.offset := by
          simp only [Later] at *
          omega
        rw [← keywords] at otherFound
        refine .inr ⟨_, _, _, _, next_of_scan shape found, next_of_scan otherShape otherFound, ?_,
          keywords, rfl, ends⟩
        exact ⟨rfl, rfl, sameBreaks.symm, rfl, place, ends⟩

theorem run_later (lexer : Lexer) (amount : Nat) (cut : Prop) :
    ∀ other : Lexer, other.keywords = lexer.keywords → other.rest = lexer.rest →
      Later amount lexer.position.offset other.position.offset →
      GoOnAlike (Later amount) cut lexer.run.tokens lexer.run.ending other.run.tokens
        other.run.ending := by
  fun_induction run lexer with
  | case1 lexer error failed =>
      intro other keywords rest later
      rcases next_later keywords rest later with ⟨_, otherError, failing, otherFailed, fault⟩ |
        ⟨_, _, _, _, found, _⟩
      · cases failed.symm.trans failing
        rw [(run_of_fault otherFailed).1, (run_of_fault otherFailed).2]
        exact .ending (.failure fault)
      · cases failed.symm.trans found
  | case2 lexer token after found last =>
      intro other keywords rest later
      rcases next_later keywords rest later with ⟨_, _, failed, _⟩ |
        ⟨_, otherToken, _, _, again, otherFound, alike, _⟩
      · cases found.symm.trans failed
      · cases found.symm.trans again
        have otherLast : otherToken.kind = .endOfFile := alike.kind.symm.trans last
        rw [(run_of_end otherFound otherLast).1, (run_of_end otherFound otherLast).2]
        exact .ending (.endOfFile alike)
  | case3 lexer token after found more tail induction =>
      intro other keywords rest later
      rcases next_later keywords rest later with ⟨_, _, failed, _⟩ |
        ⟨_, otherToken, _, otherAfter, again, otherFound, alike, sameKeywords, sameRest, ends⟩
      · cases found.symm.trans failed
      · cases found.symm.trans again
        have otherMore : otherToken.kind ≠ .endOfFile := by
          rw [← alike.kind]
          exact more
        rw [(run_of_token otherFound otherMore).1, (run_of_token otherFound otherMore).2]
        exact .token alike (induction otherAfter sameKeywords sameRest ends)

end Lexer

/-- A text beside another one that goes on like it after some tokens, `amount` later. -/
def TwoRuns.ofLater {left right : Lexed} {amount : Nat} (limit passed : Nat)
    (goOn : GoOnAlike (Later amount) False left.tokens left.ending (right.tokens.drop passed)
      right.ending)
    (before : ((Cursor.ofLexed right).skip passed).lastStop ≤ amount) : TwoRuns where
  left := left
  right := right
  passed := 0
  otherPassed := passed
  Offsets := Later amount
  move := (· + amount)
  otherMove := id
  limit := limit
  extra := 0
  cut := False
  moves := Eq.symm
  greater := by
    intro first second otherFirst otherSecond firstLater secondLater
    simp only [Later] at *
    omega
  sinceBeginning := by
    intro first second later
    have atStart : ((Cursor.ofLexed left).skip 0).lastStop = 0 := rfl
    simp only [Later, atStart] at *
    omega
  goOn := goOn
  touching := by
    intro index first second otherFirst otherSecond found foundNext otherFound otherFoundNext _ _
    rw [Nat.zero_add] at found foundNext
    rw [← List.getElem?_drop] at otherFound otherFoundNext
    refine goOn.touching ?_ found foundNext otherFound otherFoundNext
    intro first second otherFirst otherSecond firstLater secondLater
    simp only [Later] at *
    omega
  lookahead := False.elim

end TypedScript
