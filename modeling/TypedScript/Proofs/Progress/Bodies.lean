import TypedScript.Proofs.Progress.Loops
import TypedScript.Proofs.TwoRuns.Levels

/-!
The loop that passes the tokens of a body. Its state is how many braces are open within the body and
how many tokens have been taken.
-/

namespace TypedScript

namespace Parse

variable {before after : Cursor} {token : Token} {rest : List Token} {depth inner count : Nat}

/-- How many braces are open after a token of a body, unless it closes the body. -/
def depthAfter? (depth : Nat) (token : Token) : Option Nat :=
  if token.isMark .openBrace then some (depth + 1)
  else if token.isMark .closeBrace then
    match depth with
    | 0 => none
    | outer + 1 => some outer
  else
    some depth

theorem depthAfter?_le (goesOn : depthAfter? depth token = some inner) : inner ≤ depth + 1 := by
  unfold depthAfter? at goesOn
  split_ifs at goesOn with opens closes
  · cases goesOn
    exact Nat.le_refl _
  · cases depth with
    | zero => cases goesOn
    | succ outer =>
        cases goesOn
        omega
  · cases goesOn
    exact Nat.le_succ _

def bodyTurn : Nat × Nat → Parse ((Nat × Nat) ⊕ Nat)
  | (depth, count) => do
      let token ← current
      if token.kind = .endOfFile then unexpected (.token (.punctuator .closeBrace))
      else
        match depthAfter? depth token with
        | none => return .inr count
        | some inner =>
            let _ ← take
            return .inl (inner, count + 1)

def bodyRest : Nat × Nat → Parse Nat
  | (depth, count) => do
      let ahead := (← get).ahead
      match bodyLength? depth ahead with
      | some more =>
          modify (·.skip more)
          return count + more
      | none =>
          modify (·.skip ahead.length)
          unexpected (.token (.punctuator .closeBrace))

theorem functionBody_eq :
    functionBody = do
      let start ← currentStart
      let _ ← expect .openBrace
      let count ← bodyRest (0, 0)
      let _ ← expect .closeBrace
      return ⟨← spanFrom start, count⟩ := by
  simp only [functionBody, bodyRest, bind_assoc]
  congr 1
  funext start
  congr 1
  funext opening
  congr 1
  funext inside
  cases bodyLength? 0 inside.ahead with
  | some count => simp only [bind_assoc, pure_bind, Nat.zero_add]
  | none => simp only [bind_assoc, unexpected_bind]

/-! The length of a body, one token at a time. -/

theorem bodyLength?_of_closed (closes : depthAfter? depth token = none) :
    bodyLength? depth (token :: rest) = some 0 := by
  unfold depthAfter? at closes
  split at closes
  · cases closes
  · next opensNot =>
      split at closes
      · next isClosing =>
          cases depth with
          | zero => simp only [bodyLength?, if_neg opensNot, if_pos isClosing]
          | succ outer => cases closes
      · cases closes

theorem bodyLength?_of_open (goesOn : depthAfter? depth token = some inner) :
    bodyLength? depth (token :: rest) = (bodyLength? inner rest).map (· + 1) := by
  unfold depthAfter? at goesOn
  split at goesOn
  · next opens =>
      cases goesOn
      simp only [bodyLength?, if_pos opens]
  · next opensNot =>
      split at goesOn
      · next isClosing =>
          cases depth with
          | zero => cases goesOn
          | succ outer =>
              cases goesOn
              simp only [bodyLength?, if_neg opensNot, if_pos isClosing]
      · next closesNot =>
          cases goesOn
          simp only [bodyLength?, if_neg opensNot, if_neg closesNot]

/-! What is left of a body where the text is over, at the brace that closes it, and elsewhere. -/

theorem bodyRest_of_end (ahead : before.ahead = []) :
    bodyRest (depth, count) before = unexpected (.token (.punctuator .closeBrace)) before := by
  simp only [bodyRest, bind_of_ok (get_eq_ok.mpr ⟨rfl, rfl⟩), ahead, bodyLength?]
  rfl

theorem bodyRest_of_closed (ahead : before.ahead = token :: rest)
    (closes : depthAfter? depth token = none) :
    bodyRest (depth, count) before = .ok count before := by
  simp only [bodyRest, bind_of_ok (get_eq_ok.mpr ⟨rfl, rfl⟩), ahead, bodyLength?_of_closed closes]
  rfl

theorem bodyRest_of_open (ahead : before.ahead = token :: rest)
    (goesOn : depthAfter? depth token = some inner) :
    bodyRest (depth, count) before = bodyRest (inner, count + 1) before.next := by
  have nextAhead := (Cursor.next_of_ahead ahead).1
  simp only [bodyRest, bind_of_ok (get_eq_ok.mpr ⟨rfl, rfl⟩), ahead, nextAhead,
    bodyLength?_of_open goesOn]
  cases bodyLength? inner rest with
  | some more =>
      simp only [Option.map_some, ← Nat.add_assoc, Nat.add_right_comm count more 1]
      rfl
  | none => rfl

theorem bodyTurn_takes {state next : Nat × Nat}
    (turned : bodyTurn state before = .ok (.inl next) after) :
    after.ahead.length < before.ahead.length := by
  rcases state with ⟨depth, count⟩
  simp only [bodyTurn, bind_eq_ok, current_eq_ok] at turned
  rcases turned with ⟨token, _, ⟨peeked, rfl⟩, turned⟩
  split at turned
  · exact absurd turned unexpected_ne_ok
  · next more =>
      cases stepped : depthAfter? depth token with
      | none =>
          rw [stepped] at turned
          cases turned
      | some inner =>
          rw [stepped] at turned
          simp only [bind_eq_ok, take_eq_ok, pure_eq_ok] at turned
          rcases turned with ⟨_, _, ⟨_, rfl⟩, _, rfl⟩
          exact Cursor.next_shorter peeked more

theorem bodyRest_isLoop : IsLoop bodyTurn bodyRest where
  unfolds state := by
    rcases state with ⟨depth, count⟩
    funext before
    simp only [bodyTurn, bind_assoc]
    cases ahead : before.ahead with
    | nil =>
        rw [bodyRest_of_end ahead]
        cases peeked : before.peek 0 with
        | error error => rw [LooksFirst.unexpected _ peeked, LooksFirst.current.bind _ peeked]
        | ok token =>
            have isEnd : token.kind = .endOfFile := by
              by_contra more
              rcases Cursor.ahead_of_peek peeked more with ⟨rest, some⟩
              rw [ahead] at some
              cases some
            rw [bind_of_ok (current_eq_ok.mpr ⟨peeked, rfl⟩), if_pos isEnd, unexpected_bind]
    | cons token rest =>
        have peeked := Cursor.peek_of_ahead ahead
        have more := (before.wellFormed token (by simp [ahead])).notEnd
        rw [bind_of_ok (current_eq_ok.mpr ⟨peeked, rfl⟩), if_neg more]
        cases stepped : depthAfter? depth token with
        | none =>
            rw [bodyRest_of_closed ahead stepped]
            rfl
        | some inner =>
            rw [bodyRest_of_open ahead stepped]
            simp only [bind_assoc, bind_of_ok (take_eq_ok.mpr ⟨peeked, rfl⟩)]
            rfl
  takes := bodyTurn_takes

end Parse

end TypedScript
