import TypedScript.Proofs.Angles.Basic

/-!
The tokens of a text that lie within a range. Main statement: within the range of a node lie the
tokens that it was read from, and no others.
-/

namespace TypedScript

def Lexed.within (lexed : Lexed) (span : Span) : List Token :=
  lexed.tokens.filter fun token => span.contains token.span

theorem InOrder.filter_contains {node : Node} {earlier own later : List Token}
    (inOrder : InOrder (earlier ++ own ++ later)) (covers : node.Covers own) :
    (earlier ++ own ++ later).filter (fun token => node.span.contains token.span) = own := by
  have ownOrder : InOrder own := inOrder.of_sublist (by simp)
  rcases covers.bounds ownOrder with ⟨⟨_, ⟨first, firstMember, start⟩, ⟨last, lastMember, stop⟩⟩,
    around⟩
  rcases List.pairwise_append.mp inOrder.ordered with ⟨ordered, _, beforeLater⟩
  rcases List.pairwise_append.mp ordered with ⟨_, _, beforeOwn⟩
  have noneEarlier : earlier.filter (fun token => node.span.contains token.span) = [] := by
    rw [List.filter_eq_nil_iff]
    intro token member
    have nonempty := inOrder.nonempty token (by simp [member])
    have ends := beforeOwn token member first firstMember
    rw [Span.contains_eq_true, Token.span]
    dsimp only
    omega
  have allOwn : own.filter (fun token => node.span.contains token.span) = own := by
    rw [List.filter_eq_self]
    intro token member
    have bounds := around token member
    rw [Span.contains_eq_true, Token.span]
    dsimp only
    omega
  have noneLater : later.filter (fun token => node.span.contains token.span) = [] := by
    rw [List.filter_eq_nil_iff]
    intro token member
    have nonempty := inOrder.nonempty token (by simp [member])
    have ends := beforeLater last (by simp [lastMember]) token member
    rw [Span.contains_eq_true, Token.span]
    dsimp only
    omega
  rw [List.filter_append, List.filter_append, noneEarlier, allOwn, noneLater, List.nil_append,
    List.append_nil]

theorem Cursor.Takes.unique {before after : Cursor} {tokens others : List Token}
    (takes : before.Takes tokens after) (takesOthers : before.Takes others after) :
    tokens = others :=
  List.append_cancel_right (takes.ahead.symm.trans takesOthers.ahead)

theorem Cursor.On.within {lexed : Lexed} {before after : Cursor} {lexemes : List Lexeme}
    {node : Node} {own : List Token} (on : before.On lexed) (takes : before.Takes own after)
    (whole : Whole before after lexemes node) : lexed.within node.span = own := by
  cases whole with
  | intro covered covers =>
      cases takes.unique covered
      rcases on.split with ⟨earlier, split, _⟩
      rw [takes.ahead, ← List.append_assoc] at split
      have inOrder := on.inOrder
      rw [split] at inOrder
      rw [Lexed.within, split]
      exact inOrder.filter_contains covers

theorem Cursor.On.head?_within {lexed : Lexed} {before after : Cursor} {lexemes : List Lexeme}
    {node : Node} {token : Token} (on : before.On lexed) (peeked : before.peek 0 = .ok token)
    (whole : Whole before after lexemes node) :
    (lexed.within node.span).head? = some token := by
  have wholeRead := whole
  cases whole with
  | @intro own _ takes covers =>
      rw [on.within takes wholeRead]
      cases own with
      | nil => exact absurd rfl covers.ne_nil
      | cons first rest =>
          rw [peek_of_ahead takes.ahead] at peeked
          cases peeked
          rfl

end TypedScript
