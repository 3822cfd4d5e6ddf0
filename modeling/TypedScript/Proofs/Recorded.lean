import TypedScript.Proofs.TokenOrder
import TypedScript.Token.Recorded

/-!
Texts that are shorter than 2^32 bytes. Their offsets are recorded as they are, and their tokens can
be counted with 32 bits.
-/

namespace TypedScript

theorem Lexed.eq_of {left right : Lexed} (tokens : left.tokens = right.tokens)
    (ending : left.ending = right.ending) : left = right := by
  cases left
  cases right
  cases tokens
  cases ending
  rfl

theorem add_length_le_of_inOrder {tokens : List Token} {first size : Nat}
    (inOrder : InOrder tokens) (after : ∀ token ∈ tokens, first ≤ token.start)
    (within : ∀ token ∈ tokens, token.stop ≤ size) (le : first ≤ size) :
    first + tokens.length ≤ size := by
  induction tokens generalizing first with
  | nil => exact le
  | cons token tokens induction =>
      rcases List.pairwise_cons.mp inOrder.ordered with ⟨apart, _⟩
      have nonempty := inOrder.nonempty token (List.mem_cons_self ..)
      rw [List.forall_mem_cons] at after within
      have rest :=
        induction (inOrder.of_sublist (List.sublist_cons_self ..)) apart within.2 within.1
      rw [List.length_cons]
      omega

theorem lex_length_le (keywords : KeywordSet) (source : String) :
    (lex keywords source).tokens.length ≤ source.utf8ByteSize := by
  have counted := add_length_le_of_inOrder (lex_inOrder keywords source)
    (fun _ _ => Nat.zero_le _) (lex_stop_le keywords source) (Nat.zero_le _)
  rwa [Nat.zero_add] at counted

theorem lexRecorded_length_le (keywords : KeywordSet) (source : String) :
    (lexRecorded keywords source).tokens.length ≤ source.utf8ByteSize := by
  rw [lexRecorded, Lexed.low32, List.length_map]
  exact lex_length_le keywords source

section Short

variable {keywords : KeywordSet} {source : String}

theorem low32_offsets (short : source.utf8ByteSize < Numeral.bound32) {token : Token}
    (member : token ∈ (lex keywords source).tokens) :
    token.low32.start = token.start ∧ token.low32.stop = token.stop := by
  have stop : token.stop < Numeral.bound32 :=
    Nat.lt_of_le_of_lt (lex_stop_le keywords source token member) short
  have nonempty := (lex_inOrder keywords source).nonempty token member
  exact ⟨low32_of_lt (Nat.lt_trans nonempty stop), low32_of_lt stop⟩

theorem lexRecorded_inOrder (keywords : KeywordSet)
    (short : source.utf8ByteSize < Numeral.bound32) :
    InOrder (lexRecorded keywords source).tokens := by
  have offsets := @low32_offsets keywords source short
  have inOrder := lex_inOrder keywords source
  refine ⟨?_, ?_⟩
  · refine List.forall_mem_map.mpr fun token member => ?_
    rw [(offsets member).1, (offsets member).2]
    exact inOrder.nonempty token member
  · refine List.pairwise_map.mpr (inOrder.ordered.imp_of_mem ?_)
    intro earlier later earlierMember laterMember apart
    rw [(offsets earlierMember).2, (offsets laterMember).1]
    exact apart

end Short

end TypedScript
