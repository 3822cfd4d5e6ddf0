import TypedScript.Proofs.Acceptance.Basic
import TypedScript.Proofs.Spelling

/-!
Parsers that take given lexemes. Places do not matter here: a parser accepts some lexemes before
others if it gets from any place where the first stand to one where the others do. Main statements:
how lists of items are accepted if their items are.
-/

namespace TypedScript

/-- The lexemes ahead, up to the end of a text that has no error and no more line breaks. -/
structure Cursor.Shows (cursor : Cursor) (lexemes : List Lexeme) : Prop where
  ahead : cursor.ahead.map Token.lexeme = lexemes
  ends : ∃ token, cursor.ending = .endOfFile token
  sameLine : ∀ token ∈ cursor.ahead, token.afterLineBreak = false

def kindAt (lexemes : List Lexeme) (count : Nat) : TokenKind :=
  (lexemes[count]?.map (·.kind)).getD .endOfFile

/-- Where the lexemes stand the parser gets to where only the later ones do, and its value has the
property. -/
def Accepts {α : Type} (parser : Parse α) (lexemes later : List Lexeme) (holds : α → Prop) : Prop :=
  ∀ ⦃cursor : Cursor⦄, cursor.Shows lexemes →
    ∃ after, Reaches parser cursor after holds ∧ after.Shows later

@[simp] theorem kindAt_cons_zero (lexeme : Lexeme) (lexemes : List Lexeme) :
    kindAt (lexeme :: lexemes) 0 = lexeme.kind := rfl

@[simp] theorem kindAt_cons_succ (lexeme : Lexeme) (lexemes : List Lexeme) (count : Nat) :
    kindAt (lexeme :: lexemes) (count + 1) = kindAt lexemes count := rfl

theorem kindAt_notMem {mark : Punctuator} {kinds : List TokenKind}
    (notMem : .punctuator mark ∉ kinds) (lexemes : List Lexeme) :
    kindAt (.mark mark :: lexemes) 0 ∉ kinds :=
  notMem

theorem kindAt_ne {mark other : Punctuator} (different : mark ≠ other) (lexemes : List Lexeme) :
    kindAt (.mark mark :: lexemes) 0 ≠ .punctuator other :=
  fun same => different (TokenKind.punctuator.inj same)

namespace Cursor.Shows

variable {cursor : Cursor} {lexemes : List Lexeme} {lexeme : Lexeme}

theorem length (shows : cursor.Shows lexemes) : cursor.ahead.length = lexemes.length := by
  rw [← shows.ahead, List.length_map]

theorem first (shows : cursor.Shows (lexeme :: lexemes)) :
    ∃ token, cursor.peek 0 = .ok token ∧ token.lexeme = lexeme ∧ token.afterLineBreak = false ∧
      cursor.next.Shows lexemes := by
  rcases List.map_eq_cons_iff.mp shows.ahead with ⟨token, rest, ahead, same, others⟩
  have nextAhead : cursor.next.ahead = rest := by rw [next_ahead, ahead, List.tail_cons]
  refine ⟨token, by simp [peek, ahead], same, shows.sameLine token (by simp [ahead]), ?_, ?_, ?_⟩
  · rw [nextAhead, others]
  · rw [next_ending]
    exact shows.ends
  · intro later member
    rw [nextAhead] at member
    exact shows.sameLine later (by simp [ahead, member])

theorem peek (shows : cursor.Shows lexemes) (count : Nat) :
    ∃ token, cursor.peek count = .ok token ∧ token.kind = kindAt lexemes count := by
  rcases shows.ends with ⟨last, ending⟩
  have isEnd := cursor.endingWellFormed
  rw [ending] at isEnd
  rw [← shows.ahead, kindAt, List.getElem?_map, Cursor.peek, ending]
  cases cursor.ahead[count]? with
  | some token => exact ⟨token, rfl, rfl⟩
  | none => exact ⟨last, rfl, isEnd⟩

end Cursor.Shows

namespace Accepts

variable {α β : Type} {parser : Parse α} {next : α → Parse β} {lexemes between later : List Lexeme}
  {holds : α → Prop} {result : β → Prop}

theorem bind (first : Accepts parser lexemes between holds)
    (second : ∀ value, holds value → Accepts (next value) between later result) :
    Accepts (parser >>= next) lexemes later result := by
  intro cursor shows
  rcases first shows with ⟨middle, ⟨value, parsed, satisfied⟩, middleShows⟩
  rcases second value satisfied middleShows with ⟨after, reaches, afterShows⟩
  refine ⟨after, ?_, afterShows⟩
  exact Reaches.bindEq ⟨value, parsed, rfl⟩ reaches

theorem bindEq {value : α} (first : Accepts parser lexemes between (· = value))
    (second : Accepts (next value) between later result) :
    Accepts (parser >>= next) lexemes later result := by
  apply first.bind
  rintro _ rfl
  exact second

theorem pure {value : α} (satisfied : holds value) :
    Accepts (Pure.pure value) lexemes lexemes holds :=
  fun cursor shows => ⟨cursor, .pure satisfied, shows⟩

theorem map {change : α → β} (first : Accepts parser lexemes later holds)
    (implies : ∀ value, holds value → result (change value)) :
    Accepts (change <$> parser) lexemes later result := by
  intro cursor shows
  rcases first shows with ⟨after, reaches, afterShows⟩
  exact ⟨after, reaches.map implies, afterShows⟩

theorem imp {weaker : α → Prop} (first : Accepts parser lexemes later holds)
    (implies : ∀ value, holds value → weaker value) : Accepts parser lexemes later weaker := by
  intro cursor shows
  rcases first shows with ⟨after, reaches, afterShows⟩
  exact ⟨after, reaches.imp implies, afterShows⟩

theorem ifTrue {condition : Prop} [Decidable condition] {other : Parse α} (isTrue : condition)
    (accepts : Accepts parser lexemes later holds) :
    Accepts (if condition then parser else other) lexemes later holds := by
  rw [if_pos isTrue]
  exact accepts

theorem ifFalse {condition : Prop} [Decidable condition] {other : Parse α} (isFalse : ¬condition)
    (accepts : Accepts other lexemes later holds) :
    Accepts (if condition then parser else other) lexemes later holds := by
  rw [if_neg isFalse]
  exact accepts

end Accepts

namespace Parse

variable {α β : Type} {lexeme : Lexeme} {lexemes later : List Lexeme} {mark : Punctuator}

/-! Single tokens. -/

theorem current_accepts :
    Accepts current lexemes lexemes fun token => token.kind = kindAt lexemes 0 := by
  intro cursor shows
  rcases shows.peek 0 with ⟨token, seen, kind⟩
  exact ⟨cursor, (current_reaches seen).imp (by rintro _ rfl; exact kind), shows⟩

theorem first_accepts :
    Accepts current (lexeme :: lexemes) (lexeme :: lexemes) fun token =>
      token.lexeme = lexeme ∧ token.afterLineBreak = false := by
  intro cursor shows
  rcases shows.first with ⟨token, seen, same, sameLine, _⟩
  exact ⟨cursor, (current_reaches seen).imp (by rintro _ rfl; exact ⟨same, sameLine⟩), shows⟩

theorem kindAhead_accepts (count : Nat) :
    Accepts (kindAhead count) lexemes lexemes (· = kindAt lexemes count) := by
  intro cursor shows
  rcases shows.peek count with ⟨token, seen, kind⟩
  exact ⟨cursor, (kindAhead_reaches seen).imp (by rintro _ rfl; exact kind), shows⟩

theorem currentStart_accepts : Accepts currentStart lexemes lexemes fun _ => True :=
  current_accepts.bind fun _ _ => .pure trivial

theorem spanFrom_accepts (start : Nat) : Accepts (spanFrom start) lexemes lexemes fun _ => True :=
  fun cursor shows => ⟨cursor, (spanFrom_reaches start).imp fun _ _ => trivial, shows⟩

theorem atMark_accepts (mark : Punctuator) :
    Accepts (atMark mark) lexemes lexemes (· = (kindAt lexemes 0 == .punctuator mark)) := by
  apply current_accepts.bind
  intro token kind
  exact .pure (by rw [Token.isMark, kind])

theorem take_accepts :
    Accepts take (lexeme :: lexemes) lexemes fun token => token.lexeme = lexeme := by
  intro cursor shows
  rcases shows.first with ⟨token, seen, same, _, nextShows⟩
  exact ⟨cursor.next, (take_reaches seen).imp (by rintro _ rfl; exact same), nextShows⟩

theorem accept_accepts : Accepts (accept mark) (.mark mark :: lexemes) lexemes (· = true) := by
  apply (atMark_accepts mark).bindEq
  rw [kindAt_cons_zero, Lexeme.mark, beq_self_eq_true, if_pos rfl]
  exact take_accepts.bind fun _ _ => .pure rfl

theorem accept_passes (noMark : kindAt lexemes 0 ≠ .punctuator mark) :
    Accepts (accept mark) lexemes lexemes (· = false) := by
  apply (atMark_accepts mark).bindEq
  rw [beq_eq_false_iff_ne.mpr noMark, if_neg Bool.false_ne_true]
  exact .pure rfl

theorem expect_accepts : Accepts (expect mark) (.mark mark :: lexemes) lexemes fun _ => True := by
  apply first_accepts.bind
  rintro token ⟨same, _⟩
  have kind : token.kind = .punctuator mark := congrArg Lexeme.kind same
  rw [if_pos kind]
  exact take_accepts.imp fun _ _ => trivial

theorem identifier_accepts {text : String} :
    Accepts identifier (.word text :: lexemes) lexemes (·.text = text) := by
  apply first_accepts.bind
  rintro token ⟨same, _⟩
  have kind : token.kind = .identifier := congrArg Lexeme.kind same
  rw [if_pos kind]
  apply take_accepts.bind
  intro other otherSame
  exact .pure (congrArg Lexeme.text otherSame)

theorem identifierName_accepts (isName : lexeme.kind.isName = true) :
    Accepts identifierName (lexeme :: lexemes) lexemes (·.text = lexeme.text) := by
  apply first_accepts.bind
  rintro token ⟨same, _⟩
  have kind : token.kind = lexeme.kind := congrArg Lexeme.kind same
  rw [if_pos (kind ▸ isName)]
  apply take_accepts.bind
  intro other otherSame
  exact .pure (congrArg Lexeme.text otherSame)

/-! Something that a lexeme leads to. -/

theorem acceptFlag_accepts (present : Bool) (noMark : kindAt lexemes 0 ≠ .punctuator mark) :
    Accepts (accept mark) (Lexeme.flag present mark ++ lexemes) lexemes (· = present) := by
  cases present with
  | true => exact accept_accepts
  | false => exact accept_passes noMark

theorem afterMark_accepts {item : Parse α} {holds : α → Prop}
    (accepts : Accepts item lexemes later holds) :
    Accepts (afterMark mark item) (.mark mark :: lexemes) later fun value =>
      ∃ inner, value = some inner ∧ holds inner := by
  apply accept_accepts.bindEq
  exact accepts.map fun value satisfied => ⟨value, rfl, satisfied⟩

theorem afterMark_passes {item : Parse α} (noMark : kindAt lexemes 0 ≠ .punctuator mark) :
    Accepts (afterMark mark item) lexemes lexemes (· = none) :=
  (accept_passes noMark).bindEq (.pure rfl)

theorem atWord_accepts {word : String} :
    Accepts (atWord word) (.word word :: lexemes) (.word word :: lexemes) (· = true) := by
  apply first_accepts.bind
  rintro token ⟨same, _⟩
  have kind : token.kind = .identifier := congrArg Lexeme.kind same
  have text : token.text = word := congrArg Lexeme.text same
  exact .pure (by simp [Token.isWord, kind, text])

theorem afterWord_accepts {item : Parse α} {holds : α → Prop} {word : String}
    (accepts : Accepts item lexemes later holds) :
    Accepts (afterWord word item) (.word word :: lexemes) later fun value =>
      ∃ inner, value = some inner ∧ holds inner := by
  have present : Accepts (acceptWord word) (.word word :: lexemes) lexemes (· = true) :=
    atWord_accepts.bindEq (take_accepts.bind fun _ _ => .pure rfl)
  apply present.bindEq
  exact accepts.map fun value satisfied => ⟨value, rfl, satisfied⟩

theorem afterWord_passes {item : Parse α} {word : String}
    (noWord : kindAt lexemes 0 ≠ .identifier) :
    Accepts (afterWord word item) lexemes lexemes (· = none) := by
  have absent : Accepts (acceptWord word) lexemes lexemes (· = false) := by
    have atWord : Accepts (atWord word) lexemes lexemes (· = false) := by
      apply current_accepts.bind
      intro token kind
      exact .pure (by simp [Token.isWord, kind, noWord])
    exact atWord.bindEq (.pure rfl)
  exact absent.bindEq (.pure rfl)

/-! Repetition. -/

section Repetition

variable {turn : Parse (Turn α)} {print : α → List Lexeme} {view : α → β} {values : List α}

theorem repeated_stops (stops : Accepts turn lexemes later (· = .stop)) :
    Accepts (repeated turn) lexemes later (· = []) := by
  intro cursor shows
  rcases stops shows with ⟨after, reaches, afterShows⟩
  exact ⟨after, repeated_stop reaches, afterShows⟩

theorem repeated_ends {item : α}
    (last : Accepts turn lexemes later fun turned =>
      ∃ value, turned = .last value ∧ view value = view item) :
    Accepts (repeated turn) lexemes later (List.map view · = [view item]) := by
  intro cursor shows
  rcases last shows with ⟨after, reaches, afterShows⟩
  refine ⟨after, (repeated_last reaches).imp ?_, afterShows⟩
  rintro _ ⟨value, rfl, same⟩
  rw [List.map_singleton, same]

theorem repeated_goesOn {item : α} {items : List α} {between : List Lexeme}
    (shorter : between.length < lexemes.length)
    (more : Accepts turn lexemes between fun turned =>
      ∃ value, turned = .more value ∧ view value = view item)
    (others : Accepts (repeated turn) between later (List.map view · = items.map view)) :
    Accepts (repeated turn) lexemes later (List.map view · = (item :: items).map view) := by
  intro cursor shows
  rcases more shows with ⟨middle, reaches, middleShows⟩
  rcases others middleShows with ⟨after, othersReach, afterShows⟩
  rw [← shows.length, ← middleShows.length] at shorter
  refine ⟨after, (repeated_more shorter reaches othersReach).imp ?_, afterShows⟩
  rintro _ ⟨value, values, rfl, same, sameOthers⟩
  rw [List.map_cons, List.map_cons, same, sameOthers]

theorem repeated_accepts (notEmpty : ∀ value, print value ≠ [])
    (stops : Accepts turn later later (· = .stop))
    (each : ∀ value others, value :: others <:+ values →
      Accepts turn (print value ++ (others.flatMap print ++ later)) (others.flatMap print ++ later)
        fun turned => ∃ item, turned = .more item ∧ view item = view value) :
    Accepts (repeated turn) (values.flatMap print ++ later) later
      (List.map view · = values.map view) := by
  induction values with
  | nil =>
      apply (repeated_stops stops).imp
      rintro _ rfl
      rfl
  | cons value others induction =>
      have others := induction fun item items suffix =>
        each item items (suffix.trans (List.suffix_cons _ _))
      rw [List.flatMap_cons, List.append_assoc]
      refine repeated_goesOn ?_ (each value _ (List.suffix_refl _)) others
      have positive := List.length_pos_iff.mpr (notEmpty value)
      simp only [List.length_append]
      omega

theorem repeated_separated {first : α} {others : List α}
    (last : ∀ value ∈ first :: others, Accepts turn (print value ++ later) later fun turned =>
      ∃ item, turned = .last item ∧ view item = view value)
    (more : ∀ value ∈ first :: others, ∀ next ∈ first :: others, ∀ rest,
      Accepts turn (print value ++ .mark mark :: (print next ++ rest)) (print next ++ rest)
        fun turned => ∃ item, turned = .more item ∧ view item = view value) :
    Accepts (repeated turn) (print first ++ (others.flatMap (.mark mark :: print ·) ++ later)) later
      (List.map view · = (first :: others).map view) := by
  induction others generalizing first with
  | nil => exact repeated_ends (last first (by simp))
  | cons second others induction =>
      have rest := @induction second (fun value member => last value (.tail _ member))
        fun value member next nextMember => more value (.tail _ member) next (.tail _ nextMember)
      rw [List.flatMap_cons, List.cons_append, List.cons_append, List.append_assoc]
      refine repeated_goesOn ?_ (more first (by simp) second (by simp) _) rest
      simp only [List.length_append, List.length_cons]
      omega

end Repetition

end Parse

end TypedScript
