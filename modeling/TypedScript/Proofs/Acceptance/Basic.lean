import TypedScript.Parser.Entry
import TypedScript.Proofs.Reading.Tokens

/-!
Parsers that succeed. Every rule below says from which tokens a parser gets where, and with what
value, in terms of what its parts do.
-/

namespace TypedScript

def Reaches {α : Type} (parser : Parse α) (before after : Cursor) (holds : α → Prop) : Prop :=
  ∃ value, parser before = .ok value after ∧ holds value

namespace Reaches

variable {α β : Type} {parser : Parse α} {next : α → Parse β} {before between after : Cursor}
  {holds : α → Prop} {result : β → Prop}

theorem bind (first : Reaches parser before between holds)
    (later : ∀ value, holds value → Reaches (next value) between after result) :
    Reaches (parser >>= next) before after result := by
  rcases first with ⟨value, parsed, satisfied⟩
  rcases later value satisfied with ⟨other, parsedNext, satisfiedNext⟩
  exact ⟨other, Parse.bind_eq_ok.mpr ⟨value, between, parsed, parsedNext⟩, satisfiedNext⟩

theorem bindEq {value : α} (first : Reaches parser before between (· = value))
    (later : Reaches (next value) between after result) :
    Reaches (parser >>= next) before after result := by
  apply first.bind
  rintro _ rfl
  exact later

theorem pure {value : α} (satisfied : holds value) :
    Reaches (Pure.pure value) before before holds :=
  ⟨value, Parse.pure_eq_ok.mpr ⟨rfl, rfl⟩, satisfied⟩

theorem map {change : α → β} (first : Reaches parser before after holds)
    (implies : ∀ value, holds value → result (change value)) :
    Reaches (change <$> parser) before after result := by
  rcases first with ⟨value, parsed, satisfied⟩
  exact ⟨change value, Parse.map_eq_ok.mpr ⟨value, parsed, rfl⟩, implies value satisfied⟩

theorem imp {weaker : α → Prop} (first : Reaches parser before after holds)
    (implies : ∀ value, holds value → weaker value) : Reaches parser before after weaker := by
  rcases first with ⟨value, parsed, satisfied⟩
  exact ⟨value, parsed, implies value satisfied⟩

end Reaches

namespace Parse

variable {α : Type} {cursor after : Cursor} {token : Token}

/-! Single tokens. -/

theorem peek_reaches {count : Nat} (seen : cursor.peek count = .ok token) :
    Reaches (peek count) cursor cursor (· = token) :=
  ⟨token, peek_eq_ok.mpr ⟨seen, rfl⟩, rfl⟩

theorem current_reaches (seen : cursor.peek 0 = .ok token) :
    Reaches current cursor cursor (· = token) :=
  peek_reaches seen

theorem kindAhead_reaches {count : Nat} (seen : cursor.peek count = .ok token) :
    Reaches (kindAhead count) cursor cursor (· = token.kind) :=
  (peek_reaches seen).bindEq (.pure rfl)

theorem currentStart_reaches (seen : cursor.peek 0 = .ok token) :
    Reaches currentStart cursor cursor (· = token.start) :=
  (current_reaches seen).bindEq (.pure rfl)

theorem atMark_reaches (seen : cursor.peek 0 = .ok token) (mark : Punctuator) :
    Reaches (atMark mark) cursor cursor (· = token.isMark mark) :=
  (current_reaches seen).bindEq (.pure rfl)

theorem atWord_reaches (seen : cursor.peek 0 = .ok token) (word : String) :
    Reaches (atWord word) cursor cursor (· = token.isWord word) :=
  (current_reaches seen).bindEq (.pure rfl)

theorem spanFrom_reaches (start : Nat) :
    Reaches (spanFrom start) cursor cursor (· = ⟨start, max cursor.lastStop start⟩) :=
  ⟨_, spanFrom_eq_ok.mpr ⟨rfl, rfl⟩, rfl⟩

theorem take_reaches (seen : cursor.peek 0 = .ok token) :
    Reaches take cursor cursor.next (· = token) :=
  ⟨token, take_eq_ok.mpr ⟨seen, rfl⟩, rfl⟩

theorem accept_absent {mark : Punctuator} (seen : cursor.peek 0 = .ok token)
    (noMark : token.isMark mark = false) : Reaches (accept mark) cursor cursor (· = false) := by
  apply (atMark_reaches seen mark).bindEq
  rw [noMark]
  exact .pure rfl

theorem expectKind_reaches {kind : TokenKind} (seen : cursor.peek 0 = .ok token)
    (expected : token.kind = kind) :
    Reaches (expectKind kind) cursor cursor.next (· = token) :=
  ⟨token, expectKind_eq_ok.mpr ⟨seen, expected, rfl⟩, rfl⟩

theorem identifier_reaches (seen : cursor.peek 0 = .ok token) (plain : token.kind = .identifier) :
    Reaches identifier cursor cursor.next (· = identifierOf token) := by
  apply (current_reaches seen).bindEq
  rw [if_pos plain]
  exact (take_reaches seen).bindEq (.pure rfl)

/-! Repetition. -/

theorem repeated_stop {turn : Parse (Turn α)} (stops : Reaches turn cursor after (· = .stop)) :
    Reaches (repeated turn) cursor after (· = []) := by
  rcases stops with ⟨_, parsed, rfl⟩
  refine ⟨[], ?_, rfl⟩
  rw [repeated, parsed]

theorem repeated_last {turn : Parse (Turn α)} {holds : α → Prop}
    (last : Reaches turn cursor after fun turned => ∃ item, turned = .last item ∧ holds item) :
    Reaches (repeated turn) cursor after fun items => ∃ item, items = [item] ∧ holds item := by
  rcases last with ⟨_, parsed, item, rfl, satisfied⟩
  refine ⟨[item], ?_, item, rfl, satisfied⟩
  rw [repeated, parsed]

theorem repeated_more {turn : Parse (Turn α)} {between : Cursor} {holds : α → Prop}
    {rest : List α → Prop} (shorter : between.ahead.length < cursor.ahead.length)
    (more : Reaches turn cursor between fun turned => ∃ item, turned = .more item ∧ holds item)
    (others : Reaches (repeated turn) between after rest) :
    Reaches (repeated turn) cursor after fun items =>
      ∃ item later, items = item :: later ∧ holds item ∧ rest later := by
  rcases more with ⟨_, parsed, item, rfl, satisfied⟩
  rcases others with ⟨later, parsedLater, satisfiedLater⟩
  refine ⟨item :: later, ?_, item, later, rfl, satisfied, satisfiedLater⟩
  rw [repeated, parsed]
  simp only [shorter, if_true, parsedLater]

/-! Whole texts. -/

theorem run_reaches {options : ParseOptions} {source : String} {parser : Nesting → Parse α}
    {value : α}
    (reaches : Reaches (parser (.outermost (.ofLimit options.nestingLimit)))
      (.ofLexed (lex options.keywords source)) after (· = value)) :
    run options source parser = .ok value := by
  rcases reaches with ⟨_, parsed, rfl⟩
  simp only [run, parsed]

end Parse

end TypedScript
