import TypedScript.Text.Characters
import TypedScript.Token.Basic

/-!
Marks and operators at the beginning of a text. The first character says which marks are tried, the
longer ones before the shorter ones. Main statement: the mark that is found is the longest of all,
and what is taken for it is how it is spelled.
-/

namespace TypedScript.Scan

def startsWithDigit (chars : List Char) : Bool :=
  (chars.head?.map isDigit).getD false

def single (alone : Punctuator) : Nat × Punctuator :=
  (1, alone)

/-- The first of the longer marks that a text begins with, or its first character alone. -/
def munch (longer : List (String × Punctuator)) (alone : Punctuator) (chars : List Char) :
    Nat × Punctuator :=
  match longer.find? fun pair => pair.1.toList.isPrefixOf chars with
  | some (text, mark) => (text.length, mark)
  | none => single alone

def dot (chars : List Char) : Nat × Punctuator :=
  munch [("...", .dotDotDot)] .dot chars

def question (rest : List Char) : Nat × Punctuator :=
  if rest.head? == some '.' && !startsWithDigit rest.tail then (2, .questionDot)
  else munch [("??", .questionQuestion)] .question ('?' :: rest)

def equals (chars : List Char) : Nat × Punctuator :=
  munch [("===", .equalsEqualsEquals), ("==", .equalsEquals), ("=>", .arrow)] .equals chars

/-- The mark that the text `first :: rest` begins with: how many characters it takes, and what it
is. -/
def mark? (first : Char) (rest : List Char) : Option (Nat × Punctuator) :=
  let chars := first :: rest
  match first with
  | '\x7b' => some (single .openBrace)
  | '\x7d' => some (single .closeBrace)
  | '(' => some (single .openParen)
  | ')' => some (single .closeParen)
  | '[' => some (single .openBracket)
  | ']' => some (single .closeBracket)
  | ';' => some (single .semicolon)
  | ',' => some (single .comma)
  | ':' => some (single .colon)
  | '~' => some (single .tilde)
  | '^' => some (single .caret)
  | '%' => some (single .percent)
  -- Always alone, so that two of them may close two lists of type arguments.
  | '>' => some (single .greaterThan)
  | '.' => some (dot chars)
  | '?' => some (question rest)
  | '<' => some (munch [("<=", .lessThanEquals)] .lessThan chars)
  | '=' => some (equals chars)
  | '!' => some (munch [("!==", .exclamationEqualsEquals), ("!=", .exclamationEquals)]
      .exclamation chars)
  | '+' => some (munch [("+=", .plusEquals)] .plus chars)
  | '-' => some (munch [("-=", .minusEquals)] .minus chars)
  | '*' => some (munch [("*=", .asteriskEquals)] .asterisk chars)
  | '/' => some (munch [("/=", .slashEquals)] .slash chars)
  | '&' => some (munch [("&&", .ampersandAmpersand)] .ampersand chars)
  | '|' => some (munch [("||", .barBar)] .bar chars)
  | _ => none

/-! The longest of all marks. -/

def fits (chars : List Char) (mark : Punctuator) : Bool :=
  mark.spelling.toList.isPrefixOf chars &&
    !(mark == .questionDot && startsWithDigit (chars.drop 2))

/-- The longest mark that a text begins with, a point before a digit apart that would belong to a
question mark. -/
def punctuator? (chars : List Char) : Option Punctuator :=
  Punctuator.lexed.find? (fits chars)

theorem head_of_fits {first : Char} {rest : List Char} {mark : Punctuator}
    (fit : fits (first :: rest) mark = true) : mark.spelling.toList.head? = some first := by
  have spelled := (Bool.and_eq_true_iff.mp fit).1
  cases chars : mark.spelling.toList with
  | nil => cases mark <;> cases chars
  | cons char others =>
      rw [chars, List.isPrefixOf, Bool.and_eq_true, beq_iff_eq] at spelled
      rw [List.head?_cons, spelled.1]

theorem punctuator?_eq_filter (first : Char) (rest : List Char) :
    punctuator? (first :: rest) =
      (Punctuator.lexed.filter (·.spelling.toList.head? == some first)).find?
        (fits (first :: rest)) := by
  rw [punctuator?, List.find?_filter]
  congr 1
  funext mark
  cases fit : fits (first :: rest) mark with
  | false => simp
  | true => simp [head_of_fits fit]

/-- The marks by their first characters. -/
def listed : List (Char × List Punctuator) :=
  [('\x7b', [.openBrace]), ('\x7d', [.closeBrace]), ('(', [.openParen]), (')', [.closeParen]),
    ('[', [.openBracket]), (']', [.closeBracket]), (';', [.semicolon]), (',', [.comma]),
    (':', [.colon]), ('~', [.tilde]), ('^', [.caret]), ('%', [.percent]), ('>', [.greaterThan]),
    ('.', [.dotDotDot, .dot]), ('?', [.questionDot, .questionQuestion, .question]),
    ('<', [.lessThanEquals, .lessThan]),
    ('=', [.equalsEqualsEquals, .equalsEquals, .arrow, .equals]),
    ('!', [.exclamationEqualsEquals, .exclamationEquals, .exclamation]),
    ('+', [.plusEquals, .plus]), ('-', [.minusEquals, .minus]),
    ('*', [.asteriskEquals, .asterisk]), ('/', [.slashEquals, .slash]),
    ('&', [.ampersandAmpersand, .ampersand]), ('|', [.barBar, .bar])]

-- All of them at once, so that each spelling is taken apart only once.
theorem filter_lexed : ∀ pair ∈ listed,
    Punctuator.lexed.filter (·.spelling.toList.head? == some pair.1) = pair.2 := by
  decide +kernel

theorem munch_eq {first : Char} {longer : List (String × Punctuator)} {alone : Punctuator}
    (tried : (first, longer.map (·.2) ++ [alone]) ∈ listed)
    (spelled : (∀ pair ∈ longer, pair.2.spelling = pair.1 ∧ pair.2 ≠ .questionDot) ∧
      alone.spelling = String.ofList [first]) (rest : List Char) :
    some (munch longer alone (first :: rest)) =
      (punctuator? (first :: rest)).map fun mark => (mark.spelling.length, mark) := by
  rw [punctuator?_eq_filter, filter_lexed _ tried, munch]
  clear tried
  induction longer with
  | nil =>
      have noPoint : (alone == .questionDot) = false := by
        refine beq_false_of_ne ?_
        rintro rfl
        have two := congrArg String.length spelled.2
        rw [String.length_ofList] at two
        cases two
      have fit : fits (first :: rest) alone = true := by
        rw [fits, spelled.2, String.toList_ofList, noPoint]
        simp
      simp [fit, spelled.2, single]
  | cons pair longer induction =>
      rcases pair with ⟨text, mark⟩
      rw [List.forall_mem_cons] at spelled
      rcases spelled with ⟨⟨⟨isText, noPoint⟩, others⟩, own⟩
      dsimp only at isText noPoint
      subst isText
      have same : fits (first :: rest) mark = mark.spelling.toList.isPrefixOf (first :: rest) := by
        rw [fits, beq_false_of_ne noPoint, Bool.false_and, Bool.not_false, Bool.and_true]
      rw [List.map_cons, List.cons_append, List.find?_cons, List.find?_cons, same]
      dsimp only
      cases mark.spelling.toList.isPrefixOf (first :: rest) with
      | true => rfl
      | false => exact induction ⟨others, own⟩

theorem question_eq (rest : List Char) : some (question rest) =
      (punctuator? ('?' :: rest)).map fun mark => (mark.spelling.length, mark) := by
  have tried : ('?', [.questionDot, .questionQuestion, .question]) ∈ listed := by decide
  have point : fits ('?' :: rest) .questionDot =
      (rest.head? == some '.' && !startsWithDigit rest.tail) := by
    cases rest with
    | nil => rfl
    | cons next rest =>
        have same : (some next == some '.') = ('.' == next) := Bool.beq_comm
        simp [fits, Punctuator.spelling, List.isPrefixOf, same]
  rw [punctuator?_eq_filter, filter_lexed _ tried, List.find?_cons, point, question]
  cases rest.head? == some '.' && !startsWithDigit rest.tail with
  | true => rfl
  | false =>
      have twice : fits ('?' :: rest) .questionQuestion =
          "??".toList.isPrefixOf ('?' :: rest) := Bool.and_true _
      have once : fits ('?' :: rest) .question = true := rfl
      rw [List.find?_cons, twice, List.find?_cons, once, if_neg Bool.false_ne_true, munch,
        List.find?_cons]
      dsimp only
      cases "??".toList.isPrefixOf ('?' :: rest) <;> rfl

theorem single_eq {first : Char} {alone : Punctuator}
    (tried : (first, [alone]) ∈ listed)
    (spelled : alone.spelling = String.ofList [first]) (rest : List Char) :
    some (single alone) =
      (punctuator? (first :: rest)).map fun mark => (mark.spelling.length, mark) :=
  munch_eq tried ⟨List.forall_mem_nil _, spelled⟩ rest

theorem punctuator?_eq_none {first : Char} (rest : List Char)
    (unknown : Punctuator.lexed.filter (·.spelling.toList.head? == some first) = []) :
    punctuator? (first :: rest) = none := by
  rw [punctuator?_eq_filter, unknown]
  rfl

theorem mark?_eq (first : Char) (rest : List Char) : mark? first rest =
    (punctuator? (first :: rest)).map fun mark => (mark.spelling.length, mark) := by
  unfold mark?
  dsimp only
  split
  case h_15 => exact question_eq rest
  case h_25 =>
      -- No other character begins a mark.
      have starts : Punctuator.lexed.map (·.spelling.toList.head?) ⊆
          listed.map fun pair => some pair.1 := by
        decide +kernel
      have unknown : Punctuator.lexed.filter (·.spelling.toList.head? == some first) = [] := by
        refine List.filter_eq_nil_iff.mpr fun mark member isHead => ?_
        have isStart := starts (List.mem_map_of_mem member)
        rw [beq_iff_eq.mp isHead] at isStart
        simp_all [listed]
      rw [punctuator?_eq_none rest unknown]
      rfl
  all_goals
    first
      | exact single_eq (by decide) rfl rest
      | exact munch_eq (by decide) (by decide +kernel) rest

end TypedScript.Scan
