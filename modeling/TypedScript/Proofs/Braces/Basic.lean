import TypedScript.Proofs.Reading.Functions
import TypedScript.Proofs.TokensWithin

/-!
Bodies and their braces. A body is skipped by counting: it ends at the first closing brace before
which as many braces have been closed as opened since its own. Strings and comments play no part in
this, for what is counted are tokens.
-/

namespace TypedScript

/-! Opening and closing braces among tokens. -/

def openings (tokens : List Token) : Nat :=
  tokens.countP (·.isMark .openBrace)

def closings (tokens : List Token) : Nat :=
  tokens.countP (·.isMark .closeBrace)

section Counts

variable {token : Token} {tokens : List Token}

@[simp] theorem openings_nil : openings [] = 0 := rfl

@[simp] theorem closings_nil : closings [] = 0 := rfl

theorem openings_cons :
    openings (token :: tokens) = openings tokens + if token.isMark .openBrace then 1 else 0 :=
  List.countP_cons

theorem closings_cons :
    closings (token :: tokens) = closings tokens + if token.isMark .closeBrace then 1 else 0 :=
  List.countP_cons

theorem openings_append (first second : List Token) :
    openings (first ++ second) = openings first + openings second :=
  List.countP_append

theorem closings_append (first second : List Token) :
    closings (first ++ second) = closings first + closings second :=
  List.countP_append

theorem not_closeBrace_of_openBrace (opens : token.isMark .openBrace = true) :
    token.isMark .closeBrace = false := by
  rw [Token.isMark_iff] at opens
  simp [Token.isMark, opens]

theorem not_openBrace_of_closeBrace (closes : token.isMark .closeBrace = true) :
    token.isMark .openBrace = false := by
  rw [Token.isMark_iff] at closes
  simp [Token.isMark, closes]

end Counts

/-- In the text the body is a pair of braces that match, and what stands between them: after each of
its tokens but the last more braces are open than closed. -/
structure FunctionBody.Matches (lexed : Lexed) (body : FunctionBody) : Prop where
  opens : ∃ first, (lexed.within body.span).head? = some first ∧
    first.isMark .openBrace = true ∧ first.start = body.span.start
  closes : ∃ last, (lexed.within body.span).getLast? = some last ∧
    last.isMark .closeBrace = true ∧ last.stop = body.span.stop
  deeper : ∀ part, part <+: lexed.within body.span → part ≠ [] → part ≠ lexed.within body.span →
    closings part < openings part
  even : closings (lexed.within body.span) = openings (lexed.within body.span)
  count : body.tokenCount + 2 = (lexed.within body.span).length

theorem FunctionBody.matches_of_between {lexed : Lexed} {body : FunctionBody} {first last : Token}
    {between : List Token} (within : lexed.within body.span = first :: (between ++ [last]))
    (opens : first.isMark .openBrace = true) (start : first.start = body.span.start)
    (closes : last.isMark .closeBrace = true) (stop : last.stop = body.span.stop)
    (parts : ∀ part, part <+: between → closings part ≤ openings part)
    (balance : closings between = openings between) (count : body.tokenCount = between.length) :
    body.Matches lexed := by
  have opensOnly := not_closeBrace_of_openBrace opens
  have closesOnly := not_openBrace_of_closeBrace closes
  refine ⟨⟨first, ?_, opens, start⟩, ⟨last, ?_, closes, stop⟩, ?_, ?_, ?_⟩
  · rw [within, List.head?_cons]
  · rw [within, List.getLast?_cons, List.getLast?_concat, Option.getD_some]
  · intro part isPrefix notEmpty notAll
    rw [within] at isPrefix notAll
    rcases List.prefix_cons_iff.mp isPrefix with rfl | ⟨inner, rfl, isPrefix⟩
    · exact absurd rfl notEmpty
    · rcases List.prefix_concat_iff.mp (List.cons_prefix_cons.mp isPrefix).2 with rfl | isPrefix
      · exact absurd rfl notAll
      · have bound := parts inner isPrefix
        rw [openings_cons, closings_cons, if_pos opens, if_neg (by simp [opensOnly])]
        omega
  · rw [within, openings_cons, closings_cons, openings_append, closings_append, balance]
    simp [openings_cons, closings_cons, opens, opensOnly, closes, closesOnly]
  · rw [within, count]
    simp

namespace Parse

variable {lexed : Lexed} {before after : Cursor}

/-- What stands before the brace that closes a body closes no more braces than are open, and all of
them in the end. -/
theorem bodyLength?_balance {depth count : Nat} {tokens : List Token}
    (found : bodyLength? depth tokens = some count) :
    (∀ part, part <+: tokens.take count → closings part ≤ depth + openings part) ∧
      closings (tokens.take count) = depth + openings (tokens.take count) := by
  induction tokens generalizing depth count with
  | nil => cases found
  | cons token rest induction =>
      have goesOn {inner less : Nat} (later : bodyLength? inner rest = some less)
          (step : inner + closings [token] = depth + openings [token])
          (enough : closings [token] ≤ depth + openings [token]) :
          (∀ part, part <+: (token :: rest).take (less + 1) →
              closings part ≤ depth + openings part) ∧
            closings ((token :: rest).take (less + 1)) =
              depth + openings ((token :: rest).take (less + 1)) := by
        rcases induction later with ⟨parts, whole⟩
        rw [List.take_succ_cons]
        simp only [openings_cons, closings_cons, openings_nil, closings_nil] at step enough ⊢
        refine ⟨fun part isPrefix => ?_, by omega⟩
        rcases List.prefix_cons_iff.mp isPrefix with rfl | ⟨others, rfl, _⟩
        · simp
        · have bound := parts others (List.cons_prefix_cons.mp isPrefix).2
          rw [openings_cons, closings_cons]
          omega
      unfold bodyLength? at found
      split at found
      · next opens =>
          rcases Option.map_eq_some_iff.mp found with ⟨less, later, rfl⟩
          have noClosing := not_closeBrace_of_openBrace opens
          refine goesOn later ?_ ?_ <;>
            simp [openings_cons, closings_cons, opens, noClosing]
      · next noOpening =>
          split at found
          · next closes =>
              cases depth with
              | zero =>
                  cases found
                  refine ⟨fun part isPrefix => ?_, rfl⟩
                  rcases List.prefix_nil.mp isPrefix with rfl
                  exact Nat.zero_le _
              | succ outer =>
                  rcases Option.map_eq_some_iff.mp found with ⟨less, later, rfl⟩
                  refine goesOn later ?_ ?_ <;>
                    simp [openings_cons, closings_cons, noOpening, closes]
          · next noClosing =>
              rcases Option.map_eq_some_iff.mp found with ⟨less, later, rfl⟩
              refine goesOn later ?_ ?_ <;>
                simp [openings_cons, closings_cons, noOpening, noClosing]

theorem functionBody_matches (on : before.On lexed) {body : FunctionBody}
    (parsed : functionBody before = .ok body after) : body.Matches lexed := by
  rcases functionBody_forms parsed with ⟨_, _, whole⟩
  simp only [functionBody, bind_eq_ok, currentStart_eq_ok, get_eq_ok] at parsed
  rcases parsed with ⟨start, _, ⟨⟨token, atToken, starts⟩, rfl⟩, first, inside, opened, _, _,
    ⟨rfl, rfl⟩, parsed⟩
  rcases expectKind_eq_ok.mp opened with ⟨atFirst, opens, rfl⟩
  cases atToken.symm.trans atFirst
  cases found : bodyLength? 0 before.next.ahead with
  | none =>
      simp only [found, bind_eq_ok] at parsed
      rcases parsed with ⟨_, _, _, parsed⟩
      exact absurd parsed unexpected_ne_ok
  | some count =>
      simp only [found, bind_eq_ok, modify_eq_ok, spanFrom_eq_ok, pure_eq_ok] at parsed
      rcases parsed with ⟨_, _, rfl, last, _, closed, _, _, ⟨rfl, rfl⟩, rfl, rfl⟩
      rcases expectKind_eq_ok.mp closed with ⟨atLast, closes, rfl⟩
      rcases bodyLength?_balance found with ⟨parts, balance⟩
      have enough := Nat.le_of_lt (bodyLength?_lt found)
      have length := List.length_take_of_le enough
      have inner := before.next.skip_takes enough
      generalize before.next.ahead.take count = between at inner parts balance length
      have takes := (Cursor.next_takes atFirst (by simp [opens])).append
        (inner.append (Cursor.next_takes atLast (by simp [closes])))
      have lastStop := takes.lastStop
      rw [List.singleton_append, stopAfter_cons, stopAfter_append] at lastStop
      exact FunctionBody.matches_of_between (on.within takes whole) (Token.isMark_iff.mpr opens)
        starts (Token.isMark_iff.mpr closes) (lastStop.symm.trans (on.stop_of_whole whole).symm)
        (by simpa using parts) (by simpa using balance) length.symm

end Parse

/-! Trees with bodies in them. -/

def Node.BodyMatches (lexed : Lexed) : Node → Prop
  | .functionBody content => content.Matches lexed
  | _ => True

abbrev Braced (lexed : Lexed) {α : Type} (node : α → Node) (value : α) : Prop :=
  (node value).Everywhere (Node.BodyMatches lexed)

namespace Node

variable {lexed : Lexed} {node : Node}

/-- Whether the node belongs to a type, or may: it is no program, no statement and no body. -/
def isPlain : Node → Bool
  | .program _ | .statement _ | .functionBody _ => false
  | _ => true

theorem isPlain_of_mem_children (noExpression : node.isExpression = false)
    (plain : node.isPlain = true) : ∀ child ∈ node.children, child.isPlain = true := by
  intro child member
  cases node with
  | program => cases plain
  | statement => cases plain
  | functionBody => cases plain
  | expression => cases noExpression
  | type content => cases content <;> grind [children, TypeExpr.children, isPlain]
  | typeMember content => cases content <;> grind [children, TypeMember.children, isPlain]
  | typeParameter => grind [children, TypeParameter.children, isPlain]
  | parameter => grind [children, Parameter.children, isPlain]
  | objectProperty content => cases content <;> grind [children, isPlain]
  | propertyKey content => cases content <;> grind [children, isPlain]
  | _ => grind [children, isPlain]

theorem Expressionless.braced (expressionless : node.Expressionless) (plain : node.isPlain = true) :
    node.Everywhere (BodyMatches lexed) := by
  induction node using Node.induction with
  | step node induction =>
      rcases everywhere_iff.mp expressionless with ⟨noExpression, below⟩
      refine everywhere_iff.mpr ⟨?_, fun child member => ?_⟩
      · cases node with
        | functionBody => cases plain
        | _ => trivial
      · exact induction child member (below child member)
          (isPlain_of_mem_children noExpression plain child member)

theorem braced_leaf (own : node.BodyMatches lexed) (isLeaf : node.children = []) :
    node.Everywhere (BodyMatches lexed) := by
  refine everywhere_iff.mpr ⟨own, fun child member => ?_⟩
  rw [isLeaf] at member
  cases member

@[simp] theorem braced_identifier (name : Identifier) : Braced lexed .identifier name :=
  braced_leaf trivial rfl

@[simp] theorem braced_literal (constant : Literal) : Braced lexed .literal constant :=
  braced_leaf trivial rfl

@[simp] theorem braced_moduleName (name : ModuleName) : Braced lexed .moduleName name :=
  braced_leaf trivial rfl

end Node

end TypedScript
