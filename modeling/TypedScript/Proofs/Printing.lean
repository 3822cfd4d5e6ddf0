import TypedScript.Parser.Basic
import TypedScript.Proofs.Lexing.Writing
import TypedScript.Tree.Node

/-!
How types are printed, and which of them can be. A type is printed with one blank after each of its
lexemes, with no mark that may be left out except for the semicolons after members. Main statement:
a printed type is read as the lexemes it was printed with.
-/

namespace TypedScript

/-! The lexemes of a type. -/

def Lexeme.name (keywords : KeywordSet) (text : String) : Lexeme :=
  ⟨Scan.nameKind keywords text.toList, text, none⟩

def Identifier.parts (name : Identifier) : List String :=
  (name.text.toList.splitOn '.').map String.ofList

def LiteralValue.lexeme : LiteralValue → Lexeme
  | .string value => .string value
  | .number digits => ⟨.numericLiteral, digits, none⟩
  | .boolean true => .word "true"
  | .boolean false => .word "false"
  | .null => .word "null"

namespace Lexeme

def separated (mark : Punctuator) : List (List Lexeme) → List Lexeme
  | [] => []
  | first :: others => first ++ others.flatMap (.mark mark :: ·)

def bracketed : List (List Lexeme) → List Lexeme
  | [] => []
  | items => .mark .lessThan :: (separated .comma items ++ [.mark .greaterThan])

end Lexeme

mutual

def TypeExpr.lexemes (keywords : KeywordSet) : TypeExpr → List Lexeme
  | .named _ name arguments =>
      Lexeme.separated .dot (name.parts.map fun part => [.name keywords part]) ++
        Lexeme.bracketed (argumentLexemes keywords arguments)
  | .primitive _ keyword => [.word keyword.spelling]
  | .literal _ constant => [constant.value.lexeme]
  | .union _ members => Lexeme.separated .bar (typeLexemes keywords members)
  | .intersection _ members => Lexeme.separated .ampersand (typeLexemes keywords members)
  | .array _ element => element.lexemes keywords ++ [.mark .openBracket, .mark .closeBracket]
  | .parenthesized _ inner => .mark .openParen :: (inner.lexemes keywords ++ [.mark .closeParen])
  | .object _ members =>
      .mark .openBrace :: ((memberLexemes keywords members).flatten ++ [.mark .closeBrace])
  | .tuple _ elements =>
      .mark .openBracket ::
        (Lexeme.separated .comma (typeLexemes keywords elements) ++ [.mark .closeBracket])
  | .function _ typeParameters parameters result =>
      Lexeme.bracketed (typeParameterLexemes keywords typeParameters) ++
        .mark .openParen :: (Lexeme.separated .comma (parameterLexemes keywords parameters) ++
          .mark .closeParen :: .mark .arrow :: result.lexemes keywords)

def TypeMember.lexemes (keywords : KeywordSet) : TypeMember → List Lexeme
  | .property _ name optional declaredType =>
      .name keywords name.text :: (Lexeme.flag optional .question ++
        (leadLexemes keywords (.mark .colon) declaredType ++ [.mark .semicolon]))
  | .method _ name optional typeParameters parameters result =>
      .name keywords name.text :: (Lexeme.flag optional .question ++
        (Lexeme.bracketed (typeParameterLexemes keywords typeParameters) ++
          .mark .openParen :: (Lexeme.separated .comma (parameterLexemes keywords parameters) ++
            .mark .closeParen ::
              (leadLexemes keywords (.mark .colon) result ++ [.mark .semicolon]))))

def TypeParameter.lexemes (keywords : KeywordSet) : TypeParameter → List Lexeme
  | ⟨_, name, constraint, fallback⟩ =>
      .word name.text :: (leadLexemes keywords (.word "extends") constraint ++
        leadLexemes keywords (.mark .equals) fallback)

def Parameter.lexemes (keywords : KeywordSet) : Parameter → List Lexeme
  | ⟨_, isRest, name, optional, declaredType, _⟩ =>
      Lexeme.flag isRest .dotDotDot ++ .word name.text :: (Lexeme.flag optional .question ++
        leadLexemes keywords (.mark .colon) declaredType)

def leadLexemes (keywords : KeywordSet) (lead : Lexeme) : Option TypeExpr → List Lexeme
  | none => []
  | some type => lead :: type.lexemes keywords

def argumentLexemes (keywords : KeywordSet) : Option (List TypeExpr) → List (List Lexeme)
  | none => []
  | some types => typeLexemes keywords types

def typeLexemes (keywords : KeywordSet) : List TypeExpr → List (List Lexeme)
  | [] => []
  | first :: rest => first.lexemes keywords :: typeLexemes keywords rest

def memberLexemes (keywords : KeywordSet) : List TypeMember → List (List Lexeme)
  | [] => []
  | first :: rest => first.lexemes keywords :: memberLexemes keywords rest

def typeParameterLexemes (keywords : KeywordSet) : List TypeParameter → List (List Lexeme)
  | [] => []
  | first :: rest => first.lexemes keywords :: typeParameterLexemes keywords rest

def parameterLexemes (keywords : KeywordSet) : List Parameter → List (List Lexeme)
  | [] => []
  | first :: rest => first.lexemes keywords :: parameterLexemes keywords rest

end

def TypeExpr.print (keywords : KeywordSet) (type : TypeExpr) : String :=
  String.ofList (Lexeme.write (type.lexemes keywords))

/-! The levels that a type needs. -/

def TypeExpr.suffixes : TypeExpr → Nat
  | .array _ element => element.suffixes + 1
  | _ => 0

namespace Node

/-- How many levels deeper a child is read. Every type is read one level deeper, except where it is
a member of a union or an intersection or the element of an array. -/
def descent : Node → Node → Nat
  | .type (.union ..), _ | .type (.intersection ..), _ | .type (.array ..), _ => 0
  | _, .type _ => 1
  | _, _ => 0

def suffixes : Node → Nat
  | .type content => content.suffixes
  | _ => 0

/-- How many levels there must be below a node. Each `[]` after a type is one level deeper than the
one before. -/
def room (node : Node) : Nat :=
  (node.children.attach.map fun ⟨child, _⟩ => child.room + node.descent child).foldr max
    node.suffixes
termination_by node
decreasing_by exact sizeOf_lt_of_mem_children ‹_›

end Node

def TypeExpr.levels (type : TypeExpr) : Nat :=
  (Node.type type).room + 1

/-! The types that can be printed. -/

def IsPlainName (keywords : KeywordSet) (text : String) : Prop :=
  Lexeme.isNameText text = true ∧ keywords.lookup text = none

def LiteralValue.Occurs (value : LiteralValue) : Prop :=
  ∃ keywords source, ∃ token ∈ (lex keywords source).tokens,
    (Parse.literalOf? token).map (·.value) = some value

/-- The name of a type: a plain one that is no literal and, unless dots follow it, no primitive
type. After a dot any name may stand. -/
def Identifier.NamesType (keywords : KeywordSet) (name : Identifier) : Prop :=
  ∃ first others, name.parts = first :: others ∧ IsPlainName keywords first ∧
    first ∉ ["true", "false", "null"] ∧
    (others = [] → Primitive.ofSpelling? first = none) ∧
    ∀ part ∈ others, Lexeme.isNameText part = true

namespace TypeExpr

def isUnion : TypeExpr → Bool
  | .union .. => true
  | _ => false

def isIntersection : TypeExpr → Bool
  | .intersection .. => true
  | _ => false

def isFunction : TypeExpr → Bool
  | .function .. => true
  | _ => false

inductive EndsInFunction : TypeExpr → Prop
  | function {span typeParameters parameters result} :
      EndsInFunction (.function span typeParameters parameters result)
  | union {span members last} :
      members.getLast? = some last → EndsInFunction last → EndsInFunction (.union span members)
  | intersection {span members last} :
      members.getLast? = some last → EndsInFunction last →
      EndsInFunction (.intersection span members)

def Printable (keywords : KeywordSet) : TypeExpr → Prop
  | .named _ name arguments => name.NamesType keywords ∧ arguments ≠ some []
  | .literal _ constant => constant.value.Occurs
  | .union _ members =>
      2 ≤ members.length ∧ (∀ member ∈ members, member.isUnion = false) ∧
        ∀ member ∈ members.dropLast, ¬member.EndsInFunction
  | .intersection _ members =>
      2 ≤ members.length ∧
        (∀ member ∈ members, member.isUnion = false ∧ member.isIntersection = false) ∧
        ∀ member ∈ members.dropLast, ¬member.EndsInFunction
  | .array _ element =>
      element.isUnion = false ∧ element.isIntersection = false ∧ element.isFunction = false
  | .primitive .. | .parenthesized .. | .object .. | .tuple .. | .function .. => True

end TypeExpr

def TypeMember.name : TypeMember → Identifier
  | .property _ name _ _ | .method _ name _ _ _ _ => name

def Node.Printable (keywords : KeywordSet) : Node → Prop
  | .type content => content.Printable keywords
  | .typeMember content => Lexeme.isNameText content.name.text = true
  | .typeParameter content => IsPlainName keywords content.name.text
  | .parameter content => IsPlainName keywords content.name.text ∧ content.initializer = none
  | _ => True

def Node.AllPrintable (keywords : KeywordSet) (node : Node) : Prop :=
  ∀ below ∈ node.preorder, below.Printable keywords

namespace Node.AllPrintable

variable {keywords : KeywordSet} {node child : Node}

theorem own (printable : node.AllPrintable keywords) : node.Printable keywords :=
  printable node (by rw [preorder_eq]; exact List.mem_cons_self ..)

theorem below (printable : node.AllPrintable keywords) (member : child ∈ node.children) :
    child.AllPrintable keywords := by
  intro below inside
  refine printable below ?_
  rw [preorder_eq]
  exact List.mem_cons_of_mem _ (List.mem_flatMap.mpr ⟨child, member, inside⟩)

end Node.AllPrintable

/-! Words that mean something are never reserved. -/

theorem KeywordSet.lookup_eq_none (keywords : KeywordSet) {text : String}
    (noKeyword : Keyword.ofSpelling? text = none) : keywords.lookup text = none := by
  rw [lookup, noKeyword, Option.filter_none]

theorem Primitive.ofSpelling?_eq_none (primitive : Primitive) :
    Keyword.ofSpelling? primitive.spelling = none := by
  cases primitive <;> decide

/-! Lists are printed item by item. -/

section Lists

variable (keywords : KeywordSet)

@[simp] theorem typeLexemes_eq (types : List TypeExpr) :
    typeLexemes keywords types = types.map (·.lexemes keywords) := by
  induction types with
  | nil => rw [typeLexemes, List.map_nil]
  | cons first rest induction => rw [typeLexemes, induction, List.map_cons]

@[simp] theorem memberLexemes_eq (members : List TypeMember) :
    memberLexemes keywords members = members.map (·.lexemes keywords) := by
  induction members with
  | nil => rw [memberLexemes, List.map_nil]
  | cons first rest induction => rw [memberLexemes, induction, List.map_cons]

@[simp] theorem typeParameterLexemes_eq (parameters : List TypeParameter) :
    typeParameterLexemes keywords parameters = parameters.map (·.lexemes keywords) := by
  induction parameters with
  | nil => rw [typeParameterLexemes, List.map_nil]
  | cons first rest induction => rw [typeParameterLexemes, induction, List.map_cons]

@[simp] theorem parameterLexemes_eq (parameters : List Parameter) :
    parameterLexemes keywords parameters = parameters.map (·.lexemes keywords) := by
  induction parameters with
  | nil => rw [parameterLexemes, List.map_nil]
  | cons first rest induction => rw [parameterLexemes, induction, List.map_cons]

@[simp] theorem argumentLexemes_eq (arguments : Option (List TypeExpr)) :
    argumentLexemes keywords arguments = (arguments.getD []).map (·.lexemes keywords) := by
  cases arguments with
  | none => rw [argumentLexemes, Option.getD_none, List.map_nil]
  | some types => rw [argumentLexemes, Option.getD_some, typeLexemes_eq]

end Lists

namespace Lexeme

/-- Whether all lexemes of a list are read back where blanks stand after them. -/
def AllReadable (keywords : KeywordSet) (lexemes : List Lexeme) : Prop :=
  ∀ lexeme ∈ lexemes, lexeme.Readable keywords

namespace AllReadable

variable {α : Type} {keywords : KeywordSet} {lexemes others : List Lexeme} {values : List α}
  {print : α → List Lexeme}

theorem nil : AllReadable keywords [] := by
  simp [AllReadable]

theorem cons {lexeme : Lexeme} (first : lexeme.Readable keywords)
    (rest : AllReadable keywords lexemes) : AllReadable keywords (lexeme :: lexemes) :=
  List.forall_mem_cons.mpr ⟨first, rest⟩

theorem append (first : AllReadable keywords lexemes) (second : AllReadable keywords others) :
    AllReadable keywords (lexemes ++ others) :=
  List.forall_mem_append.mpr ⟨first, second⟩

theorem mark {mark : Punctuator}
    (plain : mark ∉ [Punctuator.greaterThanEquals, .slash, .slashEquals])
    (rest : AllReadable keywords lexemes) : AllReadable keywords (.mark mark :: lexemes) :=
  cons (mark_readable plain) rest

theorem flag (present : Bool) {mark : Punctuator}
    (plain : mark ∉ [Punctuator.greaterThanEquals, .slash, .slashEquals]) :
    AllReadable keywords (Lexeme.flag present mark) := by
  cases present with
  | true => exact .mark plain .nil
  | false => exact .nil

theorem flatten (readable : ∀ value ∈ values, AllReadable keywords (print value)) :
    AllReadable keywords (values.map print).flatten := by
  intro lexeme member
  rw [← List.flatMap_def] at member
  rcases List.mem_flatMap.mp member with ⟨value, inside, lexemeInside⟩
  exact readable value inside lexeme lexemeInside

theorem separated {mark : Punctuator}
    (plain : mark ∉ [Punctuator.greaterThanEquals, .slash, .slashEquals])
    (readable : ∀ value ∈ values, AllReadable keywords (print value)) :
    AllReadable keywords (Lexeme.separated mark (values.map print)) := by
  cases values with
  | nil => exact .nil
  | cons first others =>
      rw [List.forall_mem_cons] at readable
      rw [List.map_cons, Lexeme.separated, List.flatMap_map]
      refine .append readable.1 ?_
      intro lexeme member
      rcases List.mem_flatMap.mp member with ⟨value, inside, lexemeInside⟩
      exact cons (mark_readable plain) (readable.2 value inside) lexeme lexemeInside

theorem bracketed (readable : ∀ value ∈ values, AllReadable keywords (print value)) :
    AllReadable keywords (Lexeme.bracketed (values.map print)) := by
  cases values with
  | nil => exact .nil
  | cons first others =>
      exact .mark (by decide) (.append (.separated (by decide) readable) (.mark (by decide) .nil))

end AllReadable

theorem number_of_occurs {digits : String} (occurs : (LiteralValue.number digits).Occurs) :
    Scan.Number digits.toList := by
  rcases occurs with ⟨keywords, source, token, member, same⟩
  simp only [Parse.literalOf?] at same
  split at same
  · simp at same
  · next kind =>
      simp only [Option.map_some, Option.some.injEq, LiteralValue.number.injEq] at same
      rw [← same]
      exact Lexer.run_number member kind
  · split at same
    · simp at same
    · split at same
      · simp at same
      · split at same <;> simp at same
  · simp at same

theorem literal_readable {keywords : KeywordSet} {value : LiteralValue} (occurs : value.Occurs) :
    value.lexeme.Readable keywords := by
  have words : ∀ {text : String}, isNameText text = true → Keyword.ofSpelling? text = none →
      (Lexeme.word text).Readable keywords :=
    fun isName noKeyword => word_readable isName (keywords.lookup_eq_none noKeyword)
  cases value with
  | string value => exact string_readable value
  | number digits => exact number_readable (number_of_occurs occurs)
  | boolean value =>
      cases value with
      | true => exact words (by decide) (by decide)
      | false => exact words (by decide) (by decide)
  | null => exact words (by decide) (by decide)

end Lexeme

def Node.lexemes (keywords : KeywordSet) : Node → List Lexeme
  | .type content => content.lexemes keywords
  | .typeMember content => content.lexemes keywords
  | .typeParameter content => content.lexemes keywords
  | .parameter content => content.lexemes keywords
  | _ => []

section Readable

open Lexeme (mark_readable name_readable word_readable)

variable {keywords : KeywordSet}

theorem leadLexemes_readable {lead : Lexeme} {type? : Option TypeExpr}
    (leadReadable : lead.Readable keywords)
    (readable : ∀ type ∈ type?.toList, Lexeme.AllReadable keywords (type.lexemes keywords)) :
    Lexeme.AllReadable keywords (leadLexemes keywords lead type?) := by
  cases type? with
  | none =>
      rw [leadLexemes]
      exact .nil
  | some type =>
      rw [leadLexemes]
      exact .cons leadReadable (readable type (by simp))

theorem TypeExpr.lexemes_readable {type : TypeExpr} (own : type.Printable keywords)
    (below : ∀ child ∈ type.children, Lexeme.AllReadable keywords (child.lexemes keywords)) :
    Lexeme.AllReadable keywords (type.lexemes keywords) := by
  cases type with
  | named _ name arguments =>
      rcases own with ⟨⟨first, others, parts, plain, _, _, names⟩, _⟩
      simp only [children, List.forall_mem_append, List.forall_mem_map] at below
      simp only [lexemes, parts, argumentLexemes_eq]
      refine .append (.separated (by decide) ?_) (.bracketed below.2)
      rw [List.forall_mem_cons]
      exact ⟨.cons (name_readable plain.1) .nil, fun part member =>
        .cons (name_readable (names part member)) .nil⟩
  | primitive _ keyword =>
      rw [lexemes]
      exact .cons (word_readable (by cases keyword <;> decide)
        (keywords.lookup_eq_none keyword.ofSpelling?_eq_none)) .nil
  | literal _ constant =>
      rw [lexemes]
      exact .cons (Lexeme.literal_readable own) .nil
  | union _ members =>
      simp only [children, List.forall_mem_map] at below
      simp only [lexemes, typeLexemes_eq]
      exact .separated (by decide) below
  | intersection _ members =>
      simp only [children, List.forall_mem_map] at below
      simp only [lexemes, typeLexemes_eq]
      exact .separated (by decide) below
  | array _ element =>
      rw [lexemes]
      exact .append (below (.type element) (List.mem_cons_self ..))
        (.mark (by decide) (.mark (by decide) .nil))
  | parenthesized _ inner =>
      rw [lexemes]
      exact .mark (by decide) (.append (below (.type inner) (List.mem_cons_self ..))
        (.mark (by decide) .nil))
  | object _ members =>
      simp only [children, List.forall_mem_map] at below
      simp only [lexemes, memberLexemes_eq]
      exact .mark (by decide) (.append (.flatten below) (.mark (by decide) .nil))
  | tuple _ elements =>
      simp only [children, List.forall_mem_map] at below
      simp only [lexemes, typeLexemes_eq]
      exact .mark (by decide) (.append (.separated (by decide) below) (.mark (by decide) .nil))
  | function _ typeParameters parameters result =>
      simp only [children, List.forall_mem_append, List.forall_mem_map,
        List.forall_mem_singleton] at below
      simp only [lexemes, typeParameterLexemes_eq, parameterLexemes_eq]
      exact .append (.bracketed below.1.1) (.mark (by decide) (.append
        (.separated (by decide) below.1.2) (.mark (by decide) (.mark (by decide) below.2))))

theorem TypeMember.lexemes_readable {content : TypeMember}
    (isName : Lexeme.isNameText content.name.text = true)
    (below : ∀ child ∈ content.children, Lexeme.AllReadable keywords (child.lexemes keywords)) :
    Lexeme.AllReadable keywords (content.lexemes keywords) := by
  cases content with
  | property _ name optional declaredType =>
      simp only [children, List.forall_mem_append, List.forall_mem_map] at below
      rw [lexemes]
      exact .cons (name_readable isName) (.append (.flag optional (by decide)) (.append
        (leadLexemes_readable (mark_readable (by decide)) below.2) (.mark (by decide) .nil)))
  | method _ name optional typeParameters parameters result =>
      simp only [children, List.forall_mem_append, List.forall_mem_map] at below
      simp only [lexemes, typeParameterLexemes_eq, parameterLexemes_eq]
      exact .cons (name_readable isName) (.append (.flag optional (by decide)) (.append
        (.bracketed below.1.1.2) (.mark (by decide) (.append (.separated (by decide) below.1.2)
          (.mark (by decide) (.append (leadLexemes_readable (mark_readable (by decide)) below.2)
            (.mark (by decide) .nil)))))))

theorem Node.lexemes_readable {node : Node} (printable : node.AllPrintable keywords) :
    Lexeme.AllReadable keywords (node.lexemes keywords) := by
  induction node using Node.induction with
  | step node induction =>
      have below : ∀ child ∈ node.children, Lexeme.AllReadable keywords (child.lexemes keywords) :=
        fun child member => induction child member (printable.below member)
      have own := printable.own
      cases node with
      | type => exact TypeExpr.lexemes_readable own below
      | typeMember => exact TypeMember.lexemes_readable own below
      | typeParameter content =>
          rcases content with ⟨_, name, constraint, fallback⟩
          simp only [children, TypeParameter.children, List.forall_mem_append,
            List.forall_mem_map] at below
          have extends_readable : (Lexeme.word "extends").Readable keywords :=
            word_readable (by decide) (keywords.lookup_eq_none (by decide))
          rw [lexemes, TypeParameter.lexemes]
          exact .cons (word_readable own.1 own.2) (.append
            (leadLexemes_readable extends_readable below.1.2)
            (leadLexemes_readable (mark_readable (by decide)) below.2))
      | parameter content =>
          rcases content with ⟨_, isRest, name, optional, declaredType, _⟩
          simp only [children, Parameter.children, List.forall_mem_append,
            List.forall_mem_map] at below
          rw [lexemes, Parameter.lexemes]
          exact .append (.flag _ (by decide)) (.cons (word_readable own.1.1 own.1.2) (.append
            (.flag _ (by decide)) (leadLexemes_readable (mark_readable (by decide)) below.1.2)))
      | _ => exact .nil

end Readable

theorem lex_print {keywords : KeywordSet} {type : TypeExpr}
    (printable : (Node.type type).AllPrintable keywords) :
    (lex keywords (type.print keywords)).tokens.map Token.lexeme = type.lexemes keywords ∧
      (∃ last, (lex keywords (type.print keywords)).ending = .endOfFile last) ∧
      ∀ token ∈ (lex keywords (type.print keywords)).tokens, token.afterLineBreak = false :=
  lex_write (Node.lexemes_readable printable)

end TypedScript
