import TypedScript.Token.Basic
import TypedScript.Tree.Basic

/-!
How trees are written. A tree is spelled by a sequence of lexemes, node by node: each node has its
own marks and words, its names and literals, and its parts in their order. Where a text may be
written in more than one way the relations below say so: a lexeme that may be left out is wrapped
in `Perhaps`, a comma after the last item stands in `Listed`, and the rest is in the constructors.
-/

namespace TypedScript

/-- A token without its place: its kind, its characters and, if it is a string, what it denotes. -/
structure Lexeme where
  kind : TokenKind
  text : String
  value? : Option String
deriving DecidableEq, Repr

namespace Lexeme

def mark (mark : Punctuator) : Lexeme :=
  ⟨.punctuator mark, mark.spelling, none⟩

def keyword (word : Keyword) : Lexeme :=
  ⟨.keyword word, word.spelling, none⟩

def word (text : String) : Lexeme :=
  ⟨.identifier, text, none⟩

def flag (present : Bool) (mark : Punctuator) : List Lexeme :=
  if present then [.mark mark] else []

end Lexeme

def Token.lexeme (token : Token) : Lexeme :=
  ⟨token.kind, token.text, token.stringValue?⟩

/-! Ways of putting spellings together. -/

section Combinations

variable {α : Type}

inductive Perhaps (mark : Punctuator) : List Lexeme → Prop
  | absent : Perhaps mark []
  | present : Perhaps mark [.mark mark]

/-- Something that may be left out, together with the lexeme that leads to it. -/
inductive After (lead : Lexeme) (item : α → List Lexeme → Prop) : Option α → List Lexeme → Prop
  | absent : After lead item none []
  | present {value lexemes} : item value lexemes → After lead item (some value) (lead :: lexemes)

inductive Separated (mark : Punctuator) (item : α → List Lexeme → Prop) :
    List α → List Lexeme → Prop
  | single {value lexemes} : item value lexemes → Separated mark item [value] lexemes
  | cons {value lexemes values later} :
      item value lexemes → Separated mark item values later →
      Separated mark item (value :: values) (lexemes ++ .mark mark :: later)

/-- Any number of items with commas between them. A comma may stand after the last one. -/
inductive Listed (item : α → List Lexeme → Prop) : List α → List Lexeme → Prop
  | empty : Listed item [] []
  | items {values lexemes comma} :
      Separated .comma item values lexemes → Perhaps .comma comma →
      Listed item values (lexemes ++ comma)

inductive Arguments (item : α → List Lexeme → Prop) : Option (List α) → List Lexeme → Prop
  | absent : Arguments item none []
  | present {values lexemes} :
      Separated .comma item values lexemes →
      Arguments item (some values) (.mark .lessThan :: lexemes ++ [.mark .greaterThan])

inductive Parameters (item : α → List Lexeme → Prop) : List α → List Lexeme → Prop
  | absent : Parameters item [] []
  | present {values lexemes comma} :
      Separated .comma item values lexemes → Perhaps .comma comma →
      Parameters item values (.mark .lessThan :: lexemes ++ comma ++ [.mark .greaterThan])

inductive Members (item : α → List Lexeme → Prop) : List α → List Lexeme → Prop
  | empty : Members item [] []
  | cons {value lexemes separator values later} :
      item value lexemes → Perhaps .semicolon separator ∨ Perhaps .comma separator →
      Members item values later → Members item (value :: values) (lexemes ++ separator ++ later)

theorem Listed.cons {item : α → List Lexeme → Prop} {value : α} {lexemes : List Lexeme}
    {values : List α} {later : List Lexeme} (first : item value lexemes)
    (others : Listed item values later) :
    Listed item (value :: values) (lexemes ++ .mark .comma :: later) := by
  cases others with
  | empty => exact .items (.single first) .present
  | items separated comma =>
      rw [← List.cons_append, ← List.append_assoc]
      exact .items (.cons first separated) comma

end Combinations

/-! Names, literals and bodies. -/

def Identifier.Spelled (name : Identifier) (lexemes : List Lexeme) : Prop :=
  lexemes = [.word name.text]

inductive FreeName : String → List Lexeme → Prop
  | plain {text} : FreeName text [.word text]
  | reserved {word : Keyword} : FreeName word.spelling [.keyword word]

def Identifier.SpelledFreely (name : Identifier) (lexemes : List Lexeme) : Prop :=
  FreeName name.text lexemes

inductive DottedParts : List String → List Lexeme → Prop
  | nil : DottedParts [] []
  | cons {part lexemes parts later} :
      FreeName part lexemes → DottedParts parts later →
      DottedParts (part :: parts) (.mark .dot :: lexemes ++ later)

inductive Identifier.SpelledInParts : Identifier → List Lexeme → Prop
  | intro {span first parts lexemes} :
      DottedParts parts lexemes →
      SpelledInParts ⟨span, String.intercalate "." (first :: parts)⟩ (.word first :: lexemes)

inductive LiteralValue.Spelled : LiteralValue → List Lexeme → Prop
  | string {text value} : Spelled (.string value) [⟨.stringLiteral, text, some value⟩]
  | number {digits} : Spelled (.number digits) [⟨.numericLiteral, digits, none⟩]
  | true : Spelled (.boolean true) [.word "true"]
  | false : Spelled (.boolean false) [.word "false"]
  | null : Spelled .null [.word "null"]

def Literal.Spelled (literal : Literal) (lexemes : List Lexeme) : Prop :=
  literal.value.Spelled lexemes

def ModuleName.Spelled (name : ModuleName) (lexemes : List Lexeme) : Prop :=
  (LiteralValue.string name.value).Spelled lexemes

def PropertyKey.Spelled : PropertyKey → List Lexeme → Prop
  | .identifier name, lexemes => name.SpelledFreely lexemes
  | .literal constant, lexemes => constant.Spelled lexemes

/-- Any tokens may stand between the braces of a body, as many as it says. -/
inductive FunctionBody.Spelled : FunctionBody → List Lexeme → Prop
  | intro {span count inner} :
      inner.length = count →
      Spelled ⟨span, count⟩ (.mark .openBrace :: inner ++ [.mark .closeBrace])

/-- A binary operator. Greater-or-equal is written with two tokens. -/
def Punctuator.operatorLexemes : Punctuator → List Lexeme
  | .greaterThanEquals => [.mark .greaterThan, .mark .equals]
  | operator => [.mark operator]

/-! Types and expressions. -/

inductive TypeRank where
  | type
  | unionMember
  | intersectionMember
deriving DecidableEq, Repr

mutual

inductive TypeExpr.Spelled : TypeRank → TypeExpr → List Lexeme → Prop
  | single {type bar lexemes} :
      Perhaps .bar bar → TypeExpr.Spelled .unionMember type lexemes →
      TypeExpr.Spelled .type type (bar ++ lexemes)
  | union {span members bar lexemes} :
      Perhaps .bar bar → Separated .bar (TypeExpr.Spelled .unionMember) members lexemes →
      TypeExpr.Spelled .type (.union span members) (bar ++ lexemes)
  /-- A member of a union that is no intersection. An ampersand may stand before it. -/
  | singleMember {type ampersand lexemes} :
      Perhaps .ampersand ampersand → TypeExpr.Spelled .intersectionMember type lexemes →
      TypeExpr.Spelled .unionMember type (ampersand ++ lexemes)
  | intersection {span members ampersand lexemes} :
      Perhaps .ampersand ampersand →
      Separated .ampersand (TypeExpr.Spelled .intersectionMember) members lexemes →
      TypeExpr.Spelled .unionMember (.intersection span members) (ampersand ++ lexemes)
  | array {span element lexemes} :
      TypeExpr.Spelled .intersectionMember element lexemes →
      TypeExpr.Spelled .intersectionMember (.array span element)
        (lexemes ++ [.mark .openBracket, .mark .closeBracket])
  | named {span name arguments nameLexemes argumentLexemes} :
      name.SpelledInParts nameLexemes →
      Arguments (TypeExpr.Spelled .type) arguments argumentLexemes →
      TypeExpr.Spelled .intersectionMember (.named span name arguments)
        (nameLexemes ++ argumentLexemes)
  | primitive {span keyword} :
      TypeExpr.Spelled .intersectionMember (.primitive span keyword) [.word keyword.spelling]
  | literal {span constant lexemes} :
      constant.Spelled lexemes →
      TypeExpr.Spelled .intersectionMember (.literal span constant) lexemes
  | parenthesized {span inner lexemes} :
      TypeExpr.Spelled .type inner lexemes →
      TypeExpr.Spelled .intersectionMember (.parenthesized span inner)
        (.mark .openParen :: lexemes ++ [.mark .closeParen])
  | object {span members lexemes} :
      Members TypeMember.Spelled members lexemes →
      TypeExpr.Spelled .intersectionMember (.object span members)
        (.mark .openBrace :: lexemes ++ [.mark .closeBrace])
  | tuple {span elements lexemes} :
      Listed (TypeExpr.Spelled .type) elements lexemes →
      TypeExpr.Spelled .intersectionMember (.tuple span elements)
        (.mark .openBracket :: lexemes ++ [.mark .closeBracket])
  | function {span typeParameters parameters result typeParameterLexemes parameterLexemes
        resultLexemes} :
      Parameters TypeParameter.Spelled typeParameters typeParameterLexemes →
      Listed Parameter.Spelled parameters parameterLexemes →
      TypeExpr.Spelled .type result resultLexemes →
      TypeExpr.Spelled .intersectionMember (.function span typeParameters parameters result)
        (typeParameterLexemes ++ .mark .openParen :: parameterLexemes ++
          .mark .closeParen :: .mark .arrow :: resultLexemes)

inductive TypeMember.Spelled : TypeMember → List Lexeme → Prop
  | property {span name optional declaredType nameLexemes typeLexemes} :
      name.SpelledFreely nameLexemes →
      After (.mark .colon) (TypeExpr.Spelled .type) declaredType typeLexemes →
      TypeMember.Spelled (.property span name optional declaredType)
        (nameLexemes ++ Lexeme.flag optional .question ++ typeLexemes)
  | method {span name optional typeParameters parameters result nameLexemes typeParameterLexemes
        parameterLexemes resultLexemes} :
      name.SpelledFreely nameLexemes →
      Parameters TypeParameter.Spelled typeParameters typeParameterLexemes →
      Listed Parameter.Spelled parameters parameterLexemes →
      After (.mark .colon) (TypeExpr.Spelled .type) result resultLexemes →
      TypeMember.Spelled (.method span name optional typeParameters parameters result)
        (nameLexemes ++ Lexeme.flag optional .question ++ typeParameterLexemes ++
          .mark .openParen :: parameterLexemes ++ .mark .closeParen :: resultLexemes)

inductive TypeParameter.Spelled : TypeParameter → List Lexeme → Prop
  | intro {span name constraint fallback nameLexemes constraintLexemes fallbackLexemes} :
      name.Spelled nameLexemes →
      After (.word "extends") (TypeExpr.Spelled .type) constraint constraintLexemes →
      After (.mark .equals) (TypeExpr.Spelled .type) fallback fallbackLexemes →
      TypeParameter.Spelled ⟨span, name, constraint, fallback⟩
        (nameLexemes ++ constraintLexemes ++ fallbackLexemes)

inductive Parameter.Spelled : Parameter → List Lexeme → Prop
  | intro {span isRest name optional declaredType initializer nameLexemes typeLexemes
        initializerLexemes} :
      name.Spelled nameLexemes →
      After (.mark .colon) (TypeExpr.Spelled .type) declaredType typeLexemes →
      After (.mark .equals) Expression.Spelled initializer initializerLexemes →
      Parameter.Spelled ⟨span, isRest, name, optional, declaredType, initializer⟩
        (Lexeme.flag isRest .dotDotDot ++ nameLexemes ++ Lexeme.flag optional .question ++
          typeLexemes ++ initializerLexemes)

inductive Expression.Spelled : Expression → List Lexeme → Prop
  | identifier {name lexemes} :
      name.Spelled lexemes → Expression.Spelled (.identifier name) lexemes
  | literal {constant lexemes} :
      constant.Spelled lexemes → Expression.Spelled (.literal constant) lexemes
  | call {span callee typeArguments arguments calleeLexemes typeArgumentLexemes
        argumentLexemes} :
      Expression.Spelled callee calleeLexemes →
      Arguments (TypeExpr.Spelled .type) typeArguments typeArgumentLexemes →
      Listed Expression.Spelled arguments argumentLexemes →
      Expression.Spelled (.call span callee typeArguments arguments)
        (calleeLexemes ++ typeArgumentLexemes ++
          .mark .openParen :: argumentLexemes ++ [.mark .closeParen])
  | newPlain {span callee typeArguments calleeLexemes typeArgumentLexemes} :
      Expression.Spelled callee calleeLexemes →
      Arguments (TypeExpr.Spelled .type) typeArguments typeArgumentLexemes →
      Expression.Spelled (.new span callee typeArguments none)
        (.keyword .newWord :: calleeLexemes ++ typeArgumentLexemes)
  | newCall {span callee typeArguments arguments calleeLexemes typeArgumentLexemes
        argumentLexemes} :
      Expression.Spelled callee calleeLexemes →
      Arguments (TypeExpr.Spelled .type) typeArguments typeArgumentLexemes →
      Listed Expression.Spelled arguments argumentLexemes →
      Expression.Spelled (.new span callee typeArguments (some arguments))
        (.keyword .newWord :: calleeLexemes ++ typeArgumentLexemes ++
          .mark .openParen :: argumentLexemes ++ [.mark .closeParen])
  | binary {span left operator right leftLexemes rightLexemes} :
      Expression.Spelled left leftLexemes → Expression.Spelled right rightLexemes →
      Expression.Spelled (.binary span left operator right)
        (leftLexemes ++ operator.operatorLexemes ++ rightLexemes)
  | unary {span operator operand lexemes} :
      Expression.Spelled operand lexemes →
      Expression.Spelled (.unary span operator operand) (.mark operator :: lexemes)
  | conditional {span condition whenTrue whenFalse conditionLexemes trueLexemes falseLexemes} :
      Expression.Spelled condition conditionLexemes →
      Expression.Spelled whenTrue trueLexemes → Expression.Spelled whenFalse falseLexemes →
      Expression.Spelled (.conditional span condition whenTrue whenFalse)
        (conditionLexemes ++ .mark .question :: trueLexemes ++ .mark .colon :: falseLexemes)
  | property {span object name optional objectLexemes nameLexemes} :
      Expression.Spelled object objectLexemes → name.SpelledFreely nameLexemes →
      Expression.Spelled (.property span object name optional)
        (objectLexemes ++ .mark (if optional then .questionDot else .dot) :: nameLexemes)
  | element {span object index objectLexemes indexLexemes} :
      Expression.Spelled object objectLexemes → Expression.Spelled index indexLexemes →
      Expression.Spelled (.element span object index)
        (objectLexemes ++ .mark .openBracket :: indexLexemes ++ [.mark .closeBracket])
  | instantiation {span expression typeArguments lexemes typeArgumentLexemes} :
      Expression.Spelled expression lexemes →
      Arguments (TypeExpr.Spelled .type) (some typeArguments) typeArgumentLexemes →
      Expression.Spelled (.instantiation span expression typeArguments)
        (lexemes ++ typeArgumentLexemes)
  | object {span properties lexemes} :
      Listed ObjectProperty.Spelled properties lexemes →
      Expression.Spelled (.object span properties)
        (.mark .openBrace :: lexemes ++ [.mark .closeBrace])
  | array {span elements lexemes} :
      Listed Expression.Spelled elements lexemes →
      Expression.Spelled (.array span elements)
        (.mark .openBracket :: lexemes ++ [.mark .closeBracket])
  | parenthesized {span inner lexemes} :
      Expression.Spelled inner lexemes →
      Expression.Spelled (.parenthesized span inner)
        (.mark .openParen :: lexemes ++ [.mark .closeParen])
  /-- A plain name alone needs no parentheses as a parameter. -/
  | simpleArrow {span parameterSpan name body nameLexemes bodyLexemes} :
      name.Spelled nameLexemes → ArrowBody.Spelled body bodyLexemes →
      Expression.Spelled (.arrow span [⟨parameterSpan, false, name, false, none, none⟩] none body)
        (nameLexemes ++ .mark .arrow :: bodyLexemes)
  | arrow {span parameters result body parameterLexemes resultLexemes bodyLexemes} :
      Listed Parameter.Spelled parameters parameterLexemes →
      After (.mark .colon) (TypeExpr.Spelled .type) result resultLexemes →
      ArrowBody.Spelled body bodyLexemes →
      Expression.Spelled (.arrow span parameters result body)
        (.mark .openParen :: parameterLexemes ++ .mark .closeParen :: resultLexemes ++
          .mark .arrow :: bodyLexemes)

inductive ArrowBody.Spelled : ArrowBody → List Lexeme → Prop
  | block {body lexemes} : body.Spelled lexemes → ArrowBody.Spelled (.block body) lexemes
  | expression {value lexemes} :
      Expression.Spelled value lexemes → ArrowBody.Spelled (.expression value) lexemes

inductive ObjectProperty.Spelled : ObjectProperty → List Lexeme → Prop
  | assignment {span key value keyLexemes valueLexemes} :
      key.Spelled keyLexemes → Expression.Spelled value valueLexemes →
      ObjectProperty.Spelled (.assignment span key value)
        (keyLexemes ++ .mark .colon :: valueLexemes)
  | shorthand {span name lexemes} :
      name.Spelled lexemes → ObjectProperty.Spelled (.shorthand span name) lexemes

end

/-! Statements. -/

inductive Specifier.Spelled : Specifier → List Lexeme → Prop
  | plain {span name lexemes} : name.SpelledFreely lexemes → Spelled ⟨span, none, name⟩ lexemes
  | renamed {span property name propertyLexemes nameLexemes} :
      property.SpelledFreely propertyLexemes → name.SpelledFreely nameLexemes →
      Spelled ⟨span, some property, name⟩ (propertyLexemes ++ .word "as" :: nameLexemes)

inductive LeadingDefault : Option Identifier → List Lexeme → Prop
  | absent : LeadingDefault none []
  | present {name lexemes} :
      name.Spelled lexemes → LeadingDefault (some name) (lexemes ++ [.mark .comma])

inductive BindingsSpelled :
    Option Identifier → Option Identifier → List Specifier → List Lexeme → Prop
  | default {name lexemes} : name.Spelled lexemes → BindingsSpelled (some name) none [] lexemes
  | names {default specifiers defaultLexemes lexemes} :
      LeadingDefault default defaultLexemes → Listed Specifier.Spelled specifiers lexemes →
      BindingsSpelled default none specifiers
        (defaultLexemes ++ .mark .openBrace :: lexemes ++ [.mark .closeBrace])
  | space {default name defaultLexemes lexemes} :
      LeadingDefault default defaultLexemes → name.Spelled lexemes →
      BindingsSpelled default (some name) []
        (defaultLexemes ++ .mark .asterisk :: .word "as" :: lexemes)

inductive ImportDeclaration.Spelled : ImportDeclaration → List Lexeme → Prop
  | bare {span source lexemes semicolon} :
      source.Spelled lexemes → Perhaps .semicolon semicolon →
      Spelled ⟨span, none, none, [], source⟩ (.keyword .importWord :: lexemes ++ semicolon)
  | bindings {span default space specifiers source bindingLexemes sourceLexemes semicolon} :
      BindingsSpelled default space specifiers bindingLexemes →
      source.Spelled sourceLexemes → Perhaps .semicolon semicolon →
      Spelled ⟨span, default, space, specifiers, source⟩
        (.keyword .importWord :: bindingLexemes ++ .word "from" :: sourceLexemes ++ semicolon)

inductive ExtendedSpelled : List TypeExpr → List Lexeme → Prop
  | absent : ExtendedSpelled [] []
  | present {types lexemes} :
      Separated .comma (TypeExpr.Spelled .intersectionMember) types lexemes →
      ExtendedSpelled types (.word "extends" :: lexemes)

inductive InterfaceDeclaration.Spelled : InterfaceDeclaration → List Lexeme → Prop
  | intro {span name typeParameters extended members nameLexemes typeParameterLexemes
        extendedLexemes memberLexemes} :
      name.Spelled nameLexemes →
      Parameters TypeParameter.Spelled typeParameters typeParameterLexemes →
      ExtendedSpelled extended extendedLexemes →
      Members TypeMember.Spelled members memberLexemes →
      Spelled ⟨span, name, typeParameters, extended, members⟩
        (.keyword .interfaceWord :: nameLexemes ++ typeParameterLexemes ++ extendedLexemes ++
          .mark .openBrace :: memberLexemes ++ [.mark .closeBrace])

inductive TypeAlias.Spelled : TypeAlias → List Lexeme → Prop
  | intro {span name typeParameters aliased nameLexemes typeParameterLexemes lexemes semicolon} :
      name.Spelled nameLexemes →
      Parameters TypeParameter.Spelled typeParameters typeParameterLexemes →
      aliased.Spelled .type lexemes → Perhaps .semicolon semicolon →
      Spelled ⟨span, name, typeParameters, aliased⟩
        (.keyword .typeWord :: nameLexemes ++ typeParameterLexemes ++ .mark .equals :: lexemes ++
          semicolon)

inductive BodySpelled : Option FunctionBody → List Lexeme → Prop
  | absent {semicolon} : Perhaps .semicolon semicolon → BodySpelled none semicolon
  | present {body lexemes} : body.Spelled lexemes → BodySpelled (some body) lexemes

inductive FunctionDeclaration.Spelled : FunctionDeclaration → List Lexeme → Prop
  | intro {span name typeParameters parameters result body nameLexemes typeParameterLexemes
        parameterLexemes resultLexemes bodyLexemes} :
      name.Spelled nameLexemes →
      Parameters TypeParameter.Spelled typeParameters typeParameterLexemes →
      Listed Parameter.Spelled parameters parameterLexemes →
      After (.mark .colon) (TypeExpr.Spelled .type) result resultLexemes →
      BodySpelled body bodyLexemes →
      Spelled ⟨span, name, typeParameters, parameters, result, body⟩
        (.keyword .functionWord :: nameLexemes ++ typeParameterLexemes ++
          .mark .openParen :: parameterLexemes ++ .mark .closeParen :: resultLexemes ++
          bodyLexemes)

def VariableKind.lexeme : VariableKind → Lexeme
  | .constant => .keyword .constWord
  | .mutable => .word "let"

inductive VariableDeclaration.Spelled : VariableDeclaration → List Lexeme → Prop
  | intro {span kind name declaredType initializer nameLexemes typeLexemes initializerLexemes
        semicolon} :
      name.Spelled nameLexemes →
      After (.mark .colon) (TypeExpr.Spelled .type) declaredType typeLexemes →
      After (.mark .equals) Expression.Spelled initializer initializerLexemes →
      Perhaps .semicolon semicolon →
      Spelled ⟨span, kind, name, declaredType, initializer⟩
        (kind.lexeme :: nameLexemes ++ typeLexemes ++ initializerLexemes ++ semicolon)

inductive Statement.Spelled : Statement → List Lexeme → Prop
  | importing {declaration lexemes} :
      declaration.Spelled lexemes → Spelled (.importing declaration) lexemes
  | exporting {span declaration lexemes} :
      Spelled declaration lexemes →
      Spelled (.exporting span declaration) (.keyword .exportWord :: lexemes)
  | exportingNames {span specifiers source lexemes sourceLexemes semicolon} :
      Listed Specifier.Spelled specifiers lexemes →
      After (.word "from") ModuleName.Spelled source sourceLexemes →
      Perhaps .semicolon semicolon →
      Spelled (.exportingNames span specifiers source)
        (.keyword .exportWord :: .mark .openBrace :: lexemes ++
          .mark .closeBrace :: sourceLexemes ++ semicolon)
  | exportingDefault {span expression lexemes semicolon} :
      expression.Spelled lexemes → Perhaps .semicolon semicolon →
      Spelled (.exportingDefault span expression)
        (.keyword .exportWord :: .word "default" :: lexemes ++ semicolon)
  | interface {declaration lexemes} :
      declaration.Spelled lexemes → Spelled (.interface declaration) lexemes
  | typeAlias {declaration lexemes} :
      declaration.Spelled lexemes → Spelled (.typeAlias declaration) lexemes
  | function {declaration lexemes} :
      declaration.Spelled lexemes → Spelled (.function declaration) lexemes
  | binding {declaration lexemes} :
      declaration.Spelled lexemes → Spelled (.binding declaration) lexemes
  | expression {span expression lexemes semicolon} :
      expression.Spelled lexemes → Perhaps .semicolon semicolon →
      Spelled (.expression span expression) (lexemes ++ semicolon)
  | returning {span expression lexemes semicolon} :
      expression.Spelled lexemes → Perhaps .semicolon semicolon →
      Spelled (.returning span (some expression)) (.keyword .returnWord :: lexemes ++ semicolon)
  | returningNothing {span semicolon} :
      Perhaps .semicolon semicolon →
      Spelled (.returning span none) (.keyword .returnWord :: semicolon)
  | empty {span} : Spelled (.empty span) [.mark .semicolon]

inductive StatementsSpelled : List Statement → List Lexeme → Prop
  | nil : StatementsSpelled [] []
  | cons {statement lexemes statements later} :
      statement.Spelled lexemes → StatementsSpelled statements later →
      StatementsSpelled (statement :: statements) (lexemes ++ later)

def Program.Spelled (program : Program) (lexemes : List Lexeme) : Prop :=
  StatementsSpelled program.statements lexemes

end TypedScript
