import TypedScript.Parser.Nesting

/-!
The parts that functions and their types have in common: parameters, type parameters and bodies.
-/

namespace TypedScript

namespace Parse

def declaredType? (nesting : Nesting) : Parse (Option TypeExpr) :=
  afterMark .colon nesting.type

def typeParameter (nesting : Nesting) : Parse TypeParameter := do
  let start ← currentStart
  let name ← identifier
  let constraint ← afterWord "extends" nesting.type
  let fallback ← afterMark .equals nesting.type
  return ⟨← spanFrom start, name, constraint, fallback⟩

/-- One turn of a list of type parameters: a comma leads to another one unless the list ends after
it. -/
def typeParameterTurn (nesting : Nesting) : Parse (Turn TypeParameter) := do
  let parameter ← typeParameter nesting
  if ← accept .comma then
    if ← atMark .greaterThan then return .last parameter else return .more parameter
  else
    return .last parameter

/-- `<T, U extends C = D>`, if present. The list is never empty, and a comma may end it. -/
def typeParameters (nesting : Nesting) : Parse (List TypeParameter) := do
  if ← accept .lessThan then
    let parameters ← repeated (typeParameterTurn nesting)
    let _ ← expect .greaterThan
    return parameters
  else
    return []

def initializer? (nesting : Nesting) (allowed : Bool) : Parse (Option Expression) :=
  if allowed then afterMark .equals nesting.expression else pure none

def parameter (nesting : Nesting) (allowInitializer : Bool) : Parse Parameter := do
  let start ← currentStart
  let isRest ← accept .dotDotDot
  let name ← identifier
  let optional ← accept .question
  let declaredType ← declaredType? nesting
  let initializer ← initializer? nesting allowInitializer
  return ⟨← spanFrom start, isRest, name, optional, declaredType, initializer⟩

/-- `(a, b?: B, ...c: C[])`. Only functions may give initial values, types of functions may
not. -/
def parameters (nesting : Nesting) (allowInitializers : Bool) : Parse (List Parameter) := do
  let _ ← expect .openParen
  let parameters ← commaList .closeParen (parameter nesting allowInitializers)
  let _ ← expect .closeParen
  return parameters

/-! Bodies are skipped by counting braces. -/

/-- How many tokens stand before the brace that closes a body, while `depth` braces are open within
it. -/
def bodyLength? (depth : Nat) : List Token → Option Nat
  | [] => none
  | token :: rest =>
      if token.isMark .openBrace then (bodyLength? (depth + 1) rest).map (· + 1)
      else if token.isMark .closeBrace then
        match depth with
        | 0 => some 0
        | outer + 1 => (bodyLength? outer rest).map (· + 1)
      else
        (bodyLength? depth rest).map (· + 1)

/-- `{ ... }`. All tokens up to the closing brace are taken, so an error that the text ends with
shows before the brace is missed. -/
def functionBody : Parse FunctionBody := do
  let start ← currentStart
  let _ ← expect .openBrace
  let ahead := (← get).ahead
  match bodyLength? 0 ahead with
  | some count =>
      modify (·.skip count)
      let _ ← expect .closeBrace
      return ⟨← spanFrom start, count⟩
  | none =>
      modify (·.skip ahead.length)
      unexpected (.token (.punctuator .closeBrace))

end Parse

end TypedScript
