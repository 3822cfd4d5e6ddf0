import TypedScript.Proofs.Encoding.Trees
import TypedScript.Proofs.Machine.Statements
import TypedScript.Tree.StoredEncoding
import TypedScript.Tree.Untagged

/-!
Stored trees and their JSON form. What a parser has built is stored with the kind of its constructor
at every node. The JSON form shows the kinds that are stored and no variants, and in trees that were
parsed the kinds tell the variants. Main statement: two programs that were parsed look the same only
if they are the same.
-/

namespace TypedScript

open JsonValue

/-! What is stored holds the kinds of its constructors: it is stored again as it is. -/

theorem Identifier.stored_untagged (name : Identifier) :
    name.stored.untagged.stored = name.stored :=
  rfl

theorem Literal.stored_untagged (constant : Literal) :
    constant.stored.untagged.stored = constant.stored :=
  rfl

theorem ModuleName.stored_untagged (name : ModuleName) :
    name.stored.untagged.stored = name.stored :=
  rfl

theorem FunctionBody.stored_untagged (body : FunctionBody) :
    body.stored.untagged.stored = body.stored := by
  simp only [stored, Stored.FunctionBody.untagged, low32_low32]

theorem PropertyKey.stored_untagged (key : PropertyKey) :
    key.stored.untagged.stored = key.stored := by
  cases key <;> rfl

mutual

theorem TypeExpr.stored_untagged : (type : TypeExpr) → type.stored.untagged.stored = type.stored
  | .named _ _ arguments => by
      simp only [TypeExpr.stored, Stored.TypeExpr.untagged, storedTypes?_untagged arguments,
        Identifier.stored_untagged]
  | .primitive .. => by simp only [TypeExpr.stored, Stored.TypeExpr.untagged]
  | .literal .. => by simp only [TypeExpr.stored, Stored.TypeExpr.untagged, Literal.stored_untagged]
  | .union _ members => by
      simp only [TypeExpr.stored, Stored.TypeExpr.untagged, storedTypes_untagged members]
  | .intersection _ members => by
      simp only [TypeExpr.stored, Stored.TypeExpr.untagged, storedTypes_untagged members]
  | .array _ element => by
      simp only [TypeExpr.stored, Stored.TypeExpr.untagged, element.stored_untagged]
  | .parenthesized _ inner => by
      simp only [TypeExpr.stored, Stored.TypeExpr.untagged, inner.stored_untagged]
  | .object _ members => by
      simp only [TypeExpr.stored, Stored.TypeExpr.untagged, storedMembers_untagged members]
  | .tuple _ elements => by
      simp only [TypeExpr.stored, Stored.TypeExpr.untagged, storedTypes_untagged elements]
  | .function _ typeParameters parameters result => by
      simp only [TypeExpr.stored, Stored.TypeExpr.untagged,
        storedTypeParameters_untagged typeParameters, storedParameters_untagged parameters,
        result.stored_untagged]

theorem TypeMember.stored_untagged : (member : TypeMember) →
    member.stored.untagged.stored = member.stored
  | .property _ _ _ declaredType => by
      simp only [TypeMember.stored, Stored.TypeMember.untagged, storedType?_untagged declaredType,
        Identifier.stored_untagged]
  | .method _ _ _ typeParameters parameters result => by
      simp only [TypeMember.stored, Stored.TypeMember.untagged,
        storedTypeParameters_untagged typeParameters, storedParameters_untagged parameters,
        storedType?_untagged result, Identifier.stored_untagged]

theorem TypeParameter.stored_untagged : (parameter : TypeParameter) →
    parameter.stored.untagged.stored = parameter.stored
  | ⟨_, _, constraint, fallback⟩ => by
      simp only [TypeParameter.stored, Stored.TypeParameter.untagged,
        storedType?_untagged constraint, storedType?_untagged fallback, Identifier.stored_untagged]

theorem Parameter.stored_untagged : (parameter : Parameter) →
    parameter.stored.untagged.stored = parameter.stored
  | ⟨_, _, _, _, declaredType, initializer⟩ => by
      simp only [Parameter.stored, Stored.Parameter.untagged, storedType?_untagged declaredType,
        storedExpression?_untagged initializer, Identifier.stored_untagged]

theorem Expression.stored_untagged : (expression : Expression) →
    expression.stored.untagged.stored = expression.stored
  | .identifier _ => by
      simp only [Expression.stored, Stored.Expression.untagged, Identifier.stored_untagged]
  | .literal _ => by
      simp only [Expression.stored, Stored.Expression.untagged, Literal.stored_untagged]
  | .call _ callee typeArguments arguments => by
      simp only [Expression.stored, Stored.Expression.untagged, callee.stored_untagged,
        storedTypes?_untagged typeArguments, storedExpressions_untagged arguments]
  | .new _ callee typeArguments arguments => by
      simp only [Expression.stored, Stored.Expression.untagged, callee.stored_untagged,
        storedTypes?_untagged typeArguments, storedExpressions?_untagged arguments]
  | .binary _ left _ right => by
      simp only [Expression.stored, Stored.Expression.untagged, left.stored_untagged,
        right.stored_untagged]
  | .unary _ _ operand => by
      simp only [Expression.stored, Stored.Expression.untagged, operand.stored_untagged]
  | .conditional _ condition whenTrue whenFalse => by
      simp only [Expression.stored, Stored.Expression.untagged, condition.stored_untagged,
        whenTrue.stored_untagged, whenFalse.stored_untagged]
  | .property _ base _ _ => by
      simp only [Expression.stored, Stored.Expression.untagged, base.stored_untagged,
        Identifier.stored_untagged]
  | .element _ base index => by
      simp only [Expression.stored, Stored.Expression.untagged, base.stored_untagged,
        index.stored_untagged]
  | .instantiation _ expression typeArguments => by
      simp only [Expression.stored, Stored.Expression.untagged, expression.stored_untagged,
        storedTypes_untagged typeArguments]
  | .object _ properties => by
      simp only [Expression.stored, Stored.Expression.untagged,
        storedProperties_untagged properties]
  | .array _ elements => by
      simp only [Expression.stored, Stored.Expression.untagged, storedExpressions_untagged elements]
  | .parenthesized _ inner => by
      simp only [Expression.stored, Stored.Expression.untagged, inner.stored_untagged]
  | .arrow _ parameters result body => by
      simp only [Expression.stored, Stored.Expression.untagged,
        storedParameters_untagged parameters, storedType?_untagged result, body.stored_untagged]

theorem ArrowBody.stored_untagged : (body : ArrowBody) → body.stored.untagged.stored = body.stored
  | .block _ => by
      simp only [ArrowBody.stored, Stored.ArrowBody.untagged, FunctionBody.stored_untagged]
  | .expression value => by
      simp only [ArrowBody.stored, Stored.ArrowBody.untagged, value.stored_untagged]

theorem ObjectProperty.stored_untagged : (property : ObjectProperty) →
    property.stored.untagged.stored = property.stored
  | .assignment _ _ value => by
      simp only [ObjectProperty.stored, Stored.ObjectProperty.untagged, value.stored_untagged,
        PropertyKey.stored_untagged]
  | .shorthand .. => by
      simp only [ObjectProperty.stored, Stored.ObjectProperty.untagged, Identifier.stored_untagged]

theorem storedTypes_untagged : (values : List TypeExpr) →
    storedTypes (Stored.untaggedTypes (storedTypes values)) = storedTypes values
  | [] => by simp only [storedTypes, Stored.untaggedTypes]
  | first :: rest => by
      simp only [storedTypes, Stored.untaggedTypes, first.stored_untagged,
        storedTypes_untagged rest]

theorem storedMembers_untagged : (values : List TypeMember) →
    storedMembers (Stored.untaggedMembers (storedMembers values)) = storedMembers values
  | [] => by simp only [storedMembers, Stored.untaggedMembers]
  | first :: rest => by
      simp only [storedMembers, Stored.untaggedMembers, first.stored_untagged,
        storedMembers_untagged rest]

theorem storedTypeParameters_untagged : (values : List TypeParameter) →
    storedTypeParameters (Stored.untaggedTypeParameters (storedTypeParameters values)) =
      storedTypeParameters values
  | [] => by simp only [storedTypeParameters, Stored.untaggedTypeParameters]
  | first :: rest => by
      simp only [storedTypeParameters, Stored.untaggedTypeParameters, first.stored_untagged,
        storedTypeParameters_untagged rest]

theorem storedParameters_untagged : (values : List Parameter) →
    storedParameters (Stored.untaggedParameters (storedParameters values)) = storedParameters values
  | [] => by simp only [storedParameters, Stored.untaggedParameters]
  | first :: rest => by
      simp only [storedParameters, Stored.untaggedParameters, first.stored_untagged,
        storedParameters_untagged rest]

theorem storedExpressions_untagged : (values : List Expression) →
    storedExpressions (Stored.untaggedExpressions (storedExpressions values)) =
      storedExpressions values
  | [] => by simp only [storedExpressions, Stored.untaggedExpressions]
  | first :: rest => by
      simp only [storedExpressions, Stored.untaggedExpressions, first.stored_untagged,
        storedExpressions_untagged rest]

theorem storedProperties_untagged : (values : List ObjectProperty) →
    storedProperties (Stored.untaggedProperties (storedProperties values)) = storedProperties values
  | [] => by simp only [storedProperties, Stored.untaggedProperties]
  | first :: rest => by
      simp only [storedProperties, Stored.untaggedProperties, first.stored_untagged,
        storedProperties_untagged rest]

theorem storedType?_untagged : (value : Option TypeExpr) →
    storedType? (Stored.untaggedType? (storedType? value)) = storedType? value
  | none => by simp only [storedType?, Stored.untaggedType?]
  | some value => by
      simp only [storedType?, Stored.untaggedType?, value.stored_untagged]

theorem storedTypes?_untagged : (value : Option (List TypeExpr)) →
    storedTypes? (Stored.untaggedTypes? (storedTypes? value)) = storedTypes? value
  | none => by simp only [storedTypes?, Stored.untaggedTypes?]
  | some value => by
      simp only [storedTypes?, Stored.untaggedTypes?, storedTypes_untagged value]

theorem storedExpression?_untagged : (value : Option Expression) →
    storedExpression? (Stored.untaggedExpression? (storedExpression? value)) =
      storedExpression? value
  | none => by simp only [storedExpression?, Stored.untaggedExpression?]
  | some value => by
      simp only [storedExpression?, Stored.untaggedExpression?, value.stored_untagged]

theorem storedExpressions?_untagged : (value : Option (List Expression)) →
    storedExpressions? (Stored.untaggedExpressions? (storedExpressions? value)) =
      storedExpressions? value
  | none => by simp only [storedExpressions?, Stored.untaggedExpressions?]
  | some value => by
      simp only [storedExpressions?, Stored.untaggedExpressions?, storedExpressions_untagged value]

end

theorem Specifier.stored_untagged (kind : NodeKind) (specifier : Specifier) :
    (specifier.stored kind).untagged.stored kind = specifier.stored kind := by
  simp [stored, Stored.Specifier.untagged, Function.comp_def, Identifier.stored_untagged]

theorem Statement.stored_untagged (statement : Statement) :
    statement.stored.untagged.stored = statement.stored := by
  induction statement with
  | importing =>
      simp [stored, Stored.Statement.untagged, ImportDeclaration.stored, Function.comp_def,
        Identifier.stored_untagged, Specifier.stored_untagged, ModuleName.stored_untagged]
  | exporting span declaration induction =>
      simp [stored, Stored.Statement.untagged, induction]
  | exportingNames =>
      simp [stored, Stored.Statement.untagged, Function.comp_def, Specifier.stored_untagged,
        ModuleName.stored_untagged]
  | exportingDefault =>
      simp [stored, Stored.Statement.untagged, Expression.stored_untagged]
  | interface =>
      simp [stored, Stored.Statement.untagged, InterfaceDeclaration.stored, Function.comp_def,
        Identifier.stored_untagged, TypeParameter.stored_untagged, TypeExpr.stored_untagged,
        TypeMember.stored_untagged]
  | typeAlias =>
      simp [stored, Stored.Statement.untagged, TypeAlias.stored, Function.comp_def,
        Identifier.stored_untagged, TypeParameter.stored_untagged, TypeExpr.stored_untagged]
  | function =>
      simp [stored, Stored.Statement.untagged, FunctionDeclaration.stored, Function.comp_def,
        Identifier.stored_untagged, TypeParameter.stored_untagged, Parameter.stored_untagged,
        TypeExpr.stored_untagged, FunctionBody.stored_untagged]
  | binding =>
      simp [stored, Stored.Statement.untagged, VariableDeclaration.stored, Function.comp_def,
        Identifier.stored_untagged, TypeExpr.stored_untagged, Expression.stored_untagged]
  | expression => simp [stored, Stored.Statement.untagged, Expression.stored_untagged]
  | returning =>
      simp [stored, Stored.Statement.untagged, Function.comp_def, Expression.stored_untagged]
  | empty => rfl

theorem Program.stored_tagged (program : Program) : program.stored.Tagged := by
  simp [Stored.Program.Tagged, stored, Stored.Program.untagged, Function.comp_def,
    Statement.stored_untagged]

/-! The kinds that are stored are the kinds that the constructors show. -/

theorem Identifier.json_stored (name : Identifier) :
    name.stored.untagged.json = name.stored.json :=
  rfl

theorem Literal.json_stored (constant : Literal) :
    constant.stored.untagged.json = constant.stored.json :=
  rfl

theorem ModuleName.json_stored (name : ModuleName) :
    name.stored.untagged.json = name.stored.json :=
  rfl

theorem FunctionBody.json_stored (body : FunctionBody) :
    body.stored.untagged.json = body.stored.json :=
  rfl

theorem PropertyKey.json_stored (key : PropertyKey) :
    key.stored.untagged.json = key.stored.json := by
  cases key <;> rfl

mutual

theorem TypeExpr.json_stored : (type : TypeExpr) → type.stored.untagged.json = type.stored.json
  | .named _ _ arguments => by
      rw [TypeExpr.json_eq]
      simp only [TypeExpr.stored, Stored.TypeExpr.untagged, Stored.TypeExpr.json, TypeExpr.parts,
        TypeExpr.kind, TypeExpr.span, NodeData.json, json_storedTypes? arguments,
        Identifier.json_stored]
  | .primitive .. => by
      rw [TypeExpr.json_eq]
      simp only [TypeExpr.stored, Stored.TypeExpr.untagged, Stored.TypeExpr.json, TypeExpr.parts,
        TypeExpr.kind, TypeExpr.span, NodeData.json]
  | .literal .. => by
      rw [TypeExpr.json_eq]
      simp only [TypeExpr.stored, Stored.TypeExpr.untagged, Stored.TypeExpr.json, TypeExpr.parts,
        TypeExpr.kind, TypeExpr.span, NodeData.json, Literal.json_stored]
  | .union _ members => by
      rw [TypeExpr.json_eq]
      simp only [TypeExpr.stored, Stored.TypeExpr.untagged, Stored.TypeExpr.json, TypeExpr.parts,
        TypeExpr.kind, TypeExpr.span, NodeData.json, json_storedTypes members]
  | .intersection _ members => by
      rw [TypeExpr.json_eq]
      simp only [TypeExpr.stored, Stored.TypeExpr.untagged, Stored.TypeExpr.json, TypeExpr.parts,
        TypeExpr.kind, TypeExpr.span, NodeData.json, json_storedTypes members]
  | .array _ element => by
      rw [TypeExpr.json_eq]
      simp only [TypeExpr.stored, Stored.TypeExpr.untagged, Stored.TypeExpr.json, TypeExpr.parts,
        TypeExpr.kind, TypeExpr.span, NodeData.json, element.json_stored]
  | .parenthesized _ inner => by
      rw [TypeExpr.json_eq]
      simp only [TypeExpr.stored, Stored.TypeExpr.untagged, Stored.TypeExpr.json, TypeExpr.parts,
        TypeExpr.kind, TypeExpr.span, NodeData.json, inner.json_stored]
  | .object _ members => by
      rw [TypeExpr.json_eq]
      simp only [TypeExpr.stored, Stored.TypeExpr.untagged, Stored.TypeExpr.json, TypeExpr.parts,
        TypeExpr.kind, TypeExpr.span, NodeData.json, json_storedMembers members]
  | .tuple _ elements => by
      rw [TypeExpr.json_eq]
      simp only [TypeExpr.stored, Stored.TypeExpr.untagged, Stored.TypeExpr.json, TypeExpr.parts,
        TypeExpr.kind, TypeExpr.span, NodeData.json, json_storedTypes elements]
  | .function _ typeParameters parameters result => by
      rw [TypeExpr.json_eq]
      simp only [TypeExpr.stored, Stored.TypeExpr.untagged, Stored.TypeExpr.json, TypeExpr.parts,
        TypeExpr.kind, TypeExpr.span, NodeData.json, json_storedTypeParameters typeParameters,
        json_storedParameters parameters, result.json_stored]

theorem TypeMember.json_stored : (member : TypeMember) →
    member.stored.untagged.json = member.stored.json
  | .property _ _ _ declaredType => by
      rw [TypeMember.json_eq]
      simp only [TypeMember.stored, Stored.TypeMember.untagged, Stored.TypeMember.json,
        TypeMember.parts, TypeMember.kind, TypeMember.span, NodeData.json,
        json_storedType? declaredType, Identifier.json_stored]
  | .method _ _ _ typeParameters parameters result => by
      rw [TypeMember.json_eq]
      simp only [TypeMember.stored, Stored.TypeMember.untagged, Stored.TypeMember.json,
        TypeMember.parts, TypeMember.kind, TypeMember.span, NodeData.json,
        json_storedTypeParameters typeParameters, json_storedParameters parameters,
        json_storedType? result, Identifier.json_stored]

theorem TypeParameter.json_stored : (parameter : TypeParameter) →
    parameter.stored.untagged.json = parameter.stored.json
  | ⟨_, _, constraint, fallback⟩ => by
      rw [TypeParameter.json_eq]
      simp only [TypeParameter.stored, Stored.TypeParameter.untagged, Stored.TypeParameter.json,
        TypeParameter.parts, NodeData.json, json_storedType? constraint, json_storedType? fallback,
        Identifier.json_stored]

theorem Parameter.json_stored : (parameter : Parameter) →
    parameter.stored.untagged.json = parameter.stored.json
  | ⟨_, _, _, _, declaredType, initializer⟩ => by
      rw [Parameter.json_eq]
      simp only [Parameter.stored, Stored.Parameter.untagged, Stored.Parameter.json,
        Parameter.parts, NodeData.json, json_storedType? declaredType,
        json_storedExpression? initializer, Identifier.json_stored]

theorem Expression.json_stored : (expression : Expression) →
    expression.stored.untagged.json = expression.stored.json
  | .identifier _ => by
      simp only [Expression.stored, Stored.Expression.untagged, Expression.json,
        Stored.Expression.json, Identifier.json_stored]
  | .literal _ => by
      simp only [Expression.stored, Stored.Expression.untagged, Expression.json,
        Stored.Expression.json, Literal.json_stored]
  | .call _ callee typeArguments arguments => by
      rw [Expression.json_eq]
      simp only [Expression.stored, Stored.Expression.untagged, Stored.Expression.json,
        Expression.parts, Expression.kind, Expression.span, NodeData.json, callee.json_stored,
        json_storedTypes? typeArguments, json_storedExpressions arguments]
  | .new _ callee typeArguments arguments => by
      rw [Expression.json_eq]
      simp only [Expression.stored, Stored.Expression.untagged, Stored.Expression.json,
        Expression.parts, Expression.kind, Expression.span, NodeData.json, callee.json_stored,
        json_storedTypes? typeArguments, json_storedExpressions? arguments]
  | .binary _ left _ right => by
      rw [Expression.json_eq]
      simp only [Expression.stored, Stored.Expression.untagged, Stored.Expression.json,
        Expression.parts, Expression.kind, Expression.span, NodeData.json, left.json_stored,
        right.json_stored]
  | .unary _ _ operand => by
      rw [Expression.json_eq]
      simp only [Expression.stored, Stored.Expression.untagged, Stored.Expression.json,
        Expression.parts, Expression.kind, Expression.span, NodeData.json, operand.json_stored]
  | .conditional _ condition whenTrue whenFalse => by
      rw [Expression.json_eq]
      simp only [Expression.stored, Stored.Expression.untagged, Stored.Expression.json,
        Expression.parts, Expression.kind, Expression.span, NodeData.json, condition.json_stored,
        whenTrue.json_stored, whenFalse.json_stored]
  | .property _ base _ _ => by
      rw [Expression.json_eq]
      simp only [Expression.stored, Stored.Expression.untagged, Stored.Expression.json,
        Expression.parts, Expression.kind, Expression.span, NodeData.json, base.json_stored,
        Identifier.json_stored]
  | .element _ base index => by
      rw [Expression.json_eq]
      simp only [Expression.stored, Stored.Expression.untagged, Stored.Expression.json,
        Expression.parts, Expression.kind, Expression.span, NodeData.json, base.json_stored,
        index.json_stored]
  | .instantiation _ expression typeArguments => by
      rw [Expression.json_eq]
      simp only [Expression.stored, Stored.Expression.untagged, Stored.Expression.json,
        Expression.parts, Expression.kind, Expression.span, NodeData.json, expression.json_stored,
        json_storedTypes typeArguments]
  | .object _ properties => by
      rw [Expression.json_eq]
      simp only [Expression.stored, Stored.Expression.untagged, Stored.Expression.json,
        Expression.parts, Expression.kind, Expression.span, NodeData.json,
        json_storedProperties properties]
  | .array _ elements => by
      rw [Expression.json_eq]
      simp only [Expression.stored, Stored.Expression.untagged, Stored.Expression.json,
        Expression.parts, Expression.kind, Expression.span, NodeData.json,
        json_storedExpressions elements]
  | .parenthesized _ inner => by
      rw [Expression.json_eq]
      simp only [Expression.stored, Stored.Expression.untagged, Stored.Expression.json,
        Expression.parts, Expression.kind, Expression.span, NodeData.json, inner.json_stored]
  | .arrow _ parameters result body => by
      rw [Expression.json_eq]
      simp only [Expression.stored, Stored.Expression.untagged, Stored.Expression.json,
        Expression.parts, Expression.kind, Expression.span, NodeData.json,
        json_storedParameters parameters, json_storedType? result, body.json_stored]

theorem ArrowBody.json_stored : (body : ArrowBody) → body.stored.untagged.json = body.stored.json
  | .block _ => by
      simp only [ArrowBody.stored, Stored.ArrowBody.untagged, ArrowBody.json, Stored.ArrowBody.json,
        FunctionBody.json_stored]
  | .expression value => by
      simp only [ArrowBody.stored, Stored.ArrowBody.untagged, ArrowBody.json, Stored.ArrowBody.json,
        value.json_stored]

theorem ObjectProperty.json_stored : (property : ObjectProperty) →
    property.stored.untagged.json = property.stored.json
  | .assignment _ _ value => by
      rw [ObjectProperty.json_eq]
      simp only [ObjectProperty.stored, Stored.ObjectProperty.untagged, Stored.ObjectProperty.json,
        ObjectProperty.parts, ObjectProperty.kind, ObjectProperty.span, NodeData.json,
        value.json_stored, PropertyKey.json_stored]
  | .shorthand .. => by
      rw [ObjectProperty.json_eq]
      simp only [ObjectProperty.stored, Stored.ObjectProperty.untagged, Stored.ObjectProperty.json,
        ObjectProperty.parts, ObjectProperty.kind, ObjectProperty.span, NodeData.json,
        Identifier.json_stored]

theorem json_storedTypes : (values : List TypeExpr) →
    ofList TypeExpr.json (Stored.untaggedTypes (storedTypes values)) =
      .array (Stored.jsonTypes (storedTypes values))
  | [] => by simp only [storedTypes, Stored.untaggedTypes, Stored.jsonTypes, ofList, List.map_nil]
  | first :: rest => by
      have others := json_storedTypes rest
      simp only [ofList, JsonValue.array.injEq] at others
      simp only [storedTypes, Stored.untaggedTypes, ofList, List.map_cons, first.json_stored,
        others, Stored.jsonTypes]

theorem json_storedMembers : (values : List TypeMember) →
    ofList TypeMember.json (Stored.untaggedMembers (storedMembers values)) =
      .array (Stored.jsonMembers (storedMembers values))
  | [] => by
      simp only [storedMembers, Stored.untaggedMembers, Stored.jsonMembers, ofList, List.map_nil]
  | first :: rest => by
      have others := json_storedMembers rest
      simp only [ofList, JsonValue.array.injEq] at others
      simp only [storedMembers, Stored.untaggedMembers, ofList, List.map_cons, first.json_stored,
        others, Stored.jsonMembers]

theorem json_storedTypeParameters : (values : List TypeParameter) →
    ofList TypeParameter.json (Stored.untaggedTypeParameters (storedTypeParameters values)) =
      .array (Stored.jsonTypeParameters (storedTypeParameters values))
  | [] => by
      simp only [storedTypeParameters, Stored.untaggedTypeParameters, Stored.jsonTypeParameters,
        ofList, List.map_nil]
  | first :: rest => by
      have others := json_storedTypeParameters rest
      simp only [ofList, JsonValue.array.injEq] at others
      simp only [storedTypeParameters, Stored.untaggedTypeParameters, ofList, List.map_cons,
        first.json_stored, others, Stored.jsonTypeParameters]

theorem json_storedParameters : (values : List Parameter) →
    ofList Parameter.json (Stored.untaggedParameters (storedParameters values)) =
      .array (Stored.jsonParameters (storedParameters values))
  | [] => by
      simp only [storedParameters, Stored.untaggedParameters, Stored.jsonParameters, ofList,
        List.map_nil]
  | first :: rest => by
      have others := json_storedParameters rest
      simp only [ofList, JsonValue.array.injEq] at others
      simp only [storedParameters, Stored.untaggedParameters, ofList, List.map_cons,
        first.json_stored, others, Stored.jsonParameters]

theorem json_storedExpressions : (values : List Expression) →
    ofList Expression.json (Stored.untaggedExpressions (storedExpressions values)) =
      .array (Stored.jsonExpressions (storedExpressions values))
  | [] => by
      simp only [storedExpressions, Stored.untaggedExpressions, Stored.jsonExpressions, ofList,
        List.map_nil]
  | first :: rest => by
      have others := json_storedExpressions rest
      simp only [ofList, JsonValue.array.injEq] at others
      simp only [storedExpressions, Stored.untaggedExpressions, ofList, List.map_cons,
        first.json_stored, others, Stored.jsonExpressions]

theorem json_storedProperties : (values : List ObjectProperty) →
    ofList ObjectProperty.json (Stored.untaggedProperties (storedProperties values)) =
      .array (Stored.jsonProperties (storedProperties values))
  | [] => by
      simp only [storedProperties, Stored.untaggedProperties, Stored.jsonProperties, ofList,
        List.map_nil]
  | first :: rest => by
      have others := json_storedProperties rest
      simp only [ofList, JsonValue.array.injEq] at others
      simp only [storedProperties, Stored.untaggedProperties, ofList, List.map_cons,
        first.json_stored, others, Stored.jsonProperties]

theorem json_storedType? : (value : Option TypeExpr) →
    ofOption TypeExpr.json (Stored.untaggedType? (storedType? value)) =
      Stored.jsonType? (storedType? value)
  | none => by simp only [storedType?, Stored.untaggedType?, Stored.jsonType?, ofOption]
  | some value => by
      simp only [storedType?, Stored.untaggedType?, ofOption, value.json_stored, Stored.jsonType?]

theorem json_storedTypes? : (value : Option (List TypeExpr)) →
    ofOption (ofList TypeExpr.json) (Stored.untaggedTypes? (storedTypes? value)) =
      Stored.jsonTypes? (storedTypes? value)
  | none => by simp only [storedTypes?, Stored.untaggedTypes?, Stored.jsonTypes?, ofOption]
  | some value => by
      simp only [storedTypes?, Stored.untaggedTypes?, ofOption, json_storedTypes value,
        Stored.jsonTypes?]

theorem json_storedExpression? : (value : Option Expression) →
    ofOption Expression.json (Stored.untaggedExpression? (storedExpression? value)) =
      Stored.jsonExpression? (storedExpression? value)
  | none => by
      simp only [storedExpression?, Stored.untaggedExpression?, Stored.jsonExpression?, ofOption]
  | some value => by
      simp only [storedExpression?, Stored.untaggedExpression?, ofOption, value.json_stored,
        Stored.jsonExpression?]

theorem json_storedExpressions? : (value : Option (List Expression)) →
    ofOption (ofList Expression.json) (Stored.untaggedExpressions? (storedExpressions? value)) =
      Stored.jsonExpressions? (storedExpressions? value)
  | none => by
      simp only [storedExpressions?, Stored.untaggedExpressions?, Stored.jsonExpressions?, ofOption]
  | some value => by
      simp only [storedExpressions?, Stored.untaggedExpressions?, ofOption,
        json_storedExpressions value, Stored.jsonExpressions?]

end

section Containers

variable {α β γ : Type} {stored : α → β} {untagged : β → γ} {encode : γ → JsonValue}
  {encodeStored : β → JsonValue}

theorem JsonValue.ofList_stored
    (same : ∀ value, encode (untagged (stored value)) = encodeStored (stored value))
    (values : List α) :
    ofList encode ((values.map stored).map untagged) = ofList encodeStored (values.map stored) := by
  simp [ofList, same]

theorem JsonValue.ofOption_stored
    (same : ∀ value, encode (untagged (stored value)) = encodeStored (stored value))
    (value : Option α) :
    ofOption encode ((value.map stored).map untagged) =
      ofOption encodeStored (value.map stored) := by
  cases value with
  | none => rfl
  | some value => exact same value

end Containers

theorem Specifier.json_stored (kind : NodeKind) (specifier : Specifier) :
    (specifier.stored kind).untagged.json kind = (specifier.stored kind).json := by
  simp only [json, stored, Stored.Specifier.untagged, Stored.Specifier.json,
    ofOption_stored Identifier.json_stored, Identifier.json_stored, NodeData.json]

theorem Statement.json_stored (statement : Statement) :
    statement.stored.untagged.json = statement.stored.json := by
  have names := ofOption_stored Identifier.json_stored
  have typeParameters := ofList_stored TypeParameter.json_stored
  have types := ofOption_stored TypeExpr.json_stored
  have expressions := ofOption_stored Expression.json_stored
  induction statement with
  | importing =>
      simp only [stored, Stored.Statement.untagged, json, Stored.Statement.json,
        ImportDeclaration.stored, NodeData.json, names,
        ofList_stored (Specifier.json_stored .importSpecifier), ModuleName.json_stored]
  | exporting span declaration induction =>
      simp only [stored, Stored.Statement.untagged, json, Stored.Statement.json, NodeData.json,
        JsonValue.exporting, induction]
  | exportingNames =>
      simp only [stored, Stored.Statement.untagged, json, Stored.Statement.json, NodeData.json,
        JsonValue.exporting, ofList_stored (Specifier.json_stored .exportSpecifier),
        ofOption_stored ModuleName.json_stored]
  | exportingDefault =>
      simp only [stored, Stored.Statement.untagged, json, Stored.Statement.json, NodeData.json,
        JsonValue.exporting, Expression.json_stored]
  | interface =>
      simp only [stored, Stored.Statement.untagged, json, Stored.Statement.json,
        InterfaceDeclaration.stored, NodeData.json, Identifier.json_stored, typeParameters,
        ofList_stored TypeExpr.json_stored, ofList_stored TypeMember.json_stored]
  | typeAlias =>
      simp only [stored, Stored.Statement.untagged, json, Stored.Statement.json, TypeAlias.stored,
        NodeData.json, Identifier.json_stored, typeParameters, TypeExpr.json_stored]
  | function =>
      simp only [stored, Stored.Statement.untagged, json, Stored.Statement.json,
        FunctionDeclaration.stored, NodeData.json, Identifier.json_stored, typeParameters,
        ofList_stored Parameter.json_stored, types, ofOption_stored FunctionBody.json_stored]
  | binding =>
      simp only [stored, Stored.Statement.untagged, json, Stored.Statement.json,
        VariableDeclaration.stored, NodeData.json, Identifier.json_stored, types, expressions]
  | expression =>
      simp only [stored, Stored.Statement.untagged, json, Stored.Statement.json, NodeData.json,
        Expression.json_stored]
  | returning =>
      simp only [stored, Stored.Statement.untagged, json, Stored.Statement.json, NodeData.json,
        expressions]
  | empty => rfl

theorem Program.json_stored (program : Program) :
    program.stored.untagged.json = program.stored.json := by
  simp only [stored, Stored.Program.untagged, json, Stored.Program.json, NodeData.json,
    ofList_stored Statement.json_stored]

/-! Programs that were parsed. -/

namespace Machine

theorem exists_stored {options : ParseOptions} {source : String} {program : Stored.Program}
    (parsed : parseProgram options source = .ok program) :
    ∃ tree : Program, program = tree.stored := by
  rw [parseProgram_eq] at parsed
  rcases result_eq_ok.mp parsed with ⟨statements, _, _, same⟩
  exact ⟨_, same⟩

theorem parseProgram_tagged {options : ParseOptions} {source : String} {program : Stored.Program}
    (parsed : parseProgram options source = .ok program) : program.Tagged := by
  rcases exists_stored parsed with ⟨tree, rfl⟩
  exact tree.stored_tagged

/-- The kinds that were stored tell apart what the untagged variants do not. -/
theorem parseProgram_same_json_iff {options otherOptions : ParseOptions}
    {source otherSource : String} {program otherProgram : Stored.Program}
    (parsed : parseProgram options source = .ok program)
    (otherParsed : parseProgram otherOptions otherSource = .ok otherProgram) :
    Same program.json otherProgram.json ↔ program = otherProgram := by
  rcases exists_stored parsed with ⟨tree, rfl⟩
  rcases exists_stored otherParsed with ⟨otherTree, rfl⟩
  constructor
  · intro same
    rw [← tree.json_stored, ← otherTree.json_stored] at same
    have untagged := (Program.same_json_iff _ _).mp same
    calc tree.stored
      _ = tree.stored.untagged.stored := tree.stored_tagged.symm
      _ = otherTree.stored.untagged.stored := congrArg Program.stored untagged
      _ = otherTree.stored := otherTree.stored_tagged
  · intro same
    rw [same]
    intro path
    rfl

theorem parseProgram_same_json_union :
    ∃ program otherProgram, parseProgram .default "let x: A | B" = .ok program ∧
      parseProgram .default "let x: A & B" = .ok otherProgram ∧
      (Same program.json otherProgram.json ↔ program = otherProgram) := by
  have accepted : (parseProgram .default "let x: A | B").isOk = true := by decide +kernel
  have otherAccepted : (parseProgram .default "let x: A & B").isOk = true := by decide +kernel
  rcases exists_of_isOk accepted with ⟨program, parsed⟩
  rcases exists_of_isOk otherAccepted with ⟨otherProgram, otherParsed⟩
  exact ⟨program, otherProgram, parsed, otherParsed,
    parseProgram_same_json_iff parsed otherParsed⟩

end Machine

end TypedScript
