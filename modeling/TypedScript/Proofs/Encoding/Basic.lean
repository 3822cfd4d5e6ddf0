import TypedScript.Tree.Encoding

/-!
JSON values as a reader sees them, who asks for fields by name and for elements by index, so that
the order of fields does not count. Main statements: nodes that look the same have the same kind,
the same range and parts that look the same, and a list or an optional value can be read back if
its items can.
-/

namespace TypedScript

namespace JsonValue

inductive Face where
  | null
  | boolean (value : Bool)
  | number (value : Nat)
  | string (value : String)
  | array
  | object
deriving DecidableEq, Repr

def face : JsonValue → Face
  | .null => .null
  | .boolean value => .boolean value
  | .number value => .number value
  | .string value => .string value
  | .array _ => .array
  | .object _ => .object

inductive Step where
  | field (name : String)
  | element (index : Nat)
deriving DecidableEq, Repr

def child? : JsonValue → Step → Option JsonValue
  | .object fields, .field name => fields.lookup name
  | .array elements, .element index => elements[index]?
  | _, _ => none

def look (value : JsonValue) : List Step → Option Face
  | [] => some value.face
  | step :: path => (value.child? step).bind (·.look path)

/-- No reader can tell the values apart: fields may stand in another order, and that is all. -/
def Same (left right : JsonValue) : Prop :=
  ∀ path, left.look path = right.look path

namespace Same

variable {left right : JsonValue}

theorem face (same : Same left right) : left.face = right.face :=
  Option.some.inj (same [])

theorem child {inner other : JsonValue} (same : Same left right) (step : Step)
    (found : left.child? step = some inner) (otherFound : right.child? step = some other) :
    Same inner other := by
  intro path
  have seen := same (step :: path)
  rwa [look, look, found, otherFound] at seen

theorem isSome_child? (same : Same left right) (step : Step) :
    (left.child? step).isSome = (right.child? step).isSome := by
  have seen := same [step]
  simp only [look] at seen
  cases found : left.child? step <;> cases otherFound : right.child? step <;> simp_all

theorem number {value other : Nat} (same : Same (.number value) (.number other)) :
    value = other :=
  Face.number.inj same.face

theorem string {value other : String} (same : Same (.string value) (.string other)) :
    value = other :=
  Face.string.inj same.face

theorem boolean {value other : Bool} (same : Same (.boolean value) (.boolean other)) :
    value = other :=
  Face.boolean.inj same.face

theorem field {name other : String} {inner otherInner : JsonValue}
    (same : Same (.object [(name, inner)]) (.object [(other, otherInner)])) :
    name = other ∧ Same inner otherInner := by
  have present := same.isSome_child? (.field name)
  by_cases names : name = other
  · subst names
    exact ⟨rfl, same.child (.field name) (by simp [child?]) (by simp [child?])⟩
  · have different : (name == other) = false := beq_eq_false_iff_ne.mpr names
    simp [child?, List.lookup_cons, different] at present

theorem span {span other : Span} (same : Same (ofSpan span) (ofSpan other)) : span = other := by
  have start := (same.child (.field "pos") rfl rfl).number
  have stop := (same.child (.field "end") rfl rfl).number
  rcases span with ⟨_, _⟩
  rcases other with ⟨_, _⟩
  rw [Span.mk.injEq]
  exact ⟨start, stop⟩

end Same

def PartsSame : List (String × JsonValue) → List (String × JsonValue) → Prop
  | (_, value) :: parts, (_, other) :: others => Same value other ∧ PartsSame parts others
  | _, _ => True

theorem partsSame_of_lookup {parts others : List (String × JsonValue)}
    (names : parts.map (·.1) = others.map (·.1)) (distinct : (parts.map (·.1)).Nodup)
    (each : ∀ name ∈ parts.map (·.1), ∀ value other, parts.lookup name = some value →
      others.lookup name = some other → Same value other) : PartsSame parts others := by
  induction parts generalizing others with
  | nil => trivial
  | cons part parts induction =>
      cases others with
      | nil => trivial
      | cons other others =>
          rw [List.map_cons, List.map_cons, List.cons.injEq] at names
          rw [List.map_cons, List.nodup_cons] at distinct
          rcases part with ⟨name, value⟩
          rcases other with ⟨otherName, otherValue⟩
          obtain rfl : name = otherName := names.1
          refine ⟨each name (List.mem_cons_self ..) value otherValue (by simp) (by simp), ?_⟩
          refine induction names.2 distinct.2 fun later member inner otherInner => ?_
          have different : (later == name) = false := by
            rw [beq_eq_false_iff_ne]
            rintro rfl
            exact distinct.1 member
          have whole := each later (List.mem_cons_of_mem _ member) inner otherInner
          simpa [List.lookup_cons, different] using whole

end JsonValue

/-! Kinds by their names. -/

theorem Kind.ofName?_name (kind : Kind) : ofName? kind.name = some kind := by
  have all : ∀ kind ∈ Kind.all, ofName? kind.name = some kind := by decide +kernel
  exact all kind kind.mem_all

theorem Kind.eq_of_name {kind other : Kind} (same : kind.name = other.name) : kind = other := by
  have found := kind.ofName?_name
  rw [same, other.ofName?_name] at found
  exact (Option.some.inj found).symm

theorem Punctuator.eq_of_name {mark other : Punctuator} (same : mark.name = other.name) :
    mark = other :=
  TokenKind.punctuator.inj (Kind.token.inj (Kind.eq_of_name same))

theorem Primitive.eq_of_name {keyword other : Primitive} (same : keyword.name = other.name) :
    keyword = other := by
  have all : ∀ keyword ∈ Primitive.all, ∀ other ∈ Primitive.all,
      keyword.name = other.name → keyword = other := by
    decide +kernel
  exact all keyword keyword.mem_all other other.mem_all same

theorem VariableKind.eq_of_name {kind other : VariableKind} (same : kind.name = other.name) :
    kind = other := by
  cases kind <;> cases other <;> first | rfl | simp [name] at same

namespace JsonValue.Same

theorem node {kind other : Kind} {span otherSpan : Span} {parts others : List (String × JsonValue)}
    (same : Same (.node kind span parts) (.node other otherSpan others)) :
    kind = other ∧ span = otherSpan :=
  ⟨Kind.eq_of_name (same.child (.field "kind") rfl rfl).string,
    (same.child (.field "range") rfl rfl).span⟩

theorem opened {kind other : Kind} {span otherSpan : Span}
    {parts others : List (String × JsonValue)}
    (same : Same (.node kind span parts) (.node other otherSpan others))
    (names : parts.map (·.1) = others.map (·.1))
    (distinct : ("kind" :: "range" :: parts.map (·.1)).Nodup) :
    span = otherSpan ∧ PartsSame parts others := by
  rw [List.nodup_cons, List.nodup_cons] at distinct
  refine ⟨same.node.2, partsSame_of_lookup names distinct.2.2 fun name member value otherValue
    found otherFound => same.child (.field name) ?_ ?_⟩
  all_goals
    have noKind : (name == "kind") = false := by
      rw [beq_eq_false_iff_ne]
      rintro rfl
      exact distinct.1 (List.mem_cons_of_mem _ member)
    have noRange : (name == "range") = false := by
      rw [beq_eq_false_iff_ne]
      rintro rfl
      exact distinct.2.1 member
    simpa [child?, JsonValue.node, List.lookup_cons, noKind, noRange]

theorem exporting {span otherSpan : Span} {clause otherClause : String}
    {content otherContent : JsonValue}
    (same : Same (.exporting span clause content) (.exporting otherSpan otherClause otherContent)) :
    span = otherSpan ∧ clause = otherClause ∧ Same content otherContent := by
  obtain ⟨spans, clauses, _⟩ := same.opened rfl (by simp)
  exact ⟨spans, clauses.field⟩

end JsonValue.Same

/-! Values that can be read back. -/

open JsonValue

def Determined (encode : α → JsonValue) (value : α) : Prop :=
  ∀ other, Same (encode value) (encode other) → value = other

theorem Determined.list {encode : α → JsonValue} {values : List α}
    (each : ∀ value ∈ values, Determined encode value) : Determined (ofList encode) values := by
  intro others same
  apply List.ext_getElem?
  intro index
  have present := same.isSome_child? (.element index)
  simp only [ofList, child?, List.getElem?_map, Option.isSome_map] at present
  cases found : values[index]? with
  | none =>
      cases otherFound : others[index]? with
      | none => rfl
      | some other => simp [found, otherFound] at present
  | some value =>
      cases otherFound : others[index]? with
      | none => simp [found, otherFound] at present
      | some other =>
          have inner : Same (encode value) (encode other) :=
            same.child (.element index) (by simp [ofList, child?, found])
              (by simp [ofList, child?, otherFound])
          rw [each value (List.mem_of_getElem? found) other inner]

/-- An absent value is written as null, so it must not look like a value that is present. -/
theorem Determined.option {encode : α → JsonValue} (visible : ∀ value, (encode value).face ≠ .null)
    {value : Option α} (each : ∀ present ∈ value.toList, Determined encode present) :
    Determined (ofOption encode) value := by
  intro other same
  cases value with
  | none =>
      cases other with
      | none => rfl
      | some other => exact absurd same.face.symm (visible other)
  | some value =>
      cases other with
      | none => exact absurd same.face (visible value)
      | some other => rw [each value (List.mem_singleton_self value) other same]

theorem Identifier.determined (name : Identifier) : Determined Identifier.json name := by
  rintro ⟨otherSpan, other⟩ same
  rcases name with ⟨span, content⟩
  rcases same.opened rfl (by simp) with ⟨⟨⟩, texts, _⟩
  obtain rfl : content = other := texts.string
  rfl

theorem LiteralValue.eq_of_json {value other : LiteralValue} (kinds : value.kind = other.kind)
    (same : Same value.json other.json) : value = other := by
  cases value with
  | string value =>
      cases other with
      | string other => rw [same.field.2.string]
      | number other => cases kinds
      | boolean other => cases other <;> cases kinds
      | null => cases kinds
  | number value =>
      cases other with
      | string other => cases kinds
      | number other => rw [same.field.2.string]
      | boolean other => cases other <;> cases kinds
      | null => cases kinds
  | boolean value =>
      cases other with
      | string other => cases value <;> cases kinds
      | number other => cases value <;> cases kinds
      | boolean other => rw [same.field.2.boolean]
      | null => cases value <;> cases kinds
  | null =>
      cases other with
      | string other => cases kinds
      | number other => cases kinds
      | boolean other => cases other <;> cases kinds
      | null => rfl

theorem Literal.determined (literal : Literal) : Determined Literal.json literal := by
  rintro ⟨otherSpan, other⟩ same
  rcases literal with ⟨span, value⟩
  rcases same.opened rfl (by simp) with ⟨⟨⟩, values, _⟩
  obtain rfl : value = other := LiteralValue.eq_of_json same.node.1 values
  rfl

theorem ModuleName.determined (name : ModuleName) : Determined ModuleName.json name := by
  rintro ⟨otherSpan, other⟩ same
  rcases name with ⟨span, content⟩
  rcases same.opened rfl (by simp) with ⟨⟨⟩, values, _⟩
  obtain rfl : content = other := values.string
  rfl

theorem FunctionBody.determined (body : FunctionBody) : Determined FunctionBody.json body := by
  rintro ⟨otherSpan, other⟩ same
  rcases body with ⟨span, content⟩
  rcases same.opened rfl (by simp) with ⟨⟨⟩, counts, _⟩
  obtain rfl : content = other := counts.number
  rfl

theorem Identifier.determined_option (name : Option Identifier) :
    Determined (ofOption Identifier.json) name :=
  Determined.option (fun _ => by simp [Identifier.json, JsonValue.node, face])
    fun present _ => present.determined

theorem ModuleName.determined_option (name : Option ModuleName) :
    Determined (ofOption ModuleName.json) name :=
  Determined.option (fun _ => by simp [ModuleName.json, JsonValue.node, face])
    fun present _ => present.determined

theorem FunctionBody.determined_option (body : Option FunctionBody) :
    Determined (ofOption FunctionBody.json) body :=
  Determined.option (fun _ => by simp [FunctionBody.json, JsonValue.node, face])
    fun present _ => present.determined

end TypedScript
