import TypedScript.Proofs.Acceptance.Functions

/-!
Every type that can be printed is read back. Main statement: a printed type is read as the same
type, apart from ranges, if there are as many levels as the type needs.
-/

namespace TypedScript

/-! The levels that a node needs are those that its children need. -/

theorem foldr_max_le_iff {start bound : Nat} {values : List Nat} :
    values.foldr max start ≤ bound ↔ start ≤ bound ∧ ∀ value ∈ values, value ≤ bound := by
  induction values with
  | nil => simp
  | cons first rest induction =>
      rw [List.foldr_cons, Nat.max_le, induction, List.forall_mem_cons]
      exact and_left_comm

theorem Node.room_le_iff {node : Node} {bound : Nat} :
    node.room ≤ bound ↔ node.suffixes ≤ bound ∧
      ∀ child ∈ node.children, child.room + node.descent child ≤ bound := by
  rw [Node.room, foldr_max_le_iff]
  simp

/-! How printed types begin. -/

theorem Leads.separated {mark : Punctuator} {first : List Lexeme} {others : List (List Lexeme)}
    (follows : mark ∈ afterName) (leads : Leads first) :
    Leads (Lexeme.separated mark (first :: others)) := by
  cases others with
  | nil =>
      rw [Lexeme.separated, List.flatMap_nil, List.append_nil]
      exact leads
  | cons second others =>
      rw [Lexeme.separated, List.flatMap_cons, List.cons_append]
      exact leads.append follows _

theorem Leads.ofBracketed {text : String} (items : List (List Lexeme)) :
    Leads (.word text :: Lexeme.bracketed items) := by
  cases items with
  | nil => exact .name
  | cons => exact .longer (by decide)

variable {keywords : KeywordSet}

theorem TypeExpr.lexemes_lead {type : TypeExpr}
    (printable : (Node.type type).AllPrintable keywords) : Leads (type.lexemes keywords) := by
  generalize isNode : Node.type type = node at printable
  induction node using Node.induction generalizing type with
  | step node induction =>
      subst isNode
      have below : ∀ {inner : TypeExpr}, .type inner ∈ type.children →
          Leads (inner.lexemes keywords) :=
        fun member => induction _ member rfl (printable.below member)
      have own := printable.own
      cases type with
      | named _ name arguments =>
          rcases own with ⟨⟨first, others, parts, plain, _⟩, _⟩
          simp only [lexemes, parts, List.map_cons, Lexeme.separated, Parse.name_eq_word plain]
          cases others with
          | nil => exact .ofBracketed _
          | cons => exact .longer (by decide)
      | primitive =>
          rw [lexemes]
          exact .name
      | literal _ constant =>
          rw [lexemes]
          rcases constant with ⟨_, value⟩
          cases value with
          | string => exact .other rfl (fun same => by cases same)
          | number => exact .other rfl (fun same => by cases same)
          | boolean value => cases value <;> exact .name
          | null => exact .name
      | union _ members =>
          rw [lexemes, typeLexemes_eq]
          cases members with
          | nil => cases own.1
          | cons first => exact .separated (by decide) (below (by simp [children]))
      | intersection _ members =>
          rw [lexemes, typeLexemes_eq]
          cases members with
          | nil => cases own.1
          | cons first => exact .separated (by decide) (below (by simp [children]))
      | array _ element =>
          rw [lexemes]
          exact (below (by simp [children])).append (by decide) _
      | parenthesized =>
          rw [lexemes]
          exact .other rfl (by decide)
      | object =>
          rw [lexemes]
          exact .other rfl (by decide)
      | tuple =>
          rw [lexemes]
          exact .other rfl (by decide)
      | function _ typeParameters =>
          rw [lexemes, typeParameterLexemes_eq]
          cases typeParameters with
          | nil => exact .other rfl (by decide)
          | cons => exact .other rfl (by decide)

/-! What the rules at one depth do with a type. -/

/-- The parser accepts the type, unless what follows goes on with it. After a function nothing may
follow that goes on with any type. -/
def AcceptsType (keywords : KeywordSet) (parser : Parse TypeExpr) (goOn : List TokenKind)
    (type : TypeExpr) : Prop :=
  ∀ more, kindAt more 0 ∉ goOn → (type.EndsInFunction → kindAt more 0 ∉ afterType) →
    Accepts parser (type.lexemes keywords ++ more) more
      (·.relocate nowhere = type.relocate nowhere)

/-- The rule for arrays gets over the type, and goes on with the levels that the suffixes of the
type have left. -/
def AcceptsElement (keywords : KeywordSet) (rules : Rules) (room : Nat) (type : TypeExpr) : Prop :=
  ∀ rest more holds, kindAt rest 0 ∉ afterPrimary →
    (type.EndsInFunction → kindAt rest 0 ∉ afterType) →
    (∀ start element, element.relocate nowhere = type.relocate nowhere →
      Accepts (Parse.arraySuffixes (.ofRoom rules (room - type.suffixes)) start element) rest more
        holds) →
    Accepts (Parse.postfixType (.ofRoom rules room)) (type.lexemes keywords ++ rest) more holds

/-- The rules at a depth accept the type wherever it may stand without parentheses. -/
structure TypeExpr.Taken (keywords : KeywordSet) (rules : Rules) (room : Nat) (type : TypeExpr) :
    Prop where
  leads : Leads (type.lexemes keywords)
  element : type.isUnion = false → type.isIntersection = false →
    AcceptsElement keywords rules room type
  member : type.isUnion = false →
    AcceptsType keywords (Parse.intersectionType (.ofRoom rules room)) afterIntersection type
  whole : AcceptsType keywords (Parse.unionType (.ofRoom rules room)) afterType type

section OneDepth

variable {rules : Rules} {room : Nat} {type element : TypeExpr} {span : Span}

theorem AcceptsElement.ofPrimary (noSuffixes : type.suffixes = 0)
    (accepts : AcceptsType keywords (Parse.primaryType (.ofRoom rules room)) afterPrimary type) :
    AcceptsElement keywords rules room type := by
  intro rest more holds ends functionEnds goesOn
  rw [noSuffixes, Nat.sub_zero] at goesOn
  apply Parse.currentStart_accepts.bind
  intro start _
  exact (accepts rest ends functionEnds).bind (goesOn start)

theorem AcceptsElement.array (accepts : AcceptsElement keywords rules room element)
    (noFunction : ¬element.EndsInFunction) (enough : element.suffixes + 1 ≤ room) :
    AcceptsElement keywords rules room (.array span element) := by
  intro rest more holds _ _ goesOn
  -- The brackets of the element have taken their levels before those of the array take theirs.
  have deeper : room - element.suffixes = room - (element.suffixes + 1) + 1 := by omega
  rw [TypeExpr.lexemes, List.append_assoc]
  apply accepts _ _ _ (kindAt_notMem (by decide) _) (absurd · noFunction)
  intro start value same
  rw [deeper]
  apply Parse.arraySuffixes_accepts_more
  intro whole
  apply goesOn
  rw [TypeExpr.relocate, TypeExpr.relocate, same, Span.relocate, Span.relocate]

theorem AcceptsElement.toType (accepts : AcceptsElement keywords rules room type) :
    AcceptsType keywords (Parse.postfixType (.ofRoom rules room)) afterPostfix type := by
  intro more ends functionEnds
  rw [afterPostfix, List.mem_cons, not_or] at ends
  apply accepts more more _ ends.2 functionEnds
  intro _ _ same
  exact Parse.arraySuffixes_accepts_none ends.1 same

variable {parser : Parse TypeExpr} {goOn : List TokenKind} {mark : Punctuator}
  {build : Span → List TypeExpr → TypeExpr}

theorem AcceptsType.single (accepts : AcceptsType keywords parser goOn type)
    (leads : Leads (type.lexemes keywords)) (noStart : startsPrimary (.punctuator mark) = false) :
    AcceptsType keywords (Parse.listType mark build parser) (.punctuator mark :: goOn) type := by
  intro more ends functionEnds
  rw [List.mem_cons, not_or] at ends
  exact Parse.listType_accepts_single (leads.ne_mark more noStart) ends.1
    (accepts more ends.2 functionEnds)

theorem mem_dropLast_of_suffix {α : Type} {first second : α} {later values : List α}
    (suffix : first :: second :: later <:+ values) : first ∈ values.dropLast := by
  rcases suffix with ⟨earlier, rfl⟩
  rw [List.dropLast_append_of_ne_nil (by simp), List.dropLast_cons_of_ne_nil (by simp)]
  simp

theorem AcceptsType.list {members : List TypeExpr} (many : 2 ≤ members.length)
    (accepts : ∀ member ∈ members, AcceptsType keywords parser goOn member)
    (leads : ∀ member ∈ members, Leads (member.lexemes keywords))
    (noFunction : ∀ member ∈ members.dropLast, ¬member.EndsInFunction)
    (lastEnds : ∀ last, members.getLast? = some last → last.EndsInFunction →
      (build span members).EndsInFunction)
    (prints : (build span members).lexemes keywords =
      Lexeme.separated mark (members.map (·.lexemes keywords)))
    (builds : ∀ whole values, values.map (TypeExpr.relocate nowhere) =
      members.map (TypeExpr.relocate nowhere) →
      (build whole values).relocate nowhere = (build span members).relocate nowhere)
    (noStart : startsPrimary (.punctuator mark) = false) (stops : .punctuator mark ∉ goOn) :
    AcceptsType keywords (Parse.listType mark build parser) (.punctuator mark :: goOn)
      (build span members) := by
  intro more ends functionEnds
  rw [List.mem_cons, not_or] at ends
  rw [prints]
  rcases members with _ | ⟨first, _ | ⟨second, others⟩⟩
  · cases many
  · exact absurd many (by simp)
  apply Parse.listType_accepts
  · exact fun rest => (leads first (List.mem_cons_self ..)).ne_mark rest noStart
  · exact ends.1
  · intro member later suffix
    apply accepts member (suffix.subset (List.mem_cons_self ..))
    · cases later with
      | nil => exact ends.2
      | cons => exact stops
    · -- A function would go on with the mark that follows, so only the last member may end in one.
      intro memberEnds
      cases later with
      | nil =>
          rcases suffix with ⟨earlier, same⟩
          exact functionEnds (lastEnds member (by rw [← same]; simp) memberEnds)
      | cons => exact absurd memberEnds (noFunction member (mem_dropLast_of_suffix suffix))
  · exact builds

end OneDepth

namespace TypeExpr.Taken

variable {rules : Rules} {room : Nat} {type element : TypeExpr} {members : List TypeExpr}
  {span : Span}

theorem ofMember (leads : Leads (type.lexemes keywords))
    (element : type.isIntersection = false → AcceptsElement keywords rules room type)
    (accepts : AcceptsType keywords (Parse.intersectionType (.ofRoom rules room)) afterIntersection
      type) : type.Taken keywords rules room where
  leads := leads
  element := fun _ => element
  member := fun _ => accepts
  whole := accepts.single leads rfl

theorem ofElement (leads : Leads (type.lexemes keywords))
    (accepts : AcceptsElement keywords rules room type) : type.Taken keywords rules room :=
  ofMember leads (fun _ => accepts) (accepts.toType.single leads rfl)

theorem union (leads : Leads ((TypeExpr.union span members).lexemes keywords))
    (own : (TypeExpr.union span members).Printable keywords)
    (taken : ∀ member ∈ members, member.Taken keywords rules room) :
    (TypeExpr.union span members).Taken keywords rules room := by
  rcases own with ⟨many, noUnion, noFunction⟩
  have accepts : ∀ member ∈ members, AcceptsType keywords
      (Parse.intersectionType (.ofRoom rules room)) afterIntersection member :=
    fun member inside => (taken member inside).member (noUnion member inside)
  refine ⟨leads, (nomatch ·), (nomatch ·), ?_⟩
  apply AcceptsType.list many accepts (fun member inside => (taken member inside).leads) noFunction
  · exact fun last isLast => .union isLast
  · rw [lexemes, typeLexemes_eq]
  · intro whole values sameValues
    simp [relocate, Span.relocate, sameValues]
  · rfl
  · decide

theorem intersection (leads : Leads ((TypeExpr.intersection span members).lexemes keywords))
    (own : (TypeExpr.intersection span members).Printable keywords)
    (taken : ∀ member ∈ members, member.Taken keywords rules room) :
    (TypeExpr.intersection span members).Taken keywords rules room := by
  rcases own with ⟨many, noList, noFunction⟩
  have accepts : ∀ member ∈ members, AcceptsType keywords
      (Parse.postfixType (.ofRoom rules room)) afterPostfix member := by
    intro member inside
    rcases noList member inside with ⟨noUnion, noIntersection⟩
    exact ((taken member inside).element noUnion noIntersection).toType
  refine .ofMember leads (nomatch ·) ?_
  apply AcceptsType.list many accepts (fun member inside => (taken member inside).leads) noFunction
  · exact fun last isLast => .intersection isLast
  · rw [lexemes, typeLexemes_eq]
  · intro whole values sameValues
    simp [relocate, Span.relocate, sameValues]
  · rfl
  · decide

theorem array (leads : Leads ((TypeExpr.array span element).lexemes keywords))
    (own : (TypeExpr.array span element).Printable keywords)
    (enough : (TypeExpr.array span element).suffixes ≤ room)
    (taken : element.Taken keywords rules room) :
    (TypeExpr.array span element).Taken keywords rules room := by
  rcases own with ⟨noUnion, noIntersection, noFunction⟩
  have noEnd : ¬element.EndsInFunction := by
    intro ends
    cases ends with
    | function => cases noFunction
    | union => cases noUnion
    | intersection => cases noIntersection
  exact .ofElement leads ((taken.element noUnion noIntersection).array noEnd enough)

theorem takes (taken : type.Taken keywords rules room) :
    (Nesting.ofRoom rules (room + 1)).Takes keywords type :=
  ⟨taken.leads, fun more ends => taken.whole more ends fun _ => ends⟩

end TypeExpr.Taken

/-! All nodes of a type. -/

def Node.Taken (keywords : KeywordSet) (rules : Rules) (room : Nat) : Node → Prop
  | .type content => content.Taken keywords rules room
  | .typeMember content => Parse.TakesMember keywords (.ofRoom rules room) content
  | .typeParameter content => Parse.TakesTypeParameter keywords (.ofRoom rules room) content
  | .parameter content => Parse.TakesParameter keywords (.ofRoom rules room) content
  | _ => True

section Below

variable {rules : Rules} {room : Nat}

theorem TypeExpr.taken {type : TypeExpr} (leads : Leads (type.lexemes keywords))
    (own : type.Printable keywords) (enough : type.suffixes ≤ room)
    (same : ∀ child ∈ type.children, child.Taken keywords rules room)
    (deeper : ∀ inner, .type inner ∈ type.children → (Node.type type).descent (.type inner) = 1 →
      (Nesting.ofRoom rules room).Takes keywords inner) :
    type.Taken keywords rules room := by
  cases type with
  | named _ name arguments =>
      refine .ofElement leads (.ofPrimary rfl ?_)
      intro more ends _
      apply Parse.primaryType_accepts_named own.1 own.2 _ ends
      intro argument member
      exact deeper argument (by simp [children, member]) rfl
  | primitive =>
      refine .ofElement leads (.ofPrimary rfl ?_)
      intro more ends _
      exact Parse.primaryType_accepts_primitive ends
  | literal =>
      refine .ofElement leads (.ofPrimary rfl ?_)
      intro more _ _
      exact Parse.primaryType_accepts_literal
  | union _ members =>
      exact .union leads own fun member inside =>
        same (.type member) (by simp [children, inside])
  | intersection _ members =>
      exact .intersection leads own fun member inside =>
        same (.type member) (by simp [children, inside])
  | array _ element =>
      exact .array leads own enough (same (.type element) (by simp [children]))
  | parenthesized _ inner =>
      refine .ofElement leads (.ofPrimary rfl ?_)
      intro more ends _
      exact Parse.primaryType_accepts_parenthesized (deeper inner (by simp [children]) rfl) ends
  | object _ members =>
      refine .ofElement leads (.ofPrimary rfl ?_)
      intro more _ _
      apply Parse.primaryType_accepts_object
      intro member inside
      exact same (.typeMember member) (by simp [children, inside])
  | tuple _ elements =>
      refine .ofElement leads (.ofPrimary rfl ?_)
      intro more _ _
      apply Parse.primaryType_accepts_tuple
      intro element inside
      exact deeper element (by simp [children, inside]) rfl
  | function _ typeParameters parameters result =>
      refine .ofElement leads (.ofPrimary rfl ?_)
      intro more _ functionEnds
      apply Parse.primaryType_accepts_function
      · intro parameter inside
        exact same (.typeParameter parameter) (by simp [children, inside])
      · intro parameter inside
        exact same (.parameter parameter) (by simp [children, inside])
      · exact deeper result (by simp [children]) rfl
      · exact functionEnds .function

theorem Node.taken {node : Node} (printable : node.AllPrintable keywords)
    (enough : node.room ≤ room) : node.Taken keywords rules room := by
  induction node using Node.induction generalizing room with
  | step node induction =>
      rcases room_le_iff.mp enough with ⟨enoughSuffixes, enoughBelow⟩
      -- Members of lists and elements of arrays are read with the room of the node itself, all
      -- other types with one level less.
      have same : ∀ child ∈ node.children, child.Taken keywords rules room := by
        intro child member
        exact induction child member (printable.below member)
          (Nat.le_of_add_right_le (enoughBelow child member))
      have deeper : ∀ inner, .type inner ∈ node.children → node.descent (.type inner) = 1 →
          (Nesting.ofRoom rules room).Takes keywords inner := by
        intro inner member oneDeeper
        have enoughInner := enoughBelow (.type inner) member
        rw [oneDeeper] at enoughInner
        obtain ⟨less, rfl⟩ : ∃ less, room = less + 1 := ⟨room - 1, by omega⟩
        have taken : (Node.type inner).Taken keywords rules less :=
          induction _ member (printable.below member) (Nat.le_of_succ_le_succ enoughInner)
        exact TypeExpr.Taken.takes taken
      have own := printable.own
      cases node with
      | type content =>
          exact content.taken (TypeExpr.lexemes_lead printable) own enoughSuffixes same deeper
      | typeMember content =>
          cases content with
          | property _ _ _ declaredType =>
              apply Parse.property_accepts
              intro type inside
              exact deeper type (by simpa [children, TypeMember.children] using inside) rfl
          | method _ _ _ typeParameters parameters result =>
              apply Parse.method_accepts
              · intro parameter inside
                exact same (.typeParameter parameter)
                  (by simp [children, TypeMember.children, inside])
              · intro parameter inside
                exact same (.parameter parameter)
                  (by simp [children, TypeMember.children, inside])
              · intro type inside
                exact deeper type (by simpa [children, TypeMember.children] using inside) rfl
      | typeParameter content =>
          apply Parse.typeParameter_accepts
          · intro type inside
            exact deeper type
              (by simp [children, TypeParameter.children, Option.mem_toList.mp inside]) rfl
          · intro type inside
            exact deeper type
              (by simp [children, TypeParameter.children, Option.mem_toList.mp inside]) rfl
      | parameter content =>
          apply Parse.parameter_accepts own.2
          intro type inside
          exact deeper type (by simpa [children, Parameter.children] using inside) rfl
      | _ => trivial

end Below

/-! Whole texts. -/

theorem Parse.endOfInput_accepts : Accepts endOfInput [] [] fun _ => True := by
  apply current_accepts.bind
  intro token kind
  exact .ifFalse (fun different => different kind) (.pure trivial)

/-- A printed type is read back as it was, apart from ranges, if there are the levels for it. -/
theorem parseType_print {type : TypeExpr} {limit : Nat}
    (printable : (Node.type type).AllPrintable keywords) (enough : type.levels ≤ limit) :
    ∃ tree, parseType ⟨limit, keywords⟩ (type.print keywords) = .ok tree ∧
      tree.relocate nowhere = type.relocate nowhere := by
  obtain ⟨room, rfl⟩ : ∃ room, limit = room + 1 :=
    ⟨limit - 1, by rw [TypeExpr.levels] at enough; omega⟩
  have taken : (Node.type type).Taken keywords (.ofLimit (room + 1)) room :=
    Node.taken printable (Nat.le_of_succ_le_succ enough)
  have accepted : Accepts (do
        let type ← (Nesting.outermost (.ofLimit (room + 1))).type
        Parse.endOfInput
        return type) (type.lexemes keywords ++ []) []
      (·.relocate nowhere = type.relocate nowhere) := by
    apply ((TypeExpr.Taken.takes taken).2 [] (by decide)).bind
    intro tree same
    apply Parse.endOfInput_accepts.bind
    intro _ _
    exact .pure same
  rcases lex_print printable with ⟨lexemes, ends, sameLine⟩
  rw [List.append_nil] at accepted
  rcases @accepted (.ofLexed (lex keywords (type.print keywords))) ⟨lexemes, ends, sameLine⟩ with
    ⟨_, ⟨tree, parsed, same⟩, _⟩
  exact ⟨tree, Parse.run_reaches ⟨tree, parsed, rfl⟩, same⟩

/-- Names after dots may be reserved, a name before a dot may be that of a primitive type, and a
function may stand at the end of a union. -/
theorem parseType_print_union :
    let type : TypeExpr := .union ⟨0, 0⟩
      [.array ⟨0, 0⟩ (.named ⟨0, 0⟩ ⟨⟨0, 0⟩, "string.in"⟩ (some [.primitive ⟨0, 0⟩ .number])),
        .function ⟨0, 0⟩ []
          [⟨⟨0, 0⟩, false, ⟨⟨0, 0⟩, "a"⟩, true,
            some (.literal ⟨0, 0⟩ ⟨⟨0, 0⟩, .string "b"⟩), none⟩]
          (.object ⟨0, 0⟩ [.property ⟨0, 0⟩ ⟨⟨0, 0⟩, "default"⟩ false none])]
    type.print .full =
        "string . in < number > [ ] | ( a ? : \"b\" ) => \x7b default ; \x7d " ∧
      ∃ tree, parseType ⟨2, .full⟩ (type.print .full) = .ok tree ∧
        tree.relocate nowhere = type.relocate nowhere := by
  intro type
  have named : Identifier.NamesType .full ⟨⟨0, 0⟩, "string.in"⟩ :=
    ⟨"string", ["in"], by decide +kernel, ⟨by decide, by decide⟩, by decide, by decide, by decide⟩
  have occurs : (LiteralValue.string "b").Occurs := by
    refine ⟨.full, "'b'", ?_⟩
    have found : (lex .full "'b'").tokens.any (fun token =>
      (Parse.literalOf? token).map (·.value) == some (.string "b")) = true := by decide +kernel
    simpa [List.any_eq_true] using found
  have printable : (Node.type type).AllPrintable .full := by
    simp only [type, Node.AllPrintable, Node.preorder_eq, Node.children, TypeExpr.children,
      TypeMember.children, Parameter.children, List.flatMap_cons, List.flatMap_nil, List.map_cons,
      List.map_nil, List.cons_append, List.nil_append, List.append_nil, Option.getD_some,
      Option.toList, List.forall_mem_cons]
    refine ⟨⟨by decide, by simp [TypeExpr.isUnion], ?_⟩, ⟨rfl, rfl, rfl⟩, ⟨named, by simp⟩,
      trivial, trivial, trivial, ⟨⟨by decide, by decide⟩, rfl⟩, trivial, occurs, trivial, trivial,
      rfl, trivial, by simp⟩
    simp only [List.dropLast_cons_cons, List.dropLast_singleton, List.forall_mem_singleton]
    nofun
  have enough : type.levels ≤ 2 := by
    simp only [type, TypeExpr.levels, Nat.reduceLeDiff, Node.room_le_iff, Node.children,
      TypeExpr.children, TypeMember.children, Parameter.children, List.map_cons, List.map_nil,
      List.cons_append, List.nil_append, List.append_nil, Option.getD_some, Option.toList,
      List.forall_mem_cons, Node.descent, Nat.add_zero]
    simp [Node.suffixes, TypeExpr.suffixes]
  exact ⟨by decide +kernel, parseType_print printable enough⟩

end TypedScript
