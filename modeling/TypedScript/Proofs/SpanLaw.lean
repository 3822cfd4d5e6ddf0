import TypedScript.Proofs.Coverage

/-!
The law of ranges, for all nodes of a tree at once. The check looks at a child beside its parent and
the sibling just before it, and stops at the first that is wrong. Main statement: it finds nothing
wrong exactly where every node lies within all nodes above it and nodes that are not above each
other follow each other, and what it finds is wrong.
-/

namespace TypedScript

/-! Places of a tree. A node may stand at several places of one tree, so a place is given by the way
to it: the numbers of the children to go through. -/

namespace Node

def placed (node : Node) : List (List Nat × Node) :=
  ([], node) :: node.children.attach.zipIdx.flatMap fun (⟨child, _⟩, index) =>
    child.placed.map fun (way, below) => (index :: way, below)
termination_by node
decreasing_by exact sizeOf_lt_of_mem_children ‹_›

def placedBelow (child : Node) (index : Nat) : List (List Nat × Node) :=
  child.placed.map fun (way, below) => (index :: way, below)

theorem placed_eq (node : Node) :
    node.placed = ([], node) ::
      node.children.zipIdx.flatMap fun (child, index) => child.placedBelow index := by
  rw [placed]
  have forget := List.attach_map_subtype_val node.children
  conv => rhs; rw [← forget, List.zipIdx_map, List.flatMap_map]
  rfl

theorem mem_placedBelow {child below : Node} {index : Nat} {way : List Nat} :
    (way, below) ∈ child.placedBelow index ↔
      ∃ rest, way = index :: rest ∧ (rest, below) ∈ child.placed := by
  simp only [placedBelow, List.mem_map, Prod.exists, Prod.mk.injEq]
  constructor
  · rintro ⟨rest, _, member, rfl, rfl⟩
    exact ⟨rest, rfl, member⟩
  · rintro ⟨rest, rfl, member⟩
    exact ⟨rest, below, member, rfl, rfl⟩

/-- A node stands at a place if it is the root there or stands below the child with that number. -/
theorem mem_placed {node below : Node} {way : List Nat} :
    (way, below) ∈ node.placed ↔ way = [] ∧ below = node ∨
      ∃ index rest child, way = index :: rest ∧ node.children[index]? = some child ∧
        (rest, below) ∈ child.placed := by
  rw [placed_eq, List.mem_cons, Prod.mk.injEq]
  refine or_congr_right ?_
  simp only [List.mem_flatMap, Prod.exists, List.mk_mem_zipIdx_iff_getElem?, mem_placedBelow]
  constructor
  · rintro ⟨child, index, isChild, rest, rfl, member⟩
    exact ⟨index, rest, child, rfl, isChild, member⟩
  · rintro ⟨index, rest, child, rfl, isChild, member⟩
    exact ⟨child, index, isChild, rest, rfl, member⟩

theorem root_placed (node : Node) : ([], node) ∈ node.placed :=
  mem_placed.mpr (.inl ⟨rfl, rfl⟩)

theorem child_placed {node child : Node} {index : Nat}
    (isChild : node.children[index]? = some child) : ([index], child) ∈ node.placed :=
  mem_placed.mpr (.inr ⟨index, [], child, rfl, isChild, child.root_placed⟩)

end Node

/-! The law. -/

def Span.Within (inner outer : Span) : Prop :=
  outer.start ≤ inner.start ∧ inner.stop ≤ outer.stop

theorem Span.Within.trans {inner middle outer : Span} (first : inner.Within middle)
    (second : middle.Within outer) : inner.Within outer :=
  ⟨Nat.le_trans second.1 first.1, Nat.le_trans first.2 second.2⟩

namespace Node

/-- The law for a whole tree: a node lies within all nodes above it, and of two nodes neither of
which is above the other the one that comes first ends before the other begins. -/
structure ObeysLaw (root : Node) : Prop where
  within : ∀ outer ∈ root.placed, ∀ inner ∈ root.placed, outer.1 <+: inner.1 →
    inner.2.span.Within outer.2.span
  apart : root.placed.Pairwise fun first second =>
    ¬first.1 <+: second.1 → ¬second.1 <+: first.1 → first.2.span.stop ≤ second.2.span.start

structure ObeysLocally (node : Node) : Prop where
  within : ∀ child ∈ node.children, child.span.Within node.span
  apart : node.children.Pairwise fun first second => first.span.stop ≤ second.span.start

def Forward (root : Node) : Prop :=
  ∀ node ∈ root.preorder, node.span.start ≤ node.span.stop

variable {node child : Node}

theorem Forward.own (forward : node.Forward) : node.span.start ≤ node.span.stop :=
  forward node (by rw [preorder_eq]; exact List.mem_cons_self ..)

theorem Forward.below (forward : node.Forward) (isChild : child ∈ node.children) :
    child.Forward := by
  intro below member
  refine forward below ?_
  rw [preorder_eq]
  exact List.mem_cons_of_mem _ (List.mem_flatMap.mpr ⟨child, isChild, member⟩)

/-! From the children of one node to all nodes below it. -/

theorem ObeysLocally.obeysLaw (locally : node.ObeysLocally)
    (below : ∀ child ∈ node.children, child.ObeysLaw) : node.ObeysLaw := by
  have inside {way : List Nat} {inner : Node} (member : (way, inner) ∈ node.placed) :
      inner.span.Within node.span := by
    rcases mem_placed.mp member with ⟨_, rfl⟩ | ⟨index, rest, child, rfl, isChild, member⟩
    · exact ⟨Nat.le_refl _, Nat.le_refl _⟩
    · have isChild := List.mem_of_getElem? isChild
      exact ((below child isChild).within _ child.root_placed _ member List.nil_prefix).trans
        (locally.within child isChild)
  constructor
  · rintro ⟨outerWay, outer⟩ outerMember ⟨innerWay, inner⟩ innerMember above
    rcases mem_placed.mp outerMember with ⟨_, rfl⟩ | ⟨index, rest, child, rfl, isChild, outerMember⟩
    · exact inside innerMember
    · rcases mem_placed.mp innerMember with
        ⟨rfl, _⟩ | ⟨otherIndex, otherRest, otherChild, rfl, otherIsChild, innerMember⟩
      · simp at above
      · have above : index :: rest <+: otherIndex :: otherRest := above
        rcases List.cons_prefix_cons.mp above with ⟨rfl, tailAbove⟩
        cases isChild.symm.trans otherIsChild
        exact (below child (List.mem_of_getElem? isChild)).within (rest, outer) outerMember
          (otherRest, inner) innerMember tailAbove
  · rw [placed_eq, List.pairwise_cons, List.pairwise_flatMap]
    refine ⟨fun _ _ notAbove => absurd List.nil_prefix notAbove, ?_, ?_⟩
    · rintro ⟨child, index⟩ member
      have isChild := List.fst_mem_of_mem_zipIdx member
      dsimp only
      rw [placedBelow, List.pairwise_map]
      refine (below child isChild).apart.imp fun apart notAbove notBelow => apart ?_ ?_
      · simpa [List.cons_prefix_cons] using notAbove
      · simpa [List.cons_prefix_cons] using notBelow
    · have numbered : node.children.zipIdx.Pairwise fun first second =>
          first.1.span.stop ≤ second.1.span.start := by
        have forget : node.children.zipIdx.map (·.1) = node.children := List.zipIdx_map_fst _ _
        have apart := locally.apart
        rw [← forget, List.pairwise_map] at apart
        exact apart
      refine numbered.imp_of_mem ?_
      rintro ⟨first, firstIndex⟩ ⟨second, secondIndex⟩ firstMember secondMember apart
      rintro ⟨_, early⟩ earlyMember ⟨_, late⟩ lateMember _ _
      rcases mem_placedBelow.mp earlyMember with ⟨earlyWay, _, earlyPlaced⟩
      rcases mem_placedBelow.mp lateMember with ⟨lateWay, _, latePlaced⟩
      have earlyWithin := (below first (List.fst_mem_of_mem_zipIdx firstMember)).within _
        first.root_placed _ earlyPlaced List.nil_prefix
      have lateWithin := (below second (List.fst_mem_of_mem_zipIdx secondMember)).within _
        second.root_placed _ latePlaced List.nil_prefix
      exact Nat.le_trans (Nat.le_trans earlyWithin.2 apart) lateWithin.1

/-! From all nodes back to the children of one. -/

theorem ObeysLaw.below (obeys : node.ObeysLaw) (isChild : child ∈ node.children) :
    child.ObeysLaw := by
  rcases List.mem_iff_getElem?.mp isChild with ⟨index, isChild⟩
  constructor
  · rintro ⟨outerWay, outer⟩ outerMember ⟨innerWay, inner⟩ innerMember above
    exact obeys.within (index :: outerWay, outer)
      (mem_placed.mpr (.inr ⟨index, outerWay, child, rfl, isChild, outerMember⟩))
      (index :: innerWay, inner)
      (mem_placed.mpr (.inr ⟨index, innerWay, child, rfl, isChild, innerMember⟩))
      (List.cons_prefix_cons.mpr ⟨rfl, above⟩)
  · have apart := obeys.apart
    rw [placed_eq, List.pairwise_cons, List.pairwise_flatMap] at apart
    have own := apart.2.1 (child, index) (List.mk_mem_zipIdx_iff_getElem?.mpr isChild)
    dsimp only at own
    rw [placedBelow, List.pairwise_map] at own
    refine own.imp fun apart notAbove notBelow => apart ?_ ?_
    · simpa [List.cons_prefix_cons] using notAbove
    · simpa [List.cons_prefix_cons] using notBelow

theorem ObeysLaw.locally (obeys : node.ObeysLaw) : node.ObeysLocally := by
  constructor
  · intro child isChild
    rcases List.mem_iff_getElem?.mp isChild with ⟨index, isChild⟩
    exact obeys.within _ node.root_placed _ (child_placed isChild) List.nil_prefix
  · have apart := obeys.apart
    rw [placed_eq, List.pairwise_cons, List.pairwise_flatMap] at apart
    have numbered := apart.2.2
    rw [List.pairwise_iff_getElem] at numbered ⊢
    intro first second firstBound secondBound less
    have apart := numbered first second (by simpa using firstBound) (by simpa using secondBound)
      less
    simp only [List.getElem_zipIdx, Nat.zero_add] at apart
    refine apart ([first], _) (mem_placedBelow.mpr ⟨[], rfl, root_placed _⟩) ([second], _)
      (mem_placedBelow.mpr ⟨[], rfl, root_placed _⟩) ?_ ?_
    · simp [List.cons_prefix_cons, Nat.ne_of_lt less]
    · simp [List.cons_prefix_cons, Nat.ne_of_gt less]

/-! The check. -/

theorem childViolation?_eq_none_iff {previous : Option Span} :
    node.childViolation? previous child = none ↔
      child.span.Within node.span ∧ ∀ before ∈ previous, before.stop ≤ child.span.start := by
  unfold childViolation?
  rw [Span.Within, ← Span.contains_eq_true]
  cases inside : node.span.contains child.span with
  | false => simp
  | true =>
      cases previous with
      | none => simp
      | some before => simp

/-- Where each range begins after the one just before it has ended, it begins after all before it:
none of them goes backwards. -/
theorem pairwise_of_previous {nodes : List Node} {previous : Option Span}
    (forward : ∀ node ∈ nodes, node.span.start ≤ node.span.stop)
    (apart : ∀ pair ∈ nodes.zip (previous :: nodes.map fun node => some node.span),
      ∀ before ∈ pair.2, before.stop ≤ pair.1.span.start) :
    (nodes.Pairwise fun first second => first.span.stop ≤ second.span.start) ∧
      ∀ before ∈ previous, ∀ node ∈ nodes, before.stop ≤ node.span.start := by
  induction nodes generalizing previous with
  | nil => simp
  | cons node nodes induction =>
      rw [List.map_cons, List.zip_cons_cons, List.forall_mem_cons] at apart
      rw [List.forall_mem_cons] at forward
      rcases induction forward.2 apart.2 with ⟨ordered, after⟩
      have later := after node.span rfl
      refine ⟨List.pairwise_cons.mpr ⟨later, ordered⟩, fun before isBefore => ?_⟩
      have first := apart.1 before isBefore
      refine List.forall_mem_cons.mpr ⟨first, fun other member => ?_⟩
      exact Nat.le_trans (Nat.le_trans first forward.1) (later other member)

/-- The check finds nothing wrong at a node and below it exactly where it finds nothing wrong below
its children, and the law holds for the node and its children. -/
theorem violation?_eq_none_iff_locally (forward : node.Forward) :
    node.violation? = none ↔
      node.ObeysLocally ∧ ∀ child ∈ node.children, child.violation? = none := by
  have all : (node.children.zip (none :: node.children.map fun child => some child.span)).map
      (·.1) = node.children := List.map_fst_zip (by simp)
  rw [violation?_eq, List.findSome?_eq_none_iff]
  simp only [Option.or_eq_none_iff, childViolation?_eq_none_iff]
  constructor
  · intro passes
    have each {child : Node} (isChild : child ∈ node.children) :
        child.span.Within node.span ∧ child.violation? = none := by
      rw [← all] at isChild
      rcases List.mem_map.mp isChild with ⟨pair, member, rfl⟩
      exact ⟨(passes pair member).1.1, (passes pair member).2⟩
    refine ⟨⟨fun child isChild => (each isChild).1, ?_⟩, fun child isChild => (each isChild).2⟩
    exact (pairwise_of_previous (fun child isChild => (forward.below isChild).own)
      fun pair member => (passes pair member).1.2).1
  · rintro ⟨locally, below⟩ pair member
    rcases zip_previous locally.apart (by simp) pair member with ⟨isChild, after⟩
    exact ⟨⟨locally.within _ isChild, after⟩, below _ isChild⟩

theorem violation?_eq_none_iff (forward : node.Forward) :
    node.violation? = none ↔ node.ObeysLaw := by
  induction node using Node.induction with
  | step node induction =>
      rw [violation?_eq_none_iff_locally forward]
      constructor
      · rintro ⟨locally, below⟩
        exact locally.obeysLaw fun child isChild =>
          (induction child isChild (forward.below isChild)).mp (below child isChild)
      · intro obeys
        exact ⟨obeys.locally, fun child isChild =>
          (induction child isChild (forward.below isChild)).mpr (obeys.below isChild)⟩

end Node

/-- The violation tells of a child of the node that does not lie within it, or that begins before
the sibling just before it has ended. -/
def SpanViolation.FoundAt (violation : SpanViolation) (parent : Node) : Prop :=
  ∃ earlier child later, parent.children = earlier ++ child :: later ∧
    violation.parentKind = parent.kind ∧ violation.parentSpan = parent.span ∧
    violation.childKind = child.kind ∧ violation.childSpan = child.span ∧
    match violation.previous with
    | none => ¬child.span.Within parent.span
    | some before => earlier.getLast?.map Node.span = some before ∧ child.span.start < before.stop

namespace Node

theorem split_of_mem_zip {nodes : List Node} {previous before : Option Span} {child : Node}
    (member : (child, before) ∈ nodes.zip (previous :: nodes.map fun node => some node.span)) :
    ∃ earlier later, nodes = earlier ++ child :: later ∧
      before = (earlier.getLast?.map span).or previous := by
  induction nodes generalizing previous with
  | nil => simp at member
  | cons node nodes induction =>
      rw [List.map_cons, List.zip_cons_cons] at member
      rcases List.mem_cons.mp member with same | member
      · cases same
        exact ⟨[], nodes, rfl, rfl⟩
      · rcases induction member with ⟨earlier, later, rfl, rfl⟩
        refine ⟨node :: earlier, later, rfl, ?_⟩
        rw [List.getLast?_cons, Option.map_some, Option.some_or]
        cases earlier.getLast? <;> rfl

theorem foundAt_of_childViolation? {node child : Node} {earlier later : List Node}
    {violation : SpanViolation} (children : node.children = earlier ++ child :: later)
    (found : node.childViolation? (earlier.getLast?.map span) child = some violation) :
    violation.FoundAt node := by
  unfold childViolation? at found
  split at found
  · next outside =>
      cases found
      refine ⟨earlier, child, later, children, rfl, rfl, rfl, rfl, ?_⟩
      rw [Bool.not_eq_true', ← Bool.not_eq_true, Span.contains_eq_true] at outside
      exact outside
  · split at found
    · next before isBefore =>
        split at found
        · next less =>
            cases found
            exact ⟨earlier, child, later, children, rfl, rfl, rfl, rfl, isBefore, less⟩
        · cases found
    · cases found

theorem exists_of_violation? {node : Node} {violation : SpanViolation}
    (found : node.violation? = some violation) :
    ∃ parent ∈ node.preorder, violation.FoundAt parent := by
  induction node using Node.induction with
  | step node induction =>
      rw [violation?_eq] at found
      rcases List.exists_of_findSome?_eq_some found with ⟨⟨child, before⟩, member, found⟩
      rcases split_of_mem_zip member with ⟨earlier, later, children, rfl⟩
      rw [Option.or_none] at found
      rw [preorder_eq]
      rcases Option.or_eq_some_iff.mp found with own | ⟨_, below⟩
      · exact ⟨node, List.mem_cons_self .., foundAt_of_childViolation? children own⟩
      · have isChild : child ∈ node.children := by simp [children]
        rcases induction child isChild below with ⟨parent, member, foundAt⟩
        exact ⟨parent, List.mem_cons_of_mem _ (List.mem_flatMap.mpr ⟨child, isChild, member⟩),
          foundAt⟩

end Node

/-- Where no range goes backwards, the check of a program finds nothing exactly if the law holds for
all nodes of its tree; and what it finds breaks the law. -/
theorem spanViolation_decides_law (program : Program) (forward : (Node.program program).Forward) :
    (program.spanViolation? = none ↔ (Node.program program).ObeysLaw) ∧
      ∀ violation, program.spanViolation? = some violation →
        ∃ parent ∈ (Node.program program).preorder, violation.FoundAt parent :=
  ⟨Node.violation?_eq_none_iff forward, fun _ => Node.exists_of_violation?⟩

/-- `return;` and an empty statement that begins with the same semicolon. -/
theorem spanViolation_decides_law_shared_semicolon :
    let program : Program := ⟨⟨0, 7⟩, [.returning ⟨0, 7⟩ none, .empty ⟨6, 7⟩]⟩
    (Node.program program).Forward ∧ ¬(Node.program program).ObeysLaw ∧
      ∃ parent ∈ (Node.program program).preorder,
        SpanViolation.FoundAt ⟨.node .program, ⟨0, 7⟩, .node .emptyStatement, ⟨6, 7⟩, some ⟨0, 7⟩⟩
          parent := by
  intro program
  have forward : (Node.program program).Forward := by
    simp [program, Node.Forward, Node.preorder_eq, Node.children, Statement.children, Node.span,
      Statement.span]
  have first : (Node.statement (.returning ⟨0, 7⟩ none)).violation? = none := by
    rw [Node.violation?_eq]
    rfl
  have found : program.spanViolation? =
      some ⟨.node .program, ⟨0, 7⟩, .node .emptyStatement, ⟨6, 7⟩, some ⟨0, 7⟩⟩ := by
    rw [Program.spanViolation?, Node.violation?_eq]
    simp [program, Node.children, Node.childViolation?, Node.span, Statement.span, Span.contains,
      first, Node.kind, Statement.kind]
  rcases spanViolation_decides_law program forward with ⟨decides, breaks⟩
  refine ⟨forward, fun obeys => ?_, breaks _ found⟩
  rw [decides.mpr obeys] at found
  cases found

end TypedScript
