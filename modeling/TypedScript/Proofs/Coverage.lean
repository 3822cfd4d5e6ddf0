import TypedScript.Proofs.TokenOrder
import TypedScript.Tree.Spans

/-!
Nodes and the tokens that they were read from. A node covers a sequence of tokens if its range goes
from the first to the last of them and its children cover parts of the sequence, one after another.
Main statement: where tokens follow each other in a text, the nodes that cover them obey the law of
ranges, and the range of every node at or below them begins and ends with a token.
-/

namespace TypedScript

def stopAfter (stop : Nat) (tokens : List Token) : Nat :=
  tokens.foldl (fun _ token => token.stop) stop

@[simp] theorem stopAfter_nil (stop : Nat) : stopAfter stop [] = stop := rfl

@[simp] theorem stopAfter_cons (stop : Nat) (token : Token) (tokens : List Token) :
    stopAfter stop (token :: tokens) = stopAfter token.stop tokens := rfl

theorem stopAfter_append (stop : Nat) (first second : List Token) :
    stopAfter stop (first ++ second) = stopAfter (stopAfter stop first) second :=
  List.foldl_append

/-- The range goes from the first of some tokens to the last. The range of a single token is taken
from the token, others are never closed before they begin. -/
inductive Span.Around (first : Token) (rest : List Token) : Span → Prop
  | tokens : Around first rest ⟨first.start, stopAfter first.stop rest⟩
  | closed : Around first rest ⟨first.start, max (stopAfter first.stop rest) first.start⟩

theorem Span.Around.start {first : Token} {rest : List Token} {span : Span}
    (around : span.Around first rest) : span.start = first.start := by
  cases around <;> rfl

mutual

inductive Node.Covers : Node → List Token → Prop
  | intro {node first rest} :
      node.span.Around first rest →
      Node.Among node.children (first :: rest) → Node.Covers node (first :: rest)

/-- The nodes were read one after another from parts of these tokens. -/
inductive Node.Among : List Node → List Token → Prop
  | nil {tokens} : Node.Among [] tokens
  | cons {node nodes earlier own later} :
      Node.Covers node own → Node.Among nodes later →
      Node.Among (node :: nodes) (earlier ++ own ++ later)

end

namespace Node

theorem Covers.ne_nil {node : Node} {tokens : List Token} (covers : node.Covers tokens) :
    tokens ≠ [] := by
  cases covers
  simp

theorem Covers.children {node : Node} {tokens : List Token} (covers : node.Covers tokens) :
    Among node.children tokens := by
  cases covers with
  | intro _ among => exact among

theorem Covers.among {node : Node} {tokens : List Token} (covers : node.Covers tokens) :
    Among [node] tokens := by
  have among : Among [node] ([] ++ tokens ++ []) := .cons covers .nil
  simpa using among

theorem Among.append_left {nodes : List Node} {tokens : List Token} (among : Among nodes tokens)
    (earlier : List Token) : Among nodes (earlier ++ tokens) := by
  cases among with
  | nil => exact .nil
  | cons covers among =>
      rw [← List.append_assoc, ← List.append_assoc]
      exact .cons covers among

theorem Among.append {first second : List Node} {firstTokens secondTokens : List Token}
    (left : Among first firstTokens) (right : Among second secondTokens) :
    Among (first ++ second) (firstTokens ++ secondTokens) := by
  induction first generalizing firstTokens with
  | nil => exact right.append_left firstTokens
  | cons node nodes induction =>
      cases left with
      | cons covers among =>
          rw [List.append_assoc]
          exact .cons covers (induction among)

/-! What the order of the tokens says about the ranges. -/

/-- The range of a node goes from the first to the last token of `tokens`, or from and to tokens
between them. -/
structure Delimited (node : Node) (tokens : List Token) : Prop where
  nonempty : node.span.start < node.span.stop
  start : ∃ token ∈ tokens, token.start = node.span.start
  stop : ∃ token ∈ tokens, token.stop = node.span.stop

theorem Delimited.mono {node : Node} {part tokens : List Token} (delimited : node.Delimited part)
    (subset : part ⊆ tokens) : node.Delimited tokens := by
  rcases delimited.start with ⟨first, firstMember, start⟩
  rcases delimited.stop with ⟨last, lastMember, stop⟩
  exact ⟨delimited.nonempty, ⟨first, subset firstMember, start⟩, ⟨last, subset lastMember, stop⟩⟩

end Node

theorem InOrder.stopAfter_spec {first : Token} {rest : List Token}
    (inOrder : InOrder (first :: rest)) :
    (∃ token ∈ first :: rest, token.stop = stopAfter first.stop rest) ∧
      ∀ token ∈ first :: rest, token.stop ≤ stopAfter first.stop rest := by
  induction rest generalizing first with
  | nil => simp
  | cons second rest induction =>
      have later := induction (inOrder.of_sublist (List.sublist_cons_self _ _))
      rcases later with ⟨⟨last, member, stop⟩, bound⟩
      have order := (List.pairwise_cons.mp inOrder.ordered).1 second (by simp)
      have nonempty := inOrder.nonempty second (by simp)
      have secondBound := bound second (by simp)
      refine ⟨⟨last, List.mem_cons_of_mem _ member, stop⟩, ?_⟩
      refine List.forall_mem_cons.mpr ⟨?_, bound⟩
      rw [stopAfter_cons]
      omega

theorem Span.Around.eq {first : Token} {rest : List Token} {span : Span}
    (around : span.Around first rest) (inOrder : InOrder (first :: rest)) :
    span = ⟨first.start, stopAfter first.stop rest⟩ := by
  cases around with
  | tokens => rfl
  | closed =>
      have nonempty := inOrder.nonempty first (by simp)
      have firstBound := inOrder.stopAfter_spec.2 first (by simp)
      congr
      omega

namespace Node

theorem Covers.bounds {node : Node} {tokens : List Token} (covers : node.Covers tokens)
    (inOrder : InOrder tokens) :
    node.Delimited tokens ∧
      ∀ token ∈ tokens, node.span.start ≤ token.start ∧ token.stop ≤ node.span.stop := by
  cases covers with
  | @intro _ first rest span _ =>
      rcases inOrder.stopAfter_spec with ⟨⟨last, lastMember, stop⟩, bound⟩
      have nonempty := inOrder.nonempty first (by simp)
      have firstBound := bound first (by simp)
      replace span := span.eq inOrder
      refine ⟨⟨?_, ⟨first, by simp, by rw [span]⟩, ⟨last, lastMember, by rw [span, stop]⟩⟩, ?_⟩
      · rw [span]
        dsimp only
        omega
      · intro token member
        rw [span]
        refine ⟨?_, bound token member⟩
        dsimp only
        rcases List.mem_cons.mp member with rfl | later
        · exact Nat.le_refl _
        · have order := (List.pairwise_cons.mp inOrder.ordered).1 token later
          omega

/-- Nodes that were read one after another have ranges that follow each other. -/
theorem Among.spans {nodes : List Node} {tokens : List Token} (among : Among nodes tokens)
    (inOrder : InOrder tokens) :
    (∀ node ∈ nodes, node.Delimited tokens) ∧
      nodes.Pairwise fun earlier later => earlier.span.stop ≤ later.span.start := by
  induction nodes generalizing tokens with
  | nil => simp
  | cons node nodes induction =>
      cases among with
      | @cons _ _ earlier own later covers among =>
          have ownOrder : InOrder own := inOrder.of_sublist (by simp)
          rcases covers.bounds ownOrder with ⟨delimited, _⟩
          rcases induction among (inOrder.of_sublist (by simp)) with ⟨laterDelimited, ordered⟩
          refine ⟨List.forall_mem_cons.mpr ⟨delimited.mono (by simp), ?_⟩,
            List.pairwise_cons.mpr ⟨?_, ordered⟩⟩
          · exact fun other member => (laterDelimited other member).mono (by simp)
          · intro other member
            rcases delimited.stop with ⟨last, lastMember, stop⟩
            rcases (laterDelimited other member).start with ⟨first, firstMember, start⟩
            have order := (List.pairwise_append.mp inOrder.ordered).2.2
            rw [← stop, ← start]
            exact order last (by simp [lastMember]) first firstMember

theorem Among.exists_covers {nodes : List Node} {tokens : List Token} {node : Node}
    (among : Among nodes tokens) (member : node ∈ nodes) :
    ∃ own, own.Sublist tokens ∧ node.Covers own := by
  induction nodes generalizing tokens with
  | nil => cases member
  | cons first nodes induction =>
      cases among with
      | @cons _ _ earlier own later covers among =>
          rcases List.mem_cons.mp member with rfl | member
          · exact ⟨own, by simp, covers⟩
          · rcases induction among member with ⟨part, sublist, found⟩
            exact ⟨part, sublist.trans (List.sublist_append_right _ _), found⟩

/-! The law of ranges. -/

theorem violation?_eq (node : Node) :
    node.violation? =
      (node.children.zip (none :: node.children.map fun child => some child.span)).findSome?
        fun (child, before) => (node.childViolation? before child).or child.violation? := by
  rw [violation?]
  have forget := List.attach_map_subtype_val node.children
  conv => rhs; rw [← forget, List.zip_map_left, List.findSome?_map]
  simp [Function.comp_def]

theorem zip_previous {nodes : List Node} {previous : Option Span}
    (ordered : nodes.Pairwise fun earlier later => earlier.span.stop ≤ later.span.start)
    (after : ∀ before ∈ previous, ∀ node ∈ nodes, before.stop ≤ node.span.start) :
    ∀ pair ∈ nodes.zip (previous :: nodes.map fun node => some node.span),
      pair.1 ∈ nodes ∧ ∀ before ∈ pair.2, before.stop ≤ pair.1.span.start := by
  induction nodes generalizing previous with
  | nil => simp
  | cons node nodes induction =>
      rcases List.pairwise_cons.mp ordered with ⟨nodeFirst, ordered⟩
      rw [List.map_cons, List.zip_cons_cons]
      refine List.forall_mem_cons.mpr ⟨⟨by simp, fun before member => ?_⟩, ?_⟩
      · exact after before member node (by simp)
      · intro pair member
        have later := induction ordered (by simpa using nodeFirst) pair member
        exact ⟨List.mem_cons_of_mem _ later.1, later.2⟩

/-- A node obeys the law if its children were read from tokens within its range and obey it
themselves. -/
theorem violation?_eq_none {node : Node} {tokens : List Token}
    (among : Among node.children tokens) (inOrder : InOrder tokens)
    (around : ∀ token ∈ tokens, node.span.start ≤ token.start ∧ token.stop ≤ node.span.stop)
    (children : ∀ child ∈ node.children, child.violation? = none) : node.violation? = none := by
  rcases among.spans inOrder with ⟨delimited, ordered⟩
  rw [violation?_eq, List.findSome?_eq_none_iff]
  intro pair member
  have place := zip_previous ordered (by simp) pair member
  rcases pair with ⟨child, before⟩
  rcases (delimited child place.1).start with ⟨first, firstMember, start⟩
  rcases (delimited child place.1).stop with ⟨last, lastMember, stop⟩
  have inside : node.span.contains child.span = true := by
    have firstBound := around first firstMember
    have lastBound := around last lastMember
    simp only [Span.contains, Bool.and_eq_true, decide_eq_true_eq]
    omega
  have noViolation : node.childViolation? before child = none := by
    cases before with
    | none => simp [childViolation?, inside]
    | some before =>
        have apart : ¬child.span.start < before.stop := Nat.not_lt.mpr (place.2 before rfl)
        simp [childViolation?, inside, apart]
  change (node.childViolation? before child).or child.violation? = none
  rw [noViolation, Option.none_or]
  exact children child place.1

/-- A node that covers some tokens obeys the law of ranges, and so does everything below it. -/
theorem Covers.lawful {node : Node} {tokens : List Token} (covers : node.Covers tokens)
    (inOrder : InOrder tokens) :
    node.violation? = none ∧ ∀ below ∈ node.preorder, below.Delimited tokens := by
  induction node using Node.induction generalizing tokens with
  | step node induction =>
      rcases covers.bounds inOrder with ⟨delimited, around⟩
      have lawful : ∀ child ∈ node.children,
          child.violation? = none ∧ ∀ below ∈ child.preorder, below.Delimited tokens := by
        intro child member
        rcases covers.children.exists_covers member with ⟨own, sublist, covers⟩
        have found := induction child member covers (inOrder.of_sublist sublist)
        exact ⟨found.1, fun below inside => (found.2 below inside).mono sublist.subset⟩
      refine ⟨violation?_eq_none covers.children inOrder around fun child member =>
        (lawful child member).1, ?_⟩
      rw [preorder_eq]
      refine List.forall_mem_cons.mpr ⟨delimited, fun below member => ?_⟩
      rcases List.mem_flatMap.mp member with ⟨child, childMember, inside⟩
      exact (lawful child childMember).2 below inside

end Node

end TypedScript
