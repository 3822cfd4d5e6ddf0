import Std.Data.HashMap
import TypedScript.Pattern.Basic
import TypedScript.Text.ByteSequence

/-!
How large a pattern is. A pattern is measured by an automaton over bytes that would search for it
from the left, and by one that would go through its matches from the right. Neither may take up
more than ten mebibytes.

A state counts for 32 bytes, a way from a fork for four and one of several ways that depend on the
next byte for eight.
-/

namespace TypedScript

/-- The size of an automaton: its states, and the bytes for the ways from one to another. -/
structure Footprint where
  states : Nat
  edges : Nat
deriving DecidableEq, Repr

namespace Footprint

def zero : Footprint :=
  ⟨0, 0⟩

def bytes (size : Footprint) : Nat :=
  32 * size.states + size.edges

def greatest : Nat := 10485760

def add (left right : Footprint) : Footprint :=
  ⟨left.states + right.states, left.edges + right.edges⟩

/-- Adds to an automaton, unless it gets too large. -/
def grow? (size more : Footprint) : Option Footprint :=
  let grown := size.add more
  if grown.bytes ≤ greatest then some grown else none

def plain (states : Nat) : Footprint :=
  ⟨states, 0⟩

def fork (ways : Nat) : Footprint :=
  ⟨1, 4 * ways⟩

def branching (ways : Nat) : Footprint :=
  ⟨1, 8 * ways⟩

def times (step : Footprint → Option Footprint) : Nat → Footprint → Option Footprint
  | 0, size => some size
  | count + 1, size =>
      match step size with
      | none => none
      | some size => times step count size

end Footprint

/-! States that are used again. -/

/-- States that are known by numbers. There is a fixed number of slots; the numbers of a state
tell its slot, and what is in it gives way to what comes later. -/
structure StateCache where
  slots : Nat
  kept : Std.HashMap Nat (List Nat × Nat)

namespace StateCache

def ofSlots (slots : Nat) : StateCache :=
  ⟨slots, ∅⟩

/-- The slot of some numbers, by a hash of 64 bits (FNV-1a, but on whole numbers). -/
def slot (cache : StateCache) (numbers : List Nat) : Nat :=
  let hash : UInt64 := numbers.foldl
    (fun hash number => (hash ^^^ UInt64.ofNat number) * 1099511628211) 14695981039346656037
  hash.toNat % cache.slots

def state? (cache : StateCache) (numbers : List Nat) : Option Nat :=
  match cache.kept[cache.slot numbers]? with
  | some (known, state) => if known = numbers then some state else none
  | none => none

def keep (cache : StateCache) (numbers : List Nat) (state : Nat) : StateCache :=
  { cache with kept := cache.kept.insert (cache.slot numbers) (numbers, state) }

end StateCache

/-- An automaton under construction and those of its states that may be used again. -/
structure Sharing where
  size : Footprint
  cache : StateCache

namespace Sharing

def state (sharing : Sharing) (numbers : List Nat) (more : Footprint) : Nat × Sharing :=
  match sharing.cache.state? numbers with
  | some state => (state, sharing)
  | none =>
      let state := sharing.size.states
      (state, ⟨sharing.size.add more, sharing.cache.keep numbers state⟩)

/-- The state from which the bytes of `sequences` lead to the state `target`. What comes after
the first bytes is laid out before; no sequence has more than `depth` bytes. -/
def enter (target : Nat) : (depth : Nat) → List ByteSequence → Sharing → Nat × Sharing
  | 0, _, sharing => (target, sharing)
  | _ + 1, [] :: _, sharing => (target, sharing)
  | depth + 1, sequences, sharing =>
      let groups := sequences.splitBy fun left right => left.head? == right.head?
      let (numbers, sharing) := groups.foldl
        (fun (numbers, sharing) group =>
          match group with
          | (range :: _) :: _ =>
              let (next, sharing) := enter target depth (group.map List.tail) sharing
              (numbers ++ [range.first, range.last, next], sharing)
          | _ => (numbers, sharing))
        ([], sharing)
      sharing.state numbers (.branching groups.length)

/-- The state from which the bytes of a sequence, the last of them first, lead to `target`. -/
def enterBackward (target : Nat) (sequence : ByteSequence) (sharing : Sharing) : Nat × Sharing :=
  sequence.foldl
    (fun (next, sharing) range => sharing.state [next, range.first, range.last] (.plain 1))
    (target, sharing)

end Sharing

/-- Which way an automaton goes through a text. -/
inductive Direction where
  | forward
  | backward
deriving DecidableEq, Repr

namespace CharacterClass

def byteSequences (set : CharacterClass) : List ByteSequence :=
  set.ranges.flatMap ByteSequence.ofRange

/-- Lays a set out. What comes first is the state that it leads to. A set of ASCII characters
takes just one more, other sets need as many as their characters have bytes, or more; going
forward, they are shared wherever the same bytes are to follow, and going backward wherever
the same bytes have come before. -/
def layOut? (direction : Direction) (set : CharacterClass) (size : Footprint) :
    Option Footprint :=
  if set.isAscii then
    size.grow? ((Footprint.plain 1).add (.branching set.ranges.length))
  else
    match direction with
    | .forward =>
        let start : Sharing := ⟨size.add (.plain 1), .ofSlots 10000⟩
        (Sharing.enter size.states 4 set.byteSequences start).2.size.grow? .zero
    | .backward =>
        let sequences := set.byteSequences
        let start : Sharing := ⟨size.add (.plain 2), .ofSlots 1000⟩
        let finish := sequences.foldl
          (fun sharing sequence => (sharing.enterBackward (size.states + 1) sequence).2) start
        finish.size.grow? ⟨0, 4 * sequences.length⟩

end CharacterClass

namespace Pattern

/-! Choices between texts. -/

/-- Lists between those that are empty. Only the first counts of empty lists at the start. -/
def segments (texts : List (List Nat)) : List (List (List Nat)) :=
  match texts with
  | [] :: rest => [] :: cut (rest.dropWhile List.isEmpty)
  | _ => cut texts
where
  cut (texts : List (List Nat)) : List (List (List Nat)) :=
    texts.foldr
      (fun text segments =>
        match text, segments with
        | [], _ => [] :: segments
        | _, segment :: rest => (text :: segment) :: rest
        | _, [] => [[text]])
      [[]]

/-- A tree of texts, given as bytes: a state for every beginning of a text, and one for each run
of texts that go on from it with none that ends there in between. No text has more than `depth`
bytes. -/
def treeSize : (depth : Nat) → List (List Nat) → Footprint
  | 0, _ => .zero
  | depth + 1, texts =>
      if texts.all List.isEmpty then .zero
      else
        let segments := segments texts
        let segmentSize (segment : List (List Nat)) : Footprint :=
          let heads := (segment.filterMap List.head?).eraseDups
          let ways := if heads.length = 1 then Footprint.plain 1 else .branching heads.length
          heads.foldl
            (fun size head =>
              let group := segment.filter fun text => text.head? == some head
              size.add (treeSize depth (group.map List.tail)))
            ways
        let full := segments.filter fun segment => !segment.isEmpty
        full.foldl (fun size segment => size.add (segmentSize segment))
          (.fork (full.length + (segments.length - 1)))

def textBytes (text : List Char) : List Nat :=
  (String.ofList text).toUTF8.toList.map UInt8.toNat

def bytes? : Pattern → Option (List Nat)
  | .literal text => some (textBytes text)
  | _ => none

def layOutTexts? (direction : Direction) (texts : List (List Nat)) (size : Footprint) :
    Option Footprint :=
  let texts := match direction with
    | .forward => texts
    | .backward => texts.map List.reverse
  let depth := (texts.map List.length).foldl max 0
  size.grow? ((Footprint.plain 1).add (treeSize depth texts))

/-! Whole patterns. -/

/-- Lays a body out that is repeated; `layOut` lays it out once. A body that may be empty is
looped over only once it has matched. -/
def layOutRepeated? (neverEmpty : Bool) (count : Repetition)
    (layOut : Footprint → Option Footprint) (size : Footprint) : Option Footprint :=
  match count.most with
  | none =>
      match count.least with
      | 0 =>
          let loop := if neverEmpty then Footprint.fork 2 else ⟨3, 16⟩
          (layOut (size.add (if neverEmpty then loop else .zero))).bind
            (·.grow? (if neverEmpty then .zero else loop))
      | least => (Footprint.times layOut least size).bind (·.grow? (.fork 2))
  | some most =>
      if count.least = 0 && most = 1 then
        (layOut (size.add (.fork 2))).bind (·.grow? (.plain 1))
      else if count.least = most then Footprint.times layOut most size
      else do
        let before := if count.least = 0 then Footprint.plain 1 else .zero
        let size ← Footprint.times layOut count.least (size.add before)
        let size ← size.grow? (.plain 1)
        Footprint.times (fun size => layOut (size.add (.fork 2))) (most - count.least) size

mutual

def layOut? (direction : Direction) : Pattern → Footprint → Option Footprint
  | .empty, size => size.grow? (.plain 1)
  | .literal text, size => size.grow? (.plain (String.ofList text).utf8ByteSize)
  | .character set, size => set.layOut? direction size
  | .assertion _, size => size.grow? (.plain 1)
  | .sequence parts, size => layOutAll? direction (direction == .backward) parts size
  | .choice branches, size =>
      match branches.mapM bytes? with
      | some texts => layOutTexts? direction texts size
      | none => layOutChoice? direction 0 branches size
  | .repetition body count, size =>
      let traits := body.traits
      layOutRepeated? (traits.neverEmpty && !traits.impossible) count (layOut? direction body) size
  | .group _ body, size =>
      match direction with
      | .forward => (layOut? direction body (size.add (.plain 1))).bind (·.grow? (.plain 1))
      | .backward => layOut? direction body size

def layOutAll? (direction : Direction) (lastFirst : Bool) :
    List Pattern → Footprint → Option Footprint
  | [], size => some size
  | part :: rest, size =>
      if lastFirst then (layOutAll? direction lastFirst rest size).bind (layOut? direction part)
      else (layOut? direction part size).bind (layOutAll? direction lastFirst rest)

/-- The branches of a choice from the one with number `index` on. The state that forks and the
one where the branches meet come after the second branch. -/
def layOutChoice? (direction : Direction) (index : Nat) :
    List Pattern → Footprint → Option Footprint
  | [], size => some size
  | branch :: rest, size =>
      let more : Footprint := ⟨if index = 1 then 2 else 0, 4⟩
      ((layOut? direction branch size).bind (·.grow? more)).bind
        (layOutChoice? direction (index + 1) rest)

end

/-- The size of the automaton for a pattern, if it is not too large. Unless matches are bound to
one end of the text, what comes before a match is skipped byte by byte. Going forward, the whole
match is a group. -/
def footprint? (direction : Direction) (pattern : Pattern) : Option Footprint :=
  let bound := match direction with
    | .forward => pattern.traits.atStart
    | .backward => pattern.traits.atEnd
  let skip := if bound then Footprint.plain 1
    else ((Footprint.fork 2).add (.plain 1)).add (.branching 1)
  let whole := match direction with
    | .forward => Pattern.group 0 pattern
    | .backward => pattern
  (whole.layOut? direction skip).bind (·.grow? (.plain 1))

def fits (pattern : Pattern) : Bool :=
  (pattern.footprint? .forward).isSome && (pattern.footprint? .backward).isSome

end Pattern

end TypedScript
