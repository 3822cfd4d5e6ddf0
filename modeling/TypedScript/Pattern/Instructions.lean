import Std.Data.HashSet
import TypedScript.Pattern.Basic
import TypedScript.Text.Span

/-!
Searching for a pattern. A pattern is laid out as instructions, which are followed from every
place of a text in turn, the first place first. Where they fork, the first way is tried before the
second; a way that comes to an instruction at a place where a way before it has been is
given up. So a loop does not go around again for nothing.
-/

namespace TypedScript

/-- A step of a search. Other steps are given by how far they are away. -/
inductive Instruction where
  | consume (set : CharacterClass)
  | check (condition : Assertion)
  | jump (target : Int)
  | fork (first second : Int)
deriving DecidableEq, Repr

namespace Instruction

def choose (greedy : Bool) (inside outside : Int) : Instruction :=
  if greedy then .fork inside outside else .fork outside inside

end Instruction

/-- What to do in order to match a pattern. It has matched when the last instruction is passed. -/
abbrev Instructions := List Instruction

namespace Instructions

/-- At most `count` times in a row. Each time it is possible to leave all the rest out. -/
def upTo (greedy : Bool) (body : Instructions) (count : Nat) : Instructions :=
  (List.range count).flatMap fun index =>
    let left : Nat := (count - index) * (body.length + 1)
    .choose greedy 1 left :: body

def oneOrMore (greedy : Bool) (body : Instructions) : Instructions :=
  body ++ [.choose greedy (-body.length) 1]

/-- Any number of times in a row, for a body that always takes a character. -/
def zeroOrMore (greedy : Bool) (body : Instructions) : Instructions :=
  .choose greedy 1 (body.length + 2) :: (body ++ [.jump (-(body.length + 1))])

def times (body : Instructions) (count : Nat) : Instructions :=
  (List.replicate count body).flatten

/-- A body that may match without taking a character is looped over only once it has matched. -/
def repeated (body : Instructions) (takesCharacter : Bool) (count : Repetition) : Instructions :=
  match count.most with
  | some most => body.times count.least ++ upTo count.greedy body (most - count.least)
  | none =>
      match count.least with
      | 0 =>
          if takesCharacter then zeroOrMore count.greedy body
          else upTo count.greedy (oneOrMore count.greedy body) 1
      | least + 1 => body.times least ++ oneOrMore count.greedy body

def counted : List Instructions → Instructions × Nat
  | [] => ([], 0)
  | [body] => (body, body.length)
  | body :: rest =>
      let (others, count) := counted rest
      let length := body.length
      (.fork 1 (length + 2) :: (body ++ .jump (count + 1) :: others), length + count + 2)

def anyOf (bodies : List Instructions) : Instructions :=
  (counted bodies).1

mutual

def ofPattern : Pattern → Instructions
  | .empty => []
  | .literal text => text.map fun char => .consume (.single char)
  | .character set => [.consume set]
  | .assertion condition => [.check condition]
  | .sequence parts => (ofPatterns parts).flatten
  | .choice branches => anyOf (ofPatterns branches)
  | .repetition body count => repeated (ofPattern body) body.traits.neverEmpty count
  | .group _ body => ofPattern body

def ofPatterns : List Pattern → List Instructions
  | [] => []
  | pattern :: rest => ofPattern pattern :: ofPatterns rest

end

end Instructions

/-- A way through the instructions: the offset where it began, the instruction that it has come
to, and the place in the text. -/
structure Thread where
  start : Nat
  index : Nat
  place : Place

namespace Thread

def move (thread : Thread) (target : Int) : Thread :=
  { thread with index := (thread.index + target).toNat }

def step (thread : Thread) : Instruction → List Thread
  | .consume set =>
      match thread.place.rest with
      | [] => []
      | char :: rest =>
          if set.contains char then
            [{ thread.move 1 with place := thread.place.after char rest }]
          else []
  | .check condition => if condition.holds thread.place then [thread.move 1] else []
  | .jump target => [thread.move target]
  | .fork first second => [thread.move first, thread.move second]

/-- Follows threads, the first of them first, until one has passed the last instruction. `visited`
holds the instructions and offsets where a thread has been; no way on from there has led to a
match. -/
def follow (instructions : Array Instruction) (visited : Std.HashSet (Nat × Nat)) :
    Nat → List Thread → Option Span
  | 0, _ => none
  | _ + 1, [] => none
  | fuel + 1, thread :: others =>
      match instructions[thread.index]? with
      | none => some ⟨thread.start, thread.place.offset⟩
      | some instruction =>
          let here := (thread.index, thread.place.offset)
          if visited.contains here then follow instructions visited fuel others
          else follow instructions (visited.insert here) fuel (thread.step instruction ++ others)

def starts (place : Place) : List Char → List Thread
  | [] => [⟨place.offset, 0, place⟩]
  | char :: rest => ⟨place.offset, 0, place⟩ :: starts (place.after char rest) rest

end Thread

structure Matcher where
  instructions : Array Instruction

namespace Matcher

def ofPattern (pattern : Pattern) : Matcher :=
  ⟨(Instructions.ofPattern pattern).toArray⟩

/-- The bytes of a text that a pattern matches first. There are only so many instructions and
places, and every visit leaves at most two threads behind. -/
def find? (matcher : Matcher) (text : String) : Option Span :=
  let chars := text.toList
  let places := chars.length + 1
  Thread.follow matcher.instructions ∅ (2 * matcher.instructions.size * places + places + 1)
    (Thread.starts ⟨0, none, chars⟩ chars)

end Matcher

end TypedScript
