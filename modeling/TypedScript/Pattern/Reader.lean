import TypedScript.Pattern.Brackets
import TypedScript.Pattern.Footprint
import TypedScript.Text.Letter

/-!
How search patterns are written.

A reader takes a piece of the pattern at a time. What reads a piece says how many characters the
piece takes up after those that told what it is.
-/

namespace TypedScript.Pattern

/-! Repetitions. -/

/-- A number in the braces of a repetition; space around it does not matter. -/
def count? (chars : List Char) : Option Nat :=
  let trimmed := (chars.dropWhile whiteSpace.contains).reverse.dropWhile whiteSpace.contains
  if trimmed.isEmpty then none
  else (Numeral.digits? 10 0 trimmed.reverse).filter (· < Numeral.bound32)

/-- The least and the greatest number of times, from the braces of a repetition. -/
def counts? (inside : List Char) : Option (Nat × Option Nat) := do
  let first := inside.takeWhile (· != ',')
  let least ← count? first
  match inside.drop first.length with
  | [] => some (least, some least)
  | [_] => some (least, none)
  | _ :: second =>
      let most ← count? second
      if least ≤ most then some (least, some most) else none

def repetition? (flags : Flags) (sign : Char) (rest : List Char) :
    Option ((Nat × Option Nat) × Nat) :=
  match sign with
  | '*' => some ((0, none), 0)
  | '+' => some ((1, none), 0)
  | '?' => some ((0, some 1), 0)
  | _ => do
      let counted := flags.counted (· == '\x7d') rest
      let inside := counted.takeWhile (·.1 != '\x7d')
      let (_, width) ← counted[inside.length]?
      let counts ← counts? (inside.map (·.1))
      return (counts, width + flags.gap (rest.drop width))

/-! Groups. -/

inductive GroupHead where
  | plain (flags : Flags)
  | numbered (name : Option (List Char))
  /-- No group at all: the flags hold from here to the end of the group around. -/
  | setting (flags : Flags)

def isGroupName : List Char → Bool
  | [] => false
  | first :: rest =>
      (first == '_' || isAlphabetic first) &&
        rest.all fun char =>
          char == '_' || char == '.' || char == '[' || char == ']' || isAlphanumeric char

def groupHead? (flags : Flags) (chars : List Char) : Option (GroupHead × Nat) :=
  match chars with
  | '?' :: 'P' :: '<' :: rest => name 4 rest
  | '?' :: '<' :: rest => name 3 rest
  | '?' :: rest =>
      let written := rest.takeWhile fun char => char != ':' && char != ')'
      match rest.drop written.length, flags.update? written with
      | ':' :: _, some flags => some (.plain flags, written.length + 2)
      | _ :: _, some flags =>
          if written.isEmpty then none else some (.setting flags, written.length + 2)
      | _, _ => none
  | _ => some (.numbered none, 0)
where
  /-- The name of a group, which a closing angle bracket ends; `width` counts that one too. -/
  name (width : Nat) (chars : List Char) : Option (GroupHead × Nat) :=
    let name := chars.takeWhile (· != '>')
    if name.length < chars.length && isGroupName name then
      some (.numbered (some name), name.length + width)
    else none

/-- What has been read of a group: its finished branches and the parts of the last one, the last
first. Among the parts, `none` stands for a setting of flags. -/
structure OpenGroup where
  number : Option Nat
  flags : Flags
  branches : List (Nested Pattern)
  parts : List (Option (Nested Pattern))

namespace OpenGroup

def begin (number : Option Nat) (flags : Flags) : OpenGroup :=
  ⟨number, flags, [], []⟩

def add (group : OpenGroup) (part : Pattern) (depth : Nat) : OpenGroup :=
  { group with parts := some ⟨part, depth⟩ :: group.parts }

def lastBranch (group : OpenGroup) : Nested Pattern :=
  let parts := group.parts.reverse.map fun part => part.getD ⟨.empty, 0⟩
  ⟨ofSequence (parts.map (·.value)), Nested.together (parts.map (·.depth))⟩

def endBranch (group : OpenGroup) : OpenGroup :=
  { group with branches := group.lastBranch :: group.branches, parts := [] }

def content (group : OpenGroup) : Nested Pattern :=
  let branches := group.endBranch.branches.reverse
  ⟨ofChoice (branches.map (·.value)), Nested.together (branches.map (·.depth))⟩

def close? (group : OpenGroup) : Option (Nested Pattern) :=
  let content := group.content
  content.wrap? <| match group.number with
    | none => content.value
    | some number => .group number content.value

def literal (group : OpenGroup) (char : Char) : OpenGroup :=
  group.add (ofClass (group.flags.fold (.single char))) 0

def escape (group : OpenGroup) : Escape → OpenGroup
  | .literal char => group.literal char
  | .characters set => group.add (ofClass set) 0
  | .assertion condition => group.add (.assertion condition) 0

/-- Repeats the last part of a group. A sign after nothing, or after a setting of flags, is
refused. -/
def repeat? (group : OpenGroup) (least : Nat) (most : Option Nat) (lazy : Bool) :
    Option OpenGroup :=
  match group.parts with
  | some part :: before =>
      let count : Repetition := ⟨least, most, lazy == group.flags.swapGreed⟩
      (part.wrap? (ofRepetition part.value count)).map fun part =>
        { group with parts := some part :: before }
  | _ => none

end OpenGroup

structure Reader where
  group : OpenGroup
  outer : List OpenGroup
  names : List (List Char)
  next : Nat

namespace Reader

def start : Reader :=
  ⟨.begin none .initial, [], [], 1⟩

def flags (reader : Reader) : Flags :=
  reader.group.flags

def openGroup? (reader : Reader) : GroupHead → Option Reader
  | .plain flags =>
      some { reader with group := .begin none flags, outer := reader.group :: reader.outer }
  | .numbered name =>
      if name.any reader.names.contains then none
      else
        some ⟨.begin (some reader.next) reader.flags, reader.group :: reader.outer,
          name.toList ++ reader.names, reader.next + 1⟩
  | .setting flags =>
      some { reader with
        group := { reader.group with flags, parts := none :: reader.group.parts } }

def closeGroup? (reader : Reader) : Option Reader :=
  match reader.outer with
  | [] => none
  | around :: outer =>
      reader.group.close?.map fun closed =>
        { reader with group := around.add closed.value closed.depth, outer }

def piece? (reader : Reader) (char : Char) (rest : List Char) : Option (Reader × Nat) :=
  let group := reader.group
  let flags := reader.flags
  let put (group : OpenGroup) (width : Nat) : Option (Reader × Nat) :=
    some ({ reader with group }, width)
  match char with
  | '(' => do
      let space := flags.gap rest
      let (head, width) ← groupHead? flags (rest.drop space)
      return (← reader.openGroup? head, space + width)
  | ')' => reader.closeGroup?.map fun reader => (reader, 0)
  | '|' => put group.endBranch 0
  | '[' => do
      let (set, width) ← brackets? flags rest
      put (group.add (ofClass set.value) set.depth) width
  | '*' | '+' | '?' | '\x7b' => do
      let ((least, most), width) ← repetition? flags char rest
      let lazy := rest[width]? == some '?'
      put (← group.repeat? least most lazy) (if lazy then width + 1 else width)
  | '.' => do put (group.add (ofClass (← flags.dot?)) 0) 0
  | '^' => put (group.add (.assertion flags.lineStart) 0) 0
  | '$' => put (group.add (.assertion flags.lineEnd) 0) 0
  | '\\' =>
      match rest with
      | [] => none
      | char :: rest => do
          let (escape, width) ← Escape.read? flags char rest
          put (group.escape escape) (width + 1)
  | _ => put (group.literal char) 0

def finish? (reader : Reader) : Option Pattern :=
  let content := reader.group.content
  if reader.outer.isEmpty && content.depth ≤ Nested.greatestDepth then some content.value
  else none

def read? (reader : Reader) (chars : List Char) : Option Pattern :=
  let space := reader.flags.gap chars
  match _ : chars.drop space with
  | [] => reader.finish?
  | char :: rest =>
      match reader.piece? char rest with
      | none => none
      | some (after, width) => after.read? (rest.drop width)
termination_by chars.length
decreasing_by
  have shorter : (chars.drop space).length ≤ chars.length := by
    rw [List.length_drop]
    omega
  grind

end Reader

/-- Reads a pattern. One that is not written as it should be, or that is too large, is refused. -/
def ofString? (text : String) : Option Pattern :=
  (Reader.start.read? text.toList).filter fits

end TypedScript.Pattern
