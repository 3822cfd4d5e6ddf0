import TypedScript.Pattern.Escape

/-!
Sets of characters in brackets. They may hold others in brackets, and operators between parts.
-/

namespace TypedScript.Pattern

structure Nested (α : Type) where
  value : α
  depth : Nat

namespace Nested

def greatestDepth : Nat := 250

def around (depths : List Nat) : Nat :=
  depths.foldl max 0 + 1

def together (depths : List Nat) : Nat :=
  match depths with
  | [] => 0
  | [depth] => depth
  | _ => around depths

/-- Puts something into what is one deeper, unless it is too deep then. -/
def wrap? {α β : Type} (inner : Nested α) (value : β) : Option (Nested β) :=
  if inner.depth < greatestDepth then some ⟨value, inner.depth + 1⟩ else none

end Nested

/-- What joins two parts of a set. Parts are joined from left to right. -/
inductive SetOperator where
  | intersection
  | difference
  | symmetricDifference

namespace SetOperator

def join (left right : CharacterClass) : SetOperator → CharacterClass
  | .intersection => left.intersection right
  | .difference => left.difference right
  | .symmetricDifference => left.symmetricDifference right

end SetOperator

structure OpenSet where
  negated : Bool
  left : Option (Nested CharacterClass × SetOperator)
  /-- What has been read of the last part, the last item first. -/
  items : List (Nested CharacterClass)

namespace OpenSet

/-- Begins a set; `chars` follows the opening bracket. Hyphens at the beginning stand for
themselves, and so does a closing bracket. -/
def begin (flags : Flags) (chars : List Char) : OpenSet × Nat :=
  let counted := flags.counted (fun char => char != '^' && char != '-' && char != ']') chars
  let (negated, inside) := match counted with
    | ('^', _) :: rest => (true, rest)
    | _ => (false, counted)
  let hyphens := (inside.takeWhile (·.1 == '-')).length
  let char (char : Char) : Nested CharacterClass := ⟨.single char, 0⟩
  let (items, rest) := match hyphens, inside with
    | 0, (']', _) :: rest => ([char ']'], rest)
    | _, _ => (List.replicate hyphens (char '-'), inside.drop hyphens)
  let width := match rest with
    | [] => chars.length
    | (_, stop) :: _ => stop - 1
  (⟨negated, none, items⟩, width)

def add (set : OpenSet) (item : CharacterClass) (depth : Nat) : OpenSet :=
  { set with items := ⟨item, depth⟩ :: set.items }

def lastPart (set : OpenSet) : Nested CharacterClass :=
  ⟨.ofRanges (set.items.flatMap (·.value.ranges)), Nested.together (set.items.map (·.depth))⟩

def parts (flags : Flags) (set : OpenSet) : Nested CharacterClass :=
  match set.left with
  | none => set.lastPart
  | some (left, operator) =>
      let right := set.lastPart
      ⟨operator.join (flags.fold left.value) (flags.fold right.value),
        Nested.around [left.depth, right.depth]⟩

def join (flags : Flags) (set : OpenSet) (operator : SetOperator) : OpenSet :=
  { set with left := some (set.parts flags, operator), items := [] }

def close? (flags : Flags) (set : OpenSet) : Option (Nested CharacterClass) := do
  let parts := set.parts flags
  parts.wrap? (← flags.sign? set.negated parts.value)

end OpenSet

def namedSet? (flags : Flags) (chars : List Char) : Option (Option CharacterClass × Nat) :=
  match chars with
  | ':' :: rest =>
      let negated := rest.head? == some '^'
      let skipped := if negated then 1 else 0
      let name := (rest.drop skipped).takeWhile (· != ':')
      match rest.drop (skipped + name.length) with
      | ':' :: ']' :: _ =>
          (CharacterClass.ofName? (String.ofList name)).map fun set =>
            (flags.sign? negated set, skipped + name.length + 3)
      | _ => none
  | _ => none

def setItem? (flags : Flags) : List Char → Option (Escape × Nat)
  | [] => none
  | ['\\'] => none
  | '\\' :: char :: rest =>
      (Escape.read? flags char rest).map fun (item, width) => (item, width + 2)
  | char :: _ => some (.literal char, 1)

/-- A range of characters; ASCII sets have only ASCII ranges. -/
def range? (flags : Flags) (first last : Char) : Option CharacterClass :=
  if last < first || (flags.alphabet == .ascii && !isAscii last) then none
  else some (.range first last)

/-- A range, or a single character or escape. A hyphen makes a range, unless the set ends after it
or another hyphen follows. -/
def setRange? (flags : Flags) (chars : List Char) : Option (CharacterClass × Nat) := do
  let (first, width) ← setItem? flags chars
  let after := chars.drop width
  match flags.counted (fun _ => true) after with
  | ('-', stop) :: _ =>
      let rest := after.drop stop
      let next := flags.afterHyphen rest
      if next == some ']' || next == some '-' then single first width
      else
        let space := flags.gap rest
        let (last, lastWidth) ← setItem? flags (rest.drop space)
        match first, last with
        | .literal first, .literal last =>
            (range? flags first last).map fun set => (set, width + stop + space + lastWidth)
        | _, _ => none
  | _ => single first width
where
  single (item : Escape) (width : Nat) : Option (CharacterClass × Nat) :=
    match item with
    | .literal char => (range? flags char char).map fun set => (set, width)
    | .characters set => some (set, width)
    | .assertion _ => none

/-- Reads a set up to its closing bracket. `outer` holds the sets around the one that is being
read, and `before` is the number of characters that have been read; the result holds that number,
too. -/
def readSet? (flags : Flags) (set : OpenSet) (outer : List OpenSet) (before : Nat)
    (chars : List Char) : Option (Nested CharacterClass × Nat) :=
  let space := flags.gap chars
  let before := before + space
  match _ : chars.drop space with
  | [] => none
  | ']' :: rest =>
      match set.close? flags, outer with
      | none, _ => none
      | some closed, [] => some (closed, before + 1)
      | some closed, around :: outer =>
          readSet? flags (around.add closed.value closed.depth) outer (before + 1) rest
  | '[' :: rest =>
      match namedSet? flags rest with
      | some (none, _) => none
      | some (some named, width) =>
          readSet? flags (set.add named 0) outer (before + 1 + width) (rest.drop width)
      | none =>
          let (inner, width) := OpenSet.begin flags rest
          readSet? flags inner (set :: outer) (before + 1 + width) (rest.drop width)
  | '&' :: '&' :: rest => readSet? flags (set.join flags .intersection) outer (before + 2) rest
  | '-' :: '-' :: rest => readSet? flags (set.join flags .difference) outer (before + 2) rest
  | '~' :: '~' :: rest =>
      readSet? flags (set.join flags .symmetricDifference) outer (before + 2) rest
  | char :: rest =>
      match setRange? flags (char :: rest) with
      | none => none
      | some (item, width) =>
          readSet? flags (set.add item 0) outer (before + width) (rest.drop (width - 1))
termination_by chars.length
decreasing_by
  all_goals
    have shorter : (chars.drop space).length ≤ chars.length := by
      rw [List.length_drop]
      omega
    grind

def brackets? (flags : Flags) (chars : List Char) : Option (Nested CharacterClass × Nat) :=
  let (set, width) := OpenSet.begin flags chars
  readSet? flags set [] width (chars.drop width)

end TypedScript.Pattern
