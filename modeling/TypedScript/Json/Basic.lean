/-!
JSON values and their indented form. Numbers are natural numbers: nothing else is ever written.
-/

namespace TypedScript

inductive JsonValue where
  | null
  | boolean (value : Bool)
  | number (value : Nat)
  | string (value : String)
  | array (elements : List JsonValue)
  | object (fields : List (String × JsonValue))

namespace JsonValue

def ofOption (encode : α → JsonValue) : Option α → JsonValue
  | none => .null
  | some value => encode value

def ofList (encode : α → JsonValue) (values : List α) : JsonValue :=
  .array (values.map encode)

/-! Writing. Fields are sorted by name, and each level is indented by two more blanks. -/

def escape (char : Char) : List Char :=
  if char == '"' then ['\\', '"']
  else if char == '\\' then ['\\', '\\']
  else if char == '\n' then ['\\', 'n']
  else if char == '\r' then ['\\', 'r']
  else if char == '\t' then ['\\', 't']
  else if char == '\x08' then ['\\', 'b']
  else if char == '\x0c' then ['\\', 'f']
  else if char.toNat < 0x20 then
    ['\\', 'u', '0', '0', Nat.digitChar (char.toNat / 16), Nat.digitChar (char.toNat % 16)]
  else [char]

def quote (text : String) : String :=
  String.ofList (['"'] ++ text.toList.flatMap escape ++ ['"'])

def newLine (level : Nat) : String :=
  String.ofList ('\n' :: List.replicate (2 * level) ' ')

/-- Items on lines of their own between two brackets; nothing stands between the brackets of an
empty list. -/
def bracketed (opening closing : String) (level : Nat) (items : List String) : String :=
  if items.isEmpty then opening ++ closing
  else
    opening ++ newLine (level + 1) ++ String.intercalate ("," ++ newLine (level + 1)) items ++
      newLine level ++ closing

def writeAt (level : Nat) : JsonValue → String
  | .null => "null"
  | .boolean value => if value then "true" else "false"
  | .number value => toString value
  | .string value => quote value
  | .array elements =>
      bracketed "[" "]" level (elements.map fun element => element.writeAt (level + 1))
  | .object fields =>
      let written := fields.attach.map fun ⟨(name, value), _⟩ =>
        (name, quote name ++ ": " ++ value.writeAt (level + 1))
      bracketed "\x7b" "\x7d" level
        ((written.mergeSort fun left right => left.1 ≤ right.1).map (·.2))
termination_by value => sizeOf value
decreasing_by
  · have := List.sizeOf_lt_of_mem ‹_›
    simp
    omega
  · have := List.sizeOf_lt_of_mem ‹_›
    simp at this ⊢
    omega

def pretty (value : JsonValue) : String :=
  value.writeAt 0

end JsonValue

end TypedScript
