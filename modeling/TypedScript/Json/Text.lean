import TypedScript.Json.Token

/-!
Reading JSON. A value is read as it is written; what its strings and numbers mean is asked
afterwards, and only of those that matter.
-/

namespace TypedScript

inductive JsonText where
  | null
  | boolean (value : Bool)
  | number (natural : Option Nat)
  | string (units : List JsonUnit)
  | array (elements : List JsonText)
  | object (fields : List (List JsonUnit × JsonText))

namespace JsonText

/-- An array or object that is not closed yet, with what stands in it before the value that is
being read, the last first. -/
inductive Frame where
  | array (before : List JsonText)
  | object (before : List (List JsonUnit × JsonText)) (key : List JsonUnit)

/-- What must come next; `outer` holds what is still open, the innermost first. -/
inductive Reader where
  | anyValue (outer : List Frame)
  | firstElement (outer : List Frame)
  | firstKey (outer : List Frame)
  | nextKey (outer : List Frame) (before : List (List JsonUnit × JsonText))
  | colon (outer : List Frame) (before : List (List JsonUnit × JsonText)) (key : List JsonUnit)
  /-- A comma, or the end of what `frame` belongs to; `value` has just been read. -/
  | separator (outer : List Frame) (frame : Frame) (value : JsonText)
  | done (value : JsonText)

namespace Reader

def finish (value : JsonText) : List Frame → Reader
  | [] => .done value
  | frame :: outer => .separator outer frame value

def beginValue (outer : List Frame) : JsonToken → Option Reader
  | .null => some (finish .null outer)
  | .boolean value => some (finish (.boolean value) outer)
  | .number natural => some (finish (.number natural) outer)
  | .string units => some (finish (.string units) outer)
  | .openBracket => some (.firstElement outer)
  | .openBrace => some (.firstKey outer)
  | _ => none

def step : Reader → JsonToken → Option Reader
  | .anyValue outer, token => beginValue outer token
  | .firstElement outer, .closeBracket => some (finish (.array []) outer)
  | .firstElement outer, token => beginValue (.array [] :: outer) token
  | .firstKey outer, .closeBrace => some (finish (.object []) outer)
  | .firstKey outer, .string key => some (.colon outer [] key)
  | .nextKey outer before, .string key => some (.colon outer before key)
  | .colon outer before key, .colon => some (.anyValue (.object before key :: outer))
  | .separator outer (.array before) value, .comma =>
      some (.anyValue (.array (value :: before) :: outer))
  | .separator outer (.array before) value, .closeBracket =>
      some (finish (.array (value :: before).reverse) outer)
  | .separator outer (.object before key) value, .comma =>
      some (.nextKey outer ((key, value) :: before))
  | .separator outer (.object before key) value, .closeBrace =>
      some (finish (.object ((key, value) :: before).reverse) outer)
  | _, _ => none

end Reader

def ofString? (text : String) : Option JsonText := do
  let tokens ← JsonToken.lex? text.toList
  match ← tokens.foldlM Reader.step (.anyValue []) with
  | .done value => some value
  | _ => none

/-! What a value means to those who expect something of it. -/

def text? : JsonText → Option String
  | .string units => (JsonUnit.decode? units).map String.ofList
  | _ => none

def natural? (bound : Nat) : JsonText → Option Nat
  | .number natural => natural.filter (· < bound)
  | _ => none

def list? (decode? : JsonText → Option α) : JsonText → Option (List α)
  | .array elements => elements.mapM decode?
  | _ => none

def optional? (decode? : JsonText → Option α) : JsonText → Option (Option α)
  | .null => some none
  | value => (decode? value).map some

/-- The fields of a record with the given names, in their order. A record is written as an object,
where a field may be missing, which is the same as null, but not repeated, and fields of other names
do not matter; or as the array of all its fields. -/
def record? (names : List String) : JsonText → Option (List JsonText)
  | .array elements => if elements.length = names.length then some elements else none
  | .object fields => do
      let named ← fields.mapM fun (key, value) =>
        (JsonUnit.decode? key).map fun name => (String.ofList name, value)
      names.mapM fun name =>
        match named.filter (·.1 == name) with
        | [] => some .null
        | [(_, value)] => some value
        | _ => none
  | _ => none

end JsonText

end TypedScript
