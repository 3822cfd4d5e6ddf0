import TypedScript.Proofs.Progress.Loops
import TypedScript.Proofs.Reading.Expressions

/-!
Loops whose every turn wraps a node around the one before it: `[]` after a type, accesses and calls
after an expression, binary operators. The state of such a loop is the node that has been built and
how many levels are left for further ones.
-/

namespace TypedScript

namespace Parse

variable {before after : Cursor} {nesting : Nesting} {Tree : Type}

/-! One turn of a chain, without the turns that follow it. -/

def oneArray (start : Nat) (element : TypeExpr) : Parse TypeExpr := do
  let _ ← take
  let _ ← take
  return .array (← spanFrom start) element

def oneSuffix (nesting : Nesting) (start : Nat) (base : Expression) : Parse Expression := do
  match (← current).kind with
  | .punctuator .openBracket =>
      let _ ← take
      let index ← nesting.expression
      let _ ← expect .closeBracket
      return .element (← spanFrom start) base index
  | .punctuator .openParen =>
      let arguments ← arguments nesting
      return .call (← spanFrom start) base none arguments
  | _ =>
      let optional := (← take).isMark .questionDot
      let name ← identifierName
      return .property (← spanFrom start) base name optional

def oneTypedSuffix (nesting : Nesting) (start : Nat) (base : Expression)
    (typeArguments : List TypeExpr) : Parse Expression := do
  if ← atMark .openParen then
    let arguments ← arguments nesting
    return .call (← spanFrom start) base (some typeArguments) arguments
  else
    return .instantiation (← spanFrom start) base typeArguments

def oneOperator (nesting : Nesting) (start : Nat) (left : Expression) (operator : BinaryOperator) :
    Parse Expression := do
  modify (·.skip operator.width)
  let right ← binary nesting operator.precedence
  return .binary (← spanFrom start) left operator.mark right

theorem arraySuffix_eq (nesting : Nesting) (start : Nat) (element : TypeExpr) :
    arraySuffix nesting start element = oneArray start element >>= arraySuffixes nesting start := by
  simp only [arraySuffix, oneArray, bind_assoc, pure_bind]

theorem suffix_eq (nesting : Nesting) (start : Nat) (allowCalls : Bool) (base : Expression) :
    suffix nesting start allowCalls base =
      oneSuffix nesting start base >>= suffixes nesting start allowCalls := by
  simp only [suffix, oneSuffix, bind_assoc]
  congr 1
  funext token
  generalize token.kind = kind
  split <;> simp [*, bind_assoc]

theorem typedSuffix_eq (nesting : Nesting) (start : Nat) (allowCalls : Bool) (base : Expression)
    (typeArguments : List TypeExpr) :
    typedSuffix nesting start allowCalls base typeArguments =
      oneTypedSuffix nesting start base typeArguments >>= suffixes nesting start allowCalls := by
  simp only [typedSuffix, oneTypedSuffix, bind_assoc]
  congr 1
  funext opens
  split <;> simp only [bind_assoc, pure_bind]

theorem operator_eq (nesting : Nesting) (start minimum : Nat) (left : Expression)
    (found : BinaryOperator) :
    operator nesting start minimum left found.mark found.width found.precedence =
      oneOperator nesting start left found >>= operators nesting start minimum := by
  simp only [operator, oneOperator, bind_assoc, pure_bind]

/-! The turns. -/

def wrapDeeper (rules : Rules) (room : Nat) (expected : Expected) (wrap : Nesting → Parse Tree) :
    Parse ((Nat × Tree) ⊕ Tree) := do
  let _ ← (Nesting.ofRoom rules room).enter expected
  let tree ← wrap (.ofRoom rules (room - 1))
  return .inl (room - 1, tree)

def arrayTurn (rules : Rules) (start : Nat) :
    Nat × TypeExpr → Parse ((Nat × TypeExpr) ⊕ TypeExpr)
  | (room, element) => do
      let token ← current
      if token.isMark .openBracket && !token.afterLineBreak then
        if (← kindAhead 1) = .punctuator .closeBracket then
          wrapDeeper rules room .type fun _ => oneArray start element
        else
          return .inr element
      else
        return .inr element

def suffixTurn (rules : Rules) (start : Nat) (allowCalls : Bool) :
    Nat × Expression → Parse ((Nat × Expression) ⊕ Expression)
  | (room, base) => do
      let deeper := wrapDeeper rules room .expression fun nesting => oneSuffix nesting start base
      match (← current).kind with
      | .punctuator .dot | .punctuator .questionDot | .punctuator .openBracket => deeper
      | .punctuator .openParen => if allowCalls then deeper else return .inr base
      | .punctuator .lessThan =>
          if allowCalls then
            match ← typeArgumentsInExpression? (.ofRoom rules room) with
            | some typeArguments =>
                wrapDeeper rules room .expression fun nesting =>
                  oneTypedSuffix nesting start base typeArguments
            | none => return .inr base
          else
            return .inr base
      | _ => return .inr base

def operatorTurn (rules : Rules) (start minimum : Nat) :
    Nat × Expression → Parse ((Nat × Expression) ⊕ Expression)
  | (room, left) => do
      match ← binaryOperator? with
      | none => return .inr left
      | some operator =>
          if operator.precedence ≤ minimum then return .inr left
          else
            wrapDeeper rules room .expression fun nesting => oneOperator nesting start left operator

section Deeper

variable {rules : Rules} {room : Nat} {expected : Expected} {wrap : Nesting → Parse Tree}

/-- To enter the rule that goes on with a chain is to take one turn and go on with the rest. -/
theorem enter_eq_wrapDeeper (rule : Level → Parse Tree) (rest : Nesting → Tree → Parse Tree)
    (goesOn : ∀ nesting, rule (.ofNesting nesting) = wrap nesting >>= rest nesting) :
    (Nesting.ofRoom rules room).enter expected >>= rule =
      wrapDeeper rules room expected wrap >>=
        Sum.elim (fun state => rest (.ofRoom rules state.1) state.2) pure := by
  cases room with
  | zero =>
      funext cursor
      simp only [wrapDeeper, Nesting.ofRoom, Nesting.enter, failAt_bind]
  | succ room =>
      simp only [wrapDeeper, Nesting.ofRoom, Nesting.enter, pure_bind, bind_assoc, goesOn,
        Nat.add_sub_cancel, Sum.elim_inl]

/-- A turn that goes deeper and leads to another one has wrapped a node with the rules there. -/
theorem wrapDeeper_eq_ok {next : Nat × Tree}
    (turned : wrapDeeper rules room expected wrap before = .ok (.inl next) after) :
    ∃ tree, wrap (.ofRoom rules (room - 1)) before = .ok tree after := by
  simp only [wrapDeeper, bind_eq_ok, Nesting.enter_eq_ok] at turned
  rcases turned with ⟨_, _, ⟨_, rfl⟩, tree, _, wrapped, turned⟩
  cases turned
  exact ⟨tree, wrapped⟩

end Deeper

/-! Every turn that is followed by another one takes a token. -/

theorem arrayTurn_takes {rules : Rules} {start : Nat} {state next : Nat × TypeExpr}
    (turned : arrayTurn rules start state before = .ok (.inl next) after) :
    after.ahead.length < before.ahead.length := by
  simp only [arrayTurn, bind_eq_ok, current_eq_ok] at turned
  rcases turned with ⟨token, _, ⟨peeked, rfl⟩, turned⟩
  split at turned
  · next opens =>
      simp only [bind_eq_ok, kindAhead_eq_ok] at turned
      rcases turned with ⟨_, _, ⟨_, rfl⟩, turned⟩
      split at turned
      · rcases wrapDeeper_eq_ok turned with ⟨tree, wrapped⟩
        simp only [oneArray, bind_eq_ok, take_eq_ok, spanFrom_eq_ok, pure_eq_ok] at wrapped
        rcases wrapped with ⟨_, _, ⟨_, rfl⟩, _, _, ⟨_, rfl⟩, _, _, ⟨_, rfl⟩, _, rfl⟩
        have opening := Token.isMark_ne_end (Bool.and_eq_true_iff.mp opens).1
        exact Nat.lt_of_le_of_lt (Cursor.next_le _) (Cursor.next_shorter peeked opening)
      · cases turned
  · cases turned

theorem oneSuffix_takes (reading : nesting.Reading) {start : Nat} {base value : Expression}
    {token : Token} (peeked : before.peek 0 = .ok token) (more : token.kind ≠ .endOfFile)
    (parsed : oneSuffix nesting start base before = .ok value after) :
    after.ahead.length < before.ahead.length := by
  have first := Cursor.next_shorter peeked more
  simp only [oneSuffix, bind_eq_ok, current_eq_ok] at parsed
  rcases parsed with ⟨_, _, ⟨_, rfl⟩, parsed⟩
  rcases exists_branch parsed with ⟨branch, chosen, parsed⟩
  split at chosen <;> subst chosen
  · simp only [bind_eq_ok, take_eq_ok, spanFrom_eq_ok, pure_eq_ok] at parsed
    rcases parsed with ⟨_, _, ⟨_, rfl⟩, index, _, indexParsed, _, _, closed, _, _, ⟨_, rfl⟩, _, rfl⟩
    rcases reading.expression indexParsed with ⟨_, _, indexWhole⟩
    have rest := (indexWhole.piece.append (expect_piece closed)).length_le
    exact Nat.lt_of_le_of_lt rest first
  · simp only [bind_eq_ok, spanFrom_eq_ok, pure_eq_ok] at parsed
    rcases parsed with ⟨arguments, _, argumentsParsed, _, _, ⟨_, rfl⟩, _, rfl⟩
    rcases arguments_reads reading argumentsParsed with ⟨_, ⟨listed, _, rfl⟩, piece⟩
    exact piece.length_lt (by simp)
  · simp only [bind_eq_ok, take_eq_ok, spanFrom_eq_ok, pure_eq_ok] at parsed
    rcases parsed with ⟨_, _, ⟨_, rfl⟩, name, _, nameParsed, _, _, ⟨_, rfl⟩, _, rfl⟩
    rcases identifierName_forms nameParsed with ⟨_, _, nameWhole⟩
    exact Nat.lt_trans nameWhole.length_lt first

theorem oneTypedSuffix_le (reading : nesting.Reading) {start : Nat} {base value : Expression}
    {typeArguments : List TypeExpr}
    (parsed : oneTypedSuffix nesting start base typeArguments before = .ok value after) :
    after.ahead.length ≤ before.ahead.length := by
  simp only [oneTypedSuffix, bind_eq_ok, atMark_eq_ok] at parsed
  rcases parsed with ⟨_, _, ⟨_, rfl⟩, parsed⟩
  split at parsed
  · simp only [bind_eq_ok, spanFrom_eq_ok, pure_eq_ok] at parsed
    rcases parsed with ⟨arguments, _, argumentsParsed, _, _, ⟨_, rfl⟩, _, rfl⟩
    rcases arguments_reads reading argumentsParsed with ⟨_, _, piece⟩
    exact piece.length_le
  · simp only [bind_eq_ok, spanFrom_eq_ok, pure_eq_ok] at parsed
    rcases parsed with ⟨_, _, ⟨_, rfl⟩, _, rfl⟩
    exact Nat.le_refl _

theorem suffixTurn_takes {rules : Rules} {start : Nat} {allowCalls : Bool}
    {state next : Nat × Expression}
    (turned : suffixTurn rules start allowCalls state before = .ok (.inl next) after) :
    after.ahead.length < before.ahead.length := by
  rcases state with ⟨room, base⟩
  have reading := Nesting.ofRoom_reading rules (room - 1)
  simp only [suffixTurn, bind_eq_ok, current_eq_ok] at turned
  rcases turned with ⟨token, _, ⟨peeked, rfl⟩, turned⟩
  have goesOn {mark : Punctuator} {next after} (kind : token.kind = .punctuator mark)
      (turned : wrapDeeper rules room .expression (fun nesting => oneSuffix nesting start base)
        before = .ok (.inl next) after) : after.ahead.length < before.ahead.length := by
    rcases wrapDeeper_eq_ok turned with ⟨tree, wrapped⟩
    exact oneSuffix_takes reading peeked (by simp [kind]) wrapped
  rcases exists_branch turned with ⟨branch, chosen, turned⟩
  split at chosen <;> subst chosen
  · next kind => exact goesOn kind turned
  · next kind => exact goesOn kind turned
  · next kind => exact goesOn kind turned
  · next kind =>
      split at turned
      · exact goesOn kind turned
      · cases turned
  · split at turned
    · rcases bind_eq_ok.mp turned with ⟨found, _, argumentsParsed, turned⟩
      cases found with
      | none => cases turned
      | some typeArguments =>
          rcases typeArgumentsInExpression?_reads (Nesting.ofRoom_reading rules room)
            argumentsParsed with ⟨lexemes, spelled, piece⟩
          have notEmpty : lexemes ≠ [] := by
            cases spelled
            simp
          rcases wrapDeeper_eq_ok turned with ⟨tree, wrapped⟩
          exact Nat.lt_of_le_of_lt (oneTypedSuffix_le reading wrapped) (piece.length_lt notEmpty)
    · cases turned
  · cases turned

theorem operatorTurn_takes {rules : Rules} {start minimum : Nat} {state next : Nat × Expression}
    (turned : operatorTurn rules start minimum state before = .ok (.inl next) after) :
    after.ahead.length < before.ahead.length := by
  simp only [operatorTurn, bind_eq_ok] at turned
  rcases turned with ⟨found, _, operatorParsed, turned⟩
  rcases binaryOperator?_eq_ok operatorParsed with ⟨rfl, atOperator⟩
  cases found with
  | none => cases turned
  | some operator =>
      simp only at turned
      split at turned
      · cases turned
      · rcases wrapDeeper_eq_ok turned with ⟨tree, wrapped⟩
        simp only [oneOperator, bind_eq_ok, modify_eq_ok, spanFrom_eq_ok, pure_eq_ok] at wrapped
        rcases wrapped with ⟨_, _, rfl, right, _, rightParsed, _, _, ⟨_, rfl⟩, _, rfl⟩
        rcases binary_forms (Nesting.ofRoom_reading rules _) _ rightParsed with ⟨_, _, rightWhole⟩
        exact Nat.lt_of_lt_of_le rightWhole.length_lt (atOperator operator rfl).length_le

/-! The chains are loops. -/

theorem arraySuffixes_isLoop (rules : Rules) (start : Nat) :
    IsLoop (arrayTurn rules start)
      fun state => arraySuffixes (.ofRoom rules state.1) start state.2 where
  unfolds state := by
    simp only [arraySuffixes, arrayTurn, bind_assoc]
    congr 1
    funext token
    split
    · simp only [bind_assoc]
      congr 1
      funext kind
      split
      · apply enter_eq_wrapDeeper (fun level => level.arraySuffix start state.2)
          fun nesting => arraySuffixes nesting start
        intro nesting
        exact arraySuffix_eq nesting start state.2
      · rfl
    · rfl
  takes := arrayTurn_takes

theorem suffixes_isLoop (rules : Rules) (start : Nat) (allowCalls : Bool) :
    IsLoop (suffixTurn rules start allowCalls)
      fun state => suffixes (.ofRoom rules state.1) start allowCalls state.2 where
  unfolds state := by
    have deeper : (Nesting.ofRoom rules state.1).enter .expression >>=
          (fun level => level.suffix start allowCalls state.2) =
        wrapDeeper rules state.1 .expression (fun nesting => oneSuffix nesting start state.2) >>=
          Sum.elim (fun state => suffixes (.ofRoom rules state.1) start allowCalls state.2) pure := by
      apply enter_eq_wrapDeeper _ fun nesting => suffixes nesting start allowCalls
      intro nesting
      exact suffix_eq nesting start allowCalls state.2
    rw [suffixes]
    simp only [suffixTurn, bind_assoc]
    congr 1
    funext token
    generalize token.kind = kind
    split
    · exact deeper
    · exact deeper
    · exact deeper
    · cases allowCalls with
      | true => exact deeper
      | false => rfl
    · cases allowCalls with
      | false => rfl
      | true =>
          simp only [if_true, bind_assoc]
          congr 1
          funext found
          cases found with
          | none => rfl
          | some typeArguments =>
              apply enter_eq_wrapDeeper
                (fun level => level.typedSuffix start true state.2 typeArguments)
                fun nesting => suffixes nesting start true
              intro nesting
              exact typedSuffix_eq nesting start true state.2 typeArguments
    · simp [*]
  takes := suffixTurn_takes

theorem operators_isLoop (rules : Rules) (start minimum : Nat) :
    IsLoop (operatorTurn rules start minimum)
      fun state => operators (.ofRoom rules state.1) start minimum state.2 where
  unfolds state := by
    simp only [operators, operatorTurn, bind_assoc]
    congr 1
    funext found
    cases found with
    | none => rfl
    | some operator =>
        simp only
        split
        · rfl
        · apply enter_eq_wrapDeeper (fun level => level.operator start minimum state.2
              operator.mark operator.width operator.precedence)
            fun nesting => operators nesting start minimum
          intro nesting
          exact operator_eq nesting start minimum state.2 operator
  takes := operatorTurn_takes

end Parse

end TypedScript
