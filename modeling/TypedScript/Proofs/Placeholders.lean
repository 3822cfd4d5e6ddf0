import TypedScript.Diagnostic

/-!
Templates of messages. Main statement: every placeholder of a template gives way to its argument in
one pass, whatever the argument holds, and all else stays as it is written, a placeholder of no
argument included.
-/

namespace TypedScript.Template

/-! Templates in parts. -/

structure Placeholder where
  digits : List Char
  nonempty : digits ≠ []
  decimal : ∀ digit ∈ digits, digit.isDigit = true

structure Literal where
  chars : List Char
  unopened : '\x7b' ∉ chars

namespace Placeholder

def index (placeholder : Placeholder) : Nat :=
  Nat.ofDigitChars 10 placeholder.digits 0

def written (placeholder : Placeholder) : List Char :=
  '\x7b' :: (placeholder.digits ++ ['\x7d'])

def filled (arguments : List String) (placeholder : Placeholder) : List Char :=
  match arguments[placeholder.index]? with
  | some argument => argument.toList
  | none => placeholder.written

end Placeholder

structure Layout where
  opening : Literal
  parts : List (Placeholder × Literal)

namespace Layout

def text (layout : Layout) (shown : Placeholder → List Char) : List Char :=
  layout.opening.chars ++
    layout.parts.flatMap fun (placeholder, literal) => shown placeholder ++ literal.chars

def template (layout : Layout) : String :=
  String.ofList (layout.text Placeholder.written)

def filled (layout : Layout) (arguments : List String) : String :=
  String.ofList (layout.text (Placeholder.filled arguments))

end Layout

/-! One pass over a template. -/

variable {arguments : List String}

theorem fillChars_literal {chars : List Char} (unopened : '\x7b' ∉ chars) (rest : List Char) :
    fillChars arguments (chars ++ rest) = chars ++ fillChars arguments rest := by
  induction chars with
  | nil => rfl
  | cons char chars induction =>
      have other := List.ne_of_not_mem_cons unopened
      have others := List.not_mem_of_not_mem_cons unopened
      have plain : (char == '\x7b') = false := beq_false_of_ne (Ne.symm other)
      rw [List.cons_append, fillChars, plain, if_neg Bool.false_ne_true, induction others,
        List.cons_append]

theorem digit?_of_decimal {digit : Char} (decimal : digit.isDigit = true) :
    Numeral.digit? digit = some (digit.toNat - '0'.toNat) ∧ digit.toNat - '0'.toNat < 10 := by
  have bounds := Char.isDigit_iff_toNat.mp decimal
  have zero : '0'.toNat = 48 := rfl
  have nine : '9'.toNat = 57 := rfl
  refine ⟨if_pos ?_, by omega⟩
  simp only [Bool.and_eq_true, decide_eq_true_eq, Char.le_def, UInt32.le_iff_toNat_le,
    Char.toNat_val]
  omega

namespace Placeholder

variable (placeholder : Placeholder)

theorem not_mem_digits {char : Char} (noDigit : char.isDigit = false) :
    char ∉ placeholder.digits := by
  intro member
  rw [placeholder.decimal char member] at noDigit
  cases noDigit

theorem read?_digits :
    Numeral.read? 10 Numeral.bound64 placeholder.digits =
      (some placeholder.index).filter (· < Numeral.bound64) := by
  have unsigned : ∀ rest, placeholder.digits ≠ '+' :: rest := by
    intro rest signed
    exact placeholder.not_mem_digits (show '+'.isDigit = false by decide) (by simp [signed])
  have value := Numeral.digits?_eq_foldl
    (fun digit member => digit?_of_decimal (placeholder.decimal digit member)) 0
  have notEmpty : placeholder.digits.isEmpty = false :=
    List.isEmpty_eq_false_iff.mpr placeholder.nonempty
  unfold Numeral.read?
  split
  · next rest signed => exact absurd signed (unsigned rest)
  · dsimp only
    rw [notEmpty, if_neg Bool.false_ne_true, value, index, Nat.ofDigitChars]
    simp only [Nat.mul_comm 10]

theorem placeholder?_digits (addressable : arguments.length ≤ Numeral.bound64)
    (rest : List Char) :
    placeholder? arguments (placeholder.digits ++ '\x7d' :: rest) =
      arguments[placeholder.index]?.map fun argument => (argument.toList, rest) := by
  have inside : ∀ digit ∈ placeholder.digits, (digit != '\x7d') = true := by
    intro digit member
    refine bne_iff_ne.mpr fun closing => ?_
    exact placeholder.not_mem_digits (show '\x7d'.isDigit = false by decide) (closing ▸ member)
  rw [placeholder?, List.dropWhile_append_of_pos inside, List.takeWhile_append_of_pos inside,
    List.dropWhile_cons_of_neg (by decide), List.takeWhile_cons_of_neg (by decide),
    List.append_nil]
  dsimp only
  rw [placeholder.read?_digits]
  by_cases fits : placeholder.index < Numeral.bound64
  · rw [Option.filter_some, if_pos (decide_eq_true fits), Option.bind_some]
  · have absent : arguments[placeholder.index]? = none := List.getElem?_eq_none (by omega)
    simp [fits, absent]

theorem fillChars_written (addressable : arguments.length ≤ Numeral.bound64) (rest : List Char) :
    fillChars arguments (placeholder.written ++ rest) =
      placeholder.filled arguments ++ fillChars arguments rest := by
  have found := placeholder.placeholder?_digits addressable rest
  have shape : placeholder.written ++ rest =
      '\x7b' :: (placeholder.digits ++ '\x7d' :: rest) := by
    simp [written]
  rw [shape, fillChars, if_pos (by decide), filled]
  cases present : arguments[placeholder.index]? with
  | some argument =>
      rw [present, Option.map_some] at found
      split
      · next text after isFound =>
          cases found.symm.trans isFound
          rfl
      · next isNone => cases found.symm.trans isNone
  | none =>
      rw [present, Option.map_none] at found
      have unopened : '\x7b' ∉ placeholder.digits ++ ['\x7d'] := by
        simp [placeholder.not_mem_digits (show '\x7b'.isDigit = false by decide)]
      split
      · next text after isFound => cases found.symm.trans isFound
      · rw [List.append_cons, fillChars_literal unopened]
        rfl

end Placeholder

theorem fillChars_parts (addressable : arguments.length ≤ Numeral.bound64)
    (parts : List (Placeholder × Literal)) :
    fillChars arguments (parts.flatMap fun (placeholder, literal) =>
        placeholder.written ++ literal.chars) =
      parts.flatMap fun (placeholder, literal) =>
        placeholder.filled arguments ++ literal.chars := by
  induction parts with
  | nil => rw [List.flatMap_nil, fillChars, List.flatMap_nil]
  | cons part parts induction =>
      rcases part with ⟨placeholder, literal⟩
      rw [List.flatMap_cons, List.flatMap_cons, List.append_assoc,
        placeholder.fillChars_written addressable, fillChars_literal literal.unopened, induction,
        List.append_assoc]

theorem placeholder?_nil (chars : List Char) : placeholder? [] chars = none := by
  unfold placeholder?
  split <;> simp

theorem fillChars_nil (chars : List Char) : fillChars [] chars = chars := by
  induction chars with
  | nil => rw [fillChars]
  | cons char chars induction =>
      rw [fillChars, induction]
      split
      · split
        · next found =>
            rw [placeholder?_nil] at found
            cases found
        · rfl
      · rfl

/-- A template is filled in one pass over its parts. There cannot be more arguments than 64 bits
can count. -/
theorem fill_in_one_pass (arguments : List String)
    (addressable : arguments.length ≤ Numeral.bound64) :
    (∀ layout : Layout, fill layout.template arguments = layout.filled arguments) ∧
      ∀ template, fill template [] = template := by
  refine ⟨fun layout => ?_, fun template => ?_⟩
  · rw [fill, Layout.template, String.toList_ofList, Layout.text,
      fillChars_literal layout.opening.unopened, fillChars_parts addressable]
    rfl
  · rw [fill, fillChars_nil, String.ofList_toList]

def unexpectedTokenLayout : Layout where
  opening := ⟨"Unexpected token '".toList, by decide +kernel⟩
  parts :=
    [(⟨['0'], by simp, List.forall_mem_singleton.mpr rfl⟩,
        ⟨"'. ".toList, by decide +kernel⟩),
      (⟨['1'], by simp, List.forall_mem_singleton.mpr rfl⟩,
        ⟨" expected.".toList, by decide +kernel⟩)]

/-- An argument that looks like a placeholder is not taken for one, and a placeholder without an
argument stays. -/
theorem fill_in_one_pass_braces :
    ["\x7b1\x7d"].length ≤ Numeral.bound64 ∧
      fill Message.unexpectedToken.template ["\x7b1\x7d"] =
        "Unexpected token '\x7b1\x7d'. \x7b1\x7d expected." := by
  have addressable : ["\x7b1\x7d"].length ≤ Numeral.bound64 := by decide
  have template : Message.unexpectedToken.template = unexpectedTokenLayout.template := by
    decide +kernel
  refine ⟨addressable, ?_⟩
  rw [template, (fill_in_one_pass _ addressable).1 unexpectedTokenLayout]
  decide +kernel

end TypedScript.Template
