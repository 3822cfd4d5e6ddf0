/-!
Unsigned numerals in a given base.
-/

namespace TypedScript.Numeral

/-- Numbers below this bound fit into 32 bits. -/
def bound32 : Nat := 0x100000000

/-- Numbers below this bound fit into 64 bits. -/
def bound64 : Nat := 0x10000000000000000

def digit? (char : Char) : Option Nat :=
  if '0' ≤ char && char ≤ '9' then some (char.toNat - '0'.toNat)
  else if 'a' ≤ char && char ≤ 'z' then some (char.toNat - 'a'.toNat + 10)
  else if 'A' ≤ char && char ≤ 'Z' then some (char.toNat - 'A'.toNat + 10)
  else none

def digits? (base value : Nat) : List Char → Option Nat
  | [] => some value
  | char :: rest =>
      match digit? char with
      | none => none
      | some digit => if digit < base then digits? base (value * base + digit) rest else none

theorem digits?_eq_foldl {base : Nat} {weight : Char → Nat} {digits : List Char}
    (all : ∀ digit ∈ digits, digit? digit = some (weight digit) ∧ weight digit < base)
    (value : Nat) :
    digits? base value digits =
      some (digits.foldl (fun value digit => value * base + weight digit) value) := by
  induction digits generalizing value with
  | nil => rfl
  | cons digit digits induction =>
      rcases List.forall_mem_cons.mp all with ⟨⟨found, small⟩, others⟩
      rw [digits?, found]
      simp only [small, if_true, List.foldl_cons]
      exact induction others _

/-- The value of a numeral: an optional plus sign and at least one digit, for a value below
`bound`. -/
def read? (base bound : Nat) (chars : List Char) : Option Nat :=
  let digits := match chars with
    | '+' :: rest => rest
    | _ => chars
  if digits.isEmpty then none else (digits? base 0 digits).filter (· < bound)

end TypedScript.Numeral
