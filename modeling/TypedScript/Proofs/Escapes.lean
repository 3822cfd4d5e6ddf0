import TypedScript.Text.Characters
import TypedScript.Token.Escape

/-!
Escapes that give the code of a character. Main statement: a well-formed one denotes its character,
and one that is not keeps its letter, with what follows read as if no backslash had stood before it,
unless it takes a backslash, a sign before digits, an opening brace, or fewer digits than it needs
because the text ends.
-/

namespace TypedScript

namespace Escape

/-! Hexadecimal digits. -/

def isHexDigit (char : Char) : Bool :=
  isDigit char || ('a' ≤ char && char ≤ 'f') || ('A' ≤ char && char ≤ 'F')

def hexValue (char : Char) : Nat :=
  if char ≤ '9' then char.toNat - 0x30
  else if char ≤ 'F' then char.toNat - 0x37
  else char.toNat - 0x57

def codeOf (digits : List Char) : Nat :=
  digits.foldl (fun code digit => code * 16 + hexValue digit) 0

def AllHex (digits : List Char) : Prop :=
  ∀ digit ∈ digits, isHexDigit digit = true

instance (digits : List Char) : Decidable (AllHex digits) :=
  decidable_of_iff (digits.all isHexDigit = true) List.all_eq_true

/-! What an escape denotes. -/

/-- After a backslash, the letter and `rest`, an escape denotes a character and leaves what comes
after its digits. -/
inductive Denotes : (letter : Char) → (rest : List Char) → Char → List Char → Prop
  | byte {digits after : List Char} : digits.length = 2 → AllHex digits →
      Denotes 'x' (digits ++ after) (Char.ofNat (codeOf digits)) after
  | unit {digits after : List Char} : digits.length = 4 → AllHex digits →
      (codeOf digits).isValidChar →
      Denotes 'u' (digits ++ after) (Char.ofNat (codeOf digits)) after
  | braced {digits after : List Char} : digits ≠ [] → AllHex digits →
      (codeOf digits).isValidChar →
      Denotes 'u' ('\x7b' :: (digits ++ '\x7d' :: after)) (Char.ofNat (codeOf digits)) after

def Malformed (letter : Char) (rest : List Char) : Prop :=
  ∀ char after, ¬Denotes letter rest char after

/-- How many digits an escape with this letter has without braces. -/
def width (letter : Char) : Nat :=
  if letter = 'x' then 2 else 4

/-- A malformed escape stays as it is: it has no brace and no sign before its digits, and the text
does not end among them. -/
structure Kept (letter : Char) (rest : List Char) : Prop where
  unbraced : letter = 'u' → rest.head? ≠ some '\x7b'
  unsigned : ∀ digits, digits ≠ [] → AllHex digits → rest.take (width letter) ≠ '+' :: digits
  enough : AllHex rest → rest = [] ∨ width letter ≤ rest.length

def taken (letter : Char) (rest : List Char) : List Char :=
  if letter = 'u' ∧ rest.head? = some '\x7b' then rest.tail.takeWhile (· != '\x7d')
  else rest.take (width letter)

/-! Numerals. -/

theorem digit?_of_hex {char : Char} (hex : isHexDigit char = true) :
    Numeral.digit? char = some (hexValue char) ∧ hexValue char < 16 := by
  have digits : '0'.toNat = 48 ∧ '9'.toNat = 57 := ⟨rfl, rfl⟩
  have small : 'a'.toNat = 97 ∧ 'f'.toNat = 102 ∧ 'z'.toNat = 122 := ⟨rfl, rfl, rfl⟩
  have large : 'A'.toNat = 65 ∧ 'F'.toNat = 70 ∧ 'Z'.toNat = 90 := ⟨rfl, rfl, rfl⟩
  simp only [isHexDigit, isDigit, Bool.or_eq_true, Bool.and_eq_true, decide_eq_true_eq,
    Char.le_def, UInt32.le_iff_toNat_le, Char.toNat_val] at hex
  simp only [Numeral.digit?, hexValue, Bool.and_eq_true, decide_eq_true_eq, Char.le_def,
    UInt32.le_iff_toNat_le, Char.toNat_val]
  grind

theorem hex_of_digit? {char : Char} {digit : Nat} (found : Numeral.digit? char = some digit)
    (small : digit < 16) : isHexDigit char = true := by
  have digits : '0'.toNat = 48 ∧ '9'.toNat = 57 := ⟨rfl, rfl⟩
  have small : 'a'.toNat = 97 ∧ 'f'.toNat = 102 ∧ 'z'.toNat = 122 := ⟨rfl, rfl, rfl⟩
  have large : 'A'.toNat = 65 ∧ 'F'.toNat = 70 ∧ 'Z'.toNat = 90 := ⟨rfl, rfl, rfl⟩
  simp only [Numeral.digit?, Bool.and_eq_true, decide_eq_true_eq, Char.le_def,
    UInt32.le_iff_toNat_le, Char.toNat_val] at found
  simp only [isHexDigit, isDigit, Bool.or_eq_true, Bool.and_eq_true, decide_eq_true_eq,
    Char.le_def, UInt32.le_iff_toNat_le, Char.toNat_val]
  grind

theorem digits?_of_hex {digits : List Char} (hex : AllHex digits) (code : Nat) :
    Numeral.digits? 16 code digits =
      some (digits.foldl (fun code digit => code * 16 + hexValue digit) code) :=
  Numeral.digits?_eq_foldl (fun digit member => digit?_of_hex (hex digit member)) code

theorem hex_of_digits? {digits : List Char} {code value : Nat}
    (found : Numeral.digits? 16 code digits = some value) : AllHex digits := by
  induction digits generalizing code with
  | nil => simp [AllHex]
  | cons char digits induction =>
      rw [Numeral.digits?] at found
      split at found
      · cases found
      · next digit isDigit =>
          split at found
          · next small =>
              exact List.forall_mem_cons.mpr ⟨hex_of_digit? isDigit small, induction found⟩
          · cases found

theorem codeOf_valid {digits : List Char} (hex : AllHex digits) (few : digits.length ≤ 3) :
    (codeOf digits).isValidChar := by
  have small : ∀ digit ∈ digits, hexValue digit < 16 :=
    fun digit member => (digit?_of_hex (hex digit member)).2
  have bound : codeOf digits < 4096 := by
    rcases digits with _ | ⟨first, _ | ⟨second, _ | ⟨third, _ | ⟨fourth, digits⟩⟩⟩⟩
    · decide
    all_goals
      simp only [List.forall_mem_cons, List.length_cons] at small few
      simp only [codeOf, List.foldl_cons, List.foldl_nil]
      omega
  exact .inl (Nat.lt_trans bound (by decide))

theorem plus_not_hex {digits : List Char} : ¬AllHex ('+' :: digits) :=
  fun hex => absurd (hex '+' (by simp)) (by decide)

def Signed (chars digits : List Char) : Prop :=
  digits ≠ [] ∧ AllHex digits ∧ (chars = digits ∨ chars = '+' :: digits)

theorem read?_eq (chars : List Char) :
    ∃ digits, (chars = digits ∧ (∀ rest, chars ≠ '+' :: rest) ∨ chars = '+' :: digits) ∧
      Numeral.read? 16 Numeral.bound32 chars = if digits.isEmpty then none
        else (Numeral.digits? 16 0 digits).filter (· < Numeral.bound32) := by
  unfold Numeral.read?
  split
  · next rest => exact ⟨rest, .inr rfl, rfl⟩
  · next noSign => exact ⟨chars, .inl ⟨rfl, noSign⟩, rfl⟩

theorem read?_of_signed {chars digits : List Char} (signed : Signed chars digits)
    (valid : (codeOf digits).isValidChar) :
    Numeral.read? 16 Numeral.bound32 chars = some (codeOf digits) := by
  rcases signed with ⟨notEmpty, hex, shape⟩
  rcases read?_eq chars with ⟨others, otherShape, read⟩
  have same : others = digits := by
    rcases shape with rfl | rfl
    · rcases otherShape with ⟨rfl, _⟩ | rfl
      · rfl
      · exact absurd hex plus_not_hex
    · rcases otherShape with ⟨_, noSign⟩ | shape
      · exact absurd rfl (noSign digits)
      · exact (List.cons.inj shape).2.symm
  have small : codeOf digits < Numeral.bound32 := by
    simp only [Nat.isValidChar, Numeral.bound32] at valid ⊢
    omega
  rw [read, same, if_neg (by simpa using notEmpty), digits?_of_hex hex]
  exact Option.filter_eq_some_iff.mpr ⟨rfl, decide_eq_true small⟩

theorem signed_of_read? {chars : List Char} {code : Nat}
    (found : Numeral.read? 16 Numeral.bound32 chars = some code) :
    ∃ digits, Signed chars digits ∧ code = codeOf digits := by
  rcases read?_eq chars with ⟨digits, shape, read⟩
  rw [read] at found
  split at found
  · cases found
  · next notEmpty =>
      rw [Option.filter_eq_some_iff] at found
      have hex := hex_of_digits? found.1
      rw [digits?_of_hex hex] at found
      exact ⟨digits, ⟨by simpa using notEmpty, hex, shape.imp_left And.left⟩,
        (Option.some.inj found.1).symm⟩

theorem codePoint_cases (letter : Char) (chars : List Char) :
    (∃ digits, Signed chars digits ∧ (codeOf digits).isValidChar ∧
      codePoint letter chars = [Char.ofNat (codeOf digits)]) ∨
    (∀ digits, Signed chars digits → ¬(codeOf digits).isValidChar) ∧
      codePoint letter chars = letter :: chars := by
  unfold codePoint
  cases found : Numeral.read? 16 Numeral.bound32 chars with
  | none =>
      refine .inr ⟨fun digits signed valid => ?_, rfl⟩
      cases found.symm.trans (read?_of_signed signed valid)
  | some code =>
      rcases signed_of_read? found with ⟨digits, signed, rfl⟩
      by_cases valid : (codeOf digits).isValidChar
      · exact .inl ⟨digits, signed, valid, if_pos valid⟩
      · refine .inr ⟨fun others otherSigned otherValid => ?_, if_neg valid⟩
        rw [read?_of_signed otherSigned otherValid] at found
        exact valid (Option.some.inj found ▸ otherValid)

/-- An escape without a brace takes some characters for its digits, and reading goes on behind
them. -/
theorem resolve_unbraced {letter : Char} (either : letter = 'x' ∨ letter = 'u') {rest : List Char}
    (unbraced : letter = 'u' → rest.head? ≠ some '\x7b') :
    resolve ('\\' :: letter :: rest) =
      codePoint letter (rest.take (width letter)) ++ resolve (rest.drop (width letter)) := by
  rcases either with rfl | rfl
  · rw [resolve]
    rfl
  · rw [resolve]
    · rfl
    · rintro more rfl
      exact unbraced rfl rfl

theorem resolve_braced (rest : List Char) :
    resolve ('\\' :: 'u' :: '\x7b' :: rest) = codePoint 'u' (rest.takeWhile (· != '\x7d')) ++
      resolve ((rest.dropWhile (· != '\x7d')).drop 1) := by
  rw [resolve]

theorem resolve_plain {chars : List Char} (plain : '\\' ∉ chars) (rest : List Char) :
    resolve (chars ++ rest) = chars ++ resolve rest := by
  induction chars with
  | nil => rfl
  | cons char chars induction =>
      rw [List.mem_cons, not_or] at plain
      have noBackslash : char ≠ '\\' := Ne.symm plain.1
      rw [List.cons_append, resolve, induction plain.2, List.cons_append]
      all_goals simp [noBackslash]

/-! Well-formed escapes. -/

theorem codePoint_of_hex (letter : Char) {digits : List Char} (notEmpty : digits ≠ [])
    (hex : AllHex digits) (valid : (codeOf digits).isValidChar) :
    codePoint letter digits = [Char.ofNat (codeOf digits)] := by
  rw [codePoint, read?_of_signed ⟨notEmpty, hex, .inl rfl⟩ valid]
  exact if_pos valid

theorem hex_head? {digits after : List Char} (notEmpty : digits ≠ []) (hex : AllHex digits) :
    (digits ++ after).head? ≠ some '\x7b' := by
  cases digits with
  | nil => exact absurd rfl notEmpty
  | cons digit digits =>
      intro isBrace
      rw [List.cons_append, List.head?_cons, Option.some.injEq] at isBrace
      have isHex := hex digit (by simp)
      rw [isBrace] at isHex
      exact absurd isHex (by decide)

theorem split_braced {digits after : List Char} (hex : AllHex digits) :
    (digits ++ '\x7d' :: after).takeWhile (· != '\x7d') = digits ∧
      (digits ++ '\x7d' :: after).dropWhile (· != '\x7d') = '\x7d' :: after := by
  have inside : ∀ digit ∈ digits, (digit != '\x7d') = true := by
    intro digit member
    have isHex := hex digit member
    rw [bne_iff_ne]
    rintro rfl
    exact absurd isHex (by decide)
  rw [List.takeWhile_append_of_pos inside, List.dropWhile_append_of_pos inside]
  simp

theorem ne_nil_of_length {digits : List Char} {count : Nat} (length : digits.length = count + 1) :
    digits ≠ [] := by
  rintro rfl
  cases length

theorem resolve_of_denotes {letter char : Char} {rest after : List Char}
    (denotes : Denotes letter rest char after) :
    resolve ('\\' :: letter :: rest) = char :: resolve after := by
  cases denotes with
  | @byte digits _ length hex =>
      have valid := codeOf_valid hex (by omega)
      rw [resolve_unbraced (.inl rfl) (by simp), width, if_pos rfl, ← length, List.take_left,
        List.drop_left, codePoint_of_hex _ (ne_nil_of_length length) hex valid,
        List.singleton_append]
  | @unit digits _ length hex valid =>
      have notEmpty := ne_nil_of_length length
      rw [resolve_unbraced (.inr rfl) (fun _ => hex_head? notEmpty hex), width,
        if_neg (by decide), ← length, List.take_left, List.drop_left,
        codePoint_of_hex _ notEmpty hex valid, List.singleton_append]
  | @braced digits _ notEmpty hex valid =>
      rw [resolve_braced, (split_braced hex).1, (split_braced hex).2,
        codePoint_of_hex _ notEmpty hex valid, List.singleton_append]
      rfl

/-! Malformed escapes. -/

variable {letter : Char} {rest : List Char}

theorem malformed_of_taken (other : ¬AllHex (taken letter rest)) : Malformed letter rest := by
  intro char after denotes
  apply other
  cases denotes with
  | @byte digits _ length hex =>
      rwa [taken, if_neg (by simp), width, if_pos rfl, ← length, List.take_left]
  | @unit digits _ length hex =>
      have noBrace := @hex_head? digits after (ne_nil_of_length length) hex
      rwa [taken, if_neg (noBrace ·.2), width, if_neg (by decide), ← length, List.take_left]
  | @braced digits _ _ hex =>
      rwa [taken, if_pos ⟨rfl, rfl⟩, List.tail_cons, (split_braced hex).1]

/-- The digits of an escape without a brace make it well-formed if they are enough. -/
theorem denotes_of_take (either : letter = 'x' ∨ letter = 'u')
    (enough : width letter ≤ rest.length) (hex : AllHex (rest.take (width letter)))
    (valid : (codeOf (rest.take (width letter))).isValidChar) :
    ∃ char after, Denotes letter rest char after := by
  have whole := List.take_append_drop (width letter) rest
  have length : (rest.take (width letter)).length = width letter := by
    rw [List.length_take]
    omega
  rcases either with rfl | rfl
  · have denotes := @Denotes.byte _ (rest.drop (width 'x')) length hex
    rw [whole] at denotes
    exact ⟨_, _, denotes⟩
  · have denotes := @Denotes.unit _ (rest.drop (width 'u')) length hex valid
    rw [whole] at denotes
    exact ⟨_, _, denotes⟩

/-- The text of a malformed escape stays as it is, and reading goes on behind what it takes. -/
theorem resolve_of_kept (either : letter = 'x' ∨ letter = 'u') (malformed : Malformed letter rest)
    (kept : Kept letter rest) :
    resolve ('\\' :: letter :: rest) =
      letter :: (rest.take (width letter) ++ resolve (rest.drop (width letter))) := by
  rw [resolve_unbraced either kept.unbraced]
  rcases codePoint_cases letter (rest.take (width letter)) with
    ⟨digits, ⟨notEmpty, hex, shape⟩, valid, _⟩ | ⟨_, same⟩
  · rcases shape with shape | shape
    · rcases Nat.lt_or_ge rest.length (width letter) with short | enough
      · rw [List.take_of_length_le (Nat.le_of_lt short)] at shape
        subst shape
        rcases kept.enough hex with empty | enough
        · exact absurd empty notEmpty
        · exact absurd short (Nat.not_lt.mpr enough)
      · rw [← shape] at hex valid
        rcases denotes_of_take either enough hex valid with ⟨char, after, denotes⟩
        exact absurd denotes (malformed char after)
    · exact absurd shape (kept.unsigned digits notEmpty hex)
  · rw [same, List.cons_append]

/-- What a short numeral in place of the digits leads to is shorter than the text. -/
theorem length_codePoint {chars digits : List Char} (signed : Signed chars digits)
    (few : digits.length ≤ 3) : (codePoint letter chars).length = 1 := by
  have valid := codeOf_valid signed.2.1 few
  rcases codePoint_cases letter chars with ⟨_, _, _, found⟩ | ⟨noDigits, _⟩
  · rw [found, List.length_singleton]
  · exact absurd valid (noDigits digits signed)

theorem length_codePoint_le (letter : Char) (chars : List Char) :
    (codePoint letter chars).length ≤ chars.length + 1 := by
  rcases codePoint_cases letter chars with ⟨_, _, _, found⟩ | ⟨_, found⟩
  · rw [found, List.length_singleton]
    exact Nat.le_add_left 1 _
  · exact Nat.le_of_eq (by rw [found, List.length_cons])

theorem resolve_braced_ne {more : List Char} (plain : '\\' ∉ more.takeWhile (· != '\x7d')) :
    resolve ('\\' :: 'u' :: '\x7b' :: more) ≠ 'u' :: resolve ('\x7b' :: more) := by
  have brace : '\\' ∉ ['\x7b'] := by decide
  have whole : ['\x7b'] ++ more = ['\x7b'] ++ (more.takeWhile (· != '\x7d') ++
      more.dropWhile (· != '\x7d')) := by
    rw [List.takeWhile_append_dropWhile]
  have shorter : (resolve ((more.dropWhile (· != '\x7d')).drop 1)).length ≤
      (resolve (more.dropWhile (· != '\x7d'))).length := by
    have stops := List.head?_dropWhile_not (· != '\x7d') more
    cases shape : more.dropWhile (· != '\x7d') with
    | nil => exact Nat.le_refl _
    | cons close after =>
        rw [shape] at stops
        have isClose : close = '\x7d' := by simpa using stops
        have closing : '\\' ∉ ['\x7d'] := by decide
        rw [isClose, ← List.singleton_append, resolve_plain closing, List.length_append]
        exact Nat.le_add_left _ _
  have bound := length_codePoint_le 'u' (more.takeWhile (· != '\x7d'))
  intro same
  rw [resolve_braced, ← List.singleton_append (l := more), whole, resolve_plain brace,
    resolve_plain plain] at same
  have lengths := congrArg List.length same
  simp only [List.length_append, List.length_cons, List.length_nil] at lengths
  omega

/-- The letter of a malformed escape stays, and what comes after it is read as if no backslash stood
before it, exactly if the escape is kept; what it takes must have no backslash of its own. -/
theorem resolve_of_plain (either : letter = 'x' ∨ letter = 'u')
    (malformed : Malformed letter rest) (plain : '\\' ∉ taken letter rest) :
    resolve ('\\' :: letter :: rest) = letter :: resolve rest ↔ Kept letter rest := by
  by_cases braced : letter = 'u' ∧ rest.head? = some '\x7b'
  · rw [taken, if_pos braced] at plain
    rcases braced with ⟨rfl, isBrace⟩
    rcases List.head?_eq_some_iff.mp isBrace with ⟨more, rfl⟩
    exact iff_of_false (resolve_braced_ne plain) fun kept => kept.unbraced rfl rfl
  · have unbraced : letter = 'u' → rest.head? ≠ some '\x7b' := not_and.mp braced
    rw [taken, if_neg braced] at plain
    have apart : resolve rest =
        rest.take (width letter) ++ resolve (rest.drop (width letter)) := by
      rw [← resolve_plain plain, List.take_append_drop]
    constructor
    · intro same
      rw [resolve_unbraced either unbraced, apart] at same
      have lengths := congrArg List.length same
      have width_le : width letter ≤ 4 := by
        unfold width
        split <;> omega
      simp only [List.length_append, List.length_cons, List.length_take] at lengths
      refine ⟨unbraced, fun digits notEmpty hex shape => ?_, fun hex => ?_⟩
      · have size := congrArg List.length shape
        rw [List.length_take, List.length_cons] at size
        have positive := List.length_pos_iff.mpr notEmpty
        have one := @length_codePoint letter _ digits ⟨notEmpty, hex, .inr shape⟩ (by omega)
        omega
      · rcases Nat.lt_or_ge rest.length (width letter) with short | enough
        · refine .inl (Decidable.byContradiction fun notEmpty => ?_)
          have positive := List.length_pos_iff.mpr notEmpty
          have size := List.take_of_length_le (Nat.le_of_lt short)
          have one := @length_codePoint letter _ rest ⟨notEmpty, hex, .inl size⟩ (by omega)
          omega
        · exact .inr enough
    · intro kept
      rw [resolve_of_kept either malformed kept, apart]

/-! Texts. -/

def opening (letter : Char) : String :=
  String.ofList ['\\', letter]

theorem toList_opening (letter : Char) (rest : String) :
    (opening letter ++ rest).toList = '\\' :: letter :: rest.toList := by
  rw [String.toList_append, opening, String.toList_ofList]
  rfl

end Escape

open Escape in
/-- A well-formed escape stands for its character. A malformed one that is kept stands for its
letter and for the characters that it takes; if they have no backslash, it is the same as its letter
and then all that follows, and only where it is kept. -/
theorem escapes_read (letter : Char) (either : letter = 'x' ∨ letter = 'u') (rest : String) :
    (∀ char after, Denotes letter rest.toList char after →
      unescape (opening letter ++ rest) =
        String.singleton char ++ unescape (String.ofList after)) ∧
    (Malformed letter rest.toList →
      (Kept letter rest.toList → unescape (opening letter ++ rest) =
        String.singleton letter ++ (String.ofList (rest.toList.take (width letter)) ++
          unescape (String.ofList (rest.toList.drop (width letter))))) ∧
      ('\\' ∉ taken letter rest.toList →
        (unescape (opening letter ++ rest) = String.singleton letter ++ unescape rest ↔
          Kept letter rest.toList))) := by
  refine ⟨fun char after denotes => ?_, fun malformed => ⟨fun kept => ?_, fun plain => ?_⟩⟩
  · rw [unescape, unescape, toList_opening, resolve_of_denotes denotes, String.toList_ofList]
    apply String.toList_injective
    simp
  · rw [unescape, unescape, toList_opening, resolve_of_kept either malformed kept,
      String.toList_ofList]
    apply String.toList_injective
    simp
  · rw [← resolve_of_plain either malformed plain, unescape, unescape, toList_opening]
    constructor
    · intro same
      have chars := congrArg String.toList same
      simpa using chars
    · intro same
      rw [same]
      apply String.toList_injective
      simp

open Escape in
/-- A letter that is no digit stands for itself after one that is. -/
theorem escapes_read_digit :
    Denotes 'x' "41\\n".toList 'A' "\\n".toList ∧
    unescape (opening 'x' ++ "41\\n") = String.singleton 'A' ++ unescape "\\n" ∧
    Malformed 'x' "4g".toList ∧
    unescape (opening 'x' ++ "4g") = String.singleton 'x' ++ unescape "4g" := by
  have denotes : Denotes 'x' "41\\n".toList 'A' "\\n".toList :=
    @Denotes.byte ['4', '1'] _ rfl (by decide)
  have malformed : Malformed 'x' "4g".toList := malformed_of_taken (by decide)
  have kept : Kept 'x' "4g".toList := by
    refine ⟨by simp, fun digits _ _ same => ?_, fun hex => absurd hex (by decide)⟩
    exact absurd (List.cons.inj same).1 (by decide)
  exact ⟨denotes, (escapes_read 'x' (.inl rfl) _).1 'A' _ denotes, malformed,
    (((escapes_read 'x' (.inl rfl) "4g").2 malformed).2 (by decide)).mpr kept⟩

open Escape in
/-- Where a malformed escape takes the beginning of another one, that one is lost; and a sign before
a digit is taken for a part of the number. -/
theorem malformed_escape_takes_more :
    Malformed 'x' "\\n".toList ∧
    unescape (opening 'x' ++ "\\n") ≠ String.singleton 'x' ++ unescape "\\n" ∧
    Malformed 'x' "+1".toList ∧
    unescape (opening 'x' ++ "+1") ≠ String.singleton 'x' ++ unescape "+1" := by
  refine ⟨malformed_of_taken (by decide), ?_, malformed_of_taken (by decide), ?_⟩
  · decide +kernel
  · decide +kernel

end TypedScript
