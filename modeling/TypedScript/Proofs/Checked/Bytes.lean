import TypedScript.Proofs.LineStarts

/-!
Searches in the bytes of a text, with every slice and every index checked: `none` stands for one
that is out of range. Main statements: no check fails, and what is found among the bytes of a text
begins and ends between two of its characters.
-/

namespace TypedScript

/-! Slices and indices. -/

def bytesFrom? (bytes : List UInt8) (start : Nat) : Option (List UInt8) :=
  if start ≤ bytes.length then some (bytes.drop start) else none

def bytesTo? (bytes : List UInt8) (stop : Nat) : Option (List UInt8) :=
  if stop ≤ bytes.length then some (bytes.take stop) else none

def subtract? (left right : Nat) : Option Nat :=
  if right ≤ left then some (left - right) else none

theorem subtract?_of_le {left right : Nat} (le : right ≤ left) :
    subtract? left right = some (left - right) :=
  if_pos le

def sum? (bound left right : Nat) : Option Nat :=
  if left + right < bound then some (left + right) else none

theorem sum?_of_lt {bound left right : Nat} (lt : left + right < bound) :
    sum? bound left right = some (left + right) :=
  if_pos lt

theorem sum?_eq_none {bound left right : Nat} :
    sum? bound left right = none ↔ bound ≤ left + right := by
  simp [sum?]

theorem bytesFrom?_append (before after : List UInt8) :
    bytesFrom? (before ++ after) before.length = some after := by
  rw [bytesFrom?, if_pos (by simp), List.drop_left]

/-! Loops. -/

/-- Repeats turns until one of them is the last. Every other turn must leave a smaller state. -/
def loop {α β : Type} (size : α → Nat) (turn : α → Option (α ⊕ β)) (state : α) : Option β := do
  match ← turn state with
  | .inl next => if _smaller : size next < size state then loop size turn next else none
  | .inr result => return result
termination_by size state

theorem loop_turn {α β : Type} (size : α → Nat) (turn : α → Option (α ⊕ β)) (state : α) :
    loop size turn state =
      (turn state).bind
        (Sum.elim (fun next => if size next < size state then loop size turn next else none)
          some) := by
  rw [loop]
  cases turn state with
  | none => rfl
  | some turned =>
      cases turned with
      | inl next => exact dite_eq_ite
      | inr result => rfl

theorem loop_of_more {α β : Type} {size : α → Nat} {turn : α → Option (α ⊕ β)} {state next : α}
    (turned : turn state = some (.inl next)) (smaller : size next < size state) :
    loop size turn state = loop size turn next := by
  rw [loop_turn, turned]
  exact if_pos smaller

theorem loop_of_last {α β : Type} {size : α → Nat} {turn : α → Option (α ⊕ β)} {state : α}
    {result : β} (turned : turn state = some (.inr result)) :
    loop size turn state = some result := by
  rw [loop_turn, turned]
  rfl

/-! Line terminators. -/

namespace LineBreak

def begins (byte : UInt8) : Bool :=
  byte == 0x0a || byte == 0x0d || byte == 0xe2

/-- The search for the first line terminator at or after `start` goes from one byte that may begin
a terminator to the next. -/
def searchTurn (bytes : List UInt8) (start : Nat) : Option (Nat ⊕ Option Found) := do
  let rest ← bytesFrom? bytes start
  match rest.findIdx? begins with
  | none => return .inr none
  | some ahead =>
      let found := start + ahead
      let byte ← bytes[found]?
      if byte = 0x0d ∧ bytes[found + 1]? = some 0x0a then return .inr (some ⟨found, 2⟩)
      else if byte = 0x0a ∨ byte = 0x0d then return .inr (some ⟨found, 1⟩)
      else if bytes[found + 1]? = some 0x80 ∧
          (bytes[found + 2]? = some 0xa8 ∨ bytes[found + 2]? = some 0xa9) then
        return .inr (some ⟨found, 3⟩)
      else return .inl (found + 1)

def search (bytes : List UInt8) (start : Nat) : Option (Option Found) :=
  loop (bytes.length - ·) (searchTurn bytes) start

theorem width?_cons (byte : UInt8) (more : List UInt8) :
    width? (byte :: more) =
      if byte = 0x0d ∧ more[0]? = some 0x0a then some 2
      else if byte = 0x0a ∨ byte = 0x0d then some 1
      else if byte = 0xe2 ∧ more[0]? = some 0x80 ∧
          (more[1]? = some 0xa8 ∨ more[1]? = some 0xa9) then
        some 3
      else none := by
  unfold width?
  split
  case h_3 tail noFeed isReturn =>
    rcases tail with _ | ⟨second, tail⟩
    · simp_all
    · have alone : second ≠ 0x0a := fun isFeed => noFeed tail (by rw [isFeed])
      simp_all
  case h_6 noBoth noFeed noReturn noLine noParagraph =>
    rcases more with _ | ⟨second, _ | ⟨third, more⟩⟩
    · simp_all
    · simp_all
    · have other : ¬(byte = 0xe2 ∧ second = 0x80 ∧ (third = 0xa8 ∨ third = 0xa9)) := by
        rintro ⟨rfl, rfl, rfl | rfl⟩
        · exact noLine more rfl
        · exact noParagraph more rfl
      simp_all
  all_goals simp_all

theorem width?_of_begins {byte : UInt8} (plain : begins byte = false) (more : List UInt8) :
    width? (byte :: more) = none := by
  simp only [begins, Bool.or_eq_false_iff, beq_eq_false_iff_ne] at plain
  rw [width?_cons]
  grind

def Found.later (count : Nat) (found : Found) : Found :=
  ⟨count + found.offset, found.width⟩

theorem find?_of_none {byte : UInt8} {more : List UInt8} (plain : width? (byte :: more) = none) :
    find? (byte :: more) = (find? more).map (Found.later 1) := by
  rw [find?, plain]
  cases find? more with
  | none => rfl
  | some found => simp [Found.later, Nat.add_comm]

theorem map_later (found : Option Found) (first second : Nat) :
    (found.map (Found.later second)).map (Found.later first) =
      found.map (Found.later (first + second)) := by
  cases found with
  | none => rfl
  | some found => simp [Found.later, Nat.add_assoc]

theorem find?_append {plain : List UInt8} (noBegin : ∀ byte ∈ plain, begins byte = false)
    (more : List UInt8) : find? (plain ++ more) = (find? more).map (Found.later plain.length) := by
  induction plain with
  | nil =>
      rw [List.nil_append]
      cases find? more with
      | none => rfl
      | some found => simp [Found.later]
  | cons byte plain induction =>
      rw [List.forall_mem_cons] at noBegin
      rw [List.cons_append, find?_of_none (width?_of_begins noBegin.1 _), induction noBegin.2,
        map_later, List.length_cons, Nat.add_comm]

theorem find?_eq_none {bytes : List UInt8} (noBegin : ∀ byte ∈ bytes, begins byte = false) :
    find? bytes = none := by
  have passed := find?_append noBegin []
  rwa [List.append_nil] at passed

theorem split_of_findIdx? {bytes : List UInt8} {ahead : Nat}
    (found : bytes.findIdx? begins = some ahead) :
    ∃ plain byte more, bytes = plain ++ byte :: more ∧ plain.length = ahead ∧
      (∀ byte ∈ plain, begins byte = false) ∧ begins byte = true := by
  rcases List.findIdx?_eq_some_iff_getElem.mp found with ⟨within, isBegin, earlier⟩
  refine ⟨bytes.take ahead, bytes[ahead], bytes.drop (ahead + 1), ?_, ?_, ?_, isBegin⟩
  · rw [← List.drop_eq_getElem_cons within, List.take_append_drop]
  · rw [List.length_take, Nat.min_eq_left (Nat.le_of_lt within)]
  · intro byte member
    rcases List.mem_take_iff_getElem.mp member with ⟨index, bound, rfl⟩
    simpa using earlier index (by omega)

theorem getElem?_length_add (before after : List UInt8) (index : Nat) :
    (before ++ after)[before.length + index]? = after[index]? := by
  rw [List.getElem?_append_right (Nat.le_add_right _ _), Nat.add_sub_cancel_left]

theorem search_append (before after : List UInt8) :
    search (before ++ after) before.length =
      some ((find? after).map (Found.later before.length)) := by
  induction size : after.length using Nat.strongRecOn generalizing before after with
  | ind size induction =>
      rw [search, loop_turn, searchTurn, bytesFrom?_append]
      cases candidate : after.findIdx? begins with
      | none =>
          have noBegin : ∀ byte ∈ after, begins byte = false := by
            simpa using candidate
          simp [find?_eq_none noBegin, candidate]
      | some ahead =>
          rcases split_of_findIdx? candidate with ⟨plain, byte, more, rfl, rfl, noBegin, isBegin⟩
          have bytes : before ++ (plain ++ byte :: more) = (before ++ plain) ++ byte :: more := by
            rw [List.append_assoc]
          have place : before.length + plain.length = (before ++ plain).length := by
            rw [List.length_append]
          have here : ((before ++ plain) ++ byte :: more)[(before ++ plain).length]? = some byte :=
            getElem?_length_add _ _ 0
          have next : ((before ++ plain) ++ byte :: more)[(before ++ plain).length + 1]? =
              more[0]? := getElem?_length_add _ _ 1
          have afterNext : ((before ++ plain) ++ byte :: more)[(before ++ plain).length + 2]? =
              more[1]? := getElem?_length_add _ _ 2
          rw [find?_append noBegin, map_later, place, bytes]
          simp only [Option.bind_eq_bind, Option.bind_some, candidate, place, here, next, afterNext]
          by_cases both : byte = 0x0d ∧ more[0]? = some 0x0a
          · rw [if_pos both, find?, width?_cons, if_pos both]
            rfl
          by_cases single : byte = 0x0a ∨ byte = 0x0d
          · rw [if_neg both, if_pos single, find?, width?_cons, if_neg both, if_pos single]
            rfl
          have lead : byte = 0xe2 := by
            simp only [begins, Bool.or_eq_true, beq_iff_eq] at isBegin
            exact isBegin.resolve_left single
          by_cases separator : more[0]? = some 0x80 ∧ (more[1]? = some 0xa8 ∨ more[1]? = some 0xa9)
          · rw [if_neg both, if_neg single, if_pos separator, find?, width?_cons, if_neg both,
              if_neg single, if_pos ⟨lead, separator⟩]
            rfl
          · have none : width? (byte :: more) = none := by
              rw [width?_cons, if_neg both, if_neg single, if_neg fun isSeparator =>
                separator isSeparator.2]
            have later := induction more.length (by simp at size; omega)
              (before ++ plain ++ [byte]) more rfl
            rw [List.append_assoc, List.singleton_append, List.length_append,
              List.length_singleton] at later
            rw [if_neg both, if_neg single, if_neg separator, find?_of_none none, map_later]
            exact (if_pos (by simp; omega)).trans later

/-- A search from the beginning, which goes from one byte that may begin a terminator to the next,
finds the first place where one begins. -/
theorem search_eq_find? (bytes : List UInt8) : search bytes 0 = some (find? bytes) := by
  have same : (find? bytes).map (Found.later 0) = find? bytes := by
    cases find? bytes with
    | none => rfl
    | some found => simp [Found.later]
  exact (search_append [] bytes).trans (congrArg some same)

end LineBreak

/-! The bytes of characters. -/

def encoded (chars : List Char) : List UInt8 :=
  chars.flatMap String.utf8EncodeChar

@[simp] theorem encoded_nil : encoded [] = [] := rfl

theorem encoded_cons (char : Char) (chars : List Char) :
    encoded (char :: chars) = String.utf8EncodeChar char ++ encoded chars := rfl

theorem encoded_append (left right : List Char) :
    encoded (left ++ right) = encoded left ++ encoded right :=
  List.flatMap_append

theorem length_encoded (chars : List Char) : (encoded chars).length = byteLength chars := by
  induction chars with
  | nil => rfl
  | cons char chars induction =>
      rw [encoded_cons, List.length_append, String.length_utf8EncodeChar, induction,
        byteLength_cons]

theorem bytesFrom?_encoded (before after : List Char) :
    bytesFrom? (encoded (before ++ after)) (byteLength before) = some (encoded after) := by
  rw [encoded_append, ← length_encoded, bytesFrom?_append]

theorem utf8EncodeChar_cases (char : Char) :
    (char.toNat < 0x80 ∧ String.utf8EncodeChar char = [UInt8.ofNat char.toNat]) ∨
      0x80 ≤ char.toNat ∧ ∀ byte ∈ String.utf8EncodeChar char, 0x80 ≤ byte.toNat := by
  unfold Char.toNat
  fun_cases String.utf8EncodeChar char with
  | case1 value small => exact .inl ⟨by omega, rfl⟩
  | case2 value large small =>
      refine .inr ⟨by omega, ?_⟩
      simp only [List.forall_mem_cons, UInt8.toNat_ofNat']
      exact ⟨by omega, by omega, by simp⟩
  | case3 value _ large small =>
      refine .inr ⟨by omega, ?_⟩
      simp only [List.forall_mem_cons, UInt8.toNat_ofNat']
      exact ⟨by omega, by omega, by omega, by simp⟩
  | case4 value _ _ large =>
      refine .inr ⟨by omega, ?_⟩
      simp only [List.forall_mem_cons, UInt8.toNat_ofNat']
      exact ⟨by omega, by omega, by omega, by omega, by simp⟩

theorem utf8EncodeChar_of_ascii {char : Char} (ascii : char.toNat < 0x80) :
    String.utf8EncodeChar char = [UInt8.ofNat char.toNat] := by
  rcases utf8EncodeChar_cases char with ⟨_, single⟩ | ⟨large, _⟩
  · exact single
  · omega

theorem utf8Size_of_ascii {char : Char} (ascii : char.toNat < 0x80) : char.utf8Size = 1 := by
  rw [← String.length_utf8EncodeChar, utf8EncodeChar_of_ascii ascii, List.length_singleton]

theorem encoded_ascii {char : Char} (ascii : char.toNat < 0x80) (chars : List Char) :
    encoded (char :: chars) = UInt8.ofNat char.toNat :: encoded chars := by
  rw [encoded_cons, utf8EncodeChar_of_ascii ascii, List.singleton_append]

theorem toNat_ofNat_of_lt {value : Nat} (small : value < 0x100) :
    (UInt8.ofNat value).toNat = value := by
  rw [UInt8.toNat_ofNat', Nat.mod_eq_of_lt small]

theorem ofNat_toNat_inj {char other : Char} (ascii : char.toNat < 0x80)
    (otherAscii : other.toNat < 0x80)
    (same : UInt8.ofNat char.toNat = UInt8.ofNat other.toNat) : char = other := by
  have values := congrArg UInt8.toNat same
  rw [toNat_ofNat_of_lt (by omega), toNat_ofNat_of_lt (by omega)] at values
  exact Char.ext (UInt32.toNat_inj.mp values)

theorem getElem?_encoded_cons (char : Char) (chars : List Char) :
    ∃ byte, (encoded (char :: chars))[0]? = some byte ∧
      (byte = UInt8.ofNat char.toNat ∧ char.toNat < 0x80 ∨
        0x80 ≤ byte.toNat ∧ 0x80 ≤ char.toNat) := by
  rcases utf8EncodeChar_cases char with ⟨ascii, single⟩ | ⟨large, all⟩
  · exact ⟨_, by rw [encoded_ascii ascii, List.getElem?_cons_zero], .inl ⟨rfl, ascii⟩⟩
  · have positive := char.utf8Size_pos
    rw [← String.length_utf8EncodeChar] at positive
    rcases List.exists_cons_of_length_pos positive with ⟨byte, more, shape⟩
    rw [encoded_cons, shape]
    rw [shape] at all
    exact ⟨byte, rfl, .inr ⟨all byte (List.mem_cons_self ..), large⟩⟩

theorem getElem?_encoded {char : Char} (ascii : char.toNat < 0x80) (chars : List Char) :
    (encoded chars)[0]? = some (UInt8.ofNat char.toNat) ↔ chars.head? = some char := by
  have size : (UInt8.ofNat char.toNat).toNat = char.toNat := toNat_ofNat_of_lt (by omega)
  cases chars with
  | nil => simp
  | cons first chars =>
      rcases getElem?_encoded_cons first chars with ⟨byte, found, ⟨rfl, small⟩ | ⟨large, other⟩⟩
      · rw [found, List.head?_cons, Option.some.injEq, Option.some.injEq]
        exact ⟨ofNat_toNat_inj small ascii, fun same => by rw [same]⟩
      · rw [found, List.head?_cons, Option.some.injEq, Option.some.injEq]
        constructor
        · rintro rfl
          omega
        · rintro rfl
          omega

def isDigitByte (byte : UInt8) : Bool :=
  0x30 ≤ byte.toNat && byte.toNat ≤ 0x39

theorem toNat_of_isDigit {char : Char} (digit : isDigit char = true) : char.toNat < 0x80 := by
  have bounds : (decide (0x30 ≤ char.toNat) && decide (char.toNat ≤ 0x39)) = true := digit
  simp only [Bool.and_eq_true, decide_eq_true_eq] at bounds
  omega

theorem utf8Size_of_isQuote {char : Char} (quotes : Scan.isQuote char = true) :
    char.utf8Size = 1 := by
  simp only [Scan.isQuote, Bool.or_eq_true, beq_iff_eq] at quotes
  rcases quotes with rfl | rfl <;> rfl

theorem any_isDigitByte (chars : List Char) :
    (encoded chars)[0]?.any isDigitByte = Scan.startsWithDigit chars := by
  cases chars with
  | nil => rfl
  | cons first chars =>
      have digit : isDigit first = (decide (0x30 ≤ first.toNat) && decide (first.toNat ≤ 0x39)) :=
        rfl
      have starts : Scan.startsWithDigit (first :: chars) = isDigit first := rfl
      rcases getElem?_encoded_cons first chars with ⟨byte, found, ⟨rfl, small⟩ | ⟨large, other⟩⟩
      · have size : (UInt8.ofNat first.toNat).toNat = first.toNat :=
          toNat_ofNat_of_lt (by omega)
        rw [found, starts, digit, Option.any_some, isDigitByte, size]
      · rw [found, starts, digit, Option.any_some, isDigitByte]
        have noByte : decide (byte.toNat ≤ 0x39) = false := decide_eq_false (by omega)
        have noChar : decide (first.toNat ≤ 0x39) = false := decide_eq_false (by omega)
        rw [noByte, noChar, Bool.and_false, Bool.and_false]

/-! Line terminators among characters. -/

/-- A terminator, and what stands after it: a carriage return takes the line feed after it. -/
inductive LineEnd : List Char → List Char → Prop
  | both (rest : List Char) : LineEnd ['\r', '\n'] rest
  | single {char : Char} {rest : List Char} (terminates : isLineTerminator char = true)
      (alone : char = '\r' → rest.head? ≠ some '\n') : LineEnd [char] rest

theorem LineEnd.byteLength_pos {terminator rest : List Char} (ends : LineEnd terminator rest) :
    0 < byteLength terminator := by
  cases ends with
  | both => decide
  | single => exact Nat.lt_of_lt_of_le (Char.utf8Size_pos _) (Nat.le_add_right _ _)

theorem LineEnd.of_isLineTerminator {char : Char} (terminates : isLineTerminator char = true)
    (rest : List Char) : ∃ more later, rest = more ++ later ∧ LineEnd (char :: more) later := by
  by_cases both : char = '\r' ∧ rest.head? = some '\n'
  · rcases both with ⟨rfl, isFeed⟩
    rcases List.head?_eq_some_iff.mp isFeed with ⟨later, rfl⟩
    exact ⟨['\n'], later, rfl, .both later⟩
  · exact ⟨[], rest, rfl, .single terminates fun isReturn isFeed => both ⟨isReturn, isFeed⟩⟩

namespace LineBreak

theorem begins_of_toNat {byte : UInt8}
    (plain : byte.toNat ≠ 0x0a ∧ byte.toNat ≠ 0x0d ∧ byte.toNat ≠ 0xe2) : begins byte = false := by
  simp only [begins, Bool.or_eq_false_iff, beq_eq_false_iff_ne]
  refine ⟨⟨?_, ?_⟩, ?_⟩ <;> rintro rfl <;> simp at plain

/-- Three bytes that begin no terminator. The first may be E2, so the other two have to tell. -/
theorem width?_three {value : Nat} (large : 0x7ff < value) (small : value ≤ 0xffff)
    (noSeparator : value ≠ 0x2028 ∧ value ≠ 0x2029) (more : List UInt8) :
    width? (UInt8.ofNat (value / 4096 % 16 + 224) :: UInt8.ofNat (value / 64 % 64 + 128) ::
      UInt8.ofNat (value % 64 + 128) :: more) = none := by
  have lead : (UInt8.ofNat (value / 4096 % 16 + 224)).toNat = value / 4096 % 16 + 224 :=
    toNat_ofNat_of_lt (by omega)
  have second : (UInt8.ofNat (value / 64 % 64 + 128)).toNat = value / 64 % 64 + 128 :=
    toNat_ofNat_of_lt (by omega)
  have third : (UInt8.ofNat (value % 64 + 128)).toNat = value % 64 + 128 :=
    toNat_ofNat_of_lt (by omega)
  have noReturn : UInt8.ofNat (value / 4096 % 16 + 224) ≠ 0x0d := by
    intro same
    rw [same] at lead
    simp at lead
  have noFeed : UInt8.ofNat (value / 4096 % 16 + 224) ≠ 0x0a := by
    intro same
    rw [same] at lead
    simp at lead
  rw [width?_cons, if_neg fun both => noReturn both.1,
    if_neg fun single => single.elim noFeed noReturn, if_neg]
  rintro ⟨isLead, isSecond, isThird⟩
  rw [isLead] at lead
  rw [Option.some.inj isSecond] at second
  have leadValue : 0xe2 = value / 4096 % 16 + 224 := lead
  have secondValue : 0x80 = value / 64 % 64 + 128 := second
  rcases isThird with isThird | isThird
  · rw [Option.some.inj isThird] at third
    have thirdValue : 0xa8 = value % 64 + 128 := third
    omega
  · rw [Option.some.inj isThird] at third
    have thirdValue : 0xa9 = value % 64 + 128 := third
    omega

theorem find?_char {char : Char} (sameLine : isLineTerminator char = false) (more : List UInt8) :
    find? (String.utf8EncodeChar char ++ more) = (find? more).map (Found.later char.utf8Size) := by
  have terminates := @isLineTerminator_iff char
  rw [sameLine] at terminates
  simp only [Bool.false_eq_true, false_iff, not_or] at terminates
  rw [← String.length_utf8EncodeChar]
  unfold Char.toNat at terminates
  fun_cases String.utf8EncodeChar char with
  | case1 value small =>
      refine find?_append (fun byte member => begins_of_toNat ?_) more
      rw [List.mem_singleton.mp member, UInt8.toNat_ofNat']
      omega
  | case2 value large small =>
      refine find?_append (fun byte member => begins_of_toNat ?_) more
      simp only [List.mem_cons, List.not_mem_nil, or_false] at member
      rcases member with rfl | rfl
      all_goals
        rw [UInt8.toNat_ofNat']
        omega
  | case3 value _ large small =>
      have first := width?_three (by omega) (by omega) ⟨terminates.2.2.1, terminates.2.2.2⟩ more
      have others : ∀ byte ∈ [UInt8.ofNat (value / 64 % 64 + 128), UInt8.ofNat (value % 64 + 128)],
          begins byte = false := by
        intro byte member
        simp only [List.mem_cons, List.not_mem_nil, or_false] at member
        rcases member with rfl | rfl
        all_goals
          apply begins_of_toNat
          rw [UInt8.toNat_ofNat']
          omega
      have later := find?_append others more
      calc
        _ = (find? ([UInt8.ofNat (value / 64 % 64 + 128), UInt8.ofNat (value % 64 + 128)] ++
            more)).map (Found.later 1) := find?_of_none first
        _ = (find? more).map (Found.later (1 + 2)) := by
          rw [later, map_later]
          rfl
  | case4 value _ _ large =>
      refine find?_append (fun byte member => begins_of_toNat ?_) more
      simp only [List.mem_cons, List.not_mem_nil, or_false] at member
      rcases member with rfl | rfl | rfl | rfl
      all_goals
        rw [UInt8.toNat_ofNat']
        omega

theorem find?_lineEnd {terminator rest : List Char} (ends : LineEnd terminator rest) :
    find? (encoded (terminator ++ rest)) = some ⟨0, byteLength terminator⟩ := by
  cases ends with
  | both => rfl
  | single terminates alone =>
      simp only [isLineTerminator, Bool.or_eq_true, beq_iff_eq] at terminates
      rcases terminates with ((rfl | rfl) | rfl) | rfl
      · rfl
      · have noFeed : (encoded rest)[0]? ≠ some 0x0a := fun isFeed =>
          alone rfl ((@getElem?_encoded '\n' (by decide) rest).mp isFeed)
        rw [List.singleton_append, encoded_ascii (by decide), find?, width?_cons,
          if_neg fun both => noFeed both.2, if_pos (.inr rfl)]
        rfl
      · rfl
      · rfl

theorem find?_encoded (chars : List Char) :
    (find? (encoded chars) = none ∧ ∀ char ∈ chars, isLineTerminator char = false) ∨
    ∃ line terminator rest, chars = line ++ (terminator ++ rest) ∧
      (∀ char ∈ line, isLineTerminator char = false) ∧ LineEnd terminator rest ∧
      find? (encoded chars) = some ⟨byteLength line, byteLength terminator⟩ := by
  induction chars with
  | nil => exact .inl ⟨rfl, by simp⟩
  | cons char chars induction =>
      cases terminates : isLineTerminator char with
      | true =>
          rcases LineEnd.of_isLineTerminator terminates chars with ⟨more, rest, rfl, ends⟩
          exact .inr ⟨[], char :: more, rest, rfl, by simp, ends, find?_lineEnd ends⟩
      | false =>
          rw [encoded_cons, find?_char terminates]
          rcases induction with ⟨none, oneLine⟩ |
            ⟨line, terminator, rest, rfl, oneLine, ends, found⟩
          · rw [none]
            exact .inl ⟨rfl, List.forall_mem_cons.mpr ⟨terminates, oneLine⟩⟩
          · rw [found]
            exact .inr ⟨char :: line, terminator, rest, rfl,
              List.forall_mem_cons.mpr ⟨terminates, oneLine⟩, ends, rfl⟩

/-- A search among the bytes of a text finds where its first line ends. -/
theorem search_encoded (chars : List Char) :
    (search (encoded chars) 0 = some none ∧ ∀ char ∈ chars, isLineTerminator char = false) ∨
    ∃ line terminator rest, chars = line ++ (terminator ++ rest) ∧
      (∀ char ∈ line, isLineTerminator char = false) ∧ LineEnd terminator rest ∧
      rest.length < chars.length ∧
      search (encoded chars) 0 = some (some ⟨byteLength line, byteLength terminator⟩) := by
  rw [search_eq_find?]
  rcases find?_encoded chars with ⟨none, oneLine⟩ |
    ⟨line, terminator, rest, rfl, oneLine, ends, found⟩
  · rw [none]
    exact .inl ⟨rfl, oneLine⟩
  · have positive : 0 < terminator.length := by cases ends <;> simp
    refine .inr ⟨line, terminator, rest, rfl, oneLine, ends, ?_, ?_⟩
    · simp only [List.length_append]
      omega
    · rw [found]

end LineBreak

/-! The end of a comment. -/

def occurrence? (needle : List UInt8) : List UInt8 → Option Nat
  | [] => if needle.isEmpty then some 0 else none
  | byte :: rest =>
      if needle.isPrefixOf (byte :: rest) then some 0 else (occurrence? needle rest).map (· + 1)

def commentEnd : List UInt8 := [0x2a, 0x2f]

/-- How many bytes the rest of a comment takes. A comment that is not closed takes them all. -/
def commentWidth (bytes : List UInt8) : Nat :=
  match occurrence? commentEnd bytes with
  | none => bytes.length
  | some index => index + 2

theorem occurrence?_append {plain : List UInt8} (noStar : ∀ byte ∈ plain, byte ≠ 0x2a)
    (more : List UInt8) :
    occurrence? commentEnd (plain ++ more) =
      (occurrence? commentEnd more).map (plain.length + ·) := by
  induction plain with
  | nil => simp
  | cons byte plain induction =>
      rw [List.forall_mem_cons] at noStar
      rw [List.cons_append, occurrence?, if_neg, induction noStar.2]
      · cases occurrence? commentEnd more with
        | none => rfl
        | some index => simp [Nat.add_right_comm]
      · simp [commentEnd, List.isPrefixOf, Ne.symm noStar.1]

theorem occurrence?_cons {char : Char} {chars : List Char}
    (goesOn : char = '*' → chars.head? ≠ some '/') :
    occurrence? commentEnd (encoded (char :: chars)) =
      (occurrence? commentEnd (encoded chars)).map (char.utf8Size + ·) := by
  by_cases star : char = '*'
  · subst star
    have noSlash : (encoded chars)[0]? ≠ some 0x2f := fun isSlash =>
      goesOn rfl ((@getElem?_encoded '/' (by decide) chars).mp isSlash)
    rw [encoded_ascii (by decide), occurrence?, if_neg]
    · congr 1
      funext index
      exact Nat.add_comm index 1
    · cases shape : encoded chars with
      | nil => simp [commentEnd, List.isPrefixOf]
      | cons byte bytes =>
          rw [shape, List.getElem?_cons_zero, ne_eq, Option.some.injEq] at noSlash
          simp [commentEnd, List.isPrefixOf, Ne.symm noSlash]
  · rw [encoded_cons, ← String.length_utf8EncodeChar]
    refine occurrence?_append (fun byte member isStar => ?_) _
    rcases utf8EncodeChar_cases char with ⟨ascii, single⟩ | ⟨_, all⟩
    · rw [single, List.mem_singleton, isStar] at member
      exact star (ofNat_toNat_inj ascii (by decide) member.symm)
    · have large := all byte member
      rw [isStar] at large
      simp at large

theorem occurrence?_encoded (chars : List Char) :
    (occurrence? commentEnd (encoded chars) = none ∧ ¬['*', '/'] <:+: chars) ∨
    ∃ body rest, chars = body ++ '*' :: '/' :: rest ∧ ¬['*', '/'] <:+: body ++ ['*'] ∧
      occurrence? commentEnd (encoded chars) = some (byteLength body) := by
  induction chars with
  | nil => exact .inl ⟨rfl, by simp⟩
  | cons char chars induction =>
      by_cases ends : char = '*' ∧ chars.head? = some '/'
      · rcases ends with ⟨rfl, isSlash⟩
        rcases List.head?_eq_some_iff.mp isSlash with ⟨rest, rfl⟩
        exact .inr ⟨[], rest, rfl, by decide, rfl⟩
      have goesOn : char = '*' → chars.head? ≠ some '/' :=
        fun isStar isSlash => ends ⟨isStar, isSlash⟩
      rw [occurrence?_cons goesOn]
      rcases induction with ⟨none, inside⟩ | ⟨body, rest, rfl, inside, found⟩
      · rw [none]
        refine .inl ⟨rfl, Trivia.not_infix_cons inside fun later shape => ?_⟩
        cases shape
        exact goesOn rfl rfl
      · rw [found]
        refine .inr ⟨char :: body, rest, rfl, ?_, rfl⟩
        refine Trivia.not_infix_cons inside fun later shape => ?_
        cases body with
        | nil => cases shape
        | cons first body =>
            cases shape
            exact goesOn rfl rfl

end TypedScript
