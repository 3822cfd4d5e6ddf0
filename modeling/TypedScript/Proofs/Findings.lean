import Mathlib.Data.List.Forall2
import TypedScript.Proofs.Tiling
import TypedScript.Search

/-!
What a search finds in a program, and how it is listed. A search finds the functions at the top of
the program, of the form that is wanted, whose names have a match. The listing holds a line for
each of them, in which the name stands in three parts: what comes before the match, the match, and
what comes after it.
-/

namespace TypedScript

inductive Statement.IsFunction : Statement → Identifier → FunctionForm → Prop
  | function {declaration} : IsFunction (.function declaration) declaration.name .function
  | binding {declaration span parameters result body} :
      declaration.initializer = some (.arrow span parameters result body) →
      IsFunction (.binding declaration) declaration.name .arrow
  | exporting {span declaration name form} :
      IsFunction declaration name form → IsFunction (.exporting span declaration) name form

theorem Statement.function?_eq_some {statement : Statement} {name : Identifier}
    {form : FunctionForm} :
    statement.function? = some (name, form) ↔ statement.IsFunction name form := by
  constructor
  · intro declared
    induction statement using Statement.function?.induct with
    | case1 declaration => cases declared; exact .function
    | case2 declaration span parameters result body initial =>
        simp only [function?, initial, Option.some.injEq, Prod.mk.injEq] at declared
        obtain ⟨rfl, rfl⟩ := declared
        exact .binding initial
    | case3 declaration others =>
        unfold function? at declared
        split at declared
        · exact absurd ‹_› (others _ _ _ _)
        · cases declared
    | case4 span declaration induction =>
        exact .exporting (induction (by rwa [function?] at declared))
    | case5 statement noFunction noBinding noExport =>
        unfold function? at declared
        split at declared
        · exact absurd rfl (noFunction _)
        · exact absurd rfl (noBinding _)
        · exact absurd rfl (noExport _ _)
        · cases declared
  · intro declares
    induction declares with
    | function => rfl
    | binding initial => simp [function?, initial]
    | exporting _ induction => rwa [function?]

inductive Hits (source : String) (regex : Regex) (form : Option FunctionForm) :
    List Statement → List FoundFunction → Prop
  | nil : Hits source regex form [] []
  | hit {statement rest others} {name : Identifier} {found hit} :
      statement.IsFunction name found → (∀ wanted, form = some wanted → found = wanted) →
      regex.find? name.text = some hit → Hits source regex form rest others →
      Hits source regex form (statement :: rest)
        (⟨name.text, found, (LineMap.ofText source).position source name.span.start, hit⟩ :: others)
  | miss {statement rest others} :
      (∀ name found, statement.IsFunction name found →
        (∀ wanted, form = some wanted → found = wanted) → regex.find? name.text = none) →
      Hits source regex form rest others → Hits source regex form (statement :: rest) others

theorem Program.hits_findFunctions (source : String) (regex : Regex)
    (form : Option FunctionForm) (program : Program) :
    Hits source regex form program.statements (program.findFunctions source regex form) := by
  unfold findFunctions
  induction program.statements with
  | nil => exact .nil
  | cons statement rest induction =>
      dsimp only at induction ⊢
      rw [List.filterMap_cons]
      split
      · next noFunction =>
          refine .miss (fun name found declares => ?_) induction
          rw [Statement.function?_eq_some.mpr declares] at noFunction
          cases noFunction
      · next function declared =>
          obtain ⟨name, found⟩ := function
          have declares := Statement.function?_eq_some.mp declared
          have only (other : Identifier) (otherForm : FunctionForm)
              (again : statement.IsFunction other otherForm) :
              other = name ∧ otherForm = found := by
            have same := declared.symm.trans (Statement.function?_eq_some.mpr again)
            cases same
            exact ⟨rfl, rfl⟩
          have wanted_iff : form.all (· == found) = true ↔
              ∀ wanted, form = some wanted → found = wanted := by
            cases form with
            | none => simp
            | some wanted => simp [eq_comm (a := wanted)]
          rw [List.filter_cons]
          split
          · next wanted =>
              rw [List.filterMap_cons]
              cases matched : regex.find? name.text with
              | none =>
                  refine .miss (fun other otherForm again _ => ?_) (by simpa using induction)
                  rw [(only other otherForm again).1, matched]
              | some hit =>
                  simp only [Option.map_some]
                  exact .hit declares (wanted_iff.mp wanted) matched induction
          · next unwanted =>
              refine .miss (fun other otherForm again wanted => ?_) induction
              obtain ⟨rfl, rfl⟩ := only other otherForm again
              exact absurd (wanted_iff.mpr wanted) unwanted

/-- Something is found exactly if a statement declares a function that the search is for. -/
theorem Hits.ne_nil_iff {source : String} {regex : Regex} {form : Option FunctionForm}
    {statements : List Statement} {found : List FoundFunction}
    (hits : Hits source regex form statements found) :
    found ≠ [] ↔ ∃ statement ∈ statements, ∃ name declared hit,
      statement.IsFunction name declared ∧ (∀ wanted, form = some wanted → declared = wanted) ∧
        regex.find? name.text = some hit := by
  induction hits with
  | nil => simp
  | hit declares wanted matched rest induction =>
      exact iff_of_true (List.cons_ne_nil _ _)
        ⟨_, List.mem_cons_self, _, _, _, declares, wanted, matched⟩
  | miss nothing rest induction =>
      rw [induction]
      constructor
      · rintro ⟨statement, member, found⟩
        exact ⟨statement, List.mem_cons_of_mem _ member, found⟩
      · rintro ⟨statement, member, name, declared, hit, declares, wanted, matched⟩
        rcases List.mem_cons.mp member with rfl | member
        · rw [nothing name declared declares wanted] at matched
          cases matched
        · exact ⟨statement, member, name, declared, hit, declares, wanted, matched⟩

namespace FoundFunction

def HitInName (found : FoundFunction) : Prop :=
  ∃ before inside after : String, found.name = before ++ inside ++ after ∧
    found.hit = ⟨before.utf8ByteSize, (before ++ inside).utf8ByteSize⟩

def ReadsAs (colored : Bool) (found : FoundFunction) (line : String) : Prop :=
  ∃ before inside after word : String,
    found.name = before ++ inside ++ after ∧
    found.hit = ⟨before.utf8ByteSize, (before ++ inside).utf8ByteSize⟩ ∧
    (found.form = .function ∧ word = "function" ∨ found.form = .arrow ∧ word = "arrow") ∧
    line = s!"  {word} [{found.position.line}:{found.position.column}]: {before}" ++
      (if colored then "\x1b[93m" ++ inside ++ "\x1b[0m" else inside) ++ after ++ "\n"

inductive Listing (colored : Bool) (name : String) : List FoundFunction → String → Prop
  | none : Listing colored name [] ""
  | some {found lines} :
      found ≠ [] → List.Forall₂ (ReadsAs colored) found lines →
      Listing colored name found (name ++ ":\n" ++ String.join lines)

theorem slice_append {found : FoundFunction} (before inside after : String)
    (whole : found.name = before ++ inside ++ after) :
    found.slice ⟨before.utf8ByteSize, (before ++ inside).utf8ByteSize⟩ = inside := by
  have piece := Span.slice?_append before.toList inside.toList after.toList
    (show found.name.toList = _ by simp [whole])
  rw [byteLength_toList, byteLength_toList, String.ofList_toList] at piece
  rw [slice, String.utf8ByteSize_append, piece, Option.getD_some]

theorem readsAs_line (colored : Bool) {found : FoundFunction} (inName : found.HitInName) :
    found.ReadsAs colored (found.line colored) := by
  obtain ⟨before, inside, after, whole, hit⟩ := inName
  have first : found.slice ⟨0, found.hit.start⟩ = before := by
    rw [hit]
    exact slice_append "" before (inside ++ after)
      (by rw [whole, String.empty_append, String.append_assoc])
  have last : found.slice ⟨found.hit.stop, found.name.utf8ByteSize⟩ = after := by
    rw [hit, whole]
    exact slice_append (before ++ inside) after "" (by rw [whole, String.append_empty])
  have middle : found.slice found.hit = inside := by
    rw [hit, slice_append before inside after whole]
  refine ⟨before, inside, after, found.form.name, whole, hit, ?_, ?_⟩
  · cases found.form
    · exact .inl ⟨rfl, rfl⟩
    · exact .inr ⟨rfl, rfl⟩
  · simp only [line, markedName, first, middle, last, yellow, Position.text]
    cases colored <;> simp [String.append_assoc, toString]

theorem listing_of_hits (colored : Bool) (name : String) {found : List FoundFunction}
    (inNames : ∀ each ∈ found, each.HitInName) :
    Listing colored name found (listing colored name found) := by
  unfold listing
  cases found with
  | nil => exact .none
  | cons first rest =>
      refine .some (List.cons_ne_nil _ _) ?_
      rw [List.forall₂_map_right_iff, List.forall₂_same]
      exact fun each member => readsAs_line colored (inNames each member)

end FoundFunction

theorem Hits.hitInName {source : String} {regex : Regex} {form : Option FunctionForm}
    {statements : List Statement} {found : List FoundFunction}
    (hits : Hits source regex form statements found) : ∀ each ∈ found, each.HitInName := by
  induction hits with
  | nil => simp
  | hit _ _ matched _ induction =>
      exact List.forall_mem_cons.mpr ⟨regex.inText matched, induction⟩
  | miss _ _ induction => exact induction

end TypedScript
