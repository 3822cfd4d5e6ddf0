import TypedScript.Pattern.Instructions
import TypedScript.Search
import TypedScript.Text.Position

/-!
Patterns as regular expressions of a search. What they match are whole characters of the text, since
every thread passes the text character by character.
-/

namespace TypedScript

namespace Thread

/-- The thread began after some characters of a text and has passed the ones that follow. -/
def PassesThrough (chars : List Char) (thread : Thread) : Prop :=
  ∃ before passed, chars = before ++ (passed ++ thread.place.rest) ∧
    thread.start = byteLength before ∧
    thread.place.offset = byteLength before + byteLength passed

variable {chars : List Char}

theorem passesThrough_step {thread other : Thread} {instruction : Instruction}
    (passes : thread.PassesThrough chars) (stepped : other ∈ thread.step instruction) :
    other.PassesThrough chars := by
  obtain ⟨before, passed, whole, start, offset⟩ := passes
  have moved (target : Int) : (thread.move target).PassesThrough chars :=
    ⟨before, passed, whole, start, offset⟩
  cases instruction with
  | consume set =>
      simp only [step] at stepped
      split at stepped
      · cases stepped
      · next char rest shape =>
          split at stepped
          · rw [List.mem_singleton.mp stepped]
            refine ⟨before, passed ++ [char], ?_, start, ?_⟩
            · simp [whole, shape, Place.after]
            · simp [Place.after, offset, Nat.add_assoc]
          · cases stepped
  | check condition =>
      simp only [step] at stepped
      split at stepped
      · rw [List.mem_singleton.mp stepped]
        exact moved 1
      · cases stepped
  | jump target =>
      rw [List.mem_singleton.mp stepped]
      exact moved target
  | fork first second =>
      simp only [step, List.mem_cons, List.not_mem_nil, or_false] at stepped
      rcases stepped with rfl | rfl
      · exact moved first
      · exact moved second

theorem passesThrough_starts {rest : List Char} {place : Place} {thread : Thread}
    (before : List Char) (whole : chars = before ++ rest) (remaining : place.rest = rest)
    (offset : place.offset = byteLength before) (started : thread ∈ starts place rest) :
    thread.PassesThrough chars := by
  induction rest generalizing before place with
  | nil =>
      rw [List.mem_singleton.mp started]
      exact ⟨before, [], by simp [whole, remaining], offset, by simp [offset]⟩
  | cons char rest induction =>
      rcases List.mem_cons.mp started with rfl | later
      · exact ⟨before, [], by simp [whole, remaining], offset, by simp [offset]⟩
      · refine induction (before ++ [char]) (by simp [whole]) rfl ?_ later
        simp [Place.after, offset]

/-- What threads come to is a piece of the text that they pass through. -/
theorem follow_inText {instructions : Array Instruction} {visited : Std.HashSet (Nat × Nat)}
    {fuel : Nat} {threads : List Thread} {hit : Span}
    (passing : ∀ thread ∈ threads, thread.PassesThrough chars)
    (found : follow instructions visited fuel threads = some hit) :
    ∃ before inside after, chars = before ++ (inside ++ after) ∧
      hit = ⟨byteLength before, byteLength before + byteLength inside⟩ := by
  induction fuel generalizing visited threads with
  | zero => cases found
  | succ fuel induction =>
      cases threads with
      | nil => cases found
      | cons thread others =>
          have first := passing thread List.mem_cons_self
          have rest := fun other member => passing other (List.mem_cons_of_mem thread member)
          unfold follow at found
          split at found
          · obtain ⟨before, passed, whole, start, offset⟩ := first
            cases found
            exact ⟨before, passed, thread.place.rest, whole, by rw [start, offset]⟩
          · next instruction _ =>
              dsimp only at found
              split at found
              · exact induction rest found
              · refine induction (fun other member => ?_) found
                rcases List.mem_append.mp member with stepped | waiting
                · exact passesThrough_step first stepped
                · exact rest other waiting

end Thread

theorem Matcher.find?_inText {matcher : Matcher} {text : String} {hit : Span}
    (found : matcher.find? text = some hit) :
    ∃ before inside after : String, text = before ++ inside ++ after ∧
      hit = ⟨before.utf8ByteSize, (before ++ inside).utf8ByteSize⟩ := by
  have passing : ∀ thread ∈ Thread.starts ⟨0, none, text.toList⟩ text.toList,
      thread.PassesThrough text.toList := fun thread started =>
    Thread.passesThrough_starts [] rfl rfl rfl started
  obtain ⟨before, inside, after, whole, rfl⟩ := Thread.follow_inText passing found
  refine ⟨.ofList before, .ofList inside, .ofList after, ?_, ?_⟩
  · rw [← String.ofList_append, ← String.ofList_append, List.append_assoc, ← whole,
      String.ofList_toList]
  · simp only [← byteLength_toList, String.toList_append, String.toList_ofList, byteLength_append]

namespace Pattern

def regex (pattern : Pattern) : Regex where
  find? := (Matcher.ofPattern pattern).find?
  inText := Matcher.find?_inText

instance : Coe Pattern Regex := ⟨Pattern.regex⟩

end Pattern

end TypedScript
