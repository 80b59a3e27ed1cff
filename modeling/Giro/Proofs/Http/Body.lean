import Mathlib.Data.List.TakeWhile
import Giro.Proofs.Http.Agreement
import Giro.Proofs.Json.Reading
import Giro.Proofs.Text.Encoding

/-!
The text of an object as the body of a message. It begins with characters of ASCII, as far as the
brace and the mark after it, and so its bytes are read as the text that they are.
-/

namespace Giro

namespace Json

namespace Reader

theorem exists_quote_of_members {rules : ReadRules} {fuel opened : Nat} {text rest : List Char}
    {members : List (String × Json)}
    (h : Reader.members rules fuel opened text = .ok (members, rest)) :
    ∃ more, text = '"' :: more := by
  cases fuel with
  | zero => contradiction
  | succ fuel =>
      simp only [Reader.members] at h
      split at h
      · exact ⟨_, rfl⟩
      · contradiction

theorem exists_brace_of_value {rules : ReadRules} {fuel opened : Nat} {text rest : List Char}
    {members : List (String × Json)}
    (h : Reader.value rules fuel opened text = .ok (.obj members, rest)) :
    ∃ inside mark more, text = '\x7b' :: inside ∧ skip inside = mark :: more ∧
      mark ∈ ['"', '\x7d'] := by
  -- An object is at least one level deep, so it is neither a word nor a number.
  have nested : (Json.obj members).depth ≠ 0 := by simp [depth]
  cases fuel with
  | zero => contradiction
  | succ fuel =>
      simp only [Reader.value] at h
      cases word : word? text with
      | some step =>
          rw [word] at h
          obtain rfl := Except.ok.inj h
          exact absurd (depth_of_word? word) nested
      | none =>
          simp only [word] at h
          split at h
          · obtain ⟨_, -, other⟩ := exists_of_map h
            contradiction
          · split at h
            · contradiction
            · split at h
              · simp at h
              · obtain ⟨_, -, other⟩ := exists_of_map h
                contradiction
          · split at h
            · contradiction
            · split at h
              · next closed => exact ⟨_, _, _, rfl, closed, by simp⟩
              · next =>
                obtain ⟨_, taken, -⟩ := exists_of_map h
                obtain ⟨more, eq⟩ := exists_quote_of_members taken
                exact ⟨_, _, more, rfl, eq, by simp⟩
          · exact absurd (depth_of_number h) nested
          · exact absurd (depth_of_number h) nested

theorem takeWhile_append_skip (text : List Char) : text.takeWhile isSpace ++ skip text = text :=
  List.takeWhile_append_dropWhile

end Reader

theorem isPlain_of_isSpace {c : Char} (h : Reader.isSpace c = true) : Text.IsPlain c := by
  have all : gapChars.all (Text.IsPlain ·) = true := by decide
  simpa using List.all_eq_true.mp all c (Reader.isSpace_iff.mp h)

theorem isPlain_of_mem_takeWhile {text : List Char} :
    ∀ c ∈ text.takeWhile Reader.isSpace, Text.IsPlain c :=
  fun _ member => isPlain_of_isSpace (List.mem_takeWhile_imp member)

/-- The text of an object begins with two or more characters of ASCII. -/
theorem exists_front_of_read_obj {rules : ReadRules} {text : String}
    {members : List (String × Json)} (h : read rules text = .ok (.obj members)) :
    ∃ front back, text.toList = front ++ back ∧ 2 ≤ front.length ∧
      ∀ c ∈ front, Text.IsPlain c := by
  simp only [read] at h
  split at h
  · contradiction
  · next value rest taken =>
    split at h
    · obtain rfl := Except.ok.inj h
      obtain ⟨inside, mark, more, opens, closes, listed⟩ := Reader.exists_brace_of_value taken
      have outer := Reader.takeWhile_append_skip text.toList
      have inner := Reader.takeWhile_append_skip inside
      rw [opens] at outer
      rw [closes] at inner
      refine ⟨text.toList.takeWhile Reader.isSpace ++
        '\x7b' :: (inside.takeWhile Reader.isSpace ++ [mark]), more, ?_, ?_, ?_⟩
      · rw [List.append_assoc, List.cons_append, List.append_assoc, List.singleton_append, inner,
          outer]
      · simp only [List.length_append, List.length_cons, List.length_nil]
        omega
      · have plain : Text.IsPlain mark := by
          obtain rfl | rfl := List.mem_pair.mp listed <;> decide
        rw [List.forall_mem_append, List.forall_mem_cons, List.forall_mem_append,
          List.forall_mem_singleton]
        exact ⟨isPlain_of_mem_takeWhile, by decide, isPlain_of_mem_takeWhile, plain⟩
    · contradiction

end Json

namespace Http

/-- A text that is read as an object is read so as a body too. -/
theorem parses_of_read {text : String} {members : List (String × Json)}
    (h : Json.read ⟨some maxDigits, none, Text.marksOver text.toList⟩ text = .ok (.obj members)) :
    Parses text (.obj members) (Text.marksOver text.toList) := by
  obtain ⟨front, back, eq, long, plain⟩ := Json.exists_front_of_read_obj h
  refine ⟨text.toList.map Char.toNat, Text.codes?_of_isPlain eq long plain, ?_, ?_⟩
  · rw [List.map_map, Function.comp_def]
    simp
  · rw [Text.flatMap_ofCode_map_toNat, String.ofList_toList]
    exact h

end Http
end Giro
