import Giro.Proofs.Json.Depth
import Giro.Proofs.Text.Surrogate

/-!
Surrogates in the texts of a JSON text. What is read of a text is kept from codes, and these have no
more marks than the JSON text holds or writes by their code. So a text is told to be whole just when
no surrogate without its partner was read.
-/

namespace Giro

namespace Text

theorem escapedCodes_cons_sublist (c : Char) (rest : List Char) :
    (escapedCodes rest).Sublist (escapedCodes (c :: rest)) := by
  generalize same : c :: rest = text
  fun_cases escapedCodes text with
  | case1 more code after read =>
      obtain ⟨rfl, rfl⟩ := List.cons.inj same
      simp [escapedCodes]
  | case2 more none =>
      obtain ⟨rfl, rfl⟩ := List.cons.inj same
      simp [escapedCodes]
  | case3 first more other =>
      obtain ⟨rfl, rfl⟩ := List.cons.inj same
      exact List.Sublist.refl _
  | case4 => contradiction

theorem marksOver_le_of_suffix {rest text : List Char} (h : rest <:+ text) :
    marksOver rest ≤ marksOver text := by
  obtain ⟨front, rfl⟩ := h
  induction front with
  | nil => exact Nat.le_refl _
  | cons c front ih =>
      have held := (List.sublist_cons_self c (front ++ rest)).count_le mark
      have written := (escapedCodes_cons_sublist c (front ++ rest)).count_le mark.toNat
      simp only [List.cons_append, marksOver] at ih ⊢
      omega

theorem suffix_of_hexCode? {text rest : List Char} {code : Nat}
    (h : hexCode? text = some (code, rest)) : rest <:+ text := by
  unfold hexCode? at h
  split at h
  · next a b c d after =>
    obtain ⟨_, -, _, -, _, -, _, -, eq⟩ := by
      simpa only [Option.bind_eq_bind, Option.bind_eq_some_iff] using h
    obtain ⟨-, rfl⟩ := Prod.mk.inj (Option.some.inj eq)
    exact ⟨[a, b, c, d], rfl⟩
  · contradiction

/-- A mark that is written by its code is counted. -/
theorem marksOver_escape {text rest : List Char} {code : Nat}
    (h : hexCode? text = some (code, rest)) :
    marksOver ('\\' :: 'u' :: text) = [code].count mark.toNat + marksOver text := by
  have written : escapedCodes ('\\' :: 'u' :: text) = [code] ++ escapedCodes text := by
    simp [escapedCodes, h]
  have held : ('\\' :: 'u' :: text).count mark = text.count mark := by
    rw [List.count_cons_of_ne (by decide), List.count_cons_of_ne (by decide)]
  rw [marksOver, marksOver, written, held, List.count_append]
  omega

end Text

namespace Json.Reader
open Text

theorem exists_code_of_codeChars? {marks : Nat} {text written rest : List Char}
    (h : codeChars? marks text = some (written, rest)) :
    ∃ code, written = ofCode marks code ∧
      [code].count mark.toNat + marksOver rest ≤ marksOver ('\\' :: 'u' :: text) := by
  simp only [codeChars?, Option.bind_eq_bind, Option.bind_eq_some_iff] at h
  obtain ⟨⟨code, after⟩, hex, taken⟩ := h
  have behind := marksOver_le_of_suffix (suffix_of_hexCode? hex)
  have alone (same : some (ofCode marks code, after) = some (written, rest)) :
      ∃ code, written = ofCode marks code ∧
        [code].count mark.toNat + marksOver rest ≤ marksOver ('\\' :: 'u' :: text) := by
    obtain ⟨rfl, rfl⟩ := Prod.mk.inj (Option.some.inj same)
    refine ⟨code, rfl, ?_⟩
    rw [marksOver_escape hex]
    omega
  split at taken
  · next second same =>
    obtain rfl : after = '\\' :: 'u' :: second := same
    split at taken
    · obtain ⟨⟨low, later⟩, hexLow, taken⟩ := Option.bind_eq_some_iff.mp taken
      split at taken
      · obtain ⟨rfl, last⟩ := Prod.mk.inj (Option.some.inj taken)
        obtain rfl : later = rest := last
        have inSecond := marksOver_le_of_suffix (suffix_of_hexCode? hexLow)
        have inAfter : marksOver second ≤ marksOver ('\\' :: 'u' :: second) :=
          marksOver_le_of_suffix ⟨['\\', 'u'], rfl⟩
        have other : mark.toNat ∉ [pairCode code low] := by
          have below : mark.toNat < 0x10000 := by decide
          rw [List.mem_singleton]
          exact Nat.ne_of_lt (Nat.lt_of_lt_of_le below (le_pairCode code low))
        refine ⟨pairCode code low, rfl, ?_⟩
        rw [marksOver_escape hex, List.count_eq_zero_of_not_mem other]
        omega
      · exact alone taken
    · exact alone taken
  · exact alone taken

theorem count_mark_of_escaped? {letter c : Char} (h : escaped? letter = some c) :
    [c.toNat].count mark.toNat = 0 := by
  unfold escaped? at h
  split at h <;> first | contradiction | (obtain rfl := Option.some.inj h; decide)

theorem marksOver_cons (c : Char) (rest : List Char) :
    [c.toNat].count mark.toNat + marksOver rest ≤ marksOver (c :: rest) := by
  have written := (escapedCodes_cons_sublist c rest).count_le mark.toNat
  have same_iff : c.toNat = mark.toNat ↔ c = mark := Char.toNat_inj
  have held : [c.toNat].count mark.toNat = [c].count mark := by
    simp [List.count_singleton, same_iff]
  have whole : c :: rest = [c] ++ rest := rfl
  have together : (c :: rest).count mark = [c].count mark + rest.count mark := by
    rw [whole, List.count_append]
  rw [held, marksOver, marksOver, together]
  omega

/-- Characters that are kept from codes, with marks among the codes only where what was taken from
the text to the rest has them. -/
def Keeps (marks : Nat) (text cs rest : List Char) : Prop :=
  ∃ codes : List Nat, cs = codes.flatMap (ofCode marks) ∧
    codes.count mark.toNat + marksOver rest ≤ marksOver text

theorem Keeps.cons {marks code : Nat} {text after cs rest written : List Char}
    (h : Keeps marks after cs rest) (kept : ofCode marks code = written)
    (first : [code].count mark.toNat + marksOver after ≤ marksOver text) :
    Keeps marks text (written ++ cs) rest := by
  obtain ⟨codes, rfl, few⟩ := h
  have whole : code :: codes = [code] ++ codes := rfl
  refine ⟨code :: codes, by rw [List.flatMap_cons, kept], ?_⟩
  rw [whole, List.count_append]
  omega

theorem keeps_of_characters {marks fuel : Nat} {text cs rest : List Char}
    (h : characters marks fuel text = .ok (cs, rest)) : Keeps marks text cs rest := by
  induction fuel generalizing text cs with
  | zero => contradiction
  | succ fuel ih =>
      simp only [characters] at h
      split at h
      · obtain ⟨rfl, rfl⟩ := Prod.mk.inj (Except.ok.inj h)
        exact ⟨[], rfl, by simpa using marksOver_le_of_suffix (List.suffix_cons '"' _)⟩
      · split at h
        · contradiction
        · next read =>
          obtain ⟨more, others, rfl⟩ := exists_of_map h
          obtain ⟨code, kept, first⟩ := exists_code_of_codeChars? read
          exact (ih others).cons kept.symm first
      · next letter after _ =>
        split at h
        · contradiction
        · next c escape =>
          obtain ⟨more, others, rfl⟩ := exists_of_map h
          have other := count_mark_of_escaped? escape
          have inText : marksOver after ≤ marksOver ('\\' :: letter :: after) :=
            marksOver_le_of_suffix ⟨['\\', letter], rfl⟩
          exact (ih others).cons (ofCode_toNat marks c) (by omega)
      · next c after _ _ _ =>
        split at h
        · contradiction
        · obtain ⟨more, others, rfl⟩ := exists_of_map h
          exact (ih others).cons (ofCode_toNat marks c) (marksOver_cons c after)
      · contradiction

/-- A text that stands in a JSON text, read with more marks than there are, is whole just when there
is no surrogate without its partner among its codes. -/
theorem isWhole_of_string {marks : Nat} {text rest : List Char} {s : String}
    (h : string marks text = .ok (s, rest)) (enough : marksOver text ≤ marks) :
    ∃ codes : List Nat, s = .ofList (codes.flatMap (ofCode marks)) ∧
      (isWhole marks s = true ↔ ∀ code ∈ codes, isSurrogate code = false) := by
  obtain ⟨cs, read, rfl⟩ := exists_of_map h
  obtain ⟨codes, rfl, few⟩ := keeps_of_characters read
  have positive : 0 < marksOver rest := Nat.succ_pos _
  exact ⟨codes, rfl, isWhole_ofCodes_iff (by omega)⟩

end Json.Reader
end Giro
