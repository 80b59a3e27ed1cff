import Giro.Proofs.Text.Surrogate
import Giro.Text.Encoding

/-!
The bytes of a text that starts with two ASCII characters other than the null character. They show
no other encoding than UTF-8, and there is no byte order mark, so the codes are those of the text.
-/

namespace Giro.Text

/-- A character of one byte, which is not zero. -/
def IsPlain (c : Char) : Prop :=
  0 < c.toNat ∧ c.toNat < 0x80

instance (c : Char) : Decidable (IsPlain c) :=
  inferInstanceAs (Decidable (_ ∧ _))

theorem IsPlain.utf8 {c : Char} (h : IsPlain c) :
    ∃ byte, String.utf8EncodeChar c = [byte] ∧ byte ≠ 0 := by
  obtain ⟨positive, small⟩ := h
  have short : c.toNat ≤ 0x7f := by omega
  refine ⟨UInt8.ofNat c.toNat, by simp [String.utf8EncodeChar, short], fun zero => ?_⟩
  have code : (UInt8.ofNat c.toNat).toNat = c.toNat := by
    apply UInt8.toNat_ofNat_of_lt'
    rw [UInt8.size]
    omega
  rw [zero] at code
  exact absurd code (by simpa using Nat.ne_of_lt positive)

theorem ofBytes_cons_cons {a b : UInt8} (first : a ≠ 0) (second : b ≠ 0) (rest : List UInt8) :
    Encoding.ofBytes (a :: b :: rest) = .utf8 := by
  match rest with
  | [] | [_] | _ :: _ :: _ => simp [Encoding.ofBytes, first, second]

theorem codes?_of_isPlain {text : String} {front back : List Char}
    (eq : text.toList = front ++ back) (long : 2 ≤ front.length)
    (plain : ∀ c ∈ front, IsPlain c) : codes? text = some (text.toList.map Char.toNat) := by
  match front, long with
  | c :: d :: more, _ =>
      have first := plain c (by simp)
      obtain ⟨a, encodes, nonzero⟩ := first.utf8
      obtain ⟨b, encodes', nonzero'⟩ := (plain d (by simp)).utf8
      have bytes : text.toUTF8.data.toList =
          a :: b :: (more ++ back).flatMap String.utf8EncodeChar := by
        rw [← String.ofList_toList (s := text), eq]
        simp [String.toUTF8, List.utf8Encode, encodes, encodes']
      have unmarked : withoutMark (text.toList.map Char.toNat) = text.toList.map Char.toNat := by
        have other : c.toNat ≠ 0xfeff := by
          have := first.2
          omega
        rw [eq, List.cons_append, List.map_cons]
        simp only [withoutMark]
        split
        · next mark => exact absurd (List.cons.inj mark).1 other
        · rfl
      simp only [codes?, bytes, ofBytes_cons_cons nonzero nonzero', unmarked]

theorem flatMap_ofCode_map_toNat (marks : Nat) (text : List Char) :
    (text.map Char.toNat).flatMap (ofCode marks) = text := by
  induction text with
  | nil => rfl
  | cons c rest ih => rw [List.map_cons, List.flatMap_cons, ofCode_toNat, ih, List.singleton_append]

end Giro.Text
