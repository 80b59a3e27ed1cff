import Mathlib.Tactic.SplitIfs
import Giro.Json.Printer
import Giro.Proofs.Json.Reading

/-!
What is printed is a JSON text of the value, and so it is read as the value again. Doubles are left
out: the fewest digits of a finite one are another matter, and the others have no text.
-/

namespace Giro.Json

theorem hexCode?_hexCode : ∀ n < 0x20, Text.hexCode? (Text.hexCode 4 n) = some (n, []) := by
  decide

theorem spellsChar_escape (c : Char) : SpellsChar (escape c) c := by
  unfold escape
  split_ifs with quote backslash h h h h h control
  · subst quote
    exact .letter (by decide)
  · subst backslash
    exact .letter (by decide)
  iterate 5 exact h ▸ .letter (by decide)
  · exact .code (hexCode?_hexCode c.toNat control)
  · exact .itself quote backslash (Nat.le_of_not_lt control)

theorem spellsChars_escape (cs : List Char) : SpellsChars (cs.flatMap escape) cs := by
  induction cs with
  | nil => exact .nil
  | cons c rest ih =>
      rw [List.flatMap_cons]
      exact .cons (spellsChar_escape c) ih

theorem spellsString_quote (s : String) : SpellsString (quote s) s :=
  .quoted (spellsChars_escape s.toList)

theorem isWhole_renderNat (n : Nat) : IsWhole (renderNat n) := by
  refine ⟨⟨Nat.toDigits_ne_nil, fun _ => Text.isDigit_of_mem_toDigits⟩, fun zero => ?_⟩
  by_cases positive : 0 < n
  · obtain ⟨rest, eq⟩ := List.head?_eq_some_iff.mp zero
    exact absurd eq (Text.toDigits_ne_cons_zero positive rest)
  · obtain rfl : n = 0 := by omega
    rfl

theorem spells_renderInt (n : Int) : Spells (renderInt n) (.value (.int n)) := by
  cases n with
  | ofNat n =>
      have h := @Spells.int false _ (isWhole_renderNat n)
      simpa [renderInt, minusSign, renderNat, Nat.ofDigitChars_ten_toDigits] using h
  | negSucc n =>
      have h := @Spells.int true _ (isWhole_renderNat (n + 1))
      simpa [renderInt, minusSign, renderNat, Nat.ofDigitChars_ten_toDigits, Int.negSucc_eq] using h

theorem isGap_nil : IsGap [] := nofun

theorem isGap_space : IsGap [' '] := by
  simp [IsGap, gapChars]

theorem isGap_newline (depth : Nat) : IsGap (newline depth) := by
  simp [IsGap, newline, gapChars]

/-- There is no double among these values. -/
def NoFloat (values : List Json) : Prop :=
  ∀ x, .float x ∉ values

theorem noFloat_append {values others : List Json} :
    NoFloat (values ++ others) ↔ NoFloat values ∧ NoFloat others := by
  simp [NoFloat, forall_and]

mutual

theorem spells_render : (v : Json) → NoFloat v.leaves → (depth : Nat) →
    Spells (render depth v) (.value v)
  | .null, _, _ => .null
  | .bool b, _, _ => .bool b
  | .int n, _, _ => spells_renderInt n
  | .float x, exact, _ => absurd (List.mem_singleton_self _) (exact x)
  | .str s, _, _ => .str (spellsString_quote s)
  | .arr [], _, _ => .arr (.noItems isGap_nil)
  | .arr (first :: more), exact, depth => by
      obtain ⟨exactFirst, exactMore⟩ := noFloat_append.mp exact
      have inside := spells_renderItems more exactMore (depth + 1)
        (spells_render first exactFirst (depth + 1)) (isGap_newline depth)
      simpa [render] using Spells.arr inside
  | .obj [], _, _ => .obj (.noMembers isGap_nil)
  | .obj ((name, first) :: more), exact, depth => by
      obtain ⟨exactFirst, exactMore⟩ := noFloat_append.mp exact
      have inside := spells_renderMembers more exactMore (depth + 1) name
        (spells_render first exactFirst (depth + 1)) (isGap_newline depth)
      simpa [render] using Spells.obj inside

/-- The items of an array, the first of which has this text. -/
theorem spells_renderItems : (more : List Json) → NoFloat (leavesOfItems more) → (depth : Nat) →
    {first : Json} → {text back : List Char} → Spells text (.value first) → IsGap back →
    Spells (newline depth ++ (text ++ (renderItems depth more ++ back))) (.items (first :: more))
  | [], _, depth, _, _, _, h, after => .lastItem (.slot (isGap_newline depth) h after)
  | next :: more, exact, depth, _, _, _, h, after => by
      obtain ⟨exactNext, exactMore⟩ := noFloat_append.mp exact
      have others := spells_renderItems more exactMore depth (spells_render next exactNext depth)
        after
      have slot := Spells.slot (isGap_newline depth) h isGap_nil
      simpa [renderItems] using Spells.item slot others

/-- The members of an object, the first of which has a value with this text. -/
theorem spells_renderMembers : (more : List (String × Json)) → NoFloat (leavesOfMembers more) →
    (depth : Nat) → (name : String) → {first : Json} → {text back : List Char} →
    Spells text (.value first) → IsGap back →
    Spells
      (newline depth ++ (quote name ++ ':' :: ' ' :: (text ++ (renderMembers depth more ++ back))))
      (.members ((name, first) :: more))
  | [], _, depth, name, _, _, _, h, after => by
      have key := Spells.name (isGap_newline depth) (spellsString_quote name) isGap_nil
      have slot := Spells.slot isGap_space h after
      simpa [renderMembers] using Spells.lastMember key slot
  | (name', next) :: more, exact, depth, name, _, _, _, h, after => by
      obtain ⟨exactNext, exactMore⟩ := noFloat_append.mp exact
      have others := spells_renderMembers more exactMore depth name'
        (spells_render next exactNext depth) after
      have key := Spells.name (isGap_newline depth) (spellsString_quote name) isGap_nil
      have slot := Spells.slot isGap_space h isGap_nil
      simpa [renderMembers] using Spells.member key slot others

end

theorem isText_pretty {v : Json} (exact : NoFloat v.leaves) : IsText (v.pretty ++ "\n") v := by
  have slot := Spells.slot isGap_nil (spells_render v exact 0) (isGap_newline 0)
  simpa [IsText, pretty, newline] using slot

end Giro.Json
