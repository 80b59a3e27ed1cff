import Giro.Proofs.Text.Mapping

/-!
The capital form of a text is its own capital form. A single letter may become several, so this
rests on the tables: no code point of an expansion is moved or expanded again, and the code points
that a span moves to lie outside all spans.
-/

namespace Giro.Text

theorem isClosed_upper : isClosed upperExpansions upperSpans = true := by
  decide +kernel

theorem upperChar_of_mem_upperChar {c d : Char} (h : d ∈ upperChar c) : upperChar d = [d] :=
  mapCase_of_isKept (isKept_of_mem_mapCase isClosed_upper h)

theorem upper_upper (text : List Char) : upper (upper text) = upper text := by
  have capital : ∀ d ∈ upper text, upperChar d = [d] := by
    intro d member
    obtain ⟨c, -, image⟩ := List.mem_flatMap.mp member
    exact upperChar_of_mem_upperChar image
  calc upper (upper text) = (upper text).flatMap fun d => [d] := List.flatMap_congr capital
    _ = upper text := List.flatMap_singleton' (upper text)

end Giro.Text
