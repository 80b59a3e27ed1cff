import Mathlib.Data.List.Basic
import Giro.Text.Case

/-!
What the case tables make of a character. Where a span of a table leads is read off its bounds and
its stride, without a look at each code point: to code points that the same tables leave as they
are, and to none of a class that is given by ranges.
-/

namespace Giro.Text

theorem moveBy_eq_self {spans : List CaseSpan} {n : Nat}
    (h : ∀ span ∈ spans, span.covers n = false) : moveBy spans n = n := by
  have none : spans.find? (·.covers n) = none := by simpa using h
  simp [moveBy, none]

theorem toNat_ofNat_of_valid {n : Nat} (h : n.isValidChar) : (Char.ofNat n).toNat = n := by
  rw [Char.ofNat, dif_pos h]
  rfl

namespace Ranges

/-- No range meets one of the others. -/
def apart (ranges others : Ranges) : Bool :=
  ranges.all fun range => others.all fun other =>
    Nat.blt range.2 other.1 || Nat.blt other.2 range.1

theorem covers_of_apart {ranges others : Ranges} (h : ranges.apart others = true) {n : Nat}
    (inside : ranges.covers n = true) : others.covers n = false := by
  simp only [apart, List.all_eq_true, Bool.or_eq_true, Nat.blt_eq] at h
  obtain ⟨range, listed, lower, upper⟩ := covers_iff.mp inside
  rw [Bool.eq_false_iff, ne_eq, covers_iff]
  rintro ⟨other, listed', lower', upper'⟩
  have distinct := h range listed other listed'
  omega

end Ranges

namespace CaseSpan

/-- No span covers a code point that a whole number of steps leads to from `low` to `high`. -/
def clear (low high step : Nat) (other : CaseSpan) : Bool :=
  Nat.blt high other.first || Nat.blt other.last low ||
    (step % other.stride == 0 && ((low : Int) - other.first) % other.stride != 0)

theorem covers_of_clear {low high step n : Nat} {other : CaseSpan}
    (h : clear low high step other = true) (lower : low ≤ n) (upper : n ≤ high)
    (steps : step ∣ n - low) : other.covers n = false := by
  simp only [clear, Bool.or_eq_true, Nat.blt_eq, Bool.and_eq_true, beq_iff_eq, bne_iff_ne,
    ne_eq] at h
  by_contra covered
  simp only [covers, Bool.not_eq_false, Bool.and_eq_true, decide_eq_true_eq, beq_iff_eq] at covered
  obtain ⟨⟨first, last⟩, stride⟩ := covered
  obtain (before | after) | ⟨multiple, between⟩ := h
  · omega
  · omega
  · -- Both are on the lattice of the other span, so the distance of their first points is too.
    have onStep : other.stride ∣ n - low :=
      Nat.dvd_trans (Nat.dvd_of_mod_eq_zero multiple) steps
    have onOther : other.stride ∣ n - other.first := Nat.dvd_of_mod_eq_zero stride
    apply between
    apply Int.emod_eq_zero_of_dvd
    have distance : (low : Int) - other.first = ((n - other.first : Nat) : Int) - (n - low : Nat) := by
      omega
    rw [distance]
    exact Int.dvd_sub (Int.natCast_dvd_natCast.mpr onOther) (Int.natCast_dvd_natCast.mpr onStep)

/-- The span leads to no code point of these ranges. -/
def avoids (ranges : Ranges) (span : CaseSpan) : Bool :=
  ranges.apart [(span.move span.first, span.move span.last)]

theorem covers_ranges_move {ranges : Ranges} {span : CaseSpan}
    (avoids : span.avoids ranges = true) {n : Nat} (covered : span.covers n = true) :
    ranges.covers (span.move n) = false := by
  rw [Bool.eq_false_iff]
  intro inside
  have outside := Ranges.covers_of_apart avoids inside
  rw [Bool.eq_false_iff, ne_eq, Ranges.covers_iff] at outside
  simp only [CaseSpan.covers, Bool.and_eq_true, decide_eq_true_eq] at covered
  obtain ⟨⟨first, last⟩, -⟩ := covered
  refine outside ⟨_, List.mem_singleton_self _, ?_, ?_⟩
  · simp only [CaseSpan.move]
    omega
  · simp only [CaseSpan.move]
    omega

end CaseSpan

/-- What is no code point of a character stands for the null character. -/
theorem covers_toNat_ofNat {ranges : Ranges} (null : ranges.covers 0 = false) {n : Nat}
    (outside : ranges.covers n = false) : ranges.covers (Char.ofNat n).toNat = false := by
  by_cases valid : n.isValidChar
  · rwa [toNat_ofNat_of_valid valid]
  · rw [Char.ofNat, dif_neg valid]
    exact null

section
variable {expansions : List (Nat × List Nat)} {spans : List CaseSpan}

/-- What holds of the listed expansions, of the code points that the spans lead to and of the code
points that are in no table holds of all that a character is mapped to. -/
theorem exists_of_mem_mapCase {p : Nat → Prop} {c d : Char}
    (expanded : ∀ entry ∈ expansions, ∀ n ∈ entry.2, p n)
    (moved : ∀ span ∈ spans, span.covers c.toNat = true → p (span.move c.toNat))
    (kept : expansions.lookup c.toNat = none → (∀ span ∈ spans, span.covers c.toNat = false) →
      p c.toNat)
    (member : d ∈ mapCase expansions spans c) : ∃ n, p n ∧ d = Char.ofNat n := by
  simp only [mapCase] at member
  split at member
  · next codes listed =>
    obtain ⟨before, after, table, -⟩ := List.lookup_eq_some_iff.mp listed
    obtain ⟨n, inside, rfl⟩ := List.mem_map.mp member
    exact ⟨n, expanded (c.toNat, codes) (by simp [table]) n inside, rfl⟩
  · next unlisted =>
    refine ⟨_, ?_, List.mem_singleton.mp member⟩
    simp only [moveBy]
    split
    · next span found =>
      exact moved span (List.mem_of_find?_eq_some found) (by simpa using List.find?_some found)
    · next found => exact kept unlisted (by simpa using found)

/-- Ranges that hold all code points with an expansion or a span. -/
def sources (expansions : List (Nat × List Nat)) (spans : List CaseSpan) : Ranges :=
  expansions.map (fun entry => (entry.1, entry.1)) ++ spans.map fun span => (span.first, span.last)

theorem mapCase_of_not_sources {c : Char}
    (outside : (sources expansions spans).covers c.toNat = false) :
    mapCase expansions spans c = [c] := by
  rw [Bool.eq_false_iff, ne_eq, Ranges.covers_iff] at outside
  have unlisted : expansions.lookup c.toNat = none := by
    rw [List.lookup_eq_none_iff]
    intro entry listed
    by_contra same
    have code : c.toNat = entry.1 := by simpa using same
    have source : (entry.1, entry.1) ∈ sources expansions spans :=
      List.mem_append_left _ (List.mem_map.mpr ⟨entry, listed, rfl⟩)
    exact outside ⟨_, source, Nat.le_of_eq code.symm, Nat.le_of_eq code⟩
  have uncovered : ∀ span ∈ spans, span.covers c.toNat = false := by
    intro span listed
    rw [Bool.eq_false_iff]
    intro covered
    simp only [CaseSpan.covers, Bool.and_eq_true, decide_eq_true_eq] at covered
    have source : (span.first, span.last) ∈ sources expansions spans :=
      List.mem_append_right _ (List.mem_map.mpr ⟨span, listed, rfl⟩)
    exact outside ⟨_, source, covered.1⟩
  simp [mapCase, unlisted, moveBy_eq_self uncovered]

/-- The tables lead to no code point of these ranges. -/
def avoid (expansions : List (Nat × List Nat)) (spans : List CaseSpan) (ranges : Ranges) : Bool :=
  expansions.all (fun entry => entry.2.all fun n => !ranges.covers n) &&
    spans.all (CaseSpan.avoids ranges)

theorem mapCase_ne_nil (expanded : ∀ entry ∈ expansions, entry.2 ≠ []) (c : Char) :
    mapCase expansions spans c ≠ [] := by
  simp only [mapCase]
  split
  · next codes listed =>
    obtain ⟨before, after, table, -⟩ := List.lookup_eq_some_iff.mp listed
    have nonempty := expanded (c.toNat, codes) (by simp [table])
    simpa using nonempty
  · simp

theorem covers_of_mem_mapCase {ranges : Ranges} (null : ranges.covers 0 = false)
    (avoided : avoid expansions spans ranges = true) {c d : Char}
    (outside : ranges.covers c.toNat = false) (member : d ∈ mapCase expansions spans c) :
    ranges.covers d.toNat = false := by
  simp only [avoid, Bool.and_eq_true, List.all_eq_true, Bool.not_eq_true'] at avoided
  obtain ⟨n, outside, rfl⟩ := exists_of_mem_mapCase avoided.1
    (fun span listed => CaseSpan.covers_ranges_move (avoided.2 span listed)) (fun _ _ => outside)
    member
  exact covers_toNat_ofNat null outside

/-- Where the tables neither lead to ranges nor have them among their sources, a character there
is only the image of itself. -/
theorem eq_of_mem_mapCase {ranges : Ranges} (null : ranges.covers 0 = false)
    (avoided : avoid expansions spans ranges = true)
    (apart : ranges.apart (sources expansions spans) = true) {c d : Char}
    (inside : ranges.covers d.toNat = true) (member : d ∈ mapCase expansions spans c) : d = c := by
  cases source : ranges.covers c.toNat with
  | true =>
      rw [mapCase_of_not_sources (Ranges.covers_of_apart apart source)] at member
      exact List.mem_singleton.mp member
  | false =>
      rw [covers_of_mem_mapCase null avoided source member] at inside
      contradiction

end

section
variable (expansions : List (Nat × List Nat)) (spans : List CaseSpan)

/-- The code point of a character that the tables leave as it is. -/
def isKept (n : Nat) : Bool :=
  decide n.isValidChar && expansions.all (fun entry => n != entry.1) &&
    spans.all fun span => !span.covers n

/-- The code points that the span moves to are those of characters that the tables leave as they
are. -/
def CaseSpan.leadsOut (span : CaseSpan) : Bool :=
  let low := span.move span.first
  let high := span.move span.last
  let step := if span.first = span.last then 0 else span.stride
  0 ≤ span.first + span.offset && (high < 0xd800 || (0xdfff < low && high < 0x110000)) &&
    expansions.all (fun entry => Nat.blt high entry.1 || Nat.blt entry.1 low) &&
    spans.all (clear low high step)

/-- The tables lead to characters that they leave as they are. -/
def isClosed : Bool :=
  expansions.all (fun entry => entry.2.all (isKept expansions spans)) &&
    spans.all (CaseSpan.leadsOut expansions spans)

end

section
variable {expansions : List (Nat × List Nat)} {spans : List CaseSpan}

theorem isKept_iff {n : Nat} :
    isKept expansions spans n = true ↔ n.isValidChar ∧ expansions.lookup n = none ∧
      ∀ span ∈ spans, span.covers n = false := by
  simp [isKept, and_assoc]

theorem mapCase_of_isKept {c : Char} (h : isKept expansions spans c.toNat = true) :
    mapCase expansions spans c = [c] := by
  obtain ⟨-, unlisted, uncovered⟩ := isKept_iff.mp h
  simp [mapCase, unlisted, moveBy_eq_self uncovered]

theorem isKept_move {span : CaseSpan} (h : span.leadsOut expansions spans = true) {n : Nat}
    (covered : span.covers n = true) : isKept expansions spans (span.move n) = true := by
  simp only [CaseSpan.leadsOut, Bool.and_eq_true, decide_eq_true_eq, List.all_eq_true,
    Bool.or_eq_true, Nat.blt_eq] at h
  obtain ⟨⟨⟨nonneg, valid⟩, unlisted⟩, apart⟩ := h
  simp only [CaseSpan.covers, Bool.and_eq_true, decide_eq_true_eq, beq_iff_eq] at covered
  obtain ⟨⟨first, last⟩, stride⟩ := covered
  have low : span.move span.first + (n - span.first) = span.move n := by
    simp only [CaseSpan.move]
    omega
  have high : span.move n + (span.last - n) = span.move span.last := by
    simp only [CaseSpan.move]
    omega
  rw [isKept_iff]
  refine ⟨?_, ?_, ?_⟩
  · rw [Nat.isValidChar]
    omega
  · rw [List.lookup_eq_none_iff]
    intro entry listed
    have := unlisted entry listed
    simp only [bne_iff_ne, ne_eq]
    omega
  · intro other listed
    refine CaseSpan.covers_of_clear (apart other listed) (by omega) (by omega) ?_
    rw [show span.move n - span.move span.first = n - span.first by omega]
    split
    · exact ⟨0, by omega⟩
    · exact Nat.dvd_of_mod_eq_zero stride

/-- What a character is mapped to by closed tables is kept by them. -/
theorem isKept_of_mem_mapCase (closed : isClosed expansions spans = true) {c d : Char}
    (member : d ∈ mapCase expansions spans c) : isKept expansions spans d.toNat = true := by
  simp only [isClosed, Bool.and_eq_true, List.all_eq_true] at closed
  obtain ⟨n, kept, rfl⟩ := exists_of_mem_mapCase closed.1
    (fun span listed => isKept_move (closed.2 span listed))
    (fun unlisted uncovered => isKept_iff.mpr ⟨c.valid, unlisted, uncovered⟩) member
  rwa [toNat_ofNat_of_valid (isKept_iff.mp kept).1]

end
end Giro.Text
