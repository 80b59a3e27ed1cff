import Giro.Proofs.Text.Spelling
import Giro.Proofs.Text.Split
import Giro.Proofs.Text.Upper
import Giro.Settings

/-!
Configured currencies. The set read from a text is that of the capital forms of its pieces, and a
set is read back from any list of its codes, in any order and spelling and with blank pieces in
between. So a set has one normal form, which putting it into capital letters again does not change.
-/

namespace Giro

namespace Text

theorem toLower_eq_comma_iff (c : Char) : c.toLower = ',' ↔ c = ',' :=
  decide_eq_decide.mp (apply_toLower (fun c => decide (c = ',')) (by decide) c)

theorem comma_mem_iff_of_edit {s t : List Char} (h : Edit s t) : ',' ∈ s ↔ ',' ∈ t := by
  have comma : ∀ {blank : Char}, isBlank blank = true → ',' ≠ blank := by
    rintro _ blank rfl
    exact absurd blank (by decide)
  cases h with
  | @letter c d same front back =>
      have letters : ',' = c ↔ ',' = d := by
        rw [eq_comm, ← toLower_eq_comma_iff, same, toLower_eq_comma_iff, eq_comm]
      rw [List.mem_append, List.mem_append, List.mem_cons, List.mem_cons, letters]
  | start h => simp [comma h]
  | stop h => simp [comma h]

/-- No spelling brings a comma or takes one away. -/
theorem comma_mem_iff_of_respelled {s t : List Char} (h : Respelled s t) : ',' ∈ s ↔ ',' ∈ t :=
  Iff.of_eq (h.eq_of_edit (f := fun text => ',' ∈ text) fun edit =>
    propext (comma_mem_iff_of_edit edit))

end Text

namespace Currency

/-- What a listed code is as a text. -/
structure IsCode (code : String) : Prop where
  nonempty : code ≠ ""
  unmarked : ',' ∉ code.toList
  trimmed : Text.trim code.toList = code.toList
  capital : Giro.capital code = code

theorem mem_listed_iff {code text : String} :
    code ∈ listed text ↔ ∃ piece, Text.IsPiece ',' text.toList piece ∧ Text.trim piece ≠ [] ∧
      code = .ofList (Text.upper (Text.trim piece)) := by
  simp only [listed, List.mem_map, List.mem_filter, Text.mem_splitAt_iff]
  constructor
  · rintro ⟨_, ⟨⟨piece, isPiece, rfl⟩, nonblank⟩, rfl⟩
    exact ⟨piece, isPiece, by simpa using nonblank, rfl⟩
  · rintro ⟨piece, isPiece, nonblank, rfl⟩
    exact ⟨_, ⟨⟨piece, isPiece, rfl⟩, by simpa using nonblank⟩, rfl⟩

theorem isCode_of_mem_listed {code text : String} (h : code ∈ listed text) : IsCode code := by
  obtain ⟨piece, isPiece, nonblank, rfl⟩ := mem_listed_iff.mp h
  have unmarked : ',' ∉ Text.trim piece := fun inside =>
    isPiece.unmarked ((Text.trim_sublist piece).subset inside)
  refine ⟨?_, ?_, ?_, ?_⟩
  · simpa using Text.upper_ne_nil nonblank
  · rw [String.toList_ofList]
    exact Text.comma_not_mem_upper unmarked
  · rw [String.toList_ofList, Text.trim_upper (Text.trim_trim piece)]
  · rw [Giro.capital, String.toList_ofList, Text.upper_upper]

/-- A spelling of a code is read as the code. -/
theorem IsCode.eq_of_respelled {code : String} (h : IsCode code) {piece : List Char}
    (spelled : Text.Respelled piece code.toList) :
    Text.trim piece ≠ [] ∧ code = .ofList (Text.upper (Text.trim piece)) := by
  constructor
  · have letters := Text.respelled_iff.mp spelled
    rw [h.trimmed] at letters
    intro nothing
    rw [nothing] at letters
    exact h.nonempty (by simpa using letters.symm)
  · rw [Text.upper_trim_of_respelled spelled, h.trimmed]
    exact h.capital.symm

/-- The pieces spell the codes, each of them once or more and in any order, and some may be
blank. -/
structure Spell (pieces codes : List String) : Prop where
  only : ∀ piece ∈ pieces, Text.trim piece.toList = [] ∨
    ∃ code ∈ codes, Text.Respelled piece.toList code.toList
  every : ∀ code ∈ codes, ∃ piece ∈ pieces, Text.Respelled piece.toList code.toList

section
variable {pieces codes : List String}

theorem Spell.unmarked (h : Spell pieces codes) (valid : ∀ code ∈ codes, IsCode code) :
    ∀ piece ∈ pieces, ',' ∉ piece.toList := by
  intro piece member inside
  obtain blank | ⟨code, listed, spelled⟩ := h.only piece member
  · have comma := Text.trim_eq_nil_iff.mp blank ',' inside
    exact absurd comma (by decide)
  · exact (valid code listed).unmarked ((Text.comma_mem_iff_of_respelled spelled).mp inside)

theorem isPiece_intercalate_iff (nonempty : pieces ≠ [])
    (unmarked : ∀ piece ∈ pieces, ',' ∉ piece.toList) {piece : List Char} :
    Text.IsPiece ',' (",".intercalate pieces).toList piece ↔ .ofList piece ∈ pieces := by
  have split : Text.splitAt ',' (",".intercalate pieces).toList = pieces.map String.toList := by
    rw [String.toList_intercalate]
    refine Text.splitAt_intercalate (by simpa using nonempty) ?_
    simpa using unmarked
  rw [← Text.mem_splitAt_iff, split, List.mem_map]
  constructor
  · rintro ⟨text, member, rfl⟩
    rwa [String.ofList_toList]
  · exact fun member => ⟨_, member, String.toList_ofList⟩

/-- Codes that are joined by commas are the codes that are read, however they are spelled. -/
theorem mem_listed_intercalate_iff (h : Spell pieces codes) (valid : ∀ code ∈ codes, IsCode code)
    {code : String} : code ∈ listed (",".intercalate pieces) ↔ code ∈ codes := by
  by_cases nonempty : pieces = []
  · subst nonempty
    have none : codes = [] := by
      refine List.eq_nil_iff_forall_not_mem.mpr fun code listed => ?_
      obtain ⟨piece, member, -⟩ := h.every code listed
      simp at member
    rw [none, show listed (",".intercalate []) = [] by decide]
  simp only [mem_listed_iff, isPiece_intercalate_iff nonempty (h.unmarked valid)]
  constructor
  · rintro ⟨piece, member, nonblank, rfl⟩
    obtain blank | ⟨code, listed, spelled⟩ := h.only _ member
    · rw [String.toList_ofList] at blank
      contradiction
    · rw [String.toList_ofList] at spelled
      rwa [← ((valid code listed).eq_of_respelled spelled).2]
  · intro listed
    obtain ⟨piece, member, spelled⟩ := h.every code listed
    refine ⟨piece.toList, ?_, (valid code listed).eq_of_respelled spelled⟩
    rwa [String.ofList_toList]

end
end Currency

/-- The settings with these pieces, joined by commas, for the text of their currencies. -/
def Settings.joining (settings : Settings) (pieces : List String) : Settings :=
  { settings with supportedCurrencies := ",".intercalate pieces }

/-- The currencies of a setting are the capital forms of its pieces. Each of them is its own normal
form, so that the terms of settlement have the same currencies, and so has every setting that lists
them again. -/
theorem Settings.currencies_normal (settings : Settings) :
    (∀ code, code ∈ settings.currencies ↔
      ∃ piece, Text.IsPiece ',' settings.supportedCurrencies.toList piece ∧ Text.trim piece ≠ [] ∧
        code = .ofList (Text.upper (Text.trim piece))) ∧
    (∀ code ∈ settings.currencies, Currency.IsCode code) ∧
    (∀ clock, (settings.terms clock).currencies = settings.currencies) ∧
    ∀ pieces, Currency.Spell pieces settings.currencies →
      ∀ code, code ∈ (settings.joining pieces).currencies ↔ code ∈ settings.currencies := by
  have valid : ∀ code ∈ settings.currencies, Currency.IsCode code :=
    fun _ => Currency.isCode_of_mem_listed
  refine ⟨fun code => Currency.mem_listed_iff, valid, fun clock => ?_, fun pieces spell code => ?_⟩
  · calc settings.currencies.map capital = settings.currencies.map id :=
          List.map_congr_left fun code listed => (valid code listed).capital
      _ = settings.currencies := List.map_id _
  · exact Currency.mem_listed_intercalate_iff spell valid

/-- A ligature becomes two capital letters and is no spelling of them, while a small letter without
its dot becomes the capital letter of ASCII. -/
theorem Settings.currencies_normal_of_ligature :
    let settings : Settings := ⟨"Giro", false, "/api/v1", " usd,ﬁm,,\tbrı ", none, "INFO", false⟩
    settings.currencies = ["USD", "FIM", "BRI"] ∧
    Currency.Spell ["fiM\u2003", "", "BRi", "uSD", " usd"] settings.currencies ∧
    (∀ clock, (settings.terms clock).currencies = ["USD", "FIM", "BRI"]) ∧
    ∀ code, code ∈ (settings.joining ["fiM\u2003", "", "BRi", "uSD", " usd"]).currencies ↔
      code ∈ ["USD", "FIM", "BRI"] := by
  intro settings
  have listed : settings.currencies = ["USD", "FIM", "BRI"] := by decide +kernel
  have spell : Currency.Spell ["fiM\u2003", "", "BRi", "uSD", " usd"] settings.currencies := by
    rw [listed]
    exact ⟨by decide +kernel, by decide +kernel⟩
  obtain ⟨-, -, same, again⟩ := currencies_normal settings
  rw [listed] at same
  refine ⟨listed, spell, same, fun code => ?_⟩
  rw [← listed]
  exact again _ spell code

end Giro
