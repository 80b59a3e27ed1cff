import Giro.Json.Reader

/-!
The limit on the nesting. A text that is a value without the limit is the same value with it, or is
refused as too deep, and which of the two is told by the depth of the value alone.
-/

namespace Giro.Json

mutual

/-- The most arrays and objects that are open at one place of the text of a value. -/
def depth : Json → Nat
  | .arr items => depthItems items + 1
  | .obj members => depthMembers members + 1
  | _ => 0

def depthItems : List Json → Nat
  | [] => 0
  | item :: more => max item.depth (depthItems more)

def depthMembers : List (String × Json) → Nat
  | [] => 0
  | (_, value) :: more => max value.depth (depthMembers more)

end

namespace Reader

/-- Below so many open arrays and objects, what is read without the limit is read with it too unless
it is deeper than that. -/
def Fits {α : Type} (limit opened : Nat) (depth : α → Nat) (free bound : Step α) : Prop :=
  ∀ x rest, free = .ok (x, rest) →
    bound = if opened + depth x ≤ limit then .ok (x, rest) else .error .tooDeep

namespace Fits

section
variable {α β : Type} {limit opened : Nat} {depth : α → Nat} {free bound : Step α}

theorem of_error {e : ReadError} : Fits limit opened depth (.error e) bound := nofun

theorem of_ok {x : α} {rest : List Char} (within : opened + depth x ≤ limit) :
    Fits limit opened depth (.ok (x, rest)) (.ok (x, rest)) := by
  rintro _ _ ⟨⟩
  rw [if_pos within]

theorem of_flat {step : Step α} (within : opened ≤ limit)
    (flat : ∀ x rest, step = .ok (x, rest) → depth x = 0) : Fits limit opened depth step step := by
  rintro x rest rfl
  rw [if_pos (by rwa [flat x rest rfl])]

theorem tooDeep (deep : ∀ x rest, free = .ok (x, rest) → limit < opened + depth x) :
    Fits limit opened depth free (.error .tooDeep) := by
  intro x rest taken
  rw [if_neg (Nat.not_le_of_lt (deep x rest taken))]

theorem map {outside : Nat} {outer : β → Nat} {f : α → β} (h : Fits limit opened depth free bound)
    (same : ∀ x, outside + outer (f x) ≤ limit ↔ opened + depth x ≤ limit) :
    Fits limit outside outer (free.map fun (x, rest) => (f x, rest))
      (bound.map fun (x, rest) => (f x, rest)) := by
  intro y rest taken
  cases free with
  | error e => contradiction
  | ok step =>
      obtain ⟨x, after⟩ := step
      obtain ⟨rfl, rfl⟩ := Prod.mk.inj (Except.ok.inj taken)
      rw [h x after rfl]
      simp only [same]
      split <;> rfl

end

/-- An array or object is refused at once where no more of them may be open. -/
theorem enter {rules : ReadRules} {limit opened : Nat} {free bound : Step Json}
    (unlimited : rules.depth = none)
    (opens : ∀ x rest, free = .ok (x, rest) → 0 < depth x)
    (inside : opened + 1 ≤ limit → Fits limit opened depth free bound) :
    Fits limit opened depth (if rules.depth.any (· ≤ opened) then .error .tooDeep else free)
      (if (some limit).any (· ≤ opened) then .error .tooDeep else bound) := by
  rw [unlimited]
  simp only [Option.any_none, Option.any_some, Bool.false_eq_true, if_false, decide_eq_true_eq]
  split
  · next full =>
    refine tooDeep fun x rest taken => ?_
    have := opens x rest taken
    omega
  · next room => exact inside (by omega)

end Fits

theorem depth_of_word? {text rest : List Char} {value : Json}
    (h : word? text = some (value, rest)) : value.depth = 0 := by
  obtain ⟨⟨word, listed⟩, member, found⟩ := List.exists_of_findSome?_eq_some h
  simp only [Option.ite_none_right_eq_some, Option.some.injEq, Prod.mk.injEq] at found
  obtain ⟨-, rfl, -⟩ := found
  simp only [List.mem_cons, List.not_mem_nil, or_false, Prod.mk.injEq] at member
  obtain ⟨-, rfl⟩ | ⟨-, rfl⟩ | ⟨-, rfl⟩ | ⟨-, rfl⟩ | ⟨-, rfl⟩ | ⟨-, rfl⟩ := member <;> rfl

theorem depth_of_number {rules : ReadRules} {negative : Bool} {text rest : List Char}
    {value : Json} (h : number rules negative text = .ok (value, rest)) : value.depth = 0 := by
  simp only [number] at h
  split at h
  · contradiction
  · split at h
    · split at h
      · contradiction
      · obtain ⟨rfl, -⟩ := Prod.mk.inj (Except.ok.inj h)
        rfl
    · obtain ⟨rfl, -⟩ := Prod.mk.inj (Except.ok.inj h)
      rfl

/-- What is read as the image of something is such an image. -/
theorem exists_of_map {α β : Type} {f : α → β} {step : Step α} {y : β} {rest : List Char}
    (h : (step.map fun (x, rest) => (f x, rest)) = .ok (y, rest)) :
    ∃ x, step = .ok (x, rest) ∧ y = f x := by
  cases step with
  | error e => contradiction
  | ok step =>
      obtain ⟨x, after⟩ := step
      obtain ⟨rfl, rfl⟩ := Prod.mk.inj (Except.ok.inj h)
      exact ⟨x, rfl, rfl⟩

end Reader

/-- The rules with a limit on the nesting. -/
def ReadRules.limited (rules : ReadRules) (limit : Nat) : ReadRules :=
  { rules with depth := some limit }

namespace Reader

/-- Within so much fuel, whatever is read without the limit fits. -/
structure AllFit (rules : ReadRules) (limit fuel : Nat) : Prop where
  value : ∀ opened ≤ limit, ∀ text, Fits limit opened depth (Reader.value rules fuel opened text)
    (Reader.value (rules.limited limit) fuel opened text)
  items : ∀ opened ≤ limit, ∀ text, Fits limit opened depthItems
    (Reader.items rules fuel opened text) (Reader.items (rules.limited limit) fuel opened text)
  members : ∀ opened ≤ limit, ∀ text, Fits limit opened depthMembers
    (Reader.members rules fuel opened text) (Reader.members (rules.limited limit) fuel opened text)

namespace AllFit

section
variable {rules : ReadRules} {limit fuel opened : Nat}

theorem value_succ (h : AllFit rules limit fuel) (unlimited : rules.depth = none)
    (within : opened ≤ limit) (text : List Char) :
    Fits limit opened depth (Reader.value rules (fuel + 1) opened text)
      (Reader.value (rules.limited limit) (fuel + 1) opened text) := by
  simp only [Reader.value]
  cases word : word? text with
  | some step =>
      refine Fits.of_flat within fun x rest taken => ?_
      obtain rfl := Except.ok.inj taken
      exact depth_of_word? word
  | none =>
      simp only
      split
      · next rest =>
        refine Fits.of_flat within fun x after taken => ?_
        obtain ⟨s, -, rfl⟩ := exists_of_map taken
        rfl
      · next rest =>
        refine Fits.enter unlimited (fun x after taken => ?_) fun room => ?_
        · split at taken
          · obtain ⟨rfl, -⟩ := Prod.mk.inj (Except.ok.inj taken)
            simp [depth]
          · obtain ⟨values, -, rfl⟩ := exists_of_map taken
            simp [depth]
        · split
          · exact Fits.of_ok room
          · refine (h.items (opened + 1) room _).map fun values => ?_
            rw [depth]
            omega
      · next rest =>
        refine Fits.enter unlimited (fun x after taken => ?_) fun room => ?_
        · split at taken
          · obtain ⟨rfl, -⟩ := Prod.mk.inj (Except.ok.inj taken)
            simp [depth]
          · obtain ⟨pairs, -, rfl⟩ := exists_of_map taken
            simp [depth]
        · split
          · exact Fits.of_ok room
          · refine (h.members (opened + 1) room _).map fun pairs => ?_
            rw [depth]
            omega
      · exact Fits.of_flat within fun x after taken => depth_of_number taken
      · exact Fits.of_flat within fun x after taken => depth_of_number taken

/-- The depth of a list is that of its deepest value, so a value that is too deep has been refused
before the rest of the list is read. -/
theorem items_succ (h : AllFit rules limit fuel) (within : opened ≤ limit) (text : List Char) :
    Fits limit opened depthItems (Reader.items rules (fuel + 1) opened text)
      (Reader.items (rules.limited limit) (fuel + 1) opened text) := by
  simp only [Reader.items]
  cases read : Reader.value rules fuel opened text with
  | error e => exact Fits.of_error
  | ok step =>
      obtain ⟨first, after⟩ := step
      rw [h.value opened within text first after read]
      by_cases shallow : opened + first.depth ≤ limit
      · rw [if_pos shallow]
        simp only
        split
        · exact Fits.of_ok (by simpa [depthItems] using shallow)
        · refine (h.items opened within _).map fun more => ?_
          rw [depthItems]
          omega
        · exact Fits.of_error
      · -- Whatever the rest of the list may be, it does not make the list less deep.
        rw [if_neg shallow]
        refine Fits.tooDeep fun x rest taken => ?_
        simp only at taken
        split at taken
        · obtain ⟨rfl, -⟩ := Prod.mk.inj (Except.ok.inj taken)
          rw [depthItems]
          omega
        · obtain ⟨more, -, rfl⟩ := exists_of_map taken
          rw [depthItems]
          omega
        · contradiction

theorem members_succ (h : AllFit rules limit fuel) (within : opened ≤ limit) (text : List Char) :
    Fits limit opened depthMembers (Reader.members rules (fuel + 1) opened text)
      (Reader.members (rules.limited limit) (fuel + 1) opened text) := by
  simp only [Reader.members]
  split
  · next quoted =>
    have same : (rules.limited limit).marks = rules.marks := rfl
    rw [same]
    cases string rules.marks quoted with
    | error e => exact Fits.of_error
    | ok step =>
        obtain ⟨name, afterName⟩ := step
        simp only
        split
        · next rest _ =>
          cases read : Reader.value rules fuel opened (skip rest) with
          | error e => exact Fits.of_error
          | ok step =>
              obtain ⟨first, after⟩ := step
              rw [h.value opened within _ first after read]
              by_cases shallow : opened + first.depth ≤ limit
              · rw [if_pos shallow]
                simp only
                split
                · exact Fits.of_ok (by simpa [depthMembers] using shallow)
                · refine (h.members opened within _).map fun more => ?_
                  rw [depthMembers]
                  omega
                · exact Fits.of_error
              · rw [if_neg shallow]
                refine Fits.tooDeep fun x rest taken => ?_
                simp only at taken
                split at taken
                · obtain ⟨rfl, -⟩ := Prod.mk.inj (Except.ok.inj taken)
                  rw [depthMembers]
                  omega
                · obtain ⟨more, -, rfl⟩ := exists_of_map taken
                  rw [depthMembers]
                  omega
                · contradiction
        · exact Fits.of_error
  · exact Fits.of_error

end

theorem of_fuel {rules : ReadRules} (unlimited : rules.depth = none) (limit fuel : Nat) :
    AllFit rules limit fuel := by
  induction fuel with
  | zero =>
      exact ⟨fun _ _ _ => Fits.of_error, fun _ _ _ => Fits.of_error,
        fun _ _ _ => Fits.of_error⟩
  | succ fuel ih =>
      exact ⟨fun _ within text => ih.value_succ unlimited within text,
        fun _ within text => ih.items_succ within text,
        fun _ within text => ih.members_succ within text⟩

end AllFit
end Reader

/-- With a limit on the nesting a text is read as before, or refused if its value is too deep. -/
theorem read_limited {rules : ReadRules} (unlimited : rules.depth = none) (limit : Nat)
    {text : String} {value : Json} (h : read rules text = .ok value) :
    read (rules.limited limit) text =
      if value.depth ≤ limit then .ok value else .error .tooDeep := by
  simp only [read] at h ⊢
  split at h
  · contradiction
  · next value' rest taken =>
    split at h
    · next finished =>
      obtain rfl := Except.ok.inj h
      have fits := (Reader.AllFit.of_fuel unlimited limit _).value 0 (Nat.zero_le limit) _ _ _ taken
      rw [fits, Nat.zero_add]
      by_cases shallow : value'.depth ≤ limit
      · rw [if_pos shallow, if_pos shallow]
        simp only [finished, if_true]
      · rw [if_neg shallow, if_neg shallow]
    · contradiction

end Giro.Json
