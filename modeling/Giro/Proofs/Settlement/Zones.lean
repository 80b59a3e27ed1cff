import Giro.Proofs.Calendar
import Giro.Proofs.Settlement.Scheduling
import Giro.Settings

/-!
Outcomes in different zones. The day of a zone is that of its local time, so it is never earlier
where local time is later. An instruction that waits in one zone thus waits wherever local time is
not later: at every instant before, while the zone stays as it is, and, at the same instant, in every
zone further west. Of the zones nothing is asked but what they show at these instants.
-/

namespace Giro

theorem localDay_before_iff {offset offset' instant instant' : Int} :
    (localDay offset instant).before (localDay offset' instant') = true ↔
      (instant + offset) / 86400 < (instant' + offset') / 86400 :=
  Day.ofNumber_before_iff

/-- Days go the way local time goes. -/
theorem localDay_not_before {offset offset' instant instant' : Int}
    (h : instant + offset ≤ instant' + offset') :
    (localDay offset' instant').before (localDay offset instant) = false := by
  rw [Bool.eq_false_iff, Ne, localDay_before_iff, Int.not_lt]
  exact Int.ediv_le_ediv (by decide) h

namespace Clock

/-- What the setting of a zone stands for at the instant, in seconds east of universal time. -/
inductive Shows (clock : Clock) : Option String → Int → Prop
  | unset : Shows clock none (clock.zones.own clock.instant)
  | empty : Shows clock (some "") (clock.zones.own clock.instant)
  | named {name : String} {rule : Int → Int} {offset : Int} (nonempty : name ≠ "")
      (known : clock.zones.named name = .ok rule) (shown : rule clock.instant = offset) :
      Shows clock (some name) offset

theorem Shows.today_eq {clock : Clock} {zone : Option String} {offset : Int}
    (h : clock.Shows zone offset) : clock.today zone = .ok (localDay offset clock.instant) := by
  cases h with
  | unset => rfl
  | empty => rfl
  | named nonempty known shown =>
      subst shown
      simp only [today, Clock.offset, String.isEmpty_iff, nonempty, if_false, known]
      rfl

end Clock

theorem Terms.process_eq_of_outcome {terms other : Terms} {request : Request}
    (h : terms.outcome request = other.outcome request) :
    terms.process request = other.process request := by
  rw [process, process, h]

namespace Settings

/-- What comes of a request by a clock, by these settings but with this setting of the zone. -/
def processIn (settings : Settings) (zone : Option String) (clock : Clock) (request : Request) :
    Run :=
  (terms { settings with timezone := zone } clock).process request

section
variable (settings : Settings) (request : Request) {zone zone' : Option String}
  {offset offset' : Int} {clock clock' : Clock} (h : clock.Shows zone offset)
  (h' : clock'.Shows zone' offset')
include h

theorem outcome_processIn :
    (settings.processIn zone clock request).outcome =
      Terms.outcomeOn settings.currencies Grammar.standard request
        (localDay offset clock.instant) := by
  rw [processIn, Terms.outcome_process, terms, h.today_eq]
  rfl

include h'

theorem processIn_eq_of_outcomeOn
    (same : Terms.outcomeOn settings.currencies Grammar.standard request
        (localDay offset clock.instant) =
      Terms.outcomeOn settings.currencies Grammar.standard request
        (localDay offset' clock'.instant)) :
    settings.processIn zone clock request = settings.processIn zone' clock' request := by
  rw [← outcome_processIn settings request h, ← outcome_processIn settings request h', processIn,
    processIn, Terms.outcome_process, Terms.outcome_process] at same
  exact Terms.process_eq_of_outcome same

variable (le : clock.instant + offset ≤ clock'.instant + offset')
include le

/-- What is pending is so where local time is not later. -/
theorem processIn_waits (pending : Terms.Pending (settings.processIn zone' clock' request).outcome) :
    settings.processIn zone clock request = settings.processIn zone' clock' request := by
  rw [outcome_processIn settings request h'] at pending
  exact processIn_eq_of_outcomeOn settings request h h'
    ((Terms.ages _ _ _ (localDay_not_before le)).waits pending)

/-- What is not pending is as it is where local time is not earlier. -/
theorem processIn_stays (settled : ¬ Terms.Pending (settings.processIn zone clock request).outcome) :
    settings.processIn zone' clock' request = settings.processIn zone clock request := by
  rw [outcome_processIn settings request h] at settled
  exact processIn_eq_of_outcomeOn settings request h' h
    ((Terms.ages _ _ _ (localDay_not_before le)).stays settled)

end

/-- Where local time is not later the day is not later, and an instruction that is pending at the
later time is so at the earlier one. One that is not pending keeps its outcome from then on. This
goes for the instants of a zone, as long as it shows the same, and for the zones further west at one
instant. -/
theorem pending_follows_calendar :
    (∀ offset offset' instant instant' : Int, instant + offset ≤ instant' + offset' →
      (localDay offset' instant').before (localDay offset instant) = false ∧
      ∀ currencies grammars request,
        Terms.Pending (Terms.outcomeOn currencies grammars request (localDay offset' instant')) →
        Terms.outcomeOn currencies grammars request (localDay offset instant) =
          Terms.outcomeOn currencies grammars request (localDay offset' instant')) ∧
    ∀ (settings : Settings) (request : Request) {zone zone' : Option String}
      {offset offset' : Int},
      (∀ clock clock' : Clock, clock.Shows zone offset → clock'.Shows zone' offset' →
        clock.instant + offset ≤ clock'.instant + offset' →
        (∃ today today', clock.today zone = .ok today ∧ clock'.today zone' = .ok today' ∧
          today'.before today = false) ∧
        (Terms.Pending (settings.processIn zone' clock' request).outcome →
          settings.processIn zone clock request = settings.processIn zone' clock' request) ∧
        (¬ Terms.Pending (settings.processIn zone clock request).outcome →
          settings.processIn zone' clock' request = settings.processIn zone clock request)) ∧
      (∀ zones instant instant', Clock.Shows ⟨zones, instant⟩ zone offset →
        Clock.Shows ⟨zones, instant'⟩ zone offset → instant ≤ instant' →
        ¬ Terms.Pending (settings.processIn zone ⟨zones, instant⟩ request).outcome →
          settings.processIn zone ⟨zones, instant'⟩ request =
            settings.processIn zone ⟨zones, instant⟩ request) ∧
      (∀ clock : Clock, clock.Shows zone offset → clock.Shows zone' offset' → offset ≤ offset' →
        Terms.Pending (settings.processIn zone' clock request).outcome →
          settings.processIn zone clock request = settings.processIn zone' clock request) := by
  refine ⟨?days, fun settings request => ?services⟩
  case days =>
    intro offset offset' instant instant' le
    have order := localDay_not_before le
    exact ⟨order, fun currencies grammars request => (Terms.ages _ _ _ order).waits⟩
  case services =>
    intro zone zone' offset offset'
    refine ⟨fun clock clock' shows shows' le => ⟨?_, ?_, ?_⟩, ?_, ?_⟩
    · exact ⟨_, _, shows.today_eq, shows'.today_eq, localDay_not_before le⟩
    · exact processIn_waits settings request shows shows' le
    · exact processIn_stays settings request shows shows' le
    · intro zones instant instant' shows shows' le
      exact processIn_stays settings request shows shows' (Int.add_le_add_right le offset)
    · intro clock shows shows' west
      exact processIn_waits settings request shows shows' (Int.add_le_add_left west clock.instant)

/-- One second before the leap day of 1968 begins at fourteen hours east, a payment for that day is
pending there and twelve hours west. A second later it is executed there, and so it is from then
on. -/
theorem pending_follows_calendar_of_leap_day :
    let settings : Settings := ⟨"Giro", false, "/api/v1", "usd", none, "INFO", false⟩
    let zones : Zones :=
      { own := fun _ => 0
        named := fun name =>
          if name = "Etc/GMT-14" then .ok fun _ => 50400
          else if name = "Etc/GMT+12" then .ok fun _ => -43200
          else .error (.unknownZone name) }
    let request : Request := ⟨[⟨"a", .whole 5, "usd"⟩, ⟨"b", .whole 1, "USD"⟩],
      "debit 2 usd from account a for credit to account b on 1968-02-29"⟩
    let inEast (instant : Int) := settings.processIn (some "Etc/GMT-14") ⟨zones, instant⟩ request
    let inWest (instant : Int) := settings.processIn (some "Etc/GMT+12") ⟨zones, instant⟩ request
    (localDay 50400 (-58111200)).before (localDay (-43200) (-58111200)) = false ∧
    Clock.Shows ⟨zones, -58111201⟩ (some "Etc/GMT-14") 50400 ∧
    Clock.Shows ⟨zones, -58111201⟩ (some "Etc/GMT+12") (-43200) ∧
    Terms.Pending (inEast (-58111201)).outcome ∧ inWest (-58111201) = inEast (-58111201) ∧
    ¬ Terms.Pending (inEast (-58111200)).outcome ∧ inEast 0 = inEast (-58111200) := by
  intro settings zones request inEast inWest
  have nonempty : "Etc/GMT-14" ≠ "" ∧ "Etc/GMT+12" ≠ "" := by decide
  have east (instant : Int) : Clock.Shows ⟨zones, instant⟩ (some "Etc/GMT-14") 50400 :=
    .named nonempty.1 rfl rfl
  have west (instant : Int) : Clock.Shows ⟨zones, instant⟩ (some "Etc/GMT+12") (-43200) :=
    .named nonempty.2 rfl rfl
  have waits : (inEast (-58111201)).outcome =
      .ok ⟨some .debit, some 2, some "USD", some "a", some "b", some "1968-02-29", .pending,
        StatusCode.scheduled.reason, .scheduled,
        [⟨"a", .whole 5, .whole 5, "USD"⟩, ⟨"b", .whole 1, .whole 1, "USD"⟩]⟩ := by
    decide +kernel
  have due : (inEast (-58111200)).outcome =
      .ok ⟨some .debit, some 2, some "USD", some "a", some "b", some "1968-02-29", .successful,
        StatusCode.executed.reason, .executed,
        [⟨"a", .whole 3, .whole 5, "USD"⟩, ⟨"b", .whole 3, .whole 1, "USD"⟩]⟩ := by
    decide +kernel
  have pending : Terms.Pending (inEast (-58111201)).outcome := ⟨_, waits, rfl⟩
  have settled : ¬ Terms.Pending (inEast (-58111200)).outcome := by
    rintro ⟨receipt, concluded, pending⟩
    obtain rfl := Except.ok.inj (due.symm.trans concluded)
    exact absurd pending (by decide)
  obtain ⟨days, services⟩ := pending_follows_calendar
  obtain ⟨-, stays, -⟩ :=
    @services settings request (some "Etc/GMT-14") (some "Etc/GMT-14") 50400 50400
  obtain ⟨-, -, further⟩ :=
    @services settings request (some "Etc/GMT+12") (some "Etc/GMT-14") (-43200) 50400
  refine ⟨(days (-43200) 50400 _ _ (by decide)).1, east _, west _, pending, ?_, settled, ?_⟩
  · exact further _ (west _) (east _) (by decide) pending
  · exact stays zones _ _ (east _) (east _) (by decide) settled

end Settings
end Giro
