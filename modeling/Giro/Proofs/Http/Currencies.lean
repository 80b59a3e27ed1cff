import Giro.Proofs.Http.Route
import Giro.Proofs.Instruction.Currency
import Giro.Proofs.Settlement.Record

/-!
The listed currencies and the currencies that are accepted. An instruction is rejected for its
currency exactly when the currency that is read is not listed. A listed code is read as itself if it
is one word whose small form has it as its capital form; one with a blank inside or with letters
like a dotted capital I is listed and yet never accepted.
-/

namespace Giro

namespace Currency

theorem mem_insert {code new : String} {codes : List String} :
    code ∈ insert new codes ↔ code = new ∨ code ∈ codes := by
  induction codes with
  | nil => simp [insert]
  | cons first rest ih =>
      simp only [insert]
      split
      · exact List.mem_cons
      · split
        · next same => simp [same]
        · rw [List.mem_cons, ih, List.mem_cons, or_left_comm]

theorem mem_sorted {code : String} {codes : List String} : code ∈ sorted codes ↔ code ∈ codes := by
  induction codes with
  | nil => rfl
  | cons first rest ih => rw [sorted, List.foldr_cons, mem_insert, ← sorted, ih, List.mem_cons]

end Currency

namespace Terms

/-- The outcome is a result that rejects the currency. -/
def RejectsCurrency (outcome : Except Fault Receipt) : Prop :=
  ∃ receipt, outcome = .ok receipt ∧ receipt.statusCode = .unsupportedCurrency

theorem rejectsCurrency_settle_iff {terms : Terms} {accounts : List Account} {ins : Instruction} :
    RejectsCurrency (terms.settle accounts ins) ↔
      (∃ amount, Amount.parse? ins.amount = some amount) ∧
        Currency.supported terms.currencies ins.currency = false := by
  constructor
  · rintro ⟨receipt, settled, rejected⟩
    obtain ⟨verdict, views, decided, rfl⟩ := exists_verdict_of_settle settled
    rw [Receipt.statusCode_of] at rejected
    have decides := code_of_verdict decided
    rw [rejected] at decides
    obtain early | ⟨-, dated⟩ := decides
    · cases early with
      | currency reads unsupported => exact ⟨⟨_, reads⟩, unsupported⟩
    · cases dated with
      | undated _ funds | falls _ _ _ _ funds => simp at funds
  · rintro ⟨⟨amount, reads⟩, unsupported⟩
    have decided := (RejectedEarly.currency reads unsupported : terms.RejectedEarly accounts ins _)
    rw [settle_of_verdict decided.verdict_eq, Verdict.conclude_of_view? fun _ => rfl]
    exact ⟨_, rfl, rfl⟩

theorem rejectsCurrency_iff {terms : Terms} {request : Request} :
    RejectsCurrency (terms.process request).outcome ↔
      ∃ ins, Instruction.scan Grammar.standard request.instruction = .ok ins ∧
        (∃ amount, Amount.parse? ins.amount = some amount) ∧ ins.currency ∉ terms.currencies := by
  rw [outcome_process]
  cases read : Instruction.scan Grammar.standard request.instruction with
  | error fault =>
      rw [outcome, outcomeIn_of_fault terms request read]
      refine ⟨?_, by simp⟩
      rintro ⟨_, ⟨⟩, rejected⟩
      cases fault <;> simp [Receipt.unread, ScanFault.code] at rejected
  | ok ins =>
      have capitals := Instruction.capital_currency_of_scan read
      rw [outcome_of_scan terms request read, rejectsCurrency_settle_iff, Currency.supported,
        capitals]
      simp

end Terms

namespace Http

/-- The answer to the question for the currencies has this code among them. -/
def Lists (framework : Framework) (app : Application) (settings : Settings) (clock : Clock)
    (code : String) : Prop :=
  ∃ codes : List String,
    respond framework app settings clock (app.request .currencies none none) =
      ⟨200, .json (.obj [("currencies", .arr (codes.map .str))])⟩ ∧ code ∈ codes

section
variable {framework : Framework} {app : Application} (serves : framework.Serves app)
include serves

theorem lists_iff {settings : Settings} {clock : Clock} {code : String} :
    Lists framework app settings clock code ↔ code ∈ settings.currencies.map capital := by
  rw [Lists, respond_currencies serves, currencies, ← Currency.mem_sorted]
  constructor
  · rintro ⟨codes, same, member⟩
    have shown : (Currency.sorted (settings.terms clock).currencies).map Json.str =
        codes.map Json.str := by
      simpa only [Response.mk.injEq, true_and, Content.json.injEq, Json.obj.injEq, List.cons.injEq,
        Prod.mk.injEq, Json.arr.injEq, and_true] using same
    have codes_eq := List.map_injective_iff.mpr (fun _ _ => Json.str.inj) shown
    exact codes_eq ▸ member
  · exact fun member => ⟨_, rfl, member⟩

/-- A payment is rejected for its currency just when the code that is read is not listed. For a
code of one word that is the capital form of its small form, so a listed word that is this form of
itself is never rejected, whatever the accounts are called. -/
theorem rejectsCurrency_payment_iff (settings : Settings) (asked settled : Clock)
    (code : String) (accounts : List Account) (debit credit : String) :
    (Terms.RejectsCurrency ((settings.terms settled).process
        ⟨accounts, Instruction.payment code debit credit⟩).outcome ↔
      ∃ other, Instruction.ReadsCurrency code other ∧ ¬ Lists framework app settings asked other) ∧
    (Text.IsWord code.toList →
      (Terms.RejectsCurrency ((settings.terms settled).process
          ⟨accounts, Instruction.payment code debit credit⟩).outcome ↔
        ¬ Lists framework app settings asked (capital (small code)))) ∧
    (Lists framework app settings asked code → Text.IsWord code.toList →
      capital (small code) = code → ¬ Terms.RejectsCurrency ((settings.terms settled).process
        ⟨accounts, Instruction.payment code debit credit⟩).outcome) := by
  have exact : Terms.RejectsCurrency ((settings.terms settled).process
        ⟨accounts, Instruction.payment code debit credit⟩).outcome ↔
      ∃ other, Instruction.ReadsCurrency code other ∧ ¬ Lists framework app settings asked other := by
    simp only [Terms.rejectsCurrency_iff, lists_iff serves]
    constructor
    · rintro ⟨ins, read, -, unlisted⟩
      exact ⟨_, (Instruction.reads_of_scan_payment read).2, unlisted⟩
    · rintro ⟨other, reads, unlisted⟩
      obtain ⟨ins, read, rfl⟩ := Instruction.exists_scan_payment_of_reads reads debit credit
      have one : Amount.parse? ins.amount = some 1 := by
        rw [(Instruction.reads_of_scan_payment read).1]
        decide
      exact ⟨ins, read, ⟨1, one⟩, unlisted⟩
  have ofWord (word : Text.IsWord code.toList) :
      Terms.RejectsCurrency ((settings.terms settled).process
          ⟨accounts, Instruction.payment code debit credit⟩).outcome ↔
        ¬ Lists framework app settings asked (capital (small code)) := by
    simp only [exact, Instruction.readsCurrency_iff_of_isWord word, exists_eq_left]
  refine ⟨exact, ofWord, fun listed word same => ?_⟩
  rw [ofWord word, same]
  exact not_not_intro listed

end

/-- A word with a final sigma is accepted between accounts whose names hold the anchors. -/
theorem rejectsCurrency_payment_iff_of_final_sigma :
    let framework := Framework.inProcess 500
    let settings := Settings.listing "usd, οδος"
    framework.Serves (.ofSettings settings) ∧
    Lists framework (.ofSettings settings) settings ⟨.universal, 0⟩ "ΟΔΟΣ" ∧
    Text.IsWord "ΟΔΟΣ".toList ∧ capital (small "ΟΔΟΣ") = "ΟΔΟΣ" ∧
    ¬ Terms.RejectsCurrency ((settings.terms ⟨.universal, 1⟩).process
        ⟨[⟨"a", .whole 5, "usd"⟩], "debit 1 ΟΔΟΣ from account from account a" ++
          " for credit to account for credit to account b on c"⟩).outcome := by
  intro framework settings
  have serves : framework.Serves (.ofSettings settings) := serves_listing 500 "usd, οδος"
  have listed : Lists framework (.ofSettings settings) settings ⟨.universal, 0⟩ "ΟΔΟΣ" := by
    rw [lists_iff serves]
    decide +kernel
  have word : Text.IsWord "ΟΔΟΣ".toList := by decide +kernel
  have same : capital (small "ΟΔΟΣ") = "ΟΔΟΣ" := by decide +kernel
  refine ⟨serves, listed, word, same, ?_⟩
  exact (rejectsCurrency_payment_iff serves settings ⟨.universal, 0⟩ ⟨.universal, 1⟩ "ΟΔΟΣ"
    [⟨"a", .whole 5, "usd"⟩] "from account a" "for credit to account b on c").2.2 listed word same

/-- A listed code with a dotted capital I and a listed code with a blank inside are rejected. -/
theorem listed_rejected :
    let framework := Framework.inProcess 500
    let settings := Settings.listing "TRİ,US D"
    let clock : Clock := ⟨.universal, 0⟩
    Settings.ofEnvironment [("SUPPORTED_CURRENCIES", "TRİ,US D")] = .ok settings ∧
    Lists framework (.ofSettings settings) settings clock "TRİ" ∧
    Terms.RejectsCurrency ((settings.terms clock).process
      ⟨[⟨"x", .whole 5, "TRİ"⟩, ⟨"y", .whole 0, "TRİ"⟩],
        "debit 1 TRİ from account x for credit to account y"⟩).outcome ∧
    Lists framework (.ofSettings settings) settings clock "US D" ∧
    Terms.RejectsCurrency ((settings.terms clock).process
      ⟨[⟨"x", .whole 5, "US D"⟩, ⟨"y", .whole 0, "US D"⟩],
        "debit 1 US D from account x for credit to account y"⟩).outcome := by
  intro framework settings clock
  have serves : framework.Serves (.ofSettings settings) := serves_listing 500 "TRİ,US D"
  have dotted : Instruction.scan Grammar.standard
      "debit 1 TRİ from account x for credit to account y" =
      .ok ⟨.debit, "1", "TRI\u0307", "x", "y", none⟩ := by
    decide +kernel
  have broken : Instruction.scan Grammar.standard
      "debit 1 US D from account x for credit to account y" =
      .ok ⟨.debit, "1", "US", "x", "y", none⟩ := by
    decide +kernel
  refine ⟨rfl, ?_, ?_, ?_, ?_⟩
  · rw [lists_iff serves]
    decide +kernel
  · rw [Terms.rejectsCurrency_iff]
    exact ⟨_, dotted, ⟨1, by decide⟩, by decide +kernel⟩
  · rw [lists_iff serves]
    decide +kernel
  · rw [Terms.rejectsCurrency_iff]
    exact ⟨_, broken, ⟨1, by decide⟩, by decide +kernel⟩

end Http
end Giro
