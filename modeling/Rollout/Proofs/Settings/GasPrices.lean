import Rollout.Settings.Basic
import Rollout.Proofs.Decimal.Reader

/-!
# Gas prices as texts

A gas price is a decimal and, after it, a denomination that begins with neither a digit nor a point;
its amount is the double nearest to the decimal. Every other text is refused: one that has no
denomination, and one whose amount has no digit, several points or a value from which on numbers
are rounded to infinity (`price_law`). A sign is no part of an amount, so a signed amount is an
empty one, and no exponent is read: the letter begins the denomination. The words for infinity and
for an undefined number are no amounts either.
-/

namespace Rollout.GasPrice

open Decimal

/-- A text is a decimal, to which the amount is the nearest double, and then the denomination. -/
structure Prices (cs : List Char) (p : GasPrice) : Prop where
  split : ∃ amount, cs = amount ++ p.denom.toList ∧ IsDecimal amount
    ∧ Nearest (decimalValue amount) p.amount
  named : p.denom ≠ ""
  begins : ∀ c ∈ p.denom.toList.head?, isAmountChar c = false
  amount : ∃ b, Reading.of p.amount = .finite b ∧ b.negative = false

/-- Why a text without blanks around it is no gas price. -/
inductive Refuses : List Char → GasPriceFault → Prop
  | noDenom {cs : List Char} (h : ∀ c ∈ cs, isAmountChar c = true) :
      Refuses cs (.noDenom (String.ofList cs))
  | noDigit {amount : List Char} {c : Char} {cs : List Char} (hamount : ∀ d ∈ amount, d = '.')
      (hc : isAmountChar c = false) :
      Refuses (amount ++ c :: cs) (.invalidAmount (String.ofList (amount ++ c :: cs)))
  | points {amount : List Char} {c : Char} {cs : List Char}
      (hamount : ∀ d ∈ amount, isAmountChar d = true) (hc : isAmountChar c = false)
      (hpoints : 2 ≤ amount.count '.') :
      Refuses (amount ++ c :: cs) (.invalidAmount (String.ofList (amount ++ c :: cs)))
  | tooLarge {amount : List Char} {c : Char} {cs : List Char} (hamount : IsDecimal amount)
      (hc : isAmountChar c = false) (hlarge : overflow ≤ decimalValue amount) :
      Refuses (amount ++ c :: cs) (.invalidAmount (String.ofList (amount ++ c :: cs)))

theorem isAmountChar_iff {c : Char} : isAmountChar c = true ↔ c.isDigit = true ∨ c = '.' := by
  simp [isAmountChar]

theorem parseChars_append {amount denom : List Char} (hamount : ∀ c ∈ amount, isAmountChar c = true)
    (hdenom : ∀ c ∈ denom.head?, isAmountChar c = false) :
    parseChars (amount ++ denom) =
      if denom.isEmpty then .error (.noDenom (String.ofList (amount ++ denom)))
      else
        match readAmount? amount with
        | some x =>
          if isFinite x then .ok ⟨x, String.ofList denom⟩
          else .error (.invalidAmount (String.ofList (amount ++ denom)))
        | none => .error (.invalidAmount (String.ofList (amount ++ denom))) := by
  rewrite [parseChars, Text.takeWhile_append_of_head hamount hdenom,
    Text.dropWhile_append_of_head hamount hdenom]
  rfl

/-- Every text is digits and points and something that begins with neither. -/
theorem exists_amount (cs : List Char) :
    ∃ amount denom, cs = amount ++ denom ∧ (∀ c ∈ amount, isAmountChar c = true)
      ∧ ∀ c ∈ denom.head?, isAmountChar c = false :=
  ⟨cs.takeWhile isAmountChar, cs.dropWhile isAmountChar, List.takeWhile_append_dropWhile.symm,
    fun _ hc => List.mem_takeWhile_imp hc, Text.head_dropWhile⟩

/-- A decimal is read as a double that is positive or zero, and finite below `overflow`. -/
theorem exists_amount_of_isDecimal {amount : List Char} (h : IsDecimal amount) :
    ∃ x, readAmount? amount = some x ∧ Nearest (decimalValue amount) x
      ∧ (Reading.of x).isNegative = false
      ∧ (isFinite x = true ↔ decimalValue amount < overflow) := by
  obtain ⟨x, hread, hnearest⟩ := nearest_readAmount? h
  have hvalue := decimalValue_nonneg amount
  have hsign := hnearest.sign
  rw [decide_eq_false hvalue.not_gt] at hsign
  exact ⟨x, hread, hnearest, hsign, hnearest.isFinite_iff hvalue⟩

theorem parseChars_of_invalid {amount cs : List Char} {c : Char}
    (hamount : ∀ d ∈ amount, isAmountChar d = true) (hc : isAmountChar c = false)
    (h : ¬IsDecimal amount) :
    parseChars (amount ++ c :: cs) =
      .error (.invalidAmount (String.ofList (amount ++ c :: cs))) := by
  have hchars : ∀ d ∈ amount, d.isDigit = true ∨ d = '.' :=
    fun d hd => isAmountChar_iff.mp (hamount d hd)
  rw [parseChars_append hamount (by simpa using hc), readAmount?_eq_none hchars h]
  rfl

theorem parseChars_of_prices {cs : List Char} {p : GasPrice} (h : Prices cs p) :
    parseChars cs = .ok p := by
  obtain ⟨⟨amount, rfl, hdecimal, hnearest⟩, hnamed, hbegins, b, hb, -⟩ := h
  have hamount : ∀ c ∈ amount, isAmountChar c = true :=
    fun c hc => isAmountChar_iff.mpr (hdecimal.chars c hc)
  have hdenom : p.denom.toList ≠ [] := fun hnil => hnamed (String.toList_eq_nil_iff.mp hnil)
  have hfinite : isFinite p.amount = true := by rw [isFinite, hb]
  obtain ⟨x, hread, hx, -⟩ := exists_amount_of_isDecimal hdecimal
  obtain rfl := hx.unique hnearest
  rw [parseChars_append hamount hbegins, if_neg (by simpa using hdenom), hread]
  simp [hfinite]

theorem parseChars_of_refuses {cs : List Char} {fault : GasPriceFault} (h : Refuses cs fault) :
    parseChars cs = .error fault := by
  cases h with
  | noDenom h =>
      have hnone : ∀ c ∈ ([] : List Char).head?, isAmountChar c = false := nofun
      simpa using parseChars_append h hnone
  | noDigit hamount hc =>
      refine parseChars_of_invalid (fun d hd => by rw [hamount d hd]; rfl) hc fun hdecimal => ?_
      obtain ⟨d, hd, hdigit⟩ := hdecimal.digit
      rw [hamount d hd] at hdigit
      cases hdigit
  | points hamount hc hpoints =>
      exact parseChars_of_invalid hamount hc fun hdecimal =>
        absurd (Nat.le_trans hpoints hdecimal.points) (by decide)
  | tooLarge hdecimal hc hlarge =>
      obtain ⟨x, hread, -, -, hfinite⟩ := exists_amount_of_isDecimal hdecimal
      rw [parseChars_append (fun d hd => isAmountChar_iff.mpr (hdecimal.chars d hd))
        (by simpa using hc), hread]
      simp [mt hfinite.mp hlarge.not_gt]

/-- Every text is a gas price or is refused. -/
theorem prices_or_refuses (cs : List Char) : (∃ p, Prices cs p) ∨ ∃ fault, Refuses cs fault := by
  obtain ⟨amount, denom, rfl, hamount, hdenom⟩ := exists_amount cs
  cases denom with
  | nil => exact .inr ⟨_, .noDenom (by simpa using hamount)⟩
  | cons c cs =>
      have hc : isAmountChar c = false := hdenom c rfl
      by_cases hdigit : ∃ d ∈ amount, d.isDigit = true
      · rcases Nat.lt_or_ge 1 (amount.count '.') with hmany | hone
        · exact .inr ⟨_, .points hamount hc hmany⟩
        · have hdecimal : IsDecimal amount :=
            ⟨fun d hd => isAmountChar_iff.mp (hamount d hd), hdigit, hone⟩
          obtain ⟨x, -, hnearest, hsign, hfinite⟩ := exists_amount_of_isDecimal hdecimal
          rcases lt_or_ge (decimalValue amount) overflow with hlt | hlarge
          · obtain ⟨b, hb⟩ := exists_reading_of_finite (hfinite.mpr hlt)
            rw [hb] at hsign
            refine .inl ⟨⟨x, String.ofList (c :: cs)⟩, ⟨amount, by simp, hdecimal, hnearest⟩, ?_,
              by simpa using hc, b, hb, hsign⟩
            simp [← String.toList_eq_nil_iff]
          · exact .inr ⟨_, .tooLarge hdecimal hc hlarge⟩
      · refine .inr ⟨_, .noDigit (fun d hd => ?_) hc⟩
        exact (isAmountChar_iff.mp (hamount d hd)).resolve_left fun h => hdigit ⟨d, hd, h⟩

theorem parseChars_eq_ok_iff {cs : List Char} {p : GasPrice} :
    parseChars cs = .ok p ↔ Prices cs p := by
  refine ⟨fun h => ?_, parseChars_of_prices⟩
  rcases prices_or_refuses cs with ⟨p', hprices⟩ | ⟨fault, hrefuses⟩
  · rw [parseChars_of_prices hprices] at h
    exact Except.ok.inj h ▸ hprices
  · rw [parseChars_of_refuses hrefuses] at h
    cases h

theorem parseChars_eq_error_iff {cs : List Char} {fault : GasPriceFault} :
    parseChars cs = .error fault ↔ Refuses cs fault := by
  refine ⟨fun h => ?_, parseChars_of_refuses⟩
  rcases prices_or_refuses cs with ⟨p, hprices⟩ | ⟨fault', hrefuses⟩
  · rw [parseChars_of_prices hprices] at h
    cases h
  · rw [parseChars_of_refuses hrefuses] at h
    exact Except.error.inj h ▸ hrefuses

theorem parsedGasPrice_of_parse (n : Network) :
    (∃ p, n.parsedGasPrice = .ok p ∧ parse n.gasPrice = .ok p) ∨
      ∃ fault, n.parsedGasPrice = .error (.configuration (.gasPrice fault))
        ∧ parse n.gasPrice = .error fault := by
  rw [Network.parsedGasPrice]
  cases parse n.gasPrice with
  | ok p => exact .inl ⟨p, rfl, rfl⟩
  | error fault => exact .inr ⟨fault, rfl, rfl⟩

/-- A text is read as a gas price exactly if, trimmed, it is digits with at most one point among
them, at least one digit, and then a denomination that begins with neither; the amount is the double
nearest to the decimal, which is finite and has no sign. Every other text is refused: with no
denomination, no digit, several points, or a decimal that is rounded to infinity. What the settings
give as the gas price is read so, and a refused text is a fault of the configuration. -/
theorem price_law :
    (∀ s p, parse s = .ok p ↔ ∃ m, Text.Trims s.toList m ∧ Prices m p)
      ∧ (∀ s fault, parse s = .error fault ↔ ∃ m, Text.Trims s.toList m ∧ Refuses m fault)
      ∧ ∀ n : Network, (∃ p, n.parsedGasPrice = .ok p ∧ parse n.gasPrice = .ok p) ∨
        ∃ fault, n.parsedGasPrice = .error (.configuration (.gasPrice fault))
          ∧ parse n.gasPrice = .error fault
          ∧ (Failure.configuration (.gasPrice fault)).kind = .configError := by
  refine ⟨fun s p => ?_, fun s fault => ?_, fun n => ?_⟩
  · simp only [parse, parseChars_eq_ok_iff, Text.trims_iff, exists_eq_left']
  · simp only [parse, parseChars_eq_error_iff, Text.trims_iff, exists_eq_left']
  · rcases parsedGasPrice_of_parse n with h | ⟨fault, hparsed, hfault⟩
    · exact .inl h
    · exact .inr ⟨fault, hparsed, hfault, rfl⟩

example : parse "\u00A0.025u.osmo " = .ok ⟨0.025, "u.osmo"⟩ := rfl

end Rollout.GasPrice
