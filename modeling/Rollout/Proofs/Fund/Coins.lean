import Rollout.Failure
import Rollout.Proofs.Fund.Messages
import Rollout.Proofs.Text.Pieces

/-!
# Coins as texts

A coin is written as digits and a denomination, with blanks around it, and every other text is
refused (`parsing_law`). So a coin is read back from what is written of it unless its denomination
would be taken for something else. A list of coins is read piece by piece, and of several pieces
that are no coins the first one counts (`list_law`): blanks and blank pieces make no difference, and
neither does the notation of a coin in a structured value.
-/

namespace Rollout.Coin

/-! ## One coin -/

/-- A text is digits that stand for the amount of a coin, and after them its denomination. -/
structure Spells (cs : List Char) (c : Coin) : Prop where
  split : ∃ digits, cs = digits ++ c.denom.toList ∧ digits ≠ []
    ∧ (∀ d ∈ digits, d.isDigit = true) ∧ Text.digitsValue digits = c.amount.toNat
  named : c.denom ≠ ""
  begins : ∀ d ∈ c.denom.toList.head?, d.isDigit = false

/-- Why a text without blanks around it is no coin. -/
inductive Refuses : List Char → CoinFault → Prop
  | noDenom {cs : List Char} (h : ∀ c ∈ cs, c.isDigit = true) :
      Refuses cs (.noDenom (String.ofList cs))
  | noAmount {c : Char} {cs : List Char} (h : c.isDigit = false) :
      Refuses (c :: cs) (.noAmount (String.ofList (c :: cs)))
  | amountTooLarge {digits : List Char} {c : Char} {cs : List Char} (hsome : digits ≠ [])
      (hdigits : ∀ d ∈ digits, d.isDigit = true) (hc : c.isDigit = false)
      (hlarge : Nat.pow 2 128 ≤ Text.digitsValue digits) :
      Refuses (digits ++ c :: cs) (.amountTooLarge (String.ofList (digits ++ c :: cs)))

theorem parseChars_append {digits denom : List Char} (hdigits : ∀ d ∈ digits, d.isDigit = true)
    (hdenom : ∀ d ∈ denom.head?, d.isDigit = false) :
    parseChars (digits ++ denom) =
      if denom.isEmpty then .error (.noDenom (String.ofList (digits ++ denom)))
      else if digits.isEmpty then .error (.noAmount (String.ofList (digits ++ denom)))
      else
        match Amount.ofNat? (Text.digitsValue digits) with
        | some amount => .ok ⟨String.ofList denom, amount⟩
        | none => .error (.amountTooLarge (String.ofList (digits ++ denom))) := by
  rewrite [parseChars, Text.takeWhile_append_of_head hdigits hdenom,
    Text.dropWhile_append_of_head hdigits hdenom]
  rfl

/-- Every text is digits and something that begins with none. -/
theorem exists_digits (cs : List Char) :
    ∃ digits denom, cs = digits ++ denom ∧ (∀ d ∈ digits, d.isDigit = true)
      ∧ ∀ d ∈ denom.head?, d.isDigit = false :=
  ⟨cs.takeWhile Char.isDigit, cs.dropWhile Char.isDigit, List.takeWhile_append_dropWhile.symm,
    fun _ hd => List.mem_takeWhile_imp hd, Text.head_dropWhile⟩

theorem parseChars_of_spells {cs : List Char} {c : Coin} (h : Spells cs c) :
    parseChars cs = .ok c := by
  obtain ⟨⟨digits, rfl, hsome, hdigits, hvalue⟩, hnamed, hbegins⟩ := h
  have hdenom : c.denom.toList ≠ [] := fun hnil => hnamed (String.toList_eq_nil_iff.mp hnil)
  rw [parseChars_append hdigits hbegins, if_neg (by simpa using hdenom),
    if_neg (by simpa using hsome), hvalue, Amount.ofNat?_toNat]
  simp

theorem parseChars_of_refuses {cs : List Char} {fault : CoinFault} (h : Refuses cs fault) :
    parseChars cs = .error fault := by
  cases h with
  | noDenom h =>
      have hnone : ∀ d ∈ ([] : List Char).head?, d.isDigit = false := nofun
      simpa using parseChars_append h hnone
  | @noAmount c cs h =>
      have hbegins : ∀ d ∈ (c :: cs).head?, d.isDigit = false := by simpa using h
      simpa using parseChars_append (show ∀ d ∈ [], Char.isDigit d = true from nofun) hbegins
  | @amountTooLarge digits c cs hsome hdigits hc hlarge =>
      have hno : Amount.ofNat? (Text.digitsValue digits) = none := dif_neg (Nat.not_lt.mpr hlarge)
      rw [parseChars_append hdigits (by simpa using hc), hno]
      simp [hsome]

/-- Every text spells a coin or is refused. -/
theorem spells_or_refuses (cs : List Char) : (∃ c, Spells cs c) ∨ ∃ fault, Refuses cs fault := by
  obtain ⟨digits, denom, rfl, hdigits, hdenom⟩ := exists_digits cs
  cases denom with
  | nil => exact .inr ⟨_, .noDenom (by simpa using hdigits)⟩
  | cons d ds =>
      have hd : d.isDigit = false := hdenom d rfl
      by_cases hsome : digits = []
      · subst hsome
        exact .inr ⟨_, .noAmount hd⟩
      · rcases Nat.lt_or_ge (Text.digitsValue digits) (Nat.pow 2 128) with hlt | hlarge
        · refine .inl ⟨⟨String.ofList (d :: ds), ⟨_, hlt⟩⟩, ⟨digits, by simp, hsome, hdigits, rfl⟩,
            ?_, by simpa using hd⟩
          simp [← String.toList_eq_nil_iff]
        · exact .inr ⟨_, .amountTooLarge hsome hdigits hd hlarge⟩

theorem parseChars_eq_ok_iff {cs : List Char} {c : Coin} :
    parseChars cs = .ok c ↔ Spells cs c := by
  refine ⟨fun h => ?_, parseChars_of_spells⟩
  rcases spells_or_refuses cs with ⟨c', hspells⟩ | ⟨fault, hrefuses⟩
  · rw [parseChars_of_spells hspells] at h
    exact Except.ok.inj h ▸ hspells
  · rw [parseChars_of_refuses hrefuses] at h
    cases h

theorem parseChars_eq_error_iff {cs : List Char} {fault : CoinFault} :
    parseChars cs = .error fault ↔ Refuses cs fault := by
  refine ⟨fun h => ?_, parseChars_of_refuses⟩
  rcases spells_or_refuses cs with ⟨c, hspells⟩ | ⟨fault', hrefuses⟩
  · rw [parseChars_of_spells hspells] at h
    cases h
  · rw [parseChars_of_refuses hrefuses] at h
    exact Except.error.inj h ▸ hrefuses

/-- A denomination of which each coin is read back: it has a name, does not go on with digits of the
amount, and does not end in blanks that would be dropped. -/
structure Legible (denom : String) : Prop where
  named : denom ≠ ""
  begins : ∀ d ∈ denom.toList.head?, d.isDigit = false
  closes : ∀ d ∈ denom.toList.getLast?, Text.isBlank d = false

theorem legible_iff {denom : String} :
    Legible denom ↔ denom ≠ "" ∧ denom.toList.head?.any Char.isDigit = false
      ∧ denom.toList.getLast?.any Text.isBlank = false := by
  have hany (o : Option Char) (p : Char → Bool) : o.any p = false ↔ ∀ d ∈ o, p d = false := by
    cases o <;> simp
  rw [hany, hany]
  exact ⟨fun ⟨hnamed, hbegins, hcloses⟩ => ⟨hnamed, hbegins, hcloses⟩,
    fun ⟨hnamed, hbegins, hcloses⟩ => ⟨hnamed, hbegins, hcloses⟩⟩

instance (denom : String) : Decidable (Legible denom) := decidable_of_iff' _ legible_iff

theorem parse_eq_ok_iff {s : String} {c : Coin} :
    parse s = .ok c ↔ ∃ m, Text.Trims s.toList m ∧ Spells m c := by
  simp only [parse, parseChars_eq_ok_iff, Text.trims_iff, exists_eq_left']

theorem parse_eq_error_iff {s : String} {fault : CoinFault} :
    parse s = .error fault ↔ ∃ m, Text.Trims s.toList m ∧ Refuses m fault := by
  simp only [parse, parseChars_eq_error_iff, Text.trims_iff, exists_eq_left']

theorem isBlank_of_isDigit {c : Char} (h : c.isDigit = true) : Text.isBlank c = false := by
  obtain ⟨hlow, hhigh⟩ := Text.toNat_of_isDigit h
  simp only [Text.isBlank, Bool.or_eq_false_iff, Bool.and_eq_false_iff, decide_eq_false_iff_not,
    beq_eq_false_iff_ne]
  omega

theorem toList_text (c : Coin) :
    c.text.toList = Text.numeral c.amount.toNat ++ c.denom.toList := by
  simp [text, Amount.text]

theorem spells_text {c : Coin} (h : Legible c.denom) : Spells c.text.toList c where
  split := ⟨Text.numeral c.amount.toNat, c.toList_text, Text.numeral_ne_nil _,
    List.all_eq_true.mp (Text.all_isDigit_numeral _), Text.digitsValue_numeral _⟩
  named := h.named
  begins := h.begins

/-- Around what is written of a coin any blanks are trimmed off, and nothing else is: it begins with
a digit. -/
theorem trims_text {c : Coin} (h : Legible c.denom) {before after : List Char}
    (hbefore : ∀ d ∈ before, Text.isBlank d = true) (hafter : ∀ d ∈ after, Text.isBlank d = true) :
    Text.Trims (before ++ c.text.toList ++ after) c.text.toList where
  between := ⟨before, after, rfl, hbefore, hafter⟩
  begins d hd := by
    rw [toList_text, List.head?_append_of_ne_nil _ (Text.numeral_ne_nil _)] at hd
    have hall := List.all_eq_true.mp (Text.all_isDigit_numeral c.amount.toNat)
    exact isBlank_of_isDigit (hall d (List.mem_of_mem_head? hd))
  closes d hd := by
    have hdenom : c.denom.toList ≠ [] := fun hnil => h.named (String.toList_eq_nil_iff.mp hnil)
    rw [toList_text, List.getLast?_append_of_ne_nil _ hdenom] at hd
    exact h.closes d hd

/-- A coin is read back from what is written of it exactly if its denomination is legible. -/
theorem parse_text_iff {c : Coin} : parse c.text = .ok c ↔ Legible c.denom := by
  rw [parse_eq_ok_iff]
  constructor
  · rintro ⟨_, htrims, ⟨digits, rfl, -⟩, hnamed, hbegins⟩
    refine ⟨hnamed, hbegins, fun d hd => htrims.closes d ?_⟩
    have hdenom : c.denom.toList ≠ [] := fun hnil => hnamed (String.toList_eq_nil_iff.mp hnil)
    rwa [List.getLast?_append_of_ne_nil _ hdenom]
  · intro h
    have hnone : ∀ d ∈ [], Text.isBlank d = true := nofun
    exact ⟨_, by simpa using trims_text h hnone hnone, spells_text h⟩

/-- A text is read as a coin exactly if, trimmed, it is digits for an amount and then a denomination
that begins with none. Every other text is refused, as a fault of the configuration that names what
is missing or too large. What is written of a coin is read as that coin unless the denomination is
empty, begins with a digit or ends in a blank. -/
theorem parsing_law :
    (∀ s c, parse s = .ok c ↔ ∃ m, Text.Trims s.toList m ∧ Spells m c)
      ∧ (∀ s fault, parse s = .error fault ↔ ∃ m, Text.Trims s.toList m ∧ Refuses m fault)
      ∧ (∀ s, (∃ c, parse s = .ok c)
        ∨ ∃ fault, parse s = .error fault
          ∧ (Failure.configuration (.coin fault)).kind = .configError)
      ∧ ∀ c : Coin, parse c.text = .ok c ↔ Legible c.denom := by
  refine ⟨fun _ _ => parse_eq_ok_iff, fun _ _ => parse_eq_error_iff, fun s => ?_,
    fun _ => parse_text_iff⟩
  cases h : parse s with
  | ok c => exact .inl ⟨c, rfl⟩
  | error fault => exact .inr ⟨fault, rfl, rfl⟩

example : parse "\u3000007ibc/A.1, b\u00A0" = .ok ⟨"ibc/A.1, b", ⟨7, by decide⟩⟩ := by decide

/-! ## Lists of coins -/

/-- A piece that is not blank. -/
def Filled (p : List Char) : Prop := ∃ c ∈ p, Text.isBlank c = false

instance (p : List Char) : Decidable (Filled p) :=
  List.decidableBEx (fun c => Text.isBlank c = false) p

theorem filled_iff {p : List Char} : Filled p ↔ Text.trimChars p ≠ [] := by
  simp [Filled, Text.trimChars_eq_nil_iff]

/-- A list of coins is read piece by piece, without the blank ones. -/
theorem parseList_eq (s : String) :
    parseList s = ((Text.pieces (· == ',') s.toList).filter (Filled ·)).mapM
      fun p => parse (String.ofList p) := by
  have hitems : items s =
      ((Text.pieces (· == ',') s.toList).filter (Filled ·)).map Text.trimChars := by
    rw [items, List.filter_map]
    congr 2
    funext p
    rw [Function.comp_apply, Bool.eq_iff_iff]
    simp [filled_iff]
  have hpiece : (fun p => parse (String.ofList p)) = parseChars ∘ Text.trimChars := by
    funext p
    simp [parse]
  rw [parseList, hitems, List.mapM_map, hpiece]

/-- A list is read exactly if each of its pieces is that is not blank, and in their order. -/
theorem parseList_eq_ok_iff {s : String} {cs : List Coin} :
    parseList s = .ok cs ↔
      ∃ ps, Text.Separates ',' s.toList ps
        ∧ List.Forall₂ (fun p c => parse (String.ofList p) = .ok c) (ps.filter (Filled ·)) cs := by
  simp only [parseList_eq, mapM_eq_ok_iff, Text.separates_iff, exists_eq_left']

/-- A list is refused exactly if one of its pieces is, and with the fault of the first one. -/
theorem parseList_eq_error_iff {s : String} {fault : CoinFault} :
    parseList s = .error fault ↔
      ∃ before p after, Text.Separates ',' s.toList (before ++ p :: after) ∧ Filled p
        ∧ parse (String.ofList p) = .error fault
        ∧ ∀ q ∈ before, Filled q → ∃ c, parse (String.ofList q) = .ok c := by
  simp only [parseList_eq, mapM_eq_error_iff, Text.separates_iff, List.filter_eq_append_iff,
    List.filter_eq_cons_iff]
  constructor
  · rintro ⟨_, p, _, ⟨first, _, hps, rfl, between, after, rfl, hbetween, hp, rfl⟩, hfault, hread⟩
    refine ⟨first ++ between, p, after, by rw [hps, List.append_assoc], by simpa using hp, hfault,
      fun q hq hfilled => ?_⟩
    rcases List.mem_append.mp hq with hq | hq
    · exact hread q (List.mem_filter.mpr ⟨hq, by simpa using hfilled⟩)
    · exact absurd hfilled (by simpa using hbetween q hq)
  · rintro ⟨before, p, after, hps, hp, hfault, hread⟩
    refine ⟨before.filter (Filled ·), p, after.filter (Filled ·),
      ⟨before, p :: after, hps, rfl, [], after, rfl, nofun, by simpa using hp, rfl⟩, hfault,
      fun q hq => ?_⟩
    obtain ⟨hq, hfilled⟩ := List.mem_filter.mp hq
    exact hread q hq (by simpa using hfilled)

/-- Pieces that write coins out in their order: each in its own piece with any blanks around it, and
any blank pieces between them. -/
inductive Spread : List (List Char) → List Coin → Prop
  | nil : Spread [] []
  | blank {p : List Char} {ps : List (List Char)} {cs : List Coin}
      (hp : ∀ d ∈ p, Text.isBlank d = true) (h : Spread ps cs) : Spread (p :: ps) cs
  | coin {before after : List Char} {ps : List (List Char)} {c : Coin} {cs : List Coin}
      (hbefore : ∀ d ∈ before, Text.isBlank d = true) (hafter : ∀ d ∈ after, Text.isBlank d = true)
      (h : Spread ps cs) : Spread ((before ++ c.text.toList ++ after) :: ps) (c :: cs)

theorem filled_spread {c : Coin} (hlegible : Legible c.denom) {before after : List Char}
    (hbefore : ∀ d ∈ before, Text.isBlank d = true) (hafter : ∀ d ∈ after, Text.isBlank d = true) :
    Filled (before ++ c.text.toList ++ after) := by
  rw [filled_iff, (trims_text hlegible hbefore hafter).trimChars, toList_text]
  exact List.append_ne_nil_of_left_ne_nil (Text.numeral_ne_nil _) _

theorem parse_spread {c : Coin} (hlegible : Legible c.denom) {before after : List Char}
    (hbefore : ∀ d ∈ before, Text.isBlank d = true) (hafter : ∀ d ∈ after, Text.isBlank d = true) :
    parse (String.ofList (before ++ c.text.toList ++ after)) = .ok c := by
  refine parse_eq_ok_iff.mpr ⟨_, ?_, spells_text hlegible⟩
  rw [String.toList_ofList]
  exact trims_text hlegible hbefore hafter

theorem Spread.reads {ps : List (List Char)} {cs : List Coin} (h : Spread ps cs)
    (hlegible : ∀ c ∈ cs, Legible c.denom) :
    List.Forall₂ (fun p c => parse (String.ofList p) = .ok c) (ps.filter (Filled ·)) cs := by
  induction h with
  | nil => exact .nil
  | @blank p _ _ hp _ ih =>
      have hnot : ¬Filled p := fun ⟨d, hd, hblank⟩ => by simp [hp d hd] at hblank
      rw [List.filter_cons_of_neg (by simpa using hnot)]
      exact ih hlegible
  | coin hbefore hafter _ ih =>
      obtain ⟨hc, hcs⟩ := List.forall_mem_cons.mp hlegible
      rw [List.filter_cons_of_pos (by simpa using filled_spread hc hbefore hafter)]
      exact .cons (parse_spread hc hbefore hafter) (ih hcs)

/-- A comma is no blank and no digit, so it stands in no piece unless it does in a denomination. -/
theorem Spread.apart {ps : List (List Char)} {cs : List Coin} (h : Spread ps cs)
    (hdenom : ∀ c ∈ cs, ',' ∉ c.denom.toList) : ∀ p ∈ ps, ',' ∉ p := by
  have hblank {p : List Char} (hp : ∀ d ∈ p, Text.isBlank d = true) : ',' ∉ p := fun hcomma =>
    absurd (hp ',' hcomma) (by decide)
  induction h with
  | nil => exact nofun
  | blank hp _ ih => exact List.forall_mem_cons.mpr ⟨hblank hp, ih hdenom⟩
  | @coin before after _ c _ hbefore hafter _ ih =>
      obtain ⟨hc, hcs⟩ := List.forall_mem_cons.mp hdenom
      have hdigits : ',' ∉ Text.numeral c.amount.toNat := fun hcomma =>
        absurd (List.all_eq_true.mp (Text.all_isDigit_numeral _) ',' hcomma) (by decide)
      refine List.forall_mem_cons.mpr ⟨?_, ih hcs⟩
      simp [toList_text, hblank hbefore, hblank hafter, hdigits, hc]

theorem parseList_spread {ps : List (List Char)} {cs : List Coin} (h : Spread ps cs)
    (hcs : ∀ c ∈ cs, Legible c.denom ∧ ',' ∉ c.denom.toList) :
    parseList (String.ofList ([','].intercalate ps)) = .ok cs := by
  have hreads := h.reads fun c hc => (hcs c hc).1
  by_cases hsome : ps = []
  · subst hsome
    cases hreads
    rfl
  · refine parseList_eq_ok_iff.mpr ⟨ps, ⟨?_, ?_, hsome⟩, hreads⟩
    · rw [String.toList_ofList]
    · exact h.apart fun c hc => (hcs c hc).2

/-- A value gives a coin by its fields or by its text, with any blanks around it. -/
inductive Shows : Json → Coin → Prop
  | text {before after : List Char} {c : Coin} (hbefore : ∀ d ∈ before, Text.isBlank d = true)
      (hafter : ∀ d ∈ after, Text.isBlank d = true) :
      Shows (.str (String.ofList (before ++ c.text.toList ++ after))) c
  | fields {v : Json} {c : Coin} (h : Given v c) : Shows v c

theorem Shows.noted {v : Json} {c : Coin} (h : Shows v c) (hlegible : Legible c.denom) :
    Noted v c := by
  cases h with
  | text hbefore hafter => exact .inl ⟨_, rfl, parse_spread hlegible hbefore hafter⟩
  | fields h => exact .inr h

theorem decodeList_shows {items : List Json} {cs : List Coin} (h : List.Forall₂ Shows items cs)
    (hcs : ∀ c ∈ cs, Legible c.denom) : decodeList (.arr items) = .ok cs := by
  refine decodeList_eq_ok_iff.mpr ⟨items, rfl, ?_⟩
  induction h with
  | nil => exact .nil
  | cons hfirst _ ih =>
      obtain ⟨hc, hcs⟩ := List.forall_mem_cons.mp hcs
      exact .cons (hfirst.noted hc) (ih hcs)

theorem exists_forall₂_noted_iff {items : List Json} :
    (∃ cs, List.Forall₂ Noted items cs) ↔ ∀ v ∈ items, ∃ c, decode v = .ok c := by
  simp only [decode_eq_ok_iff]
  induction items with
  | nil => simp
  | cons v rest ih =>
      rw [List.forall_mem_cons, ← ih]
      constructor
      · rintro ⟨_, _ | ⟨hfirst, hrest⟩⟩
        exact ⟨⟨_, hfirst⟩, _, hrest⟩
      · rintro ⟨⟨c, hfirst⟩, cs, hrest⟩
        exact ⟨c :: cs, .cons hfirst hrest⟩

/-- One item that is no coin fails the whole list, and nothing else does. -/
theorem decodeList_fails_iff {items : List Json} :
    (∃ fault, decodeList (.arr items) = .error fault) ↔
      ∃ v ∈ items, ∃ fault, decode v = .error fault := by
  have hfails {α : Type} {r : Except DecodeFault α} :
      (∃ fault, r = .error fault) ↔ ¬∃ a, r = .ok a := by
    cases r <;> simp
  simp only [hfails, decodeList_eq_ok_iff, Json.arr.injEq, exists_eq_left',
    exists_forall₂_noted_iff]
  simp

/-- A list of coins is read piece by piece: it gives the coins of the pieces that are not blank, in
their order, or is refused with the fault of the first such piece that is no coin. So coins written
out with commas between them are read as these coins, with any blanks around them and any blank
pieces among them, and the same coins come of a structured list that shows each by its text or by
its fields; one item that is no coin fails such a list. -/
theorem list_law :
    (∀ s cs, parseList s = .ok cs ↔
        ∃ ps, Text.Separates ',' s.toList ps
          ∧ List.Forall₂ (fun p c => parse (String.ofList p) = .ok c) (ps.filter (Filled ·)) cs)
      ∧ (∀ s fault, parseList s = .error fault ↔
        ∃ before p after, Text.Separates ',' s.toList (before ++ p :: after) ∧ Filled p
          ∧ parse (String.ofList p) = .error fault
          ∧ ∀ q ∈ before, Filled q → ∃ c, parse (String.ofList q) = .ok c)
      ∧ (∀ ps cs, Spread ps cs → (∀ c ∈ cs, Legible c.denom ∧ ',' ∉ c.denom.toList) →
        parseList (String.ofList ([','].intercalate ps)) = .ok cs)
      ∧ (∀ items cs, List.Forall₂ Shows items cs → (∀ c ∈ cs, Legible c.denom) →
        decodeList (.arr items) = .ok cs)
      ∧ ∀ items, (∃ fault, decodeList (.arr items) = .error fault) ↔
        ∃ v ∈ items, ∃ fault, decode v = .error fault :=
  ⟨fun _ _ => parseList_eq_ok_iff, fun _ _ => parseList_eq_error_iff,
    fun _ _ => parseList_spread, fun _ _ => decodeList_shows, fun _ => decodeList_fails_iff⟩

/-- Two coins with a blank piece between them, as a text and item by item. -/
theorem list_law_of_two_coins :
    let first : Coin := ⟨"uosmo", ⟨7, by decide⟩⟩
    let second : Coin := ⟨"ibc/A", ⟨10, by decide⟩⟩
    parseList " 7uosmo,,10ibc/A" = .ok [first, second]
      ∧ decodeList (.arr [.str " 7uosmo", second.encode]) = .ok [first, second] := by
  intro first second
  have hlegible : ∀ c ∈ [first, second], Legible c.denom ∧ ',' ∉ c.denom.toList :=
    List.forall_mem_cons.mpr
      ⟨⟨by decide, by decide⟩, List.forall_mem_cons.mpr ⟨⟨by decide, by decide⟩, nofun⟩⟩
  have hblank : ∀ d ∈ [' '], Text.isBlank d = true := List.all_eq_true.mp rfl
  have hspread : Spread [[' '] ++ first.text.toList ++ [], [], [] ++ second.text.toList ++ []]
      [first, second] :=
    .coin hblank nofun (.blank nofun (.coin nofun nofun .nil))
  have hshows : List.Forall₂ Shows
      [.str (String.ofList ([' '] ++ first.text.toList ++ [])), second.encode] [first, second] :=
    .cons (.text hblank nofun) (.cons (.fields (given_encode _)) .nil)
  have hjoined : " 7uosmo,,10ibc/A" = String.ofList ([','].intercalate
      [[' '] ++ first.text.toList ++ [], [], [] ++ second.text.toList ++ []]) := by decide
  have hitem : " 7uosmo" = String.ofList ([' '] ++ first.text.toList ++ []) := by decide
  rw [hjoined, hitem]
  exact ⟨list_law.2.2.1 _ _ hspread hlegible,
    list_law.2.2.2.1 _ _ hshows fun c hc => (hlegible c hc).1⟩

end Rollout.Coin
