import Rollout.Proofs.Settings.Layering
import Rollout.Proofs.Settings.Validity
import Rollout.Proofs.Text.Pieces

/-!
# Texts that are given by variables

A variable holds nothing but text, and what it holds is first read as a truth value or a number. For
a leaf that is a text the value is printed again, so the text arrives as the printed form of what it
was read as (`Layer.Arrives`): `007` as `7`, `TRUE` as `true`, `1e3` as `1000`. Everything that is
no truth value and no number arrives as it is (`Settings.arrival_law`).

A gas price arrives as it is in any case, since no printed truth value or number is one: there is no
denomination after a number (`GasPrice.not_parse_of_bare`).
-/

namespace Rollout

open Json

/-! ## What a text arrives as -/

namespace Layer

/-- A text is neither of the two truth values, in small or capital letters. -/
def NoTruth (t : String) : Prop := t.map Char.toLower ≠ "true" ∧ t.map Char.toLower ≠ "false"

/-- A text is no whole number of 64 bits. -/
def NoWhole (t : String) : Prop := ∀ n, Text.readInt? t.toList = some n → Text.isInt64 n = false

/-- What the text of a variable arrives as: a truth value or a number is printed again. -/
inductive Arrives (t : String) : String → Prop
  | yes (h : t.map Char.toLower = "true") : Arrives t "true"
  | no (h : t.map Char.toLower = "false") : Arrives t "false"
  | whole {n : Int} (htruth : NoTruth t) (hread : Text.readInt? t.toList = some n)
      (hn : Text.isInt64 n = true) : Arrives t (toString n)
  | number {x : Float} (htruth : NoTruth t) (hwhole : NoWhole t)
      (hread : Decimal.readLiteral? t.toList = some x) : Arrives t (Decimal.plainText x)
  | text (htruth : NoTruth t) (hwhole : NoWhole t) (hread : Decimal.readLiteral? t.toList = none) :
      Arrives t t

variable {t : String}

theorem valueOfText_of_noTruth (h : NoTruth t) :
    valueOfText t =
      match (Text.readInt? t.toList).filter Text.isInt64 with
      | some n => .int n
      | none =>
        match Decimal.readLiteral? t.toList with
        | some x => .real x
        | none => .str t :=
  (if_neg h.1).trans (if_neg h.2)

theorem filter_of_noWhole (h : NoWhole t) :
    (Text.readInt? t.toList).filter Text.isInt64 = none := by
  rw [Option.filter_eq_none_iff]
  intro n hn
  simp [h n hn]

theorem text_of_arrives {u : String} (h : Arrives t u) :
    Conversion.text (valueOfText t) = .ok u := by
  cases h with
  | yes h =>
      rw [valueOfText, if_pos h]
      rfl
  | no h =>
      have hyes : t.map Char.toLower ≠ "true" := by
        rw [h]
        decide
      rw [valueOfText, if_neg hyes, if_pos h]
      rfl
  | whole htruth hread hn =>
      rw [valueOfText_of_noTruth htruth, hread, Option.filter_some_pos hn]
      rfl
  | number htruth hwhole hread =>
      rw [valueOfText_of_noTruth htruth, filter_of_noWhole hwhole, hread]
      rfl
  | text htruth hwhole hread =>
      rw [valueOfText_of_noTruth htruth, filter_of_noWhole hwhole, hread]
      rfl

theorem exists_arrives (t : String) : ∃ u, Arrives t u := by
  by_cases hyes : t.map Char.toLower = "true"
  · exact ⟨_, .yes hyes⟩
  by_cases hno : t.map Char.toLower = "false"
  · exact ⟨_, .no hno⟩
  by_cases hwhole : NoWhole t
  · cases hread : Decimal.readLiteral? t.toList with
    | some x => exact ⟨_, .number ⟨hyes, hno⟩ hwhole hread⟩
    | none => exact ⟨t, .text ⟨hyes, hno⟩ hwhole hread⟩
  · simp only [NoWhole, not_forall, Bool.not_eq_false] at hwhole
    obtain ⟨n, hread, hn⟩ := hwhole
    exact ⟨_, .whole ⟨hyes, hno⟩ hread hn⟩

/-- A text arrives as one text, which is the one it is read as. -/
theorem text_valueOfText_iff {u : String} :
    Conversion.text (valueOfText t) = .ok u ↔ Arrives t u := by
  refine ⟨fun h => ?_, text_of_arrives⟩
  obtain ⟨u', hu'⟩ := exists_arrives t
  obtain rfl := Except.ok.inj (h.symm.trans (text_of_arrives hu'))
  exact hu'

theorem valueOfText_ne_null (t : String) : valueOfText t ≠ .null := by
  obtain ⟨u, hu⟩ := exists_arrives t
  intro hnull
  have h := text_of_arrives hu
  rw [hnull] at h
  cases h

/-! ## Printed whole numbers -/

theorem toList_toString_negSucc (n : Nat) :
    (toString (Int.negSucc n)).toList = '-' :: Text.numeral (n + 1) := by
  change ("-" ++ String.ofList (Text.numeral (n + 1))).toList = _
  simp

theorem toList_toString_ofNat (n : Nat) : (toString (Int.ofNat n)).toList = Text.numeral n :=
  String.toList_ofList

theorem isDigit_of_mem_numeral {n : Nat} {c : Char} (h : c ∈ Text.numeral n) : c.isDigit = true :=
  List.all_eq_true.mp (Text.all_isDigit_numeral n) c h

theorem readInt?_toString : ∀ n : Int, Text.readInt? (toString n).toList = some n
  | .ofNat n => by
      rw [toList_toString_ofNat]
      cases hcs : Text.numeral n with
      | nil => exact absurd hcs (Text.numeral_ne_nil n)
      | cons c cs =>
          have hdigit : c.isDigit = true :=
            isDigit_of_mem_numeral (hcs ▸ List.mem_cons_self)
          have hread : Text.readInt? (c :: cs) = (Text.readNat? (c :: cs)).map Int.ofNat := by
            rw [Text.readInt?.eq_3] <;> intro rest hrest <;>
            · obtain rfl := (List.cons.inj hrest).1
              simp at hdigit
          rw [hread, ← hcs, Text.readNat?_numeral]
          rfl
  | .negSucc n => by
      rw [toList_toString_negSucc, Text.readInt?, Text.readNat?_numeral]
      rfl

theorem noTruth_of_head {c : Char} {cs : List Char} (h : t.toList = c :: cs)
    (hyes : c.toLower ≠ 't') (hno : c.toLower ≠ 'f') : NoTruth t := by
  constructor
  · intro heq
    have hcs := congrArg String.toList heq
    rw [String.toList_map, h] at hcs
    exact hyes (List.cons.inj hcs).1
  · intro heq
    have hcs := congrArg String.toList heq
    rw [String.toList_map, h] at hcs
    exact hno (List.cons.inj hcs).1

theorem toLower_of_isDigit {c : Char} (h : c.isDigit = true) : c.toLower = c := by
  have hsmall : ¬(c.val ≥ 'A'.val ∧ c.val ≤ 'Z'.val) := by
    obtain ⟨-, hhigh⟩ := Text.toNat_of_isDigit h
    rintro ⟨hlow, -⟩
    have hlow : 65 ≤ c.toNat := hlow
    omega
  exact dif_neg hsmall

/-- A whole number arrives as it is if it is written as it is printed. -/
theorem arrives_toString {n : Int} (h : Text.isInt64 n = true) :
    Arrives (toString n) (toString n) := by
  have htruth : NoTruth (toString n) := by
    cases n with
    | ofNat n =>
        have hcs := toList_toString_ofNat n
        cases hnumeral : Text.numeral n with
        | nil => exact absurd hnumeral (Text.numeral_ne_nil n)
        | cons c cs =>
            have hdigit : c.isDigit = true :=
              isDigit_of_mem_numeral (hnumeral ▸ List.mem_cons_self)
            refine noTruth_of_head (hcs.trans hnumeral) ?_ ?_ <;>
            · rw [toLower_of_isDigit hdigit]
              rintro rfl
              simp at hdigit
    | negSucc n => exact noTruth_of_head (toList_toString_negSucc n) (by decide) (by decide)
  exact .whole htruth (readInt?_toString n) h

end Layer

/-! ## Printed values and gas prices -/

namespace GasPrice

/-- A text that is nothing but an amount, or does not begin with one. -/
inductive Bare (cs : List Char) : Prop
  | amount (h : ∀ c ∈ cs, isAmountChar c = true)
  | other {c : Char} {rest : List Char} (h : cs = c :: rest) (hamount : isAmountChar c = false)
      (hblank : Text.isBlank c = false)

theorem bare_trimmed {cs : List Char} (h : Bare cs) : Bare (Text.trimChars cs) := by
  obtain ⟨⟨before, after, hcs, hbefore, hafter⟩, -, -⟩ := Text.trims_trimChars cs
  generalize Text.trimChars cs = m at hcs
  cases h with
  | amount h =>
      refine .amount fun c hc => h c ?_
      rw [hcs]
      simp [hc]
  | other h hamount hblank =>
      rw [h] at hcs
      cases before with
      | cons b before =>
          obtain rfl := (List.cons.inj hcs).1
          cases (hbefore _ List.mem_cons_self).symm.trans hblank
      | nil =>
          cases m with
          | nil =>
              obtain rfl : _ = after := hcs
              cases (hafter _ List.mem_cons_self).symm.trans hblank
          | cons b m =>
              obtain rfl := (List.cons.inj hcs).1
              exact .other rfl hamount hblank

/-- There is no denomination after an amount, and no amount before another text. -/
theorem not_parse_of_bare {s : String} (h : Bare s.toList) (p : GasPrice) : parse s ≠ .ok p := by
  intro hparse
  rw [parse, parseChars] at hparse
  cases bare_trimmed h with
  | amount h =>
      have hdenom : (Text.trimChars s.toList).dropWhile isAmountChar = [] :=
        List.dropWhile_eq_nil_iff.mpr h
      simp [hdenom] at hparse
  | @other c rest h hamount _ =>
      have hdenom : (Text.trimChars s.toList).dropWhile isAmountChar = c :: rest := by
        simp [h, hamount]
      have hamount : (Text.trimChars s.toList).takeWhile isAmountChar = [] := by
        simp [h, hamount]
      have hread : Decimal.readAmount? [] = none := rfl
      simp [hdenom, hamount, hread] at hparse

end GasPrice

namespace Decimal

open GasPrice (isAmountChar Bare)

theorem isAmountChar_of_isDigit {c : Char} (h : c.isDigit = true) : isAmountChar c = true := by
  rw [isAmountChar, h, Bool.true_or]

theorem isAmountChar_of_mem_positional {digits : List Char} {places : Nat}
    (h : ∀ c ∈ digits, isAmountChar c = true) :
    ∀ c ∈ positional digits places, isAmountChar c = true := by
  intro c hc
  rw [positional] at hc
  by_cases hplaces : places = 0
  · rw [if_pos hplaces] at hc
    exact h c hc
  · rw [if_neg hplaces] at hc
    have hpadded : ∀ d ∈ List.replicate (places + 1 - digits.length) '0' ++ digits,
        isAmountChar d = true := by
      intro d hd
      rcases List.mem_append.mp hd with hd | hd
      · obtain rfl := List.eq_of_mem_replicate hd
        rfl
      · exact h d hd
    rcases List.mem_append.mp hc with hc | hc
    · exact hpadded c (List.mem_of_mem_take hc)
    · rcases List.mem_cons.mp hc with rfl | hc
      · rfl
      · exact hpadded c (List.mem_of_mem_drop hc)

theorem isAmountChar_of_mem_plain {d : Expansion} : ∀ c ∈ d.plain, isAmountChar c = true := by
  have hnumeral : ∀ c ∈ Text.numeral d.digits, isAmountChar c = true := fun c hc =>
    isAmountChar_of_isDigit (Layer.isDigit_of_mem_numeral hc)
  intro c hc
  rw [Expansion.plain] at hc
  split at hc
  · rcases List.mem_append.mp hc with hc | hc
    · exact hnumeral c hc
    · obtain rfl := List.eq_of_mem_replicate hc
      rfl
  · exact isAmountChar_of_mem_positional hnumeral c hc

/-- A printed double is an amount, or begins with a sign or a letter. -/
theorem bare_plainText (x : Float) : Bare (plainText x).toList := by
  rw [plainText]
  split
  · exact .other rfl (by decide) (by decide)
  · next negative _ =>
    cases negative
    · exact .other rfl (by decide) (by decide)
    · exact .other rfl (by decide) (by decide)
  · next b _ =>
    rw [String.toList_ofList]
    cases b.negative with
    | true => exact .other rfl (by decide) (by decide)
    | false =>
        refine .amount fun c hc => ?_
        by_cases hzero : b.mantissa = 0
        · rw [if_pos hzero] at hc
          obtain rfl := List.mem_singleton.mp hc
          rfl
        · rw [if_neg hzero] at hc
          exact isAmountChar_of_mem_plain c hc

end Decimal

/-- A printed whole number is an amount, or begins with a sign. -/
theorem Layer.bare_toString : ∀ n : Int, GasPrice.Bare (toString n).toList
  | .ofNat n => by
      rw [toList_toString_ofNat]
      exact .amount fun c hc => Decimal.isAmountChar_of_isDigit (isDigit_of_mem_numeral hc)
  | .negSucc n => .other (toList_toString_negSucc n) (by decide) (by decide)

/-- A text that arrives as a gas price arrives as it is. -/
theorem Layer.Arrives.eq_of_price {t u : String} {p : GasPrice} (h : Arrives t u)
    (hparse : GasPrice.parse u = .ok p) : u = t := by
  cases h with
  | yes _ => exact absurd hparse (GasPrice.not_parse_of_bare (.other rfl (by decide) (by decide)) p)
  | no _ => exact absurd hparse (GasPrice.not_parse_of_bare (.other rfl (by decide) (by decide)) p)
  | whole _ _ _ => exact absurd hparse (GasPrice.not_parse_of_bare (bare_toString _) p)
  | number _ _ _ => exact absurd hparse (GasPrice.not_parse_of_bare (Decimal.bare_plainText _) p)
  | text _ _ _ => rfl

/-! ## Leaves that are texts -/

namespace Settings

/-- The leaves that are texts: the keys that lead to them, and what they are in settings. -/
def texts : List (List String × (Settings → Option String)) :=
  [(["network", "network_name"], fun r => some r.network.networkName),
    (["network", "chain_id"], fun r => some r.network.chainId),
    (["network", "rpc_url"], fun r => some r.network.rpcUrl),
    (["network", "account_prefix"], fun r => some r.network.accountPrefix),
    (["network", "gas_price"], fun r => some r.network.gasPrice),
    (["network", "faucet_url"], fun r => r.network.faucetUrl),
    (["driver", "artifacts_dir"], fun r => some r.driver.artifactsDir),
    (["mnemonic"], fun r => r.mnemonic)]

end Settings

/-- What is read as a leaf is read as a text, and is this part of a record. -/
def Leaf.Spells (l : Leaf σ) (get : σ → Option String) : Prop :=
  ∀ v s, v ≠ .null → l.read v = .ok (l.get s) → ∃ u, Conversion.text v = .ok u ∧ get s = some u

namespace Leaf

/-- A text of a network, as a leaf of the settings. -/
def textOfNetwork (name : String) (get : Network → String) : Leaf Settings :=
  .within "network" Settings.network (.field name Conversion.text Conversion.text_simple get)

theorem spells_textOfNetwork (name : String) (get : Network → String) :
    (textOfNetwork name get).Spells fun r => some (get r.network) :=
  fun _ r _ hr => ⟨get r.network, hr, rfl⟩

theorem spells_option {l : Leaf σ} {get : σ → Option String}
    (h : ∀ v s, l.read v = .ok (l.get s) → Decode.option Conversion.text v = .ok (get s)) :
    l.Spells get := by
  intro v s hnull hread
  rcases Decode.option_eq_ok_iff.mp (h v s hread) with ⟨rfl, -⟩ | ⟨-, u, hu, hget⟩
  · exact absurd rfl hnull
  · exact ⟨u, hu, hget⟩

end Leaf

namespace Settings

/-- Each of the texts is a leaf. -/
theorem leaf_of_text {keys : List String} {get : Settings → Option String}
    (h : (keys, get) ∈ texts) : ∃ l ∈ leaves, l.keys = keys ∧ l.Spells get := by
  simp only [texts, List.mem_cons, List.not_mem_nil, or_false, Prod.mk.injEq] at h
  rcases h with ⟨rfl, rfl⟩ | ⟨rfl, rfl⟩ | ⟨rfl, rfl⟩ | ⟨rfl, rfl⟩ | ⟨rfl, rfl⟩ | ⟨rfl, rfl⟩ |
    ⟨rfl, rfl⟩ | ⟨rfl, rfl⟩
  · exact ⟨.textOfNetwork "network_name" Network.networkName,
      by simp [Leaf.textOfNetwork, leaves, Network.leaves], rfl, Leaf.spells_textOfNetwork _ _⟩
  · exact ⟨.textOfNetwork "chain_id" Network.chainId,
      by simp [Leaf.textOfNetwork, leaves, Network.leaves], rfl, Leaf.spells_textOfNetwork _ _⟩
  · exact ⟨.textOfNetwork "rpc_url" Network.rpcUrl,
      by simp [Leaf.textOfNetwork, leaves, Network.leaves], rfl, Leaf.spells_textOfNetwork _ _⟩
  · exact ⟨.textOfNetwork "account_prefix" Network.accountPrefix,
      by simp [Leaf.textOfNetwork, leaves, Network.leaves], rfl, Leaf.spells_textOfNetwork _ _⟩
  · exact ⟨.textOfNetwork "gas_price" Network.gasPrice,
      by simp [Leaf.textOfNetwork, leaves, Network.leaves], rfl, Leaf.spells_textOfNetwork _ _⟩
  · exact ⟨.within "network" network (.fieldD "faucet_url" (Decode.option Conversion.text)
      Conversion.text_simple.option none Network.faucetUrl), by simp [leaves, Network.leaves], rfl,
      Leaf.spells_option fun _ _ hr => hr⟩
  · exact ⟨.within "driver" driver (.field "artifacts_dir" Conversion.text Conversion.text_simple
      RunPolicy.artifactsDir), by simp [leaves, RunPolicy.leaves], rfl,
      fun _ _ _ hr => ⟨_, hr, rfl⟩⟩
  · exact ⟨.fieldD "mnemonic" (Decode.option Conversion.text) Conversion.text_simple.option none
      mnemonic, by simp [leaves], rfl, Leaf.spells_option fun _ _ hr => hr⟩

/-- The gas price is the only text at its keys. -/
theorem get_of_gas_price {get : Settings → Option String}
    (h : (["network", "gas_price"], get) ∈ texts) : get = fun r => some r.network.gasPrice := by
  simpa [texts] using h

/-- A leaf that is a text is what its variable arrives as, provided that no later variable is for
the leaf or puts anything but a table on the way to it. So it is the text of the variable exactly if
this is no truth value and no number, or is printed as it is written. A whole number that is written
as it is printed arrives as it is, and so does everything that arrives as a gas price at all. -/
theorem arrival_law (s : Surroundings) (path network : Option String) {r : Settings}
    {keys : List String} {get : Settings → Option String} {t : String}
    {before after : List (String × String)} (hleaf : (keys, get) ∈ texts)
    (henv : s.environment = before ++ (Layer.variableFor keys, t) :: after)
    (htables : (Layer.ofVariables after).KeepsTables)
    (hlast : (Layer.ofVariables after).standing keys = []) (hload : load s path network = .ok r) :
    (∃ u, get r = some u ∧ Layer.Arrives t u)
      ∧ (get r = some t ↔ Layer.Arrives t t)
      ∧ (∀ n, Text.isInt64 n = true → t = toString n → get r = some t)
      ∧ (keys = ["network", "gas_price"] → get r = some t) := by
  obtain ⟨l, hl, rfl, htext⟩ := leaf_of_text hleaf
  obtain ⟨n, -, hover⟩ := load_eq_ok_iff.mp hload
  have hread : l.read (Layer.valueOfText t) = .ok (l.get r) :=
    read_variable hl henv htables hlast hover
  obtain ⟨u, hu, hget⟩ := htext _ r (Layer.valueOfText_ne_null t) hread
  have harrives : Layer.Arrives t u := Layer.text_valueOfText_iff.mp hu
  have hself : get r = some t ↔ Layer.Arrives t t := by
    rw [hget]
    constructor
    · intro h
      obtain rfl := Option.some.inj h
      exact harrives
    · intro h
      exact congrArg some (Except.ok.inj (hu.symm.trans (Layer.text_of_arrives h)))
  refine ⟨⟨u, hget, harrives⟩, hself, ?_, ?_⟩
  · rintro n hn rfl
    exact hself.mpr (Layer.arrives_toString hn)
  · intro hkeys
    rw [hkeys] at hleaf
    obtain rfl := get_of_gas_price hleaf
    obtain ⟨price, hprice⟩ := ((validate_eq_ok_iff r).mp (valid_of_loadAbove hover)).priced
    obtain rfl := Option.some.inj hget
    exact congrArg some (harrives.eq_of_price (mapError_eq_ok_iff.mp hprice))

/-- The name `TRUE` arrives in small letters. -/
theorem arrival_law_of_capitals :
    let s : Surroundings :=
      { environment := [("ETF_NETWORK__NETWORK_NAME", "TRUE")]
        files := Files.ofList "/w" [], configHome := "/w/xdg" }
    (["network", "network_name"], fun r : Settings => some r.network.networkName) ∈ texts
      ∧ s.environment = [] ++ (Layer.variableFor ["network", "network_name"], "TRUE") :: []
      ∧ (Layer.ofVariables []).KeepsTables
      ∧ (Layer.ofVariables []).standing ["network", "network_name"] = []
      ∧ ∃ r, load s none none = .ok r ∧ Layer.Arrives "TRUE" r.network.networkName
        ∧ r.network.networkName = "true" := by
  intro s
  have hleaf : (["network", "network_name"],
      fun r : Settings => some r.network.networkName) ∈ texts :=
    List.mem_cons_self
  have henv : s.environment =
      [] ++ (Layer.variableFor ["network", "network_name"], "TRUE") :: [] := by
    decide +kernel
  have htables : (Layer.ofVariables []).KeepsTables := by decide
  obtain ⟨r, hload, -⟩ := exists_ok_of_any (r := load s none none) (p := fun _ => true)
    (by decide +kernel)
  obtain ⟨⟨u, hu, harrives⟩, -⟩ := arrival_law s none none hleaf henv htables rfl hload
  obtain rfl := Option.some.inj hu
  refine ⟨hleaf, henv, htables, rfl, r, hload, harrives, ?_⟩
  exact Except.ok.inj ((Layer.text_of_arrives harrives).symm.trans (Layer.text_of_arrives
    (.yes (by decide +kernel))))

/-- The name `007` of a chain arrives as `7`. -/
theorem chain_renumbered :
    let s : Surroundings :=
      { environment := [("ETF_NETWORK__CHAIN_ID", "007")]
        files := Files.ofList "/w" [], configHome := "/w/xdg" }
    ∃ r, load s none none = .ok r ∧ r.network.chainId = "7" := by
  intro s
  obtain ⟨r, hload, hchain⟩ := exists_ok_of_any (r := load s none none)
    (p := fun r => r.network.chainId = "7") (by decide +kernel)
  exact ⟨r, hload, of_decide_eq_true hchain⟩

end Settings

end Rollout
