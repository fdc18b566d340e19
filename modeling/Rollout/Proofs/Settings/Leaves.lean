import Rollout.Proofs.Settings.Places

/-!
# The leaves of the settings

Settings are records of records, and a configuration gives them as tables of tables. A leaf is one
of the seventeen values at the ends: it has the keys that lead to it, a reader, and the part of the
settings that it is. `Settings.leaves` lists all of them.

Two facts carry what is said about leaves. Whoever reads settings from a configuration reads each
leaf from what stands at it (`Settings.leaves_read`), provided there are tables on the way, as a
list is read as a record too; and what is there without any other source holds each leaf of the
settings of the network (`Settings.leaves_held`). `Layer.KeepsTables` says for a layer that it puts
nothing but tables where the settings have records.
-/

namespace Rollout

open Json

/-- A reader that reads no list and no table. -/
def Decode.Simple (read : Decode α) : Prop := ∀ {v a}, read v = .ok a → ¬v.Compound

/-- A simple value in a record: the keys that lead to it, how it is read, what it is if nothing
stands there, and the part of the record that it is. -/
structure Leaf (σ : Type) where
  {Value : Type}
  keys : List String
  named : keys ≠ []
  read : Decode Value
  simple : read.Simple
  absent : Option Value
  get : σ → Value

namespace Leaf

def place (l : Leaf σ) : Place := .ofKeys l.keys

/-- A field that has to be there. -/
def field (name : String) (read : Decode α) (h : read.Simple) (get : σ → α) : Leaf σ :=
  ⟨[name], List.cons_ne_nil _ _, read, h, none, get⟩

/-- A field that has a value if it is left out. -/
def fieldD (name : String) (read : Decode α) (h : read.Simple) (default : α) (get : σ → α) :
    Leaf σ :=
  ⟨[name], List.cons_ne_nil _ _, read, h, some default, get⟩

/-- A leaf of a part, seen from the whole. -/
def within (name : String) (part : σ → τ) (l : Leaf τ) : Leaf σ :=
  { l with
    keys := name :: l.keys
    named := List.cons_ne_nil _ _
    get := fun s => l.get (part s) }

/-- A leaf stands in a table if the way to it is open. -/
theorem exists_fields (l : Leaf σ) {v : Json} (h : v.Open l.keys) : ∃ fields, v = .obj fields := by
  obtain ⟨k, keys, hkeys⟩ := List.exists_cons_of_ne_nil l.named
  rw [hkeys] at h
  obtain ⟨fields, rfl, -⟩ := h
  exact ⟨fields, rfl⟩

/-- In an empty table the way to a leaf is open, and nothing stands there. -/
theorem open_empty (l : Leaf σ) : (Json.obj []).Open l.keys := by
  obtain ⟨k, keys, hkeys⟩ := List.exists_cons_of_ne_nil l.named
  exact hkeys ▸ ⟨[], rfl, nofun⟩

theorem at?_empty (l : Leaf σ) : (Json.obj []).at? l.place = none := by
  obtain ⟨k, keys, hkeys⟩ := List.exists_cons_of_ne_nil l.named
  rw [place, hkeys]
  rfl

/-- What stands at a leaf, if anything does, makes it what it is in a record. -/
def Gives (l : Leaf σ) (s : σ) : Option Json → Prop
  | some v => l.read v = .ok (l.get s)
  | none => l.absent = some (l.get s)

/-- What is left of values that are put at a leaf makes it what the last of them says. -/
theorem gives_left {l : Leaf σ} {s : σ} {vs : List Json} {o : Option Json} (hleft : Left none vs o)
    (h : l.Gives s o) : l.Gives s vs.getLast? := by
  cases hleft with
  | untouched => exact h
  | replaced before hv => simpa using h
  | mixed before hv hw => exact absurd hw (l.simple h)

end Leaf

/-! ## Readers of simple values -/

namespace Conversion

theorem text_simple : text.Simple := by
  rintro v a h ⟨⟩ <;> cases h

theorem bool_simple : bool.Simple := by
  rintro v a h ⟨⟩ <;> cases h

theorem natural_simple : natural.Simple := by
  rintro v a h ⟨⟩ <;> cases h

theorem uint64_simple : uint64.Simple := by
  intro v a h
  obtain ⟨n, hn, -⟩ := map_eq_ok_iff.mp h
  exact natural_simple hn

theorem uint32_simple : uint32.Simple := by
  intro v a h
  obtain ⟨n, hn, -⟩ := bind_eq_ok_iff.mp h
  exact natural_simple hn

theorem double_simple : double.Simple := by
  rintro v a h ⟨⟩ <;> cases h

end Conversion

theorem Decode.Simple.option {read : Decode α} (h : read.Simple) : (Decode.option read).Simple := by
  intro v a ha
  rcases Decode.option_eq_ok_iff.mp ha with ⟨rfl, -⟩ | ⟨-, a, ha, -⟩
  · exact nofun
  · exact h ha

/-! ## The leaves of each record -/

def RetryPolicy.leaves : List (Leaf RetryPolicy) :=
  [.field "max_retries" Conversion.uint32 Conversion.uint32_simple maxRetries,
    .field "initial_backoff_ms" Conversion.uint64 Conversion.uint64_simple initialBackoffMs,
    .field "backoff_multiplier" Conversion.double Conversion.double_simple backoffMultiplier]

def RunPolicy.leaves : List (Leaf RunPolicy) :=
  [.field "operation_timeout_secs" Conversion.uint64 Conversion.uint64_simple operationTimeoutSecs,
    .field "scenario_timeout_secs" Conversion.uint64 Conversion.uint64_simple scenarioTimeoutSecs,
    .field "continue_on_failure" Conversion.bool Conversion.bool_simple continueOnFailure,
    .field "artifacts_dir" Conversion.text Conversion.text_simple artifactsDir] ++
  RetryPolicy.leaves.map (.within "retry" retry)

def Network.leaves : List (Leaf Network) :=
  [.field "network_name" Conversion.text Conversion.text_simple networkName,
    .field "chain_id" Conversion.text Conversion.text_simple chainId,
    .field "rpc_url" Conversion.text Conversion.text_simple rpcUrl,
    .field "account_prefix" Conversion.text Conversion.text_simple accountPrefix,
    .field "gas_price" Conversion.text Conversion.text_simple gasPrice,
    .field "gas_adjustment" Conversion.double Conversion.double_simple gasAdjustment,
    .fieldD "gas_limit" (Decode.option Conversion.uint64) Conversion.uint64_simple.option none
      gasLimit,
    .fieldD "faucet_url" (Decode.option Conversion.text) Conversion.text_simple.option none
      faucetUrl]

def Settings.leaves : List (Leaf Settings) :=
  Network.leaves.map (.within "network" network) ++
  RunPolicy.leaves.map (.within "driver" driver) ++
  [.fieldD "mnemonic" (Decode.option Conversion.text) Conversion.text_simple.option none mnemonic,
    .fieldD "account_index" Conversion.uint32 Conversion.uint32_simple 0 accountIndex]

/-! ## Reading leaves -/

/-- A shape reads each of some leaves from what stands at it in a table. -/
def Shape.ReadsLeaves (shape : Shape σ) (leaves : List (Leaf σ)) : Prop :=
  ∀ l ∈ leaves, ∀ fields s, (Json.obj fields).Open l.keys →
    shape.read ⟨fields, false⟩ = .ok s → l.Gives s ((Json.obj fields).at? l.place)

namespace Leaf

variable {fields : List (String × Json)} {name : String} {read : Decode α} {s : σ}

theorem gives_field {simple : read.Simple} {get : σ → α}
    (h : ∃ v, lookup fields name = some v ∧ read v = .ok (get s)) :
    (field name read simple get).Gives s ((Json.obj fields).at? (.ofKeys [name])) := by
  obtain ⟨v, hv, hread⟩ := h
  have hat : (Json.obj fields).at? (.ofKeys [name]) = some v := by
    simp [Place.ofKeys, at?, hv]
  rw [hat]
  exact hread

theorem gives_fieldD {simple : read.Simple} {default : α} {get : σ → α}
    (h : (∃ v, lookup fields name = some v ∧ read v = .ok (get s)) ∨
      (lookup fields name = none ∧ default = get s)) :
    (fieldD name read simple default get).Gives s ((Json.obj fields).at? (.ofKeys [name])) := by
  rcases h with ⟨v, hv, hread⟩ | ⟨hv, hdefault⟩
  · have hat : (Json.obj fields).at? (.ofKeys [name]) = some v := by
      simp [Place.ofKeys, at?, hv]
    rw [hat]
    exact hread
  · have hat : (Json.obj fields).at? (.ofKeys [name]) = none := by
      simp [Place.ofKeys, at?, hv]
    rw [hat]
    exact congrArg some hdefault

theorem gives_within_iff {part : σ → τ} {l : Leaf τ} {o : Option Json} :
    (l.within name part).Gives s o ↔ l.Gives (part s) o := by
  cases o <;> rfl

/-- The leaves of a record in a record are read where it stands. -/
theorem gives_within {leaves : List (Leaf τ)} {shape : Shape τ} {part : σ → τ}
    (hleaves : shape.ReadsLeaves leaves)
    (h : ∃ v, lookup fields name = some v ∧ shape.decodeLong v = .ok (part s)) {l : Leaf τ}
    (hl : l ∈ leaves) (hopen : (Json.obj fields).Open (name :: l.keys)) :
    (l.within name part).Gives s ((Json.obj fields).at? (l.within name part).place) := by
  obtain ⟨v, hv, hread⟩ := h
  have hat : (Json.obj fields).at? (l.within name part).place = v.at? l.place := by
    simp [place, within, Place.ofKeys, at?, hv]
  obtain ⟨_, heq, hfields⟩ := hopen
  cases heq
  have hinner : v.Open l.keys := hfields v hv
  obtain ⟨inner, rfl⟩ := l.exists_fields hinner
  rw [hat, gives_within_iff]
  exact hleaves l hl inner (part s) hinner (mapError_eq_ok_iff.mp hread)

end Leaf

theorem RetryPolicy.leaves_read : (shapeFor Conversion.readers).ReadsLeaves leaves := by
  intro l hl fields s hopen h
  simp only [shapeFor, Shape.read_field, Shape.read_of, Conversion.readers] at h
  obtain ⟨_, multiplier, ⟨_, backoff, ⟨_, retries, rfl, hretries, rfl⟩, hbackoff, rfl⟩,
    hmultiplier, rfl⟩ := h
  simp only [leaves, List.mem_cons, List.not_mem_nil, or_false] at hl
  rcases hl with rfl | rfl | rfl
  · exact Leaf.gives_field hretries
  · exact Leaf.gives_field hbackoff
  · exact Leaf.gives_field hmultiplier

theorem RunPolicy.leaves_read : (shapeFor Conversion.readers).ReadsLeaves leaves := by
  intro l hl fields s hopen h
  simp only [shapeFor, Shape.read_field, Shape.read_of, Conversion.readers] at h
  obtain ⟨_, retry, ⟨_, artifacts, ⟨_, goesOn, ⟨_, scenario, ⟨_, operation, rfl, hoperation, rfl⟩,
    hscenario, rfl⟩, hgoesOn, rfl⟩, hartifacts, rfl⟩, hretry, rfl⟩ := h
  simp only [leaves, List.mem_append, List.mem_cons, List.not_mem_nil, or_false, List.mem_map] at hl
  rcases hl with (rfl | rfl | rfl | rfl) | ⟨l, hl, rfl⟩
  · exact Leaf.gives_field hoperation
  · exact Leaf.gives_field hscenario
  · exact Leaf.gives_field hgoesOn
  · exact Leaf.gives_field hartifacts
  · exact Leaf.gives_within RetryPolicy.leaves_read hretry hl hopen

theorem Network.leaves_read : (shapeFor Conversion.readers).ReadsLeaves leaves := by
  intro l hl fields s hopen h
  simp only [shapeFor, Shape.optional, Shape.read_field, Shape.read_fieldD, Shape.read_of,
    Conversion.readers] at h
  obtain ⟨_, faucet, ⟨_, limit, ⟨_, adjustment, ⟨_, price, ⟨_, accounts, ⟨_, url, ⟨_, chain,
    ⟨_, name, rfl, hname, rfl⟩, hchain, rfl⟩, hurl, rfl⟩, haccounts, rfl⟩, hprice, rfl⟩,
    hadjustment, rfl⟩, hlimit, rfl⟩, hfaucet, rfl⟩ := h
  simp only [leaves, List.mem_cons, List.not_mem_nil, or_false] at hl
  rcases hl with rfl | rfl | rfl | rfl | rfl | rfl | rfl | rfl
  · exact Leaf.gives_field hname
  · exact Leaf.gives_field hchain
  · exact Leaf.gives_field hurl
  · exact Leaf.gives_field haccounts
  · exact Leaf.gives_field hprice
  · exact Leaf.gives_field hadjustment
  · exact Leaf.gives_fieldD hlimit
  · exact Leaf.gives_fieldD hfaucet

theorem Settings.leaves_read : (shapeFor Conversion.readers).ReadsLeaves leaves := by
  intro l hl fields s hopen h
  simp only [shapeFor, Shape.optional, Shape.read_field, Shape.read_fieldD, Shape.read_of,
    Conversion.readers] at h
  obtain ⟨_, index, ⟨_, phrase, ⟨_, driver, ⟨_, network, rfl, hnetwork, rfl⟩, hdriver, rfl⟩,
    hphrase, rfl⟩, hindex, rfl⟩ := h
  simp only [leaves, List.mem_append, List.mem_cons, List.not_mem_nil, or_false, List.mem_map] at hl
  rcases hl with (⟨l, hl, rfl⟩ | ⟨l, hl, rfl⟩) | rfl | rfl
  · exact Leaf.gives_within Network.leaves_read hnetwork hl hopen
  · exact Leaf.gives_within RunPolicy.leaves_read hdriver hl hopen
  · exact Leaf.gives_fieldD hphrase
  · exact Leaf.gives_fieldD hindex

/-! ## Holding leaves -/

namespace Conversion

/-- Numbers are read as they are written. -/
theorem natural_ofNat {n : Nat} (h : n < UInt64.size) : natural (.int n) = .ok n := by
  have hint : 0 ≤ (n : Int) ∧ (n : Int) < UInt64.size := by omega
  rw [natural, if_pos hint, Int.toNat_natCast]

theorem uint64_toNat (n : UInt64) : uint64 (.int n.toNat) = .ok n :=
  map_eq_ok_iff.mpr ⟨_, natural_ofNat n.toNat_lt_size, UInt64.ofNat_toNat⟩

theorem uint32_toNat (n : UInt32) : uint32 (.int n.toNat) = .ok n := by
  have hsize : n.toNat < UInt64.size := Nat.lt_trans n.toNat_lt_size (by decide)
  refine bind_eq_ok_iff.mpr ⟨_, natural_ofNat hsize, ?_⟩
  rw [if_pos n.toNat_lt_size, UInt32.ofNat_toNat]
  rfl

end Conversion

namespace Leaf

/-- A value holds what a leaf is in a record, once. -/
def HeldBy (l : Leaf σ) (s : σ) (v : Json) : Prop :=
  ∃ w, v.standing l.keys = [w] ∧ l.read w = .ok (l.get s)

variable {name : String} {read : Decode α} {simple : read.Simple} {s : σ} {v w : Json}

theorem held_field {get : σ → α} (hv : v.standing [name] = [w]) (h : read w = .ok (get s)) :
    (field name read simple get).HeldBy s v :=
  ⟨w, hv, h⟩

theorem held_fieldD {default : α} {get : σ → α} (hv : v.standing [name] = [w])
    (h : read w = .ok (get s)) : (fieldD name read simple default get).HeldBy s v :=
  ⟨w, hv, h⟩

theorem HeldBy.within {l : Leaf τ} {part : σ → τ} (h : l.HeldBy (part s) w)
    (hv : v.standing [name] = [w]) : (l.within name part).HeldBy s v := by
  obtain ⟨u, hu, hread⟩ := h
  have hstanding : v.standing (name :: l.keys) = [u] := by
    rw [standing_cons, hv, List.flatMap_singleton, hu]
  exact ⟨u, hstanding, hread⟩

end Leaf

theorem RetryPolicy.leaves_held (p : RetryPolicy) : ∀ l ∈ leaves, l.HeldBy p p.encode := by
  intro l hl
  simp only [leaves, List.mem_cons, List.not_mem_nil, or_false] at hl
  rcases hl with rfl | rfl | rfl
  · exact Leaf.held_field rfl (Conversion.uint32_toNat p.maxRetries)
  · exact Leaf.held_field rfl (Conversion.uint64_toNat p.initialBackoffMs)
  · exact Leaf.held_field rfl rfl

theorem RunPolicy.leaves_held (p : RunPolicy) : ∀ l ∈ leaves, l.HeldBy p p.encode := by
  intro l hl
  simp only [leaves, List.mem_append, List.mem_cons, List.not_mem_nil, or_false, List.mem_map] at hl
  rcases hl with (rfl | rfl | rfl | rfl) | ⟨l, hl, rfl⟩
  · exact Leaf.held_field rfl (Conversion.uint64_toNat p.operationTimeoutSecs)
  · exact Leaf.held_field rfl (Conversion.uint64_toNat p.scenarioTimeoutSecs)
  · exact Leaf.held_field rfl rfl
  · exact Leaf.held_field rfl rfl
  · exact (p.retry.leaves_held l hl).within rfl

theorem Network.leaves_held (n : Network) : ∀ l ∈ leaves, l.HeldBy n n.encode := by
  have hlimit : (Decode.option Conversion.uint64).Inverts (Json.ofOption fun g => .int g.toNat) :=
    Decode.Inverts.option Conversion.uint64_toNat fun _ => nofun
  have hfaucet : (Decode.option Conversion.text).Inverts (Json.ofOption .str) :=
    Decode.Inverts.option (fun _ => rfl) fun _ => nofun
  intro l hl
  simp only [leaves, List.mem_cons, List.not_mem_nil, or_false] at hl
  rcases hl with rfl | rfl | rfl | rfl | rfl | rfl | rfl | rfl
  · exact Leaf.held_field rfl rfl
  · exact Leaf.held_field rfl rfl
  · exact Leaf.held_field rfl rfl
  · exact Leaf.held_field rfl rfl
  · exact Leaf.held_field rfl rfl
  · exact Leaf.held_field rfl rfl
  · exact Leaf.held_fieldD rfl (hlimit n.gasLimit)
  · exact Leaf.held_fieldD rfl (hfaucet n.faucetUrl)

/-- What is there without any other source holds the leaves of the settings of the network, except
that there is no phrase. -/
theorem Settings.leaves_held (n : Network) : ∀ l ∈ leaves, l.HeldBy (ofNetwork n) (defaults n)
    ∨ ((defaults n).standing l.keys = [] ∧ l.absent = some (l.get (ofNetwork n))) := by
  intro l hl
  simp only [leaves, List.mem_append, List.mem_cons, List.not_mem_nil, or_false, List.mem_map] at hl
  rcases hl with (⟨l, hl, rfl⟩ | ⟨l, hl, rfl⟩) | rfl | rfl
  · exact .inl ((n.leaves_held l hl).within rfl)
  · exact .inl ((RunPolicy.standard.leaves_held l hl).within rfl)
  · exact .inr ⟨rfl, rfl⟩
  · exact .inl (Leaf.held_fieldD rfl (Conversion.uint32_toNat 0))

/-! ## Where records stand -/

/-- The keys that lead to the records in the settings. -/
def Settings.tables : List (List String) := [["network"], ["driver"], ["driver", "retry"]]

/-- A layer puts nothing but tables where the settings have records. -/
def Layer.KeepsTables (layer : Layer) : Prop :=
  ∀ keys ∈ Settings.tables, ∀ v ∈ layer.standing keys, ∃ fields, v = .obj fields

instance (v : Json) : Decidable (∃ fields, v = .obj fields) :=
  match v with
  | .obj fields => .isTrue ⟨fields, rfl⟩
  | .null | .bool _ | .int _ | .real _ | .str _ | .arr _ => .isFalse nofun

instance (layer : Layer) : Decidable layer.KeepsTables :=
  inferInstanceAs (Decidable (∀ keys ∈ Settings.tables, ∀ v ∈ layer.standing keys,
    ∃ fields, v = .obj fields))

/-- The first step to each value of a layer is a key. -/
def Layer.Keyed (layer : Layer) : Prop := ∀ e ∈ layer, ∃ k rest, e.1 = .key k :: rest

namespace Settings

theorem tables_of_leaf {l : Leaf Settings} (hl : l ∈ leaves) :
    ∀ n < l.keys.length, l.keys.take n ∈ [] :: tables := by
  have hall : ∀ keys ∈ leaves.map Leaf.keys, ∀ n < keys.length, keys.take n ∈ [] :: tables := by
    decide
  exact hall l.keys (List.mem_map_of_mem hl)

theorem apart_of_leaves {l q : Leaf Settings} (hl : l ∈ leaves) (hq : q ∈ leaves)
    (h : l.keys ≠ q.keys) : ¬l.keys <+: q.keys := by
  have hall : ∀ keys ∈ leaves.map Leaf.keys, ∀ others ∈ leaves.map Leaf.keys,
      keys ≠ others → keys.isPrefixOf others = false := by
    decide +kernel
  have hapart := hall _ (List.mem_map_of_mem hl) _ (List.mem_map_of_mem hq) h
  intro hp
  cases hapart.symm.trans (List.isPrefixOf_iff_prefix.mpr hp)

/-- Where nothing but tables stands on the way to a leaf of the settings. -/
theorem tabular_of_tables {l : Leaf Settings} (hl : l ∈ leaves) {v : Json}
    (h : ∀ keys ∈ [] :: tables, ∀ w ∈ v.standing keys, ∃ fields, w = .obj fields) :
    v.Tabular l.keys :=
  Json.tabular_of_tables fun n hn => h _ (tables_of_leaf hl n hn)

theorem defaults_tabular (n : Network) {l : Leaf Settings} (hl : l ∈ leaves) :
    (defaults n).Tabular l.keys := by
  refine tabular_of_tables hl fun keys hkeys w hw => ?_
  simp only [tables, List.mem_cons, List.not_mem_nil, or_false] at hkeys
  rcases hkeys with rfl | rfl | rfl | rfl
  · exact ⟨_, List.mem_singleton.mp hw⟩
  · exact ⟨_, List.mem_singleton.mp hw⟩
  · exact ⟨_, List.mem_singleton.mp hw⟩
  · exact ⟨_, List.mem_singleton.mp hw⟩

end Settings

theorem Layer.KeepsTables.tabular {layer : Layer} (h : layer.KeepsTables) (hkeyed : layer.Keyed)
    {l : Leaf Settings} (hl : l ∈ Settings.leaves) : layer.Tabular l.keys := by
  intro e he
  refine Settings.tabular_of_tables hl fun keys hkeys w hw => ?_
  rcases List.mem_cons.mp hkeys with rfl | hkeys
  · obtain ⟨k, rest, hplace⟩ := hkeyed e he
    rw [hplace] at hw
    exact ⟨_, List.mem_singleton.mp hw⟩
  · exact h keys hkeys w (List.mem_flatMap.mpr ⟨e, he, hw⟩)

end Rollout
