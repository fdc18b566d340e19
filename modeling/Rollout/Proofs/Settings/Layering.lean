import Rollout.Proofs.Settings.Leaves

/-!
# Layers of settings

Settings are loaded from four layers: what is there without any other source, the preset of the
network, a configuration file, and the variables. The law is about every leaf of the settings at
once (`Leaf.Comes`): it is what the last variable for it says, else what the file says last, else
what it is in the settings of the preset. A leaf depends on nothing else, so that a variable for one
leaf never changes another one.

There is one way around the law, which `Layer.KeepsTables` rules out: a source may put a list or a
simple value where the settings have a record, and a list is read as a record by position. What the
preset says about the leaves below is lost then.
-/

namespace Rollout

open Json

/-! ## What sources say -/

theorem Place.ofText_eq (s : String) : ∃ k rest, Place.ofText s = .key k :: rest := by
  rw [Place.ofText]
  cases h : Place.parse? s with
  | none => exact ⟨s, [], rfl⟩
  | some place =>
      rw [Place.parse?] at h
      split at h
      · cases h
      · obtain ⟨rest, -, rfl⟩ := Option.map_eq_some_iff.mp h
        exact ⟨_, rest, rfl⟩

namespace Layer

theorem keyed_ofDocument (v : Json) : (ofDocument v).Keyed := by
  intro e he
  obtain ⟨f, -, rfl⟩ := List.mem_map.mp he
  exact Place.ofText_eq f.1

theorem placeOf?_eq_some {name : String} {place : Place} (h : placeOf? name = some place) :
    ∃ s, place = Place.ofText s := by
  rw [placeOf?] at h
  split at h
  · exact ⟨_, (Option.some.inj h).symm⟩
  · cases h

theorem keyed_ofVariables (vs : List (String × String)) : (ofVariables vs).Keyed := by
  intro e he
  obtain ⟨v, -, hv⟩ := List.mem_filterMap.mp he
  obtain ⟨place, hplace, rfl⟩ := Option.map_eq_some_iff.mp hv
  obtain ⟨s, rfl⟩ := placeOf?_eq_some hplace
  exact Place.ofText_eq s

end Layer

theorem Surroundings.keyed_layerOf? {s : Surroundings} {path : String} {layer : Layer}
    (h : s.layerOf? path = some layer) : layer.Keyed := by
  simp only [layerOf?, Option.bind_eq_bind, Option.bind_eq_some_iff, Option.pure_def,
    Option.some.injEq] at h
  obtain ⟨found, -, format, -, content, -, v, -, rfl⟩ := h
  exact Layer.keyed_ofDocument v

namespace Settings

theorem keyed_fileLayer {s : Surroundings} {path : Option String} {layer : Layer}
    (h : fileLayer s path = .ok layer) : layer.Keyed := by
  simp only [fileLayer.eq_def] at h
  split at h
  · split at h
    · split at h
      · next l hl =>
        cases h
        exact s.keyed_layerOf? hl
      · cases h
    · cases h
  · split at h
    · split at h
      · next l hl =>
        cases h
        exact s.keyed_layerOf? hl
      · cases h
    · cases h
      exact nofun

/-- All layers of the settings of a network, from the lowest one up. -/
def layers (n : Network) (file env : Layer) : Layer := ([], defaults n) :: (file ++ env)

theorem gather_eq (s : Surroundings) (path network : Option String) :
    gather s path network = preset s (networkName s network) >>= fun n =>
      fileLayer s path >>= fun file =>
        .ok ((layers n file (Layer.ofVariables s.environment)).overlay (.obj [])) := by
  simp only [gather, layers, Layer.overlay, List.foldl_cons, List.foldl_append]
  rfl

/-- The settings from all sources above a preset. -/
def loadAbove (s : Surroundings) (path : Option String) (n : Network) : Fallible Settings := do
  let file ← (fileLayer s path).mapError .configuration
  let v := (layers n file (Layer.ofVariables s.environment)).overlay (.obj [])
  let r ←
    ((shapeFor Conversion.readers).decodeLong v).mapError fun _ => .configuration .source
  r.validate
  return r

theorem load_eq (s : Surroundings) (path network : Option String) :
    load s path network =
      (preset s (networkName s network)).mapError .configuration >>= loadAbove s path := by
  rw [load, gather_eq]
  cases preset s (networkName s network) with
  | error f => rfl
  | ok n =>
      change ((fileLayer s path >>= _).mapError _ >>= _) = loadAbove s path n
      rw [loadAbove]
      cases fileLayer s path with
      | error f => rfl
      | ok file => rfl

/-- Settings are loaded above a preset exactly if the file can be used, and what all layers say is
read as settings and accepted. -/
theorem loadAbove_eq_ok_iff {s : Surroundings} {path : Option String} {n : Network} {r : Settings} :
    loadAbove s path n = .ok r ↔ ∃ file, fileLayer s path = .ok file
      ∧ (shapeFor Conversion.readers).decodeLong
        ((layers n file (Layer.ofVariables s.environment)).overlay (.obj [])) = .ok r
      ∧ r.validate = .ok () := by
  rw [loadAbove, bind_eq_ok_iff]
  constructor
  · rintro ⟨file, hfile, h⟩
    obtain ⟨r', hr', h⟩ := bind_eq_ok_iff.mp h
    obtain ⟨⟨⟩, hvalid, h⟩ := bind_eq_ok_iff.mp h
    obtain rfl := Except.ok.inj h
    exact ⟨file, mapError_eq_ok_iff.mp hfile, mapError_eq_ok_iff.mp hr', hvalid⟩
  · rintro ⟨file, hfile, hr, hvalid⟩
    refine ⟨file, mapError_eq_ok_iff.mpr hfile, bind_eq_ok_iff.mpr ⟨r, ?_, ?_⟩⟩
    · exact mapError_eq_ok_iff.mpr hr
    · exact bind_eq_ok_iff.mpr ⟨(), hvalid, rfl⟩

theorem load_eq_ok_iff {s : Surroundings} {path network : Option String} {r : Settings} :
    load s path network = .ok r ↔
      ∃ n, preset s (networkName s network) = .ok n ∧ loadAbove s path n = .ok r := by
  simp only [load_eq, bind_eq_ok_iff, mapError_eq_ok_iff]

end Settings

/-! ## Where a leaf comes from -/

/-- A leaf is what the last variable for it says, else what the file says last, else what it is in
the settings of the preset. -/
inductive Leaf.Comes (l : Leaf Settings) (env file : Layer) (n : Network) (r : Settings) : Prop
  | environment {v : Json} (h : (env.standing l.keys).getLast? = some v)
      (hread : l.read v = .ok (l.get r))
  | file {v : Json} (hunset : env.standing l.keys = [])
      (h : (file.standing l.keys).getLast? = some v) (hread : l.read v = .ok (l.get r))
  | preset (hunset : env.standing l.keys = []) (hunsaid : file.standing l.keys = [])
      (h : l.get r = l.get (.ofNetwork n))

/-- A leaf depends on nothing but what is put there. -/
theorem Leaf.Comes.unique {l : Leaf Settings} {env env' file file' : Layer} {n : Network}
    {r r' : Settings} (h : l.Comes env file n r) (h' : l.Comes env' file' n r')
    (henv : env'.standing l.keys = env.standing l.keys)
    (hfile : file'.standing l.keys = file.standing l.keys) : l.get r' = l.get r := by
  cases h with
  | environment hv hread =>
      cases h' with
      | environment hv' hread' =>
          rw [henv, hv] at hv'
          obtain rfl := Option.some.inj hv'
          exact Except.ok.inj (hread'.symm.trans hread)
      | file hunset => simp [← henv, hunset] at hv
      | preset hunset => simp [← henv, hunset] at hv
  | file hunset hv hread =>
      cases h' with
      | environment hv' => simp [henv, hunset] at hv'
      | file _ hv' hread' =>
          rw [hfile, hv] at hv'
          obtain rfl := Option.some.inj hv'
          exact Except.ok.inj (hread'.symm.trans hread)
      | preset _ hunsaid => simp [← hfile, hunsaid] at hv
  | preset hunset hunsaid heq =>
      cases h' with
      | environment hv' => simp [henv, hunset] at hv'
      | file _ hv' => simp [hfile, hunsaid] at hv'
      | preset _ _ heq' => exact heq'.trans heq.symm

namespace Settings

/-- A leaf is read from what stands at it if the way to it is open. -/
theorem gives_of_open {l : Leaf Settings} (hl : l ∈ leaves) {v : Json} {r : Settings}
    (hway : v.Open l.keys) (hread : (shapeFor Conversion.readers).decodeLong v = .ok r) :
    l.Gives r (v.at? l.place) := by
  obtain ⟨fields, rfl⟩ := l.exists_fields hway
  exact leaves_read l hl fields r hway (mapError_eq_ok_iff.mp hread)

theorem standing_layers (n : Network) (file env : Layer) (keys : List String) :
    (layers n file env).standing keys =
      (defaults n).standing keys ++ (file.standing keys ++ env.standing keys) := by
  simp [layers, Layer.standing, nest]

/-- A leaf is read from the last value that the layers put there. -/
theorem gives_last {n : Network} {file env : Layer} {l : Leaf Settings} {r : Settings}
    (hl : l ∈ leaves) (htabular : (layers n file env).Tabular l.keys)
    (hread : (shapeFor Conversion.readers).decodeLong ((layers n file env).overlay (.obj [])) =
      .ok r) : l.Gives r ((layers n file env).standing l.keys).getLast? := by
  have hlands := Layer.lands_overlay _ l.open_empty htabular
  have hleft := hlands.left
  have hnone : (some (Json.obj [])).bind (at? (.ofKeys l.keys)) = none := l.at?_empty
  rw [hnone] at hleft
  exact l.gives_left hleft (gives_of_open hl hlands.way hread)

/-- Whatever is read from layers that keep the tables comes from them leaf by leaf. -/
theorem comes {n : Network} {file env : Layer} {r : Settings}
    (hread : (shapeFor Conversion.readers).decodeLong ((layers n file env).overlay (.obj [])) =
      .ok r)
    (hfile : file.KeepsTables) (hkeyed : file.Keyed) (henv : env.KeepsTables)
    (hkeyed' : env.Keyed) : ∀ l ∈ leaves, l.Comes env file n r := by
  intro l hl
  have htabular : (layers n file env).Tabular l.keys := by
    intro e he
    simp only [layers, List.mem_cons, List.mem_append] at he
    rcases he with rfl | he | he
    · exact defaults_tabular n hl
    · exact hfile.tabular hkeyed hl e he
    · exact henv.tabular hkeyed' hl e he
  have hlast := gives_last hl htabular hread
  rw [standing_layers, List.getLast?_append, List.getLast?_append] at hlast
  cases hvs : (env.standing l.keys).getLast? with
  | some v =>
      rw [hvs] at hlast
      exact .environment hvs hlast
  | none =>
      have hunset := List.getLast?_eq_none_iff.mp hvs
      rw [hvs, Option.none_or] at hlast
      cases hws : (file.standing l.keys).getLast? with
      | some v =>
          rw [hws] at hlast
          exact .file hunset hws hlast
      | none =>
          have hunsaid := List.getLast?_eq_none_iff.mp hws
          rw [hws, Option.none_or] at hlast
          rcases leaves_held n l hl with ⟨w, hw, hread⟩ | ⟨hw, habsent⟩
          · rw [hw] at hlast
            exact .preset hunset hunsaid (Except.ok.inj (hlast.symm.trans hread))
          · rw [hw] at hlast
            exact .preset hunset hunsaid (Option.some.inj (hlast.symm.trans habsent))

/-- Settings loaded above a preset come from it, the file and the variables, leaf by leaf. -/
theorem comes_of_loadAbove {s : Surroundings} {path : Option String} {n : Network} {file : Layer}
    {r : Settings} (h : loadAbove s path n = .ok r) (hfile : fileLayer s path = .ok file)
    (htables : file.KeepsTables) (htables' : (Layer.ofVariables s.environment).KeepsTables) :
    ∀ l ∈ leaves, l.Comes (Layer.ofVariables s.environment) file n r := by
  obtain ⟨file', hfile', hread, -⟩ := loadAbove_eq_ok_iff.mp h
  obtain rfl := Except.ok.inj (hfile'.symm.trans hfile)
  exact comes hread htables (keyed_fileLayer hfile) htables' (Layer.keyed_ofVariables _)

theorem valid_of_loadAbove {s : Surroundings} {path : Option String} {n : Network} {r : Settings}
    (h : loadAbove s path n = .ok r) : r.validate = .ok () := by
  obtain ⟨-, -, -, hvalid⟩ := loadAbove_eq_ok_iff.mp h
  exact hvalid

end Settings

/-! ## The variable for a leaf -/

/-- The name of the variable for keys: `ETF_` and the keys in capital letters, with two underscores
between them. -/
def Layer.variableFor (keys : List String) : String :=
  "ETF_" ++ "__".intercalate (keys.map String.toUpper)

theorem Layer.toList_variableFor (keys : List String) : (variableFor keys).toList =
    "ETF_".toList ++ List.intercalate "__".toList (keys.map fun k => k.toList.map Char.toUpper) := by
  have hupper : (String.toList ∘ String.toUpper) = fun k : String => k.toList.map Char.toUpper := by
    funext k
    exact String.toList_map
  rw [variableFor, String.toList_append, String.toList_intercalate, List.map_map, hupper]

/-- The name of the variable for a leaf. -/
def Leaf.variable (l : Leaf σ) : String := Layer.variableFor l.keys

namespace Settings

variable {l q : Leaf Settings}

theorem placeOf?_variable (hl : l ∈ leaves) : Layer.placeOf? l.variable = some l.place := by
  have hall : ∀ keys ∈ leaves.map Leaf.keys,
      Layer.placeOf? (Layer.variableFor keys) = some (.ofKeys keys) := by
    simp only [Layer.placeOf?, Layer.toList_variableFor, Place.ofText, Place.parse?,
      String.toList_ofList]
    decide +kernel
  exact hall l.keys (List.mem_map_of_mem hl)

theorem ofVariable?_variable (hl : l ∈ leaves) (text : String) :
    Layer.ofVariable? (l.variable, text) = some (l.place, Layer.valueOfText text) := by
  rw [Layer.ofVariable?, placeOf?_variable hl]
  rfl

/-- The variables that say where the preset is found are not those of a leaf. -/
theorem variable_ne {name : String} (hname : name = "ETF_CONFIG_DIR" ∨ name = "ETF_NETWORK_PRESET")
    (hl : l ∈ leaves) : l.variable ≠ name := by
  have hall : ∀ keys ∈ leaves.map Leaf.keys, ∀ name ∈ ["ETF_CONFIG_DIR", "ETF_NETWORK_PRESET"],
      Layer.placeOf? name ≠ some (.ofKeys keys) := by
    decide +kernel
  have hplace := hall l.keys (List.mem_map_of_mem hl) name (by simpa using hname)
  rintro rfl
  exact hplace (placeOf?_variable hl)

theorem not_leaf_of_table (hl : l ∈ leaves) : ∀ keys ∈ tables, ¬l.keys <+: keys := by
  have hall : ∀ keys ∈ leaves.map Leaf.keys, ∀ others ∈ tables, keys.isPrefixOf others = false := by
    decide +kernel
  intro others hothers hp
  cases (hall l.keys (List.mem_map_of_mem hl) others hothers).symm.trans
    (List.isPrefixOf_iff_prefix.mpr hp)

end Settings

theorem valueOf?_append_cons {name key : String} {value : α} {before after : List (String × α)}
    (h : name ≠ key) :
    valueOf? key (before ++ (name, value) :: after) = valueOf? key (before ++ after) := by
  induction before with
  | nil => simp [valueOf?, h]
  | cons e rest ih =>
      obtain ⟨k, v⟩ := e
      simp only [List.cons_append, valueOf?, ih]

namespace Layer

theorem standing_cons (keys : List String) (e : Place × Json) (rest : Layer) :
    standing keys (e :: rest) = (Json.nest e.1 e.2).standing keys ++ standing keys rest :=
  List.flatMap_cons

theorem standing_append (keys : List String) (first second : Layer) :
    standing keys (first ++ second) = standing keys first ++ standing keys second :=
  List.flatMap_append

theorem ofVariables_append (before after : List (String × String)) :
    ofVariables (before ++ after) = ofVariables before ++ ofVariables after :=
  List.filterMap_append

theorem ofVariables_insert {v : String × String} {e : Place × Json}
    {before after : List (String × String)} (h : ofVariable? v = some e) :
    ofVariables (before ++ v :: after) = ofVariables before ++ e :: ofVariables after := by
  rw [ofVariables, List.filterMap_append, List.filterMap_cons, h]
  rfl

end Layer

namespace Settings

variable {q : Leaf Settings} {before after : List (String × String)}

/-- The preset depends on the files and on the directory for configuration. -/
theorem preset_congr {s s' : Surroundings} (hfiles : s'.files = s.files)
    (hdirectory : s'.configDirectory = s.configDirectory) (name : String) :
    preset s' name = preset s name := by
  have hlayer (path : String) : s'.layerOf? path = s.layerOf? path := by
    rw [Surroundings.layerOf?, Surroundings.layerOf?, hfiles]
  -- `delta` here and below, since the equations of these functions take seconds to be generated
  have hload : Network.load s' name = Network.load s name := by
    delta Network.load
    rw [hdirectory, hlayer]
  delta preset
  rw [hload]

/-- A variable for a leaf has no say in which preset is used. -/
theorem preset_insert (hq : q ∈ leaves) {s : Surroundings} (henv : s.environment = before ++ after)
    (text : String) (network : Option String) :
    preset { s with environment := before ++ (q.variable, text) :: after }
        (networkName { s with environment := before ++ (q.variable, text) :: after } network) =
      preset s (networkName s network) := by
  generalize hs' : { s with environment := before ++ (q.variable, text) :: after } = s'
  have hvalue {name : String} (hname : name = "ETF_CONFIG_DIR" ∨ name = "ETF_NETWORK_PRESET") :
      s'.variableValue? name = s.variableValue? name := by
    rw [← hs', Surroundings.variableValue?, Surroundings.variableValue?, henv]
    exact valueOf?_append_cons (variable_ne hname hq)
  have hfiles : s'.files = s.files := by
    rw [← hs']
  have hdirectory : s'.configDirectory = s.configDirectory := by
    rw [Surroundings.configDirectory, Surroundings.configDirectory, hvalue (.inl rfl)]
  have hname : networkName s' network = networkName s network := by
    rw [networkName, networkName, hvalue (.inr rfl)]
  rw [hname, preset_congr hfiles hdirectory]

/-- With a variable for a leaf the others are as they were without it. -/
theorem standing_insert {l : Leaf Settings} (hl : l ∈ leaves) (hq : q ∈ leaves)
    (hne : l.keys ≠ q.keys) (text : String) :
    (Layer.ofVariables (before ++ (q.variable, text) :: after)).standing l.keys =
      (Layer.ofVariables (before ++ after)).standing l.keys := by
  have hapart : standing l.keys (nest q.place (Layer.valueOfText text)) = [] :=
    standing_nest_apart (apart_of_leaves hl hq hne) (apart_of_leaves hq hl hne.symm)
  rw [Layer.ofVariables_insert (ofVariable?_variable hq text), Layer.ofVariables_append,
    Layer.standing_append, Layer.standing_append, Layer.standing_cons, hapart, List.nil_append]

theorem keepsTables_insert (hq : q ∈ leaves) (text : String)
    (h : (Layer.ofVariables (before ++ after)).KeepsTables) :
    (Layer.ofVariables (before ++ (q.variable, text) :: after)).KeepsTables := by
  intro keys hkeys w hw
  rw [Layer.ofVariables_insert (ofVariable?_variable hq text), Layer.standing_append,
    Layer.standing_cons, List.mem_append, List.mem_append] at hw
  rw [Layer.ofVariables_append] at h
  rcases hw with hw | hw | hw
  · exact h keys hkeys w (Layer.standing_append keys _ _ ▸ List.mem_append_left _ hw)
  · exact Json.tables_of_nest (not_leaf_of_table hq keys hkeys) w hw
  · exact h keys hkeys w (Layer.standing_append keys _ _ ▸ List.mem_append_right _ hw)

theorem keepsTables_after (h : (Layer.ofVariables (before ++ after)).KeepsTables) :
    (Layer.ofVariables after).KeepsTables := by
  intro keys hkeys w hw
  rw [Layer.ofVariables_append] at h
  exact h keys hkeys w (Layer.standing_append keys _ _ ▸ List.mem_append_right _ hw)

/-- A variable for a leaf makes it what the variable says if none for the leaf follows, and none
that puts anything but a table on the way to it. -/
theorem read_variable (hq : q ∈ leaves) {s : Surroundings} {path : Option String} {n : Network}
    {r : Settings} {text : String} (henv : s.environment = before ++ (q.variable, text) :: after)
    (htables : (Layer.ofVariables after).KeepsTables)
    (hlast : (Layer.ofVariables after).standing q.keys = []) (h : loadAbove s path n = .ok r) :
    q.read (Layer.valueOfText text) = .ok (q.get r) := by
  obtain ⟨file, -, hread, -⟩ := loadAbove_eq_ok_iff.mp h
  obtain ⟨u, hu⟩ : ∃ u : Json, (layers n file (Layer.ofVariables s.environment)).overlay (.obj []) =
      (Layer.ofVariables after).overlay (u.put q.place (Layer.valueOfText text)) := by
    refine ⟨Layer.overlay (.obj []) (([], defaults n) :: (file ++ Layer.ofVariables before)), ?_⟩
    rw [henv, Layer.ofVariables_insert (ofVariable?_variable hq text)]
    simp [layers, Layer.overlay, List.foldl_append]
  have hput := lands_put_keys (Layer.valueOfText text) q.keys none u
  have hlands := Layer.lands_overlay (Layer.ofVariables after) hput.way
    (htables.tabular (Layer.keyed_ofVariables _) hq)
  have hleft := hput.left.trans hlands.left
  rw [hlast] at hleft
  exact Leaf.gives_left hleft (gives_of_open hq hlands.way (hu ▸ hread))

/-- Settings that are loaded come from their sources leaf by leaf, the preset being the one that is
named, else that of the variable for it, else the default one, and they are valid. One more variable
for a leaf changes this leaf only, to what the variable says if none for it follows; and as long as
the preset and the variables are the same, a leaf depends on the file only as far as the file says
something about it. All this holds if neither the file nor the variables put anything but tables
where the settings have records. -/
theorem layering_law (s : Surroundings) (path network : Option String) {file : Layer} {r : Settings}
    (hfile : fileLayer s path = .ok file) (hload : load s path network = .ok r)
    (htables : file.KeepsTables) (htables' : (Layer.ofVariables s.environment).KeepsTables) :
    (∃ n, preset s ((network <|> s.variableValue? "ETF_NETWORK_PRESET").getD Network.defaultName) =
        .ok n ∧ ∀ l ∈ leaves, l.Comes (Layer.ofVariables s.environment) file n r)
      ∧ r.validate = .ok ()
      ∧ (∀ q ∈ leaves, ∀ text before after r', s.environment = before ++ after →
        load { s with environment := before ++ (q.variable, text) :: after } path network = .ok r' →
          (∀ l ∈ leaves, l.keys ≠ q.keys → l.get r' = l.get r)
            ∧ ((Layer.ofVariables after).standing q.keys = [] →
              q.read (Layer.valueOfText text) = .ok (q.get r')))
      ∧ ∀ s' path' network' file' r', s'.environment = s.environment →
        preset s' (networkName s' network') = preset s (networkName s network) →
          fileLayer s' path' = .ok file' → file'.KeepsTables → load s' path' network' = .ok r' →
            ∀ l ∈ leaves, file'.standing l.keys = file.standing l.keys → l.get r' = l.get r := by
  obtain ⟨n, hn, hover⟩ := load_eq_ok_iff.mp hload
  have hcomes := comes_of_loadAbove hover hfile htables htables'
  refine ⟨⟨n, hn, hcomes⟩, valid_of_loadAbove hover, ?_, ?_⟩
  · intro q hq text before after r' henv hload'
    obtain ⟨n', hn', hover'⟩ := load_eq_ok_iff.mp hload'
    have hsame : n' = n :=
      Except.ok.inj (hn'.symm.trans ((preset_insert hq henv text network).trans hn))
    rw [henv] at htables'
    have hcomes' := comes_of_loadAbove hover' hfile htables (keepsTables_insert hq text htables')
    constructor
    · intro l hl hne
      refine (hcomes l hl).unique (hsame ▸ hcomes' l hl) ?_ rfl
      rw [henv]
      exact standing_insert hl hq hne text
    · intro hlast
      exact read_variable hq rfl (keepsTables_after htables') hlast hover'
  · intro s' path' network' file' r' henv hpreset hfile' htables'' hload' l hl hsays
    obtain ⟨n', hn', hover'⟩ := load_eq_ok_iff.mp hload'
    have hsame : n' = n := Except.ok.inj (hn'.symm.trans (hpreset.trans hn))
    have hcomes' := comes_of_loadAbove hover' hfile' htables'' (henv ▸ htables')
    exact (hcomes l hl).unique (hsame ▸ hcomes' l hl) (henv ▸ rfl) hsays

/-- The chain comes from a variable, the account from the file, and the endpoint from the preset. -/
theorem layering_law_of_file_and_variable :
    let s : Surroundings :=
      { environment := [("ETF_NETWORK__CHAIN_ID", "b-1")]
        files := Files.ofList "/w" [("c.toml",
          .file (Text.toBytes "account_index = 3\n[network]\nchain_id = 'a-1'\n"))]
        configHome := "/w/xdg" }
    ∃ file r n, fileLayer s (some "c.toml") = .ok file ∧ load s (some "c.toml") none = .ok r
      ∧ file.KeepsTables ∧ (Layer.ofVariables s.environment).KeepsTables
      ∧ (r.network.chainId = "b-1" ∧ r.accountIndex = 3 ∧ r.network.rpcUrl = Network.builtIn.rpcUrl)
      ∧ r.validate = .ok () ∧ preset s Network.defaultName = .ok n
      ∧ ∀ l ∈ leaves, l.Comes (Layer.ofVariables s.environment) file n r := by
  intro s
  obtain ⟨file, hfile, htables⟩ := exists_ok_of_any (r := fileLayer s (some "c.toml"))
    (p := fun file => file.KeepsTables) (by decide +kernel)
  obtain ⟨r, hload, hvalues⟩ := exists_ok_of_any (r := load s (some "c.toml") none)
    (p := fun r => r.network.chainId = "b-1" ∧ r.accountIndex = 3
      ∧ r.network.rpcUrl = Network.builtIn.rpcUrl) (by decide +kernel)
  have htables' : (Layer.ofVariables s.environment).KeepsTables := by decide +kernel
  obtain ⟨⟨n, hn, hcomes⟩, hvalid, -, -⟩ :=
    layering_law s (some "c.toml") none hfile hload (of_decide_eq_true htables) htables'
  exact ⟨file, r, n, hfile, hload, of_decide_eq_true htables, htables',
    of_decide_eq_true hvalues, hvalid, hn, hcomes⟩

/-- A list that stands for the network is read by position, and what the preset says about the
faucet is lost, although no source says anything about it. -/
theorem layering_of_listed_network :
    let s : Surroundings :=
      { environment := []
        files := Files.ofList "/w" [("c.toml",
          .file (Text.toBytes "network = ['n', 'c-1', 'http://x', 'osmo', '0.1uosmo', 1.5]"))]
        configHome := "/w/xdg" }
    ∃ file r n, fileLayer s (some "c.toml") = .ok file ∧ load s (some "c.toml") none = .ok r
      ∧ preset s Network.defaultName = .ok n
      ∧ ∃ l ∈ leaves, ¬l.Comes (Layer.ofVariables s.environment) file n r := by
  intro s
  obtain ⟨file, hfile, hunsaid⟩ := exists_ok_of_any (r := fileLayer s (some "c.toml"))
    (p := fun file => (file.standing ["network", "faucet_url"]).isEmpty) (by decide +kernel)
  obtain ⟨r, hload, hlost⟩ := exists_ok_of_any (r := load s (some "c.toml") none)
    (p := fun r => r.network.faucetUrl.isNone) (by decide +kernel)
  obtain ⟨n, hn, hfaucet⟩ := exists_ok_of_any (r := preset s Network.defaultName)
    (p := fun n => n.faucetUrl.isSome) (by decide +kernel)
  obtain ⟨l, hl, hkeys, hget⟩ : ∃ l ∈ leaves, l.keys = ["network", "faucet_url"]
      ∧ (l.get r = l.get (ofNetwork n) → r.network.faucetUrl = n.faucetUrl) := by
    refine ⟨.within "network" network (.fieldD "faucet_url" (Decode.option Conversion.text)
      Conversion.text_simple.option none Network.faucetUrl), ?_, rfl, id⟩
    simp [leaves, Network.leaves]
  refine ⟨file, r, n, hfile, hload, hn, l, hl, fun hcomes => ?_⟩
  cases hcomes with
  | environment h => cases h
  | file _ h =>
      rw [hkeys, List.isEmpty_iff.mp hunsaid] at h
      cases h
  | preset _ _ h =>
      rw [← hget h, Option.isSome_eq_false_iff.mpr hlost] at hfaucet
      cases hfaucet

end Settings

end Rollout
