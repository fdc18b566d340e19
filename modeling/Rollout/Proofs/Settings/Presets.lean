import Rollout.Proofs.Settings.Layering

/-!
# The network file

The preset of a network is an entry of the network file. `Network.States` says that the file is
found, is a document in one of the formats that are modelled, and has an entry that is read as a
network; `Network.Unusable` lists all ways in which it comes to nothing, the first of them being
that there is no file at all.

What follows is the same for all of these ways (`Settings.network_file_law`): the network that is
used by default is the built-in one then, and any other network is unknown. So a file that is there
but of no use is as good as none for the default network, and nothing tells it from a file that is
not there.
-/

namespace Rollout

namespace Surroundings

/-- The paths at which the network file is looked for. -/
def networkPaths (s : Surroundings) : List String := candidates (s.configDirectory ++ "/network")

/-- A file is found at the first of some paths that leads to one. -/
def Finds (s : Surroundings) (paths : List String) (path : String) (content : Bytes) : Prop :=
  paths.find? (fun p => (s.files.read p).toOption.isSome) = some path
    ∧ s.files.read path = .ok content

/-- The file that is found holds a document. -/
inductive Reads (s : Surroundings) (paths : List String) (document : Json) : Prop
  | file {path : String} {content : Bytes} {format : ConfigFormat}
      (hfile : s.Finds paths path content)
      (hformat : ConfigFormat.ofPath? path = some format)
      (hread : format.read? (textOf content) = some document)

end Surroundings

namespace Network

/-- What a network file says about a network. -/
def networkIn? (document : Json) (name : String) : Option Json := do
  ((Layer.ofDocument document).overlay (.obj [])).at? (← Place.parse? name)

/-- The network file has an entry that is a network. -/
inductive States (s : Surroundings) (name : String) (n : Network) : Prop
  | entry {document v : Json} (hdocument : s.Reads s.networkPaths document)
      (hentry : networkIn? document name = some v)
      (h : (shapeFor Conversion.readers).decodeLong v = .ok n)

/-- The network file is of no use for a network. -/
inductive Unusable (s : Surroundings) (name : String) : Prop
  | absent (h : ∀ path ∈ s.networkPaths, ∀ content, s.files.read path ≠ .ok content)
  | formatless {path : String} {content : Bytes} (hfile : s.Finds s.networkPaths path content)
      (h : ConfigFormat.ofPath? path = none)
  | malformed {path : String} {content : Bytes} {format : ConfigFormat}
      (hfile : s.Finds s.networkPaths path content)
      (hformat : ConfigFormat.ofPath? path = some format)
      (h : format.read? (Surroundings.textOf content) = none)
  | entryless {document : Json} (hdocument : s.Reads s.networkPaths document)
      (h : networkIn? document name = none)
  | unfit {document v : Json} {fault : DecodeFault} (hdocument : s.Reads s.networkPaths document)
      (hentry : networkIn? document name = some v)
      (h : (shapeFor Conversion.readers).decodeLong v = .error fault)

end Network

/-! ## Reading the network file -/

namespace Surroundings

variable {s : Surroundings} {path : String} {content : Bytes}

theorem layerOf?_of_absent {directory : String}
    (h : (candidates directory).find? (fun p => (s.files.read p).toOption.isSome) = none) :
    s.layerOf? directory = none := by
  simp only [layerOf?, h, Option.bind_eq_bind, Option.bind_none]

theorem layerOf?_of_finds {directory : String} (h : s.Finds (candidates directory) path content) :
    s.layerOf? directory = (ConfigFormat.ofPath? path).bind fun format =>
      (format.read? (textOf content)).map Layer.ofDocument := by
  obtain ⟨hfind, hcontent⟩ := h
  have hfile : (s.files.read path).toOption = some content := by
    rw [hcontent]
    rfl
  simp only [layerOf?, hfind, Option.bind_eq_bind, Option.bind_some, hfile, Option.pure_def]
  cases ConfigFormat.ofPath? path with
  | none => rfl
  | some format => exact Option.map_eq_bind.symm

theorem layerOf?_of_reads {directory : String} {document : Json}
    (h : s.Reads (candidates directory) document) :
    s.layerOf? directory = some (Layer.ofDocument document) := by
  obtain ⟨hfile, hformat, hread⟩ := h
  rw [layerOf?_of_finds hfile, hformat, Option.bind_some, hread]
  rfl

/-- There is a file at one of some paths, or at none of them. -/
theorem finds_or_absent (s : Surroundings) (paths : List String) :
    (∃ path content, s.Finds paths path content) ∨
      ∀ path ∈ paths, ∀ content, s.files.read path ≠ .ok content := by
  cases h : paths.find? (fun p => (s.files.read p).toOption.isSome) with
  | none =>
      refine .inr fun path hpath content hcontent => ?_
      have hnone := List.find?_eq_none.mp h path hpath
      simp [hcontent, Except.toOption] at hnone
  | some path =>
      have hfile := List.find?_some h
      cases hread : s.files.read path with
      | error fault => simp [hread, Except.toOption] at hfile
      | ok content => exact .inl ⟨path, content, h, hread⟩

end Surroundings

namespace Network

variable {s : Surroundings} {name : String}

theorem load_of_no_layer (h : s.layerOf? (s.configDirectory ++ "/network") = none) :
    load s name = .error .source := by
  delta load
  simp [h]

theorem load_of_reads {document : Json} (h : s.Reads s.networkPaths document) :
    load s name = (networkIn? document name).elim (.error .source) fun v =>
      ((shapeFor Conversion.readers).decodeLong v).mapError fun _ => .source := by
  have hfound : (do
      let layer ← s.layerOf? (s.configDirectory ++ "/network")
      (Layer.overlay (.obj []) layer).at? (← Place.parse? name)) = networkIn? document name := by
    rw [Surroundings.layerOf?_of_reads h]
    rfl
  delta load
  rw [hfound]
  cases networkIn? document name with
  | none => rfl
  | some v => rfl

theorem load_of_states {n : Network} (h : States s name n) : load s name = .ok n := by
  obtain ⟨hdocument, hentry, hread⟩ := h
  rw [load_of_reads hdocument, hentry, Option.elim_some]
  exact mapError_eq_ok_iff.mpr hread

theorem load_of_unusable (h : Unusable s name) : load s name = .error .source := by
  cases h with
  | absent h =>
      refine load_of_no_layer (Surroundings.layerOf?_of_absent (List.find?_eq_none.mpr ?_))
      intro path hpath
      cases hread : s.files.read path with
      | error fault => exact nofun
      | ok content => exact absurd hread (h path hpath content)
  | formatless hfile h =>
      refine load_of_no_layer ?_
      rw [Surroundings.layerOf?_of_finds hfile, h]
      rfl
  | malformed hfile hformat h =>
      refine load_of_no_layer ?_
      rw [Surroundings.layerOf?_of_finds hfile, hformat, Option.bind_some, h]
      rfl
  | entryless hdocument h => rw [load_of_reads hdocument, h, Option.elim_none]
  | unfit hdocument hentry h =>
      rw [load_of_reads hdocument, hentry, Option.elim_some, h]
      rfl

/-- The network file has an entry that is a network, or it is of no use. -/
theorem states_or_unusable (s : Surroundings) (name : String) :
    (∃ n, States s name n) ∨ Unusable s name := by
  rcases s.finds_or_absent s.networkPaths with ⟨path, content, hfile⟩ | habsent
  · cases hformat : ConfigFormat.ofPath? path with
    | none => exact .inr (.formatless hfile hformat)
    | some format =>
        cases hread : format.read? (Surroundings.textOf content) with
        | none => exact .inr (.malformed hfile hformat hread)
        | some document =>
            have hdocument : s.Reads s.networkPaths document := .file hfile hformat hread
            cases hentry : networkIn? document name with
            | none => exact .inr (.entryless hdocument hentry)
            | some v =>
                cases hv : (shapeFor Conversion.readers).decodeLong v with
                | error fault => exact .inr (.unfit hdocument hentry hv)
                | ok n => exact .inl ⟨n, .entry hdocument hentry hv⟩
  · exact .inr (.absent habsent)

end Network

namespace Settings

open Network (States Unusable)

variable {s : Surroundings} {name : String}

theorem preset_of_states {n : Network} (h : States s name n) : preset s name = .ok n := by
  delta preset
  rw [Network.load_of_states h]

theorem preset_of_unusable (h : Unusable s name) :
    preset s name =
      if name = Network.defaultName then .ok .builtIn else .error (.unknownNetwork name) := by
  delta preset
  rw [Network.load_of_unusable h]

/-- Settings are loaded above the entry for the network in the network file. If the file is of no
use, for whatever reason, they are loaded above the built-in network if the default one is selected,
and not at all otherwise; one file that is of no use is as good as another one, or as none. Leaf by
leaf the settings come from the variables, the file and this preset, as long as tables stand where
the settings have records. -/
theorem network_file_law (s : Surroundings) (path network : Option String) :
    let name := networkName s network
    ((∃ n, (States s name n ∨ (Unusable s name ∧ name = Network.defaultName ∧ n = .builtIn))
        ∧ load s path network = loadAbove s path n
        ∧ ∀ file r, fileLayer s path = .ok file → load s path network = .ok r → file.KeepsTables →
          (Layer.ofVariables s.environment).KeepsTables →
            ∀ l ∈ leaves, l.Comes (Layer.ofVariables s.environment) file n r)
      ∨ (Unusable s name ∧ name ≠ Network.defaultName
        ∧ load s path network = .error (.configuration (.unknownNetwork name))))
    ∧ ∀ s', s'.environment = s.environment → fileLayer s' path = fileLayer s path →
      Unusable s name → Unusable s' name → load s' path network = load s path network := by
  intro name
  have habove {n : Network} (hn : preset s name = .ok n) :
      load s path network = loadAbove s path n
        ∧ ∀ file r, fileLayer s path = .ok file → load s path network = .ok r → file.KeepsTables →
          (Layer.ofVariables s.environment).KeepsTables →
            ∀ l ∈ leaves, l.Comes (Layer.ofVariables s.environment) file n r := by
    have hload : load s path network = loadAbove s path n := by
      rw [load_eq, hn]
      rfl
    exact ⟨hload, fun file r hfile hr => comes_of_loadAbove (hload.symm.trans hr) hfile⟩
  constructor
  · rcases Network.states_or_unusable s name with ⟨n, hn⟩ | hunusable
    · exact .inl ⟨n, .inl hn, habove (preset_of_states hn)⟩
    · by_cases hname : name = Network.defaultName
      · have hpreset : preset s name = .ok .builtIn :=
          (preset_of_unusable hunusable).trans (if_pos hname)
        exact .inl ⟨.builtIn, .inr ⟨hunusable, hname, rfl⟩, habove hpreset⟩
      · refine .inr ⟨hunusable, hname, ?_⟩
        rw [load_eq, preset_of_unusable hunusable, if_neg hname]
        rfl
  · intro s' henv hfile hunusable hunusable'
    have hname : networkName s' network = name := by
      rw [networkName, Surroundings.variableValue?, henv]
      rfl
    have hover : loadAbove s' path = loadAbove s path := by
      funext n
      rw [loadAbove, loadAbove, hfile, henv]
    rw [load_eq, load_eq, hname, preset_of_unusable hunusable', preset_of_unusable hunusable, hover]

/-- An entry that is a network, be it a list, is used in place of the built-in one. -/
theorem network_file_law_of_entry :
    let s : Surroundings :=
      { environment := []
        files := Files.ofList "/w" [("config/network.toml",
          .file (Text.toBytes "osmosis-testnet = ['n', 'other-1', 'u', 'p', '1uosmo', 1.5]"))]
        configHome := "/w/xdg" }
    networkName s none = Network.defaultName
      ∧ ∃ n, States s Network.defaultName n ∧ n.chainId = "other-1"
        ∧ load s none none = loadAbove s none n := by
  intro s
  obtain ⟨entry, hentry, hchain⟩ := exists_ok_of_any (r := Network.load s Network.defaultName)
    (p := fun n => n.chainId = "other-1") (by decide +kernel)
  have husable : ¬Unusable s Network.defaultName := by
    intro h
    cases hentry.symm.trans (Network.load_of_unusable h)
  have hname : networkName s none = Network.defaultName := by decide
  have hlaw := network_file_law s none none
  rw [hname] at hlaw
  rcases hlaw.1 with ⟨n, hstates | ⟨hunusable, -⟩, hload, -⟩ | ⟨hunusable, -⟩
  · obtain rfl := Except.ok.inj (hentry.symm.trans (Network.load_of_states hstates))
    exact ⟨hname, _, hstates, of_decide_eq_true hchain, hload⟩
  · exact absurd hunusable husable
  · exact absurd hunusable husable

/-- A network file that gives the default network another chain, and nothing else, is there, and the
settings are those of the built-in network all the same. -/
theorem load_of_ignored_file :
    let s : Surroundings :=
      { environment := []
        files := Files.ofList "/w" [("config/network.toml",
          .file (Text.toBytes "[osmosis-testnet]\nchain_id = 'other-1'\n"))]
        configHome := "/w/xdg" }
    (∃ content, s.Finds s.networkPaths "config/network.toml" content)
      ∧ networkName s none = Network.defaultName ∧ (¬∃ n, States s Network.defaultName n)
      ∧ ∃ r, load s none none = .ok r ∧ r.network.chainId = Network.builtIn.chainId := by
  intro s
  obtain ⟨content, hcontent, -⟩ := exists_ok_of_any (r := s.files.read "config/network.toml")
    (p := fun _ => true) (by decide +kernel)
  obtain ⟨r, hload, hchain⟩ := exists_ok_of_any (r := load s none none)
    (p := fun r => r.network.chainId = Network.builtIn.chainId) (by decide +kernel)
  have hfind : s.networkPaths.find? (fun p => (s.files.read p).toOption.isSome) =
      some "config/network.toml" := by
    decide +kernel
  refine ⟨⟨content, hfind, hcontent⟩, by decide, ?_, r, hload, of_decide_eq_true hchain⟩
  rintro ⟨n, hn⟩
  have hfails : ((Network.load s Network.defaultName).toOption.isSome) = false := by
    decide +kernel
  rw [Network.load_of_states hn] at hfails
  cases hfails

end Settings

end Rollout
