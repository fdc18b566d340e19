import Rollout.Cli.Session
import Rollout.Proofs.Schema.Reading

/-!
# What a selection makes of a plan

Three passes over a plan run one after the other: one sets all flags, the other two set the flag
of the first scenario with a name. In a valid plan no two scenarios have the same name, so every
pass is a change of flags by name (`setFlag_eq_map`), and the passes compose to the closed form
`Selection.chooses`. The headline is `select_eq`: a selection fails with the first of its names
that is not in the plan, and otherwise gives every scenario the flag of the closed form. Nothing
but flags changes, so a valid plan stays valid (`validate_flagged`).
-/

namespace Rollout

/-! ## Valid plans -/

/-- A plan that may be run: every scenario has a name that is not blank, no two have the same one,
and no timeout is zero. -/
structure Plan.Valid (p : Plan) : Prop where
  named : ∀ s ∈ p.scenarios, ∃ c ∈ s.name.toList, Text.isBlank c = false
  distinct : (p.scenarios.map Scenario.name).Nodup
  timed : ∀ s ∈ p.scenarios, s.timeoutSecs ≠ some 0

namespace Plan

theorem check_eq_ok_iff (seen : List String) (scenarios : List Scenario) :
    check seen scenarios = .ok () ↔
      (∀ s ∈ scenarios, Text.allBlank s.name = false ∧ s.name ∉ seen ∧ s.timeoutSecs ≠ some 0)
        ∧ (scenarios.map Scenario.name).Nodup := by
  induction scenarios generalizing seen with
  | nil => simp [check]
  | cons s rest ih =>
      rw [check]
      by_cases hblank : Text.allBlank s.name = true
      · simp [hblank]
      by_cases hseen : s.name ∈ seen
      · simp [hblank, hseen]
      by_cases hzero : s.timeoutSecs = some 0
      · simp [hblank, hseen, hzero]
      rw [if_neg hblank, if_neg hseen, if_neg hzero, ih]
      have hblank' : Text.allBlank s.name = false := by simpa using hblank
      constructor
      · rintro ⟨hrest, hnodup⟩
        refine ⟨?_, ?_⟩
        · intro t ht
          rcases List.mem_cons.mp ht with rfl | ht
          · exact ⟨hblank', hseen, hzero⟩
          · obtain ⟨hname, hfresh, htime⟩ := hrest t ht
            exact ⟨hname, fun h => hfresh (List.mem_cons_of_mem _ h), htime⟩
        · refine List.nodup_cons.mpr ⟨fun hmem => ?_, hnodup⟩
          obtain ⟨t, ht, hname⟩ := List.mem_map.mp hmem
          exact (hrest t ht).2.1 (hname ▸ List.mem_cons_self)
      · rintro ⟨hall, hnodup⟩
        obtain ⟨hfirst, hnodup⟩ := List.nodup_cons.mp hnodup
        refine ⟨fun t ht => ?_, hnodup⟩
        obtain ⟨hname, hfresh, htime⟩ := hall t (List.mem_cons_of_mem _ ht)
        refine ⟨hname, fun hmem => ?_, htime⟩
        rcases List.mem_cons.mp hmem with heq | hmem
        · exact hfirst (heq ▸ List.mem_map_of_mem ht)
        · exact hfresh hmem

theorem allBlank_eq_false_iff (s : String) :
    Text.allBlank s = false ↔ ∃ c ∈ s.toList, Text.isBlank c = false := by
  simp [Text.allBlank]

theorem validate_eq_ok_iff (p : Plan) : p.validate = .ok () ↔ p.Valid := by
  rw [validate, check_eq_ok_iff]
  constructor
  · rintro ⟨hall, hnodup⟩
    exact ⟨fun s hs => (allBlank_eq_false_iff _).mp (hall s hs).1, hnodup,
      fun s hs => (hall s hs).2.2⟩
  · rintro ⟨hnamed, hnodup, htimed⟩
    exact ⟨fun s hs => ⟨(allBlank_eq_false_iff _).mpr (hnamed s hs), List.not_mem_nil,
      htimed s hs⟩, hnodup⟩

/-! ## Names of a plan -/

/-- A plan has a scenario of the name. -/
def Lists (p : Plan) (name : String) : Prop := ∃ s ∈ p.scenarios, s.name = name

instance (p : Plan) (name : String) : Decidable (p.Lists name) :=
  inferInstanceAs (Decidable (∃ s ∈ p.scenarios, s.name = name))

theorem isNone_get?_iff (p : Plan) (name : String) :
    (p.get? name).isNone = true ↔ ¬p.Lists name := by
  simp [get?, Lists]

/-! ## Changes of flags -/

/-- A plan with other flags. -/
def flagged (p : Plan) (flag : Scenario → Bool) : Plan :=
  { p with scenarios := p.scenarios.map fun s => { s with enabled := flag s } }

section Flagged

variable (p : Plan) (flag : Scenario → Bool)

theorem distinct_flagged (h : (p.scenarios.map Scenario.name).Nodup) :
    ((p.flagged flag).scenarios.map Scenario.name).Nodup := by
  rwa [flagged, List.map_map]

theorem lists_flagged (name : String) : (p.flagged flag).Lists name ↔ p.Lists name := by
  simp only [Lists, flagged, List.mem_map]
  constructor
  · rintro ⟨-, ⟨s, hs, rfl⟩, hname⟩
    exact ⟨s, hs, hname⟩
  · rintro ⟨s, hs, hname⟩
    exact ⟨_, ⟨s, hs, rfl⟩, hname⟩

theorem check_flagged (scenarios : List Scenario) (seen : List String) :
    check seen (scenarios.map fun s => { s with enabled := flag s }) = check seen scenarios := by
  induction scenarios generalizing seen with
  | nil => rfl
  | cons s rest ih => simp only [List.map_cons, check, ih]

/-- Flags are nothing that a plan is checked for. -/
theorem validate_flagged : (p.flagged flag).validate = p.validate := check_flagged flag _ _

theorem flagged_flagged (later : Scenario → Bool) :
    (p.flagged flag).flagged later = p.flagged fun s => later { s with enabled := flag s } := by
  simp [flagged]

theorem flagged_self : p.flagged Scenario.enabled = p := by
  simp [flagged]

end Flagged

/-- The first scenario of a name is the only one if no two have the same name. -/
theorem setFlag_eq_map {scenarios : List Scenario}
    (h : (scenarios.map Scenario.name).Nodup) (name : String) (enabled : Bool) :
    setFlag name enabled scenarios =
      scenarios.map fun s => { s with enabled := if s.name = name then enabled else s.enabled } := by
  induction scenarios with
  | nil => rfl
  | cons s rest ih =>
      obtain ⟨hfirst, hrest⟩ := List.nodup_cons.mp h
      rw [setFlag, List.map_cons]
      by_cases hname : s.name = name
      · have hsame : rest.map (fun t => { t with
            enabled := if t.name = name then enabled else t.enabled }) = rest := by
          refine (List.map_congr_left fun t ht => ?_).trans (List.map_id' rest)
          have hne : t.name ≠ name := fun heq =>
            hfirst (hname.trans heq.symm ▸ List.mem_map_of_mem ht)
          rw [if_neg hne]
        rw [if_pos hname, if_pos hname, hsame]
      · rw [if_neg hname, if_neg hname, ih hrest]

/-! ## Passes over a plan in place -/

/-- The first of some names that is not in a plan. -/
def firstUnknown (p : Plan) (names : List String) : Option String :=
  names.find? fun name => !decide (p.Lists name)

theorem firstUnknown_flagged (p : Plan) (flag : Scenario → Bool) (names : List String) :
    (p.flagged flag).firstUnknown names = p.firstUnknown names := by
  simp only [firstUnknown, lists_flagged]

theorem firstUnknown_append (p : Plan) (names later : List String) :
    p.firstUnknown (names ++ later) = (p.firstUnknown names).or (p.firstUnknown later) :=
  List.find?_append

theorem firstUnknown_eq_none_iff (p : Plan) (names : List String) :
    p.firstUnknown names = none ↔ ∀ name ∈ names, p.Lists name := by
  simp [firstUnknown]

theorem not_lists_of_firstUnknown {p : Plan} {names : List String} {name : String}
    (h : p.firstUnknown names = some name) : name ∈ names ∧ ¬p.Lists name := by
  have hmem := List.mem_of_find?_eq_some h
  have hunknown := List.find?_some h
  exact ⟨hmem, by simpa using hunknown⟩

namespace Change

theorem run_bind (c : Change α) (next : α → Change β) (p : Plan) :
    (c >>= next).run p =
      match c.run p with
      | (.ok a, q) => (next a).run q
      | (.error f, q) => (.error f, q) := by
  change ExceptT.bindCont next (c.run p).1 (c.run p).2 = _
  rcases c.run p with ⟨_ | _, q⟩ <;> rfl

theorem run_known (name : String) (p : Plan) :
    (known name).run p =
      (if p.Lists name then .ok () else .error (.unknownScenario name), p) := by
  have hget := p.isNone_get?_iff name
  rw [known, run_bind]
  change (if (p.get? name).isNone = true then throw _ else pure () : Change Unit).run p = _
  by_cases h : p.Lists name
  · rw [if_neg (fun hnone => hget.mp hnone h), if_pos h]
    rfl
  · rw [if_pos (hget.mpr h), if_neg h]
    rfl

/-- Names are looked up one after the other, and nothing is changed. -/
theorem run_forM_known (names : List String) (p : Plan) :
    (names.forM known).run p =
      (match p.firstUnknown names with
        | none => .ok ()
        | some name => .error (.unknownScenario name), p) := by
  induction names with
  | nil => rfl
  | cons name rest ih =>
      change (known name >>= fun _ => rest.forM known).run p = _
      rw [run_bind, run_known, firstUnknown]
      by_cases h : p.Lists name
      · rw [if_pos h, List.find?_cons_of_neg (by simpa using h)]
        exact ih
      · rw [if_neg h, List.find?_cons_of_pos (by simpa using h)]

theorem run_only (names : List String) (p : Plan) :
    (only names).run p =
      match p.firstUnknown names with
      | none => (.ok (), p.flagged fun s => names.contains s.name)
      | some name => (.error (.unknownScenario name), p) := by
  rw [only, run_bind, run_forM_known]
  cases p.firstUnknown names <;> rfl

/-- A change looks some names up and, if it knows them all, gives every scenario a flag. -/
structure Sets (c : Change Unit) (names : List String) (flag : Scenario → Bool) : Prop where
  flags : ∀ p : Plan, (p.scenarios.map Scenario.name).Nodup → p.firstUnknown names = none →
    c.run p = (.ok (), p.flagged flag)
  fails : ∀ p : Plan, (p.scenarios.map Scenario.name).Nodup → ∀ name,
    p.firstUnknown names = some name → ∃ q, c.run p = (.error (.unknownScenario name), q)

theorem sets_pure : Sets (pure ()) [] Scenario.enabled where
  flags p _ _ := by
    rw [flagged_self]
    rfl
  fails p _ name h := by cases h

theorem sets_setEnabled (enabled : Bool) (name : String) :
    Sets (setEnabled enabled name) [name] fun s =>
      if s.name = name then enabled else s.enabled where
  flags p hdistinct h := by
    have hlists : p.Lists name := (p.firstUnknown_eq_none_iff _).mp h name List.mem_cons_self
    rw [setEnabled, run_bind, run_known, if_pos hlists]
    change (Except.ok (), { p with scenarios := setFlag name enabled p.scenarios }) = _
    rw [setFlag_eq_map hdistinct]
    rfl
  fails p _ other h := by
    obtain ⟨hmem, hunknown⟩ := not_lists_of_firstUnknown h
    obtain rfl := List.mem_singleton.mp hmem
    exact ⟨p, by rw [setEnabled, run_bind, run_known, if_neg hunknown]⟩

theorem sets_only (names : List String) :
    Sets (only names) names fun s => names.contains s.name where
  flags p _ h := by rw [run_only, h]
  fails p _ name h := ⟨p, by rw [run_only, h]⟩

/-- The flags of the first pass are what the second one starts with. -/
theorem Sets.andThen {c c' : Change Unit} {names names' : List String}
    {flag flag' : Scenario → Bool} (h : Sets c names flag) (h' : Sets c' names' flag') :
    Sets (c >>= fun _ => c') (names ++ names') fun s => flag' { s with enabled := flag s } where
  flags p hdistinct hknown := by
    rw [firstUnknown_append, Option.or_eq_none_iff] at hknown
    have htwice := p.flagged_flagged flag flag'
    rw [run_bind, h.flags p hdistinct hknown.1, ← htwice]
    exact h'.flags _ (p.distinct_flagged flag hdistinct) (by rw [firstUnknown_flagged, hknown.2])
  fails p hdistinct name hname := by
    rw [firstUnknown_append] at hname
    cases hfirst : p.firstUnknown names with
    | some other =>
        rw [hfirst] at hname
        obtain ⟨q, hq⟩ := h.fails p hdistinct other hfirst
        exact ⟨q, by rw [run_bind, hq, Option.some.inj hname]⟩
    | none =>
        -- The second pass looks its names up in a plan with other flags, but with the same names.
        rw [hfirst, Option.none_or] at hname
        rw [run_bind, h.flags p hdistinct hfirst]
        exact h'.fails _ (p.distinct_flagged flag hdistinct) name (by rw [firstUnknown_flagged, hname])

theorem sets_forM_setEnabled (enabled : Bool) (names : List String) :
    Sets (names.forM (setEnabled enabled)) names fun s =>
      if s.name ∈ names then enabled else s.enabled := by
  induction names with
  | nil => simpa using sets_pure
  | cons name rest ih =>
      have hflag : (fun s : Scenario => if s.name ∈ name :: rest then enabled else s.enabled) =
          fun s => if s.name ∈ rest then enabled
            else if s.name = name then enabled else s.enabled := by
        funext s
        by_cases hname : s.name = name <;> simp [hname]
      rw [hflag]
      exact (sets_setEnabled enabled name).andThen ih

end Change

/-! ## Selections -/

end Plan

/-- Whether a scenario is run under a selection: what is switched off comes last, and what is
switched on comes after what is to run alone. -/
def Selection.chooses (s : Selection) (t : Scenario) : Bool :=
  if t.name ∈ s.disable then false
  else if t.name ∈ s.enable then true
  else if s.only = [] then t.enabled
  else s.only.contains t.name

/-- The names in a selection, in the order in which they are looked up. -/
def Selection.names (s : Selection) : List String := s.only ++ (s.enable ++ s.disable)

namespace Plan

theorem Change.sets_select (s : Selection) : Sets (.select s) s.names s.chooses := by
  have hrest := (sets_forM_setEnabled true s.enable).andThen (sets_forM_setEnabled false s.disable)
  obtain ⟨names, enable, disable⟩ := s
  cases names with
  | nil => exact hrest
  | cons name rest => exact (sets_only (name :: rest)).andThen hrest

/-- A selection fails with the first of its names that is not in the plan, or sets the flags. -/
theorem select_eq {p : Plan} (h : (p.scenarios.map Scenario.name).Nodup) (s : Selection) :
    p.select s =
      match p.firstUnknown s.names with
      | none => .ok (p.flagged s.chooses)
      | some name => .error (.unknownScenario name) := by
  have hsets := Change.sets_select s
  rw [select, changed]
  cases hname : p.firstUnknown s.names with
  | none => rw [hsets.flags p h hname]
  | some name =>
      obtain ⟨q, hq⟩ := hsets.fails p h name hname
      rw [hq]

/-- A plan that is read from a file has been checked. -/
theorem validate_of_load {files : Files} {path : String} {p : Plan}
    (h : load files path = .ok p) : p.validate = .ok () := by
  rw [load] at h
  split at h
  · next text =>
    rw [ofText] at h
    split at h
    · cases h
    · obtain ⟨q, -, h⟩ := bind_eq_ok_iff.mp h
      obtain ⟨⟨⟩, hvalid, h⟩ := bind_eq_ok_iff.mp h
      obtain rfl := Except.ok.inj h
      exact hvalid
  · cases h

end Plan

/-! ## Selections in a session -/

namespace Cli

theorem Session.run_check_bind (r : Except ConfigFault α) (next : α → Session σ β) (now : Nat)
    (c : Console σ) :
    (check r >>= next).run now c =
      match r with
      | .ok a => (next a).run now c
      | .error f => .ends (.error (.configuration f)) c := by
  cases r <;> rfl

/-- A selection that fails ends the session before the node is asked anything. -/
theorem runPlan_refused (scene : Scene σ) (settings : Settings) {path : String}
    {selection : Selection} (continueOnFailure : Bool) (report : Option String) (now : Nat)
    {c : Console σ} {p : Plan} {f : ConfigFault} (hload : Plan.load c.files path = .ok p)
    (h : p.select selection = .error f) :
    (runPlan scene settings path selection continueOnFailure report).run now c =
      .ends (.error (.configuration f)) c := by
  change (Session.check (Plan.load c.files path) >>= fun plan =>
    Session.check (plan.select selection) >>= _).run now c = _
  simp only [Session.run_check_bind, hload, h]

end Cli

/-! ## The law of selections -/

/-- A scenario is to be run: it is not switched off, and it is switched on, or among those that are
to run alone, or enabled as before if none is to run alone. -/
def Selection.Chooses (s : Selection) (t : Scenario) : Prop :=
  t.name ∉ s.disable ∧
    (t.name ∈ s.enable ∨ (s.only = [] ∧ t.enabled = true) ∨ (s.only ≠ [] ∧ t.name ∈ s.only))

theorem Selection.chooses_eq_true_iff (s : Selection) (t : Scenario) :
    s.chooses t = true ↔ s.Chooses t := by
  rw [chooses, Chooses]
  by_cases hdisable : t.name ∈ s.disable
  · simp [hdisable]
  by_cases henable : t.name ∈ s.enable
  · simp [hdisable, henable]
  by_cases honly : s.only = [] <;> simp [hdisable, henable, honly]

namespace Plan

/-- What a selection does to a plan. It fails exactly if it has a name that is not in the plan, and
then so does the session, in which nothing has happened yet. Else all scenarios stay as they are up
to their flags, which say what the selection chooses, and the plan stays valid. -/
structure Selected (p : Plan) (s : Selection) : Prop where
  fails_iff : (∃ f, p.select s = .error f) ↔ ∃ name ∈ s.names, ¬p.Lists name
  fault : ∀ f, p.select s = .error f → ∃ name ∈ s.names, ¬p.Lists name ∧ f = .unknownScenario name
  refused : ∀ f, p.select s = .error f → ∀ {σ : Type} (scene : Cli.Scene σ) (settings : Settings)
    (path : String) (continueOnFailure : Bool) (report : Option String) (now : Nat)
    (c : Cli.Console σ), load c.files path = .ok p →
      (Cli.runPlan scene settings path s continueOnFailure report).run now c =
        .ends (.error (.configuration f)) c
  chosen : (∀ name ∈ s.names, p.Lists name) →
    ∃ q, p.select s = .ok q ∧ q.validate = .ok () ∧ q.contracts = p.contracts
      ∧ List.Forall₂ (fun old new => new = { old with enabled := new.enabled }
        ∧ (new.enabled = true ↔ s.Chooses old)) p.scenarios q.scenarios

theorem selected_of_valid {p : Plan} (h : p.validate = .ok ()) (s : Selection) :
    p.Selected s := by
  have hselect := select_eq (p.validate_eq_ok_iff.mp h).distinct s
  have hrefused (f : ConfigFault) (hf : p.select s = .error f) :
      ∃ name ∈ s.names, ¬p.Lists name ∧ f = .unknownScenario name := by
    cases hname : p.firstUnknown s.names with
    | none =>
        rw [hselect, hname] at hf
        cases hf
    | some name =>
        rw [hselect, hname] at hf
        obtain ⟨hmem, hunknown⟩ := not_lists_of_firstUnknown hname
        exact ⟨name, hmem, hunknown, (Except.error.inj hf).symm⟩
  refine ⟨⟨fun ⟨f, hf⟩ => ?_, fun ⟨name, hmem, hunknown⟩ => ?_⟩, hrefused, ?_, fun hknown => ?_⟩
  · obtain ⟨name, hmem, hunknown, -⟩ := hrefused f hf
    exact ⟨name, hmem, hunknown⟩
  · cases hname : p.firstUnknown s.names with
    | none => exact absurd ((p.firstUnknown_eq_none_iff _).mp hname name hmem) hunknown
    | some other => exact ⟨_, by rw [hselect, hname]⟩
  · intro f hf _ scene settings path continueOnFailure report now c hload
    exact Cli.runPlan_refused scene settings continueOnFailure report now hload hf
  · have hflags : p.select s = .ok (p.flagged s.chooses) := by
      rw [hselect, (p.firstUnknown_eq_none_iff _).mpr hknown]
    refine ⟨_, hflags, (p.validate_flagged _).trans h, rfl, ?_⟩
    rw [flagged, List.forall₂_map_right_iff]
    exact List.forall₂_same.mpr fun t _ => ⟨rfl, s.chooses_eq_true_iff t⟩

/-- A plan is accepted exactly if it is valid, running unknown scenarios alone changes nothing, and
every selection of a plan that was accepted, as one that was loaded was, does what it says. -/
theorem selection_law (p : Plan) :
    (p.validate = .ok () ↔ p.Valid)
      ∧ (∀ names, (∃ name ∈ names, ¬p.Lists name) →
        ∃ name ∈ names, ¬p.Lists name
          ∧ (Change.only names).run p = (.error (.unknownScenario name), p))
      ∧ (p.validate = .ok () → ∀ s, p.Selected s)
      ∧ ∀ files path, load files path = .ok p → ∀ s, p.Selected s := by
  refine ⟨p.validate_eq_ok_iff, fun names hunknown => ?_, selected_of_valid,
    fun _ _ h => selected_of_valid (validate_of_load h)⟩
  cases hname : p.firstUnknown names with
  | none =>
      obtain ⟨name, hmem, hnot⟩ := hunknown
      exact absurd ((p.firstUnknown_eq_none_iff _).mp hname name hmem) hnot
  | some name =>
      obtain ⟨hmem, hnot⟩ := not_lists_of_firstUnknown hname
      exact ⟨name, hmem, hnot, by rw [Change.run_only, hname]⟩

/-- Three scenarios, the second of them not enabled. The last two are to run alone, the first is
switched on and the last one off, so that the first two are run. -/
theorem selection_law_of_overlap :
    let p : Plan := ⟨.empty, [.make "swap" [], (Scenario.make "send" []).disabled, .make "redeem" []]⟩
    let s : Selection := ⟨["send", "redeem"], ["swap"], ["redeem"]⟩
    p.Valid ∧ p.Selected s
      ∧ (∃ q, p.select s = .ok q ∧ q.scenarios.map Scenario.enabled = [true, true, false])
      ∧ (Change.only ["swap", "burn"]).run p = (.error (.unknownScenario "burn"), p) := by
  intro p s
  have hvalid : p.validate = .ok () := by decide
  obtain ⟨hiff, honly, hselected, -⟩ := selection_law p
  obtain ⟨q, hq, -⟩ := (hselected hvalid s).chosen (by decide)
  have hflags : q.scenarios.map Scenario.enabled = [true, true, false] := by
    cases hq
    decide
  obtain ⟨name, hmem, hunknown, hrun⟩ := honly ["swap", "burn"] ⟨"burn", by decide, by decide⟩
  have hname : name = "burn" := by
    rcases List.mem_cons.mp hmem with rfl | hmem
    · exact absurd (by decide) hunknown
    · exact List.mem_singleton.mp hmem
  exact ⟨hiff.mp hvalid, hselected hvalid s, ⟨q, hq, hflags⟩, hname ▸ hrun⟩

end Plan

end Rollout
