import Rollout.Proofs.Json.ReadBack
import Rollout.Proofs.Run.Accounts
import Rollout.Proofs.Schema.Reading
import Rollout.Proofs.Wire.Layouts
import Rollout.Report

/-!
# Reports read back from their files

Each part of a report has a reader that `Inverts` its writer on the values that are read back from
texts: the words, the records field by field (`Shape.decode_reread`), and the registry, whose roles
are written in the order in which they are sorted. The whole is nested too little for the reader of
texts to give up (`RunReport.readable`).

The pass rate is the exception. A double may be read back as another one, and one that is not
finite is written as `null`, which is no double: then nothing is read back
(`RunReport.ofFile?_of_not_finite`). The rate that a run counts is finite
(`RunSummary.isFinite_ofReports`), so the report of a run is read back whatever has happened in it
(`Deployment.run_readBack`).
-/

namespace Rollout

open Decode (Inverts)

/-! ## Words -/

theorem Operation.inverts : decode.Inverts fun o => .str o.text :=
  Decode.inverts_word fun o => by cases o <;> rfl

theorem FailureKind.inverts : decode.Inverts fun k => .str k.code :=
  Decode.inverts_word fun k => by cases k <;> rfl

theorem StepStatus.inverts : decode.Inverts fun s => .str s.text :=
  Decode.inverts_word fun s => by cases s <;> rfl

theorem Ending.inverts : decode.Inverts fun e => .str e.text :=
  Decode.inverts_word fun e => by cases e <;> rfl

/-- A value that may be missing is read back if it is when it is there. -/
theorem Decode.Inverts.optional {decode : Decode α} {encode : α → Json}
    (h : decode.Inverts fun a => (encode a).reread) (hnull : ∀ a, (encode a).reread ≠ .null) :
    (Decode.option decode).Inverts fun o => (Json.ofOption encode o).reread := by
  intro o
  have hoption := h.option hnull o
  rwa [← Json.reread_ofOption] at hoption

theorem Decode.Inverts.several {decode : Decode α} {encode : α → Json}
    (h : decode.Inverts fun a => (encode a).reread) :
    (Decode.list decode).Inverts fun as => (Json.ofList encode as).reread := by
  intro as
  have hlist := h.list as
  rwa [← Json.reread_ofList] at hlist

theorem inverts_optionalText :
    (Decode.option Decode.text).Inverts fun o => (Json.ofOption .str o).reread :=
  Decode.inverts_text.optional nofun

theorem inverts_optionalNumber : (Decode.option Decode.uint64).Inverts
    fun o => (Json.ofOption (fun n : UInt64 => .int n.toNat) o).reread :=
  Decode.inverts_uint64.optional nofun

theorem inverts_optionalKind :
    (Decode.option FailureKind.decode).Inverts fun k => (StepReport.encodeKind k).reread :=
  FailureKind.inverts.optional nofun

/-- A record is read back if it is read wherever its fields are found. -/
theorem Shape.decode_reread {s : Shape α} {fields : List (String × Json)} {a : α}
    (hnames : (fields.map Prod.fst).Nodup)
    (h : ∀ found : Record,
      (∀ f ∈ fields, Json.lookup found.fields f.1 = some f.2.reread) → s.read found = .ok a) :
    s.decode (Json.obj fields).reread = .ok a :=
  Shape.decode_eq_ok_iff.mpr ⟨_, .object _, h _ (Json.lookup_reread hnames)⟩

/-- What is read in the object that a record is read back as, is read where its fields are found. -/
theorem Shape.exists_found {s : Shape α} {fields : List (String × Json)} {a : α}
    (hnames : (fields.map Prod.fst).Nodup) (h : s.decode (Json.obj fields).reread = .ok a) :
    ∃ found : Record,
      (∀ f ∈ fields, Json.lookup found.fields f.1 = some f.2.reread) ∧ s.read found = .ok a := by
  obtain ⟨_, ⟨⟩, hread⟩ := Shape.decode_eq_ok_iff.mp h
  exact ⟨_, Json.lookup_reread hnames, hread⟩

/-! ## Scenarios -/

theorem StepReport.inverts : shape.decode.Inverts fun r => r.encode.reread := by
  intro r
  refine Shape.decode_reread (by simp) fun found hfound => ?_
  simp only [List.forall_mem_cons] at hfound
  obtain ⟨hoperation, hrole, hstatus, hduration, herror, hkind, -⟩ := hfound
  have hread : (Shape.of mk).read found = .ok mk := rfl
  have hread := Shape.read_field_of hread hoperation (Operation.inverts r.operation)
  have hread := Shape.read_nullable_of hread hrole (inverts_optionalText r.role)
  have hread := Shape.read_field_of hread hstatus (StepStatus.inverts r.status)
  have hread := Shape.read_field_of hread hduration (Decode.inverts_uint64 r.durationMs)
  have hread := Shape.read_nullable_of hread herror (inverts_optionalText r.error)
  exact Shape.read_nullable_of hread hkind (inverts_optionalKind r.errorKind)

theorem ScenarioReport.inverts : shape.decode.Inverts fun r => r.encode.reread := by
  intro r
  refine Shape.decode_reread (by simp) fun found hfound => ?_
  simp only [List.forall_mem_cons] at hfound
  obtain ⟨hname, houtcome, hduration, herror, hkind, hsteps, -⟩ := hfound
  have hread : (Shape.of mk).read found = .ok mk := rfl
  have hread := Shape.read_field_of hread hname (Decode.inverts_text r.name)
  have hread := Shape.read_field_of hread houtcome (Ending.inverts r.outcome)
  have hread := Shape.read_field_of hread hduration (Decode.inverts_uint64 r.durationMs)
  have hread := Shape.read_nullable_of hread herror (inverts_optionalText r.error)
  have hread := Shape.read_nullable_of hread hkind (inverts_optionalKind r.errorKind)
  exact Shape.read_field_of hread hsteps (StepReport.inverts.several r.steps)

/-! ## The registry -/

theorem ContractRecord.inverts : shape.decode.Inverts fun r => r.encode.reread := by
  intro r
  refine Shape.decode_reread (by simp) fun found hfound => ?_
  simp only [List.forall_mem_cons] at hfound
  obtain ⟨hcode, haddress, -⟩ := hfound
  have hread : (Shape.of mk).read found = .ok mk := rfl
  have hread := Shape.read_nullable_of hread hcode (inverts_optionalNumber r.codeId)
  exact Shape.read_nullable_of hread haddress (inverts_optionalText r.address)

/-- Inserting the entries of a map one after the other makes it anew. -/
theorem SortedMap.ofList_entries (m : SortedMap α) : ofList m.entries = m := by
  have hfold : ∀ (rest : List (String × α)) (n : SortedMap α),
      (rest.foldl (fun n e => n.insert e.1 e.2) n).entries =
        rest.foldl (fun sorted e => insertEntry e.1 e.2 sorted) n.entries := by
    intro rest
    induction rest with
    | nil => exact fun _ => rfl
    | cons e rest ih => exact fun n => ih (n.insert e.1 e.2)
  have hentries : (ofList m.entries).entries = m.entries :=
    (hfold m.entries .empty).trans (Json.foldl_insertEntry m.entries m.sorted)
  cases hlist : ofList m.entries
  simp_all

theorem Registry.inverts : decode.Inverts fun r => r.encode.reread := by
  intro r
  have hfields : Json.rereadFields (r.records.entries.map fun e => (e.1, e.2.encode)) =
      r.records.entries.map fun e => (e.1, e.2.encode.reread) := by
    rw [Json.rereadFields_eq_map, List.map_map]
    rfl
  have hsorted : Json.sortFields (r.records.entries.map fun e => (e.1, e.2.encode.reread)) =
      r.records.entries.map fun e => (e.1, e.2.encode.reread) :=
    Json.sortFields_of_sorted (List.pairwise_map.mpr r.records.sorted)
  have hrecords : (r.records.entries.map fun e => (e.1, e.2.encode.reread)).mapM
      (fun f => do return (f.1, ← ContractRecord.shape.decode f.2)) = .ok r.records.entries := by
    rw [mapM_eq_ok_iff, List.forall₂_map_left_iff]
    exact List.forall₂_same.mpr fun e _ => bind_eq_ok_iff.mpr ⟨e.2, ContractRecord.inverts e.2, rfl⟩
  simp only [encode, Json.reread, hfields, hsorted, decode]
  rw [hrecords]
  exact congrArg Except.ok (congrArg mk r.records.ofList_entries)

/-! ## Counts -/

namespace RunSummary

/-- The counts are read back, and the pass rate as what a double is read back as. -/
theorem decode_reread (s : RunSummary) {rate : Float}
    (h : Json.rereadReal s.passRate = .real rate) :
    shape.decode s.encode.reread = .ok { s with passRate := rate } := by
  refine Shape.decode_reread (by simp) fun found hfound => ?_
  simp only [List.forall_mem_cons] at hfound
  obtain ⟨htotal, hsucceeded, hfailed, htimedOut, hskipped, hrate, -⟩ := hfound
  have hdouble : Decode.double (Json.real s.passRate).reread = .ok rate := by
    rw [Json.reread, h]
    rfl
  have hread : (Shape.of mk).read found = .ok mk := rfl
  have hread := Shape.read_field_of hread htotal (Decode.inverts_uint64 s.total)
  have hread := Shape.read_field_of hread hsucceeded (Decode.inverts_uint64 s.succeeded)
  have hread := Shape.read_field_of hread hfailed (Decode.inverts_uint64 s.failed)
  have hread := Shape.read_field_of hread htimedOut (Decode.inverts_uint64 s.timedOut)
  have hread := Shape.read_field_of hread hskipped (Decode.inverts_uint64 s.skipped)
  exact Shape.read_field_of hread hrate hdouble

/-- With a pass rate that is not finite nothing is read back. -/
theorem decode_reread_of_not_finite {s t : RunSummary}
    (h : Decimal.isFinite s.passRate = false) : shape.decode s.encode.reread ≠ .ok t := by
  intro ht
  obtain ⟨found, hfound, hread⟩ := Shape.exists_found (by simp) ht
  simp only [List.forall_mem_cons] at hfound
  obtain ⟨-, -, -, -, -, hrate, -⟩ := hfound
  obtain ⟨_, _, _, ⟨v, hv, hdouble⟩, _⟩ := Shape.read_field.mp hread
  cases hv.symm.trans hrate
  rw [Json.reread, Json.rereadReal_of_not_finite h] at hdouble
  cases hdouble

/-- A pass rate that is counted is finite. -/
theorem isFinite_ofReports {reports : List ScenarioReport} (h : reports.length < UInt64.size) :
    Decimal.isFinite (ofReports reports).passRate = true := by
  have hcounts := counts_add reports
  rw [UInt64.size] at h
  simp only [ofReports, rate]
  split
  · rfl
  · exact Decimal.isFinite_percentage (by omega) (by omega) (by omega)

end RunSummary

/-! ## Written values -/

section

variable {depth : Nat}

theorem StepReport.readable (r : StepReport) : r.encode.Readable (depth + 1) := by
  refine .obj ?_
  simp only [List.forall_mem_cons]
  exact ⟨.str _, .ofOption .str r.role, .str _, .uint64 r.durationMs, .ofOption .str r.error,
    .ofOption (fun _ => .str _) r.errorKind, nofun⟩

theorem ScenarioReport.readable (r : ScenarioReport) : r.encode.Readable (depth + 3) := by
  refine .obj ?_
  simp only [List.forall_mem_cons]
  exact ⟨.str _, .str _, .uint64 r.durationMs, .ofOption .str r.error,
    .ofOption (fun _ => .str _) r.errorKind, .ofList StepReport.readable r.steps, nofun⟩

theorem RunSummary.readable (s : RunSummary) : s.encode.Readable (depth + 1) := by
  refine .obj ?_
  simp only [List.forall_mem_cons]
  exact ⟨.uint64 s.total, .uint64 s.succeeded, .uint64 s.failed, .uint64 s.timedOut,
    .uint64 s.skipped, .real s.passRate, nofun⟩

theorem ContractRecord.readable (r : ContractRecord) : r.encode.Readable (depth + 1) := by
  refine .obj ?_
  simp only [List.forall_mem_cons]
  exact ⟨.ofOption .uint64 r.codeId, .ofOption .str r.address, nofun⟩

theorem Registry.readable (r : Registry) : r.encode.Readable (depth + 2) := by
  refine .obj ?_
  rw [List.forall_mem_map]
  exact fun e _ => e.2.readable

theorem RunReport.readable (r : RunReport) : r.encode.Readable (depth + 5) := by
  refine .obj ?_
  simp only [List.forall_mem_cons]
  exact ⟨.str _, .str _, .ofList ScenarioReport.readable r.scenarios, r.summary.readable,
    r.registry.readable, nofun⟩

end

/-! ## Reports -/

namespace RunReport

/-- The report that a file holds. -/
def ofFile? (bytes : Bytes) : Option RunReport := do
  let text ← Text.ofBytes? bytes
  let v ← Json.parse? text
  (shape.decode v).toOption

/-- The report with another pass rate. -/
def withRate (r : RunReport) (rate : Float) : RunReport :=
  { r with summary := { r.summary with passRate := rate } }

theorem ofFile?_fileText (r : RunReport) :
    ofFile? (Text.toBytes r.fileText) = (shape.decode r.encode.reread).toOption := by
  have hreadable : r.encode.Readable (122 + 5) := r.readable
  have hparse : Json.parse? r.fileText = some r.encode.reread := Json.parse?_indented hreadable
  rw [ofFile?, Text.ofBytes?_toBytes]
  simp only [Option.bind_eq_bind, Option.bind_some, hparse]

/-- A report is read back with the rate that its rate is read back as. -/
theorem decode_reread (r : RunReport) {rate : Float}
    (h : Json.rereadReal r.summary.passRate = .real rate) :
    shape.decode r.encode.reread = .ok (r.withRate rate) := by
  refine Shape.decode_reread (by simp) fun found hfound => ?_
  simp only [List.forall_mem_cons] at hfound
  obtain ⟨hstarted, hfinished, hscenarios, hsummary, hregistry, -⟩ := hfound
  have hread : (Shape.of mk).read found = .ok mk := rfl
  have hread := Shape.read_field_of hread hstarted (Decode.inverts_text r.startedAt)
  have hread := Shape.read_field_of hread hfinished (Decode.inverts_text r.finishedAt)
  have hread := Shape.read_field_of hread hscenarios
    (ScenarioReport.inverts.several r.scenarios)
  have hread := Shape.read_field_of hread hsummary (r.summary.decode_reread h)
  exact Shape.read_field_of hread hregistry (Registry.inverts r.registry)

theorem decode_reread_of_not_finite {r s : RunReport}
    (h : Decimal.isFinite r.summary.passRate = false) : shape.decode r.encode.reread ≠ .ok s := by
  intro hs
  obtain ⟨found, hfound, hread⟩ := Shape.exists_found (by simp) hs
  simp only [List.forall_mem_cons] at hfound
  obtain ⟨-, -, -, hsummary, -⟩ := hfound
  obtain ⟨_, _, hread, _⟩ := Shape.read_field.mp hread
  obtain ⟨_, _, _, ⟨v, hv, hcounts⟩, _⟩ := Shape.read_field.mp hread
  cases hv.symm.trans hsummary
  exact RunSummary.decode_reread_of_not_finite h hcounts

/-- A file that was written with a pass rate that is not finite holds no report. -/
theorem ofFile?_of_not_finite {r : RunReport} (h : Decimal.isFinite r.summary.passRate = false) :
    ofFile? (Text.toBytes r.fileText) = none := by
  rw [ofFile?_fileText]
  cases hread : shape.decode r.encode.reread with
  | error fault => rfl
  | ok s => exact absurd hread (decode_reread_of_not_finite h)

theorem ofFile?_of_undefined_rate :
    ofFile? (Text.toBytes (RunReport.mk "" "" [] ⟨0, 0, 0, 0, 0, 0.0 / 0.0⟩ .empty).fileText) =
      none :=
  ofFile?_of_not_finite rfl

/-- A report with a finite pass rate is read back from its file, perhaps with another rate. -/
theorem exists_ofFile? {r : RunReport} (h : Decimal.isFinite r.summary.passRate = true) :
    ∃ rate, ofFile? (Text.toBytes r.fileText) = some (r.withRate rate) := by
  obtain ⟨rate, hrate, -⟩ := Json.exists_rereadReal_of_finite h
  refine ⟨rate, ?_⟩
  rw [ofFile?_fileText, decode_reread r hrate]
  rfl

/-- A report with a finite pass rate is read back from its file. In all but the rate it is what was
written, and so it answers the same. -/
theorem written_law (r : RunReport) (h : Decimal.isFinite r.summary.passRate = true) :
    ∃ s, ofFile? (Text.toBytes r.fileText) = some s
      ∧ s.startedAt = r.startedAt ∧ s.finishedAt = r.finishedAt
      ∧ s.scenarios = r.scenarios ∧ s.registry = r.registry
      ∧ s.summary.total = r.summary.total ∧ s.summary.succeeded = r.summary.succeeded
      ∧ s.summary.failed = r.summary.failed ∧ s.summary.timedOut = r.summary.timedOut
      ∧ s.summary.skipped = r.summary.skipped
      ∧ s.isSuccess = r.isSuccess ∧ s.firstFailureKind = r.firstFailureKind
      ∧ ∀ name, s.get? name = r.get? name := by
  obtain ⟨rate, hfile⟩ := exists_ofFile? h
  exact ⟨r.withRate rate, hfile, rfl, rfl, rfl, rfl, rfl, rfl, rfl, rfl, rfl, rfl, rfl,
    fun _ => rfl⟩

/-- A scenario that failed in a call, with a log in quotes, and one contract. -/
theorem written_law_of_failed_scenario :
    ∃ s, ofFile? (Text.toBytes (RunReport.mk "" ""
        [⟨"swap", .failed, 12, some "\"out of gas\"", some .executeRejected,
          [⟨.execute, some "manager", .failed, 7, some "\"out of gas\"", some .executeRejected⟩]⟩]
        ⟨1, 0, 1, 0, 0, 0.0⟩ (Registry.empty.recordCode "manager" 3)).fileText) = some s
      ∧ s.isSuccess = false ∧ s.firstFailureKind = some .executeRejected
      ∧ (s.get? "swap").map ScenarioReport.outcome = some .failed
      ∧ s.registry.codeId "manager" = .ok 3 := by
  obtain ⟨s, hfile, -, -, -, hregistry, -, -, -, -, -, hsuccess, hkind, hget⟩ :=
    written_law (RunReport.mk "" ""
      [⟨"swap", .failed, 12, some "\"out of gas\"", some .executeRejected,
        [⟨.execute, some "manager", .failed, 7, some "\"out of gas\"", some .executeRejected⟩]⟩]
      ⟨1, 0, 1, 0, 0, 0.0⟩ (Registry.empty.recordCode "manager" 3)) rfl
  exact ⟨s, hfile, hsuccess, hkind, by rw [hget]; rfl, by rw [hregistry]; rfl⟩

end RunReport

/-- Whatever the client does, the report of a run is read back from its file. -/
theorem Deployment.run_readBack (d : Deployment σ) (stamp : Nat → String) (plan : Plan) (now : Nat)
    (p : Progress σ) (hlen : plan.scenarios.length < UInt64.size) :
    ∃ report ended q rate, (d.run stamp plan).result now p = ⟨some report, ended, q⟩
      ∧ RunReport.ofFile? (Text.toBytes report.fileText) = some (report.withRate rate) := by
  obtain ⟨report, trace, stop, hrun, hmap, hrep, -, -, hsum, -⟩ := d.result_run stamp plan now p
  have hcount : report.scenarios.length = plan.scenarios.length := by
    rw [← hrep, ← hmap, List.length_map, List.length_map]
  have hfinite : Decimal.isFinite report.summary.passRate = true :=
    hsum ▸ RunSummary.isFinite_ofReports (hcount ▸ hlen)
  obtain ⟨rate, hfile⟩ := RunReport.exists_ofFile? hfinite
  exact ⟨report, stop.1, stop.2, rate, hrun, hfile⟩

end Rollout
