import Rollout.Plan.Basic
import Rollout.Proofs.Fund.Messages

/-!
# Scenarios that are read back

What is written of a step is an object with its action and its other fields (`Step.encode_eq`), and
from any object in which these are found the step is read again (`Step.decode_of_lookups`), but for
one case: an expectation of `null` is no expectation (`Step.reread`). So it is with and without the
fields being sorted, and with the steps of a scenario. A step that was read expects no `null`, so
what is read is read again as it is.
-/

namespace Rollout

namespace Json

/-- An object that is made from canonical fields is canonical. -/
theorem canonical_object {fields : List (String × Json)} (h : ∀ f ∈ fields, f.2.canonical = f.2) :
    (object fields).canonical = object fields := by
  have hsorted : canonicalFields (sortFields fields) = sortFields fields :=
    canonicalFields_of_canonical fun f hf => h f (mem_sortFields hf)
  rw [object, canonical, hsorted, sortFields_of_sorted (pairwise_sortFields fields)]

theorem canonicalItems_eq_map (items : List Json) :
    canonicalItems items = items.map canonical := by
  induction items with
  | nil => rfl
  | cons v rest ih => rw [canonicalItems, ih, List.map_cons]

theorem canonical_ofList {encode : α → Json} (h : ∀ a, (encode a).canonical = encode a)
    (as : List α) : (ofList encode as).canonical = ofList encode as := by
  rw [ofList, canonical, canonicalItems_eq_map, List.map_map]
  exact congrArg Json.arr (List.map_congr_left fun a _ => h a)

theorem canonical_ofOption {encode : α → Json} (h : ∀ a, (encode a).canonical = encode a) :
    ∀ o : Option α, (ofOption encode o).canonical = ofOption encode o
  | none => rfl
  | some a => h a

end Json

theorem Coin.canonical_encode (c : Coin) : c.encode.canonical = c.encode :=
  Json.canonical_object (by simp [Json.canonical])

theorem SwapRoute.canonical_encode (r : SwapRoute) : r.encode.canonical = r.encode :=
  Json.canonical_object (by simp [Json.canonical])

theorem Bundle.canonical_encode (b : Bundle) : b.encode.canonical = b.encode := by
  refine Json.canonical_object ?_
  have hroutes := Json.canonical_ofList SwapRoute.canonical_encode b.routes
  have hratios : (Json.ofList (fun a : Amount => .str a.text) b.ratios).canonical = _ :=
    Json.canonical_ofList (fun _ => rfl) b.ratios
  simp [Json.canonical, hroutes, hratios]

/-! ## Finite values -/

theorem Json.Acts.finite {v rest : Json} {action : String} (h : v.Acts action rest)
    (hv : v.Finite) : rest.Finite := by
  cases h with
  | object =>
      rw [Json.finite_obj_iff] at hv ⊢
      exact fun f hf => hv f (List.mem_of_mem_filter hf)
  | list =>
      rw [Json.finite_arr_iff] at hv ⊢
      exact fun w hw => hv w (List.mem_cons_of_mem _ hw)

/-- What is found in a record that is read in a finite value is finite. -/
theorem Json.Finite.of_record {v w : Json} (hv : v.Finite) {names : List String} {r : Record}
    (hr : Record.Of names v r) {name : String} (h : lookup r.fields name = some w) : w.Finite := by
  have hmem : (name, w) ∈ r.fields := mem_of_valueOf? h
  cases hr with
  | object fields => exact finite_obj_iff.mp hv _ hmem
  | list => exact finite_arr_iff.mp hv _ (List.of_mem_zip hmem).2

/-! ## Steps -/

namespace Step

/-- The messages that a step holds. -/
def payloads : Step → List Json
  | instantiate _ msg _ _ _ | execute _ msg _ => [msg]
  | query _ msg expect => msg :: expect.toList
  | _ => []

/-- A step as it is read back: to expect `null` is to expect nothing. -/
def reread : Step → Step
  | query role msg (some .null) => query role msg none
  | s => s

/-- The fields that are written of a step; the first of them is its action. -/
def fields (s : Step) : List (String × Json) :=
  match s.encode with
  | .obj fields => fields
  | _ => []

theorem encode_eq (s : Step) : s.encode = .obj s.fields := by
  cases s <;> rfl

theorem fields_eq (s : Step) : s.fields = ("action", .str s.kind) :: s.fields.tail := by
  cases s <;> rfl

theorem nodup_fields (s : Step) : (s.fields.map Prod.fst).Nodup := by
  cases s <;> simp [fields, encode]

theorem canonical_fields {s : Step} (hs : ∀ m ∈ s.payloads, m.canonical = m) :
    ∀ f ∈ s.fields, f.2.canonical = f.2 := by
  have hcoins := Json.canonical_ofList Coin.canonical_encode
  have htext (o : Option String) : (Json.ofOption .str o).canonical = Json.ofOption .str o :=
    Json.canonical_ofOption (fun _ => rfl) o
  have hnumber (o : Option UInt64) : (Json.ofOption (fun n => .int n.toNat) o).canonical =
      Json.ofOption (fun n => .int n.toNat) o := Json.canonical_ofOption (fun _ => rfl) o
  cases s with
  | query role msg expect =>
      cases expect <;> simp_all [payloads, fields, encode, Json.canonical]
  | _ =>
      simp_all [payloads, fields, encode, encodeCoins, Json.canonical, Coin.canonical_encode,
        Bundle.canonical_encode]

theorem reread_eq_or (s : Step) :
    s.reread = s
      ∨ ∃ role msg, s = query role msg (some .null) ∧ s.reread = query role msg none := by
  cases s with
  | query role msg expect =>
      rcases expect with _ | e
      · exact .inl rfl
      · cases e with
        | null => exact .inr ⟨role, msg, rfl, rfl⟩
        | _ => exact .inl rfl
  | _ => exact .inl rfl

/-- An expectation is read back unless it is `null`. -/
theorem inverts_expect (role : String) (msg : Json) {expect : Option Json}
    (h : ∀ e ∈ expect, e.canonical = e) :
    ∃ o, Decode.option Decode.payload (expect.getD .null) = .ok o
      ∧ (query role msg expect).reread = query role msg o := by
  cases expect with
  | none => exact ⟨none, rfl, rfl⟩
  | some e =>
      have hread : e ≠ .null → Decode.option Decode.payload e = .ok (some e) := fun hne =>
        Decode.option_eq_ok_iff.mpr (.inr ⟨hne, e, congrArg Except.ok (h e rfl), rfl⟩)
      cases e with
      | null => exact ⟨none, rfl, rfl⟩
      | _ => exact ⟨_, hread (by simp), rfl⟩

/-- A step is read from any record in which its fields are found. -/
theorem read_of_lookups {s : Step} (hs : ∀ m ∈ s.payloads, m.canonical = m) {r : Record}
    (h : ∀ name, Json.lookup r.fields name = Json.lookup s.fields.tail name) :
    ∃ shape, valueOf? s.kind shapes = some shape ∧ shape.read r = .ok s.reread := by
  cases s with
  | upload role artifact =>
      exact ⟨_, rfl, Shape.read_field_of (Shape.read_field_of rfl (h "role")
        (Decode.inverts_text role)) (h "artifact") (Decode.inverts_text artifact)⟩
  | instantiate role msg label codeId funds =>
      have hmsg : Decode.payload msg = .ok msg := congrArg Except.ok (hs msg (by simp [payloads]))
      have hlabel := Decode.inverts_text.option nofun label
      have hcode := Decode.inverts_uint64.option nofun codeId
      exact ⟨_, rfl, Shape.read_fieldD_of (Shape.read_fieldD_of (Shape.read_fieldD_of
        (Shape.read_field_of (Shape.read_field_of rfl (h "role") (Decode.inverts_text role))
          (h "msg") hmsg) (h "label") hlabel) (h "code_id") hcode) (h "funds")
        (Coin.inverts_list funds)⟩
  | execute role msg funds =>
      have hmsg : Decode.payload msg = .ok msg := congrArg Except.ok (hs msg (by simp [payloads]))
      exact ⟨_, rfl, Shape.read_fieldD_of (Shape.read_field_of (Shape.read_field_of rfl (h "role")
        (Decode.inverts_text role)) (h "msg") hmsg) (h "funds") (Coin.inverts_list funds)⟩
  | query role msg expect =>
      have hmsg : Decode.payload msg = .ok msg := congrArg Except.ok (hs msg (by simp [payloads]))
      obtain ⟨o, hexpect, hreread⟩ := inverts_expect role msg fun e (he : e ∈ expect) =>
        hs e (List.mem_cons_of_mem _ (Option.mem_toList.mpr he))
      rw [hreread]
      exact ⟨_, rfl, Shape.read_fieldD_of (Shape.read_field_of (Shape.read_field_of rfl (h "role")
        (Decode.inverts_text role)) (h "msg") hmsg) (h "expect") hexpect⟩
  | balance address denom =>
      have haddress := Decode.inverts_text.option nofun address
      exact ⟨_, rfl, Shape.read_field_of (Shape.read_fieldD_of rfl (h "address") haddress)
        (h "denom") (Decode.inverts_text denom)⟩
  | send recipient amount =>
      exact ⟨_, rfl, Shape.read_field_of (Shape.read_field_of rfl (h "recipient")
        (Decode.inverts_text recipient)) (h "amount") (Coin.inverts_list amount)⟩
  | instantiateSwap manager swap debug funds =>
      exact ⟨_, rfl, Shape.read_fieldD_of (Shape.read_fieldD_of (Shape.read_field_of
        (Shape.read_field_of rfl (h "manager") (Decode.inverts_text manager)) (h "swap")
        (Decode.inverts_text swap)) (h "debug") (Decode.inverts_bool debug)) (h "funds")
        (Coin.inverts_list funds)⟩
  | instantiateToken manager token etfName etfSymbol =>
      exact ⟨_, rfl, Shape.read_field_of (Shape.read_field_of (Shape.read_field_of
        (Shape.read_field_of rfl (h "manager") (Decode.inverts_text manager)) (h "token")
        (Decode.inverts_text token)) (h "etf_name") (Decode.inverts_text etfName))
        (h "etf_symbol") (Decode.inverts_text etfSymbol)⟩
  | swapTokens manager swap balance etf funds =>
      have hswap := Decode.inverts_text.option nofun swap
      exact ⟨_, rfl, Shape.read_fieldD_of (Shape.read_field_of (Shape.read_field_of
        (Shape.read_fieldD_of (Shape.read_field_of rfl (h "manager")
          (Decode.inverts_text manager)) (h "swap") hswap) (h "initial_balance")
        (Coin.inverts balance)) (h "etf") (Bundle.inverts etf)) (h "funds")
        (Coin.inverts_list funds)⟩
  | redeemTokens manager etfName funds =>
      exact ⟨_, rfl, Shape.read_fieldD_of (Shape.read_field_of (Shape.read_field_of rfl
        (h "manager") (Decode.inverts_text manager)) (h "etf_name") (Decode.inverts_text etfName))
        (h "funds") (Coin.inverts_list funds)⟩

/-- An object in which the fields of a step are found is read as the step. -/
theorem decode_of_lookups {s : Step} (hs : ∀ m ∈ s.payloads, m.canonical = m)
    {fields : List (String × Json)}
    (h : ∀ name, Json.lookup fields name = Json.lookup s.fields name) :
    decode (.obj fields) = .ok s.reread := by
  have haction : Json.lookup fields "action" = some (.str s.kind) := by
    rw [h, fields_eq]
    rfl
  have hrest (name : String) : Json.lookup (fields.filter fun f => f.1 != "action") name =
      Json.lookup s.fields.tail name := by
    rw [Json.lookup_filter, h, fields_eq]
    by_cases hname : name = "action"
    · subst hname
      cases s <;> rfl
    · rw [if_neg hname, Json.lookup, valueOf?, if_neg (Ne.symm hname)]
      rfl
  obtain ⟨shape, hshape, hread⟩ := read_of_lookups (r := ⟨_, false⟩) hs hrest
  exact decode_eq_ok_iff.mpr ⟨s.kind, shape, _, .object haction, hshape,
    Shape.decode_eq_ok_iff.mpr ⟨_, .object _, hread⟩⟩

/-- What is written of a step is read as the step, as it is and with its fields sorted. -/
theorem decode_encode {s : Step} (hs : ∀ m ∈ s.payloads, m.canonical = m) :
    decode s.encode = .ok s.reread ∧ decode s.encode.canonical = .ok s.reread := by
  have hcanonical : s.encode.canonical = .obj (Json.sortFields s.fields) := by
    rw [encode_eq, Json.canonical, Json.canonicalFields_of_canonical (canonical_fields hs)]
  rw [hcanonical, encode_eq]
  exact ⟨decode_of_lookups hs fun _ => rfl,
    decode_of_lookups hs (Json.lookup_sortFields s.fields s.nodup_fields)⟩

/-! ### What was read -/

/-- A step that was read expects no `null`, and its messages are canonical. -/
theorem settled_of_decode {v : Json} (hv : v.Finite) {s : Step} (h : decode v = .ok s) :
    (∀ m ∈ s.payloads, m.canonical = m) ∧ s.reread = s := by
  obtain ⟨shape, rest, r, hacts, -, hr, htold⟩ := told_of_decode h
  have hmsg {m w : Json} (hm : m = w.canonical) : m.canonical = m := by
    rw [hm, Json.canonical_canonical]
  cases s with
  | instantiate role msg label codeId funds =>
      obtain ⟨w, -, hw⟩ := htold
      exact ⟨by simpa [payloads] using hmsg hw, rfl⟩
  | execute role msg funds =>
      obtain ⟨w, -, hw⟩ := htold
      exact ⟨by simpa [payloads] using hmsg hw, rfl⟩
  | query role msg expect =>
      obtain ⟨⟨w, -, hw⟩, hexpect⟩ := htold
      cases expect with
      | none => exact ⟨by simpa [payloads] using hmsg hw, rfl⟩
      | some e =>
          obtain ⟨u, hfound, hne, hu⟩ := hexpect e rfl
          -- A number that is not finite would be kept as `null`, and be lost when it is read again.
          have hfinite : u.Finite := (hacts.finite hv).of_record hr hfound
          have hnull : e ≠ .null := hu ▸ hfinite.canonical_ne_null hne
          refine ⟨by simpa [payloads] using ⟨hmsg hw, hmsg hu⟩, ?_⟩
          cases e with
          | null => exact absurd rfl hnull
          | _ => rfl
  | _ => exact ⟨fun m hm => absurd hm List.not_mem_nil, rfl⟩

/-- What was read is read back as it is. -/
theorem decode_encode_of_decode {v : Json} (hv : v.Finite) {s : Step} (h : decode v = .ok s) :
    decode s.encode = .ok s ∧ decode s.encode.canonical = .ok s := by
  obtain ⟨hpayloads, hreread⟩ := settled_of_decode hv h
  have hread := decode_encode hpayloads
  rwa [hreread] at hread

end Step

/-! ## Scenarios -/

namespace Scenario

/-- A scenario as it is read back. -/
def reread (s : Scenario) : Scenario := { s with steps := s.steps.map Step.reread }

/-- The fields that are written of a scenario, with values for its steps. -/
def fieldsWith (s : Scenario) (items : List Json) : List (String × Json) :=
  [("name", .str s.name), ("description", Json.ofOption .str s.description),
    ("enabled", .bool s.enabled),
    ("timeout_secs", Json.ofOption (fun n => .int n.toNat) s.timeoutSecs), ("steps", .arr items)]

theorem nodup_fieldsWith (s : Scenario) (items : List Json) :
    ((s.fieldsWith items).map Prod.fst).Nodup := by
  simp [fieldsWith]

/-- A scenario is read from an object in which its fields are found, if its steps are read. -/
theorem decode_of_lookups (s : Scenario) {items : List Json} {steps : List Step}
    (hsteps : List.Forall₂ (fun v t => Step.decode v = .ok t) items steps)
    {fields : List (String × Json)}
    (h : ∀ name, Json.lookup fields name = Json.lookup (s.fieldsWith items) name) :
    shape.decode (.obj fields) = .ok { s with steps } := by
  have hlist : Decode.list Step.decode (.arr items) = .ok steps :=
    Decode.list_eq_ok_iff.mpr ⟨items, rfl, hsteps⟩
  have hdescription := Decode.inverts_text.option nofun s.description
  have htimeout := Decode.inverts_uint64.option nofun s.timeoutSecs
  exact Shape.decode_eq_ok_iff.mpr ⟨_, .object _, Shape.read_fieldD_of (Shape.read_fieldD_of
    (Shape.read_fieldD_of (Shape.read_fieldD_of (Shape.read_field_of rfl (h "name")
      (Decode.inverts_text s.name)) (h "description") hdescription) (h "enabled")
    (Decode.inverts_bool s.enabled)) (h "timeout_secs") htimeout) (h "steps") hlist⟩

theorem canonical_encode (s : Scenario) : s.encode.canonical =
    .obj (Json.sortFields (s.fieldsWith (s.steps.map fun t => t.encode.canonical))) := by
  obtain ⟨name, description, enabled, timeoutSecs, steps⟩ := s
  have hsteps : (Json.ofList Step.encode steps).canonical =
      .arr (steps.map fun t => t.encode.canonical) := by
    rw [Json.ofList, Json.canonical, Json.canonicalItems_eq_map, List.map_map]
    rfl
  cases description <;> cases timeoutSecs <;>
    simp only [encode, fieldsWith, Json.canonical, Json.canonicalFields, Json.ofOption, hsteps]

/-- What is written of a scenario is read as the scenario. -/
theorem decode_encode {s : Scenario}
    (hs : ∀ t ∈ s.steps, ∀ m ∈ t.payloads, m.canonical = m) :
    shape.decode s.encode = .ok s.reread ∧ shape.decode s.encode.canonical = .ok s.reread := by
  constructor
  · have hitems : List.Forall₂ (fun v t => Step.decode v = .ok t) (s.steps.map Step.encode)
        (s.steps.map Step.reread) := by
      rw [List.forall₂_map_left_iff, List.forall₂_map_right_iff]
      exact List.forall₂_same.mpr fun t ht => (Step.decode_encode (hs t ht)).1
    exact decode_of_lookups s hitems fun _ => rfl
  · rw [canonical_encode]
    refine decode_of_lookups s ?_ (Json.lookup_sortFields _ (s.nodup_fieldsWith _))
    rw [List.forall₂_map_left_iff, List.forall₂_map_right_iff]
    exact List.forall₂_same.mpr fun t ht => (Step.decode_encode (hs t ht)).2

/-- Every step of a scenario that was read has been read from a part of its value. -/
theorem steps_of_decode {v : Json} (hv : v.Finite) {s : Scenario} (h : shape.decode v = .ok s) :
    ∀ t ∈ s.steps, ∃ item : Json, item.Finite ∧ Step.decode item = .ok t := by
  obtain ⟨r, hr, hread⟩ := Shape.decode_eq_ok_iff.mp h
  have hreads : shape.Reads r fun s => ∀ t ∈ s.steps,
      ∃ item : Json, item.Finite ∧ Step.decode item = .ok t := by
    refine .fieldD <| .fieldD <| .fieldD <| .fieldD <| .field <| Shape.reads_of ?_
    rintro name - description - enabled - timeoutSecs - steps hsteps t ht
    rcases hsteps with ⟨w, hw, hlist⟩ | ⟨-, rfl⟩
    · obtain ⟨items, rfl, hitems⟩ := Decode.list_eq_ok_iff.mp hlist
      obtain ⟨item, hmem, hdecode⟩ := exists_of_forall₂ hitems t ht
      exact ⟨item, Json.finite_arr_iff.mp (hv.of_record hr hw) item hmem, hdecode⟩
    · cases ht
  exact hreads s hread

/-- What was read is read back as it is. -/
theorem decode_encode_of_decode {v : Json} (hv : v.Finite) {s : Scenario}
    (h : shape.decode v = .ok s) :
    shape.decode s.encode = .ok s ∧ shape.decode s.encode.canonical = .ok s := by
  have hsettled : ∀ t ∈ s.steps, (∀ m ∈ t.payloads, m.canonical = m) ∧ t.reread = t := by
    intro t ht
    obtain ⟨item, hitem, hdecode⟩ := steps_of_decode hv h t ht
    exact Step.settled_of_decode hitem hdecode
  have hreread : s.reread = s := by
    rw [reread, List.map_congr_left fun t ht => (hsettled t ht).2, List.map_id']
  have hread := decode_encode fun t ht => (hsettled t ht).1
  rwa [hreread] at hread

/-- A scenario whose messages are as they are kept is read back from what is written of it, and so
is each of its steps; only an expectation of `null` is lost. Whatever was read is read back as it
is. The coins in it may have been written in either notation, and keep their order. -/
theorem reading_back :
    (∀ s : Scenario, (∀ t ∈ s.steps, ∀ m ∈ t.payloads, m.canonical = m) →
        shape.decode s.encode = .ok s.reread ∧ shape.decode s.encode.canonical = .ok s.reread)
      ∧ (∀ t : Step, (∀ m ∈ t.payloads, m.canonical = m) →
        Step.decode t.encode = .ok t.reread ∧ Step.decode t.encode.canonical = .ok t.reread)
      ∧ (∀ t : Step, t.reread = t ∨ ∃ role msg,
        t = .query role msg (some .null) ∧ t.reread = .query role msg none)
      ∧ (∀ (v : Json) (s : Scenario), v.Finite → shape.decode v = .ok s →
        shape.decode s.encode = .ok s ∧ shape.decode s.encode.canonical = .ok s)
      ∧ (∀ (v : Json) (t : Step), v.Finite → Step.decode v = .ok t →
        Step.decode t.encode = .ok t ∧ Step.decode t.encode.canonical = .ok t)
      ∧ (∀ v c, Coin.decode v = .ok c ↔ Coin.Noted v c)
      ∧ ∀ v cs, Coin.decodeList v = .ok cs ↔
        ∃ items, v = .arr items ∧ List.Forall₂ Coin.Noted items cs :=
  ⟨fun _ => decode_encode, fun _ => Step.decode_encode, Step.reread_eq_or,
    fun _ _ hv => decode_encode_of_decode hv, fun _ _ hv => Step.decode_encode_of_decode hv,
    fun _ _ => Coin.decode_eq_ok_iff, fun _ _ => Coin.decodeList_eq_ok_iff⟩

/-- A query that expects `null` comes back without an expectation, and coins in both notations come
back by their fields. -/
theorem reading_back_of_null_expected :
    let asked : Scenario := .make "ask" [.query "swap" (.obj []) (some .null)]
    let v : Json :=
      .obj
        [("steps", .arr [.obj
            [("amount", .arr [.str " 7uosmo", .obj [("denom", .str "uion"), ("amount", .str "3")]]),
              ("action", .str "send"), ("recipient", .str "osmo1")]]),
          ("name", .str "pay")]
    let paid : Scenario :=
      .make "pay" [.send "osmo1" [⟨"uosmo", ⟨7, by decide⟩⟩, ⟨"uion", ⟨3, by decide⟩⟩]]
    shape.decode asked.encode = .ok (.make "ask" [.query "swap" (.obj []) none])
      ∧ shape.decode v = .ok paid ∧ shape.decode paid.encode = .ok paid := by
  intro asked v paid
  obtain ⟨hencoded, -, -, hread, -⟩ := reading_back
  have hstored : ∀ t ∈ asked.steps, ∀ m ∈ t.payloads, m.canonical = m := by
    simp [asked, make, Step.payloads, Json.canonical, Json.canonicalFields, Json.sortFields]
  have hfinite : v.Finite := by simp [v]
  have hpaid : shape.decode v = .ok paid := rfl
  exact ⟨(hencoded asked hstored).1, hpaid, (hread v paid hfinite hpaid).1⟩

end Scenario

end Rollout
