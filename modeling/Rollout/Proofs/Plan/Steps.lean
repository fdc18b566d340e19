import Rollout.Plan.Step
import Rollout.Proofs.Schema.Reading

/-!
# How steps are read

The action of a step says which shape its other fields are read with. `Step.decode_eq_ok_iff` takes
the two apart, and `Step.told_of_decode` says of a step that was read where its messages and its
bundle come from: a message is the canonical form of the value that was given for it.
-/

namespace Rollout

/-- The action of a value that is read as a step, and the value of its other fields. -/
inductive Json.Acts : Json → String → Json → Prop
  | object {fields : List (String × Json)} {action : String}
      (h : Json.lookup fields "action" = some (.str action)) :
      Acts (.obj fields) action (.obj (fields.filter fun f => f.1 != "action"))
  | list (action : String) (rest : List Json) : Acts (.arr (.str action :: rest)) action (.arr rest)

/-- Without the fields of one key, all other fields are found as before. -/
theorem Json.lookup_filter (fields : List (String × Json)) (key other : String) :
    lookup (fields.filter fun f => f.1 != key) other =
      if other = key then none else lookup fields other := by
  induction fields with
  | nil => simp [lookup, valueOf?]
  | cons f rest ih =>
      obtain ⟨k, v⟩ := f
      by_cases hk : k = key
      · rw [List.filter_cons_of_neg (by simp [hk]), ih]
        by_cases hother : other = key
        · rw [if_pos hother, if_pos hother]
        · have hne : k ≠ other := fun heq => hother (heq.symm.trans hk)
          rw [if_neg hother, if_neg hother, lookup, lookup, valueOf?, if_neg hne]
      · rw [List.filter_cons_of_pos (by simp [hk]), lookup, valueOf?]
        by_cases hother : k = other
        · rw [if_pos hother, if_neg (hother ▸ hk), lookup, valueOf?, if_pos hother]
        · rw [if_neg hother, lookup, valueOf?, if_neg hother]
          exact ih

namespace Step

theorem decodeAs_eq_ok_iff {action rest : Json} {s : Step} :
    decodeAs action rest = .ok s ↔
      ∃ kind shape, action = .str kind ∧ valueOf? kind shapes = some shape
        ∧ shape.decode rest = .ok s := by
  cases action with
  | str kind => cases h : valueOf? kind shapes <;> simp [decodeAs, h]
  | _ => simp [decodeAs]

theorem decode_eq_ok_iff {v : Json} {s : Step} :
    decode v = .ok s ↔
      ∃ kind shape rest, v.Acts kind rest ∧ valueOf? kind shapes = some shape
        ∧ shape.decode rest = .ok s := by
  constructor
  · intro h
    rw [decode.eq_def] at h
    split at h
    · split at h
      · next action haction =>
        obtain ⟨kind, shape, rfl, hshape, h⟩ := decodeAs_eq_ok_iff.mp h
        exact ⟨kind, shape, _, .object haction, hshape, h⟩
      · cases h
    · obtain ⟨kind, shape, rfl, hshape, h⟩ := decodeAs_eq_ok_iff.mp h
      exact ⟨kind, shape, _, .list kind _, hshape, h⟩
    · cases h
  · rintro ⟨kind, shape, rest, hacts, hshape, h⟩
    have hread : decodeAs (.str kind) rest = .ok s :=
      decodeAs_eq_ok_iff.mpr ⟨kind, shape, rfl, hshape, h⟩
    cases hacts with
    | object haction =>
        rw [decode, haction]
        exact hread
    | list => exact hread

/-- The action of a step. -/
def kind : Step → String
  | upload .. => "upload"
  | instantiate .. => "instantiate"
  | execute .. => "execute"
  | query .. => "query"
  | balance .. => "balance"
  | send .. => "send"
  | instantiateSwap .. => "instantiate_swap"
  | instantiateToken .. => "instantiate_cw20"
  | swapTokens .. => "swap_tokens"
  | redeemTokens .. => "redeem_tokens"

/-- Where the messages and the bundle of a step that is read in a record come from. -/
def Told (r : Record) : Step → Prop
  | instantiate _ msg _ _ _ | execute _ msg _ =>
    ∃ v, Json.lookup r.fields "msg" = some v ∧ msg = v.canonical
  | query _ msg expect =>
    (∃ v, Json.lookup r.fields "msg" = some v ∧ msg = v.canonical)
      ∧ ∀ e, expect = some e →
        ∃ v, Json.lookup r.fields "expect" = some v ∧ v ≠ .null ∧ e = v.canonical
  | swapTokens _ _ _ etf _ =>
    ∃ v, Json.lookup r.fields "etf" = some v ∧ Bundle.decode v = .ok etf
  | _ => True

theorem told_of_mem {action : String} {shape : Shape Step} (h : (action, shape) ∈ shapes)
    (r : Record) : shape.Reads r fun s => s.kind = action ∧ s.Told r := by
  -- One case for each action, in the order of `shapes`; the last field of a shape comes first.
  simp only [shapes, List.mem_cons, Prod.mk.injEq, List.not_mem_nil, or_false] at h
  rcases h with ⟨rfl, rfl⟩ | ⟨rfl, rfl⟩ | ⟨rfl, rfl⟩ | ⟨rfl, rfl⟩ | ⟨rfl, rfl⟩ | ⟨rfl, rfl⟩
    | ⟨rfl, rfl⟩ | ⟨rfl, rfl⟩ | ⟨rfl, rfl⟩ | ⟨rfl, rfl⟩
  · exact .field <| .field <| Shape.reads_of fun _ _ _ _ => ⟨rfl, trivial⟩
  · refine .fieldD <| .fieldD <| .fieldD <| .field <| .field <| Shape.reads_of ?_
    rintro role - - ⟨v, hv, ⟨⟩⟩ label - codeId - funds -
    exact ⟨rfl, v, hv, rfl⟩
  · refine .fieldD <| .field <| .field <| Shape.reads_of ?_
    rintro role - - ⟨v, hv, ⟨⟩⟩ funds -
    exact ⟨rfl, v, hv, rfl⟩
  · refine .fieldD <| .field <| .field <| Shape.reads_of ?_
    rintro role - - ⟨v, hv, ⟨⟩⟩ expect hexpect
    refine ⟨rfl, ⟨v, hv, rfl⟩, ?_⟩
    rintro e rfl
    rcases hexpect with ⟨w, hw, hread⟩ | ⟨-, ⟨⟩⟩
    obtain ⟨-, ⟨⟩⟩ | ⟨hne, -, ⟨⟩, ⟨⟩⟩ := Decode.option_eq_ok_iff.mp hread
    exact ⟨w, hw, hne, rfl⟩
  · exact .field <| .fieldD <| Shape.reads_of fun _ _ _ _ => ⟨rfl, trivial⟩
  · exact .field <| .field <| Shape.reads_of fun _ _ _ _ => ⟨rfl, trivial⟩
  · exact .fieldD <| .fieldD <| .field <| .field <| Shape.reads_of fun _ _ _ _ _ _ _ _ =>
      ⟨rfl, trivial⟩
  · exact .field <| .field <| .field <| .field <| Shape.reads_of fun _ _ _ _ _ _ _ _ =>
      ⟨rfl, trivial⟩
  · exact .fieldD <| .field <| .field <| .fieldD <| .field <| Shape.reads_of
      fun _ _ _ _ _ _ _ hetf _ _ => ⟨rfl, hetf⟩
  · exact .fieldD <| .field <| .field <| Shape.reads_of fun _ _ _ _ _ _ => ⟨rfl, trivial⟩

theorem told_of_decode {v : Json} {s : Step} (h : decode v = .ok s) :
    ∃ shape rest r, v.Acts s.kind rest ∧ valueOf? s.kind shapes = some shape
      ∧ Record.Of shape.names rest r ∧ s.Told r := by
  obtain ⟨action, shape, rest, hacts, hshape, h⟩ := decode_eq_ok_iff.mp h
  obtain ⟨r, hr, hread⟩ := Shape.decode_eq_ok_iff.mp h
  obtain ⟨rfl, htold⟩ := told_of_mem (mem_of_valueOf? hshape) r s hread
  exact ⟨shape, rest, r, hacts, hshape, hr, htold⟩

end Step

end Rollout
