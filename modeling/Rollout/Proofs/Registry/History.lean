import Rollout.Proofs.Registry.Findings
import Rollout.Proofs.Text.Bytes

/-!
# What a registry tells of its history

A registry that starts empty and takes in findings is asked for the code of a role, for its contract
and for the roles. What it answers is said here by the history alone, without the records in between
(`Registry.history_law`). Both look-ups ask for the last finding of a kind (`Finding.Latest`): for
code that is the last code of the role, and for a contract the last finding of any kind about the
role, since code that comes later makes the contract void.
-/

namespace Rollout

namespace Finding

/-- A finding stands in a history, and none of the kind comes after it. -/
def Latest (known : List Finding) (kind : Finding → Prop) (f : Finding) : Prop :=
  ∃ before after, known = before ++ f :: after ∧ ∀ g ∈ after, ¬kind g

/-- The finding is code for the role. -/
def Stores (role : String) (f : Finding) : Prop := ∃ codeId, f = code role codeId

/-- The finding is about the role. -/
def Concerns (role : String) (f : Finding) : Prop := f.role = role

variable {known : List Finding} {kind : Finding → Prop} {f g : Finding} {role address : String}
  {codeId : UInt64}

theorem latest_append : Latest (known ++ [g]) kind f ↔ f = g ∨ ¬kind g ∧ Latest known kind f := by
  constructor
  · rintro ⟨before, after, hcut, hafter⟩
    rcases List.eq_nil_or_concat after with rfl | ⟨rest, last, rfl⟩
    · obtain ⟨-, hlast⟩ := List.append_inj' hcut rfl
      exact .inl (List.singleton_inj.mp hlast).symm
    · rw [List.concat_eq_append, ← List.cons_append, ← List.append_assoc] at hcut
      obtain ⟨hknown, hlast⟩ := List.append_inj' hcut rfl
      obtain rfl := List.singleton_inj.mp hlast
      simp only [List.concat_eq_append, List.forall_mem_append] at hafter
      exact .inr ⟨hafter.2 g List.mem_cons_self, before, rest, hknown, hafter.1⟩
  · rintro (rfl | ⟨hg, before, after, rfl, hafter⟩)
    · exact ⟨known, [], rfl, nofun⟩
    · refine ⟨before, after ++ [g], by simp, ?_⟩
      rw [List.forall_mem_append]
      exact ⟨hafter, by simpa using hg⟩

theorem not_latest_nil : ¬Latest [] kind f := by
  rintro ⟨before, after, h, -⟩
  simp at h

theorem stores_code (other : String) : Stores role (code other codeId) ↔ other = role :=
  ⟨fun ⟨_, h⟩ => (Finding.code.inj h).1, fun h => ⟨codeId, h ▸ rfl⟩⟩

theorem not_stores_contract (other : String) : ¬Stores role (contract other address) := nofun

theorem latestCode_append_code (known : List Finding) (other : String) (codeId : UInt64) :
    latestCode (known ++ [code other codeId]) role =
      if other = role then some codeId else latestCode known role :=
  latestCode_append known (code other codeId) role

theorem latestCode_append_contract (known : List Finding) (other address : String) :
    latestCode (known ++ [contract other address]) role = latestCode known role := by
  rw [latestCode_append]
  exact ite_self _

theorem latestCode_eq_some_iff :
    latestCode known role = some codeId ↔ Latest known (Stores role) (code role codeId) := by
  induction known using List.reverseRecOn with
  | nil => exact ⟨nofun, fun h => absurd h not_latest_nil⟩
  | append_singleton known g ih =>
      rw [latest_append, ← ih]
      cases g with
      | code other c =>
          rw [latestCode_append_code, stores_code, Finding.code.injEq]
          by_cases h : other = role
          · rw [if_pos h]
            simp [h, eq_comm]
          · rw [if_neg h]
            simp [h, Ne.symm h]
      | contract other a =>
          rw [latestCode_append_contract]
          simp [not_stores_contract]

theorem latestCode_eq_none_iff : latestCode known role = none ↔ ∀ f ∈ known, ¬Stores role f := by
  induction known using List.reverseRecOn with
  | nil => exact ⟨fun _ => nofun, fun _ => rfl⟩
  | append_singleton known g ih =>
      rw [List.forall_mem_append, ← ih, List.forall_mem_singleton]
      cases g with
      | code other c =>
          rw [latestCode_append_code, stores_code]
          split <;> simp [*]
      | contract other a =>
          rw [latestCode_append_contract]
          exact (and_iff_left (not_stores_contract other)).symm

/-- The last finding about a role. -/
theorem getLast?_about_eq_some_iff :
    (about role known).getLast? = some f ↔ f.role = role ∧ Latest known (Concerns role) f := by
  induction known using List.reverseRecOn with
  | nil => exact ⟨nofun, fun h => absurd h.2 not_latest_nil⟩
  | append_singleton known g ih =>
      rw [about_append, latest_append]
      by_cases h : g.role = role
      · rw [if_pos h, List.getLast?_concat, Option.some_inj]
        constructor
        · rintro rfl
          exact ⟨h, .inl rfl⟩
        · rintro ⟨-, rfl | ⟨hnot, -⟩⟩
          · rfl
          · exact absurd h hnot
      · rw [if_neg h, ih]
        constructor
        · exact fun ⟨hf, hlatest⟩ => ⟨hf, .inr ⟨h, hlatest⟩⟩
        · rintro ⟨hf, rfl | ⟨-, hlatest⟩⟩
          · exact absurd hf h
          · exact ⟨hf, hlatest⟩

theorem latestContract_eq_some_iff :
    latestContract known role = some address ↔
      Latest known (Concerns role) (contract role address) := by
  rw [latestContract, Option.bind_eq_some_iff]
  constructor
  · rintro ⟨_ | ⟨other, a⟩, hlast, haddress⟩
    · cases haddress
    · obtain ⟨rfl, hlatest⟩ := getLast?_about_eq_some_iff.mp hlast
      obtain rfl := Option.some.inj haddress
      exact hlatest
  · exact fun h => ⟨_, getLast?_about_eq_some_iff.mpr ⟨rfl, h⟩, rfl⟩

/-- There is no contract if nothing is known about the role, and none if the last that is known is
code. -/
theorem latestContract_eq_none_iff :
    latestContract known role = none ↔
      (∀ f ∈ known, ¬Concerns role f) ∨ ∃ c, Latest known (Concerns role) (code role c) := by
  have hnone : (about role known).getLast? = none ↔ ∀ f ∈ known, ¬Concerns role f := by
    simp [about, Concerns]
  rw [latestContract, ← hnone]
  cases hlast : (about role known).getLast? with
  | none => simp
  | some f =>
      obtain ⟨hf, hlatest⟩ := getLast?_about_eq_some_iff.mp hlast
      cases f with
      | code other c =>
          obtain rfl := hf
          exact ⟨fun _ => .inr ⟨c, hlatest⟩, fun _ => rfl⟩
      | contract other a =>
          refine ⟨fun h => absurd h (Option.some_ne_none a), ?_⟩
          rintro (h | ⟨c, h⟩)
          · cases h
          · cases hlast.symm.trans (getLast?_about_eq_some_iff.mpr ⟨rfl, h⟩)

end Finding

namespace Registry

variable {known : List Finding} {g : Registry} {role address : String} {codeId : UInt64}
  {f : Failure}

/-! ## Look-ups -/

theorem codeId_learned_eq_ok_iff :
    (empty.learn known).codeId role = .ok codeId ↔
      Finding.Latest known (Finding.Stores role) (.code role codeId) := by
  rw [codeId_learned, ← Finding.latestCode_eq_some_iff]
  cases Finding.latestCode known role <;> simp

theorem codeId_learned_eq_error_iff :
    (empty.learn known).codeId role = .error f ↔
      f = .configuration (.noCode role) ∧ ∀ g ∈ known, ¬Finding.Stores role g := by
  rw [codeId_learned, ← Finding.latestCode_eq_none_iff]
  cases Finding.latestCode known role <;> simp [eq_comm]

theorem address_learned_eq_ok_iff :
    (empty.learn known).address role = .ok address ↔
      Finding.Latest known (Finding.Concerns role) (.contract role address) := by
  rw [address_learned, ← Finding.latestContract_eq_some_iff]
  cases Finding.latestContract known role <;> simp

theorem address_learned_eq_error_iff :
    (empty.learn known).address role = .error f ↔
      f = .notInstantiated role ∧ ((∀ g ∈ known, ¬Finding.Concerns role g)
        ∨ ∃ c, Finding.Latest known (Finding.Concerns role) (.code role c)) := by
  rw [address_learned, ← Finding.latestContract_eq_none_iff]
  cases Finding.latestContract known role <;> simp [eq_comm]

theorem learn_concat (g : Registry) (known : List Finding) (f : Finding) :
    g.learn (known ++ [f]) = (g.learn known).record f := learn_append g known [f]

/-- Findings about other roles make no difference to what is known of a role. -/
theorem get?_learn_about (known : List Finding) (role : String) :
    (empty.learn (Finding.about role known)).get? role = (empty.learn known).get? role := by
  induction known using List.reverseRecOn with
  | nil => rfl
  | append_singleton known f ih =>
      rw [Finding.about_append]
      split
      · rw [learn_concat, learn_concat, record_get?, record_get?, ih]
      · next h => rw [learn_concat, record_get?, if_neg h, ih]

/-! ## Roles -/

theorem mem_roles_iff : role ∈ g.roles ↔ (g.get? role).isSome := by
  rw [roles, SortedMap.keys, List.mem_map, get?, SortedMap.find?, Option.isSome_iff_exists]
  constructor
  · rintro ⟨⟨role, r⟩, he, rfl⟩
    exact valueOf?_of_mem he
  · rintro ⟨r, hr⟩
    exact ⟨(role, r), mem_of_valueOf? hr, rfl⟩

theorem mem_roles_record (f : Finding) :
    role ∈ (g.record f).roles ↔ f.role = role ∨ role ∈ g.roles := by
  rw [mem_roles_iff, mem_roles_iff, record_get?]
  split <;> simp [*]

theorem mem_roles_learned (known : List Finding) :
    role ∈ (empty.learn known).roles ↔ ∃ f ∈ known, f.role = role := by
  induction known using List.reverseRecOn with
  | nil => simp [roles, SortedMap.keys, empty, SortedMap.empty]
  | append_singleton known f ih =>
      rw [learn_concat, mem_roles_record, ih]
      simp [or_comm]

theorem roles_ascending (g : Registry) :
    g.roles.Pairwise fun a b => Text.toBytes a < Text.toBytes b :=
  List.pairwise_map.mpr (g.records.sorted.imp Text.toBytes_lt)

/-- A registry is what its history says. The code of a role is the last that was stored for it, and
without any there is none. The contract of a role is the one found last, as long as nothing about
the role comes after it; there is none if nothing is known about the role, or if code is the last
that is known. For a role the findings about other roles make no difference. The roles are those of
the history, each once and in the order of their bytes. -/
theorem history_law (known : List Finding) :
    (∀ role codeId, (empty.learn known).codeId role = .ok codeId ↔
        Finding.Latest known (Finding.Stores role) (.code role codeId))
      ∧ (∀ role f, (empty.learn known).codeId role = .error f ↔
        f = .configuration (.noCode role) ∧ ∀ g ∈ known, ¬Finding.Stores role g)
      ∧ (∀ role address, (empty.learn known).address role = .ok address ↔
        Finding.Latest known (Finding.Concerns role) (.contract role address))
      ∧ (∀ role f, (empty.learn known).address role = .error f ↔
        f = .notInstantiated role ∧ ((∀ g ∈ known, ¬Finding.Concerns role g)
          ∨ ∃ c, Finding.Latest known (Finding.Concerns role) (.code role c)))
      ∧ (∀ role, (empty.learn (Finding.about role known)).get? role =
        (empty.learn known).get? role)
      ∧ (∀ role, role ∈ (empty.learn known).roles ↔ ∃ f ∈ known, f.role = role)
      ∧ (empty.learn known).roles.Pairwise fun a b => Text.toBytes a < Text.toBytes b :=
  ⟨fun _ _ => codeId_learned_eq_ok_iff, fun _ _ => codeId_learned_eq_error_iff,
    fun _ _ => address_learned_eq_ok_iff, fun _ _ => address_learned_eq_error_iff,
    get?_learn_about known, fun _ => mem_roles_learned known, roles_ascending _⟩

example : (empty.learn [.code "b" 1, .contract "b" "old", .contract "a" "x", .code "b" 2]).roles =
    ["a", "b"] := by decide

end Registry

end Rollout
