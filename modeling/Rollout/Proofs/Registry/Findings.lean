import Mathlib.Data.List.Induction
import Rollout.Registry

/-!
# Findings

What a rollout finds out about its contracts comes one finding at a time: code is stored under
a role, or a contract is found at an address. A registry holds no more than the latest of
these. The headline is `Registry.get?_learned`: after any history of findings the code of a
role is the latest one stored for it, and its contract is the one found last, unless code was
stored after that.
-/

namespace Rollout

/-- Something found out about the contract of a role. -/
inductive Finding where
  | code (role : String) (codeId : UInt64)
  | contract (role address : String)
deriving DecidableEq

namespace Finding

def role : Finding → String
  | code role _ | contract role _ => role

def codeId? : Finding → Option UInt64
  | code _ codeId => some codeId
  | contract .. => none

def address? : Finding → Option String
  | code .. => none
  | contract _ address => some address

/-- The findings about one role. -/
def about (role : String) (known : List Finding) : List Finding :=
  known.filter fun f => f.role = role

/-- The code that was stored last for a role. -/
def latestCode (known : List Finding) (role : String) : Option UInt64 :=
  (about role known).reverse.findSome? codeId?

/-- The contract of a role, if it is the last thing found out about the role. -/
def latestContract (known : List Finding) (role : String) : Option String :=
  (about role known).getLast?.bind address?

theorem about_append (role : String) (known : List Finding) (f : Finding) :
    about role (known ++ [f]) =
      if f.role = role then about role known ++ [f] else about role known := by
  rw [about, List.filter_append]
  split
  · next h => rw [List.filter_cons_of_pos (by simpa using h)]; rfl
  · next h => rw [List.filter_cons_of_neg (by simpa using h), List.filter_nil, List.append_nil]; rfl

theorem latestCode_append (known : List Finding) (f : Finding) (role : String) :
    latestCode (known ++ [f]) role =
      if f.role = role then f.codeId?.or (latestCode known role) else latestCode known role := by
  rw [latestCode, about_append]
  split
  · rw [List.reverse_append, List.reverse_singleton, List.findSome?_append,
      List.findSome?_singleton]
    rfl
  · rfl

theorem latestContract_append (known : List Finding) (f : Finding) (role : String) :
    latestContract (known ++ [f]) role =
      if f.role = role then f.address? else latestContract known role := by
  rw [latestContract, about_append]
  split
  · rw [List.getLast?_concat]
    rfl
  · rfl

end Finding

namespace Registry

/-- Takes in one finding. -/
def record (g : Registry) : Finding → Registry
  | .code role codeId => g.recordCode role codeId
  | .contract role address => g.recordAddress role address

/-- Takes in findings in their order. -/
def learn (g : Registry) (found : List Finding) : Registry := found.foldl record g

@[simp] theorem learn_nil (g : Registry) : g.learn [] = g := rfl

theorem learn_append (g : Registry) (found later : List Finding) :
    g.learn (found ++ later) = (g.learn found).learn later := List.foldl_append

/-- A finding replaces the record of its role: code makes a contract void, and a contract keeps
the code. -/
theorem record_get? (g : Registry) (f : Finding) (role : String) :
    (g.record f).get? role =
      if f.role = role then
        some ⟨f.codeId?.or ((g.get? role).getD .none).codeId, f.address?⟩
      else g.get? role := by
  cases f with
  | code other codeId => exact SortedMap.find?_insert _ _ _ _
  | contract other address =>
      rw [record, get?, recordAddress, SortedMap.find?_insert]
      by_cases h : other = role
      · subst h
        rw [if_pos rfl]
        exact (if_pos rfl).symm
      · rw [if_neg h]
        exact (if_neg h).symm

theorem get?_record (g : Registry) (f : Finding) (role : String) :
    ((g.record f).get? role).getD .none =
      if f.role = role then ⟨f.codeId?.or ((g.get? role).getD .none).codeId, f.address?⟩
      else (g.get? role).getD .none := by
  rw [record_get?]
  split <;> rfl

/-- What is found out about other roles leaves the record of a role. -/
theorem get?_learn_of_ne {role : String} : ∀ {found : List Finding} (g : Registry),
    (∀ f ∈ found, f.role ≠ role) → (g.learn found).get? role = g.get? role
  | [], _, _ => rfl
  | f :: rest, g, h => by
      have hhead : (g.record f).get? role = g.get? role := by
        rw [record_get?, if_neg (h f List.mem_cons_self)]
      have hrest := get?_learn_of_ne (g.record f) fun f' hf' => h f' (List.mem_cons_of_mem _ hf')
      exact hrest.trans hhead

/-- Nothing that is found out removes a role. -/
theorem isSome_get?_learn {role : String} : ∀ (found : List Finding) {g : Registry},
    (g.get? role).isSome → ((g.learn found).get? role).isSome
  | [], _, h => h
  | f :: rest, g, h => by
      have hhead : ((g.record f).get? role).isSome := by
        rw [record_get?]
        split
        · rfl
        · exact h
      exact isSome_get?_learn rest hhead

/-- A registry holds the latest code of each role, and its contract as long as no code came
after. -/
theorem get?_learned (known : List Finding) (role : String) :
    ((empty.learn known).get? role).getD .none =
      ⟨Finding.latestCode known role, Finding.latestContract known role⟩ := by
  induction known using List.reverseRecOn with
  | nil => rfl
  | append_singleton known f ih =>
      rw [learn_append, learn, List.foldl_cons, List.foldl_nil, get?_record, ih,
        Finding.latestCode_append, Finding.latestContract_append]
      split <;> rfl

theorem codeId_eq (g : Registry) (role : String) :
    g.codeId role = match ((g.get? role).getD .none).codeId with
      | some codeId => .ok codeId
      | none => .error (.configuration (.noCode role)) := by
  rw [codeId]
  cases g.get? role <;> rfl

theorem address_eq (g : Registry) (role : String) :
    g.address role = match ((g.get? role).getD .none).address with
      | some address => .ok address
      | none => .error (.notInstantiated role) := by
  rw [address]
  cases g.get? role <;> rfl

theorem codeId_learned (known : List Finding) (role : String) :
    (empty.learn known).codeId role = match Finding.latestCode known role with
      | some codeId => .ok codeId
      | none => .error (.configuration (.noCode role)) := by
  rw [codeId_eq, get?_learned]

theorem address_learned (known : List Finding) (role : String) :
    (empty.learn known).address role = match Finding.latestContract known role with
      | some address => .ok address
      | none => .error (.notInstantiated role) := by
  rw [address_eq, get?_learned]

end Registry

end Rollout
