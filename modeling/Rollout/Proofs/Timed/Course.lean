import Rollout.Timed

/-!
# Courses and their results

The result of a computation is where its course comes to if nobody cuts it off. The first half
of this file says what the results of composed acts are (`Timed.result_bind` and its
companions), so that an act without a limit is followed like a plain state machine.

The second half is the law of the cut. A course has a state at each time (`stateAt`) and times
at which something happens (`instants`). A course that ends before the cut is left alone
(`finish_cut_of_lt`); one that would go on longer ends exactly at the cut, without a value and
in the state it has come to by then (`finish_cut_of_gt`). Whatever is cut, a cut course ends
(`finish_cut`), and no later than the cut.
-/

namespace Rollout

namespace Course

theorem le_finish : ∀ (c : Course σ α) (now : Nat), now ≤ (c.finish now).now
  | ends _ _, now => Nat.le_refl now
  | waits _ ms rest, now =>
      Nat.le_trans (Nat.le_add_right now ms) (le_finish (rest ()) (now + ms))
  | pauses _ rest, now => le_finish (rest ()) now
  | hangs _, now => Nat.le_refl now

/-- What comes after a course starts where the course ends; after one that hangs nothing comes. -/
theorem finish_andThen (next : α → Nat → σ → Course σ β) :
    ∀ (c : Course σ α) (now : Nat), (c.andThen next now).finish now =
      match c.finish now with
      | ⟨some a, t, s⟩ => (next a t s).finish t
      | ⟨none, t, s⟩ => ⟨none, t, s⟩
  | ends _ _, _ => rfl
  | waits _ ms rest, now => finish_andThen next (rest ()) (now + ms)
  | pauses _ rest, now => finish_andThen next (rest ()) now
  | hangs _, _ => rfl

theorem finish_mapState (f : σ → τ) :
    ∀ (c : Course σ α) (now : Nat), (c.mapState f).finish now =
      ⟨(c.finish now).value, (c.finish now).now, f (c.finish now).state⟩
  | ends _ _, _ => rfl
  | waits _ ms rest, now => finish_mapState f (rest ()) (now + ms)
  | pauses _ rest, now => finish_mapState f (rest ()) now
  | hangs _, _ => rfl

/-- What comes after the end of what comes after a course. -/
theorem andThen_assoc (next : α → Nat → σ → Course σ β) (last : β → Nat → σ → Course σ γ) :
    ∀ (c : Course σ α) (now : Nat), (c.andThen next now).andThen last now =
      c.andThen (fun a t s => (next a t s).andThen last t) now
  | ends _ _, _ => rfl
  | waits s ms rest, now =>
      congrArg (waits s ms) (funext fun _ => andThen_assoc next last (rest ()) (now + ms))
  | pauses s rest, now =>
      congrArg (pauses s) (funext fun _ => andThen_assoc next last (rest ()) now)
  | hangs _, _ => rfl

@[simp] theorem andThen_ends :
    ∀ (c : Course σ α) (now : Nat), c.andThen (fun a _ s => ends a s) now = c
  | ends _ _, _ => rfl
  | waits s ms rest, now => congrArg (waits s ms) (funext fun _ => andThen_ends (rest ()) (now + ms))
  | pauses s rest, now => congrArg (pauses s) (funext fun _ => andThen_ends (rest ()) now)
  | hangs _, _ => rfl

/-! ## A part of the state -/

theorem mapState_id : ∀ c : Course σ α, c.mapState (fun s => s) = c
  | ends _ _ => rfl
  | waits s ms rest => congrArg (waits s ms) (funext fun _ => mapState_id (rest ()))
  | pauses s rest => congrArg (pauses s) (funext fun _ => mapState_id (rest ()))
  | hangs _ => rfl

theorem mapState_mapState (f : σ → τ) (g : τ → υ) :
    ∀ c : Course σ α, (c.mapState f).mapState g = c.mapState (g ∘ f)
  | ends _ _ => rfl
  | waits s ms rest =>
      congrArg (waits (g (f s)) ms) (funext fun _ => mapState_mapState f g (rest ()))
  | pauses s rest => congrArg (pauses (g (f s))) (funext fun _ => mapState_mapState f g (rest ()))
  | hangs _ => rfl

theorem mapState_andThen {f : σ → τ} {next : α → Nat → σ → Course σ β}
    {next' : α → Nat → τ → Course τ β}
    (hnext : ∀ a t s, (next a t s).mapState f = next' a t (f s)) :
    ∀ (c : Course σ α) (now : Nat),
      (c.andThen next now).mapState f = (c.mapState f).andThen next' now
  | ends a s, now => hnext a now s
  | waits s ms rest, now =>
      congrArg (waits (f s) ms) (funext fun _ => mapState_andThen hnext (rest ()) (now + ms))
  | pauses s rest, now =>
      congrArg (pauses (f s)) (funext fun _ => mapState_andThen hnext (rest ()) now)
  | hangs _, _ => rfl

theorem mapState_cut (f : σ → τ) :
    ∀ (c : Course σ α) (left : Nat), (c.cut left).mapState f = (c.mapState f).cut left
  | ends _ _, _ => rfl
  | waits s ms rest, left => by
      simp only [cut, mapState]
      split
      · exact congrArg (waits (f s) ms) (funext fun _ => mapState_cut f (rest ()) (left - ms))
      · rfl
  | pauses s rest, left => by
      simp only [cut, mapState]
      split
      · exact congrArg (pauses (f s)) (funext fun _ => mapState_cut f (rest ()) left)
      · rfl
  | hangs _, _ => rfl

/-! ## Cutting a course off -/

/-- The state of a course when a time has passed since its start. -/
def stateAt : Course σ α → (elapsed : Nat) → σ
  | ends _ s, _ => s
  | waits s ms rest, t => if t < ms then s else (rest ()).stateAt (t - ms)
  | pauses _ rest, t => (rest ()).stateAt t
  | hangs s, _ => s

/-- The times since the start of a course at which something happens in it. -/
def instants : Course σ α → List Nat
  | ends _ _ => [0]
  | waits _ ms rest => 0 :: (rest ()).instants.map (· + ms)
  | pauses _ rest => 0 :: (rest ()).instants
  | hangs _ => [0]

theorem stateAt_mapState (f : σ → τ) :
    ∀ (c : Course σ α) (t : Nat), (c.mapState f).stateAt t = f (c.stateAt t)
  | ends _ _, _ => rfl
  | waits s ms rest, t => by
      simp only [mapState, stateAt]
      split
      · rfl
      · exact stateAt_mapState f (rest ()) (t - ms)
  | pauses _ rest, t => stateAt_mapState f (rest ()) t
  | hangs _, _ => rfl

theorem instants_mapState (f : σ → τ) :
    ∀ c : Course σ α, (c.mapState f).instants = c.instants
  | ends _ _ => rfl
  | waits _ ms rest =>
      congrArg (fun l : List Nat => 0 :: l.map (· + ms)) (instants_mapState f (rest ()))
  | pauses _ rest => congrArg (0 :: ·) (instants_mapState f (rest ()))
  | hangs _ => rfl

/-- A cut course ends: with the value of the whole course and where that ends, or, if the course
does not get there in time, at the cut and without a value. -/
theorem finish_cut : ∀ (c : Course σ α) (d now : Nat),
    (∃ a t s, c.finish now = ⟨some a, t, s⟩ ∧ t ≤ now + d ∧
      (c.cut d).finish now = ⟨some (some a), t, s⟩) ∨
    ∃ s, (c.cut d).finish now = ⟨some none, now + d, s⟩
  | ends a s, d, now => .inl ⟨a, now, s, rfl, Nat.le_add_right now d, rfl⟩
  | waits s ms rest, d, now => by
      by_cases h : ms ≤ d
      · have hsum : now + ms + (d - ms) = now + d := by omega
        have ih := finish_cut (rest ()) (d - ms) (now + ms)
        rw [hsum] at ih
        simpa only [cut, if_pos h, finish] using ih
      · exact .inr ⟨s, by simp only [cut, if_neg h, finish]⟩
  | pauses s rest, d, now => by
      by_cases h : 0 < d
      · simpa only [cut, if_pos h, finish] using finish_cut (rest ()) d now
      · obtain rfl : d = 0 := by omega
        exact .inr ⟨s, by simp only [cut, if_neg h, finish, Nat.add_zero]⟩
  | hangs s, d, now => .inr ⟨s, rfl⟩

theorem le_of_finish {c : Course σ α} {now t : Nat} {r : Option α} {s : σ}
    (h : c.finish now = ⟨r, t, s⟩) : now ≤ t := by
  have hle := le_finish c now
  rwa [h] at hle

/-- What is cut off is either the first of two courses, or the second one in the time that is
left. -/
theorem finish_cut_andThen (next : α → Nat → σ → Course σ β) :
    ∀ (c : Course σ α) (d now : Nat), ((c.andThen next now).cut d).finish now =
      match (c.cut d).finish now with
      | ⟨some (some a), t, s⟩ => ((next a t s).cut (d - (t - now))).finish t
      | ⟨some none, t, s⟩ => ⟨some none, t, s⟩
      | ⟨none, t, s⟩ => ⟨none, t, s⟩
  | ends a s, d, now => by
      simp only [andThen, cut, finish, Nat.sub_self, Nat.sub_zero]
  | waits s ms rest, d, now => by
      by_cases h : ms ≤ d
      · simp only [andThen, cut, if_pos h, finish]
        rw [finish_cut_andThen next (rest ()) (d - ms) (now + ms)]
        split
        · next a t q hrest =>
          have hle := le_of_finish hrest
          rw [show d - ms - (t - (now + ms)) = d - (t - now) by omega]
        · rfl
        · rfl
      · simp only [andThen, cut, if_neg h, finish]
  | pauses s rest, d, now => by
      by_cases h : 0 < d
      · simp only [andThen, cut, if_pos h, finish]
        exact finish_cut_andThen next (rest ()) d now
      · simp only [andThen, cut, if_neg h, finish]
  | hangs _, _, _ => rfl

/-- A course that ends before the cut is not touched by it. -/
theorem finish_cut_of_lt : ∀ {c : Course σ α} {d now : Nat} {a : α} {t : Nat} {s : σ},
    c.finish now = ⟨some a, t, s⟩ → t < now + d →
      (c.cut d).finish now = ⟨some (some a), t, s⟩
  | ends a s, d, now, _, _, _, h, _ => by
      obtain ⟨rfl, rfl, rfl⟩ := h
      rfl
  | waits s ms rest, d, now, a, t, q, h, ht => by
      have hle := le_finish (rest ()) (now + ms)
      rw [show (rest ()).finish (now + ms) = ⟨some a, t, q⟩ from h] at hle
      have hms : ms ≤ d := by
        simp only at hle
        omega
      simp only [cut, if_pos hms, finish]
      exact finish_cut_of_lt h (by omega)
  | pauses s rest, d, now, a, t, q, h, ht => by
      have hle := le_finish (rest ()) now
      rw [show (rest ()).finish now = ⟨some a, t, q⟩ from h] at hle
      have hd : 0 < d := by
        simp only at hle
        omega
      simp only [cut, if_pos hd, finish]
      exact finish_cut_of_lt h ht
  | hangs s, d, now, a, t, q, h, _ => by
      cases h

/-- A course that takes longer than the cut ends exactly at the cut, without a value, in the state
that it has at that time. -/
theorem finish_cut_of_gt : ∀ {c : Course σ α} {d now : Nat},
    now + d < (c.finish now).now → d ∉ c.instants →
      (c.cut d).finish now = ⟨some none, now + d, c.stateAt d⟩
  | ends _ _, d, now, h, _ => absurd h (by simp only [finish]; omega)
  | waits s ms rest, d, now, h, hd => by
      simp only [instants, List.mem_cons, List.mem_map, not_or, not_exists, not_and] at hd
      rcases Nat.lt_or_ge d ms with hlt | hge
      · simp only [cut, if_neg (Nat.not_le.mpr hlt), stateAt, if_pos hlt, finish]
      · have hsum : now + ms + (d - ms) = now + d := by omega
        have hlt : now + ms + (d - ms) < ((rest ()).finish (now + ms)).now := by rwa [hsum]
        have ih := finish_cut_of_gt hlt fun hmem => hd.2 _ hmem (by omega)
        rw [hsum] at ih
        simpa only [cut, if_pos hge, stateAt, if_neg (Nat.not_lt.mpr hge), finish] using ih
  | pauses s rest, d, now, h, hd => by
      simp only [instants, List.mem_cons, not_or] at hd
      simpa only [cut, if_pos (Nat.pos_of_ne_zero hd.1), stateAt, finish] using
        finish_cut_of_gt (c := rest ()) h hd.2
  | hangs _, d, now, h, _ => absurd h (by simp only [finish]; omega)

end Course

/-! ## Results of acts -/

namespace Timed

@[simp] theorem result_pure (a : α) (now : Nat) (s : σ) :
    (pure a : Timed σ α).result now s = ⟨some a, now, s⟩ := rfl

@[simp] theorem result_get (now : Nat) (s : σ) : get.result now s = ⟨some s, now, s⟩ := rfl

@[simp] theorem result_modify (f : σ → σ) (now : Nat) (s : σ) :
    (modify f).result now s = ⟨some (), now, f s⟩ := rfl

@[simp] theorem result_now (now : Nat) (s : σ) : Timed.now.result now s = ⟨some now, now, s⟩ := rfl

@[simp] theorem result_wait (ms now : Nat) (s : σ) :
    (wait ms).result now s = ⟨some (), now + min ms longest, s⟩ := rfl

@[simp] theorem result_pause (now : Nat) (s : σ) : pause.result now s = ⟨some (), now, s⟩ := rfl

theorem result_bind (act : Timed σ α) (next : α → Timed σ β) (now : Nat) (s : σ) :
    (act >>= next).result now s =
      match act.result now s with
      | ⟨some a, t, q⟩ => (next a).result t q
      | ⟨none, t, q⟩ => ⟨none, t, q⟩ := by
  refine (Course.finish_andThen next (act now s) now).trans ?_
  rw [result]
  rcases (act now s).finish now with ⟨_ | a, t, q⟩ <;> rfl

/-- An act that has ended is followed by the next one from where it ended. -/
theorem result_bind_of {act : Timed σ α} {next : α → Timed σ β} {now t : Nat} {s q : σ} {a : α}
    (h : act.result now s = ⟨some a, t, q⟩) :
    (act >>= next).result now s = (next a).result t q := by
  rw [result_bind, h]

/-- An act with a time to end in ends. -/
theorem result_within (ms : Nat) (act : Timed σ α) (now : Nat) (s : σ) :
    ∃ r t q, (act.within ms).result now s = ⟨some r, t, q⟩ := by
  rcases Course.finish_cut (act now s) ms now with ⟨a, t, q, -, -, h⟩ | ⟨q, h⟩
  · exact ⟨some a, t, q, h⟩
  · exact ⟨none, _, q, h⟩

end Timed

end Rollout
