import Rollout.Proofs.Timed.Course

/-!
# What holds all along a course

A course changes its state in leaps, and time passes between them. A course `Keeps` a relation
between moments if each of its leaps is in the relation. For a relation that waiting does not break
and that is transitive (`Onward`), what is kept leap by leap holds between any two moments of the
course: from the start to the end (`Course.Keeps.finish`), and on both sides of any time at which
nothing happens (`Course.Keeps.around`).

`Course.Meets` is about single moments: what holds whenever a course waits, where it may be cut off,
and what holds of its end.

The last part has one rule for each way of composing acts, so that a whole act keeps a relation if
its parts do.
-/

namespace Rollout

/-- A relation between moments that holds across waiting and can be chained. -/
structure Onward (R : Nat × σ → Nat × σ → Prop) : Prop where
  wait : ∀ {t t' : Nat} (s : σ), t ≤ t' → R (t, s) (t', s)
  trans : ∀ {a b c : Nat × σ}, R a b → R b c → R a c

theorem Onward.refl {R : Nat × σ → Nat × σ → Prop} (hR : Onward R) (m : Nat × σ) : R m m :=
  hR.wait m.2 (Nat.le_refl m.1)

namespace Course

/-- Each leap of a course is in a relation; the course begins at an instant and comes from a
state. -/
def Keeps (R : Nat × σ → Nat × σ → Prop) : Course σ α → Nat → σ → Prop
  | ends _ s', now, s => R (now, s) (now, s')
  | waits s' ms rest, now, s => R (now, s) (now, s') ∧ (rest ()).Keeps R (now + ms) s'
  | pauses s' rest, now, s => R (now, s) (now, s') ∧ (rest ()).Keeps R now s'
  | hangs s', now, s => R (now, s) (now, s')

variable {R : Nat × σ → Nat × σ → Prop}

theorem keeps_of_leap (h : ∀ t s s', R (t, s) (t, s')) :
    ∀ (c : Course σ α) (now : Nat) (s : σ), c.Keeps R now s
  | ends _ s', now, s => h now s s'
  | waits s' ms rest, now, s => ⟨h now s s', keeps_of_leap h (rest ()) (now + ms) s'⟩
  | pauses s' rest, now, s => ⟨h now s s', keeps_of_leap h (rest ()) now s'⟩
  | hangs s', now, s => h now s s'

/-- One more leap in front. -/
theorem Keeps.prepend (hR : Onward R) {now : Nat} {s₀ s : σ} (h₀ : R (now, s₀) (now, s)) :
    ∀ {c : Course σ α}, c.Keeps R now s → c.Keeps R now s₀
  | ends _ _, h => hR.trans h₀ h
  | waits _ _ _, h => ⟨hR.trans h₀ h.1, h.2⟩
  | pauses _ _, h => ⟨hR.trans h₀ h.1, h.2⟩
  | hangs _, h => hR.trans h₀ h

theorem Keeps.finish (hR : Onward R) : ∀ {c : Course σ α} {now : Nat} {s : σ}, c.Keeps R now s →
    R (now, s) ((c.finish now).now, (c.finish now).state)
  | ends _ _, _, _, h => h
  | waits s' ms rest, now, _, h =>
      hR.trans (hR.trans h.1 (hR.wait s' (Nat.le_add_right now ms)))
        (finish (c := rest ()) hR h.2)
  | pauses _ rest, _, _, h => hR.trans h.1 (finish (c := rest ()) hR h.2)
  | hangs _, _, _, h => h

/-- At a time at which nothing happens, the relation holds from the start to a moment before, and
from a moment after to the end; both have the state of that time. -/
theorem Keeps.around (hR : Onward R) : ∀ {c : Course σ α} {now : Nat} {s : σ} {d : Nat},
    c.Keeps R now s → d ∉ c.instants → now + d < (c.finish now).now →
      ∃ t₁ t₂, t₁ < now + d ∧ now + d < t₂ ∧ R (now, s) (t₁, c.stateAt d)
        ∧ R (t₂, c.stateAt d) ((c.finish now).now, (c.finish now).state)
  | ends _ _, now, _, d, _, _, hlt => absurd hlt (by simp only [Course.finish]; omega)
  | waits s' ms rest, now, s, d, h, hd, hlt => by
      simp only [instants, List.mem_cons, List.mem_map, not_or, not_exists, not_and] at hd
      rcases Nat.lt_or_ge d ms with hms | hms
      · refine ⟨now, now + ms, by omega, by omega, ?_⟩
        simp only [stateAt, if_pos hms]
        exact ⟨h.1, h.2.finish hR⟩
      · have hsum : now + ms + (d - ms) = now + d := by omega
        obtain ⟨t₁, t₂, h₁, h₂, hbefore, hafter⟩ :=
          around hR (d := d - ms) h.2 (fun hmem => hd.2 _ hmem (by omega)) (by rwa [hsum])
        rw [hsum] at h₁ h₂
        simp only [stateAt, if_neg (Nat.not_lt.mpr hms)]
        exact ⟨t₁, t₂, h₁, h₂, hR.trans (hR.trans h.1 (hR.wait s' (Nat.le_add_right now ms))) hbefore,
          hafter⟩
  | pauses _ rest, now, s, d, h, hd, hlt => by
      simp only [instants, List.mem_cons, not_or] at hd
      obtain ⟨t₁, t₂, h₁, h₂, hbefore, hafter⟩ := around hR h.2 hd.2 hlt
      exact ⟨t₁, t₂, h₁, h₂, hR.trans h.1 hbefore, hafter⟩
  | hangs _, now, _, d, _, _, hlt => absurd hlt (by simp only [Course.finish]; omega)

/-! ## Composed courses -/

theorem Keeps.andThen (hR : Onward R) {next : α → Nat → σ → Course σ β}
    (hnext : ∀ a t s, (next a t s).Keeps R t s) :
    ∀ {c : Course σ α} {now : Nat} {s : σ}, c.Keeps R now s → (c.andThen next now).Keeps R now s
  | ends a s', now, _, h => (hnext a now s').prepend hR h
  | waits _ _ _, _, _, h => ⟨h.1, h.2.andThen hR hnext⟩
  | pauses _ _, _, _, h => ⟨h.1, h.2.andThen hR hnext⟩
  | hangs _, _, _, h => h

/-- A course that is cut off makes no other leaps than before. -/
theorem Keeps.cut (hR : Onward R) : ∀ {c : Course σ α} {d now : Nat} {s : σ},
    c.Keeps R now s → (c.cut d).Keeps R now s
  | ends _ _, _, _, _, h => h
  | waits s' ms rest, d, now, s, h => by
      rw [Course.cut]
      split
      · exact ⟨h.1, h.2.cut hR⟩
      · exact ⟨h.1, hR.refl _⟩
  | pauses s' rest, d, now, s, h => by
      rw [Course.cut]
      split
      · exact ⟨h.1, h.2.cut hR⟩
      · exact h.1
  | hangs _, _, _, _, h => ⟨h, hR.refl _⟩

theorem Keeps.mapState {Q : Nat × τ → Nat × τ → Prop} {f : σ → τ}
    (hf : ∀ {a b : Nat × σ}, R a b → Q (a.1, f a.2) (b.1, f b.2)) :
    ∀ {c : Course σ α} {now : Nat} {s : σ}, c.Keeps R now s → (c.mapState f).Keeps Q now (f s)
  | ends _ _, _, _, h => hf h
  | waits _ _ _, _, _, h => ⟨hf h.1, h.2.mapState hf⟩
  | pauses _ _, _, _, h => ⟨hf h.1, h.2.mapState hf⟩
  | hangs _, _, _, h => hf h

/-! ## Waiting and ending -/

/-- While a course waits its state has a property, and it ends with a value and a state that are
related. -/
def Meets (P : σ → Prop) (Q : α → σ → Prop) : Course σ α → Prop
  | ends a s => Q a s
  | waits s _ rest => P s ∧ (rest ()).Meets P Q
  | pauses s rest => P s ∧ (rest ()).Meets P Q
  | hangs s => P s

section Meets

variable {P : σ → Prop} {Q : α → σ → Prop}

theorem Meets.andThen {Q' : β → σ → Prop} {next : α → Nat → σ → Course σ β}
    (hnext : ∀ a t s, Q a s → (next a t s).Meets P Q') :
    ∀ {c : Course σ α} {now : Nat}, c.Meets P Q → (c.andThen next now).Meets P Q'
  | ends a s, now, h => hnext a now s h
  | waits _ _ _, _, h => ⟨h.1, h.2.andThen hnext⟩
  | pauses _ _, _, h => ⟨h.1, h.2.andThen hnext⟩
  | hangs _, _, h => h

theorem Meets.weaken {P' : σ → Prop} {Q' : α → σ → Prop} (hP : ∀ s, P s → P' s)
    (hQ : ∀ a s, Q a s → Q' a s) : ∀ {c : Course σ α}, c.Meets P Q → c.Meets P' Q'
  | ends a s, h => hQ a s h
  | waits s _ _, h => ⟨hP s h.1, h.2.weaken hP hQ⟩
  | pauses s _, h => ⟨hP s h.1, h.2.weaken hP hQ⟩
  | hangs s, h => hP s h

/-- A course of one part of a state, if nothing is asked of that part. -/
theorem meets_mapState {f : τ → σ} (hP : ∀ s, P (f s)) (hQ : ∀ a s, Q a (f s)) :
    ∀ c : Course τ α, (c.mapState f).Meets P Q
  | ends a s => hQ a s
  | waits s _ rest => ⟨hP s, meets_mapState hP hQ (rest ())⟩
  | pauses s rest => ⟨hP s, meets_mapState hP hQ (rest ())⟩
  | hangs s => hP s

theorem Meets.mapState {P' : τ → Prop} {Q' : α → τ → Prop} {f : σ → τ} (hP : ∀ s, P s → P' (f s))
    (hQ : ∀ a s, Q a s → Q' a (f s)) :
    ∀ {c : Course σ α}, c.Meets P Q → (c.mapState f).Meets P' Q'
  | ends a s, h => hQ a s h
  | waits s _ _, h => ⟨hP s h.1, h.2.mapState hP hQ⟩
  | pauses s _, h => ⟨hP s h.1, h.2.mapState hP hQ⟩
  | hangs s, h => hP s h

/-- Where a course ends, what holds of its end holds. -/
theorem Meets.finish : ∀ {c : Course σ α}, c.Meets P Q → ∀ {now t : Nat} {a : α} {s : σ},
    c.finish now = ⟨some a, t, s⟩ → Q a s
  | ends a s, h, _, _, _, _, hc => by
      cases hc
      exact h
  | waits _ _ _, h, _, _, _, _, hc => h.2.finish hc
  | pauses _ _, h, _, _, _, _, hc => h.2.finish hc
  | hangs _, _, _, _, _, _, hc => by cases hc

/-- What holds while a course waits and where it ends holds of the state that it comes to. -/
theorem Meets.settled : ∀ {c : Course σ α}, c.Meets P (fun _ => P) → ∀ now,
    P (c.finish now).state
  | ends _ _, h, _ => h
  | waits _ ms _, h, now => h.2.settled (now + ms)
  | pauses _ _, h, now => h.2.settled now
  | hangs _, h, _ => h

/-- A course that is cut off ends as before, or without a value where it waits. -/
theorem Meets.cut : ∀ {c : Course σ α}, c.Meets P Q → ∀ d,
    (c.cut d).Meets P fun r s => match r with
      | some a => Q a s
      | none => P s
  | ends _ _, h, _ => h
  | waits s ms rest, h, d => by
      rw [Course.cut]
      split
      · exact ⟨h.1, h.2.cut (d - ms)⟩
      · exact ⟨h.1, h.1⟩
  | pauses s rest, h, d => by
      rw [Course.cut]
      split
      · exact ⟨h.1, h.2.cut d⟩
      · exact h.1
  | hangs _, h, _ => ⟨h, h⟩

/-- A course that is cut off has come to its end, or is cut off where it waits. -/
theorem Meets.finish_cut {c : Course σ α} (h : c.Meets P Q) (d now : Nat) :
    (∃ a t s, (c.cut d).finish now = ⟨some (some a), t, s⟩ ∧ Q a s)
      ∨ ∃ t s, (c.cut d).finish now = ⟨some none, t, s⟩ ∧ P s := by
  rcases Course.finish_cut c d now with ⟨a, t, s, -, -, hc⟩ | ⟨s, hc⟩
  · exact .inl ⟨a, t, s, hc, (h.cut d).finish hc⟩
  · exact .inr ⟨_, s, hc, (h.cut d).finish hc⟩

end Meets

end Course

/-! ## Composed acts -/

namespace Timed

/-- The courses of an act keep a relation, wherever it starts. -/
def Keeps (R : Nat × σ → Nat × σ → Prop) (act : Timed σ α) : Prop :=
  ∀ now s, (act now s).Keeps R now s

variable {R : Nat × σ → Nat × σ → Prop}

theorem keeps_pure (hR : Onward R) (a : α) : Keeps R (pure a) := fun _ _ => hR.refl _

theorem keeps_get (hR : Onward R) : Keeps R get := fun _ _ => hR.refl _

theorem keeps_now (hR : Onward R) : Keeps R Timed.now := fun _ _ => hR.refl _

theorem keeps_modify {f : σ → σ} (h : ∀ t s, R (t, s) (t, f s)) : Keeps R (modify f) :=
  fun now s => h now s

theorem keeps_wait (hR : Onward R) (ms : Nat) : Keeps R (wait ms) :=
  fun _ _ => ⟨hR.refl _, hR.refl _⟩

theorem keeps_pause (hR : Onward R) : Keeps R pause := fun _ _ => ⟨hR.refl _, hR.refl _⟩

theorem keeps_bind (hR : Onward R) {act : Timed σ α} {next : α → Timed σ β} (h : Keeps R act)
    (hnext : ∀ a, Keeps R (next a)) : Keeps R (act >>= next) :=
  fun now s => (h now s).andThen hR hnext

theorem keeps_within (hR : Onward R) {act : Timed σ α} (h : Keeps R act) (ms : Nat) :
    Keeps R (act.within ms) :=
  fun now s => (h now s).cut hR

end Timed

end Rollout
