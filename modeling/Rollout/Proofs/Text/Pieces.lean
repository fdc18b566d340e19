import Mathlib.Data.List.TakeWhile
import Rollout.Text.Blank

/-!
# Trimmed texts and pieces

What trimming and splitting give is said here without the functions that do it: a trimmed text is
what stands between blanks and has none at its ends (`trims_iff`), and the pieces of a text are the
one list without separators that, joined by the separator, is the text again (`separates_iff`).
-/

namespace Rollout.Text

/-- A text is `m` with blanks around it, and `m` has none at its ends. -/
structure Trims (cs m : List Char) : Prop where
  between : ∃ before after, cs = before ++ m ++ after
    ∧ (∀ c ∈ before, isBlank c = true) ∧ ∀ c ∈ after, isBlank c = true
  begins : ∀ c ∈ m.head?, isBlank c = false
  closes : ∀ c ∈ m.getLast?, isBlank c = false

theorem dropWhile_of_head {p : Char → Bool} {cs : List Char} (h : ∀ c ∈ cs.head?, p c = false) :
    cs.dropWhile p = cs := by
  cases cs with
  | nil => rfl
  | cons c cs => simp [h c rfl]

theorem head_dropWhile {p : Char → Bool} {cs : List Char} :
    ∀ c ∈ (cs.dropWhile p).head?, p c = false := by
  intro c hc
  have h := List.head?_dropWhile_not p cs
  rw [Option.mem_def.mp hc] at h
  exact h

theorem takeWhile_append_of_head {p : Char → Bool} {xs ys : List Char}
    (hxs : ∀ c ∈ xs, p c = true) (hys : ∀ c ∈ ys.head?, p c = false) :
    (xs ++ ys).takeWhile p = xs := by
  have hstop : ys.takeWhile p = [] := by
    cases ys with
    | nil => rfl
    | cons c ys => simp [hys c rfl]
  rw [List.takeWhile_append_of_pos hxs, hstop, List.append_nil]

theorem dropWhile_append_of_head {p : Char → Bool} {xs ys : List Char}
    (hxs : ∀ c ∈ xs, p c = true) (hys : ∀ c ∈ ys.head?, p c = false) :
    (xs ++ ys).dropWhile p = ys := by
  rw [List.dropWhile_append_of_pos hxs, dropWhile_of_head hys]

theorem trimEnd_append {m after : List Char} (h : ∀ c ∈ after, isBlank c = true)
    (hm : ∀ c ∈ m.getLast?, isBlank c = false) : trimEnd (m ++ after) = m := by
  have hafter : ∀ c ∈ after.reverse, isBlank c = true := fun c hc => h c (List.mem_reverse.mp hc)
  have hlast : ∀ c ∈ m.reverse.head?, isBlank c = false := by
    rwa [List.head?_reverse]
  rw [trimEnd, List.reverse_append, dropWhile_append_of_head hafter hlast, List.reverse_reverse]

theorem Trims.trimChars {cs m : List Char} (h : Trims cs m) : trimChars cs = m := by
  obtain ⟨⟨before, after, rfl, hbefore, hafter⟩, hbegins, hcloses⟩ := h
  rw [Text.trimChars, List.append_assoc, List.dropWhile_append_of_pos hbefore]
  cases m with
  | nil => rw [List.nil_append, List.dropWhile_eq_nil_iff.mpr hafter]; rfl
  | cons c m =>
      rw [dropWhile_of_head (by simpa using hbegins)]
      exact trimEnd_append hafter hcloses

theorem trims_trimChars (cs : List Char) : Trims cs (trimChars cs) := by
  let rest := cs.dropWhile isBlank
  let after := (rest.reverse.takeWhile isBlank).reverse
  have hrest : trimChars cs ++ after = rest := by
    rw [trimChars, trimEnd, ← List.reverse_append, List.takeWhile_append_dropWhile,
      List.reverse_reverse]
  refine ⟨⟨cs.takeWhile isBlank, after, ?_, ?_, ?_⟩, ?_, ?_⟩
  · rw [List.append_assoc, hrest, List.takeWhile_append_dropWhile]
  · exact fun c hc => List.mem_takeWhile_imp hc
  · exact fun c hc => List.mem_takeWhile_imp (List.mem_reverse.mp hc)
  · intro c hc
    have hrest' : c ∈ rest.head? → isBlank c = false := head_dropWhile c
    apply hrest'
    rw [← hrest, List.head?_append, Option.mem_def.mp hc]
    rfl
  · rw [trimChars, trimEnd, List.getLast?_reverse]
    exact head_dropWhile

theorem trims_iff {cs m : List Char} : Trims cs m ↔ trimChars cs = m :=
  ⟨Trims.trimChars, fun h => h ▸ trims_trimChars cs⟩

theorem trimChars_eq_nil_iff {cs : List Char} :
    trimChars cs = [] ↔ ∀ c ∈ cs, isBlank c = true := by
  rw [← trims_iff]
  constructor
  · rintro ⟨⟨before, after, rfl, hbefore, hafter⟩, -, -⟩ c hc
    simp only [List.append_nil, List.mem_append] at hc
    exact hc.elim (hbefore c) (hafter c)
  · exact fun h => ⟨⟨cs, [], by simp, h, nofun⟩, nofun, nofun⟩

/-! ## Pieces -/

/-- A text is a list of pieces, at least one, with a separator between any two of them that stands
in no piece. -/
structure Separates (separator : Char) (cs : List Char) (ps : List (List Char)) : Prop where
  joined : cs = [separator].intercalate ps
  apart : ∀ p ∈ ps, separator ∉ p
  some : ps ≠ []

theorem pieces_eq_splitOnP (isSeparator : Char → Bool) (cs : List Char) :
    pieces isSeparator cs = cs.splitOnP isSeparator := by
  induction cs with
  | nil => simp [pieces]
  | cons c cs ih =>
      rw [pieces, List.splitOnP_cons_eq_if_modifyHead, ← ih]
      split
      · rfl
      · cases hrest : pieces isSeparator cs with
        | nil => exact absurd hrest (pieces_ne_nil _ _)
        | cons => rfl

theorem pieces_apart {isSeparator : Char → Bool} {cs : List Char} :
    ∀ p ∈ pieces isSeparator cs, ∀ c ∈ p, isSeparator c = false := by
  induction cs with
  | nil => simp [pieces]
  | cons c cs ih =>
      rw [pieces]
      split
      · simpa using ih
      · next hc =>
        cases hrest : pieces isSeparator cs with
        | nil => simpa using hc
        | cons q qs =>
            rw [hrest] at ih
            simpa [hc] using ih

theorem separates_iff {separator : Char} {cs : List Char} {ps : List (List Char)} :
    Separates separator cs ps ↔ pieces (· == separator) cs = ps := by
  constructor
  · rintro ⟨rfl, hapart, hsome⟩
    rw [pieces_eq_splitOnP]
    exact List.splitOn_intercalate separator hapart hsome
  · rintro rfl
    refine ⟨?_, fun p hp hc => ?_, pieces_ne_nil _ _⟩
    · rw [pieces_eq_splitOnP]
      exact (List.intercalate_splitOn separator).symm
    · exact absurd (pieces_apart p hp separator hc) (by simp)

end Rollout.Text
