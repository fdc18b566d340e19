import Mathlib.Algebra.BigOperators.Ring.List
import Mathlib.Algebra.Order.BigOperators.Group.List
import Mathlib.Algebra.Order.Ring.Nat
import Rollout.Etf

/-!
# Exact shares

The shares of a total come to the total, to the last coin. In plain numbers each share is the total
times its ratio over the weight, rounded down, and the last route also gets what rounding has left
over. What is left over is the sum of the remainders over the weight (`weight_mul_rest`), so there is
less of it than there are routes, and the shares that are rounded down never come to more than the
total (`sum_floors_le`).

These two facts keep every step of `Bundle.split?` in the range of amounts (`steps_of_weight`): it
gives no shares exactly if the ratios themselves add up to more than an amount. The headline is
`Bundle.split_exact`.
-/

namespace Rollout

namespace Amount

theorem toNat_lt (a : Amount) : a.toNat < 2 ^ 128 := a.isLt

theorem ofNat?_of_lt {n : Nat} (h : n < 2 ^ 128) : ∃ a, ofNat? n = some a ∧ a.toNat = n :=
  ⟨⟨n, h⟩, dif_pos h, rfl⟩

theorem ofNat?_of_le {n : Nat} (h : 2 ^ 128 ≤ n) : ofNat? n = none := dif_neg (Nat.not_lt.mpr h)

/-- The coins of a list of amounts together. -/
def total (as : List Amount) : Nat := (as.map toNat).sum

/-- Amounts are added up one by one, and none of the sums on the way is too large unless the whole
sum is. -/
theorem foldlM_add? (as : List Amount) :
    ∀ a : Amount, as.foldlM add? a = ofNat? (a.toNat + total as) := by
  induction as with
  | nil =>
      intro a
      simp [total]
  | cons b rest ih =>
      intro a
      have htotal : a.toNat + total (b :: rest) = a.toNat + b.toNat + total rest := by
        simp only [total, List.map_cons, List.sum_cons]
        omega
      rw [List.foldlM_cons, htotal, add?]
      by_cases h : a.toNat + b.toNat < 2 ^ 128
      · obtain ⟨c, hc, hvalue⟩ := ofNat?_of_lt h
        rw [hc, ← hvalue]
        exact ih c
      · rw [ofNat?_of_le (by omega), ofNat?_of_le (by omega)]
        rfl

theorem sum?_eq (as : List Amount) : sum? as = ofNat? (total as) := by
  rw [sum?, foldlM_add?]
  exact congrArg ofNat? (Nat.zero_add _)

theorem sum?_of_lt {as : List Amount} (h : total as < 2 ^ 128) :
    ∃ a, sum? as = some a ∧ a.toNat = total as := by
  rw [sum?_eq]
  exact ofNat?_of_lt h

theorem sub?_of_le {a b : Amount} (h : b.toNat ≤ a.toNat) :
    ∃ c, a.sub? b = some c ∧ c.toNat = a.toNat - b.toNat := by
  rw [sub?, if_pos h]
  exact ofNat?_of_lt (Nat.lt_of_le_of_lt (Nat.sub_le _ _) a.toNat_lt)

end Amount

/-! ## Shares in plain numbers -/

/-- The shares of a total by weights, each rounded down. -/
def floors (t : Nat) (weights : List Nat) : List Nat := weights.map fun w => t * w / weights.sum

/-- What is left of a total when each share is rounded down. -/
def leftOver (t : Nat) (weights : List Nat) : Nat := t - (floors t weights).sum

/-- Division with remainder, summed over the weights. -/
theorem sum_div_add_sum_mod (t W : Nat) (weights : List Nat) :
    W * (weights.map fun w => t * w / W).sum + (weights.map fun w => t * w % W).sum =
      t * weights.sum := by
  induction weights with
  | nil => simp
  | cons w rest ih =>
      have hdiv := Nat.div_add_mod (t * w) W
      simp only [List.map_cons, List.sum_cons, Nat.mul_add]
      omega

theorem sum_mod_lt (t : Nat) {W : Nat} (hW : 0 < W) {weights : List Nat} (hne : weights ≠ []) :
    (weights.map fun w => t * w % W).sum < W * weights.length := by
  induction weights with
  | nil => exact absurd rfl hne
  | cons w rest ih =>
      have hhead := Nat.mod_lt (t * w) hW
      rw [List.map_cons, List.sum_cons, List.length_cons, Nat.mul_succ]
      by_cases hrest : rest = []
      · subst hrest
        simpa using hhead
      · have htail := ih hrest
        omega

section Plain

variable (t : Nat) {weights : List Nat}

theorem sum_floors_le (hW : 0 < weights.sum) : (floors t weights).sum ≤ t := by
  have hsum := sum_div_add_sum_mod t weights.sum weights
  rw [Nat.mul_comm t] at hsum
  refine Nat.le_of_mul_le_mul_left ?_ hW
  rw [floors]
  omega

/-- What is left over is what the remainders come to. -/
theorem weight_mul_rest (hW : 0 < weights.sum) :
    weights.sum * leftOver t weights = (weights.map fun w => t * w % weights.sum).sum := by
  have hsum := sum_div_add_sum_mod t weights.sum weights
  have hle := sum_floors_le t hW
  rw [leftOver, Nat.mul_sub, Nat.mul_comm weights.sum t, ← hsum, floors]
  omega

/-- Less is left over than there are weights. -/
theorem leftOver_lt (hW : 0 < weights.sum) : leftOver t weights < weights.length := by
  have hne : weights ≠ [] := by
    rintro rfl
    exact absurd hW (by simp)
  have hlt := sum_mod_lt t hW hne
  rw [← weight_mul_rest t hW] at hlt
  exact Nat.lt_of_mul_lt_mul_left hlt

/-- A common factor of the weights does not count. -/
theorem floors_scale {k : Nat} (hk : 0 < k) : floors t (weights.map (k * ·)) = floors t weights := by
  have hsum : (weights.map (k * ·)).sum = k * weights.sum := by
    rw [List.sum_map_mul_left weights (fun w => w) k, List.map_id']
  rw [floors, hsum, List.map_map, floors]
  refine List.map_congr_left fun w _ => ?_
  rw [Function.comp_apply, Nat.mul_left_comm, Nat.mul_div_mul_left _ _ hk]

end Plain

/-! ## The steps of a division -/

namespace Bundle

/-- The ratios of a bundle together. -/
def weight (b : Bundle) : Nat := Amount.total b.ratios

/-- The amounts on the way to the shares of a total. -/
structure Division where
  weight : Amount
  parts : List Amount
  assigned : Amount
  rest : Amount
  shares : List Amount

/-- The steps of a division, all of them in range: the ratios add up to an amount that is not zero,
each product takes at most twice the bits of an amount and its quotient is an amount, so is the sum
of the quotients, and that is no more than the total. -/
structure Steps (b : Bundle) (total : Amount) (d : Division) : Prop where
  weight : Amount.sum? b.ratios = some d.weight
  divisor : d.weight.toNat ≠ 0
  products : ∀ r ∈ b.ratios, total.toNat * r.toNat < 2 ^ 256
  parts : b.ratios.mapM (total.mulDiv? · d.weight) = some d.parts
  assigned : Amount.sum? d.parts = some d.assigned
  rest : total.sub? d.assigned = some d.rest
  shares : addToLast? d.rest d.parts = some d.shares

theorem Steps.split? {b : Bundle} {total : Amount} {d : Division} (h : b.Steps total d) :
    b.split? total = some d.shares := by
  simp only [Bundle.split?, h.weight, h.parts, h.assigned, h.rest, h.shares, Option.bind_eq_bind,
    Option.bind_some]

theorem addToLast?_concat (extra last : Amount) :
    ∀ first : List Amount, addToLast? extra (first ++ [last]) =
      (last.add? extra).map fun a => first ++ [a]
  | [] => rfl
  | [a] => by
      rw [List.singleton_append, addToLast?, addToLast?, Option.map_map]
      · rfl
      · simp
  | a :: b :: first => by
      have ih := addToLast?_concat extra last (b :: first)
      rw [List.cons_append, addToLast?, ih, Option.map_map]
      · rfl
      · simp

theorem addToLast?_of_lt {extra last : Amount} (first : List Amount)
    (h : last.toNat + extra.toNat < 2 ^ 128) :
    ∃ shares, addToLast? extra (first ++ [last]) = some shares
      ∧ shares.map Amount.toNat = first.map Amount.toNat ++ [last.toNat + extra.toNat] := by
  obtain ⟨share, hshare, hvalue⟩ : ∃ share, last.add? extra = some share
      ∧ share.toNat = last.toNat + extra.toNat := Amount.ofNat?_of_lt h
  refine ⟨first ++ [share], by rw [addToLast?_concat, hshare, Option.map_some], ?_⟩
  rw [List.map_append, List.map_singleton, hvalue]

/-- A ratio of the weight gives a quotient that is no more than the total. -/
theorem mulDiv?_of_le (total : Amount) {ratio weight : Amount} (hzero : weight.toNat ≠ 0)
    (hle : ratio.toNat ≤ weight.toNat) :
    ∃ q, total.mulDiv? ratio weight = some q
      ∧ q.toNat = total.toNat * ratio.toNat / weight.toNat := by
  have hquotient : total.toNat * ratio.toNat / weight.toNat ≤ total.toNat :=
    Nat.div_le_of_le_mul <| by
      rw [Nat.mul_comm weight.toNat]
      exact Nat.mul_le_mul_left _ hle
  obtain ⟨q, hq, hvalue⟩ := Amount.ofNat?_of_lt (Nat.lt_of_le_of_lt hquotient total.toNat_lt)
  exact ⟨q, by rw [Amount.mulDiv?, if_neg hzero, hq], hvalue⟩

theorem mapM_mulDiv? (total : Amount) {weight : Amount} (hzero : weight.toNat ≠ 0) :
    ∀ {ratios : List Amount}, (∀ r ∈ ratios, r.toNat ≤ weight.toNat) →
      ∃ parts, ratios.mapM (total.mulDiv? · weight) = some parts
        ∧ parts.map Amount.toNat = ratios.map fun r => total.toNat * r.toNat / weight.toNat
  | [], _ => ⟨[], rfl, rfl⟩
  | r :: rest, h => by
      obtain ⟨q, hq, hvalue⟩ := mulDiv?_of_le total hzero (h r List.mem_cons_self)
      obtain ⟨parts, hparts, hvalues⟩ :=
        mapM_mulDiv? total hzero fun r' hr' => h r' (List.mem_cons_of_mem r hr')
      refine ⟨q :: parts, ?_, ?_⟩
      · rw [List.mapM_cons, hq, hparts]
        rfl
      · rw [List.map_cons, List.map_cons, hvalue, hvalues]

variable (b : Bundle) (total : Amount)

theorem ratios_ne_nil : b.ratios ≠ [] := by
  intro hnil
  have hcount := b.matched
  rw [hnil] at hcount
  exact b.routed (List.length_eq_zero_iff.mp hcount)

theorem weight_pos : 0 < b.weight := by
  obtain ⟨r, hr⟩ := List.exists_mem_of_ne_nil _ b.ratios_ne_nil
  have hpositive := b.positive r hr
  have hle : r.toNat ≤ b.weight := List.le_sum_of_mem (List.mem_map_of_mem hr)
  omega

/-- The quotients of a total by the weight are those of plain numbers, and there is a last one. -/
theorem parts_of_weight {weight : Amount} (hweight : weight.toNat = b.weight) :
    ∃ first last, b.ratios.mapM (total.mulDiv? · weight) = some (first ++ [last])
      ∧ (first ++ [last]).map Amount.toNat = floors total.toNat (b.ratios.map Amount.toNat) := by
  have hzero : weight.toNat ≠ 0 := hweight ▸ Nat.ne_of_gt b.weight_pos
  have hratio : ∀ r ∈ b.ratios, r.toNat ≤ weight.toNat := fun r hr =>
    hweight ▸ List.le_sum_of_mem (List.mem_map_of_mem hr)
  obtain ⟨parts, hparts, hvalues⟩ := mapM_mulDiv? total hzero hratio
  have hne : parts ≠ [] := by
    rintro rfl
    exact b.ratios_ne_nil (List.map_eq_nil_iff.mp hvalues.symm)
  refine ⟨parts.dropLast, parts.getLast hne, ?_, ?_⟩ <;> rw [List.dropLast_concat_getLast]
  · exact hparts
  · rw [hvalues, hweight, floors, List.map_map]
    rfl

/-- If the ratios add up to an amount, every step is in range, and the shares are those of plain
numbers. -/
theorem steps_of_weight (hweight : b.weight < 2 ^ 128) :
    ∃ d, b.Steps total d ∧ d.weight.toNat = b.weight
      ∧ ∃ first last, d.parts = first ++ [last]
        ∧ d.parts.map Amount.toNat = floors total.toNat (b.ratios.map Amount.toNat)
        ∧ d.shares.map Amount.toNat = first.map Amount.toNat
          ++ [last.toNat + leftOver total.toNat (b.ratios.map Amount.toNat)] := by
  obtain ⟨weight, hsum, hvalue⟩ := Amount.sum?_of_lt hweight
  obtain ⟨first, last, hparts, hfloors⟩ := b.parts_of_weight total hvalue
  have htotal : Amount.total (first ++ [last]) =
      (floors total.toNat (b.ratios.map Amount.toNat)).sum := congrArg List.sum hfloors
  have hle : Amount.total (first ++ [last]) ≤ total.toNat :=
    htotal ▸ sum_floors_le total.toNat b.weight_pos
  have hlast : last.toNat ≤ Amount.total (first ++ [last]) :=
    List.le_sum_of_mem (List.mem_map_of_mem (List.mem_append_right first List.mem_cons_self))
  obtain ⟨assigned, hassigned, hassigned_value⟩ :=
    Amount.sum?_of_lt (Nat.lt_of_le_of_lt hle total.toNat_lt)
  obtain ⟨rest, hrest, hrest_value⟩ := Amount.sub?_of_le (hassigned_value.trans_le hle)
  have hleft : rest.toNat = leftOver total.toNat (b.ratios.map Amount.toNat) := by
    rw [hrest_value, hassigned_value, htotal, leftOver]
  have hshare : last.toNat + rest.toNat < 2 ^ 128 := by
    have hbound := total.toNat_lt
    omega
  obtain ⟨shares, hshares, hshares_value⟩ := addToLast?_of_lt first hshare
  refine ⟨⟨weight, first ++ [last], assigned, rest, shares⟩, ?_, hvalue, first, last, rfl, hfloors,
    hleft ▸ hshares_value⟩
  exact
    { weight := hsum
      divisor := hvalue ▸ Nat.ne_of_gt b.weight_pos
      products := by
        intro r hr
        have hproduct := Nat.mul_lt_mul'' total.toNat_lt r.toNat_lt
        rwa [← Nat.pow_add] at hproduct
      parts := hparts
      assigned := hassigned
      rest := hrest
      shares := hshares }

/-- The shares of a total by the ratios of a bundle: all but the last are rounded down, the last one
also has what is left over, which is less than there are routes, and together they are the total. -/
structure Exact (shares : List Amount) : Prop where
  count : shares.length = b.ratios.length
  whole : Amount.total shares = total.toNat
  rounded : ∀ i r s, i + 1 < b.ratios.length → b.ratios[i]? = some r → shares[i]? = some s →
    s.toNat = total.toNat * r.toNat / b.weight
  last : ∀ r s, b.ratios.getLast? = some r → shares.getLast? = some s →
    total.toNat * r.toNat / b.weight ≤ s.toNat
      ∧ s.toNat ≤ total.toNat * r.toNat / b.weight + (b.ratios.length - 1)

theorem exact_of_plain {parts shares first : List Amount} {last : Amount}
    (hlast : parts = first ++ [last])
    (hparts : parts.map Amount.toNat = floors total.toNat (b.ratios.map Amount.toNat))
    (hshares : shares.map Amount.toNat = first.map Amount.toNat
      ++ [last.toNat + leftOver total.toNat (b.ratios.map Amount.toNat)]) :
    b.Exact total shares := by
  subst hlast
  have hfirst : first.length + 1 = b.ratios.length := by
    have hlength := congrArg List.length hparts
    simpa [floors] using hlength
  have hcount : shares.length = first.length + 1 := by
    have hlength := congrArg List.length hshares
    simpa using hlength
  have hle := sum_floors_le total.toNat b.weight_pos
  refine ⟨hcount.trans hfirst, ?_, ?_, ?_⟩
  · have hsum := congrArg List.sum hparts
    rw [List.map_append, List.map_singleton, List.sum_append, List.sum_singleton] at hsum
    rw [Amount.total, hshares, List.sum_append, List.sum_singleton, ← Nat.add_assoc, hsum, leftOver]
    omega
  · intro i r s hi hr hs
    have hbefore : i < first.length := by omega
    have hshare := congrArg (fun l => l[i]?) hshares
    have hpart := congrArg (fun l => l[i]?) hparts
    simp only [List.map_append, floors, List.map_map, List.getElem?_map, hs, hr,
      List.getElem?_append_left, List.length_map, hbefore, Option.map_some] at hshare hpart
    exact Option.some.inj (hshare.trans hpart)
  · intro r s hr hs
    have hshare := congrArg List.getLast? hshares
    have hpart := congrArg List.getLast? hparts
    simp only [List.map_append, List.map_singleton, floors, List.map_map, List.getLast?_map, hs, hr,
      List.getLast?_concat, Option.map_some] at hshare hpart
    have hless := leftOver_lt total.toNat b.weight_pos
    rw [List.length_map] at hless
    have hvalue := Option.some.inj hshare
    have hfloor : last.toNat = total.toNat * r.toNat / b.weight := Option.some.inj hpart
    omega

/-- Amounts are the same if their numbers are. -/
theorem eq_of_map_toNat {as as' : List Amount} (h : as.map Amount.toNat = as'.map Amount.toNat) :
    as = as' :=
  List.map_inj_right (fun _ _ => Amount.eq_of_toNat) |>.mp h

/-- A common factor of the ratios does not count, as long as the ratios add up to an amount. -/
theorem split?_scale {scaled : Bundle} {k : Nat} (hk : 0 < k)
    (hratios : scaled.ratios.map Amount.toNat = b.ratios.map fun r => k * r.toNat)
    (hweight : k * b.weight < 2 ^ 128) : scaled.split? total = b.split? total := by
  have hmap : scaled.ratios.map Amount.toNat = (b.ratios.map Amount.toNat).map (k * ·) := by
    rw [hratios, List.map_map]
    rfl
  have hscaled : scaled.weight = k * b.weight := by
    rw [weight, Amount.total, hmap, List.sum_map_mul_left _ (fun w => w) k, List.map_id']
    rfl
  have hplain : b.weight < 2 ^ 128 := Nat.lt_of_le_of_lt (Nat.le_mul_of_pos_left _ hk) hweight
  obtain ⟨d, hsteps, -, first, last, hlast, hparts, hshares⟩ := b.steps_of_weight total hplain
  obtain ⟨d', hsteps', -, first', last', hlast', hparts', hshares'⟩ :=
    scaled.steps_of_weight total (hscaled ▸ hweight)
  have hfloors : floors total.toNat ((b.ratios.map Amount.toNat).map (k * ·)) =
      floors total.toNat (b.ratios.map Amount.toNat) := floors_scale total.toNat hk
  have hrest : leftOver total.toNat (scaled.ratios.map Amount.toNat) =
      leftOver total.toNat (b.ratios.map Amount.toNat) := by
    rw [leftOver, leftOver, hmap, hfloors]
  have hsame : d'.parts = d.parts := eq_of_map_toNat (by rw [hparts', hparts, hmap, hfloors])
  rw [hlast, hlast'] at hsame
  obtain ⟨rfl, hone⟩ := List.append_inj' hsame rfl
  obtain ⟨rfl, -⟩ := List.cons.inj hone
  rw [hsteps.split?, hsteps'.split?, eq_of_map_toNat (hshares'.trans (hrest ▸ hshares.symm))]

/-- The shares of a total are exact. There are none exactly if the ratios add up to more than an
amount. Otherwise every step on the way to them is in range, they follow the ratios, and together
they are the total. Ratios with a common factor give the same shares as those without. -/
theorem split_exact :
    (b.split? total = none ↔ 2 ^ 128 ≤ b.weight)
    ∧ (b.weight < 2 ^ 128 → ∃ d, b.Steps total d ∧ b.split? total = some d.shares
      ∧ b.Exact total d.shares)
    ∧ ∀ (k : Nat) (scaled : Bundle), 0 < k →
      scaled.ratios.map Amount.toNat = b.ratios.map (fun r => k * r.toNat) →
        k * b.weight < 2 ^ 128 → scaled.split? total = b.split? total := by
  have hshared : b.weight < 2 ^ 128 → ∃ d, b.Steps total d ∧ b.split? total = some d.shares
      ∧ b.Exact total d.shares := by
    intro hweight
    obtain ⟨d, hsteps, -, first, last, hlast, hparts, hshares⟩ := b.steps_of_weight total hweight
    exact ⟨d, hsteps, hsteps.split?, b.exact_of_plain total hlast hparts hshares⟩
  refine ⟨⟨fun hnone => ?_, fun hweight => ?_⟩, hshared,
    fun k scaled hk hratios hweight => b.split?_scale total hk hratios hweight⟩
  · by_contra hweight
    obtain ⟨d, -, hsome, -⟩ := hshared (Nat.lt_of_not_le hweight)
    rw [hnone] at hsome
    cases hsome
  · have hsum : Amount.sum? b.ratios = none := by
      rw [Amount.sum?_eq]
      exact Amount.ofNat?_of_le hweight
    rw [split?, hsum]
    rfl

/-- A quarter and three quarters of 1001 coins. The ratios are as good as `2 ^ 125` times as large,
where no product fits an amount any more. -/
theorem split_exact_of_quarters :
    let one : Amount := ⟨1, by decide⟩
    let three : Amount := ⟨3, by decide⟩
    let total : Amount := ⟨1001, by decide⟩
    let large (r : Nat) (h : r < 8) : Amount := ⟨2 ^ 125 * r, by rw [Nat.pow_eq]; omega⟩
    let routes : List SwapRoute := [⟨1, "uion"⟩, ⟨2, "uatom"⟩]
    ∃ b scaled d, make "quarters" routes [one, three] = .ok b
      ∧ make "quarters" routes [large 1 (by decide), large 3 (by decide)] = .ok scaled
      ∧ b.weight < 2 ^ 128 ∧ b.Steps total d ∧ b.Exact total d.shares
      ∧ d.shares.map Amount.toNat = [250, 751] ∧ scaled.split? total = some d.shares := by
  intro one three total large routes
  let b : Bundle := ⟨"quarters", routes, [one, three], by decide, by decide, rfl, by decide⟩
  let scaled : Bundle := ⟨"quarters", routes, [large 1 (by decide), large 3 (by decide)],
    by decide, by decide, rfl, by decide⟩
  obtain ⟨-, hshared, hscaled⟩ := b.split_exact total
  obtain ⟨d, hsteps, hsplit, hexact⟩ := hshared (by decide)
  have hshares : (b.split? total).map (·.map Amount.toNat) = some [250, 751] := by decide
  rw [hsplit, Option.map_some] at hshares
  refine ⟨b, scaled, d, by rfl, by rfl, by decide, hsteps, hexact, Option.some.inj hshares, ?_⟩
  rw [hscaled (2 ^ 125) scaled (by decide) (by decide) (by decide), hsplit]

end Bundle

end Rollout
