/-
Balances rolled forward from marks.

A balance moves by some amount every day. On some days what it is at their start has been set down, a
mark; every other day opens with the last mark before it and what has moved since. The lemmas say when
a day opens with what the day before has come to, and which new marks change no day.
-/
import Mathlib.Algebra.BigOperators.Intervals
import Mathlib.Data.Int.ConditionallyCompleteOrder
import Mathlib.Data.Int.Interval
import Mathlib.Data.Int.SuccPred

namespace Checkpoints

open Function Option

variable {M : Type*} [AddCommGroup M]

/-! ## Days and marks -/

/-- What moves from the start of day `i` to the start of day `j`. -/
noncomputable def moved (flow : ℤ → M) (i j : ℤ) : M := ∑ d ∈ Finset.Ico i j, flow d

/-- `m`, set down on day `j`, is the last mark up to day `k`. -/
structure IsLatest (marks : ℤ → Option M) (k j : ℤ) (m : M) : Prop where
  le : j ≤ k
  mark : marks j = some m
  last : ∀ i, j < i → i ≤ k → marks i = none

/-- There is no mark up to day `k`. -/
def Unmarked (marks : ℤ → Option M) (k : ℤ) : Prop := ∀ j ≤ k, marks j = none

open Classical in
/-- What day `k` opens with. -/
noncomputable def opening (marks : ℤ → Option M) (flow : ℤ → M) (k : ℤ) : M :=
  if h : ∃ p : ℤ × M, IsLatest marks k p.1 p.2 then h.choose.2 + moved flow h.choose.1 k else 0

/-- What day `k` has come to at its end. -/
noncomputable def closing (marks : ℤ → Option M) (flow : ℤ → M) (k : ℤ) : M :=
  opening marks flow k + flow k

/-! ## What moves -/

section Moved

variable (flow : ℤ → M)

@[simp] theorem moved_self (i : ℤ) : moved flow i i = 0 := by
  unfold moved
  rw [Finset.Ico_self, Finset.sum_empty]

theorem moved_succ {i j : ℤ} (h : i ≤ j) : moved flow i (j + 1) = moved flow i j + flow j := by
  unfold moved
  rw [← Finset.insert_Ico_right_eq_Ico_add_one h, Finset.sum_insert Finset.right_notMem_Ico, add_comm]

theorem moved_add {i j k : ℤ} (hij : i ≤ j) (hjk : j ≤ k) :
    moved flow i j + moved flow j k = moved flow i k := by
  induction k, hjk using Int.leInduction with
  | base => rw [moved_self, add_zero]
  | succ k hjk ih => rw [moved_succ flow hjk, moved_succ flow (hij.trans hjk), ← ih, add_assoc]

end Moved

/-! ## The last mark -/

section Latest

variable {marks : ℤ → Option M} {flow : ℤ → M} {j k : ℤ} {m : M}

omit [AddCommGroup M] in
theorem IsLatest.unique (h : IsLatest marks k j m) {j' : ℤ} {m' : M} (h' : IsLatest marks k j' m') :
    j' = j ∧ m' = m := by
  have hj : j' = j := by
    rcases lt_trichotomy j' j with hlt | heq | hgt
    · have hnone : marks j = none := h'.last j hlt h.le
      exact absurd (h.mark.symm.trans hnone) (some_ne_none m)
    · exact heq
    · have hnone : marks j' = none := h.last j' hgt h'.le
      exact absurd (h'.mark.symm.trans hnone) (some_ne_none m')
  subst hj
  exact ⟨rfl, some.inj (h'.mark.symm.trans h.mark)⟩

omit [AddCommGroup M] in
/-- A day without a mark up to it has none, or has a last one. -/
theorem unmarked_or_latest (marks : ℤ → Option M) (k : ℤ) :
    Unmarked marks k ∨ ∃ j m, IsLatest marks k j m := by
  by_cases hnone : Unmarked marks k
  · exact .inl hnone
  · unfold Unmarked at hnone
    push Not at hnone
    obtain ⟨i, hi, hmark⟩ := hnone
    obtain ⟨j, ⟨hle, hsome⟩, hlast⟩ := Int.exists_greatest_of_bdd
      (P := fun j => j ≤ k ∧ marks j ≠ none) ⟨k, fun _ h => h.1⟩ ⟨i, hi, hmark⟩
    obtain ⟨m, hm⟩ := ne_none_iff_exists'.mp hsome
    refine .inr ⟨j, m, hle, hm, fun i hji hik => ?_⟩
    by_contra hne
    exact absurd (hlast i ⟨hik, hne⟩) (not_le.mpr hji)

omit [AddCommGroup M] in
theorem Unmarked.later (h : Unmarked marks k) {k' : ℤ}
    (hnone : ∀ i, k < i → i ≤ k' → marks i = none) : Unmarked marks k' := by
  intro i hi
  rcases le_or_gt i k with hle | hlt
  · exact h i hle
  · exact hnone i hlt hi

theorem opening_of_latest (h : IsLatest marks k j m) : opening marks flow k = m + moved flow j k := by
  have hex : ∃ p : ℤ × M, IsLatest marks k p.1 p.2 := ⟨(j, m), h⟩
  obtain ⟨hj, hm⟩ := h.unique hex.choose_spec
  unfold opening
  rw [dif_pos hex, hj, hm]

theorem opening_of_unmarked (h : Unmarked marks k) : opening marks flow k = 0 := by
  unfold opening
  refine dif_neg ?_
  rintro ⟨⟨j, m⟩, hlatest⟩
  exact absurd (hlatest.mark.symm.trans (h j hlatest.le)) (some_ne_none m)

theorem opening_of_mark (h : marks k = some m) : opening marks flow k = m := by
  have hlatest : IsLatest marks k k m := ⟨le_rfl, h, fun i hki hik => absurd hik (not_le.mpr hki)⟩
  rw [opening_of_latest hlatest, moved_self, add_zero]

omit [AddCommGroup M] in
theorem IsLatest.later (h : IsLatest marks k j m) {k' : ℤ} (hk : k ≤ k')
    (hnone : ∀ i, k < i → i ≤ k' → marks i = none) : IsLatest marks k' j m where
  le := h.le.trans hk
  mark := h.mark
  last i hji hik := by
    rcases le_or_gt i k with hle | hlt
    · exact h.last i hji hle
    · exact hnone i hlt hik

/-- While no mark intervenes, a day opens with what an earlier one opened with and what has moved
since. -/
theorem opening_later {k' : ℤ} (hk : k ≤ k') (hmarked : ¬ Unmarked marks k)
    (hnone : ∀ i, k < i → i ≤ k' → marks i = none) :
    opening marks flow k' = opening marks flow k + moved flow k k' := by
  obtain ⟨j, m, h⟩ := (unmarked_or_latest marks k).resolve_left hmarked
  rw [opening_of_latest h, opening_of_latest (h.later hk hnone), add_assoc, moved_add flow h.le hk]

/-- A day without a mark of its own opens with what the day before has come to, once there is a
mark. -/
theorem opening_succ (hmarked : ¬ Unmarked marks k) (hnone : marks (k + 1) = none) :
    opening marks flow (k + 1) = closing marks flow k := by
  have hstep : ∀ i, k < i → i ≤ k + 1 → marks i = none := by
    intro i hki hik
    have hi : i = k + 1 := by omega
    rw [hi]
    exact hnone
  rw [opening_later (by omega) hmarked hstep, moved_succ flow le_rfl, moved_self, zero_add]
  rfl

theorem opening_eq_zero_iff :
    opening marks flow k = 0 ↔ ∀ j m, IsLatest marks k j m → m + moved flow j k = 0 := by
  constructor
  · intro h j m hlatest
    rw [← opening_of_latest hlatest]
    exact h
  · intro h
    rcases unmarked_or_latest marks k with hnone | ⟨j, m, hlatest⟩
    · exact opening_of_unmarked hnone
    · rw [opening_of_latest hlatest]
      exact h j m hlatest

theorem closing_eq_zero_iff :
    closing marks flow k = 0 ↔
      (∀ j m, IsLatest marks k j m → m + moved flow j (k + 1) = 0) ∧
        (Unmarked marks k → flow k = 0) := by
  have hclosing : ∀ j m, IsLatest marks k j m → closing marks flow k = m + moved flow j (k + 1) := by
    intro j m hlatest
    rw [moved_succ flow hlatest.le, ← add_assoc, ← opening_of_latest hlatest]
    rfl
  have hunmarked : Unmarked marks k → closing marks flow k = flow k := by
    intro hnone
    unfold closing
    rw [opening_of_unmarked hnone, zero_add]
  constructor
  · intro h
    exact ⟨fun j m hlatest => (hclosing j m hlatest).symm.trans h,
      fun hnone => (hunmarked hnone).symm.trans h⟩
  · rintro ⟨hlast, hfirst⟩
    rcases unmarked_or_latest marks k with hnone | ⟨j, m, hlatest⟩
    · exact (hunmarked hnone).trans (hfirst hnone)
    · exact (hclosing j m hlatest).trans (hlast j m hlatest)

end Latest

/-! ## A new mark -/

section NewMark

variable {marks : ℤ → Option M} {flow : ℤ → M} {k : ℤ} {v : M}

omit [AddCommGroup M] in
theorem unmarked_update_of_lt {i : ℤ} (h : i < k) :
    Unmarked (update marks k (some v)) i ↔ Unmarked marks i := by
  refine forall₂_congr fun j hj => ?_
  rw [update_of_ne (by omega)]

omit [AddCommGroup M] in
/-- A new mark before the last one, or after the day, leaves the last one the last. -/
theorem IsLatest.update {i j : ℤ} {m : M} (h : IsLatest marks i j m) (hk : k < j ∨ i < k) :
    IsLatest (update marks k (some v)) i j m where
  le := h.le
  mark := by
    have hle : j ≤ i := h.le
    rw [update_of_ne (by omega)]
    exact h.mark
  last d hjd hdi := by
    rw [update_of_ne (by omega)]
    exact h.last d hjd hdi

/-- The days before a mark do not see it. -/
theorem opening_update_of_lt {i : ℤ} (h : i < k) :
    opening (update marks k (some v)) flow i = opening marks flow i := by
  rcases unmarked_or_latest marks i with hnone | ⟨j, m, hlatest⟩
  · rw [opening_of_unmarked hnone, opening_of_unmarked ((unmarked_update_of_lt h).mpr hnone)]
  · rw [opening_of_latest hlatest, opening_of_latest (hlatest.update (.inr h))]

/-- Nor do the days from the next mark on. -/
theorem opening_update_of_mark {i d : ℤ} (hkd : k < d) (hdi : d ≤ i) (hmark : marks d ≠ none) :
    opening (update marks k (some v)) flow i = opening marks flow i := by
  have hmarked : ¬ Unmarked marks i := fun hnone => hmark (hnone d hdi)
  obtain ⟨j, m, hlatest⟩ := (unmarked_or_latest marks i).resolve_left hmarked
  have hlt : k < j := by
    by_contra hle
    exact hmark (hlatest.last d (by omega) hdi)
  rw [opening_of_latest hlatest, opening_of_latest (hlatest.update (.inl hlt))]

/-- The days up to the next mark are rolled forward from the new one. -/
theorem opening_update_later {i : ℤ} (hki : k ≤ i) (hnone : ∀ d, k < d → d ≤ i → marks d = none) :
    opening (update marks k (some v)) flow i = v + moved flow k i := by
  refine opening_of_latest ⟨hki, update_self .., fun d hkd hdi => ?_⟩
  rw [update_of_ne (by omega)]
  exact hnone d hkd hdi

/-- A new mark changes no day exactly when it says what its day opens with and, where it is the first
one, nothing has moved by any day up to the next. -/
theorem opening_update_iff :
    (∀ i, opening (update marks k (some v)) flow i = opening marks flow i) ↔
      v = opening marks flow k ∧ (Unmarked marks k →
        ∀ i, k ≤ i → (∀ d, k < d → d ≤ i → marks d = none) → moved flow k i = 0) := by
  constructor
  · intro h
    have hv : v = opening marks flow k := by
      rw [← h k, opening_of_mark (update_self ..)]
    refine ⟨hv, fun hunmarked i hki hnone => ?_⟩
    have hzero : v + moved flow k i = 0 := by
      rw [← opening_update_later hki hnone, h i, opening_of_unmarked (hunmarked.later hnone)]
    rw [hv, opening_of_unmarked hunmarked, zero_add] at hzero
    exact hzero
  · rintro ⟨hv, hfirst⟩ i
    rcases lt_or_ge i k with hik | hki
    · exact opening_update_of_lt hik
    · by_cases hnone : ∀ d, k < d → d ≤ i → marks d = none
      · rw [opening_update_later hki hnone, hv]
        by_cases hunmarked : Unmarked marks k
        · rw [hfirst hunmarked i hki hnone, opening_of_unmarked hunmarked,
            opening_of_unmarked (hunmarked.later hnone), add_zero]
        · exact (opening_later hki hunmarked hnone).symm
      · push Not at hnone
        obtain ⟨d, hkd, hdi, hmark⟩ := hnone
        exact opening_update_of_mark hkd hdi hmark

end NewMark

end Checkpoints
