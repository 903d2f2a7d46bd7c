/-
Sums by key.

Rows that are added up for each key apart come to as much as all rows, where the keys cover them.
-/
import Mathlib.Algebra.BigOperators.Group.List.Basic
import Mathlib.Algebra.Ring.Int.Defs
import Mathlib.Data.List.Dedup

namespace DiscountBazar

open List

variable {ρ κ M : Type} [DecidableEq κ] [AddCommMonoid M]

/-- What the rows of a key come to. -/
def sumAt (key : ρ → κ) (f : ρ → M) (rows : List ρ) (k : κ) : M :=
  ((rows.filter (fun r => decide (key r = k))).map f).sum

theorem sumAt_cons (key : ρ → κ) (f : ρ → M) (r : ρ) (rows : List ρ) (k : κ) :
    sumAt key f (r :: rows) k = (if k = key r then f r else 0) + sumAt key f rows k := by
  unfold sumAt
  by_cases h : key r = k
  · simp [h]
  · simp [h, Ne.symm h]

theorem sum_eq_sumAt (key : ρ → κ) (f : ρ → M) {keys : List κ} (hkeys : keys.Nodup) {rows : List ρ}
    (hcover : ∀ r ∈ rows, key r ∈ keys) : (rows.map f).sum = (keys.map (sumAt key f rows)).sum := by
  induction rows with
  | nil =>
    refine (sum_eq_zero (fun x hx => ?_)).symm
    obtain ⟨k, -, rfl⟩ := mem_map.mp hx
    rfl
  | cons r rows ih =>
    have hrest := ih (fun x hx => hcover x (mem_cons_of_mem _ hx))
    -- only the key of the first row counts it, and it is there once
    have hone : (keys.map (fun k => if k = key r then f r else 0)).sum = f r := by
      rw [sum_map_eq_nsmul_single (key r) _ (fun k hk _ => if_neg hk),
        count_eq_one_of_mem hkeys (hcover r mem_cons_self), if_pos rfl, one_nsmul]
    rw [map_congr_left (fun k _ => sumAt_cons key f r rows k), sum_map_add, ← hrest, hone,
      map_cons, sum_cons]

/-- Quantities that are weighted by their keys, with the quantities of each key summed up first. -/
theorem sum_weighted (key : ρ → κ) (quantity : ρ → ℤ) (weight : κ → ℤ) {keys : List κ}
    (hkeys : keys.Nodup) {rows : List ρ} (hcover : ∀ r ∈ rows, key r ∈ keys) :
    (rows.map (fun r => quantity r * weight (key r))).sum
      = (keys.map (fun k =>
        (rows.map (fun r => if key r = k then quantity r else 0)).sum * weight k)).sum := by
  rw [sum_eq_sumAt key _ hkeys hcover]
  refine congrArg sum (map_congr_left (fun k _ => ?_))
  clear hcover
  induction rows with
  | nil => simp [sumAt]
  | cons r rows ih =>
    rw [sumAt_cons, ih, map_cons, sum_cons, Int.add_mul]
    by_cases h : key r = k
    · rw [if_pos h.symm, if_pos h, h]
    · rw [if_neg (Ne.symm h), if_neg h, Int.zero_mul]

/-- Where the rows of each key come to nothing, all of them do. -/
theorem sum_eq_zero_of_sumAt (key : ρ → κ) (f : ρ → M) {rows : List ρ}
    (h : ∀ k, sumAt key f rows k = 0) : (rows.map f).sum = 0 := by
  rw [sum_eq_sumAt key f (nodup_dedup (rows.map key))
    (fun r hr => mem_dedup.mpr (mem_map_of_mem hr))]
  refine sum_eq_zero (fun x hx => ?_)
  obtain ⟨k, -, rfl⟩ := mem_map.mp hx
  exact h k

end DiscountBazar
