/-
Proportional shares that are rounded to whole units.

The exact shares of an amount by weights add up to the amount. Rounded one by one they add up
to it up to what rounding gains or loses on each of them; a last share that takes the rest makes
the sum exact and carries all of that error itself.
-/
import Mathlib.Algebra.BigOperators.Ring.List
import Mathlib.Algebra.Order.Floor.Ring
import Mathlib.Tactic.Ring

namespace Shares

open List

/-! ## Exact shares -/

section Exact

variable {K : Type*} [Field K]

/-- The share of a weight among others. -/
def exactShare (amount : K) (weights : List K) (weight : K) : K := amount * weight / weights.sum

theorem sum_exactShare {amount : K} {weights : List K} (h : weights.sum ≠ 0) :
    (weights.map (exactShare amount weights)).sum = amount := by
  have hshare : exactShare amount weights = fun w => amount / weights.sum * w := by
    funext w
    unfold exactShare
    ring
  rw [hshare, sum_map_mul_left, map_id', div_mul_cancel₀ _ h]

end Exact

/-! ## Rounding -/

section Round

variable {K : Type*} [Field K] [LinearOrder K] [FloorRing K]

/-- What rounding half up adds to a number. -/
def roundGain (x : K) : K := 1 / 2 - Int.fract (x + 1 / 2)

theorem floor_add_half (x : K) : (⌊x + 1 / 2⌋ : K) = x + roundGain x := by
  unfold roundGain Int.fract
  ring

/-- Rounded one by one, numbers add up to their sum and to what rounding gains. -/
theorem sum_floor_add_half (xs : List K) :
    ((xs.map (fun x => ⌊x + 1 / 2⌋)).sum : K) = xs.sum + (xs.map roundGain).sum := by
  induction xs with
  | nil => simp
  | cons x xs ih =>
    rw [map_cons, map_cons, sum_cons, sum_cons, sum_cons, Int.cast_add,
      ih, floor_add_half]
    ring

end Round

/-! ## A last share that takes the rest -/

section Rest

variable {A : Type*} [AddCommGroup A]

/-- The parts of a whole, of which the last is what the others leave. -/
def withRest : A → List A → List A
  | _, [] => []
  | left, [_] => [left]
  | left, part :: parts => part :: withRest (left - part) parts

theorem withRest_length (left : A) (parts : List A) :
    (withRest left parts).length = parts.length := by
  fun_induction withRest left parts with
  | case1 left => rfl
  | case2 left part => rfl
  | case3 left part parts hparts ih => rw [length_cons, length_cons, ih]

/-- All parts but the last stay as they are. -/
theorem withRest_concat (left : A) (parts : List A) (last : A) :
    withRest left (parts ++ [last]) = parts ++ [left - parts.sum] := by
  induction parts generalizing left with
  | nil =>
    rw [nil_append, nil_append, sum_nil, sub_zero]
    rfl
  | cons part parts ih =>
    obtain ⟨next, rest, h⟩ := exists_cons_of_ne_nil (concat_ne_nil last parts)
    rw [cons_append, cons_append, sum_cons, ← sub_sub, ← ih, h]
    rfl

/-- With the rest, the parts make the whole. -/
theorem sum_withRest {left : A} {parts : List A} (h : parts ≠ []) :
    (withRest left parts).sum = left := by
  rw [← dropLast_append_getLast h, withRest_concat, sum_append, sum_singleton,
    add_sub_cancel]

end Rest

/-! ## What is left of rounded shares -/

section Fits

variable {K : Type*} [Field K] [LinearOrder K] [FloorRing K]

/-- What the rounded shares leave of the whole is the last exact share without what the others
gained. -/
theorem rest_eq {xs : List K} {last : K} {amount : ℤ} (h : (xs ++ [last]).sum = amount) :
    ((amount - (xs.map (fun x => ⌊x + 1 / 2⌋)).sum : ℤ) : K) = last - (xs.map roundGain).sum := by
  rw [Int.cast_sub, sum_floor_add_half, ← h, sum_append, sum_singleton]
  ring

end Fits

end Shares
