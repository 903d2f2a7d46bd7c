/-
Purchase costs with and without GST (`money.js`).

A bill's line and a product may each keep a cost with GST in it or without. Where the line's cost
becomes the product's, the part before GST is to stay the same.
-/
import DiscountBazar.Pos.Totals

namespace DiscountBazar.Business

open Pricing Pos

/-! ## Conventions -/

/-- `{ rate, type }`: how a cost is kept. -/
structure GstConvention where
  rate : ℚ
  inclusive : Bool

def GstConvention.InRange (g : GstConvention) : Prop := 0 ≤ g.rate ∧ g.rate ≤ 100

/-- What an inclusive cost is of its base. -/
def GstConvention.factor (g : GstConvention) : ℚ := 1 + g.rate / 100

structure PurchaseGst where
  basePrice : ℤ
  gstAmount : ℤ
  finalPrice : ℤ

/-- An entered figure: `some none` is not a number, and `none`, also for an empty text, is zero. -/
abbrev Figure := Option (Option ℚ)

def Figure.read (v : Figure) : Option ℚ := v.getD (some 0)

/-- `computePurchaseGst`; its errors all have status 400. -/
def computePurchaseGst (purchasePrice gstRate : Figure) (inclusive : Bool) :
    Except String PurchaseGst := do
  let price ← (Figure.read purchasePrice).elim (throw "Purchase price must be a valid number") pure
  if price < 0 then throw "Purchase price cannot be negative"
  let rate ← (Figure.read gstRate).elim (throw "GST rate must be a valid number") pure
  if rate < 0 then throw "GST rate cannot be negative"
  if rate > 100 then throw "GST rate cannot be more than 100%"
  if inclusive then
    let basePrice := roundCurrency (price / (1 + rate / 100))
    return ⟨basePrice, toPaise price - basePrice, roundCurrency price⟩
  let gstAmount := percentOf (toPaise price) rate
  return ⟨roundCurrency price, gstAmount, addMoney price (fromPaise gstAmount)⟩

/-- `convertPurchaseCost`, from one convention to another. -/
def convertPurchaseCost (cost : ℚ) (source target : GstConvention) : ℤ :=
  -- the same convention: the entered figure stays as it is
  if source.inclusive = target.inclusive
      ∧ (source.rate = target.rate ∨ source.inclusive = false) then
    roundCurrency cost
  else
    let base := if source.inclusive then cost / source.factor else cost
    roundCurrency (if target.inclusive then base * target.factor else base)

def GstConvention.base (g : GstConvention) (price : ℚ) : ℤ :=
  roundCurrency (if g.inclusive then price / g.factor else price)

section Costs

variable {g source target : GstConvention}

theorem GstConvention.InRange.factor_bounds (h : g.InRange) : 1 ≤ g.factor ∧ g.factor ≤ 2 := by
  obtain ⟨hlow, hhigh⟩ := h
  unfold GstConvention.factor
  constructor
  · linarith
  · linarith

theorem computePurchaseGst_base {price : ℚ} (hprice : 0 ≤ price) (h : g.InRange) :
    ∃ b, computePurchaseGst (some (some price)) (some (some g.rate)) g.inclusive = .ok b ∧
      b.basePrice = g.base price := by
  obtain ⟨hlow, hhigh⟩ := h
  unfold computePurchaseGst GstConvention.base GstConvention.factor
  simp only [Figure.read, Option.getD_some, Option.elim_some, pure_bind, if_neg (not_lt.mpr hprice),
    if_neg (not_lt.mpr hlow), if_neg (not_lt.mpr hhigh)]
  cases g.inclusive with
  | true => exact ⟨_, rfl, rfl⟩
  | false => exact ⟨_, rfl, rfl⟩

theorem roundCurrency_eq {x : ℚ} {p : ℤ} (hlow : p - 1 / 2 ≤ x * 100)
    (hhigh : x * 100 < p + 1 / 2) : roundCurrency x = p := by
  unfold roundCurrency toPaise mathRound
  rw [Int.floor_eq_iff]
  constructor
  · linarith
  · linarith

theorem fromPaise_roundCurrency (x : ℚ) : |fromPaise (roundCurrency x) - x| ≤ 1 / 200 := by
  obtain ⟨hlow, hhigh⟩ := lt_roundCurrency x
  unfold fromPaise
  rw [abs_le]
  constructor
  · linarith
  · linarith

theorem convertPurchaseCost_to_inclusive (hs : source.inclusive = false)
    (ht : target.inclusive = true) (cost : ℚ) :
    convertPurchaseCost cost source target = roundCurrency (cost * target.factor) := by
  simp [convertPurchaseCost, hs, ht]

theorem convertPurchaseCost_to_exclusive (hs : source.inclusive = true)
    (ht : target.inclusive = false) (cost : ℚ) :
    convertPurchaseCost cost source target = roundCurrency (cost / source.factor) := by
  simp [convertPurchaseCost, hs, ht]

theorem round_trip_exclusive (cost : ℤ) {k : ℚ} (hk : 1 ≤ k) :
    roundCurrency (fromPaise (roundCurrency (fromPaise cost * k)) / k) = cost := by
  obtain ⟨hlow, hhigh⟩ := lt_roundCurrency (fromPaise cost * k)
  have hpaise : fromPaise cost * k * 100 = cost * k := by
    unfold fromPaise
    ring
  rw [hpaise] at hlow hhigh
  set m := roundCurrency (fromPaise cost * k)
  have hpos : 0 < k := by linarith
  have hback : fromPaise m / k * 100 = m / k := by
    unfold fromPaise
    ring
  apply roundCurrency_eq
  · rw [hback, le_div_iff₀ hpos]
    linarith
  · rw [hback, div_lt_iff₀ hpos]
    rcases hk.lt_or_eq with hlt | rfl
    · linarith
    · -- without GST the cost is in whole paise already
      have hle : m ≤ cost := by
        have hlt : m < cost + 1 := by
          have : (m : ℚ) < ((cost + 1 : ℤ) : ℚ) := by
            push_cast
            linarith
          exact_mod_cast this
        omega
      have hle' : (m : ℚ) ≤ cost := by exact_mod_cast hle
      linarith

theorem round_mul_near (x : ℚ) {k : ℚ} (hk : 0 ≤ k ∧ k ≤ 2) :
    |fromPaise (roundCurrency x) * k - x * k| ≤ 1 / 100 := by
  rw [← sub_mul, abs_mul, abs_of_nonneg hk.1]
  have hround := fromPaise_roundCurrency x
  have habs := abs_nonneg (fromPaise (roundCurrency x) - x)
  nlinarith

theorem base_convertPurchaseCost (cost : ℤ) (ht : target.InRange) :
    |source.base (fromPaise cost)
      - target.base (fromPaise (convertPurchaseCost (fromPaise cost) source target))| ≤ 1 := by
  have hsame : ∀ x : ℤ, |x - x| ≤ 1 := fun x => by simp
  have hk := ht.factor_bounds
  cases hsi : source.inclusive with
  | false =>
    cases hti : target.inclusive with
    | false =>
      have hconv : convertPurchaseCost (fromPaise cost) source target = cost := by
        simp [convertPurchaseCost, hsi, hti]
      simp only [GstConvention.base, hsi, hti, hconv]
      exact hsame _
    | true =>
      rw [convertPurchaseCost_to_inclusive hsi hti]
      simp only [GstConvention.base, hsi, hti, if_true, round_trip_exclusive cost hk.1]
      rw [if_neg Bool.false_ne_true, roundCurrency_fromPaise]
      exact hsame _
  | true =>
    cases hti : target.inclusive with
    | false =>
      rw [convertPurchaseCost_to_exclusive hsi hti]
      simp only [GstConvention.base, hsi, hti, if_true]
      rw [if_neg Bool.false_ne_true, roundCurrency_fromPaise]
      exact hsame _
    | true =>
      simp only [GstConvention.base, hsi, hti, if_true]
      apply roundCurrency_near
      have hpos : target.factor ≠ 0 := by linarith [hk.1]
      by_cases hrate : source.rate = target.rate
      · have hconv : convertPurchaseCost (fromPaise cost) source target = cost := by
          simp [convertPurchaseCost, hsi, hti, hrate]
        rw [hconv, GstConvention.factor, GstConvention.factor, hrate, sub_self, abs_zero]
        norm_num
      · have hconv : convertPurchaseCost (fromPaise cost) source target
            = roundCurrency (fromPaise cost / source.factor * target.factor) := by
          simp [convertPurchaseCost, hsi, hti, hrate]
        have hinv : 0 ≤ target.factor⁻¹ ∧ target.factor⁻¹ ≤ 2 :=
          ⟨by linarith [inv_nonneg.mpr (zero_le_one.trans hk.1)],
            (inv_le_one_of_one_le₀ hk.1).trans one_le_two⟩
        have hnear := round_mul_near (fromPaise cost / source.factor * target.factor) hinv
        rw [mul_inv_cancel_right₀ hpos] at hnear
        rw [hconv, abs_sub_comm, div_eq_mul_inv (fromPaise (roundCurrency _))]
        exact hnear

end Costs

end DiscountBazar.Business
