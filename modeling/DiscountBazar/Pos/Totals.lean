/-
The laws of a bill's totals (`posTax.js`).

A discount is within the subtotal, no tax is negative, and the tax inside a price is within what
is left of the price. The lines are taxed on what they cost before it is rounded, so one rate on
all lines and the same rate on the bill may come to taxes that differ, by no more than a paisa.
-/
import DiscountBazar.Pos.Bills
import Mathlib.Algebra.BigOperators.Ring.List

namespace DiscountBazar.Pos

open Pricing List

/-! ## Rounding -/

theorem roundCurrency_le_of_lt {x : ℚ} {p : ℤ} (h : x * 100 < p + 1 / 2) : roundCurrency x ≤ p := by
  unfold roundCurrency toPaise mathRound
  rw [← Int.lt_add_one_iff, Int.floor_lt]
  push_cast
  linarith

theorem lt_roundCurrency (x : ℚ) :
    x * 100 < roundCurrency x + 1 / 2 ∧ (roundCurrency x : ℚ) ≤ x * 100 + 1 / 2 := by
  unfold roundCurrency toPaise mathRound
  constructor
  · have := Int.lt_floor_add_one (x * 100 + 1 / 2)
    linarith
  · exact Int.floor_le _

theorem roundCurrency_near {x y : ℚ} (h : |x - y| ≤ 1 / 100) :
    |roundCurrency x - roundCurrency y| ≤ 1 := by
  have hshift : ∀ z : ℚ, roundCurrency (z + 1 / 100) = roundCurrency z + 1 := by
    intro z
    have hpaisa : (1 : ℚ) / 100 = fromPaise 1 := by norm_num [fromPaise]
    rw [hpaisa, add_comm z, roundCurrency_fromPaise_add, add_comm]
  obtain ⟨hle, hge⟩ := abs_le.mp h
  have hup := roundCurrency_mono (show x ≤ y + 1 / 100 by linarith)
  have hdown := roundCurrency_mono (show y ≤ x + 1 / 100 by linarith)
  rw [hshift] at hup hdown
  rw [abs_le]
  omega

/-! ## Tax -/

section Tax

variable {isTaxInclusive : Bool}

def taxPart (isTaxInclusive : Bool) (rate : ℚ) : ℚ :=
  if isTaxInclusive then rate / (100 + rate) else rate / 100

theorem taxOn_eq (isTaxInclusive : Bool) (amount : ℚ) {rate : ℚ} (hrate : 0 ≤ rate) :
    taxOn isTaxInclusive amount rate = amount * taxPart isTaxInclusive rate := by
  unfold taxOn taxPart
  have hbase : 100 + rate ≠ 0 := by linarith
  by_cases hzero : 0 < rate
  · rw [if_neg (not_not.mpr hzero)]
    split
    · field_simp
      ring
    · ring
  · have hrate' : rate = 0 := le_antisymm (not_lt.mp hzero) hrate
    rw [if_pos hzero, hrate']
    split <;> norm_num

theorem taxPart_nonneg (isTaxInclusive : Bool) {rate : ℚ} (hrate : 0 ≤ rate) :
    0 ≤ taxPart isTaxInclusive rate := by
  unfold taxPart
  split <;> positivity

theorem taxPart_le_one {rate : ℚ} (hrate : 0 ≤ rate) : taxPart true rate ≤ 1 := by
  unfold taxPart
  rw [if_pos rfl, div_le_one (by linarith)]
  linarith

theorem taxOn_inclusive_le {amount rate : ℚ} (hamount : 0 ≤ amount) (hrate : 0 ≤ rate) :
    taxOn true amount rate ≤ amount := by
  rw [taxOn_eq true amount hrate]
  exact mul_le_of_le_one_right hamount (taxPart_le_one hrate)

end Tax

/-! ## The laws -/

section Laws

variable {lines : List BillLine}

def cost (lines : List BillLine) : ℚ := (lines.map BillLine.amount).sum

theorem cost_nonneg (lines : List BillLine) : 0 ≤ cost lines := by
  refine sum_nonneg fun x hx => ?_
  obtain ⟨line, -, rfl⟩ := mem_map.mp hx
  exact line.amount_nonneg

variable {taxable : ℤ}

theorem cost_mul_share (htaxable : 0 ≤ taxable) (hle : taxable ≤ roundCurrency (cost lines)) :
    cost lines * share (roundCurrency (cost lines)) taxable * 100 < taxable + 1 / 2 ∧
      (taxable : ℚ) ≤ cost lines * share (roundCurrency (cost lines)) taxable * 100 + 1 / 2 := by
  obtain ⟨hlt, hge⟩ := lt_roundCurrency (cost lines)
  have htaxable' : (0 : ℚ) ≤ taxable := by exact_mod_cast htaxable
  unfold share
  split
  next hpos =>
    have hpos' : (0 : ℚ) < roundCurrency (cost lines) := by exact_mod_cast hpos
    have hle' : (taxable : ℚ) ≤ roundCurrency (cost lines) := by exact_mod_cast hle
    generalize (roundCurrency (cost lines) : ℚ) = gross at *
    have hratio : 0 ≤ (taxable : ℚ) / gross := div_nonneg htaxable' hpos'.le
    have hone : (taxable : ℚ) / gross ≤ 1 := (div_le_one hpos').mpr hle'
    have hwhole : gross * ((taxable : ℚ) / gross) = taxable := mul_div_cancel₀ _ hpos'.ne'
    constructor
    · rcases hratio.eq_or_lt with hzero | hratio
      · rw [← hzero, mul_zero, zero_mul]
        linarith
      · nlinarith
    · nlinarith
  next hpos =>
    have hzero : taxable = 0 := by omega
    rw [hzero, mul_zero, zero_mul]
    norm_num

/-- What holds of the totals of every bill. -/
structure Lawful (isTaxInclusive : Bool) (t : PosTotals) : Prop where
  discount_nonneg : 0 ≤ t.discountTotal
  discount_le : t.discountTotal ≤ t.subtotal
  tax_nonneg : 0 ≤ t.taxTotal
  tax_le : isTaxInclusive = true → t.taxTotal ≤ t.subtotal - t.discountTotal
  grandTotal : t.grandTotal
    = if isTaxInclusive then t.subtotal - t.discountTotal else t.subtotal - t.discountTotal + t.taxTotal

theorem lineTax_le (htaxable : 0 ≤ taxable) (hle : taxable ≤ roundCurrency (cost lines)) :
    lineTax true lines (share (roundCurrency (cost lines)) taxable) ≤ taxable := by
  have hshare : 0 ≤ share (roundCurrency (cost lines)) taxable := share_nonneg htaxable
  refine roundCurrency_le_of_lt (lt_of_le_of_lt ?_ (cost_mul_share htaxable hle).1)
  refine mul_le_mul_of_nonneg_right ?_ (by norm_num)
  unfold cost
  rw [← sum_map_mul_right]
  refine sum_le_sum fun line _ => ?_
  exact taxOn_inclusive_le (mul_nonneg line.amount_nonneg hshare) (NNRat.coe_nonneg _)

theorem billTax_le (htaxable : 0 ≤ taxable) (hle : taxable ≤ roundCurrency (cost lines))
    (taxPercent taxTotal : Option ℚ) :
    billTax lines (roundCurrency (cost lines)) taxable true taxPercent taxTotal ≤ taxable := by
  unfold billTax
  split
  next sent => exact min_le_right _ _
  next =>
    split
    next hrate =>
      have hamount : 0 ≤ fromPaise taxable := fromPaise_nonneg htaxable
      have hround := roundCurrency_mono (taxOn_inclusive_le hamount hrate.le)
      rwa [roundCurrency_fromPaise] at hround
    next => exact lineTax_le htaxable hle

theorem lineTax_of_rate (isTaxInclusive : Bool) {rate : ℚ≥0}
    (hrate : ∀ line ∈ lines, line.gstPercent = rate) (part : ℚ) :
    lineTax isTaxInclusive lines part
      = roundCurrency (cost lines * part * taxPart isTaxInclusive rate) := by
  unfold lineTax cost
  rw [← sum_map_mul_right, ← sum_map_mul_right]
  refine congrArg (fun l => roundCurrency (sum l)) (map_congr_left fun line hline => ?_)
  rw [hrate line hline]
  exact taxOn_eq isTaxInclusive _ (NNRat.coe_nonneg rate)

theorem lineTax_near (htaxable : 0 ≤ taxable) (hle : taxable ≤ roundCurrency (cost lines))
    (isTaxInclusive : Bool) {rate : ℚ≥0} (hrate : ∀ line ∈ lines, line.gstPercent = rate)
    (hpart : taxPart isTaxInclusive rate ≤ 2) :
    |lineTax isTaxInclusive lines (share (roundCurrency (cost lines)) taxable)
      - roundCurrency (taxOn isTaxInclusive (fromPaise taxable) rate)| ≤ 1 := by
  have hrate' : (0 : ℚ) ≤ rate := NNRat.coe_nonneg rate
  have hpart' := taxPart_nonneg isTaxInclusive hrate'
  obtain ⟨hlt, hge⟩ := cost_mul_share htaxable hle
  rw [lineTax_of_rate isTaxInclusive hrate, taxOn_eq isTaxInclusive _ hrate']
  refine roundCurrency_near ?_
  have hpaise : fromPaise taxable * 100 = taxable := by
    unfold fromPaise
    ring
  rw [← sub_mul, abs_mul, abs_of_nonneg hpart']
  have hhalf : |cost lines * share (roundCurrency (cost lines)) taxable - fromPaise taxable|
      ≤ 1 / 200 := by
    rw [abs_le]
    constructor <;> linarith
  calc |cost lines * share (roundCurrency (cost lines)) taxable - fromPaise taxable|
        * taxPart isTaxInclusive rate
      ≤ 1 / 200 * 2 := mul_le_mul hhalf hpart hpart' (by norm_num)
    _ = 1 / 100 := by norm_num

/-- What is left of the subtotal after the discount is within it. -/
theorem taxable_bounds (lines : List BillLine) (discount : ℚ) :
    0 ≤ roundCurrency (cost lines) - min (roundCurrency (max 0 discount)) (roundCurrency (cost lines)) ∧
      roundCurrency (cost lines) - min (roundCurrency (max 0 discount)) (roundCurrency (cost lines))
        ≤ roundCurrency (cost lines) := by
  have hdiscount : 0 ≤ roundCurrency (max 0 discount) := roundCurrency_nonneg (le_max_left ..)
  have hcost : 0 ≤ roundCurrency (cost lines) := roundCurrency_nonneg (cost_nonneg lines)
  omega

theorem computePosTotals_lawful (lines : List BillLine) (discount : ℚ) (isTaxInclusive : Bool)
    (taxPercent taxTotal : Option ℚ) :
    Lawful isTaxInclusive (computePosTotals lines none discount isTaxInclusive taxPercent taxTotal) := by
  have hdiscount : 0 ≤ roundCurrency (max 0 discount) := roundCurrency_nonneg (le_max_left ..)
  have hcost : 0 ≤ roundCurrency (cost lines) := roundCurrency_nonneg (cost_nonneg lines)
  obtain ⟨htaxable, hle⟩ := taxable_bounds lines discount
  refine ⟨le_min hdiscount hcost, min_le_right _ _, ?_, ?_, rfl⟩
  · exact billTax_nonneg lines _ htaxable isTaxInclusive taxPercent taxTotal
  · rintro rfl
    exact billTax_le htaxable hle taxPercent taxTotal

/-- Two bills' totals are the same but for a paisa of tax. -/
structure SameTotals (t t' : PosTotals) : Prop where
  subtotal : t.subtotal = t'.subtotal
  discountTotal : t.discountTotal = t'.discountTotal
  taxTotal : |t.taxTotal - t'.taxTotal| ≤ 1

/-- The totals of every bill are lawful; and where all lines have one rate, the lines' rates make the
same totals as that rate for the whole bill. A rate is at most 100; on a bill whose prices have no
tax in them the last holds up to 200. -/
theorem posTotals_laws (lines : List BillLine) (discount : ℚ) (isTaxInclusive : Bool)
    (taxPercent taxTotal : Option ℚ) :
    Lawful isTaxInclusive (computePosTotals lines none discount isTaxInclusive taxPercent taxTotal) ∧
      ∀ rate : ℚ≥0, (∀ line ∈ lines, line.gstPercent = rate) → (isTaxInclusive = true ∨ rate ≤ 200) →
        taxPercent.getD 0 ≤ 0 →
        SameTotals (computePosTotals lines none discount isTaxInclusive taxPercent none)
          (computePosTotals lines none discount isTaxInclusive (some rate) none) := by
  refine ⟨computePosTotals_lawful lines discount isTaxInclusive taxPercent taxTotal, ?_⟩
  intro rate hrate hbound hpercent
  refine ⟨rfl, rfl, ?_⟩
  obtain ⟨htaxable, hle⟩ := taxable_bounds lines discount
  have hpart : taxPart isTaxInclusive rate ≤ 2 := by
    rcases hbound with rfl | hbound
    · exact (taxPart_le_one (NNRat.coe_nonneg rate)).trans (by norm_num)
    · have hrate' : (rate : ℚ) ≤ 200 := by exact_mod_cast hbound
      have hnonneg : (0 : ℚ) ≤ rate := NNRat.coe_nonneg rate
      unfold taxPart
      split
      · rw [div_le_iff₀ (by linarith)]
        linarith
      · linarith
  unfold computePosTotals billTax
  dsimp only [Option.getD_none, Option.getD_some]
  rw [if_neg (not_lt.mpr hpercent)]
  split
  · exact lineTax_near htaxable hle isTaxInclusive hrate hpart
  · -- a rate of 0 is no rate for the bill, and the lines' rates count again
    rw [sub_self, abs_zero]
    norm_num

end Laws

def pencils : List BillLine :=
  [{ product := 1, variantSlot := "", quantity := 13, price := 67 / 200, gstPercent := (18 : ℕ) }]

/-- The laws for pencils that are sold with tax on top. -/
theorem posTotals_laws_pencils :
    Lawful false (computePosTotals pencils none (1 / 10) false none none) ∧
      SameTotals (computePosTotals pencils none (1 / 10) false none none)
        (computePosTotals pencils none (1 / 10) false (some 18) none) := by
  obtain ⟨hlawful, hsame⟩ := posTotals_laws pencils (1 / 10) false none none
  exact ⟨hlawful, hsame 18 (by decide) (.inr (by decide +kernel)) (le_refl 0)⟩

end DiscountBazar.Pos
