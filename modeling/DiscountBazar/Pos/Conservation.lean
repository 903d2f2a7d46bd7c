/-
How the amount due of a bill is split between the seller and the platform.

A sale takes the discount off the seller's part alone, which it does not let fall below nothing; an
edit scales the seller's part with the total and carries the platform's part over as it is.
-/
import DiscountBazar.Pos.Bills
import DiscountBazar.Lib.Run

namespace DiscountBazar.Pos

open Pricing Transaction Runs PosBill

/-! ## The property -/

/-- The amount due is split in full, the platform earns its commission, and no part is negative. -/
structure Conserved (bill : PosBill) : Prop where
  split : bill.paymentBreakdown.sellerPayoutTotal + bill.paymentBreakdown.adminProductCommissionTotal
    = bill.paymentBreakdown.grandTotal
  earning : bill.paymentBreakdown.platformTotalEarning
    = bill.paymentBreakdown.adminProductCommissionTotal
  seller : 0 ≤ bill.paymentBreakdown.sellerPayoutTotal
  commission : 0 ≤ bill.paymentBreakdown.adminProductCommissionTotal
  grand : 0 ≤ bill.paymentBreakdown.grandTotal

structure Edit where
  products : List PosProduct
  payload : PosPayload

/-- The bill after an edit; one that is refused leaves it. -/
def PosBill.edit (bill : PosBill) (edit : Edit) : PosBill :=
  ((editPosSale edit.products edit.payload bill).toOption).getD bill

/-! ## The condition -/

/-- What the lines of a sale are split into, before the discount. -/
def lineSplit (settings : PosSettings) (items : List HydratedPosItem) : ℤ :=
  (items.map (lineSellerPayout settings)).sum + (items.map (lineAdminCommission settings)).sum

/-- What is taken off the seller's part: the discount, less the tax on top of an exclusive bill. -/
def takenOff (totals : PosTotals) (isTaxInclusive : Bool) : ℤ :=
  totals.discountTotal - if isTaxInclusive then 0 else totals.taxTotal

def saleTotals (payload : PosPayload) (couponDiscount : ℚ) (items : List HydratedPosItem) : PosTotals :=
  computePosTotals (items.map HydratedPosItem.toBillLine)
    (some (items.map (fun item => roundCurrency item.amount)).sum)
    (couponDiscount + payload.discount.getD 0) payload.inclusive (some (payload.taxPercent.getD 0))
    (positiveTax payload.taxTotal)

/-- The discount takes no more than the seller's part, and each line costs what it is split into; or
what it takes too much makes up for the difference. -/
def SaleInOrder (settings : PosSettings) (payload : PosPayload) (couponDiscount : ℚ)
    (items : List HydratedPosItem) : Prop :=
  max (takenOff (saleTotals payload couponDiscount items) payload.inclusive
      - (items.map (lineSellerPayout settings)).sum) 0
    = (items.map (fun item => roundCurrency item.amount)).sum - lineSplit settings items

/-- There is no commission on the bill, or to the nearest paisa it is the same part of the amount
due after the edit as before. -/
def EditInOrder (bill : PosBill) (edit : Edit) : Prop :=
  ∀ newItems, edit.payload.items.mapM (editedLine edit.products bill) = .ok newItems →
    let commission := bill.paymentBreakdown.adminProductCommissionTotal
    let before := bill.paymentBreakdown.grandTotal
    let after := (editedTotals edit.payload bill newItems).grandTotal
    commission = 0 ∨
      (2 * commission - 1) * before < 2 * commission * after ∧
        2 * commission * after ≤ (2 * commission + 1) * before

/-! ## A sale -/

section Sale

variable {settings : PosSettings} {items : List HydratedPosItem}

theorem normalizeLinePrice_nonneg (value : ℚ) : 0 ≤ normalizeLinePrice value := by
  refine roundCurrency_nonneg (le_min (le_max_right _ _) ?_)
  norm_num [MAX_SAFE_INTEGER]

theorem subtotal_nonneg (item : HydratedItem) : 0 ≤ item.subtotal :=
  mul_nonneg (normalizeLinePrice_nonneg _) (Int.natCast_nonneg _)

theorem lineAdminCommission_nonneg (settings : PosSettings) (item : HydratedPosItem) :
    0 ≤ lineAdminCommission settings item := by
  unfold lineAdminCommission
  split
  · exact le_min (le_max_right _ _) (subtotal_nonneg _)
  · exact le_refl 0

theorem grandTotal_eq (lines : List BillLine) (subtotal : ℤ) (discount : ℚ) (isTaxInclusive : Bool)
    (taxPercent taxTotal : Option ℚ) :
    (computePosTotals lines (some subtotal) discount isTaxInclusive taxPercent taxTotal).grandTotal
      = subtotal - takenOff (computePosTotals lines (some subtotal) discount isTaxInclusive taxPercent
          taxTotal) isTaxInclusive := by
  unfold computePosTotals takenOff
  simp only [Option.getD_some]
  cases isTaxInclusive with
  | false =>
    simp only [Bool.false_eq_true, if_false]
    omega
  | true =>
    simp only [if_true]
    omega

def saleBreakdown (settings : PosSettings) (payload : PosPayload) (couponDiscount : ℚ)
    (items : List HydratedPosItem) : PosBreakdown :=
  buildPosBreakdown settings items (couponDiscount + payload.discount.getD 0)
    (some (payload.taxPercent.getD 0)) (positiveTax payload.taxTotal) payload.inclusive

/-- The seller's part, whatever the mode of the tax. -/
theorem sellerPayoutTotal_eq (settings : PosSettings) (payload : PosPayload) (couponDiscount : ℚ)
    (items : List HydratedPosItem) :
    (saleBreakdown settings payload couponDiscount items).sellerPayoutTotal
      = max ((items.map (lineSellerPayout settings)).sum
          - takenOff (saleTotals payload couponDiscount items) payload.inclusive) 0 := by
  unfold saleBreakdown buildPosBreakdown takenOff saleTotals
  cases payload.inclusive with
  | false =>
    simp only [Bool.false_eq_true, if_false]
    congr 1
    omega
  | true =>
    simp only [if_true]
    congr 1
    omega

theorem conserved_sale_iff (payload : PosPayload) (couponDiscount : ℚ) {bill : PosBill}
    (hbill : bill.paymentBreakdown = saleBreakdown settings payload couponDiscount items) :
    Conserved bill ↔
      SaleInOrder settings payload couponDiscount items := by
  have hcommission : 0 ≤ (items.map (lineAdminCommission settings)).sum := by
    refine List.sum_nonneg fun x hx => ?_
    obtain ⟨item, -, rfl⟩ := List.mem_map.mp hx
    exact lineAdminCommission_nonneg settings item
  have hgrand : (saleTotals payload couponDiscount items).grandTotal
      = (items.map (fun item => roundCurrency item.amount)).sum
        - takenOff (saleTotals payload couponDiscount items) payload.inclusive := grandTotal_eq ..
  have hseller := sellerPayoutTotal_eq settings payload couponDiscount items
  -- what is left of the seller's part and the commission make up the amount due
  have hiff : (saleBreakdown settings payload couponDiscount items).sellerPayoutTotal
        + (items.map (lineAdminCommission settings)).sum
          = (saleTotals payload couponDiscount items).grandTotal ↔
      SaleInOrder settings payload couponDiscount items := by
    rw [hgrand, hseller]
    unfold SaleInOrder lineSplit
    omega
  refine ⟨fun h => ?_, fun h => ?_⟩
  · have hsplit := h.split
    rw [hbill] at hsplit
    exact hiff.mp hsplit
  constructor
  · rw [hbill]
    exact hiff.mpr h
  · rw [hbill]
    rfl
  · rw [hbill, hseller]
    exact le_max_right _ _
  · rw [hbill]
    exact hcommission
  · rw [hbill]
    exact computePosTotals_nonneg ..

end Sale

/-! ## An edit -/

section Edits

variable {bill : PosBill}

theorem editPosSale_eq_ok {products : List PosProduct} {payload : PosPayload} {edited : PosBill}
    (h : editPosSale products payload bill = .ok edited) :
    ∃ newItems, payload.items.mapM (editedLine products bill) = .ok newItems ∧
      edited.paymentBreakdown.grandTotal = (editedTotals payload bill newItems).grandTotal ∧
      edited.paymentBreakdown.sellerPayoutTotal
        = roundCurrency (fromPaise (editedTotals payload bill newItems).grandTotal *
            payoutRatio bill.paymentBreakdown) ∧
      edited.paymentBreakdown.adminProductCommissionTotal
        = bill.paymentBreakdown.adminProductCommissionTotal ∧
      edited.paymentBreakdown.platformTotalEarning = bill.paymentBreakdown.platformTotalEarning := by
  unfold editPosSale at h
  rw [bind_eq_ok] at h
  obtain ⟨newItems, hitems, h⟩ := h
  cases h
  exact ⟨newItems, hitems, rfl, rfl, rfl, rfl⟩

theorem payoutRatio_nonneg (h : Conserved bill) : 0 ≤ payoutRatio bill.paymentBreakdown := by
  have hseller : (0 : ℚ) ≤ bill.paymentBreakdown.sellerPayoutTotal := by exact_mod_cast h.seller
  unfold payoutRatio
  split
  next hgrand =>
    have hgrand : (0 : ℚ) < bill.paymentBreakdown.grandTotal := by exact_mod_cast hgrand
    positivity
  next => exact zero_le_one

/-- A part that is rounded leaves the commission as it was exactly where the commission is the same
part of both amounts, to the nearest paisa. -/
theorem scaled_iff {before after seller commission : ℤ} (hbefore : 0 < before)
    (hsplit : seller + commission = before) :
    roundCurrency (fromPaise after * ((seller : ℚ) / before)) + commission = after ↔
      (2 * commission - 1) * before < 2 * commission * after ∧
        2 * commission * after ≤ (2 * commission + 1) * before := by
  have hpos : (0 : ℚ) < before := by exact_mod_cast hbefore
  have hseller : (seller : ℚ) = before - commission := by
    have hcast : (seller : ℚ) + commission = before := by exact_mod_cast hsplit
    linarith
  have hround : roundCurrency (fromPaise after * ((seller : ℚ) / before)) = after - commission ↔
      (2 * (commission : ℚ) - 1) * before < 2 * commission * after ∧
        2 * (commission : ℚ) * after ≤ (2 * commission + 1) * before := by
    unfold roundCurrency toPaise mathRound fromPaise
    rw [Int.floor_eq_iff, hseller]
    have hscaled : (after : ℚ) / 100 * ((before - commission) / before) * 100 + 1 / 2
        = after - after * commission / before + 1 / 2 := by
      field_simp
    rw [hscaled]
    push_cast
    have hlow : (after : ℚ) - commission ≤ after - after * commission / before + 1 / 2 ↔
        2 * (commission : ℚ) * after ≤ (2 * commission + 1) * before := by
      have hdiv : (after : ℚ) * commission / before ≤ commission + 1 / 2 ↔
          (after : ℚ) * commission ≤ (commission + 1 / 2) * before := div_le_iff₀ hpos
      constructor
      · intro h
        have := hdiv.mp (by linarith)
        linarith
      · intro h
        have := hdiv.mpr (by linarith)
        linarith
    have hhigh : (after : ℚ) - after * commission / before + 1 / 2 < after - commission + 1 ↔
        (2 * (commission : ℚ) - 1) * before < 2 * commission * after := by
      have hdiv : (commission : ℚ) - 1 / 2 < after * commission / before ↔
          ((commission : ℚ) - 1 / 2) * before < after * commission := lt_div_iff₀ hpos
      constructor
      · intro h
        have := hdiv.mp (by linarith)
        linarith
      · intro h
        have := hdiv.mpr (by linarith)
        linarith
    rw [hlow, hhigh]
    exact and_comm
  have hcast : ((2 * (commission : ℚ) - 1) * before < 2 * commission * after ∧
      2 * (commission : ℚ) * after ≤ (2 * commission + 1) * before) ↔
      ((2 * commission - 1) * before < 2 * commission * after ∧
        2 * commission * after ≤ (2 * commission + 1) * before) := by
    norm_cast
  rw [← hcast, ← hround]
  omega

theorem conserved_edit_iff (h : Conserved bill) (edit : Edit) :
    Conserved (bill.edit edit) ↔ EditInOrder bill edit := by
  unfold PosBill.edit EditInOrder
  cases hedit : editPosSale edit.products edit.payload bill with
  | error e =>
    -- the edit is refused, and the bill stays
    refine ⟨fun _ newItems hitems => ?_, fun _ => h⟩
    unfold editPosSale at hedit
    rw [hitems] at hedit
    cases hedit
  | ok edited =>
    obtain ⟨newItems, hitems, hgrand, hseller, hcommission, hearning⟩ := editPosSale_eq_ok hedit
    have hafter : 0 ≤ (editedTotals edit.payload bill newItems).grandTotal :=
      computePosTotals_nonneg ..
    have hsplit : edited.paymentBreakdown.sellerPayoutTotal
          + edited.paymentBreakdown.adminProductCommissionTotal
          = edited.paymentBreakdown.grandTotal ↔
        bill.paymentBreakdown.adminProductCommissionTotal = 0 ∨
          (2 * bill.paymentBreakdown.adminProductCommissionTotal - 1) * bill.paymentBreakdown.grandTotal
              < 2 * bill.paymentBreakdown.adminProductCommissionTotal
                * (editedTotals edit.payload bill newItems).grandTotal ∧
            2 * bill.paymentBreakdown.adminProductCommissionTotal
                * (editedTotals edit.payload bill newItems).grandTotal
              ≤ (2 * bill.paymentBreakdown.adminProductCommissionTotal + 1)
                * bill.paymentBreakdown.grandTotal := by
      rw [hseller, hcommission, hgrand]
      unfold payoutRatio
      split
      next hbefore =>
        rw [scaled_iff hbefore h.split]
        refine ⟨.inr, fun hcases => hcases.elim (fun hzero => ?_) id⟩
        rw [hzero]
        constructor
        · omega
        · omega
      next hbefore =>
        -- nothing was due, so there is no commission either
        have hgrand := h.grand
        have hsplit := h.split
        have hseller := h.seller
        have hzero := h.commission
        rw [mul_one, roundCurrency_fromPaise]
        refine ⟨fun _ => .inl (by omega), fun _ => by omega⟩
    constructor
    · intro hconserved newItems' hitems'
      cases hitems.symm.trans hitems'
      exact hsplit.mp hconserved.split
    · intro hcond
      refine ⟨hsplit.mpr (hcond newItems hitems), ?_, ?_, ?_, ?_⟩
      · exact hearning.trans (h.earning.trans hcommission.symm)
      · change 0 ≤ edited.paymentBreakdown.sellerPayoutTotal
        rw [hseller]
        refine roundCurrency_nonneg (mul_nonneg ?_ (payoutRatio_nonneg h))
        unfold fromPaise
        positivity
      · change 0 ≤ edited.paymentBreakdown.adminProductCommissionTotal
        rw [hcommission]
        exact h.commission
      · change 0 ≤ edited.paymentBreakdown.grandTotal
        rw [hgrand]
        exact hafter

end Edits

/-- Kettles, on which the platform takes a tenth. -/
def commissionedKettles : List PosProduct := [{ id := 1, name := "Kettle", headerId := some 5 }]

def tenth : PosSettings where
  commissionEnabled := true
  categories := fun _ => some { adminCommissionValue := some 10 }

def kettlesFor (quantity : ℕ+) : PosPayload where
  items := [{ productId := 1, quantity, price := (100 : ℕ) }]

/-- The bill of one kettle: 90 rupees are the seller's. -/
def oneKettle : PosBill where
  items := [⟨1, "", "Kettle", ⟨1, Nat.one_pos⟩, (100 : ℕ), 0⟩]
  isTaxInclusive := true
  paymentBreakdown := ⟨10000, 0, 0, true, 10000, 9000, 1000, 1000⟩

theorem oneKettle_hydrated : hydratePosItems commissionedKettles (kettlesFor 1).items
    = .ok [⟨⟨1, "", "Kettle", 1, 100, 0⟩, some 5⟩] := rfl

theorem oneKettle_sold :
    createPosSale commissionedKettles tenth (kettlesFor 1) 0 = .ok oneKettle := by
  decide +kernel

end DiscountBazar.Pos
