/-
How often a checkout rounds a customer's total up.

A seller's first total is rounded up to whole rupees at once. The handling fee of the checkout
replaces it by the exact amount, and then only the last pass rounds; but where the checkout has
no handling fee that pass is skipped, and the rebate and the tip change a total that is rounded
already.
-/
import DiscountBazar.Pricing.Redemption

namespace DiscountBazar.Pricing

open Shares Transaction CouponResult List

/-- What a breakdown charges the customer for, before any rounding. -/
def Breakdown.charged (b : Breakdown) : ℤ :=
  b.productSubtotal + b.deliveryFeeCharged + b.handlingFeeCharged - b.discountTotal + b.taxTotal
    + b.tipTotal

def Breakdown.excess (b : Breakdown) : ℤ := b.grandTotal - b.charged

/-- What rounding a seller's first total adds to the charges; with redemption on, a total below 0
counts as nothing. -/
def firstRounding (flags : Flags) (charged : ℤ) : ℤ :=
  (if flags.walletRedemptionReducesPayable then max 0 (mathCeil charged) else mathCeil charged) - charged

/-- Rounding adds nothing to an amount that was rounded already exactly where the amount itself
lacks as much to a whole rupee. -/
theorem mathCeil_add_eq_iff {a excess : ℤ} (h : 0 ≤ excess) :
    mathCeil (a + excess) = mathCeil a ↔ excess ≤ -a % 100 := by
  unfold mathCeil
  omega

theorem firstRounding_nonneg (flags : Flags) (charged : ℤ) : 0 ≤ firstRounding flags charged := by
  have hceil := le_mathCeil charged
  unfold firstRounding
  split
  · exact sub_nonneg.mpr (hceil.trans (le_max_right ..))
  · exact sub_nonneg.mpr hceil

/-- Redemption takes a total below 0 off itself. -/
theorem firstTotal_eq (flags : Flags) (charged : ℤ) :
    mathCeil (mathCeil charged
        - (if flags.walletRedemptionReducesPayable then min 0 (mathCeil charged) else 0))
      = if flags.walletRedemptionReducesPayable then max 0 (mathCeil charged) else mathCeil charged := by
  split
  · rcases le_total 0 (mathCeil charged) with h | h
    · rw [min_eq_left h, max_eq_right h, sub_zero, mathCeil_mathCeil]
    · rw [min_eq_right h, max_eq_left h, sub_self]
      rfl
  · rw [sub_zero, mathCeil_mathCeil]

/-- A breakdown as a seller's cart starts with it. -/
structure FirstPriced (flags : Flags) (b : Breakdown) : Prop where
  tip : b.tipTotal = 0
  delivery : 0 ≤ b.deliveryFeeCharged
  tax : 100 ∣ b.taxTotal
  total : b.excess = firstRounding flags b.charged

theorem firstPriced_entryAt (store : Store) (items : List HydratedItem) (d : ℤ) (s : ObjectId)
    (km : ℚ) : FirstPriced store.flags (entryAt store items d s km).breakdown where
  tip := rfl
  delivery := add_nonneg (calculateCustomerDeliveryFee_nonneg km _) (le_quoteCartProductDelivery _ [] 0)
  tax := dvd_mathCeil _
  total := by
    unfold Breakdown.excess firstRounding entryAt Breakdown.charged
    dsimp only [generateOrderPaymentBreakdown]
    rw [add_zero]
    exact congrArg₂ _ (firstTotal_eq store.flags _) rfl

/-! ## The passes -/

section Passes

variable {b : Breakdown} {entries : List SellerEntry}

def rebate (freeDelivery : Bool) (b : Breakdown) : ℤ := if freeDelivery then b.deliveryFeeCharged else 0

def tipShares (tip : ℤ) (totals : List ℤ) : List ℤ :=
  if tip ≤ 0 then totals.map (fun _ => 0)
  else withRest tip (totals.map (fun t => shareOf tip t totals.sum))

theorem setHandlingFee_excess (htip : b.tipTotal = 0) (fee : ℤ) :
    (b.setHandlingFee fee).excess = 0 := by
  unfold Breakdown.excess Breakdown.charged Breakdown.setHandlingFee
  dsimp only
  omega

theorem freeDelivery_excess (b : Breakdown) : b.freeDelivery.excess = b.excess := by
  unfold Breakdown.freeDelivery
  split
  · rfl
  · unfold Breakdown.excess Breakdown.charged
    dsimp only
    omega

theorem freeDelivery_charged (h : 0 ≤ b.deliveryFeeCharged) :
    b.freeDelivery.charged = b.charged - b.deliveryFeeCharged := by
  unfold Breakdown.freeDelivery
  split
  · omega
  · unfold Breakdown.charged
    dsimp only
    omega

theorem freeDelivery_taxTotal (b : Breakdown) : b.freeDelivery.taxTotal = b.taxTotal := by
  unfold Breakdown.freeDelivery
  split <;> rfl

theorem addTip_charged (b : Breakdown) (tip : ℤ) : (b.addTip tip).charged = b.charged + tip := by
  unfold Breakdown.charged Breakdown.addTip
  dsimp only
  omega

theorem addTip_excess (b : Breakdown) (tip : ℤ) : (b.addTip tip).excess = b.excess := by
  unfold Breakdown.excess
  rw [addTip_charged]
  unfold Breakdown.addTip
  dsimp only
  omega

theorem addTip_zero (b : Breakdown) : b.addTip 0 = b := by
  unfold Breakdown.addTip
  simp only [add_zero]

theorem allocateCheckoutTip_eq (entries : List SellerEntry) (tip : ℚ) :
    allocateCheckoutTip entries tip
      = zipWith (fun e a => e.mapBreakdown (fun b => b.addTip a)) entries
          (tipShares (round2 tip) (totals entries)) := by
  unfold allocateCheckoutTip tipShares
  split
  · rw [totals, map_map, zipWith_map_right, zipWith_self]
    simp only [SellerEntry.mapBreakdown, Function.comp_apply, addTip_zero]
    exact (map_id' entries).symm
  · rw [allocateTip_eq, sub_zero]
    rfl

theorem roundUp_grandTotal_iff (htax : 100 ∣ b.taxTotal) (hexcess : 0 ≤ b.excess) :
    b.roundUp.grandTotal = mathCeil b.roundUp.charged ↔ b.excess ≤ -b.charged % 100 := by
  have hcharged : b.roundUp.charged = b.charged := by
    unfold Breakdown.charged Breakdown.roundUp
    dsimp only
    rw [mathCeil_eq_self.mpr htax]
  have htotal : b.roundUp.grandTotal = mathCeil (b.charged + b.excess) := by
    unfold Breakdown.excess
    rw [add_sub_cancel]
    rfl
  rw [hcharged, htotal, mathCeil_add_eq_iff hexcess]

end Passes

/-! ## The checkout -/

/-- Rounding the first total costs no seller's customer more than rounding the last one does:
what it adds to the charges is within what the charges, less the rebate and with the share of the
tip, lack to a whole rupee. -/
def RoundedOnce (flags : Flags) (freeDelivery : Bool) (tip : ℤ) (started : List SellerEntry) : Prop :=
  ∀ p ∈ started.zip (tipShares tip (started.map (fun e => e.breakdown.charged
      + firstRounding flags e.breakdown.charged - rebate freeDelivery e.breakdown))),
    firstRounding flags p.1.breakdown.charged
      ≤ -(p.1.breakdown.charged - rebate freeDelivery p.1.breakdown + p.2) % 100

section Checkout

variable {store : Store} {r : PricingRequest} {items : List HydratedItem}
  {coupon : Option CouponResult} {started : List SellerEntry}

theorem forall_mem_zipWith {α β γ : Type*} {f : α → β → γ} {P : γ → Prop} {as : List α} {bs : List β} :
    (∀ c ∈ zipWith f as bs, P c) ↔ ∀ p ∈ as.zip bs, P (f p.1 p.2) := by
  rw [← map_uncurry_zip_eq_zipWith, forall_mem_map]
  rfl

def delivered (freeDelivery : Bool) (e : SellerEntry) : SellerEntry :=
  if freeDelivery then e.mapBreakdown Breakdown.freeDelivery else e

theorem delivered_map (freeDelivery : Bool) (entries : List SellerEntry) :
    (if freeDelivery then applyFreeDelivery entries else entries)
      = entries.map (delivered freeDelivery) := by
  cases freeDelivery with
  | true => rfl
  | false => exact (map_id' entries).symm

theorem delivered_charged (freeDelivery : Bool) {e : SellerEntry}
    (h : 0 ≤ e.breakdown.deliveryFeeCharged) :
    (delivered freeDelivery e).breakdown.charged
      = e.breakdown.charged - rebate freeDelivery e.breakdown := by
  cases freeDelivery with
  | true => exact freeDelivery_charged h
  | false => exact (sub_zero _).symm

theorem delivered_excess (freeDelivery : Bool) (e : SellerEntry) :
    (delivered freeDelivery e).breakdown.excess = e.breakdown.excess := by
  cases freeDelivery with
  | true => exact freeDelivery_excess _
  | false => rfl

theorem delivered_taxTotal (freeDelivery : Bool) (e : SellerEntry) :
    (delivered freeDelivery e).breakdown.taxTotal = e.breakdown.taxTotal := by
  cases freeDelivery with
  | true => exact freeDelivery_taxTotal _
  | false => rfl

/-- Without wallet money the last stage is the tipped one, rounded. -/
theorem stagesOf_rounded (hwallet : r.walletAmount = 0) :
    (stagesOf store r items coupon started).rounded
      = roundUpAll (zipWith (fun e a => e.mapBreakdown (fun b => b.addTip a))
          ((stagesOf store r items coupon started).handled.map
            (delivered ((coupon.map freeDelivery).getD false)))
          (tipShares (round2 r.tipAmount)
            (totals ((stagesOf store r items coupon started).handled.map
              (delivered ((coupon.map freeDelivery).getD false)))))) := by
  have hnone : ∀ entries, applyWalletAllocation store.flags entries r.walletAmount = entries := by
    intro entries
    rw [hwallet]
    unfold applyWalletAllocation
    rw [round2_zero, if_pos (le_refl 0), ite_self]
  unfold stagesOf
  dsimp only
  rw [hnone, allocateCheckoutTip_eq, delivered_map]

theorem rounded_iff (freeDelivery : Bool) {entries : List SellerEntry} (shares : List ℤ)
    (h : ∀ e ∈ entries, 0 ≤ e.breakdown.deliveryFeeCharged ∧ 100 ∣ e.breakdown.taxTotal ∧
      0 ≤ e.breakdown.excess) :
    (∀ e ∈ roundUpAll (zipWith (fun e a => e.mapBreakdown (fun b => b.addTip a))
        (entries.map (delivered freeDelivery)) shares),
        e.breakdown.grandTotal = mathCeil e.breakdown.charged)
      ↔ ∀ p ∈ entries.zip shares, p.1.breakdown.excess
          ≤ -(p.1.breakdown.charged - rebate freeDelivery p.1.breakdown + p.2) % 100 := by
  unfold roundUpAll
  rw [forall_mem_map, forall_mem_zipWith, zip_map_left, forall_mem_map]
  refine forall₂_congr (fun p hp => ?_)
  obtain ⟨hdelivery, htax, hexcess⟩ := h p.1 (of_mem_zip hp).1
  have htax' : 100 ∣ ((delivered freeDelivery p.1).breakdown.addTip p.2).taxTotal := by
    rw [← delivered_taxTotal freeDelivery] at htax
    exact htax
  have hexcess' : ((delivered freeDelivery p.1).breakdown.addTip p.2).excess = p.1.breakdown.excess := by
    rw [addTip_excess, delivered_excess]
  have hcharged : ((delivered freeDelivery p.1).breakdown.addTip p.2).charged
      = p.1.breakdown.charged - rebate freeDelivery p.1.breakdown + p.2 := by
    rw [addTip_charged, delivered_charged freeDelivery hdelivery]
  have hiff := roundUp_grandTotal_iff htax' (by rw [hexcess']; exact hexcess)
  rw [hexcess', hcharged] at hiff
  exact hiff

end Checkout

def penShop : Store where
  products := fun id =>
    if id = 1 then some { name := "Pen", price := 21 / 2, headerId := 1, sellerId := 3 } else none

def penRequest : PricingRequest where
  orderItems := [{ product := 1, quantity := 1 }]
  tipAmount := 1 / 2

def penLine : HydratedItem where
  productId := 1
  productName := "Pen"
  quantity := 1
  price := 1050
  headerCategoryId := 1
  sellerId := 3

theorem started_pen :
    Started penShop penRequest [penLine] none [entryAt penShop [penLine] 0 3 0] := by
  have hids : sellerIds [penLine] = [3] := mergeSort_of_pairwise (by decide)
  have hdiscount : effectiveDiscount none penRequest.discountTotal = 0 := round2_zero
  refine ⟨ok_of_toOption (by decide +kernel), by decide,
    ok_of_toOption (by decide +kernel), ?_⟩
  rw [hids, hdiscount]
  exact @mapM_entryAt penShop [penLine] none 0 (fun _ => 0) [3] (fun _ _ => rfl)

end DiscountBazar.Pricing
