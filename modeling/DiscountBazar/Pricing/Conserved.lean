/-
Nothing of an order's price is lost between those who earn from it.

Each pass over the sellers' breakdowns recomputes some of their fields. What the seller, the
rider and the platform earn is, after every one of them, what the goods, the fees and the tip
come to, and the goods are divided between the seller and the commission.
-/
import DiscountBazar.Pricing.Coverage
import DiscountBazar.Pricing.Stages

namespace DiscountBazar.Pricing

open List

structure Conserved (b : Breakdown) : Prop where
  earned : b.sellerPayoutTotal + b.riderPayoutTotal + b.platformTotalEarning
    = b.productSubtotal + b.deliveryFeeCharged + b.handlingFeeCharged + b.tipTotal
  goods : b.sellerPayoutTotal + b.adminProductCommissionTotal = b.productSubtotal
  seller : 0 ≤ b.sellerPayoutTotal
  commission : 0 ≤ b.adminProductCommissionTotal

section Commission

variable (item : HydratedItem) (category : Option Category)

theorem HydratedItem.subtotal_nonneg : 0 ≤ item.subtotal :=
  mul_nonneg (clampMoney_priced _).1 (Int.natCast_nonneg _)

theorem calculateCategoryCommission_bounds :
    0 ≤ (calculateCategoryCommission item category).adminCommission ∧
      (calculateCategoryCommission item category).adminCommission ≤ item.subtotal := by
  unfold calculateCategoryCommission
  exact ⟨le_min (le_max_right ..) item.subtotal_nonneg, min_le_right ..⟩

theorem calculateCategoryCommission_split :
    (calculateCategoryCommission item category).sellerPayout
        + (calculateCategoryCommission item category).adminCommission
      = (calculateCategoryCommission item category).itemSubtotal :=
  sub_add_cancel _ _

end Commission

/-! ## Pass by pass -/

section Passes

variable {b : Breakdown} {entries : List SellerEntry}

/-- The breakdown a seller's cart starts with. -/
theorem conserved_generate (flags : Flags) (categories : ObjectId → Option Category)
    (settings : Settings) (items : List HydratedItem) (distanceKm : ℚ) (discount tax : ℤ) :
    Conserved (generateOrderPaymentBreakdown flags categories settings items distanceKm discount
      tax) := by
  have hgoods : ((items.map (fun item => calculateCategoryCommission item
        (categories item.headerCategoryId))).map Commission.sellerPayout).sum
      + ((items.map (fun item => calculateCategoryCommission item
        (categories item.headerCategoryId))).map Commission.adminCommission).sum
      = ((items.map (fun item => calculateCategoryCommission item
        (categories item.headerCategoryId))).map Commission.itemSubtotal).sum := by
    rw [← sum_map_add]
    refine congrArg sum (map_congr_left (fun c hc => ?_))
    obtain ⟨item, -, rfl⟩ := mem_map.mp hc
    exact calculateCategoryCommission_split item _
  refine ⟨?_, hgoods, ?_, ?_⟩
  · simp only [generateOrderPaymentBreakdown]
    omega
  · refine sum_nonneg (fun x hx => ?_)
    obtain ⟨c, hc, rfl⟩ := mem_map.mp hx
    obtain ⟨item, -, rfl⟩ := mem_map.mp hc
    exact sub_nonneg.mpr (calculateCategoryCommission_bounds item _).2
  · refine sum_nonneg (fun x hx => ?_)
    obtain ⟨c, hc, rfl⟩ := mem_map.mp hx
    obtain ⟨item, -, rfl⟩ := mem_map.mp hc
    exact (calculateCategoryCommission_bounds item _).1

theorem Conserved.setHandlingFee (h : Conserved b) (htip : b.tipTotal = 0) (fee : ℤ) :
    Conserved (b.setHandlingFee fee) where
  earned := by
    have hgoods := h.goods
    simp only [Breakdown.setHandlingFee]
    omega
  goods := h.goods
  seller := h.seller
  commission := h.commission

theorem Conserved.freeDelivery (h : Conserved b) (htip : b.tipTotal = 0) :
    Conserved b.freeDelivery := by
  unfold Breakdown.freeDelivery
  split
  · exact h
  · have hgoods := h.goods
    refine ⟨?_, h.goods, h.seller, h.commission⟩
    dsimp only
    omega

theorem Conserved.addTip (h : Conserved b) (tip : ℤ) : Conserved (b.addTip tip) where
  earned := by
    have hearned := h.earned
    simp only [Breakdown.addTip]
    omega
  goods := h.goods
  seller := h.seller
  commission := h.commission

theorem Conserved.redeem (h : Conserved b) (allocation : ℤ) : Conserved (b.redeem allocation) where
  earned := h.earned
  goods := h.goods
  seller := h.seller
  commission := h.commission

theorem Conserved.roundUp (h : Conserved b) : Conserved b.roundUp where
  earned := h.earned
  goods := h.goods
  seller := h.seller
  commission := h.commission

theorem applyGlobalHandlingFee_conserved (handling : ℤ × Option ObjectId)
    (h : ∀ e ∈ entries, Conserved e.breakdown ∧ e.breakdown.tipTotal = 0) :
    ∀ e ∈ applyGlobalHandlingFee entries handling,
      Conserved e.breakdown ∧ e.breakdown.tipTotal = 0 := by
  unfold applyGlobalHandlingFee
  split
  · exact h
  · rw [forall_mem_map]
    intro e he
    obtain ⟨hconserved, htip⟩ := h e he
    exact ⟨hconserved.setHandlingFee htip _, htip⟩

theorem applyFreeDelivery_conserved
    (h : ∀ e ∈ entries, Conserved e.breakdown ∧ e.breakdown.tipTotal = 0) :
    ∀ e ∈ applyFreeDelivery entries, Conserved e.breakdown ∧ e.breakdown.tipTotal = 0 := by
  unfold applyFreeDelivery
  rw [forall_mem_map]
  intro e he
  obtain ⟨hconserved, htip⟩ := h e he
  exact ⟨hconserved.freeDelivery htip, (freeDelivery_tipTotal _).trans htip⟩

theorem allocateTip_conserved (tip base so : ℤ) (h : ∀ e ∈ entries, Conserved e.breakdown) :
    ∀ e ∈ allocateTip tip base so entries, Conserved e.breakdown := by
  fun_induction allocateTip tip base so entries with
  | case1 so => exact h
  | case2 so e =>
    rw [forall_mem_singleton] at h ⊢
    exact h.addTip _
  | case3 so e rest hrest share ih =>
    rw [forall_mem_cons] at h ⊢
    exact ⟨h.1.addTip _, ih h.2⟩

theorem allocateCheckoutTip_conserved (tip : ℚ) (h : ∀ e ∈ entries, Conserved e.breakdown) :
    ∀ e ∈ allocateCheckoutTip entries tip, Conserved e.breakdown := by
  unfold allocateCheckoutTip
  split
  · exact h
  · exact allocateTip_conserved _ _ _ h

theorem allocateWallet_conserved (wallet base so : ℤ) (h : ∀ e ∈ entries, Conserved e.breakdown) :
    ∀ e ∈ allocateWallet wallet base so entries, Conserved e.breakdown := by
  fun_induction allocateWallet wallet base so entries with
  | case1 so => exact h
  | case2 so e =>
    rw [forall_mem_singleton] at h ⊢
    exact h.redeem _
  | case3 so e rest hrest share ih =>
    rw [forall_mem_cons] at h ⊢
    exact ⟨h.1.redeem _, ih h.2⟩

theorem applyWalletAllocation_conserved (flags : Flags) (amount : ℚ)
    (h : ∀ e ∈ entries, Conserved e.breakdown) :
    ∀ e ∈ applyWalletAllocation flags entries amount, Conserved e.breakdown := by
  unfold applyWalletAllocation
  split
  · exact h
  split
  · exact h
  split
  · exact h
  · exact allocateWallet_conserved _ _ _ h

theorem roundUpAll_conserved (h : ∀ e ∈ entries, Conserved e.breakdown) :
    ∀ e ∈ roundUpAll entries, Conserved e.breakdown := by
  unfold roundUpAll
  rw [forall_mem_map]
  exact fun e he => (h e he).roundUp

end Passes

/-! ## The checkout -/

section Stages

variable {store : Store} {r : PricingRequest} {items : List HydratedItem}
  {coupon : Option CouponResult} {started : List SellerEntry}

theorem stagesOf_conserved
    (h : ∀ e ∈ started, Conserved e.breakdown ∧ e.breakdown.tipTotal = 0) :
    ∀ stage ∈ (stagesOf store r items coupon started).all, ∀ e ∈ stage, Conserved e.breakdown := by
  have hhandled := applyGlobalHandlingFee_conserved
    (computeGlobalHandlingFeeForCheckout store items) h
  have hdelivered : ∀ e ∈ (stagesOf store r items coupon started).delivered,
      Conserved e.breakdown := by
    unfold stagesOf
    dsimp only
    split
    · exact fun e he => (applyFreeDelivery_conserved hhandled e he).1
    · exact fun e he => (hhandled e he).1
  have htipped := allocateCheckoutTip_conserved r.tipAmount hdelivered
  have hredeemed := applyWalletAllocation_conserved store.flags r.walletAmount htipped
  simp only [Stages.all, forall_mem_cons]
  exact ⟨fun e he => (h e he).1, fun e he => (hhandled e he).1, hdelivered, htipped, hredeemed,
    roundUpAll_conserved hredeemed, fun _ hstage => absurd hstage not_mem_nil⟩

/-- Every seller's breakdown of a checkout is conserved after each of the passes, the last of
which is what the checkout returns. -/
theorem breakdowns_conserved (h : Started store r items coupon started) :
    buildCheckoutPricingSnapshot store r
        = .ok (snapshotOf coupon (stagesOf store r items coupon started).rounded) ∧
      ∀ stage ∈ (stagesOf store r items coupon started).all, ∀ e ∈ stage,
        Conserved e.breakdown := by
  refine ⟨buildCheckoutPricingSnapshot_stages.mpr ⟨items, coupon, started, h, rfl⟩, ?_⟩
  exact stagesOf_conserved (h.forall (fun s km => ⟨conserved_generate _ _ _ _ km _ _, rfl⟩))

end Stages

def teaProduct : Product where
  name := "Tea"
  price := 120
  headerId := 1
  sellerId := 3

def cupsProduct : Product where
  name := "Cups"
  price := 80
  headerId := 2
  sellerId := 5
  productDeliveryFee := 15

/-- A shop with two sellers: one charges for handling, the other for the delivery of its cups. -/
def teaShop : Store where
  products := fun id => if id = 1 then some teaProduct else if id = 2 then some cupsProduct else none
  categories := fun id =>
    if id = 1 then some { adminCommissionValue := some 10, handlingFeeValue := some 5 } else none

/-- Tea and two sets of cups, with a tip and with money from the wallet. -/
def teaRequest : PricingRequest where
  orderItems := [{ product := 1, quantity := 1 }, { product := 2, quantity := 2 }]
  tipAmount := 25
  walletAmount := 60

def teaLines : List HydratedItem :=
  [{ productId := 1, productName := "Tea", quantity := 1, price := 12000, headerCategoryId := 1,
     sellerId := 3 },
   { productId := 2, productName := "Cups", quantity := 2, price := 8000, headerCategoryId := 2,
     sellerId := 5, productDeliveryFee := 1500 }]

theorem teaRequest_started : Started teaShop teaRequest teaLines none
    ([3, 5].map (fun s => entryAt teaShop teaLines 0 s 0)) := by
  have hids : sellerIds teaLines = [3, 5] := mergeSort_of_pairwise (by decide)
  have hdiscount : effectiveDiscount none teaRequest.discountTotal = 0 := round2_zero
  refine ⟨Transaction.ok_of_toOption (by decide +kernel), by decide,
    Transaction.ok_of_toOption (by decide +kernel), ?_⟩
  rw [hids, hdiscount]
  exact mapM_entryAt (fun s _ => rfl)

theorem breakdowns_conserved_tea :
    buildCheckoutPricingSnapshot teaShop teaRequest
        = .ok (snapshotOf none (stagesOf teaShop teaRequest teaLines none
            ([3, 5].map (fun s => entryAt teaShop teaLines 0 s 0))).rounded) ∧
      ∀ stage ∈ (stagesOf teaShop teaRequest teaLines none
          ([3, 5].map (fun s => entryAt teaShop teaLines 0 s 0))).all, ∀ e ∈ stage,
        Conserved e.breakdown :=
  breakdowns_conserved teaRequest_started

end DiscountBazar.Pricing
