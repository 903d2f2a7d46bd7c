/-
What the customer pays for an order covers its goods.

`grandTotal` and the wallet's share of it together are at least the goods less the discount,
plus the tip: every fee is added on top, and every rounding goes up. Each pass over the sellers
keeps this, as it keeps what the goods of an entry are worth.
-/
import DiscountBazar.Pricing.Passes

namespace DiscountBazar.Pricing

open List

/-- What the customer pays for an order: what is left to pay, and what the wallet has paid. -/
def Breakdown.totalPayment (b : Breakdown) : ℤ := b.grandTotal + b.walletAmount

structure Covers (b : Breakdown) : Prop where
  goods : b.productSubtotal - b.discountTotal + b.deliveryFeeCharged + b.tipTotal ≤ b.totalPayment
  delivery : 0 ≤ b.deliveryFeeCharged
  tax : 0 ≤ b.taxTotal

/-- An entry is covered, and its goods are worth what its lines say. -/
structure EntryCovered (e : SellerEntry) : Prop where
  covers : Covers e.breakdown
  subtotal : e.breakdown.productSubtotal = merchandiseSubtotal e.items
  priced : ∀ item ∈ e.items, item.Priced

section Passes

variable {b : Breakdown} {e : SellerEntry} {entries : List SellerEntry}

/-- The breakdown a seller's cart starts with. -/
theorem covers_generate (flags : Flags) (categories : ObjectId → Option Category)
    (settings : Settings) {items : List HydratedItem} (h : ∀ item ∈ items, item.Priced)
    (distanceKm : ℚ) (discount : ℤ) {tax : ℤ} (htax : 0 ≤ tax) :
    Covers (generateOrderPaymentBreakdown flags categories settings items distanceKm discount tax) := by
  have hdelivery := calculateCustomerDeliveryFee_nonneg distanceKm settings
  have hproduct := le_quoteCartProductDelivery items [] 0
  have hhandling : 0 ≤ (calculateHandlingFee items settings.handlingFeeStrategy categories).1 :=
    calculateHandlingFee_nonneg h _
  refine ⟨?_, ?_, htax⟩
  · unfold Breakdown.totalPayment
    simp only [generateOrderPaymentBreakdown, map_map]
    generalize (if flags.walletRedemptionReducesPayable = true then _ else (0 : ℤ)) = allocation
    refine le_trans ?_ (add_le_add_left (le_mathCeil _) _)
    refine le_trans ?_ (le_of_eq (sub_add_cancel _ _).symm)
    refine le_trans ?_ (le_mathCeil _)
    omega
  · exact add_nonneg hdelivery hproduct

theorem Covers.setHandlingFee (h : Covers b) (htip : b.tipTotal = 0) {fee : ℤ} (hfee : 0 ≤ fee) :
    Covers (b.setHandlingFee fee) where
  goods := by
    have htax := h.tax
    simp only [Breakdown.setHandlingFee, Breakdown.totalPayment]
    omega
  delivery := h.delivery
  tax := h.tax

theorem Covers.freeDelivery (h : Covers b) : Covers b.freeDelivery := by
  unfold Breakdown.freeDelivery
  split
  · exact h
  · have hgoods := h.goods
    refine ⟨?_, le_refl 0, h.tax⟩
    simp only [Breakdown.totalPayment] at hgoods ⊢
    omega

theorem Covers.addTip (h : Covers b) (tip : ℤ) : Covers (b.addTip tip) where
  goods := by
    have hgoods := h.goods
    simp only [Breakdown.addTip, Breakdown.totalPayment] at hgoods ⊢
    omega
  delivery := h.delivery
  tax := h.tax

theorem Covers.redeem (h : Covers b) (allocation : ℤ) : Covers (b.redeem allocation) where
  goods := by
    have hgoods := h.goods
    simp only [Breakdown.redeem, Breakdown.totalPayment] at hgoods ⊢
    omega
  delivery := h.delivery
  tax := h.tax

theorem Covers.roundUp (h : Covers b) : Covers b.roundUp where
  goods := by
    have hgoods := h.goods
    have hceil := le_mathCeil b.grandTotal
    simp only [Breakdown.roundUp, Breakdown.totalPayment] at hgoods ⊢
    omega
  delivery := h.delivery
  tax := mathCeil_nonneg h.tax

theorem EntryCovered.mapBreakdown (h : EntryCovered e) {f : Breakdown → Breakdown}
    (hsubtotal : (f e.breakdown).productSubtotal = e.breakdown.productSubtotal)
    (hcovers : Covers (f e.breakdown)) : EntryCovered (e.mapBreakdown f) where
  covers := hcovers
  subtotal := hsubtotal.trans h.subtotal
  priced := h.priced

theorem applyGlobalHandlingFee_covered (handling : ℤ × Option ObjectId)
    (h : ∀ e ∈ entries, EntryCovered e ∧ e.breakdown.tipTotal = 0) :
    ∀ e ∈ applyGlobalHandlingFee entries handling, EntryCovered e ∧ e.breakdown.tipTotal = 0 := by
  unfold applyGlobalHandlingFee
  split
  · exact h
  next hfee =>
    rw [forall_mem_map]
    intro e he
    obtain ⟨hcovered, htip⟩ := h e he
    refine ⟨hcovered.mapBreakdown rfl (hcovered.covers.setHandlingFee htip ?_), htip⟩
    split <;> omega

theorem applyFreeDelivery_covered (h : ∀ e ∈ entries, EntryCovered e ∧ e.breakdown.tipTotal = 0) :
    ∀ e ∈ applyFreeDelivery entries, EntryCovered e ∧ e.breakdown.tipTotal = 0 := by
  unfold applyFreeDelivery
  rw [forall_mem_map]
  intro e he
  obtain ⟨hcovered, htip⟩ := h e he
  refine ⟨hcovered.mapBreakdown (freeDelivery_productSubtotal _) hcovered.covers.freeDelivery, ?_⟩
  exact (freeDelivery_tipTotal _).trans htip

theorem allocateTip_covered (tip base so : ℤ) (h : ∀ e ∈ entries, EntryCovered e) :
    ∀ e ∈ allocateTip tip base so entries, EntryCovered e := by
  fun_induction allocateTip tip base so entries with
  | case1 so => exact h
  | case2 so e =>
    rw [forall_mem_singleton] at h ⊢
    exact h.mapBreakdown rfl (h.covers.addTip _)
  | case3 so e rest hrest share ih =>
    rw [forall_mem_cons] at h ⊢
    exact ⟨h.1.mapBreakdown rfl (h.1.covers.addTip _), ih h.2⟩

theorem allocateWallet_covered (wallet base so : ℤ) (h : ∀ e ∈ entries, EntryCovered e) :
    ∀ e ∈ allocateWallet wallet base so entries, EntryCovered e := by
  fun_induction allocateWallet wallet base so entries with
  | case1 so => exact h
  | case2 so e =>
    rw [forall_mem_singleton] at h ⊢
    exact h.mapBreakdown rfl (h.covers.redeem _)
  | case3 so e rest hrest share ih =>
    rw [forall_mem_cons] at h ⊢
    exact ⟨h.1.mapBreakdown rfl (h.1.covers.redeem _), ih h.2⟩

theorem beforeWallet_covered (store : Store) (items : List HydratedItem) (freeDelivery : Bool)
    (tip : ℚ) (h : ∀ e ∈ entries, EntryCovered e ∧ e.breakdown.tipTotal = 0) :
    ∀ e ∈ beforeWallet store items freeDelivery tip entries, EntryCovered e := by
  have hfee := applyGlobalHandlingFee_covered (computeGlobalHandlingFeeForCheckout store items) h
  unfold beforeWallet allocateCheckoutTip
  dsimp only
  have hfree : ∀ e ∈ (if freeDelivery then applyFreeDelivery (applyGlobalHandlingFee entries
      (computeGlobalHandlingFeeForCheckout store items)) else applyGlobalHandlingFee entries
      (computeGlobalHandlingFeeForCheckout store items)), EntryCovered e := by
    split
    · exact fun e he => (applyFreeDelivery_covered hfee e he).1
    · exact fun e he => (hfee e he).1
  split
  · exact hfree
  · exact allocateTip_covered _ _ _ hfree

theorem applyWalletAllocation_covered (flags : Flags) (amount : ℚ)
    (h : ∀ e ∈ entries, EntryCovered e) :
    ∀ e ∈ applyWalletAllocation flags entries amount, EntryCovered e := by
  unfold applyWalletAllocation
  split
  · exact h
  split
  · exact h
  split
  · exact h
  · exact allocateWallet_covered _ _ _ h

end Passes

theorem snapshot_covered {store : Store} {r : PricingRequest} {snapshot : PricingSnapshot}
    (h : buildCheckoutPricingSnapshot store r = .ok snapshot) :
    ∀ e ∈ snapshot.sellerBreakdownEntries, EntryCovered e := by
  obtain ⟨coupon, entries, hprice, rfl⟩ := buildCheckoutPricingSnapshot_eq_ok.mp h
  obtain ⟨items, es, hitems, -, -, hes, rfl⟩ := priceBeforeWallet_eq_ok.mp hprice
  have hpriced := hydrateOrderItems_priced hitems
  have hstart : ∀ e ∈ es, EntryCovered e ∧ e.breakdown.tipTotal = 0 := by
    refine forall_of_mapM (fun s e he => ?_) hes
    obtain ⟨km, -, rfl⟩ := sellerEntry_eq_ok.mp he
    have hown := itemsOf_priced hpriced s
    have hsub := fromPaise_nonneg (merchandiseSubtotal_nonneg hown)
    refine ⟨⟨covers_generate _ _ _ hown km _ ?_, productSubtotal_eq _ _ _ hown km _ _, hown⟩, rfl⟩
    exact mathCeil_nonneg
      (round2_nonneg (div_nonneg (mul_nonneg hsub (NNRat.coe_nonneg _)) (by norm_num)))
  have hwallet := applyWalletAllocation_covered store.flags r.walletAmount
    (beforeWallet_covered store items ((coupon.map CouponResult.freeDelivery).getD false) r.tipAmount
      hstart)
  unfold snapshotOf roundUpAll
  rw [forall_mem_map]
  exact fun e he => (hwallet e he).mapBreakdown rfl (hwallet e he).covers.roundUp

end DiscountBazar.Pricing
