/-
The preview of a checkout and its placement (`orderFinanceController.js`).

The two controllers hand the same payload to the same pricing, but not the same parts of it:
the preview forwards the client's own discount and the wallet amount as sent, the placement
drops the discount and rounds the amount to whole rupees. They agree exactly where neither
makes a difference.
-/
import DiscountBazar.Pricing.Passes
import DiscountBazar.Placement.PlaceOrder

namespace DiscountBazar.Placement

open Pricing Transaction List

/-- `previewCheckoutFinance`, the pricing of it. -/
def previewCheckoutFinance (store : Store) (customerId : ObjectId) (p : Payload) :
    Except ServiceError PricingSnapshot :=
  buildCheckoutPricingSnapshot store
    { orderItems := p.items.map ItemInput.toOrderItemInput
      location := p.location
      tipAmount := p.tipAmount
      discountTotal := p.discountTotal
      walletAmount := p.walletAmount
      coupon := p.coupon
      customerId := some customerId }

/-- The payload that `createOrderWithFinancialSnapshot` forwards. -/
def forwarded (p : Payload) : Payload := { p with discountTotal := 0, walletOnly := false }

def createOrderWithFinancialSnapshot (w : World) (r : Request) : Except ServiceError (World × Placed) :=
  placeOrder w { r with payload := forwarded r.payload }

/-- The payload passes `checkoutPreviewSchema` and `createFinanceOrderSchema`. -/
structure AcceptedByBoth (p : Payload) : Prop where
  items : p.items ≠ []
  quantity : ∀ item ∈ p.items, 1 ≤ item.quantity
  paymentMode : p.paymentMode = "ONLINE" ∨ p.paymentMode = "COD"
  tipAmount : 0 ≤ p.tipAmount
  discountTotal : 0 ≤ p.discountTotal
  walletAmount : 0 ≤ p.walletAmount

def Agrees (preview : Aggregate) (placed : Placed) : Prop :=
  (placed.orders.map (fun o => o.paymentBreakdown.grandTotal)).sum = preview.payableAmount ∧
    placed.walletDebit = preview.walletAmount ∧
    (placed.orders.map (fun o => o.paymentBreakdown.discountTotal)).sum = preview.discountTotal

instance (preview : Aggregate) (placed : Placed) : Decidable (Agrees preview placed) :=
  inferInstanceAs (Decidable (_ ∧ _ ∧ _))

/-- The client's own discount makes no difference: a coupon takes its place, or it gives no
seller a paisa. -/
def DiscountCarried (store : Store) (p : Payload) : Prop :=
  (store.flags.serverSideCouponEngine = true ∧ p.coupon.isEmpty = false) ∨
    ∀ items, hydrateOrderItems store.products (p.items.map ItemInput.toOrderItemInput) = .ok items →
      ∀ s ∈ sellerIds items, sellerDiscount items (round2 p.discountTotal) s = 0

/-- Rounding the wallet amount makes no difference: the wallet takes and leaves the same of
the sellers' totals for the amount as for the rounded one; and where it is not netted out of
the totals, there is nothing to take. -/
def WalletCarried (flags : Flags) (p : Payload) (totals : List ℤ) : Prop :=
  if flags.walletRedemptionReducesPayable then
    takenByWallet flags (round2 p.walletAmount) totals = takenByWallet flags p.redeemed totals ∧
      leftByWallet flags (round2 p.walletAmount) totals = leftByWallet flags p.redeemed totals
  else p.redeemed = 0

section Agreement

variable {w w' : World} {r : Request} {placed : Placed}

theorem redeemed_nonneg (p : Payload) : 0 ≤ p.redeemed := by
  unfold Payload.redeemed
  omega

theorem placed_sums (h : placeOrder w r = .ok (w', placed)) :
    ∃ items source snapshot, priceOrder w r = .ok (items, source, snapshot) ∧
      (placed.orders.map (fun o => o.paymentBreakdown.grandTotal)).sum
        = sumField snapshot.sellerBreakdownEntries Breakdown.grandTotal ∧
      (placed.orders.map (fun o => o.paymentBreakdown.discountTotal)).sum
        = sumField snapshot.sellerBreakdownEntries Breakdown.discountTotal ∧
      placed.walletDebit = max 0 (walletDebitAmount w.store.flags snapshot r.payload.redeemed) := by
  obtain ⟨items, source, snapshot, hprice, stock, hplace, -, hdebit, -⟩ :=
    (committed_of_placeOrder h).priced
  have hmap := placeEntries_breakdowns hplace
  have hsum : ∀ f : Breakdown → ℤ, (placed.orders.map (fun o => f o.paymentBreakdown)).sum
      = sumField snapshot.sellerBreakdownEntries f := by
    intro f
    have := congrArg (map f) hmap
    rw [map_map, map_map] at this
    exact congrArg sum this
  exact ⟨items, source, snapshot, hprice, hsum _, hsum _, hdebit⟩

variable {p : Payload}

theorem priceOrder_eq_ok (hp : p.items ≠ []) {r : Request} (hr : r.payload = p)
    {items : List ItemInput} {source : PlacementSource} {snapshot : PricingSnapshot}
    (h : priceOrder w r = .ok (items, source, snapshot)) :
    buildCheckoutPricingSnapshot w.store (pricingRequest r.customerId p p.items) = .ok snapshot := by
  subst hr
  unfold priceOrder resolveOrderItemsInput at h
  rw [if_pos hp] at h
  obtain ⟨-, -, h⟩ := bind_eq_ok.mp h
  obtain ⟨⟨items', source'⟩, hresolved, h⟩ := bind_eq_ok.mp h
  obtain ⟨rfl, rfl⟩ := Prod.mk.inj (pure_eq_ok.mp hresolved)
  obtain ⟨-, -, h⟩ := bind_eq_ok.mp h
  obtain ⟨snapshot', hsnapshot, h⟩ := bind_eq_ok.mp h
  obtain ⟨-, -, h⟩ := bind_eq_ok.mp h
  have hpair := pure_eq_ok.mp h
  simp only [Prod.mk.injEq] at hpair
  rw [hpair.2.2]
  exact hsnapshot

def previewRequest (customerId : ObjectId) (p : Payload) : PricingRequest :=
  { pricingRequest customerId p p.items with
    tipAmount := p.tipAmount
    discountTotal := p.discountTotal
    walletAmount := p.walletAmount }

variable {entries : List SellerEntry}

theorem priceBeforeWallet_preview {store : Store} {customerId : ObjectId} (hp : AcceptedByBoth p)
    {coupon : Option CouponResult}
    (h : priceBeforeWallet store (pricingRequest customerId (forwarded p) p.items)
      = .ok (coupon, entries)) :
    ∃ entries', priceBeforeWallet store (previewRequest customerId p) = .ok (coupon, entries') ∧
      (DiscountCarried store p → entries' = entries) ∧
      ((entries'.map (fun e => e.breakdown.discountTotal)).sum
          = (entries.map (fun e => e.breakdown.discountTotal)).sum → DiscountCarried store p) := by
  obtain ⟨items, es, hitems, hne, hcoupon, hes, rfl⟩ := priceBeforeWallet_eq_ok.mp h
  have hpriced := hydrateOrderItems_priced hitems
  have htip : (pricingRequest customerId (forwarded p) p.items).tipAmount = p.tipAmount :=
    max_eq_right hp.tipAmount
  obtain ⟨es', hes'⟩ := mapM_sellerEntry (effectiveDiscount coupon p.discountTotal) hes
  have hpreview : priceBeforeWallet store (previewRequest customerId p)
      = .ok (coupon, beforeWallet store items ((coupon.map CouponResult.freeDelivery).getD false)
        p.tipAmount es') :=
    priceBeforeWallet_eq_ok.mpr ⟨items, es', hitems, hne, hcoupon, hes', rfl⟩
  have hzero : effectiveDiscount none
      (pricingRequest customerId (forwarded p) p.items).discountTotal = 0 := by
    rw [effectiveDiscount, pricingRequest, forwarded, max_self, round2_zero]
  refine ⟨_, hpreview, fun hcarried => ?_, fun hsums => ?_⟩
  · rw [htip]
    refine congrArg (beforeWallet store items _ p.tipAmount) ?_
    rcases checkoutCoupon_ok hcoupon with ⟨-, c, rfl, -⟩ | ⟨hoff, rfl⟩
    · exact Except.ok.inj (hes'.symm.trans hes)
    · rcases hcarried with hon | hnone
      · exact absurd hon hoff
      · rw [hzero] at hes
        have hcongr : (sellerIds items).mapM (sellerEntry store p.location items
              (round2 p.discountTotal))
            = (sellerIds items).mapM (sellerEntry store p.location items 0) :=
          mapM_sellerEntry_congr (fun s hs =>
            (hnone items hitems s hs).trans (sellerDiscount_zero items s).symm)
        exact Except.ok.inj (hes'.symm.trans (hcongr.trans hes))
  · rcases checkoutCoupon_ok hcoupon with ⟨hon, -⟩ | ⟨hoff, rfl⟩
    · exact .inl hon
    · refine .inr (fun items' hitems' => ?_)
      obtain rfl : items' = items := Except.ok.inj (hitems'.symm.trans hitems)
      -- without a coupon the placed shares are 0, and no share is negative
      rw [beforeWallet_discounts, beforeWallet_discounts, mapM_sellerEntry_discounts hes',
        mapM_sellerEntry_discounts hes, hzero] at hsums
      have hplaced : ((sellerIds items').map (sellerDiscount items' 0)).sum = 0 := by
        rw [map_congr_left (fun s _ => sellerDiscount_zero items' s)]
        simp
      have hall : ∀ x ∈ (sellerIds items').map (sellerDiscount items' (round2 p.discountTotal)), 0 ≤ x := by
        intro x hx
        obtain ⟨s, -, rfl⟩ := mem_map.mp hx
        exact sellerDiscount_nonneg hpriced (round2_nonneg hp.discountTotal) s
      have hsum : ((sellerIds items').map
          (sellerDiscount items' (round2 p.discountTotal))).sum = 0 := hsums.trans hplaced
      intro s hs
      exact all_zero_of_le_zero_le_of_sum_eq_zero hall hsum (mem_map_of_mem hs)

/-- The totals of the sellers of a payload before the wallet, at the discount that a
placement gives. -/
def totalsBeforeWallet (store : Store) (customerId : ObjectId) (p : Payload) : List ℤ :=
  match priceBeforeWallet store (pricingRequest customerId (forwarded p) p.items) with
  | .ok priced => totals priced.2
  | .error _ => []

theorem walletDebitAmount_snapshotOf (flags : Flags) (coupon : Option CouponResult) (amount : ℚ)
    (h : ∀ e ∈ entries, e.breakdown.walletAmount = 0) (walletAmount : ℤ) :
    walletDebitAmount flags
        (snapshotOf coupon (roundUpAll (applyWalletAllocation flags entries amount))) walletAmount
      = if flags.walletRedemptionReducesPayable then takenByWallet flags (round2 amount) (totals entries)
        else walletAmount := by
  unfold walletDebitAmount
  split
  · exact (roundUpAll_sums flags amount h).1
  · rfl

theorem allocation_off {flags : Flags} (hflag : ¬flags.walletRedemptionReducesPayable = true)
    (wallet : ℤ) (ts : List ℤ) : allocation flags wallet ts = ts.map (fun _ => 0) := by
  unfold allocation
  exact if_pos (.inl (by simpa using hflag))

theorem wallet_agrees_iff {flags : Flags} (coupon : Option CouponResult)
    (hzero : ∀ e ∈ entries, e.breakdown.walletAmount = 0)
    (hgrand : (placed.orders.map (fun o => o.paymentBreakdown.grandTotal)).sum
      = leftByWallet flags (round2 (fromPaise p.redeemed)) (totals entries))
    (hdebit : placed.walletDebit = max 0 (if flags.walletRedemptionReducesPayable then
      takenByWallet flags (round2 (fromPaise p.redeemed)) (totals entries) else p.redeemed))
    (hround : round2 (fromPaise p.redeemed) = p.redeemed) :
    let preview := (snapshotOf coupon
      (roundUpAll (applyWalletAllocation flags entries p.walletAmount))).aggregateBreakdown
    ((placed.orders.map (fun o => o.paymentBreakdown.grandTotal)).sum = preview.payableAmount ∧
      placed.walletDebit = preview.walletAmount) ↔ WalletCarried flags p (totals entries) := by
  obtain ⟨hwallet, hleft⟩ := roundUpAll_sums flags p.walletAmount hzero
  have hpayable : (snapshotOf coupon (roundUpAll (applyWalletAllocation flags entries
      p.walletAmount))).aggregateBreakdown.payableAmount
        = leftByWallet flags (round2 p.walletAmount) (totals entries) :=
    (buildAggregateBreakdown_payable _).trans hleft
  have hshown : (snapshotOf coupon (roundUpAll (applyWalletAllocation flags entries
      p.walletAmount))).aggregateBreakdown.walletAmount
        = takenByWallet flags (round2 p.walletAmount) (totals entries) := hwallet
  dsimp only
  rw [hpayable, hshown, hgrand, hdebit, hround]
  unfold WalletCarried
  by_cases hflag : flags.walletRedemptionReducesPayable = true
  · rw [if_pos hflag, if_pos hflag, max_eq_right (takenByWallet_nonneg _ _ _)]
    constructor
    · rintro ⟨hG, hW⟩
      exact ⟨hW.symm, hG.symm⟩
    · rintro ⟨hW, hG⟩
      exact ⟨hG.symm, hW.symm⟩
  · rw [if_neg hflag, if_neg hflag, max_eq_right (redeemed_nonneg p)]
    -- nothing is taken off the totals, so only the debit can differ
    have hleftSame : leftByWallet flags p.redeemed (totals entries)
        = leftByWallet flags (round2 p.walletAmount) (totals entries) := by
      rw [leftByWallet, leftByWallet, allocation_off hflag, allocation_off hflag]
    have htaken : takenByWallet flags (round2 p.walletAmount) (totals entries) = 0 := by
      rw [takenByWallet, allocation_off hflag]
      simp
    rw [htaken]
    exact and_iff_right hleftSame

end Agreement

/-- The scarf with a coupon-free payload of both schemas. -/
def scarfCheckout (discountTotal walletAmount : ℚ) : Request where
  customerId := 1
  payload :=
    { items := [{ product := 3, quantity := 1 }]
      paymentMode := "COD"
      discountTotal
      walletAmount }

theorem scarfCheckout_accepted {discountTotal walletAmount : ℚ} (hd : 0 ≤ discountTotal)
    (hw : 0 ≤ walletAmount) : AcceptedByBoth (scarfCheckout discountTotal walletAmount).payload where
  items := cons_ne_nil _ _
  quantity := by simp [scarfCheckout]
  paymentMode := .inr rfl
  tipAmount := le_refl 0
  discountTotal := hd
  walletAmount := hw

/-- What the preview of a request and its placement say of each other, where both return. -/
def checkoutAgreement (w : World) (r : Request) : Option Bool :=
  match createOrderWithFinancialSnapshot w r, previewCheckoutFinance w.store r.customerId r.payload with
  | .ok (_, placed), .ok preview => some (decide (Agrees preview.aggregateBreakdown placed))
  | _, _ => none

theorem checkoutAgreement_eq_some {w : World} {r : Request} {b : Bool} (h : checkoutAgreement w r = some b) :
    ∃ w' placed preview, createOrderWithFinancialSnapshot w r = .ok (w', placed) ∧
      previewCheckoutFinance w.store r.customerId r.payload = .ok preview ∧
      b = decide (Agrees preview.aggregateBreakdown placed) := by
  unfold checkoutAgreement at h
  split at h
  next w' placed preview hplaced hpreview =>
    exact ⟨w', placed, preview, hplaced, hpreview, (Option.some.inj h).symm⟩
  next => cases h

/-- The shop with the wallet debited beside the total and not netted out of it. -/
def legacyScarfShop : World :=
  { scarfShop with store := { scarfShop.store with flags := { walletRedemptionReducesPayable := false } } }

end DiscountBazar.Placement
