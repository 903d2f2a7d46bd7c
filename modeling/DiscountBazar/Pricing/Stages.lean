/-
The stages of a checkout.

Pricing hydrates the lines, finds the coupon and starts an entry for each seller; then the
passes go over the entries one after the other. Here the parts of a priced checkout have names.
-/
import DiscountBazar.Pricing.Passes

namespace DiscountBazar.Pricing

open List

/-- What a checkout is priced from: its lines, its coupon, and the entries the sellers start
with. -/
structure Started (store : Store) (r : PricingRequest) (items : List HydratedItem)
    (coupon : Option CouponResult) (started : List SellerEntry) : Prop where
  hydrated : hydrateOrderItems store.products r.orderItems = .ok items
  nonempty : items ≠ []
  found : checkoutCoupon store r items = .ok coupon
  entries : (sellerIds items).mapM (sellerEntry store r.location items
    (effectiveDiscount coupon r.discountTotal)) = .ok started

/-- The sellers' entries as the passes leave them: as they start, with the handling fee of the
checkout, with free delivery, with the tip, with the wallet, and rounded. -/
structure Stages where
  started : List SellerEntry
  handled : List SellerEntry
  delivered : List SellerEntry
  tipped : List SellerEntry
  redeemed : List SellerEntry
  rounded : List SellerEntry

/-- The lists of entries, in the order of the passes. -/
def Stages.all (s : Stages) : List (List SellerEntry) :=
  [s.started, s.handled, s.delivered, s.tipped, s.redeemed, s.rounded]

def stagesOf (store : Store) (r : PricingRequest) (items : List HydratedItem)
    (coupon : Option CouponResult) (started : List SellerEntry) : Stages :=
  let handled := applyGlobalHandlingFee started (computeGlobalHandlingFeeForCheckout store items)
  let delivered := if (coupon.map CouponResult.freeDelivery).getD false then applyFreeDelivery handled
    else handled
  let tipped := allocateCheckoutTip delivered r.tipAmount
  let redeemed := applyWalletAllocation store.flags tipped r.walletAmount
  { started, handled, delivered, tipped, redeemed, rounded := roundUpAll redeemed }

section Snapshot

variable {store : Store} {r : PricingRequest} {items : List HydratedItem}
  {coupon : Option CouponResult} {started : List SellerEntry}

theorem buildCheckoutPricingSnapshot_stages {snapshot : PricingSnapshot} :
    buildCheckoutPricingSnapshot store r = .ok snapshot ↔
      ∃ items coupon started, Started store r items coupon started ∧
        snapshot = snapshotOf coupon (stagesOf store r items coupon started).rounded := by
  rw [buildCheckoutPricingSnapshot_eq_ok]
  constructor
  · rintro ⟨coupon, entries, hprice, rfl⟩
    obtain ⟨items, es, hitems, hne, hcoupon, hes, rfl⟩ := priceBeforeWallet_eq_ok.mp hprice
    exact ⟨items, coupon, es, ⟨hitems, hne, hcoupon, hes⟩, rfl⟩
  · rintro ⟨items, coupon, started, h, rfl⟩
    refine ⟨coupon, (stagesOf store r items coupon started).tipped, ?_, rfl⟩
    exact priceBeforeWallet_eq_ok.mpr ⟨items, started, h.hydrated, h.nonempty, h.found, h.entries, rfl⟩

theorem Started.forall {P : SellerEntry → Prop} (h : Started store r items coupon started)
    (hP : ∀ s km, P (entryAt store items (effectiveDiscount coupon r.discountTotal) s km)) :
    ∀ e ∈ started, P e := by
  refine forall_of_mapM (fun s e he => ?_) h.entries
  obtain ⟨km, -, rfl⟩ := sellerEntry_eq_ok.mp he
  exact hP s km

theorem Started.priced (h : Started store r items coupon started) :
    ∀ item ∈ items, item.Priced :=
  hydrateOrderItems_priced h.hydrated

/-- Where all routes are known, the entries are at their distances. -/
theorem mapM_entryAt {location : Option Location} {d : ℤ} {km : ObjectId → ℚ} {ids : List ObjectId}
    (h : ∀ s ∈ ids, store.distanceKm s location = .ok (km s)) :
    ids.mapM (sellerEntry store location items d)
      = .ok (ids.map (fun s => entryAt store items d s (km s))) := by
  induction ids with
  | nil => rfl
  | cons s ids ih =>
    rw [mapM_cons]
    have hs : sellerEntry store location items d s = .ok (entryAt store items d s (km s)) :=
      sellerEntry_eq_ok.mpr ⟨km s, h s (mem_cons_self ..), rfl⟩
    exact Transaction.bind_eq_ok.mpr ⟨_, hs, Transaction.bind_eq_ok.mpr
      ⟨_, ih (fun t ht => h t (mem_cons_of_mem _ ht)), rfl⟩⟩

theorem entryAt_productSubtotal (h : ∀ item ∈ items, item.Priced) (d : ℤ) (s : ObjectId) (km : ℚ) :
    (entryAt store items d s km).breakdown.productSubtotal
      = merchandiseSubtotal (itemsOf items s) := by
  unfold entryAt
  exact productSubtotal_eq _ _ _ (itemsOf_priced h s) km _ _

theorem mapM_sellerEntry_map {α : Type*} {f : SellerEntry → α} {g : ObjectId → α} {d : ℤ}
    {location : Option Location} {ids : List ObjectId} {entries : List SellerEntry}
    (h : ids.mapM (sellerEntry store location items d) = .ok entries)
    (hf : ∀ s km, f (entryAt store items d s km) = g s) : entries.map f = ids.map g := by
  induction ids generalizing entries with
  | nil =>
    rw [mapM_nil] at h
    rw [Transaction.pure_eq_ok.mp h]
    rfl
  | cons s ids ih =>
    rw [mapM_cons] at h
    obtain ⟨e, he, h⟩ := Transaction.bind_eq_ok.mp h
    obtain ⟨es, hes, h⟩ := Transaction.bind_eq_ok.mp h
    obtain ⟨km, -, rfl⟩ := sellerEntry_eq_ok.mp he
    rw [Transaction.pure_eq_ok.mp h, map_cons, map_cons, ih hes, hf]

end Snapshot

/-! ## What no pass changes -/

section Untouched

variable {α : Type*} {g : Breakdown → α}

/-- No pass changes `g`. -/
structure Untouched (g : Breakdown → α) : Prop where
  setHandlingFee : ∀ b fee, g (b.setHandlingFee fee) = g b
  freeDelivery : ∀ b, g b.freeDelivery = g b
  addTip : ∀ b tip, g (b.addTip tip) = g b
  redeem : ∀ b allocation, g (b.redeem allocation) = g b
  roundUp : ∀ b, g b.roundUp = g b

/-- No pass but the one that makes the delivery free changes `g`. -/
structure Steady (g : Breakdown → α) : Prop where
  setHandlingFee : ∀ b fee, g (b.setHandlingFee fee) = g b
  addTip : ∀ b tip, g (b.addTip tip) = g b
  redeem : ∀ b allocation, g (b.redeem allocation) = g b
  roundUp : ∀ b, g b.roundUp = g b

theorem Untouched.steady (hg : Untouched g) : Steady g :=
  ⟨hg.setHandlingFee, hg.addTip, hg.redeem, hg.roundUp⟩

theorem allocateTip_map (hg : Steady g) (tip base so : ℤ) (entries : List SellerEntry) :
    (allocateTip tip base so entries).map (fun e => g e.breakdown)
      = entries.map (fun e => g e.breakdown) := by
  fun_induction allocateTip tip base so entries with
  | case1 so => rfl
  | case2 so e => exact congrArg (fun a => [a]) (hg.addTip _ _)
  | case3 so e rest hrest share ih =>
    rw [map_cons, map_cons, ih]
    exact congrArg₂ cons (hg.addTip _ _) rfl

theorem allocateWallet_map (hg : Steady g) (wallet base so : ℤ) (entries : List SellerEntry) :
    (allocateWallet wallet base so entries).map (fun e => g e.breakdown)
      = entries.map (fun e => g e.breakdown) := by
  fun_induction allocateWallet wallet base so entries with
  | case1 so => rfl
  | case2 so e => exact congrArg (fun a => [a]) (hg.redeem _ _)
  | case3 so e rest hrest share ih =>
    rw [map_cons, map_cons, ih]
    exact congrArg₂ cons (hg.redeem _ _) rfl

/-- What the passes that are made do not change is the same at the end. -/
theorem stagesOf_map_of_steady (hg : Steady g) {coupon : Option CouponResult}
    (hfree : (coupon.map CouponResult.freeDelivery).getD false = true →
      ∀ b : Breakdown, g b.freeDelivery = g b) (store : Store) (r : PricingRequest)
    (items : List HydratedItem) (started : List SellerEntry) :
    (stagesOf store r items coupon started).rounded.map (fun e => g e.breakdown)
      = started.map (fun e => g e.breakdown) := by
  have hfee : ∀ entries handling, (applyGlobalHandlingFee entries handling).map
      (fun e => g e.breakdown) = entries.map (fun e => g e.breakdown) := by
    intro entries handling
    unfold applyGlobalHandlingFee
    split
    · rfl
    · exact map_mapBreakdown (fun _ b => hg.setHandlingFee b _) entries
  have htip : ∀ entries tip, (allocateCheckoutTip entries tip).map (fun e => g e.breakdown)
      = entries.map (fun e => g e.breakdown) := by
    intro entries tip
    unfold allocateCheckoutTip
    split
    · rfl
    · exact allocateTip_map hg _ _ _ entries
  have hwallet : ∀ flags entries amount, (applyWalletAllocation flags entries amount).map
      (fun e => g e.breakdown) = entries.map (fun e => g e.breakdown) := by
    intro flags entries amount
    unfold applyWalletAllocation
    split
    · rfl
    split
    · rfl
    split
    · rfl
    · exact allocateWallet_map hg _ _ _ entries
  have hround : ∀ entries, (roundUpAll entries).map (fun e => g e.breakdown)
      = entries.map (fun e => g e.breakdown) := map_mapBreakdown (fun _ b => hg.roundUp b)
  unfold stagesOf
  dsimp only
  rw [hround, hwallet, htip]
  split
  next h =>
    unfold applyFreeDelivery
    rw [map_mapBreakdown (fun _ b => hfree h b), hfee]
  next => rw [hfee]

/-- What no pass changes is the same at the end. -/
theorem stagesOf_map (hg : Untouched g) (store : Store) (r : PricingRequest)
    (items : List HydratedItem) (coupon : Option CouponResult) (started : List SellerEntry) :
    (stagesOf store r items coupon started).rounded.map (fun e => g e.breakdown)
      = started.map (fun e => g e.breakdown) :=
  stagesOf_map_of_steady hg.steady (fun _ => hg.freeDelivery) store r items started

end Untouched

end DiscountBazar.Pricing
