/-
How a checkout divides one amount between its sellers.

The tip is divided by the sellers' totals and the discount by their goods. Each share is rounded
to the paisa. The tip's last share is what the others leave of the tip, so the sum is exact but
the last share may come out below 0; the discount has no such share, so its sum is exact only
where what the rounding gains cancels.
-/
import DiscountBazar.Lib.Shares
import DiscountBazar.Pricing.Stages

namespace DiscountBazar.Pricing

open Shares Transaction Breakdown List Int

/-! ## What a pass adds -/

/-- What a pass over the entries has added to a field of each. -/
def growth (field : Breakdown → ℤ) (before after : List SellerEntry) : List ℤ :=
  zipWith (fun e e' => field e'.breakdown - field e.breakdown) before after

theorem growth_zipWith {field : Breakdown → ℤ} {f : Breakdown → ℤ → Breakdown}
    (hf : ∀ b a, field (f b a) = field b + a) {entries : List SellerEntry} {shares : List ℤ}
    (h : shares.length = entries.length) :
    growth field entries
      (zipWith (fun e a => e.mapBreakdown (fun b => f b a)) entries shares) = shares := by
  unfold growth
  induction entries generalizing shares with
  | nil => exact (eq_nil_of_length_eq_zero h).symm
  | cons e entries ih =>
    obtain ⟨a, shares, rfl⟩ := exists_cons_of_length_eq_add_one h
    rw [zipWith_cons_cons, zipWith_cons_cons, ih (Nat.succ.inj h)]
    exact congrArg₂ cons (sub_eq_of_eq_add' (hf e.breakdown a)) rfl

/-! ## Shares by the totals -/

section Totals

variable {amount : ℤ} {totals : List ℤ}

def paiseShare (amount : ℤ) (totals : List ℤ) (total : ℤ) : ℚ :=
  exactShare (amount : ℚ) (totals.map Int.cast) total

theorem sum_intCast (l : List ℤ) : (l.map (Int.cast : ℤ → ℚ)).sum = (l.sum : ℚ) := by
  induction l with
  | nil => simp
  | cons a l ih => rw [map_cons, sum_cons, sum_cons, Int.cast_add, ih]

theorem paiseShare_eq (amount : ℤ) (totals : List ℤ) (total : ℤ) :
    paiseShare amount totals total = amount * total / (totals.sum : ℚ) := by
  rw [paiseShare, exactShare, sum_intCast]

theorem paiseShare_nonneg (hamount : 0 ≤ amount) (htotals : ∀ t ∈ totals, 0 ≤ t) {total : ℤ}
    (htotal : 0 ≤ total) : 0 ≤ paiseShare amount totals total := by
  have hamount' : (0 : ℚ) ≤ amount := by exact_mod_cast hamount
  have htotal' : (0 : ℚ) ≤ total := by exact_mod_cast htotal
  have hsum : (0 : ℚ) ≤ totals.sum := by exact_mod_cast sum_nonneg htotals
  rw [paiseShare_eq]
  positivity

theorem shareOf_eq (hamount : 0 ≤ amount) (htotals : ∀ t ∈ totals, 0 ≤ t) {total : ℤ}
    (htotal : 0 ≤ total) :
    shareOf amount total totals.sum = ⌊paiseShare amount totals total + 1 / 2⌋ := by
  have hshare := paiseShare_nonneg hamount htotals htotal
  unfold shareOf
  split
  next hbase =>
    have hbase' : (totals.sum : ℚ) ≠ 0 := by exact_mod_cast hbase.ne'
    have heq : fromPaise total / fromPaise totals.sum * fromPaise amount * 100
        = paiseShare amount totals total := by
      rw [paiseShare_eq]
      unfold fromPaise
      field_simp
    have hnonneg : 0 ≤ fromPaise total / fromPaise totals.sum * fromPaise amount :=
      mul_nonneg (div_nonneg (fromPaise_nonneg htotal) (fromPaise_nonneg hbase.le))
        (fromPaise_nonneg hamount)
    rw [round2_of_nonneg hnonneg, heq]
    rfl
  next hbase =>
    have hzero : totals.sum = 0 := le_antisymm (not_lt.mp hbase) (sum_nonneg htotals)
    rw [paiseShare_eq, hzero]
    norm_num

/-- What rounding adds to all shares but the last is no more than the last share. -/
def RestFits (amount : ℤ) (totals : List ℤ) : Prop :=
  ((totals.dropLast.map (paiseShare amount totals)).map roundGain).sum
    ≤ paiseShare amount totals (totals.getLastD 0)

instance (amount : ℤ) (totals : List ℤ) : Decidable (RestFits amount totals) :=
  inferInstanceAs (Decidable (_ ≤ _))

theorem shareOf_map (hamount : 0 ≤ amount) (htotals : ∀ t ∈ totals, 0 ≤ t) {part : List ℤ}
    (hpart : ∀ t ∈ part, t ∈ totals) :
    part.map (fun t => shareOf amount t totals.sum)
      = (part.map (paiseShare amount totals)).map (fun x => ⌊x + 1 / 2⌋) := by
  rw [map_map]
  exact map_congr_left (fun t ht => shareOf_eq hamount htotals (htotals t (hpart t ht)))

theorem rest_of_totals {init : List ℤ} {last : ℤ} (hbase : (init ++ [last]).sum ≠ 0) :
    ((amount - ((init.map (paiseShare amount (init ++ [last]))).map
        (fun x => ⌊x + 1 / 2⌋)).sum : ℤ) : ℚ)
      = paiseShare amount (init ++ [last]) last
        - ((init.map (paiseShare amount (init ++ [last]))).map roundGain).sum := by
  refine rest_eq ?_
  have hbase' : ((init ++ [last]).map (Int.cast : ℤ → ℚ)).sum ≠ 0 := by
    rw [sum_intCast]
    exact_mod_cast hbase
  have hsum := @sum_exactShare ℚ _ amount _ hbase'
  rwa [map_map, map_append, map_singleton] at hsum

end Totals

/-! ## The tip -/

section Tip

variable {entries : List SellerEntry}

/-- The tip is divided as it should be: no share is negative, the shares make the tip, and each
is what its rider and its order's total get. -/
structure TipSplit (before after : List SellerEntry) (tip : ℤ) : Prop where
  sellers : after.length = before.length
  nonneg : ∀ share ∈ growth tipTotal before after, 0 ≤ share
  whole : (growth tipTotal before after).sum = tip
  rider : growth riderPayoutTotal before after = growth tipTotal before after
  total : growth grandTotal before after = growth tipTotal before after

theorem allocateTip_eq (tip base so : ℤ) (entries : List SellerEntry) :
    allocateTip tip base so entries
      = zipWith (fun e a => e.mapBreakdown (fun b => b.addTip a)) entries
          (withRest (tip - so) ((totals entries).map (fun t => shareOf tip t base))) := by
  fun_induction allocateTip tip base so entries with
  | case1 so => rfl
  | case2 so e => rfl
  | case3 so e rest hrest share ih =>
    obtain ⟨e', rest, rfl⟩ : ∃ e' rest', rest = e' :: rest' := exists_cons_of_ne_nil hrest
    rw [ih, ← sub_sub]
    rfl

/-- What the rounded shares of a positive amount leave for the last is not negative exactly where
the rest fits. -/
theorem withRest_nonneg_iff {amount : ℤ} {totals : List ℤ} (hamount : 0 ≤ amount)
    (hne : totals ≠ []) (htotals : ∀ t ∈ totals, 0 ≤ t) :
    (∀ a ∈ withRest amount (totals.map (fun t => shareOf amount t totals.sum)), 0 ≤ a)
      ↔ RestFits amount totals := by
  obtain ⟨init, last, rfl⟩ : ∃ init last, totals = init ++ [last] :=
    ⟨_, _, (dropLast_append_getLast hne).symm⟩
  have hinit := shareOf_map hamount htotals
    (fun t ht => mem_append_left [last] ht)
  have hshares : ∀ a ∈ init.map (fun t => shareOf amount t (init ++ [last]).sum), 0 ≤ a := by
    intro a ha
    obtain ⟨t, ht, rfl⟩ := mem_map.mp ha
    have ht' := htotals t (mem_append_left _ ht)
    rw [shareOf_eq hamount htotals ht']
    have hpos := paiseShare_nonneg hamount htotals ht'
    exact floor_nonneg.mpr (by linarith)
  rw [map_append, map_singleton, withRest_concat, forall_mem_append,
    forall_mem_singleton, and_iff_right hshares, hinit, ← @cast_nonneg_iff ℚ]
  unfold RestFits
  rw [dropLast_concat, getLastD_concat]
  by_cases hbase : (init ++ [last]).sum = 0
  · -- without a base there are no shares, and the rest is all
    have hzero : ∀ t, paiseShare amount (init ++ [last]) t = 0 := by
      intro t
      rw [paiseShare_eq, hbase, cast_zero, div_zero]
    have hconst : init.map (paiseShare amount (init ++ [last])) = init.map (fun _ => 0) :=
      map_congr_left (fun t _ => hzero t)
    rw [hconst, hzero]
    have hgain : roundGain (0 : ℚ) = 0 := by norm_num [roundGain, fract]
    have hround : ⌊(0 : ℚ) + 1 / 2⌋ = 0 := by norm_num
    rw [map_const', map_replicate, map_replicate, hgain, hround, sum_replicate,
      sum_replicate, nsmul_zero, nsmul_zero, sub_zero, iff_true_right (le_refl 0)]
    exact_mod_cast hamount
  · rw [rest_of_totals hbase, sub_nonneg]

theorem round2_pos_of_min {x : ℚ} (h : 1 / 100 ≤ x) : 0 < round2 x := by
  rw [round2_of_nonneg (by linarith)]
  exact roundCurrency_pos_of_min h

end Tip

def goodsOnly (sellerId : ObjectId) (total : ℕ) : SellerEntry where
  sellerId := sellerId
  distanceKm := 0
  minimumOrder := ⟨0, total, 0⟩
  items := []
  breakdown :=
    { productSubtotal := total
      deliveryFeeCharged := 0
      globalDeliveryFee := 0
      productDeliveryFeeTotal := 0
      isFreeDelivery := true
      handlingFeeCharged := 0
      tipTotal := 0
      discountTotal := 0
      taxTotal := 0
      grossTotal := total
      grandTotal := total
      walletAmount := 0
      walletNettedInGrandTotal := false
      payableAmount := total
      sellerPayoutTotal := total
      adminProductCommissionTotal := 0
      riderPayoutBase := 0
      riderPayoutDistance := 0
      riderTipAmount := 0
      riderPayoutTotal := 0
      platformLogisticsMargin := 0
      platformTotalEarning := 0 }

def fourOrders : List SellerEntry :=
  [goodsOnly 1 10000, goodsOnly 2 10000, goodsOnly 3 10000, goodsOnly 4 10000]

section Discount

variable {items : List HydratedItem}

def discountShare (items : List HydratedItem) (discount : ℤ) (sellerId : ObjectId) : ℚ :=
  discount * sellerRatio items sellerId

def paisaGain (share : ℚ) : ℚ := if share < 0 then -roundGain (-share) else roundGain share

theorem sellerDiscount_eq (items : List HydratedItem) (discount : ℤ) (sellerId : ObjectId) :
    (sellerDiscount items discount sellerId : ℚ)
      = discountShare items discount sellerId + paisaGain (discountShare items discount sellerId) := by
  have hpaise : fromPaise discount * sellerRatio items sellerId * 100
      = discountShare items discount sellerId := by
    unfold discountShare fromPaise
    ring
  have hsign : fromPaise discount * sellerRatio items sellerId < 0
      ↔ discountShare items discount sellerId < 0 := by
    rw [← hpaise]
    constructor <;> intro h <;> linarith
  unfold sellerDiscount round2 paisaGain mathRound
  by_cases hneg : discountShare items discount sellerId < 0
  · rw [if_pos (hsign.mpr hneg), if_pos hneg, neg_mul, hpaise, cast_neg, floor_add_half]
    ring
  · rw [if_neg (mt hsign.mp hneg), if_neg hneg, hpaise, floor_add_half]

theorem sum_discountShare (hne : items ≠ []) (hpriced : ∀ item ∈ items, item.Priced)
    (discount : ℤ) : ((sellerIds items).map (discountShare items discount)).sum = discount := by
  have hratio : ((sellerIds items).map (sellerRatio items)).sum = 1 := by
    unfold sellerRatio
    dsimp only
    rw [sum_merchandiseSubtotal]
    by_cases hpos : 0 < merchandiseSubtotal items
    · have hpos' : (merchandiseSubtotal items : ℚ) ≠ 0 := by exact_mod_cast hpos.ne'
      have hsum : ((sellerIds items).map (fun s => (merchandiseSubtotal (itemsOf items s) : ℚ))).sum
          = merchandiseSubtotal items := by
        rw [← sum_merchandiseSubtotal items, ← sum_intCast, map_map]
        rfl
      simp only [if_pos hpos, div_eq_mul_inv]
      rw [sum_map_mul_right, hsum, mul_inv_cancel₀ hpos']
    · obtain ⟨item, rest, rfl⟩ := exists_cons_of_ne_nil hne
      have hmem : item.sellerId ∈ sellerIds (item :: rest) :=
        mem_sellerIds.mpr ⟨item, mem_cons_self .., rfl⟩
      have hlength : ((sellerIds (item :: rest)).length : ℚ) ≠ 0 :=
        Nat.cast_ne_zero.mpr (length_pos_of_mem hmem).ne'
      simp only [if_neg hpos]
      rw [map_const', sum_replicate, nsmul_eq_mul, mul_one_div_cancel hlength]
  unfold discountShare
  rw [sum_map_mul_left, hratio, mul_one]

/-- The discount is divided as it should be: the shares make it, and none is more than the
seller's goods. -/
structure DiscountSplit (entries : List SellerEntry) (discount : ℤ) : Prop where
  whole : (entries.map (fun e => e.breakdown.discountTotal)).sum = discount
  within : ∀ e ∈ entries, e.breakdown.discountTotal ≤ e.breakdown.productSubtotal

/-- What the rounding of the exact shares gains cancels. -/
def GainsCancel (items : List HydratedItem) (discount : ℤ) : Prop :=
  ((sellerIds items).map (fun s => paisaGain (discountShare items discount s))).sum = 0

/-- No exact share is half a paisa more than the seller's goods. -/
def SharesWithin (items : List HydratedItem) (discount : ℤ) : Prop :=
  ∀ s ∈ sellerIds items,
    discountShare items discount s < merchandiseSubtotal (itemsOf items s) + 1 / 2

theorem sum_sellerDiscount_iff (hne : items ≠ []) (hpriced : ∀ item ∈ items, item.Priced)
    (discount : ℤ) :
    ((sellerIds items).map (sellerDiscount items discount)).sum = discount
      ↔ GainsCancel items discount := by
  unfold GainsCancel
  rw [← @Int.cast_inj ℚ, ← sum_intCast, map_map]
  have hsum : ((sellerIds items).map ((Int.cast : ℤ → ℚ) ∘ sellerDiscount items discount)).sum
      = ((sellerIds items).map (discountShare items discount)).sum
        + ((sellerIds items).map (fun s => paisaGain (discountShare items discount s))).sum := by
    rw [← sum_map_add]
    exact congrArg sum (map_congr_left (fun s _ => sellerDiscount_eq items discount s))
  rw [hsum, sum_discountShare hne hpriced, add_eq_left]

theorem sellerDiscount_le_iff (hpriced : ∀ item ∈ items, item.Priced) (discount : ℤ)
    (s : ObjectId) :
    sellerDiscount items discount s ≤ merchandiseSubtotal (itemsOf items s)
      ↔ discountShare items discount s < merchandiseSubtotal (itemsOf items s) + 1 / 2 := by
  have hgoods := merchandiseSubtotal_nonneg (itemsOf_priced hpriced s)
  have hgoods' : (0 : ℚ) ≤ merchandiseSubtotal (itemsOf items s) := by exact_mod_cast hgoods
  have hpaise : fromPaise discount * sellerRatio items s * 100 = discountShare items discount s := by
    unfold discountShare fromPaise
    ring
  unfold sellerDiscount round2 mathRound
  split
  next hneg =>
    -- a share below 0 is within any goods
    have hround : 0 ≤ ⌊-(fromPaise discount * sellerRatio items s) * 100 + 1 / 2⌋ :=
      floor_nonneg.mpr (by linarith)
    refine iff_of_true (by omega) ?_
    linarith
  next hnonneg =>
    rw [hpaise, ← lt_add_one_iff, floor_lt]
    push_cast
    constructor <;> intro h <;> linarith

end Discount

section Coupon

variable {store : Store} {r : PricingRequest} {items : List HydratedItem}
  {coupon : Option CouponResult} {started : List SellerEntry}

theorem Started.sharesWithin (h : Started store r items coupon started) {c : CouponResult}
    (hc : coupon = some c) : SharesWithin items (effectiveDiscount coupon r.discountTotal) := by
  subst hc
  rcases checkoutCoupon_ok h.found with ⟨-, c', hc', hle, hnonneg⟩ | ⟨-, hnone⟩
  · cases hc'
    have hcart := cartSubtotal_le h.priced
    intro s _
    rw [← sellerDiscount_le_iff h.priced]
    exact sellerDiscount_le h.priced (hnonneg hcart.1) (hle.trans hcart.2) s
  · cases hnone

/-- The discounts and the goods of the entries, as the checkout divides them. -/
theorem Started.discounts (h : Started store r items coupon started) :
    (stagesOf store r items coupon started).rounded.map
        (fun e => (e.breakdown.discountTotal, e.breakdown.productSubtotal))
      = (sellerIds items).map (fun s =>
          (sellerDiscount items (effectiveDiscount coupon r.discountTotal) s,
            merchandiseSubtotal (itemsOf items s))) := by
  have hpasses := stagesOf_map (g := fun b => (b.discountTotal, b.productSubtotal))
    ⟨fun _ _ => rfl, fun b => by
      rw [freeDelivery_discountTotal, freeDelivery_productSubtotal], fun _ _ => rfl, fun _ _ => rfl,
      fun _ => rfl⟩ store r items coupon started
  rw [hpasses]
  refine mapM_sellerEntry_map h.entries (fun s km => Prod.ext rfl ?_)
  dsimp only
  exact entryAt_productSubtotal h.priced _ s km

end Coupon

def hundredOff : Coupon where
  id := 4
  code := "HUNDRED"
  discountType := .fixed
  discountValue := 100
  validFrom := 0
  validTill := 10

def threeHundredShop : Store where
  products := fun id => if id ≤ 3 then some { name := "Lamp", price := 300, headerId := 1, sellerId := id }
    else none
  coupons := { coupons := [hundredOff] }

/-- One thing of each of some sellers, with the coupon. -/
def couponRequest (ids : List ObjectId) : PricingRequest where
  orderItems := ids.map (fun id => { product := id, quantity := 1 })
  coupon := { couponId := some (some 4) }
  customerId := some 7

def lampLine (id : ObjectId) : HydratedItem where
  productId := id
  productName := "Lamp"
  quantity := 1
  price := 30000
  headerCategoryId := 1
  sellerId := id

def lampEntries (ids : List ObjectId) : List SellerEntry :=
  ids.map (fun s => entryAt threeHundredShop (ids.map lampLine) 10000 s 0)

theorem started_two : Started threeHundredShop (couponRequest [1, 2]) ([1, 2].map lampLine)
    (some ⟨4, 10000, false⟩) (lampEntries [1, 2]) := by
  have hids : sellerIds ([1, 2].map lampLine) = [1, 2] := mergeSort_of_pairwise (by decide)
  refine ⟨ok_of_toOption (by decide +kernel), by decide,
    ok_of_toOption (by decide +kernel), ?_⟩
  rw [hids]
  exact mapM_entryAt (fun s _ => rfl)

theorem started_three : Started threeHundredShop (couponRequest [1, 2, 3]) ([1, 2, 3].map lampLine)
    (some ⟨4, 10000, false⟩) (lampEntries [1, 2, 3]) := by
  have hids : sellerIds ([1, 2, 3].map lampLine) = [1, 2, 3] :=
    mergeSort_of_pairwise (by decide)
  refine ⟨ok_of_toOption (by decide +kernel), by decide,
    ok_of_toOption (by decide +kernel), ?_⟩
  rw [hids]
  exact mapM_entryAt (fun s _ => rfl)

end DiscountBazar.Pricing
