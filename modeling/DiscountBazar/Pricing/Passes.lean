/-
What the passes of a checkout keep of a seller's price.

Up to the wallet a seller's entry redeems nothing, since its gross total is never below 0:
a coupon takes no more off than the cart is worth, and each seller's share of it no more
than that seller's part. The wallet pass then changes two sums only, what is taken of the
sellers' totals and what is left of them.
-/
import DiscountBazar.Lib.Keys
import DiscountBazar.Pricing.Checkout
import Mathlib.Algebra.BigOperators.Ring.List
import Mathlib.Data.List.Dedup

namespace DiscountBazar.Pricing

open Breakdown List Transaction

/-! ## Rounding -/

theorem le_mathCeil (a : ℤ) : a ≤ mathCeil a := by
  unfold mathCeil
  omega

theorem mathCeil_nonneg {a : ℤ} (h : 0 ≤ a) : 0 ≤ mathCeil a := by
  unfold mathCeil
  omega

theorem mathCeil_eq_self {a : ℤ} : mathCeil a = a ↔ 100 ∣ a := by
  unfold mathCeil
  omega

theorem dvd_mathCeil (a : ℤ) : 100 ∣ mathCeil a := by
  unfold mathCeil
  exact Dvd.intro_left _ rfl

@[simp] theorem mathCeil_mathCeil (a : ℤ) : mathCeil (mathCeil a) = mathCeil a :=
  mathCeil_eq_self.mpr (dvd_mathCeil a)

theorem mathCeil_sum_map {α : Type*} (f : α → ℤ) (l : List α) :
    mathCeil (l.map (fun a => mathCeil (f a))).sum = (l.map (fun a => mathCeil (f a))).sum := by
  refine mathCeil_eq_self.mpr (dvd_sum (fun x hx => ?_))
  obtain ⟨a, -, rfl⟩ := mem_map.mp hx
  exact dvd_mathCeil _

theorem round2_of_nonneg {x : ℚ} (h : 0 ≤ x) : round2 x = mathRound (x * 100) := by
  unfold round2
  exact if_neg (not_lt.mpr h)

theorem round2_nonneg {x : ℚ} (h : 0 ≤ x) : 0 ≤ round2 x := by
  rw [round2_of_nonneg h]
  exact mathRound_nonneg (by positivity)

@[simp] theorem round2_zero : round2 0 = 0 := by
  norm_num [round2, mathRound]

theorem round2_fromPaise {p : ℤ} (h : 0 ≤ p) : round2 (fromPaise p) = p := by
  have h0 : 0 ≤ fromPaise p := by
    have := fromPaise_le.mpr h
    rwa [fromPaise_zero] at this
  rw [round2_of_nonneg h0]
  exact roundCurrency_fromPaise p

theorem percentOf_nonneg {paise : ℤ} {rate : ℚ} (hp : 0 ≤ paise) (hr : 0 ≤ rate) :
    0 ≤ percentOf paise rate := by
  have : (0 : ℚ) ≤ paise := by exact_mod_cast hp
  exact mathRound_nonneg (by positivity)

/-! ## Hydrated lines -/

/-- The price of a line is not negative and no more than amounts can be. -/
def HydratedItem.Priced (item : HydratedItem) : Prop := 0 ≤ item.price ∧ item.price ≤ maxPaise

theorem clampMoney_priced (x : ℚ) : 0 ≤ clampMoney x 0 ∧ clampMoney x 0 ≤ maxPaise := by
  unfold clampMoney
  have hmax : (0 : ℚ) ≤ MAX_SAFE_INTEGER := by norm_num [MAX_SAFE_INTEGER]
  constructor
  · exact roundCurrency_nonneg (le_min (le_max_right ..) hmax)
  · have h := roundCurrency_mono (min_le_right (max x 0) MAX_SAFE_INTEGER)
    have hround : roundCurrency MAX_SAFE_INTEGER = maxPaise := by
      rw [← fromPaise_maxPaise, roundCurrency_fromPaise]
    rwa [hround] at h

theorem serverUnitPrice_priced (p : Product) (v : Option ProductVariant) :
    0 ≤ serverUnitPrice p v ∧ serverUnitPrice p v ≤ maxPaise := by
  unfold serverUnitPrice
  split
  · exact clampMoney_priced _
  · split
    · exact clampMoney_priced _
    · exact clampMoney_priced _

variable {products : ObjectId → Option Product}

theorem hydrateItem_priced {item : OrderItemInput} {hydrated : HydratedItem}
    (h : hydrateItem products item = .ok hydrated) : hydrated.Priced := by
  unfold hydrateItem at h
  split at h
  · cases h
  · rw [ite_throw_eq_ok, ite_throw_eq_ok] at h
    obtain ⟨-, -, h⟩ := h
    obtain ⟨v, -, h⟩ := bind_eq_ok.mp h
    rw [pure_eq_ok.mp h]
    exact serverUnitPrice_priced _ v

theorem forall_of_mapM {α β ε : Type} {f : α → Except ε β} {P : β → Prop}
    (hf : ∀ a b, f a = .ok b → P b) {as : List α} {bs : List β} (h : as.mapM f = .ok bs) :
    ∀ b ∈ bs, P b := by
  intro b hb
  obtain ⟨a, -, hab⟩ := mem_of_mapM h hb
  exact hf a b hab

theorem hydrateOrderItems_priced {items : List OrderItemInput} {hydrated : List HydratedItem}
    (h : hydrateOrderItems products items = .ok hydrated) : ∀ item ∈ hydrated, item.Priced :=
  forall_of_mapM (fun _ _ => hydrateItem_priced) h

theorem normalizeLinePrice_fromPaise {p : ℤ} (h0 : 0 ≤ p) (h : p ≤ maxPaise) :
    normalizeLinePrice (fromPaise p) = p := by
  have hadd := clampMoney_add p 0
  rw [fromPaise_zero, add_zero, add_zero, max_eq_left h0, min_eq_left h] at hadd
  exact hadd

theorem HydratedItem.Priced.subtotal_eq {item : HydratedItem} (h : item.Priced) :
    item.subtotal = item.price * normalizeLineQuantity item.quantity := by
  unfold HydratedItem.subtotal
  rw [normalizeLinePrice_fromPaise h.1 h.2]

theorem HydratedItem.Priced.subtotal_nonneg {item : HydratedItem} (h : item.Priced) :
    0 ≤ item.subtotal := by
  rw [h.subtotal_eq]
  exact mul_nonneg h.1 (Int.natCast_nonneg _)

/-! ## Shares of the discount -/

section Shares

variable {items : List HydratedItem}

theorem sellerIds_nodup (items : List HydratedItem) : (sellerIds items).Nodup :=
  (mergeSort_perm _ _).nodup_iff.mpr (nodup_dedup _)

theorem mem_sellerIds {s : ObjectId} :
    s ∈ sellerIds items ↔ ∃ item ∈ items, item.sellerId = s := by
  unfold sellerIds
  rw [(mergeSort_perm _ _).mem_iff, mem_dedup, mem_map]

theorem sum_merchandiseSubtotal (items : List HydratedItem) :
    ((sellerIds items).map (fun s => merchandiseSubtotal (itemsOf items s))).sum
      = merchandiseSubtotal items :=
  (sum_eq_sumAt HydratedItem.sellerId _ (sellerIds_nodup items)
    (fun item h => mem_sellerIds.mpr ⟨item, h, rfl⟩)).symm

theorem merchandiseSubtotal_nonneg (h : ∀ item ∈ items, item.Priced) :
    0 ≤ merchandiseSubtotal items := by
  refine sum_nonneg (fun x hx => ?_)
  obtain ⟨item, hitem, rfl⟩ := mem_map.mp hx
  exact mul_nonneg (h item hitem).1 (Int.natCast_nonneg _)

theorem itemsOf_priced (h : ∀ item ∈ items, item.Priced) (s : ObjectId) :
    ∀ item ∈ itemsOf items s, item.Priced :=
  fun item hitem => h item (mem_of_mem_filter hitem)

theorem sellerRatio_nonneg (h : ∀ item ∈ items, item.Priced) (s : ObjectId) :
    0 ≤ sellerRatio items s := by
  unfold sellerRatio
  rw [sum_merchandiseSubtotal]
  have hown : (0 : ℚ) ≤ merchandiseSubtotal (itemsOf items s) := by
    exact_mod_cast merchandiseSubtotal_nonneg (itemsOf_priced h s)
  have htotal : (0 : ℚ) ≤ merchandiseSubtotal items := by
    exact_mod_cast merchandiseSubtotal_nonneg h
  dsimp only
  split <;> positivity

theorem sellerDiscount_nonneg (h : ∀ item ∈ items, item.Priced) {d : ℤ} (hd : 0 ≤ d) (s : ObjectId) :
    0 ≤ sellerDiscount items d s :=
  round2_nonneg (mul_nonneg (fromPaise_nonneg hd) (sellerRatio_nonneg h s))

@[simp] theorem sellerDiscount_zero (items : List HydratedItem) (s : ObjectId) :
    sellerDiscount items 0 s = 0 := by
  simp [sellerDiscount]

theorem sellerDiscount_le (h : ∀ item ∈ items, item.Priced) {d : ℤ} (hd : 0 ≤ d)
    (hle : d ≤ merchandiseSubtotal items) (s : ObjectId) :
    sellerDiscount items d s ≤ merchandiseSubtotal (itemsOf items s) := by
  have hown := merchandiseSubtotal_nonneg (itemsOf_priced h s)
  unfold sellerDiscount
  rw [round2_of_nonneg (mul_nonneg (fromPaise_nonneg hd) (sellerRatio_nonneg h s))]
  refine mathRound_le ?_
  unfold sellerRatio
  rw [sum_merchandiseSubtotal]
  dsimp only
  by_cases htotal : 0 < merchandiseSubtotal items
  · rw [if_pos htotal]
    have htotal' : (0 : ℚ) < merchandiseSubtotal items := by exact_mod_cast htotal
    have hle' : (d : ℚ) ≤ merchandiseSubtotal items := by exact_mod_cast hle
    have hown' : (0 : ℚ) ≤ merchandiseSubtotal (itemsOf items s) := by exact_mod_cast hown
    calc fromPaise d * (merchandiseSubtotal (itemsOf items s) / merchandiseSubtotal items) * 100
        = d * merchandiseSubtotal (itemsOf items s) / merchandiseSubtotal items := by
          unfold fromPaise
          ring
      _ ≤ merchandiseSubtotal items * merchandiseSubtotal (itemsOf items s)
            / merchandiseSubtotal items := by gcongr
      _ = merchandiseSubtotal (itemsOf items s) := by field_simp
  · -- a cart of no value has no discount
    have hzero : d = 0 := by omega
    rw [hzero, fromPaise_zero, zero_mul, zero_mul]
    exact_mod_cast hown

end Shares

/-! ## Fees -/

section Fees

variable {items : List HydratedItem} {categories : ObjectId → Option Category}

theorem resolvedValue_nonneg (value : Option ℚ) (legacy : ℚ) : 0 ≤ resolvedValue value legacy := by
  unfold resolvedValue
  split
  · exact le_max_right ..
  · exact le_max_right ..

theorem resolveHandlingConfig_nonneg (c : Option Category) : 0 ≤ (resolveHandlingConfig c).2 := by
  cases c with
  | none => exact le_refl 0
  | some c => exact resolvedValue_nonneg _ _

theorem calculateHandlingForCategory_nonneg {config : HandlingFeeType × ℚ} {subtotal : ℤ}
    (hconfig : 0 ≤ config.2) (hsubtotal : 0 ≤ subtotal) :
    0 ≤ calculateHandlingForCategory config subtotal := by
  unfold calculateHandlingForCategory
  split
  · exact le_refl 0
  · exact percentOf_nonneg hsubtotal hconfig
  · exact roundCurrency_nonneg hconfig

theorem categorySubtotal_nonneg (h : ∀ item ∈ items, item.Priced) (headerId : ObjectId) :
    0 ≤ categorySubtotal items headerId := by
  refine sum_nonneg (fun x hx => ?_)
  obtain ⟨item, hitem, rfl⟩ := mem_map.mp hx
  exact (h item (mem_of_mem_filter hitem)).subtotal_nonneg

theorem categoryFees_nonneg (h : ∀ item ∈ items, item.Priced) :
    ∀ row ∈ categoryFees items categories, 0 ≤ row.2 := by
  intro row hrow
  obtain ⟨headerId, -, rfl⟩ := mem_map.mp hrow
  exact calculateHandlingForCategory_nonneg (resolveHandlingConfig_nonneg _)
    (categorySubtotal_nonneg h headerId)

theorem maxCategory_mem {rows : List (ObjectId × ℤ)} {row : ObjectId × ℤ}
    (h : maxCategory rows = some row) : row ∈ rows := by
  cases rows with
  | nil => cases h
  | cons first rest =>
    have hfold : ∀ (l : List (ObjectId × ℤ)) (best : ObjectId × ℤ),
        l.foldl (fun best row => if best.2 < row.2 then row else best) best ∈ best :: l := by
      intro l
      induction l with
      | nil => exact fun best => mem_cons_self ..
      | cons a l ih =>
        intro best
        rw [foldl_cons]
        split
        · exact mem_cons_of_mem _ (ih a)
        · rcases mem_cons.mp (ih best) with hb | hl
          · rw [hb]
            exact mem_cons_self ..
          · exact mem_cons_of_mem _ (mem_cons_of_mem _ hl)
    rw [← Option.some.inj h]
    exact hfold rest first

theorem perItemFee_nonneg {item : HydratedItem} (h : item.Priced) :
    0 ≤ perItemFee categories item := by
  unfold perItemFee
  have hconfig := resolveHandlingConfig_nonneg (categories item.headerCategoryId)
  split
  next value heq =>
    rw [heq] at hconfig
    exact roundCurrency_nonneg (mul_nonneg hconfig (Nat.cast_nonneg _))
  next => exact calculateHandlingForCategory_nonneg hconfig h.subtotal_nonneg

theorem calculateHandlingFee_nonneg (h : ∀ item ∈ items, item.Priced) (strategy : HandlingFeeStrategy) :
    0 ≤ (calculateHandlingFee items strategy categories).1 := by
  have hmax : 0 ≤ ((maxCategory (categoryFees items categories)).map Prod.snd).getD 0 := by
    cases hm : maxCategory (categoryFees items categories) with
    | none => exact le_refl 0
    | some row => exact categoryFees_nonneg h row (maxCategory_mem hm)
  cases strategy with
  | sumOfCategoryFees =>
    refine sum_nonneg (fun x hx => ?_)
    obtain ⟨row, hrow, rfl⟩ := mem_map.mp hx
    exact categoryFees_nonneg h row hrow
  | perItemFee =>
    refine sum_nonneg (fun x hx => ?_)
    obtain ⟨item, hitem, rfl⟩ := mem_map.mp hx
    exact perItemFee_nonneg (h item hitem)
  | highestCategoryFee | maxSingleFee => exact hmax

theorem calculateCustomerDeliveryFee_nonneg (distanceKm : ℚ) (settings : Settings) :
    0 ≤ calculateCustomerDeliveryFee distanceKm settings := by
  unfold calculateCustomerDeliveryFee
  split
  · exact Int.natCast_nonneg _
  · dsimp only
    split
    · exact Int.natCast_nonneg _
    · positivity

theorem le_quoteCartProductDelivery (items : List HydratedItem) (seen : List ObjectId) (fee : ℤ) :
    fee ≤ quoteCartProductDelivery items seen fee := by
  induction items generalizing seen fee with
  | nil => exact le_refl fee
  | cons item items ih =>
    unfold quoteCartProductDelivery
    split
    · exact ih seen fee
    · exact (le_max_left ..).trans (ih _ _)

end Fees

/-! ## A seller's entry -/

section Entry

variable {store : Store} {location : Option Location} {items : List HydratedItem}

theorem productSubtotal_eq (flags : Flags) (categories : ObjectId → Option Category)
    (settings : Settings) (h : ∀ item ∈ items, item.Priced) (distanceKm : ℚ) (discount tax : ℤ) :
    (generateOrderPaymentBreakdown flags categories settings items distanceKm discount
      tax).productSubtotal = merchandiseSubtotal items := by
  have hmap : items.map (fun item => (calculateCategoryCommission item
      (categories item.headerCategoryId)).itemSubtotal)
      = items.map (fun item => item.price * (normalizeLineQuantity item.quantity : ℤ)) :=
    map_congr_left (fun item hitem => (h item hitem).subtotal_eq)
  simp only [generateOrderPaymentBreakdown, map_map, merchandiseSubtotal]
  exact congrArg sum hmap

/-- Where the discount is within the cart, nothing is redeemed before the wallet pass. -/
theorem generateOrderPaymentBreakdown_walletAmount (flags : Flags)
    (categories : ObjectId → Option Category) (settings : Settings)
    (h : ∀ item ∈ items, item.Priced) (distanceKm : ℚ) {discount tax : ℤ}
    (hdiscount : discount ≤ merchandiseSubtotal items) (htax : 0 ≤ tax) :
    (generateOrderPaymentBreakdown flags categories settings items distanceKm discount
      tax).walletAmount = 0 := by
  have hsub := productSubtotal_eq flags categories settings h distanceKm discount tax
  have hdelivery := calculateCustomerDeliveryFee_nonneg distanceKm settings
  have hproduct := le_quoteCartProductDelivery items [] 0
  have hhandling : 0 ≤ (calculateHandlingFee items settings.handlingFeeStrategy categories).1 :=
    calculateHandlingFee_nonneg h _
  simp only [generateOrderPaymentBreakdown] at hsub ⊢
  split
  · refine min_eq_left (mathCeil_nonneg ?_)
    omega
  · rfl

def entryAt (store : Store) (items : List HydratedItem) (effectiveDiscount : ℤ) (sellerId : ObjectId)
    (distanceKm : ℚ) : SellerEntry :=
  let own := itemsOf items sellerId
  let discount := sellerDiscount items effectiveDiscount sellerId
  { sellerId
    distanceKm
    minimumOrder := evaluateMinimumOrder store.settings.minOrderValue (merchandiseSubtotal own)
      discount store.settings.minOrderValueAfterCoupon
    items := own
    breakdown := generateOrderPaymentBreakdown store.flags store.categories store.settings own
      distanceKm discount
      (mathCeil (round2 (fromPaise (merchandiseSubtotal own) * store.settings.globalTaxRate / 100))) }

theorem sellerEntry_eq_ok {d : ℤ} {s : ObjectId} {e : SellerEntry} :
    sellerEntry store location items d s = .ok e ↔
      ∃ km, store.distanceKm s location = .ok km ∧ e = entryAt store items d s km := by
  unfold sellerEntry
  rw [bind_eq_ok]
  exact exists_congr (fun km => and_congr_right (fun _ => pure_eq_ok))

theorem entryAt_walletAmount (h : ∀ item ∈ items, item.Priced) {d : ℤ} (hd : 0 ≤ d)
    (hle : d ≤ merchandiseSubtotal items) (s : ObjectId) (km : ℚ) :
    (entryAt store items d s km).breakdown.walletAmount = 0 := by
  have hown := itemsOf_priced h s
  refine generateOrderPaymentBreakdown_walletAmount _ _ _ hown km (sellerDiscount_le h hd hle s) ?_
  have hsub := fromPaise_nonneg (merchandiseSubtotal_nonneg hown)
  exact mathCeil_nonneg (round2_nonneg (div_nonneg (mul_nonneg hsub (NNRat.coe_nonneg _)) (by norm_num)))

variable {ids : List ObjectId} {entries : List SellerEntry}

theorem mapM_sellerEntry (d : ℤ) {d' : ℤ}
    (h : ids.mapM (sellerEntry store location items d') = .ok entries) :
    ∃ entries', ids.mapM (sellerEntry store location items d) = .ok entries' := by
  induction ids generalizing entries with
  | nil => exact ⟨[], rfl⟩
  | cons s ids ih =>
    rw [mapM_cons] at h
    obtain ⟨e, he, h⟩ := bind_eq_ok.mp h
    obtain ⟨es, hes, -⟩ := bind_eq_ok.mp h
    obtain ⟨km, hkm, -⟩ := sellerEntry_eq_ok.mp he
    obtain ⟨es', hes'⟩ := ih hes
    refine ⟨entryAt store items d s km :: es', ?_⟩
    rw [mapM_cons]
    exact bind_eq_ok.mpr ⟨_, sellerEntry_eq_ok.mpr ⟨km, hkm, rfl⟩,
      bind_eq_ok.mpr ⟨es', hes', rfl⟩⟩

theorem mapM_sellerEntry_congr {d d' : ℤ}
    (h : ∀ s ∈ ids, sellerDiscount items d s = sellerDiscount items d' s) :
    ids.mapM (sellerEntry store location items d) = ids.mapM (sellerEntry store location items d') := by
  induction ids with
  | nil => rfl
  | cons s ids ih =>
    have hs : sellerEntry store location items d s = sellerEntry store location items d' s := by
      unfold sellerEntry
      rw [h s (mem_cons_self ..)]
    rw [mapM_cons, mapM_cons, hs, ih (fun t ht => h t (mem_cons_of_mem _ ht))]

theorem mapM_sellerEntry_discounts {d : ℤ}
    (h : ids.mapM (sellerEntry store location items d) = .ok entries) :
    entries.map (fun e => e.breakdown.discountTotal) = ids.map (sellerDiscount items d) := by
  induction ids generalizing entries with
  | nil =>
    rw [mapM_nil] at h
    rw [pure_eq_ok.mp h]
    rfl
  | cons s ids ih =>
    rw [mapM_cons] at h
    obtain ⟨e, he, h⟩ := bind_eq_ok.mp h
    obtain ⟨es, hes, h⟩ := bind_eq_ok.mp h
    obtain ⟨km, -, rfl⟩ := sellerEntry_eq_ok.mp he
    rw [pure_eq_ok.mp h, map_cons, map_cons, ih hes]
    rfl

end Entry

/-! ## Up to the wallet -/

section BeforeWallet

variable {entries : List SellerEntry}

structure Kept (P : Breakdown → Prop) : Prop where
  setHandlingFee : ∀ b fee, P b → P (b.setHandlingFee fee)
  freeDelivery : ∀ b, P b → P b.freeDelivery
  addTip : ∀ b tip, P b → P (b.addTip tip)

theorem freeDelivery_walletAmount (b : Breakdown) : b.freeDelivery.walletAmount = b.walletAmount := by
  unfold freeDelivery
  split <;> rfl

theorem freeDelivery_discountTotal (b : Breakdown) :
    b.freeDelivery.discountTotal = b.discountTotal := by
  unfold freeDelivery
  split <;> rfl

theorem freeDelivery_productSubtotal (b : Breakdown) :
    b.freeDelivery.productSubtotal = b.productSubtotal := by
  unfold freeDelivery
  split <;> rfl

theorem freeDelivery_tipTotal (b : Breakdown) : b.freeDelivery.tipTotal = b.tipTotal := by
  unfold freeDelivery
  split <;> rfl

theorem kept_walletAmount : Kept (fun b => b.walletAmount = 0) where
  setHandlingFee _ _ _ := rfl
  freeDelivery b h := (freeDelivery_walletAmount b).trans h
  addTip _ _ h := h

theorem map_mapBreakdown {α : Type*} {g : Breakdown → α} {f : SellerEntry → Breakdown → Breakdown}
    (hf : ∀ e b, g (f e b) = g b) (entries : List SellerEntry) :
    (entries.map (fun e => e.mapBreakdown (f e))).map (fun e => g e.breakdown)
      = entries.map (fun e => g e.breakdown) := by
  rw [map_map]
  exact map_congr_left (fun e _ => hf e e.breakdown)

theorem allocateTip_forall {P : Breakdown → Prop} (hP : Kept P) (tip base so : ℤ)
    (h : ∀ e ∈ entries, P e.breakdown) : ∀ e ∈ allocateTip tip base so entries, P e.breakdown := by
  fun_induction allocateTip tip base so entries with
  | case1 so => exact h
  | case2 so e =>
    rw [forall_mem_singleton] at h ⊢
    exact hP.addTip _ _ h
  | case3 so e rest hrest share ih =>
    rw [forall_mem_cons] at h ⊢
    exact ⟨hP.addTip _ _ h.1, ih h.2⟩

theorem beforeWallet_forall {P : Breakdown → Prop} (hP : Kept P) (store : Store)
    (items : List HydratedItem) (freeDelivery : Bool) (tip : ℚ) (h : ∀ e ∈ entries, P e.breakdown) :
    ∀ e ∈ beforeWallet store items freeDelivery tip entries, P e.breakdown := by
  have hfee : ∀ e ∈ applyGlobalHandlingFee entries (computeGlobalHandlingFeeForCheckout store items),
      P e.breakdown := by
    unfold applyGlobalHandlingFee
    split
    · exact h
    · rw [forall_mem_map]
      exact fun e he => hP.setHandlingFee _ _ (h e he)
  have hfree : ∀ e ∈ (if freeDelivery then applyFreeDelivery (applyGlobalHandlingFee entries
      (computeGlobalHandlingFeeForCheckout store items)) else applyGlobalHandlingFee entries
      (computeGlobalHandlingFeeForCheckout store items)), P e.breakdown := by
    split
    · rw [applyFreeDelivery, forall_mem_map]
      exact fun e he => hP.freeDelivery _ (hfee e he)
    · exact hfee
  unfold beforeWallet allocateCheckoutTip
  dsimp only
  split
  · exact hfree
  · exact allocateTip_forall hP _ _ _ hfree

theorem allocateTip_discounts (tip base so : ℤ) (entries : List SellerEntry) :
    (allocateTip tip base so entries).map (fun e => e.breakdown.discountTotal)
      = entries.map (fun e => e.breakdown.discountTotal) := by
  fun_induction allocateTip tip base so entries with
  | case1 so => rfl
  | case2 so e => rfl
  | case3 so e rest hrest share ih =>
    rw [map_cons, map_cons, ih]
    rfl

theorem beforeWallet_discounts (store : Store) (items : List HydratedItem) (freeDelivery : Bool)
    (tip : ℚ) (entries : List SellerEntry) :
    (beforeWallet store items freeDelivery tip entries).map (fun e => e.breakdown.discountTotal)
      = entries.map (fun e => e.breakdown.discountTotal) := by
  have hfee : (applyGlobalHandlingFee entries (computeGlobalHandlingFeeForCheckout store items)).map
      (fun e => e.breakdown.discountTotal) = entries.map (fun e => e.breakdown.discountTotal) := by
    unfold applyGlobalHandlingFee
    split
    · rfl
    · refine map_mapBreakdown (g := discountTotal) ?_ entries
      exact fun _ _ => rfl
  unfold beforeWallet allocateCheckoutTip applyFreeDelivery
  dsimp only
  split
  · split
    · rw [map_mapBreakdown (g := discountTotal) (fun _ b => freeDelivery_discountTotal b), hfee]
    · exact hfee
  · rw [allocateTip_discounts]
    split
    · rw [map_mapBreakdown (g := discountTotal) (fun _ b => freeDelivery_discountTotal b), hfee]
    · exact hfee

end BeforeWallet

/-! ## The wallet -/

/-- The shares that `allocateWallet` redeems, as a function of the totals. -/
def walletShares (wallet base : ℤ) : ℤ → List ℤ → List ℤ
  | _, [] => []
  | allocatedSoFar, [total] => [max 0 (min (wallet - allocatedSoFar) total)]
  | allocatedSoFar, total :: totals =>
    max 0 (min (shareOf wallet total base) total)
      :: walletShares wallet base (allocatedSoFar + shareOf wallet total base) totals

/-- What `applyWalletAllocation` redeems of each total. -/
def allocation (flags : Flags) (wallet : ℤ) (totals : List ℤ) : List ℤ :=
  if flags.walletRedemptionReducesPayable = false ∨ wallet ≤ 0 ∨ min wallet totals.sum ≤ 0 then
    totals.map (fun _ => 0)
  else walletShares (min wallet totals.sum) totals.sum 0 totals

def takenByWallet (flags : Flags) (wallet : ℤ) (totals : List ℤ) : ℤ :=
  (allocation flags wallet totals).sum

/-- What is left to pay of the totals, each rounded up to whole rupees. -/
def leftByWallet (flags : Flags) (wallet : ℤ) (totals : List ℤ) : ℤ :=
  (zipWith (fun total share => mathCeil (total - share)) totals
    (allocation flags wallet totals)).sum

def totals (entries : List SellerEntry) : List ℤ := entries.map (fun e => e.breakdown.grandTotal)

section Wallet

variable {entries : List SellerEntry}

theorem walletShares_nonneg (wallet base so : ℤ) (ts : List ℤ) :
    ∀ a ∈ walletShares wallet base so ts, 0 ≤ a := by
  fun_induction walletShares wallet base so ts with
  | case1 so => exact fun a ha => absurd ha not_mem_nil
  | case2 so total => exact forall_mem_singleton.mpr (le_max_left ..)
  | case3 so total rest hrest ih => exact forall_mem_cons.mpr ⟨le_max_left .., ih⟩

theorem takenByWallet_nonneg (flags : Flags) (wallet : ℤ) (ts : List ℤ) :
    0 ≤ takenByWallet flags wallet ts := by
  unfold takenByWallet allocation
  split
  · simp
  · exact sum_nonneg (walletShares_nonneg _ _ _ _)

theorem allocateWallet_eq (wallet base so : ℤ) (entries : List SellerEntry) :
    allocateWallet wallet base so entries
      = zipWith (fun e a => e.mapBreakdown (fun b => b.redeem a)) entries
          (walletShares wallet base so (totals entries)) := by
  fun_induction allocateWallet wallet base so entries with
  | case1 so => rfl
  | case2 so e => rfl
  | case3 so e rest hrest share ih =>
    obtain ⟨e', rest, rfl⟩ : ∃ e' rest', rest = e' :: rest' := exists_cons_of_ne_nil hrest
    rw [ih]
    rfl

theorem walletShares_length (wallet base so : ℤ) (ts : List ℤ) :
    (walletShares wallet base so ts).length = ts.length := by
  fun_induction walletShares wallet base so ts with
  | case1 so => rfl
  | case2 so total => rfl
  | case3 so total rest hrest ih => rw [length_cons, length_cons, ih]

theorem zipWith_left {α β γ : Type*} (f : α → γ) {as : List α} {bs : List β}
    (h : bs.length = as.length) : zipWith (fun a _ => f a) as bs = as.map f := by
  induction as generalizing bs with
  | nil => rfl
  | cons a as ih =>
    obtain ⟨b, bs, rfl⟩ := exists_cons_of_length_eq_add_one h
    rw [zipWith_cons_cons, map_cons, ih (Nat.succ.inj h)]

theorem zipWith_add_of_zero {α : Type*} {f : α → ℤ} {as : List α} {bs : List ℤ}
    (hf : ∀ a ∈ as, f a = 0) (h : bs.length = as.length) :
    zipWith (fun a b => f a + b) as bs = bs := by
  induction as generalizing bs with
  | nil => exact (eq_nil_of_length_eq_zero h).symm
  | cons a as ih =>
    obtain ⟨b, bs, rfl⟩ := exists_cons_of_length_eq_add_one h
    rw [forall_mem_cons] at hf
    rw [zipWith_cons_cons, hf.1, zero_add, ih hf.2 (Nat.succ.inj h)]

theorem applyWalletAllocation_discounts (flags : Flags) (amount : ℚ) (entries : List SellerEntry) :
    (applyWalletAllocation flags entries amount).map (fun e => e.breakdown.discountTotal)
      = entries.map (fun e => e.breakdown.discountTotal) := by
  unfold applyWalletAllocation
  split
  · rfl
  · split
    · rfl
    · split
      · rfl
      · rw [allocateWallet_eq, map_zipWith]
        have hlength : (walletShares (min (round2 amount) (totalBase entries)) (totalBase entries) 0
            (totals entries)).length = entries.length := by
          rw [walletShares_length]
          exact length_map ..
        exact zipWith_left (fun e => e.breakdown.discountTotal) hlength

theorem applyWalletAllocation_cases (flags : Flags) (amount : ℚ) (entries : List SellerEntry) :
    (applyWalletAllocation flags entries amount = entries ∧
        allocation flags (round2 amount) (totals entries) = (totals entries).map (fun _ => 0)) ∨
      ∃ wallet base, applyWalletAllocation flags entries amount = allocateWallet wallet base 0 entries ∧
        allocation flags (round2 amount) (totals entries) = walletShares wallet base 0 (totals entries) := by
  have htotal : totalBase entries = (totals entries).sum := rfl
  unfold applyWalletAllocation allocation
  rw [htotal]
  by_cases hflag : flags.walletRedemptionReducesPayable = false
  · exact .inl ⟨if_pos hflag, if_pos (.inl hflag)⟩
  · by_cases hwallet : round2 amount ≤ 0
    · refine .inl ⟨?_, if_pos (.inr (.inl hwallet))⟩
      rw [if_neg hflag, if_pos hwallet]
    · by_cases hmin : min (round2 amount) (totals entries).sum ≤ 0
      · refine .inl ⟨?_, if_pos (.inr (.inr hmin))⟩
        rw [if_neg hflag, if_neg hwallet, if_pos hmin]
      · refine .inr ⟨_, _, ?_, if_neg (not_or.mpr ⟨hflag, not_or.mpr ⟨hwallet, hmin⟩⟩)⟩
        rw [if_neg hflag, if_neg hwallet, if_neg hmin]

theorem applyWalletAllocation_totals (flags : Flags) (amount : ℚ) (entries : List SellerEntry) :
    totals (applyWalletAllocation flags entries amount)
      = zipWith (fun total share => total - share) (totals entries)
          (allocation flags (round2 amount) (totals entries)) := by
  have hsame : ∀ l : List ℤ, zipWith (fun t a => t - a) l (l.map (fun _ => (0 : ℤ))) = l := by
    intro l
    induction l with
    | nil => rfl
    | cons t l ih => rw [map_cons, zipWith_cons_cons, ih, sub_zero]
  rcases applyWalletAllocation_cases flags amount entries with ⟨hpass, hnone⟩ | ⟨wallet, base, hpass, hshares⟩
  · rw [hpass, hnone, hsame]
  · rw [hpass, hshares, allocateWallet_eq, totals, map_zipWith, totals, zipWith_map_left]
    rfl

theorem applyWalletAllocation_fields (flags : Flags) (amount : ℚ)
    (h : ∀ e ∈ entries, e.breakdown.walletAmount = 0) :
    (applyWalletAllocation flags entries amount).map (fun e => e.breakdown.walletAmount)
        = allocation flags (round2 amount) (totals entries) ∧
      totals (applyWalletAllocation flags entries amount)
        = zipWith (fun total share => total - share) (totals entries)
          (allocation flags (round2 amount) (totals entries)) := by
  refine ⟨?_, applyWalletAllocation_totals flags amount entries⟩
  rcases applyWalletAllocation_cases flags amount entries with ⟨hpass, hnone⟩ | ⟨wallet, base, hpass, hshares⟩
  · rw [hpass, hnone, totals, map_map]
    exact map_congr_left h
  · have hlength := walletShares_length wallet base 0 (totals entries)
    rw [show (totals entries).length = entries.length from length_map ..] at hlength
    rw [hpass, hshares, allocateWallet_eq, map_zipWith]
    exact zipWith_add_of_zero h hlength

theorem roundUpAll_discounts (flags : Flags) (amount : ℚ) (entries : List SellerEntry) :
    sumField (roundUpAll (applyWalletAllocation flags entries amount)) discountTotal
      = (entries.map (fun e => e.breakdown.discountTotal)).sum := by
  rw [sumField, roundUpAll, map_mapBreakdown (g := discountTotal)
    (f := fun _ => roundUp) (fun _ _ => rfl), applyWalletAllocation_discounts]

theorem roundUpAll_sums (flags : Flags) (amount : ℚ)
    (h : ∀ e ∈ entries, e.breakdown.walletAmount = 0) :
    (sumField (roundUpAll (applyWalletAllocation flags entries amount)) walletAmount
        = takenByWallet flags (round2 amount) (totals entries)) ∧
      (sumField (roundUpAll (applyWalletAllocation flags entries amount)) grandTotal
        = leftByWallet flags (round2 amount) (totals entries)) := by
  obtain ⟨hwallet, htotals⟩ := applyWalletAllocation_fields flags amount h
  unfold sumField roundUpAll
  refine ⟨?_, ?_⟩
  · rw [map_mapBreakdown (g := walletAmount) (f := fun _ => roundUp)
      (fun _ _ => rfl), hwallet]
    rfl
  · rw [map_map, leftByWallet]
    have hmap : (applyWalletAllocation flags entries amount).map
        ((fun e => e.breakdown.grandTotal) ∘ fun e => e.mapBreakdown roundUp)
        = (totals (applyWalletAllocation flags entries amount)).map mathCeil := by
      rw [totals, map_map]
      rfl
    rw [hmap, htotals, map_zipWith]

theorem buildAggregateBreakdown_payable (entries : List SellerEntry) :
    (buildAggregateBreakdown (roundUpAll entries)).payableAmount
      = sumField (roundUpAll entries) grandTotal := by
  have hfield : sumField (roundUpAll entries) payableAmount
      = (entries.map (fun e => mathCeil e.breakdown.grandTotal)).sum := by
    rw [sumField, roundUpAll, map_map]
    refine congrArg sum (map_congr_left (fun e _ => ?_))
    exact mathCeil_mathCeil _
  have hgrand : sumField (roundUpAll entries) grandTotal
      = (entries.map (fun e => mathCeil e.breakdown.grandTotal)).sum := by
    rw [sumField, roundUpAll, map_map]
    rfl
  rw [hgrand, ← mathCeil_sum_map, ← hfield]
  rfl

end Wallet

/-! ## The snapshot -/

section Snapshot

variable {store : Store} {r : PricingRequest} {coupon : Option CouponResult}
  {entries : List SellerEntry}

theorem priceBeforeWallet_eq_ok :
    priceBeforeWallet store r = .ok (coupon, entries) ↔
      ∃ items es, hydrateOrderItems store.products r.orderItems = .ok items ∧ items ≠ [] ∧
        checkoutCoupon store r items = .ok coupon ∧
        (sellerIds items).mapM
          (sellerEntry store r.location items (effectiveDiscount coupon r.discountTotal)) = .ok es ∧
        entries = beforeWallet store items ((coupon.map CouponResult.freeDelivery).getD false)
          r.tipAmount es := by
  unfold priceBeforeWallet
  simp only [bind_eq_ok, ite_throw_eq_ok, pure_eq_ok,
    Prod.mk.injEq]
  constructor
  · rintro ⟨items, hitems, hne, c, hc, es, hes, rfl, rfl⟩
    exact ⟨items, es, hitems, hne, hc, hes, rfl⟩
  · rintro ⟨items, es, hitems, hne, hc, hes, rfl⟩
    exact ⟨items, hitems, hne, coupon, hc, es, hes, rfl, rfl⟩

variable {items : List HydratedItem}

/-- A coupon is found exactly where the server's engine is on and one is asked for, and what
it takes off is within the cart. -/
theorem checkoutCoupon_ok (h : checkoutCoupon store r items = .ok coupon) :
    ((store.flags.serverSideCouponEngine = true ∧ r.coupon.isEmpty = false) ∧
        ∃ c, coupon = some c ∧ c.discountAmount ≤ cartSubtotal items ∧
          (0 ≤ cartSubtotal items → 0 ≤ c.discountAmount)) ∨
      (¬(store.flags.serverSideCouponEngine = true ∧ r.coupon.isEmpty = false) ∧ coupon = none) := by
  unfold checkoutCoupon at h
  split at h
  next hon =>
    rcases computeOrderDiscount_ok.mp h with ⟨hempty, rfl⟩ | ⟨hempty, -, c, -, -, -, rfl⟩
    · exact .inr ⟨fun hboth => by simp [hempty] at hboth, rfl⟩
    · exact .inl ⟨⟨hon, hempty⟩, _, rfl, couponDiscount_le .., fun h0 => le_min (le_max_left ..) h0⟩
  next hoff => exact .inr ⟨fun hboth => hoff hboth.1, pure_eq_ok.mp h⟩

theorem cartSubtotal_le (h : ∀ item ∈ items, item.Priced) :
    0 ≤ cartSubtotal items ∧ cartSubtotal items ≤ merchandiseSubtotal items := by
  constructor
  · refine sum_nonneg (fun x hx => ?_)
    obtain ⟨item, hitem, rfl⟩ := mem_map.mp hx
    exact mul_nonneg (h item hitem).1 (Int.natCast_nonneg _)
  · refine sum_le_sum (fun item hitem => ?_)
    refine mul_le_mul_of_nonneg_left ?_ (h item hitem).1
    unfold normalizeLineQuantity
    split <;> omega

theorem priceBeforeWallet_walletAmount (hr : r.discountTotal = 0)
    (h : priceBeforeWallet store r = .ok (coupon, entries)) :
    ∀ e ∈ entries, e.breakdown.walletAmount = 0 := by
  obtain ⟨items, es, hitems, -, hcoupon, hes, rfl⟩ := priceBeforeWallet_eq_ok.mp h
  have hpriced := hydrateOrderItems_priced hitems
  have hdiscount : 0 ≤ effectiveDiscount coupon r.discountTotal ∧
      effectiveDiscount coupon r.discountTotal ≤ merchandiseSubtotal items := by
    rcases checkoutCoupon_ok hcoupon with ⟨-, c, rfl, hle, hnonneg⟩ | ⟨-, rfl⟩
    · have hcart := cartSubtotal_le hpriced
      exact ⟨hnonneg hcart.1, hle.trans hcart.2⟩
    · rw [hr, effectiveDiscount, round2_zero]
      exact ⟨le_refl 0, merchandiseSubtotal_nonneg hpriced⟩
  refine beforeWallet_forall kept_walletAmount store items _ r.tipAmount ?_
  refine forall_of_mapM (fun s e he => ?_) hes
  obtain ⟨km, -, rfl⟩ := sellerEntry_eq_ok.mp he
  exact entryAt_walletAmount hpriced hdiscount.1 hdiscount.2 s km

variable {snapshot : PricingSnapshot}

theorem buildCheckoutPricingSnapshot_eq_ok :
    buildCheckoutPricingSnapshot store r = .ok snapshot ↔
      ∃ coupon entries, priceBeforeWallet store r = .ok (coupon, entries) ∧
        snapshot = snapshotOf coupon
          (roundUpAll (applyWalletAllocation store.flags entries r.walletAmount)) := by
  unfold buildCheckoutPricingSnapshot
  rw [bind_eq_ok]
  constructor
  · rintro ⟨⟨coupon, entries⟩, h, hsnapshot⟩
    exact ⟨coupon, entries, h, pure_eq_ok.mp hsnapshot⟩
  · rintro ⟨coupon, entries, h, rfl⟩
    exact ⟨(coupon, entries), h, rfl⟩

theorem buildCheckoutPricingSnapshot_sellers
    (h : buildCheckoutPricingSnapshot store r = .ok snapshot) :
    ∃ items, hydrateOrderItems store.products r.orderItems = .ok items ∧ items ≠ [] ∧
      snapshot.sellerBreakdownEntries.length = (sellerIds items).length := by
  obtain ⟨coupon, entries, hprice, rfl⟩ := buildCheckoutPricingSnapshot_eq_ok.mp h
  obtain ⟨items, es, hitems, hne, -, hes, rfl⟩ := priceBeforeWallet_eq_ok.mp hprice
  have hes' := congrArg length (mapM_sellerEntry_discounts hes)
  have hpass := congrArg length (beforeWallet_discounts store items
    ((coupon.map CouponResult.freeDelivery).getD false) r.tipAmount es)
  have hwallet := congrArg length (applyWalletAllocation_discounts store.flags r.walletAmount
    (beforeWallet store items ((coupon.map CouponResult.freeDelivery).getD false) r.tipAmount es))
  rw [length_map, length_map] at hes' hpass hwallet
  refine ⟨items, hitems, hne, ?_⟩
  unfold snapshotOf roundUpAll
  rw [length_map, hwallet, hpass, hes']

theorem buildCheckoutPricingSnapshot_entries
    (h : buildCheckoutPricingSnapshot store r = .ok snapshot) :
    snapshot.sellerBreakdownEntries ≠ [] := by
  obtain ⟨items, -, hne, hlength⟩ := buildCheckoutPricingSnapshot_sellers h
  obtain ⟨item, rest, rfl⟩ := exists_cons_of_ne_nil hne
  have hseller : item.sellerId ∈ sellerIds (item :: rest) :=
    mem_sellerIds.mpr ⟨item, mem_cons_self .., rfl⟩
  intro hnil
  rw [hnil, length_nil, eq_comm] at hlength
  exact ne_nil_of_mem hseller (length_eq_zero_iff.mp hlength)

theorem buildCheckoutPricingSnapshot_checked (hengine : store.flags.serverSideCouponEngine = true)
    (h : buildCheckoutPricingSnapshot store r = .ok snapshot) {id : ObjectId}
    (hid : snapshot.couponId = some id) :
    ∃ coupon items, loadCoupon store.coupons r.coupon = .ok (some coupon) ∧ coupon.id = id ∧
      checkCoupon store.coupons coupon r.customerId items = .ok () := by
  obtain ⟨coupon, entries, hprice, rfl⟩ := buildCheckoutPricingSnapshot_eq_ok.mp h
  obtain ⟨items, es, -, -, hcoupon, -, rfl⟩ := priceBeforeWallet_eq_ok.mp hprice
  obtain ⟨result, rfl, rfl⟩ := Option.map_eq_some_iff.mp hid
  unfold checkoutCoupon at hcoupon
  rw [if_pos hengine] at hcoupon
  rcases computeOrderDiscount_ok.mp hcoupon with ⟨-, hnone⟩ | ⟨-, -, coupon, hload, hcheck, -, hsome⟩
  · cases hnone
  · cases hsome
    exact ⟨coupon, items, hload, rfl, hcheck⟩

theorem buildCheckoutPricingSnapshot_coupon (hengine : store.flags.serverSideCouponEngine = true)
    (h : buildCheckoutPricingSnapshot store r = .ok snapshot) {id : ObjectId}
    (hid : snapshot.couponId = some id) :
    ∃ coupon ∈ store.coupons.coupons, coupon.id = id ∧ coupon.usedUp = false := by
  obtain ⟨coupon, items, hload, hid, hcheck⟩ := buildCheckoutPricingSnapshot_checked hengine h hid
  exact ⟨coupon, loadCoupon_mem hload, hid, (checkCoupon_eq_ok.mp hcheck).2.1⟩

end Snapshot

end DiscountBazar.Pricing
