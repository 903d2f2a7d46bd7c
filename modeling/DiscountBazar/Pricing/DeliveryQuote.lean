/-
The delivery fee that a cart shows.

Before checkout a cart is quoted from its products alone: for each seller the global fee and the
highest fee of its products. Checkout charges by the seller's distance too. Here the two are
compared.
-/
import DiscountBazar.Pricing.Conserved

namespace DiscountBazar.Pricing

open List

/-! ## The quote -/

def getGlobalDeliveryFee (settings : Settings) : ℤ :=
  match settings.deliveryPricingMode with
  | .fixedPrice => toDeliveryFee (fromPaise settings.fixedDeliveryFee)
  | .distanceBased => toDeliveryFee (fromPaise settings.customerBaseDeliveryFee)

structure QuotedProduct where
  id : ObjectId
  sellerId : ObjectId
  productDeliveryFee : ℚ

/-- What a seller's part is computed from: the id of a product and its fee. -/
def QuotedProduct.toItem (p : QuotedProduct) : HydratedItem where
  productId := p.id
  quantity := 1
  price := 0
  headerCategoryId := 0
  sellerId := p.sellerId
  productDeliveryFee := toDeliveryFee p.productDeliveryFee

structure SellerQuote where
  sellerId : ObjectId
  deliveryFee : ℤ
  isFreeDelivery : Bool

structure CartQuote where
  deliveryFee : ℤ
  isFreeDelivery : Bool
  estimated : Bool
  sellers : List SellerQuote

def quotedSellers (products : List QuotedProduct) : List ObjectId :=
  (products.map QuotedProduct.sellerId).reverse.dedup.reverse

def sellerQuoteFee (products : List QuotedProduct) (settings : Settings) (sellerId : ObjectId) :
    ℤ :=
  getGlobalDeliveryFee settings + quoteCartProductDelivery
    ((products.filter (fun p => decide (p.sellerId = sellerId))).map QuotedProduct.toItem) [] 0

def quoteCartDelivery (products : List QuotedProduct) (settings : Settings) : CartQuote :=
  let sellers := (quotedSellers products).map (fun sellerId =>
    let deliveryFee := sellerQuoteFee products settings sellerId
    (⟨sellerId, deliveryFee, decide (deliveryFee = 0)⟩ : SellerQuote))
  let deliveryFee := (sellers.map SellerQuote.deliveryFee).sum
  { deliveryFee
    isFreeDelivery := decide (deliveryFee = 0)
    estimated := decide (settings.deliveryPricingMode ≠ .fixedPrice)
    sellers }

def quotedProduct (products : ObjectId → Option Product) (id : ObjectId) : Option QuotedProduct :=
  (products id).map (fun p => ⟨id, p.sellerId, p.productDeliveryFee⟩)

def cartProducts (products : ObjectId → Option Product) (orderItems : List OrderItemInput) :
    List QuotedProduct :=
  orderItems.filterMap (fun item => quotedProduct products item.product)

/-- `quoted` holds the products of the cart, in any order and each any number of times. -/
def QuotedOf (products : ObjectId → Option Product) (orderItems : List OrderItemInput)
    (quoted : List QuotedProduct) : Prop :=
  ∀ p, p ∈ quoted ↔ p ∈ cartProducts products orderItems

/-! ## The fees of a seller -/

theorem toDeliveryFee_fromPaise (paise : ℕ) : toDeliveryFee (fromPaise paise) = paise := by
  unfold toDeliveryFee
  split
  · exact toPaise_fromPaise paise
  next h =>
    have hle : fromPaise (paise : ℤ) ≤ fromPaise 0 := by
      rw [fromPaise_zero]
      exact not_lt.mp h
    have hpaise := fromPaise_le.mp hle
    omega

theorem ceilKm_mono {km km' : ℚ} (h : km ≤ km') : ceilKm km ≤ ceilKm km' := by
  unfold ceilKm
  split
  · exact Nat.zero_le _
  next hkm =>
    rw [if_neg (fun h' => hkm (h.trans h'))]
    exact Nat.ceil_mono h

section Global

variable {settings : Settings} {km km' : ℚ}

theorem calculateCustomerDeliveryFee_eq
    (h : settings.deliveryPricingMode = .fixedPrice ∨ km ≤ max settings.baseDistanceCapacityKm 0) :
    calculateCustomerDeliveryFee km settings = getGlobalDeliveryFee settings := by
  unfold calculateCustomerDeliveryFee getGlobalDeliveryFee
  cases hmode : settings.deliveryPricingMode with
  | fixedPrice => exact (toDeliveryFee_fromPaise _).symm
  | distanceBased =>
    dsimp only
    rw [toDeliveryFee_fromPaise]
    have hkm : km ≤ max settings.baseDistanceCapacityKm 0 :=
      h.resolve_left (fun hfixed => by rw [hmode] at hfixed; cases hfixed)
    rw [if_pos (max_le hkm (le_max_right ..))]

theorem calculateCustomerDeliveryFee_mono (h : km ≤ km') :
    calculateCustomerDeliveryFee km settings ≤ calculateCustomerDeliveryFee km' settings := by
  unfold calculateCustomerDeliveryFee
  cases settings.deliveryPricingMode with
  | fixedPrice => exact le_refl _
  | distanceBased =>
    dsimp only
    have hmax : max km 0 ≤ max km' 0 := max_le_max_right 0 h
    split
    · split
      · exact le_refl _
      · exact le_add_of_nonneg_right (by positivity)
    next hfar =>
      rw [if_neg (fun hnear => hfar (hmax.trans hnear))]
      have hceil : ceilKm (max km 0 - max settings.baseDistanceCapacityKm 0)
          ≤ ceilKm (max km' 0 - max settings.baseDistanceCapacityKm 0) :=
        ceilKm_mono (sub_le_sub_right hmax _)
      have hfee := Nat.mul_le_mul_right settings.incrementalKmSurcharge hceil
      omega

theorem getGlobalDeliveryFee_le : getGlobalDeliveryFee settings
    ≤ calculateCustomerDeliveryFee km settings := by
  have hnear : calculateCustomerDeliveryFee (min km 0) settings = getGlobalDeliveryFee settings :=
    calculateCustomerDeliveryFee_eq (.inr ((min_le_right km 0).trans (le_max_right ..)))
  rw [← hnear]
  exact calculateCustomerDeliveryFee_mono (min_le_left km 0)

end Global

section Products

variable {f : ObjectId → ℤ}

theorem quoteCartProductDelivery_le_iff {items : List HydratedItem}
    (hfee : ∀ item ∈ items, item.productDeliveryFee = f item.productId) (seen : List ObjectId)
    (fee x : ℤ) :
    quoteCartProductDelivery items seen fee ≤ x ↔
      fee ≤ x ∧ ∀ id ∈ items.map HydratedItem.productId, id ∉ seen → max (f id) 0 ≤ x := by
  induction items generalizing seen fee with
  | nil => exact ⟨fun h => ⟨h, fun _ hid => nomatch hid⟩, And.left⟩
  | cons item items ih =>
    have hrest := ih (fun i hi => hfee i (mem_cons_of_mem _ hi))
    have hitem := hfee item (mem_cons_self ..)
    unfold quoteCartProductDelivery
    rw [map_cons]
    split
    next hseen =>
      rw [hrest, forall_mem_cons]
      exact and_congr_right (fun _ => ⟨fun h => ⟨fun h' => absurd hseen h', h⟩, And.right⟩)
    next hseen =>
      rw [hrest, forall_mem_cons, hitem, max_le_iff, and_assoc]
      refine and_congr_right (fun _ => ?_)
      constructor
      · rintro ⟨hmax, h⟩
        refine ⟨fun _ => hmax, fun id hid hnew => ?_⟩
        by_cases heq : id = item.productId
        · rw [heq]
          exact hmax
        · exact h id hid (not_mem_cons_of_ne_of_not_mem heq hnew)
      · rintro ⟨hmax, h⟩
        exact ⟨hmax hseen, fun id hid hnew =>
          h id hid (fun hold => hnew (mem_cons_of_mem _ hold))⟩

theorem quoteCartProductDelivery_congr {items items' : List HydratedItem}
    (hfee : ∀ item ∈ items, item.productDeliveryFee = f item.productId)
    (hfee' : ∀ item ∈ items', item.productDeliveryFee = f item.productId)
    (hids : ∀ id, id ∈ items.map HydratedItem.productId ↔ id ∈ items'.map HydratedItem.productId) :
    quoteCartProductDelivery items [] 0 = quoteCartProductDelivery items' [] 0 := by
  refine eq_of_forall_ge_iff (fun x => ?_)
  rw [quoteCartProductDelivery_le_iff hfee, quoteCartProductDelivery_le_iff hfee']
  exact and_congr_right (fun _ => forall_congr' (fun id => imp_congr_left (hids id)))

end Products

/-! ## The products of a cart -/

section Cart

variable {products : ObjectId → Option Product} {orderItems : List OrderItemInput}
  {items : List HydratedItem} {quoted : List QuotedProduct}

def productFee (products : ObjectId → Option Product) (id : ObjectId) : ℤ :=
  ((products id).map (fun p => toDeliveryFee p.productDeliveryFee)).getD 0

structure LineOf (products : ObjectId → Option Product) (p : QuotedProduct) (item : HydratedItem) :
    Prop where
  id : item.productId = p.id
  sellerId : item.sellerId = p.sellerId
  fee : item.productDeliveryFee = productFee products p.id

structure LinesOf (products : ObjectId → Option Product) (orderItems : List OrderItemInput)
    (items : List HydratedItem) : Prop where
  product_of_line : ∀ item ∈ items, ∃ p ∈ cartProducts products orderItems, LineOf products p item
  line_of_product : ∀ p ∈ cartProducts products orderItems, ∃ item ∈ items, LineOf products p item

theorem hydrateItem_lineOf {input : OrderItemInput} {item : HydratedItem}
    (h : hydrateItem products input = .ok item) :
    ∃ p, quotedProduct products input.product = some p ∧ LineOf products p item := by
  unfold hydrateItem at h
  unfold quotedProduct
  split at h
  · cases h
  next p hp =>
    rw [Transaction.ite_throw_eq_ok, Transaction.ite_throw_eq_ok] at h
    obtain ⟨-, -, h⟩ := h
    obtain ⟨v, -, h⟩ := Transaction.bind_eq_ok.mp h
    rw [hp, Transaction.pure_eq_ok.mp h]
    exact ⟨_, rfl, rfl, rfl, by rw [productFee, hp]; rfl⟩

theorem quotedProduct_lineOf {id : ObjectId} {p : QuotedProduct}
    (h : quotedProduct products id = some p) : LineOf products p p.toItem := by
  obtain ⟨product, hproduct, rfl⟩ := Option.map_eq_some_iff.mp h
  exact ⟨rfl, rfl, by rw [productFee, hproduct]; rfl⟩

theorem mem_cartProducts {p : QuotedProduct} : p ∈ cartProducts products orderItems ↔
    ∃ input ∈ orderItems, quotedProduct products input.product = some p :=
  mem_filterMap

theorem linesOf_hydrated (h : hydrateOrderItems products orderItems = .ok items) :
    LinesOf products orderItems items where
  product_of_line item hitem := by
    obtain ⟨input, hinput, hline⟩ := Transaction.mem_of_mapM h hitem
    obtain ⟨p, hp, hof⟩ := hydrateItem_lineOf hline
    exact ⟨p, mem_cartProducts.mpr ⟨input, hinput, hp⟩, hof⟩
  line_of_product p hp := by
    obtain ⟨input, hinput, hquoted⟩ := mem_cartProducts.mp hp
    obtain ⟨item, hitem, hline⟩ := Transaction.ok_of_mapM h hinput
    obtain ⟨p', hp', hof⟩ := hydrateItem_lineOf hline
    cases hquoted.symm.trans hp'
    exact ⟨item, hitem, hof⟩

theorem linesOf_quoted (h : QuotedOf products orderItems quoted) :
    LinesOf products orderItems (quoted.map QuotedProduct.toItem) := by
  have hof : ∀ p ∈ cartProducts products orderItems, LineOf products p p.toItem := by
    intro p hp
    obtain ⟨input, -, hinput⟩ := mem_cartProducts.mp hp
    exact quotedProduct_lineOf hinput
  constructor
  · intro item hitem
    obtain ⟨p, hp, rfl⟩ := mem_map.mp hitem
    exact ⟨p, (h p).mp hp, hof p ((h p).mp hp)⟩
  · intro p hp
    exact ⟨p.toItem, mem_map_of_mem ((h p).mpr hp), hof p hp⟩

namespace LinesOf

variable {items' : List HydratedItem}

theorem exists_iff (h : LinesOf products orderItems items) {id s : ObjectId} :
    (∃ item ∈ items, item.sellerId = s ∧ item.productId = id) ↔
      ∃ p ∈ cartProducts products orderItems, p.sellerId = s ∧ p.id = id := by
  constructor
  · rintro ⟨item, hitem, rfl, rfl⟩
    obtain ⟨p, hp, hof⟩ := h.product_of_line item hitem
    exact ⟨p, hp, hof.sellerId.symm, hof.id.symm⟩
  · rintro ⟨p, hp, rfl, rfl⟩
    obtain ⟨item, hitem, hof⟩ := h.line_of_product p hp
    exact ⟨item, hitem, hof.sellerId, hof.id⟩

theorem fee_eq (h : LinesOf products orderItems items) {item : HydratedItem}
    (hitem : item ∈ items) :
    item.productDeliveryFee = productFee products item.productId := by
  obtain ⟨p, -, hof⟩ := h.product_of_line item hitem
  rw [hof.fee, hof.id]

theorem mem_sellerIds_iff (h : LinesOf products orderItems items) {s : ObjectId} :
    s ∈ sellerIds items ↔ ∃ p ∈ cartProducts products orderItems, p.sellerId = s := by
  rw [mem_sellerIds]
  constructor
  · rintro ⟨item, hitem, rfl⟩
    obtain ⟨p, hp, hof⟩ := h.product_of_line item hitem
    exact ⟨p, hp, hof.sellerId.symm⟩
  · rintro ⟨p, hp, rfl⟩
    obtain ⟨item, hitem, hof⟩ := h.line_of_product p hp
    exact ⟨item, hitem, hof.sellerId⟩

theorem productFees_eq (h : LinesOf products orderItems items)
    (h' : LinesOf products orderItems items') (s : ObjectId) :
    quoteCartProductDelivery (itemsOf items s) [] 0
      = quoteCartProductDelivery (itemsOf items' s) [] 0 := by
  refine quoteCartProductDelivery_congr (f := productFee products)
    (fun item hitem => h.fee_eq (mem_of_mem_filter hitem))
    (fun item hitem => h'.fee_eq (mem_of_mem_filter hitem)) (fun id => ?_)
  have hboth : (∃ item ∈ items, item.sellerId = s ∧ item.productId = id) ↔
      ∃ item ∈ items', item.sellerId = s ∧ item.productId = id :=
    h.exists_iff.trans h'.exists_iff.symm
  unfold itemsOf
  simp only [mem_map, mem_filter, decide_eq_true_eq, and_assoc]
  exact hboth

end LinesOf

theorem quotedSellers_nodup (quoted : List QuotedProduct) : (quotedSellers quoted).Nodup :=
  nodup_reverse.mpr (nodup_dedup _)

theorem quotedSellers_perm (h : QuotedOf products orderItems quoted)
    (hitems : LinesOf products orderItems items) :
    (quotedSellers quoted).Perm (sellerIds items) := by
  refine (perm_ext_iff_of_nodup (quotedSellers_nodup quoted) (sellerIds_nodup items)).mpr
    (fun s => ?_)
  rw [hitems.mem_sellerIds_iff]
  unfold quotedSellers
  rw [mem_reverse, mem_dedup, mem_reverse, mem_map]
  exact exists_congr (fun p => and_congr_left (fun _ => h p))

theorem sellerQuoteFee_eq (h : QuotedOf products orderItems quoted)
    (hitems : LinesOf products orderItems items) (settings : Settings) (s : ObjectId) :
    sellerQuoteFee quoted settings s
      = getGlobalDeliveryFee settings + quoteCartProductDelivery (itemsOf items s) [] 0 := by
  have hown : (quoted.filter (fun p => decide (p.sellerId = s))).map QuotedProduct.toItem
      = itemsOf (quoted.map QuotedProduct.toItem) s := by
    unfold itemsOf
    rw [filter_map]
    rfl
  unfold sellerQuoteFee
  rw [hown, (linesOf_quoted h).productFees_eq hitems]

theorem quotedFee_eq (h : QuotedOf products orderItems quoted)
    (hitems : LinesOf products orderItems items) (settings : Settings) :
    (quoteCartDelivery quoted settings).deliveryFee
      = ((sellerIds items).map (fun s => getGlobalDeliveryFee settings
          + quoteCartProductDelivery (itemsOf items s) [] 0)).sum := by
  have hsellers := (quotedSellers_perm h hitems).map (sellerQuoteFee quoted settings)
  unfold quoteCartDelivery
  dsimp only
  rw [map_map]
  exact hsellers.sum_eq.trans (congrArg sum
    (map_congr_left (fun s _ => sellerQuoteFee_eq h hitems settings s)))

end Cart

/-! ## The quote and the checkout -/

/-- Two quotes that differ in the order of their sellers at most. -/
structure SameQuote (q q' : CartQuote) : Prop where
  deliveryFee : q.deliveryFee = q'.deliveryFee
  isFreeDelivery : q.isFreeDelivery = q'.isFreeDelivery
  estimated : q.estimated = q'.estimated
  sellers : q.sellers.Perm q'.sellers

theorem sameQuote {products : ObjectId → Option Product} {orderItems : List OrderItemInput}
    {quoted quoted' : List QuotedProduct} (h : QuotedOf products orderItems quoted)
    (h' : QuotedOf products orderItems quoted') (settings : Settings) :
    SameQuote (quoteCartDelivery quoted settings) (quoteCartDelivery quoted' settings) := by
  have hlines := linesOf_quoted h'
  have hfee := (quotedFee_eq h hlines settings).trans (quotedFee_eq h' hlines settings).symm
  have hseller : sellerQuoteFee quoted settings = sellerQuoteFee quoted' settings :=
    funext (fun s => (sellerQuoteFee_eq h hlines settings s).trans
      (sellerQuoteFee_eq h' hlines settings s).symm)
  refine ⟨hfee, ?_, rfl, ?_⟩
  · exact congrArg (fun fee : ℤ => decide (fee = 0)) hfee
  · unfold quoteCartDelivery
    rw [hseller]
    exact ((quotedSellers_perm h hlines).trans (quotedSellers_perm h' hlines).symm).map _

def routeKm (store : Store) (location : Option Location) (sellerId : ObjectId) : ℚ :=
  (store.distanceKm sellerId location).toOption.getD 0

section Checkout

variable {store : Store} {r : PricingRequest} {items : List HydratedItem}
  {coupon : Option CouponResult} {started : List SellerEntry}

theorem Started.route (h : Started store r items coupon started) {s : ObjectId}
    (hs : s ∈ sellerIds items) :
    store.distanceKm s r.location = .ok (routeKm store r.location s) := by
  obtain ⟨e, -, he⟩ := Transaction.ok_of_mapM h.entries hs
  obtain ⟨km, hkm, -⟩ := sellerEntry_eq_ok.mp he
  rw [routeKm, hkm]
  rfl

theorem Started.charged (h : Started store r items coupon started)
    (hfree : (coupon.map CouponResult.freeDelivery).getD false = false) :
    sumField (stagesOf store r items coupon started).rounded Breakdown.deliveryFeeCharged
      = ((sellerIds items).map (fun s =>
          calculateCustomerDeliveryFee (routeKm store r.location s) store.settings
            + quoteCartProductDelivery (itemsOf items s) [] 0)).sum := by
  have hpasses := stagesOf_map_of_steady (g := Breakdown.deliveryFeeCharged)
    ⟨fun _ _ => rfl, fun _ _ => rfl, fun _ _ => rfl, fun _ => rfl⟩
    (fun hsome => absurd (hfree.symm.trans hsome) Bool.false_ne_true) store r items started
  have hstarted := h.entries
  rw [mapM_entryAt (fun s hs => h.route hs)] at hstarted
  unfold sumField
  rw [hpasses, ← Except.ok.inj hstarted, map_map]
  rfl

def deliveryCharged (snapshot : PricingSnapshot) : ℤ :=
  sumField snapshot.sellerBreakdownEntries Breakdown.deliveryFeeCharged

def WithinBase (store : Store) (location : Option Location) (quoted : List QuotedProduct) : Prop :=
  ∀ p ∈ quoted, ∀ km, store.distanceKm p.sellerId location = .ok km →
    km ≤ max store.settings.baseDistanceCapacityKm 0

/-- No seller of the cart is nearer by `distanceKm'` than it is for the store. -/
def Farther (store : Store) (location : Option Location) (quoted : List QuotedProduct)
    (distanceKm' : ObjectId → Option Location → Except ServiceError ℚ) : Prop :=
  ∀ p ∈ quoted, ∀ km km', store.distanceKm p.sellerId location = .ok km →
    distanceKm' p.sellerId location = .ok km' → km ≤ km'

/-- Checkout charges the delivery that was quoted, and more only for distances beyond the base
radius. -/
structure ChargedAsQuoted (store : Store) (r : PricingRequest) (quoted : List QuotedProduct)
    (snapshot : PricingSnapshot) : Prop where
  exact : store.settings.deliveryPricingMode = .fixedPrice ∨ WithinBase store r.location quoted →
    deliveryCharged snapshot = (quoteCartDelivery quoted store.settings).deliveryFee
  atLeast : (quoteCartDelivery quoted store.settings).deliveryFee ≤ deliveryCharged snapshot
  grows : ∀ distanceKm' snapshot', Farther store r.location quoted distanceKm' →
    buildCheckoutPricingSnapshot { store with distanceKm := distanceKm' } r = .ok snapshot' →
    deliveryCharged snapshot ≤ deliveryCharged snapshot'

theorem Started.quoted_of_seller (h : Started store r items coupon started)
    {quoted : List QuotedProduct} (hquoted : QuotedOf store.products r.orderItems quoted)
    {s : ObjectId} (hs : s ∈ sellerIds items) : ∃ p ∈ quoted, p.sellerId = s := by
  obtain ⟨p, hp, heq⟩ := (linesOf_hydrated h.hydrated).mem_sellerIds_iff.mp hs
  exact ⟨p, (hquoted p).mpr hp, heq⟩

theorem charged_mono {km km' : ObjectId → ℚ} (hkm : ∀ s ∈ sellerIds items, km s ≤ km' s)
    (settings : Settings) :
    ((sellerIds items).map (fun s => calculateCustomerDeliveryFee (km s) settings
        + quoteCartProductDelivery (itemsOf items s) [] 0)).sum
      ≤ ((sellerIds items).map (fun s => calculateCustomerDeliveryFee (km' s) settings
        + quoteCartProductDelivery (itemsOf items s) [] 0)).sum :=
  sum_le_sum (fun s hs =>
    Int.add_le_add_right (calculateCustomerDeliveryFee_mono (hkm s hs)) _)

/-- A cart is quoted the same however its lines are ordered and repeated, and checkout without
free delivery charges as quoted. -/
theorem cart_quote_matches_checkout (store : Store) (r : PricingRequest)
    {quoted : List QuotedProduct} (hquoted : QuotedOf store.products r.orderItems quoted) :
    (∀ quoted', QuotedOf store.products r.orderItems quoted' →
      SameQuote (quoteCartDelivery quoted store.settings)
        (quoteCartDelivery quoted' store.settings)) ∧
    ∀ snapshot, buildCheckoutPricingSnapshot store r = .ok snapshot →
      snapshot.freeDeliveryApplied = false → ChargedAsQuoted store r quoted snapshot := by
  refine ⟨fun quoted' h' => sameQuote hquoted h' store.settings, fun snapshot hsnapshot hfree => ?_⟩
  obtain ⟨items, coupon, started, hstarted, rfl⟩ := buildCheckoutPricingSnapshot_stages.mp hsnapshot
  have hcharged := hstarted.charged hfree
  have hfee := quotedFee_eq hquoted (linesOf_hydrated hstarted.hydrated) store.settings
  constructor
  · intro hbase
    refine hcharged.trans (Eq.trans (congrArg sum (map_congr_left (fun s hs => ?_)))
      hfee.symm)
    obtain ⟨p, hp, rfl⟩ := hstarted.quoted_of_seller hquoted hs
    have hnear := hbase.imp_right (fun h => h p hp _ (hstarted.route hs))
    rw [calculateCustomerDeliveryFee_eq hnear]
  · rw [hfee]
    refine (sum_le_sum (fun s _ => ?_)).trans_eq hcharged.symm
    exact Int.add_le_add_right getGlobalDeliveryFee_le _
  · intro distanceKm' snapshot' hfarther hsnapshot'
    obtain ⟨items', coupon', started', hstarted', rfl⟩ :=
      buildCheckoutPricingSnapshot_stages.mp hsnapshot'
    -- lines and coupon do not depend on the distances
    cases hstarted.hydrated.symm.trans hstarted'.hydrated
    cases hstarted.found.symm.trans hstarted'.found
    refine hcharged.trans_le (le_of_le_of_eq (charged_mono (fun s hs => ?_) store.settings)
      (hstarted'.charged hfree).symm)
    obtain ⟨p, hp, rfl⟩ := hstarted.quoted_of_seller hquoted hs
    exact hfarther p hp _ _ (hstarted.route hs) (hstarted'.route hs)

end Checkout

/-- The cups of the second line first, and then the tea. -/
def teaQuoted : List QuotedProduct := [⟨2, 5, 15⟩, ⟨1, 3, 0⟩]

theorem cart_quote_matches_checkout_tea :
    ∃ snapshot, buildCheckoutPricingSnapshot teaShop teaRequest = .ok snapshot ∧
      ChargedAsQuoted teaShop teaRequest teaQuoted snapshot := by
  have hquoted : QuotedOf teaShop.products teaRequest.orderItems teaQuoted := by
    have hcart : cartProducts teaShop.products teaRequest.orderItems
        = [⟨1, 3, 0⟩, ⟨2, 5, 15⟩] := rfl
    intro p
    rw [hcart]
    exact (Perm.swap _ _ []).mem_iff
  have hpriced := buildCheckoutPricingSnapshot_stages.mpr ⟨_, _, _, teaRequest_started, rfl⟩
  exact ⟨_, hpriced, (cart_quote_matches_checkout teaShop teaRequest hquoted).2 _ hpriced rfl⟩

end DiscountBazar.Pricing
