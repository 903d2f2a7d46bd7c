/-
The price of a checkout (`checkoutPricingService.js`, `minimumOrderService.js`).

A checkout prices each seller's cart and then goes over the list of them: the handling fee
of the whole checkout, free delivery, the tip, the wallet, and the final rounding. Each
pass is a function on the list of entries. The distance of a seller comes from a route
service and is a function of the store; delivery times and rule snapshots are left out.
-/
import DiscountBazar.Pricing.Coupon
import Mathlib.Data.List.Sort

namespace DiscountBazar.Pricing

open Breakdown

/-! ## The store -/

structure ProductVariant where
  sku : String
  name : String := ""
  price : ℚ := 0
  salePrice : ℚ := 0

/-- The part of a product that its price depends on. -/
structure Product where
  name : String
  active : Bool := true
  approved : Bool := true
  price : ℚ
  salePrice : ℚ := 0
  headerId : ObjectId
  sellerId : ObjectId
  variants : List ProductVariant := []
  productDeliveryFee : ℚ := 0

structure Location where
  lat : ℚ
  lng : ℚ
  deriving DecidableEq

/-- What prices depend on. `distanceKm` is `computeDistanceKmForSeller`. -/
structure Store where
  flags : Flags := {}
  products : ObjectId → Option Product
  categories : ObjectId → Option Category := fun _ => none
  settings : Settings := {}
  coupons : CouponStore := {}
  distanceKm : ObjectId → Option Location → Except ServiceError ℚ := fun _ _ => .ok 0

/-- A line of a request: its quantity is a whole number of at least 1. -/
structure OrderItemInput where
  product : ObjectId
  name : String := ""
  variantSku : String := ""
  quantity : ℕ
  deriving DecidableEq

/-- The arguments of `buildCheckoutPricingSnapshot`. -/
structure PricingRequest where
  orderItems : List OrderItemInput
  location : Option Location := none
  tipAmount : ℚ := 0
  discountTotal : ℚ := 0
  walletAmount : ℚ := 0
  coupon : CouponRequest := {}
  customerId : Option ObjectId := none

/-! ## Hydration -/

def toDeliveryFee (value : ℚ) : ℤ := if 0 < value then mathRound (value * 100) else 0

def serverUnitPrice (p : Product) : Option ProductVariant → ℤ
  | none => normalizeLinePrice (orNumber p.salePrice p.price)
  | some v =>
    if 0 < v.salePrice ∧ (v.price = 0 ∨ v.salePrice < v.price) then normalizeLinePrice v.salePrice
    else normalizeLinePrice (orNumber v.price (orNumber p.salePrice p.price))

/-- The variant that a line names, by its SKU or else by its name. -/
def resolveVariant (p : Product) (variantSku : String) : Except ServiceError (Option ProductVariant) :=
  if variantSku = "" then pure none
  else
    match p.variants.find? (fun v => trim v.sku == variantSku) with
    | some v => pure (some v)
    | none =>
      match p.variants.find? (fun v => trim v.name == variantSku) with
      | some v => pure (some v)
      | none => throw ⟨"Invalid variant for product: " ++ p.name, some 400⟩

/-- One line of `hydrateOrderItems`. -/
def hydrateItem (products : ObjectId → Option Product) (item : OrderItemInput) :
    Except ServiceError HydratedItem :=
  match products item.product with
  | none => throw ⟨"Product not found for line item: " ++ toString item.product, none⟩
  | some p =>
    if p.active = false then throw ⟨"Product is not available for purchase: " ++ p.name, none⟩
    else if p.approved = false then throw ⟨"Product is not approved for purchase: " ++ p.name, none⟩
    else do
      let variantSku := trim item.variantSku
      let variant ← resolveVariant p variantSku
      pure
        { productId := item.product
          productName := if item.name = "" then p.name else item.name
          quantity := normalizeLineQuantity item.quantity
          price := serverUnitPrice p variant
          headerCategoryId := p.headerId
          sellerId := p.sellerId
          variantSku
          productDeliveryFee := toDeliveryFee p.productDeliveryFee }

def hydrateOrderItems (products : ObjectId → Option Product) (items : List OrderItemInput) :
    Except ServiceError (List HydratedItem) :=
  items.mapM (hydrateItem products)

/-! ## Minimum order -/

/-- What `evaluateMinimumOrder` returns. -/
structure MinimumOrderStatus where
  minOrderValue : ℤ
  eligibleSubtotal : ℤ
  remainingAmount : ℤ

def MinimumOrderStatus.isMet (s : MinimumOrderStatus) : Bool := decide (s.remainingAmount ≤ 0)

def evaluateMinimumOrder (minOrderValue merchandiseSubtotal couponDiscount : ℤ)
    (includeCouponDiscount : Bool) : MinimumOrderStatus :=
  let threshold := max 0 minOrderValue
  let discount := if includeCouponDiscount then max 0 couponDiscount else 0
  let eligible := max 0 (merchandiseSubtotal - discount)
  ⟨threshold, eligible, max 0 (threshold - eligible)⟩

def worstMinimumOrderStatus : List MinimumOrderStatus → Option MinimumOrderStatus
  | [] => none
  | s :: rest => some (rest.foldl (fun worst status =>
    if worst.remainingAmount < status.remainingAmount then status else worst) s)

/-- `ceilRupees` of an amount, in whole rupees. -/
def ceilRupees (paise : ℤ) : ℤ :=
  if paise < 0 then -(-(-(-paise) / 100)) else -(-paise / 100)

def assertMinimumOrderMet : Option MinimumOrderStatus → Except ServiceError Unit
  | some status =>
    if status.isMet then pure ()
    else throw ⟨"Add ₹" ++ toLocaleString (ceilRupees status.remainingAmount) ++
      " more to place your order.", some 400⟩
  | none => pure ()

/-! ## One seller -/

/-- A seller's part of a checkout. -/
structure SellerEntry where
  sellerId : ObjectId
  distanceKm : ℚ
  minimumOrder : MinimumOrderStatus
  items : List HydratedItem
  breakdown : Breakdown

def sellerIds (items : List HydratedItem) : List ObjectId :=
  (items.map HydratedItem.sellerId).dedup.mergeSort (fun a b => decide (a ≤ b))

def itemsOf (items : List HydratedItem) (sellerId : ObjectId) : List HydratedItem :=
  items.filter (fun item => decide (item.sellerId = sellerId))

/-- The subtotal that discounts and taxes are computed on. -/
def merchandiseSubtotal (items : List HydratedItem) : ℤ :=
  (items.map (fun item => item.price * (normalizeLineQuantity item.quantity : ℤ))).sum

def sellerRatio (items : List HydratedItem) (sellerId : ObjectId) : ℚ :=
  let total := ((sellerIds items).map (fun s => merchandiseSubtotal (itemsOf items s))).sum
  if 0 < total then merchandiseSubtotal (itemsOf items sellerId) / total
  else 1 / (sellerIds items).length

def sellerDiscount (items : List HydratedItem) (effectiveDiscount : ℤ) (sellerId : ObjectId) : ℤ :=
  round2 (fromPaise effectiveDiscount * sellerRatio items sellerId)

def sellerEntry (store : Store) (location : Option Location) (items : List HydratedItem)
    (effectiveDiscount : ℤ) (sellerId : ObjectId) : Except ServiceError SellerEntry := do
  let distanceKm ← store.distanceKm sellerId location
  let own := itemsOf items sellerId
  let subtotal := merchandiseSubtotal own
  let discount := sellerDiscount items effectiveDiscount sellerId
  let tax := mathCeil (round2 (fromPaise subtotal * store.settings.globalTaxRate / 100))
  pure
    { sellerId
      distanceKm
      minimumOrder := evaluateMinimumOrder store.settings.minOrderValue subtotal discount
        store.settings.minOrderValueAfterCoupon
      items := own
      breakdown := generateOrderPaymentBreakdown store.flags store.categories store.settings own
        distanceKm discount tax }

/-! ## Passes over the sellers -/

namespace SellerEntry

def mapBreakdown (e : SellerEntry) (f : Breakdown → Breakdown) : SellerEntry :=
  { e with breakdown := f e.breakdown }

end SellerEntry

namespace Breakdown

/-- The handling fee of the checkout in place of the seller's own. -/
def setHandlingFee (b : Breakdown) (fee : ℤ) : Breakdown :=
  let grossTotal := b.productSubtotal + b.deliveryFeeCharged + fee - b.discountTotal + b.taxTotal
  let margin := b.deliveryFeeCharged + fee - b.riderPayoutTotal
  { b with
    handlingFeeCharged := fee
    grossTotal
    grandTotal := grossTotal
    payableAmount := grossTotal
    walletAmount := 0
    platformLogisticsMargin := margin
    platformTotalEarning := b.adminProductCommissionTotal + margin }

/-- `applyFreeDeliveryToSellerBreakdowns` for one seller. -/
def freeDelivery (b : Breakdown) : Breakdown :=
  if b.deliveryFeeCharged ≤ 0 then b
  else
    let margin := b.handlingFeeCharged - b.riderPayoutTotal
    { b with
      deliveryFeeCharged := 0
      isFreeDelivery := true
      grossTotal := b.grossTotal - b.deliveryFeeCharged
      grandTotal := b.grandTotal - b.deliveryFeeCharged
      payableAmount := b.grandTotal - b.deliveryFeeCharged
      platformLogisticsMargin := margin
      platformTotalEarning := b.adminProductCommissionTotal + margin }

def addTip (b : Breakdown) (tip : ℤ) : Breakdown :=
  { b with
    tipTotal := b.tipTotal + tip
    riderTipAmount := b.riderTipAmount + tip
    riderPayoutTotal := b.riderPayoutTotal + tip
    grandTotal := b.grandTotal + tip }

def redeem (b : Breakdown) (allocation : ℤ) : Breakdown :=
  { b with
    walletAmount := b.walletAmount + allocation
    walletNettedInGrandTotal := b.walletNettedInGrandTotal || decide (0 < allocation)
    grandTotal := b.grandTotal - allocation
    payableAmount := b.grandTotal - allocation }

def roundUp (b : Breakdown) : Breakdown :=
  { b with
    grandTotal := mathCeil b.grandTotal
    grossTotal := mathCeil b.grossTotal
    payableAmount := mathCeil (mathCeil b.grandTotal)
    taxTotal := mathCeil b.taxTotal }

end Breakdown

def computeGlobalHandlingFeeForCheckout (store : Store) (items : List HydratedItem) :
    ℤ × Option ObjectId :=
  calculateHandlingFee items .highestCategoryFee store.categories

/-- The seller that is charged the handling fee: one with an item of the category it comes
from, else the first. -/
def chosenSeller (entries : List SellerEntry) (used : Option ObjectId) : Option ObjectId :=
  let hit := entries.find? (fun e => e.items.any (fun item => decide (some item.headerCategoryId = used)))
  (hit.orElse (fun _ => entries.head?)).map SellerEntry.sellerId

/-- `applyGlobalHandlingFeeToSellerBreakdowns`. -/
def applyGlobalHandlingFee (entries : List SellerEntry) (handling : ℤ × Option ObjectId) :
    List SellerEntry :=
  if handling.1 ≤ 0 then entries
  else entries.map (fun e => e.mapBreakdown (fun b =>
    b.setHandlingFee (if chosenSeller entries handling.2 = some e.sellerId then handling.1 else 0)))

/-- `applyFreeDeliveryToSellerBreakdowns`. -/
def applyFreeDelivery (entries : List SellerEntry) : List SellerEntry :=
  entries.map (fun e => e.mapBreakdown freeDelivery)

def totalBase (entries : List SellerEntry) : ℤ := (entries.map (fun e => e.breakdown.grandTotal)).sum

def shareOf (amount total base : ℤ) : ℤ :=
  if 0 < base then round2 (fromPaise total / fromPaise base * fromPaise amount) else 0

/-- The loop of the tip: the last seller gets what is left. -/
def allocateTip (tip base : ℤ) : ℤ → List SellerEntry → List SellerEntry
  | _, [] => []
  | allocatedSoFar, [e] => [e.mapBreakdown (fun b => b.addTip (tip - allocatedSoFar))]
  | allocatedSoFar, e :: entries =>
    let share := shareOf tip e.breakdown.grandTotal base
    e.mapBreakdown (fun b => b.addTip share) :: allocateTip tip base (allocatedSoFar + share) entries

/-- `allocateCheckoutTipToSellerBreakdowns`. -/
def allocateCheckoutTip (entries : List SellerEntry) (totalTipAmount : ℚ) : List SellerEntry :=
  if round2 totalTipAmount ≤ 0 then entries
  else allocateTip (round2 totalTipAmount) (totalBase entries) 0 entries

/-- The loop of the wallet: the last seller gets what is left, and no more than its total. -/
def allocateWallet (wallet base : ℤ) : ℤ → List SellerEntry → List SellerEntry
  | _, [] => []
  | allocatedSoFar, [e] =>
    [e.mapBreakdown (fun b => b.redeem (max 0 (min (wallet - allocatedSoFar) b.grandTotal)))]
  | allocatedSoFar, e :: entries =>
    let share := shareOf wallet e.breakdown.grandTotal base
    e.mapBreakdown (fun b => b.redeem (max 0 (min share b.grandTotal)))
      :: allocateWallet wallet base (allocatedSoFar + share) entries

/-- `applyWalletAllocationToSellerBreakdowns`. -/
def applyWalletAllocation (flags : Flags) (entries : List SellerEntry) (totalWalletAmount : ℚ) :
    List SellerEntry :=
  if flags.walletRedemptionReducesPayable = false then entries
  else if round2 totalWalletAmount ≤ 0 then entries
  else if min (round2 totalWalletAmount) (totalBase entries) ≤ 0 then entries
  else allocateWallet (min (round2 totalWalletAmount) (totalBase entries)) (totalBase entries) 0 entries

def roundUpAll (entries : List SellerEntry) : List SellerEntry :=
  entries.map (fun e => e.mapBreakdown roundUp)

/-! ## The checkout -/

/-- The part of `buildAggregateBreakdown`'s result that is made of amounts. -/
structure Aggregate where
  productSubtotal : ℤ
  deliveryFeeCharged : ℤ
  handlingFeeCharged : ℤ
  tipTotal : ℤ
  discountTotal : ℤ
  taxTotal : ℤ
  grandTotal : ℤ
  grossTotal : ℤ
  walletAmount : ℤ
  payableAmount : ℤ
  sellerPayoutTotal : ℤ
  adminProductCommissionTotal : ℤ
  riderPayoutTotal : ℤ
  platformTotalEarning : ℤ
  isFreeDelivery : Bool

def sumField (entries : List SellerEntry) (field : Breakdown → ℤ) : ℤ :=
  (entries.map (fun e => field e.breakdown)).sum

def buildAggregateBreakdown (entries : List SellerEntry) : Aggregate where
  productSubtotal := sumField entries productSubtotal
  deliveryFeeCharged := sumField entries deliveryFeeCharged
  handlingFeeCharged := sumField entries handlingFeeCharged
  tipTotal := sumField entries tipTotal
  discountTotal := sumField entries discountTotal
  taxTotal := mathCeil (sumField entries taxTotal)
  grandTotal := mathCeil (sumField entries grandTotal)
  grossTotal := mathCeil (sumField entries grossTotal)
  walletAmount := sumField entries walletAmount
  payableAmount := mathCeil (sumField entries payableAmount)
  sellerPayoutTotal := sumField entries sellerPayoutTotal
  adminProductCommissionTotal := sumField entries adminProductCommissionTotal
  riderPayoutTotal := sumField entries riderPayoutTotal
  platformTotalEarning := sumField entries platformTotalEarning
  isFreeDelivery := decide (sumField entries deliveryFeeCharged = 0)

/-- What `buildCheckoutPricingSnapshot` returns. -/
structure PricingSnapshot where
  sellerBreakdownEntries : List SellerEntry
  aggregateBreakdown : Aggregate
  couponId : Option ObjectId
  minimumOrder : Option MinimumOrderStatus
  freeDeliveryApplied : Bool

def checkoutCoupon (store : Store) (r : PricingRequest) (items : List HydratedItem) :
    Except ServiceError (Option CouponResult) :=
  if store.flags.serverSideCouponEngine then
    computeOrderDiscount store.coupons r.coupon r.customerId items
  else pure none

/-- The discount that counts: the coupon's, else the one of the request. -/
def effectiveDiscount (coupon : Option CouponResult) (discountTotal : ℚ) : ℤ :=
  match coupon with
  | some c => c.discountAmount
  | none => round2 discountTotal

/-- The passes up to the wallet. -/
def beforeWallet (store : Store) (items : List HydratedItem) (freeDelivery : Bool) (tipAmount : ℚ)
    (entries : List SellerEntry) : List SellerEntry :=
  let entries := applyGlobalHandlingFee entries (computeGlobalHandlingFeeForCheckout store items)
  let entries := if freeDelivery then applyFreeDelivery entries else entries
  allocateCheckoutTip entries tipAmount

/-- `buildCheckoutPricingSnapshot` up to the wallet: the coupon and the sellers' entries. -/
def priceBeforeWallet (store : Store) (r : PricingRequest) :
    Except ServiceError (Option CouponResult × List SellerEntry) := do
  let items ← hydrateOrderItems store.products r.orderItems
  if items = [] then throw ⟨"Cannot checkout with empty cart", some 400⟩
  else do
    let coupon ← checkoutCoupon store r items
    let freeDelivery := (coupon.map CouponResult.freeDelivery).getD false
    let entries ← (sellerIds items).mapM
      (sellerEntry store r.location items (effectiveDiscount coupon r.discountTotal))
    pure (coupon, beforeWallet store items freeDelivery r.tipAmount entries)

def snapshotOf (coupon : Option CouponResult) (entries : List SellerEntry) : PricingSnapshot where
  sellerBreakdownEntries := entries
  aggregateBreakdown := buildAggregateBreakdown entries
  couponId := coupon.map CouponResult.couponId
  minimumOrder := worstMinimumOrderStatus (entries.map SellerEntry.minimumOrder)
  freeDeliveryApplied := (coupon.map CouponResult.freeDelivery).getD false

def buildCheckoutPricingSnapshot (store : Store) (r : PricingRequest) :
    Except ServiceError PricingSnapshot := do
  let (coupon, entries) ← priceBeforeWallet store r
  pure (snapshotOf coupon
    (roundUpAll (applyWalletAllocation store.flags entries r.walletAmount)))

end DiscountBazar.Pricing
