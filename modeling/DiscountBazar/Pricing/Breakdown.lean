/-
The price of one seller's cart (`pricingService.js`, `deliveryQuoteService.js`).

Prices, fees and breakdowns are paise; rates and distances are rationals. Settings are as
`normalizeFinanceSettings` leaves them, with no amount below 0. Images, delivery times and the snapshots of the rules are left out: no
amount depends on them.
-/
import DiscountBazar.Finance.Types

namespace DiscountBazar.Pricing

/-! ## Vocabulary (`constants/finance.js`) -/

inductive CommissionType where
  | percentage | fixed

inductive CommissionFixedRule where
  | perQty | perItem

inductive HandlingFeeType where
  | fixed | percentage | none

inductive HandlingFeeStrategy where
  | highestCategoryFee | sumOfCategoryFees | maxSingleFee | perItemFee

inductive DeliveryPricingMode where
  | distanceBased | fixedPrice
  deriving DecidableEq

/-- The switches of the environment that prices depend on. -/
structure Flags where
  walletRedemptionReducesPayable : Bool := true
  serverSideCouponEngine : Bool := true

/-- The fee rules of a header category; `none` is a value that is not set. -/
structure Category where
  adminCommissionType : Option CommissionType := some .percentage
  adminCommission : ℚ := 0
  adminCommissionValue : Option ℚ := some 0
  adminCommissionFixedRule : Option CommissionFixedRule := some .perQty
  handlingFeeType : Option HandlingFeeType := some .fixed
  handlingFees : ℚ := 0
  handlingFeeValue : Option ℚ := some 0

structure Settings where
  deliveryPricingMode : DeliveryPricingMode := .distanceBased
  fixedDeliveryFee : ℕ := 3000
  customerBaseDeliveryFee : ℕ := 3000
  riderBasePayout : ℕ := 3000
  baseDistanceCapacityKm : ℚ := 1 / 2
  incrementalKmSurcharge : ℕ := 1000
  deliveryPartnerRatePerKm : ℕ := 500
  handlingFeeStrategy : HandlingFeeStrategy := .highestCategoryFee
  globalTaxRate : ℚ≥0 := 0
  minOrderValue : ℕ := 9900
  minOrderValueAfterCoupon : Bool := true
  codEnabled : Bool := true
  onlineEnabled : Bool := true

/-- A line of a cart with its server price. -/
structure HydratedItem where
  productId : ObjectId
  productName : String := ""
  quantity : ℕ
  price : ℤ
  headerCategoryId : ObjectId
  sellerId : ObjectId
  variantSku : String := ""
  productDeliveryFee : ℤ := 0
  deriving DecidableEq

/-! ## Rounding -/

/-- `a || b` on numbers. -/
def orNumber (a b : ℚ) : ℚ := if a ≠ 0 then a else b

/-- `Number(x.toFixed(2))`, in paise: to the nearest paisa, halves away from zero. -/
def round2 (value : ℚ) : ℤ :=
  if value < 0 then -mathRound (-value * 100) else mathRound (value * 100)

/-- `Math.ceil` of an amount: whole rupees, upwards. -/
def mathCeil (paise : ℤ) : ℤ := -(-paise / 100) * 100

/-- `percentOf` an amount. -/
def percentOf (paise : ℤ) (ratePercent : ℚ) : ℤ := mathRound (paise * ratePercent / 100)

/-- `normalizeLineQuantity` of a whole number. -/
def normalizeLineQuantity (quantity : ℕ) : ℕ := if quantity = 0 then 1 else quantity

def normalizeLinePrice (value : ℚ) : ℤ := clampMoney value 0

def HydratedItem.subtotal (item : HydratedItem) : ℤ :=
  normalizeLinePrice (fromPaise item.price) * normalizeLineQuantity item.quantity

/-! ## Commission -/

/-- What a category says, where a value of 0 stands for the older field if that is set. -/
def resolvedValue (value : Option ℚ) (legacy : ℚ) : ℚ :=
  match value with
  | none => max legacy 0
  | some v => max (if v = 0 ∧ 0 < legacy then legacy else v) 0

/-- What `calculateCategoryCommission` returns. -/
structure Commission where
  itemSubtotal : ℤ
  adminCommission : ℤ
  sellerPayout : ℤ

/-- The commission before it is clamped to the line. -/
def rawCommission (item : HydratedItem) : Option Category → ℤ
  | none => percentOf item.subtotal 0
  | some c =>
    match c.adminCommissionType.getD .percentage with
    | .percentage => percentOf item.subtotal (resolvedValue c.adminCommissionValue c.adminCommission)
    | .fixed =>
      match c.adminCommissionFixedRule.getD .perQty with
      | .perItem => roundCurrency (resolvedValue c.adminCommissionValue c.adminCommission)
      | .perQty => roundCurrency (resolvedValue c.adminCommissionValue c.adminCommission *
          normalizeLineQuantity item.quantity)

def calculateCategoryCommission (item : HydratedItem) (category : Option Category) : Commission :=
  let adminCommission := min (max (rawCommission item category) 0) item.subtotal
  { itemSubtotal := item.subtotal
    adminCommission
    sellerPayout := item.subtotal - adminCommission }

/-! ## Handling fee -/

def resolveHandlingConfig : Option Category → HandlingFeeType × ℚ
  | none => (.none, 0)
  | some c =>
    (c.handlingFeeType.getD (if 0 < c.handlingFees then .fixed else .none),
      resolvedValue c.handlingFeeValue c.handlingFees)

def calculateHandlingForCategory (config : HandlingFeeType × ℚ) (categorySubtotal : ℤ) : ℤ :=
  match config.1 with
  | .none => 0
  | .percentage => percentOf categorySubtotal config.2
  | .fixed => roundCurrency config.2

/-- The header categories of a cart, in the order they come. -/
def headerIds (items : List HydratedItem) : List ObjectId :=
  (items.map HydratedItem.headerCategoryId).reverse.dedup.reverse

def categorySubtotal (items : List HydratedItem) (headerId : ObjectId) : ℤ :=
  ((items.filter (fun item => decide (item.headerCategoryId = headerId))).map
    HydratedItem.subtotal).sum

def categoryFees (items : List HydratedItem) (categories : ObjectId → Option Category) :
    List (ObjectId × ℤ) :=
  (headerIds items).map (fun headerId =>
    (headerId, calculateHandlingForCategory (resolveHandlingConfig (categories headerId))
      (categorySubtotal items headerId)))

/-- The row with the highest fee, the first of them where several have it. -/
def maxCategory : List (ObjectId × ℤ) → Option (ObjectId × ℤ)
  | [] => none
  | row :: rows => some (rows.foldl (fun best row => if best.2 < row.2 then row else best) row)

/-- The handling fee of a line under `PER_ITEM_FEE`. -/
def perItemFee (categories : ObjectId → Option Category) (item : HydratedItem) : ℤ :=
  match resolveHandlingConfig (categories item.headerCategoryId) with
  | (.fixed, value) => roundCurrency (value * normalizeLineQuantity item.quantity)
  | config => calculateHandlingForCategory config item.subtotal

/-- `calculateHandlingFee`: the fee, and the category it is said to come from. -/
def calculateHandlingFee (items : List HydratedItem) (strategy : HandlingFeeStrategy)
    (categories : ObjectId → Option Category) : ℤ × Option ObjectId :=
  let fees := categoryFees items categories
  let used := (maxCategory fees).map Prod.fst
  match strategy with
  | .sumOfCategoryFees => ((fees.map Prod.snd).sum, used)
  | .perItemFee => ((items.map (perItemFee categories)).sum, used)
  | _ => (((maxCategory fees).map Prod.snd).getD 0, used)

/-! ## Delivery and rider -/

def ceilKm (km : ℚ) : ℕ := if km ≤ 0 then 0 else ⌈km⌉₊

/-- `calculateCustomerDeliveryFee`, the fee of it. -/
def calculateCustomerDeliveryFee (distanceKm : ℚ) (settings : Settings) : ℤ :=
  match settings.deliveryPricingMode with
  | .fixedPrice => settings.fixedDeliveryFee
  | .distanceBased =>
    let distance := max distanceKm 0
    let base := max settings.baseDistanceCapacityKm 0
    if distance ≤ base then settings.customerBaseDeliveryFee
    else settings.customerBaseDeliveryFee
      + ceilKm (distance - base) * settings.incrementalKmSurcharge

/-- The part of `calculateRiderPayout` for the distance. -/
def riderPayoutDistance (distanceKm : ℚ) (settings : Settings) : ℤ :=
  let distance := max distanceKm 0
  let base := max settings.baseDistanceCapacityKm 0
  if settings.deliveryPricingMode = .fixedPrice ∨ distance ≤ base then 0
  else ceilKm (distance - base) * settings.deliveryPartnerRatePerKm

/-- The fee part of `quoteCartProductDelivery`: the highest product fee, each product once. -/
def quoteCartProductDelivery : List HydratedItem → List ObjectId → ℤ → ℤ
  | [], _, fee => fee
  | item :: items, seen, fee =>
    if item.productId ∈ seen then quoteCartProductDelivery items seen fee
    else quoteCartProductDelivery items (item.productId :: seen)
      (max fee (max item.productDeliveryFee 0))

/-! ## The breakdown -/

structure Breakdown where
  productSubtotal : ℤ
  deliveryFeeCharged : ℤ
  globalDeliveryFee : ℤ
  productDeliveryFeeTotal : ℤ
  isFreeDelivery : Bool
  handlingFeeCharged : ℤ
  tipTotal : ℤ
  discountTotal : ℤ
  taxTotal : ℤ
  grossTotal : ℤ
  grandTotal : ℤ
  walletAmount : ℤ
  walletNettedInGrandTotal : Bool
  payableAmount : ℤ
  sellerPayoutTotal : ℤ
  adminProductCommissionTotal : ℤ
  riderPayoutBase : ℤ
  riderPayoutDistance : ℤ
  riderTipAmount : ℤ
  riderPayoutTotal : ℤ
  platformLogisticsMargin : ℤ
  platformTotalEarning : ℤ

/-- `generateOrderPaymentBreakdown` of a seller's hydrated cart, without tip and wallet:
the checkout adds these later. -/
def generateOrderPaymentBreakdown (flags : Flags) (categories : ObjectId → Option Category)
    (settings : Settings) (items : List HydratedItem) (distanceKm : ℚ)
    (discountTotal taxTotal : ℤ) : Breakdown :=
  let commissions := items.map (fun item =>
    calculateCategoryCommission item (categories item.headerCategoryId))
  let productSubtotal := (commissions.map Commission.itemSubtotal).sum
  let adminCommission := (commissions.map Commission.adminCommission).sum
  let globalDeliveryFee := calculateCustomerDeliveryFee distanceKm settings
  let productDeliveryFee := quoteCartProductDelivery items [] 0
  let deliveryFee := globalDeliveryFee + productDeliveryFee
  let handlingFee := (calculateHandlingFee items settings.handlingFeeStrategy categories).1
  let riderDistance := Pricing.riderPayoutDistance distanceKm settings
  let grossTotal := mathCeil
    (productSubtotal + deliveryFee + handlingFee - discountTotal + taxTotal)
  let walletAllocation := if flags.walletRedemptionReducesPayable then min 0 grossTotal else 0
  let margin := deliveryFee + handlingFee - (settings.riderBasePayout + riderDistance)
  { productSubtotal
    deliveryFeeCharged := deliveryFee
    globalDeliveryFee
    productDeliveryFeeTotal := productDeliveryFee
    isFreeDelivery := decide (deliveryFee = 0)
    handlingFeeCharged := handlingFee
    tipTotal := 0
    discountTotal
    taxTotal
    grossTotal
    grandTotal := mathCeil (grossTotal - walletAllocation)
    walletAmount := walletAllocation
    walletNettedInGrandTotal := decide (0 < walletAllocation)
    payableAmount := mathCeil (grossTotal - walletAllocation)
    sellerPayoutTotal := (commissions.map Commission.sellerPayout).sum
    adminProductCommissionTotal := adminCommission
    riderPayoutBase := settings.riderBasePayout
    riderPayoutDistance := riderDistance
    riderTipAmount := 0
    riderPayoutTotal := settings.riderBasePayout + riderDistance
    platformLogisticsMargin := margin
    platformTotalEarning := adminCommission + margin }

end DiscountBazar.Pricing
