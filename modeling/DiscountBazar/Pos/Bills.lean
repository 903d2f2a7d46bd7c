/-
The bills of the shop counter (`posTax.js`, `posSaleService.js`, `posEditService.js`).

A cashier's payload is as the request schema admits it: a line has at least one unit and a price of
at least nothing, and no amount or rate is negative. Prices are not rounded by anyone before they
are multiplied, so a line's price is a rational and only the totals are in paise.
-/
import DiscountBazar.Pricing.Coupon
import Mathlib.Tactic.Positivity

namespace DiscountBazar.Pos

open Pricing Transaction List

/-! ## Documents -/

structure PosVariant where
  sku : String

structure PosProduct where
  id : ObjectId
  name : String := ""
  headerId : Option ObjectId := none
  gstPercent : ℚ≥0 := 0
  variants : List PosVariant := []

structure PosLine where
  productId : ObjectId
  quantity : ℕ+
  price : ℚ≥0
  variantSku : String := ""
  gstPercent : Option ℚ≥0 := none

/-- What the cashier sends; a customer that is sent as nobody takes the bill's customer off it. -/
structure PosPayload where
  items : List PosLine
  discount : Option ℚ≥0 := none
  taxPercent : Option ℚ≥0 := none
  taxTotal : Option ℚ≥0 := none
  isTaxInclusive : Option Bool := none
  posCustomerId : Option (Option ObjectId) := none

structure BillLine where
  product : ObjectId
  variantSlot : String
  name : String := ""
  quantity : ℕ+
  price : ℚ≥0
  gstPercent : ℚ≥0
  deriving DecidableEq

def BillLine.amount (line : BillLine) : ℚ := line.price * (line.quantity : ℕ)

/-- `keyOf` and `lineKey`. -/
def BillLine.key (line : BillLine) : ObjectId × String := (line.product, line.variantSlot)

structure PosBreakdown where
  productSubtotal : ℤ
  discountTotal : ℤ
  taxTotal : ℤ
  isTaxInclusive : Bool
  grandTotal : ℤ
  sellerPayoutTotal : ℤ
  adminProductCommissionTotal : ℤ
  platformTotalEarning : ℤ
  deriving DecidableEq

structure PosBill where
  items : List BillLine
  isTaxInclusive : Bool
  paymentBreakdown : PosBreakdown
  posCustomer : Option ObjectId := none
  deriving DecidableEq

/-! ## Totals (`computePosTotals`) -/

structure PosTotals where
  subtotal : ℤ
  discountTotal : ℤ
  taxTotal : ℤ
  grandTotal : ℤ
  deriving DecidableEq

/-- The part of an amount that is GST, or the GST on top of it. -/
def taxOn (isTaxInclusive : Bool) (amount rate : ℚ) : ℚ :=
  if ¬ 0 < rate then 0
  else if isTaxInclusive then amount - amount * 100 / (100 + rate)
  else amount * rate / 100

/-- What is left of each rupee after the discount. -/
def share (gross taxable : ℤ) : ℚ := if 0 < gross then (taxable : ℚ) / gross else 0

def lineTax (isTaxInclusive : Bool) (items : List BillLine) (share : ℚ) : ℤ :=
  roundCurrency (items.map (fun i => taxOn isTaxInclusive (i.amount * share) i.gstPercent)).sum

/-- The tax of a bill: the amount that was settled on, one rate for the whole bill, or the rates of
the lines. -/
def billTax (items : List BillLine) (gross taxable : ℤ) (isTaxInclusive : Bool)
    (taxPercent taxTotal : Option ℚ) : ℤ :=
  match taxTotal with
  | some taxTotal =>
    let tax := roundCurrency (max 0 taxTotal)
    if isTaxInclusive then min tax taxable else tax
  | none =>
    if 0 < taxPercent.getD 0 then
      roundCurrency (taxOn isTaxInclusive (fromPaise taxable) (taxPercent.getD 0))
    else lineTax isTaxInclusive items (share gross taxable)

def computePosTotals (items : List BillLine) (subtotal : Option ℤ) (discount : ℚ)
    (isTaxInclusive : Bool) (taxPercent taxTotal : Option ℚ) : PosTotals :=
  let gross := subtotal.getD (roundCurrency (items.map BillLine.amount).sum)
  let discountTotal := min (roundCurrency (max 0 discount)) gross
  let taxable := gross - discountTotal
  let tax := billTax items gross taxable isTaxInclusive taxPercent taxTotal
  { subtotal := gross
    discountTotal
    taxTotal := tax
    grandTotal := if isTaxInclusive then taxable else taxable + tax }

/-! ## Lines -/

def findProduct (products : List PosProduct) (id : ObjectId) : Option PosProduct :=
  products.find? (fun product => decide (product.id = id))

/-- `String(sku || "").trim().toUpperCase()`. -/
def normalizedSku (sku : String) : String := toUpperCase (trim sku)

def meantVariant (variants : List PosVariant) (requestedSku : String) : Option PosVariant :=
  if normalizedSku requestedSku ≠ "" then
    variants.find? (fun v => decide (normalizedSku v.sku = normalizedSku requestedSku))
  else
    match variants with
    | [variant] => some variant
    | _ => none

def resolvePosVariant (product : PosProduct) (requestedSku : String) :
    Except ServiceError (Option PosVariant) :=
  if product.variants = [] then .ok none
  else
    let missing : ServiceError :=
      ⟨product.name ++ " has a variant without a SKU. Open the product and save it once to " ++
        "generate SKUs, then try again.", some 400⟩
    match meantVariant product.variants requestedSku with
    | some variant => if trim variant.sku ≠ "" then .ok (some variant) else .error missing
    | none =>
      if normalizedSku requestedSku ≠ "" then
        .error ⟨product.name ++ ": variant " ++ requestedSku ++ " not found", some 400⟩
      else if product.variants.any (fun v => decide (trim v.sku = "")) then .error missing
      else .error ⟨product.name ++ ": choose a variant", some 400⟩

def resolvedSku (product : PosProduct) (requestedSku : String) : Except ServiceError String := do
  let variant ← resolvePosVariant product requestedSku
  .ok (variant.elim "" PosVariant.sku)

def notInCatalog : ServiceError := ⟨"One or more items do not belong to your catalog", some 404⟩

structure HydratedPosItem extends BillLine where
  headerCategoryId : Option ObjectId

/-- `hydratePosItems`, for one line. -/
def hydratePosItem (products : List PosProduct) (item : PosLine) :
    Except ServiceError HydratedPosItem :=
  match findProduct products item.productId with
  | none => .error notInCatalog
  | some product => do
      let variantSku ← resolvedSku product item.variantSku
      .ok { product := item.productId
            variantSlot := variantSku
            name := product.name
            quantity := item.quantity
            price := item.price
            gstPercent := item.gstPercent.getD product.gstPercent
            headerCategoryId := product.headerId }

def hydratePosItems (products : List PosProduct) (payloadItems : List PosLine) :
    Except ServiceError (List HydratedPosItem) :=
  payloadItems.mapM (hydratePosItem products)

/-! ## Preview and sale -/

/-- An amount that may not be sent. -/
def asNumber (x : Option ℚ≥0) : Option ℚ := x.map (fun a : ℚ≥0 => (a : ℚ))

/-- `payload.taxTotal > 0 ? payload.taxTotal : undefined`. -/
def positiveTax (taxTotal : Option ℚ≥0) : Option ℚ :=
  match taxTotal with
  | some taxTotal => if 0 < taxTotal then some taxTotal else none
  | none => none

def PosPayload.percent (payload : PosPayload) : Option ℚ := asNumber payload.taxPercent

/-- `payload.isTaxInclusive !== false`. -/
def PosPayload.inclusive (payload : PosPayload) : Bool := payload.isTaxInclusive.getD true

/-- `previewPosSale`; `couponDiscount` is what the coupon engine gives. -/
def previewPosSale (products : List PosProduct) (payload : PosPayload) (couponDiscount : ℚ) :
    Except ServiceError PosTotals := do
  let items ← hydratePosItems products payload.items
  let lines := items.map HydratedPosItem.toBillLine
  .ok (computePosTotals lines (some (roundCurrency (lines.map BillLine.amount).sum))
    (fromPaise (roundCurrency couponDiscount) + payload.discount.getD 0) payload.inclusive
    payload.percent (positiveTax payload.taxTotal))

/-- The line as the commission engine reads it, which rounds the price before it multiplies. -/
def HydratedPosItem.toHydratedItem (item : HydratedPosItem) : HydratedItem where
  productId := item.product
  quantity := item.quantity
  price := normalizeLinePrice item.price
  headerCategoryId := item.headerCategoryId.getD 0
  sellerId := 0
  variantSku := item.variantSlot

def lineCommission (categories : ObjectId → Option Category) (item : HydratedPosItem) : Commission :=
  calculateCategoryCommission item.toHydratedItem (item.headerCategoryId.bind categories)

/-- The settings of the platform for sales at the counter, with its categories. -/
structure PosSettings where
  commissionEnabled : Bool := false
  categories : ObjectId → Option Category := fun _ => none

def lineSellerPayout (settings : PosSettings) (item : HydratedPosItem) : ℤ :=
  if settings.commissionEnabled then (lineCommission settings.categories item).sellerPayout
  else roundCurrency item.amount

def lineAdminCommission (settings : PosSettings) (item : HydratedPosItem) : ℤ :=
  if settings.commissionEnabled then (lineCommission settings.categories item).adminCommission else 0

def buildPosBreakdown (settings : PosSettings) (items : List HydratedPosItem) (discountTotal : ℚ)
    (taxPercent taxTotal : Option ℚ) (isTaxInclusive : Bool) : PosBreakdown :=
  let productSubtotal := (items.map (fun item => roundCurrency item.amount)).sum
  let sellerPayoutTotal := (items.map (lineSellerPayout settings)).sum
  let adminProductCommissionTotal := (items.map (lineAdminCommission settings)).sum
  let totals := computePosTotals (items.map HydratedPosItem.toBillLine) (some productSubtotal)
    discountTotal isTaxInclusive taxPercent taxTotal
  { productSubtotal
    discountTotal := totals.discountTotal
    taxTotal := totals.taxTotal
    isTaxInclusive
    grandTotal := totals.grandTotal
    sellerPayoutTotal :=
      if isTaxInclusive then max (sellerPayoutTotal - totals.discountTotal) 0
      else max (sellerPayoutTotal + totals.taxTotal - totals.discountTotal) 0
    adminProductCommissionTotal
    platformTotalEarning := adminProductCommissionTotal }

/-- `createPosSale`, as far as the bill goes. -/
def createPosSale (products : List PosProduct) (settings : PosSettings) (payload : PosPayload)
    (couponDiscount : ℚ) : Except ServiceError PosBill := do
  let items ← hydratePosItems products payload.items
  .ok { items := items.map HydratedPosItem.toBillLine
        isTaxInclusive := payload.inclusive
        paymentBreakdown := buildPosBreakdown settings items (couponDiscount + payload.discount.getD 0)
          (some (payload.taxPercent.getD 0)) (positiveTax payload.taxTotal) payload.inclusive
        posCustomer := payload.posCustomerId.join }

/-! ## Edits -/

def PosBill.lineWithKey (bill : PosBill) (key : ObjectId × String) : Option BillLine :=
  bill.items.reverse.find? (fun line => decide (line.key = key))

def editedSku (bill : PosBill) (product : PosProduct) (line : PosLine) : Except ServiceError String :=
  if (bill.lineWithKey (line.productId, line.variantSku)).isSome then .ok line.variantSku
  else resolvedSku product line.variantSku

/-- A new line, with what an old one of its key has saved. -/
def editedLine (products : List PosProduct) (bill : PosBill) (line : PosLine) :
    Except ServiceError BillLine :=
  match findProduct products line.productId with
  | none => .error notInCatalog
  | some product => do
      let variantSku ← editedSku bill product line
      let prev := bill.lineWithKey (line.productId, variantSku)
      .ok { product := line.productId
            variantSlot := variantSku
            name := ((prev.map BillLine.name).filter (· ≠ "")).getD product.name
            quantity := line.quantity
            price := line.price
            gstPercent := (prev.map BillLine.gstPercent).getD product.gstPercent }

/-- The rate that an edit taxes the bill at: where no tax is sent with an exclusive bill, the one
that the old tax comes to. -/
def editedPercent (payload : PosPayload) (pb : PosBreakdown) (isTaxInclusive : Bool) : Option ℚ :=
  if isTaxInclusive = false ∧ payload.taxTotal = none ∧ payload.taxPercent = none then
    let oldTaxable := pb.productSubtotal - pb.discountTotal
    some (if 0 < oldTaxable then (pb.taxTotal : ℚ) * 100 / oldTaxable else 0)
  else payload.percent

def editedTotals (payload : PosPayload) (bill : PosBill) (newItems : List BillLine) : PosTotals :=
  let pb := bill.paymentBreakdown
  let isTaxInclusive := payload.isTaxInclusive.getD bill.isTaxInclusive
  computePosTotals newItems (some (roundCurrency (newItems.map BillLine.amount).sum))
    ((asNumber payload.discount).getD (fromPaise pb.discountTotal)) isTaxInclusive
    (editedPercent payload pb isTaxInclusive) (asNumber payload.taxTotal)

def payoutRatio (pb : PosBreakdown) : ℚ :=
  if 0 < pb.grandTotal then (pb.sellerPayoutTotal : ℚ) / pb.grandTotal else 1

/-- `editPosSale`, as far as the bill goes. -/
def editPosSale (products : List PosProduct) (payload : PosPayload) (bill : PosBill) :
    Except ServiceError PosBill := do
  let newItems ← payload.items.mapM (editedLine products bill)
  let pb := bill.paymentBreakdown
  let totals := editedTotals payload bill newItems
  let isTaxInclusive := payload.isTaxInclusive.getD bill.isTaxInclusive
  .ok { items := newItems
        isTaxInclusive
        paymentBreakdown :=
          { pb with
            productSubtotal := totals.subtotal
            discountTotal := totals.discountTotal
            taxTotal := totals.taxTotal
            isTaxInclusive
            grandTotal := totals.grandTotal
            sellerPayoutTotal := roundCurrency (fromPaise totals.grandTotal * payoutRatio pb) }
        posCustomer := payload.posCustomerId.getD bill.posCustomer }

/-! ## Nothing is negative -/

theorem BillLine.amount_nonneg (line : BillLine) : 0 ≤ line.amount :=
  mul_nonneg line.price.coe_nonneg (Nat.cast_nonneg _)

theorem taxOn_nonneg {isTaxInclusive : Bool} {amount rate : ℚ} (hamount : 0 ≤ amount) :
    0 ≤ taxOn isTaxInclusive amount rate := by
  unfold taxOn
  split
  · exact le_refl 0
  next hrate =>
    have hrate := not_not.mp hrate
    split
    · rw [sub_nonneg, div_le_iff₀ (by linarith)]
      nlinarith
    · positivity

theorem share_nonneg {gross taxable : ℤ} (h : 0 ≤ taxable) : 0 ≤ share gross taxable := by
  unfold share
  split
  · positivity
  · exact le_refl 0

theorem lineTax_nonneg (isTaxInclusive : Bool) (items : List BillLine) {share : ℚ} (h : 0 ≤ share) :
    0 ≤ lineTax isTaxInclusive items share := by
  refine roundCurrency_nonneg (sum_nonneg fun x hx => ?_)
  obtain ⟨line, -, rfl⟩ := mem_map.mp hx
  exact taxOn_nonneg (mul_nonneg line.amount_nonneg h)

theorem billTax_nonneg (items : List BillLine) (gross : ℤ) {taxable : ℤ} (h : 0 ≤ taxable)
    (isTaxInclusive : Bool) (taxPercent taxTotal : Option ℚ) :
    0 ≤ billTax items gross taxable isTaxInclusive taxPercent taxTotal := by
  unfold billTax
  split
  next sent =>
    have hsent : 0 ≤ roundCurrency (max 0 sent) := roundCurrency_nonneg (le_max_left _ _)
    dsimp only
    split
    · exact le_min hsent h
    · exact hsent
  next =>
    split
    · refine roundCurrency_nonneg (taxOn_nonneg ?_)
      unfold fromPaise
      positivity
    · exact lineTax_nonneg _ _ (share_nonneg h)

theorem sum_roundCurrency_nonneg (lines : List BillLine) :
    0 ≤ (lines.map (fun line => roundCurrency line.amount)).sum := by
  refine sum_nonneg fun x hx => ?_
  obtain ⟨line, -, rfl⟩ := mem_map.mp hx
  exact roundCurrency_nonneg line.amount_nonneg

theorem computePosTotals_nonneg (lines : List BillLine) (subtotal : ℤ) (discount : ℚ)
    (isTaxInclusive : Bool) (taxPercent taxTotal : Option ℚ) :
    0 ≤ (computePosTotals lines (some subtotal) discount isTaxInclusive taxPercent taxTotal).grandTotal := by
  have htaxable : 0 ≤ subtotal - min (roundCurrency (max 0 discount)) subtotal :=
    sub_nonneg.mpr (min_le_right _ _)
  have htax := billTax_nonneg lines subtotal htaxable isTaxInclusive taxPercent taxTotal
  unfold computePosTotals
  simp only [Option.getD_some]
  split
  · exact htaxable
  · exact add_nonneg htaxable htax

/-! ## What a sale makes -/

theorem createPosSale_eq_ok {products : List PosProduct} {settings : PosSettings} {payload : PosPayload}
    {couponDiscount : ℚ} {bill : PosBill}
    (h : createPosSale products settings payload couponDiscount = .ok bill) :
    ∃ items, hydratePosItems products payload.items = .ok items ∧
      bill = { items := items.map HydratedPosItem.toBillLine
               isTaxInclusive := payload.inclusive
               paymentBreakdown := buildPosBreakdown settings items
                 (couponDiscount + payload.discount.getD 0) (some (payload.taxPercent.getD 0))
                 (positiveTax payload.taxTotal) payload.inclusive
               posCustomer := payload.posCustomerId.join } := by
  unfold createPosSale at h
  rw [bind_eq_ok] at h
  obtain ⟨items, hitems, h⟩ := h
  cases h
  exact ⟨items, hitems, rfl⟩

theorem lineWithKey_some {bill : PosBill} {key : ObjectId × String} {line : BillLine}
    (h : bill.lineWithKey key = some line) : line ∈ bill.items ∧ line.key = key := by
  unfold PosBill.lineWithKey at h
  exact ⟨mem_reverse.mp (mem_of_find?_eq_some h), by simpa using find?_some h⟩

/-- A bill that was sold, as its edits have left it. -/
inductive Billed : PosBill → Prop where
  | sale {products : List PosProduct} {settings : PosSettings} {payload : PosPayload}
      {couponDiscount : ℚ} {bill : PosBill} :
      createPosSale products settings payload couponDiscount = .ok bill → Billed bill
  | edit {products : List PosProduct} {payload : PosPayload} {bill edited : PosBill} :
      Billed bill → editPosSale products payload bill = .ok edited → Billed edited

theorem Billed.grandTotal_nonneg {bill : PosBill} (h : Billed bill) :
    0 ≤ bill.paymentBreakdown.grandTotal := by
  cases h with
  | sale hsale =>
    obtain ⟨items, -, rfl⟩ := createPosSale_eq_ok hsale
    exact computePosTotals_nonneg ..
  | edit _ hedit =>
    unfold editPosSale at hedit
    rw [bind_eq_ok] at hedit
    obtain ⟨newItems, -, hedit⟩ := hedit
    cases hedit
    exact computePosTotals_nonneg ..

end DiscountBazar.Pos
