/-
GST and costs in the seller's reports (`salesReport`, `pnlReport` in `businessReportService.js`).

The reports work out the GST of a bill anew from its list prices, as if these had it in them, and do
not read the tax that the bill was made out with.
-/
import DiscountBazar.Pos.Returns
import DiscountBazar.Pos.Totals

namespace DiscountBazar.Pos

open Pricing Transaction List HydratedPosItem

/-! ## Reports -/

structure ReportedLine extends BillLine where
  costPrice : Option ℤ := none

structure ReportedOrder where
  items : List ReportedLine
  discountTotal : ℤ
  grandTotal : ℤ

structure CostedProduct where
  id : ObjectId
  purchaseCost : ℚ
  gstPercent : ℚ := 0
  inclusive : Bool := false

def purchaseBaseCost (price rate : ℚ) (inclusive : Bool) : ℤ :=
  if price ≤ 0 then 0
  else if inclusive ∧ 0 < rate then roundCurrency (price / (1 + rate / 100))
  else roundCurrency price

def baseCostOf (p : CostedProduct) : ℤ := purchaseBaseCost p.purchaseCost p.gstPercent p.inclusive

/-- `costMap`, with nothing for a product that is not there. -/
def costMap (prods : List CostedProduct) (id : ObjectId) : ℤ :=
  (prods.find? (fun p => decide (p.id = id))).elim 0 baseCostOf

def orderCost (o : ReportedOrder) (costs : ObjectId → ℤ) : ℤ :=
  (o.items.map (fun i => ((i.quantity : ℕ) : ℤ) * i.costPrice.getD (costs i.product))).sum

def orderGst (o : ReportedOrder) : ℚ :=
  (o.items.map (fun i => i.amount * (i.gstPercent : ℚ) / (100 + (i.gstPercent : ℚ)))).sum

structure SalesRow where
  discount : ℤ
  gst : ℤ
  total : ℤ
  cost : ℤ

/-- The amounts of a row of `salesReport`. -/
def salesRow (o : ReportedOrder) (costs : ObjectId → ℤ) : SalesRow where
  discount := o.discountTotal
  gst := roundCurrency (orderGst o)
  total := o.grandTotal
  cost := orderCost o costs

/-- What `pnlReport` sums up. -/
structure PnlSummary where
  grossSales : ℤ
  saleReturns : ℤ
  netSales : ℤ
  costOfGoodsSold : ℤ
  grossProfit : ℤ
  gstIncluded : ℤ
  expenses : ℤ
  netProfit : ℤ

/-- The cost of goods that came back into stock, at what the product costs now. -/
def returnedCost (returns : List PosReturn) (costs : ObjectId → ℤ) : ℤ :=
  (returns.map (fun x => ((x.items.filter PosReturnItem.restocked).map
    (fun i => i.quantity * costs i.product)).sum)).sum

/-- `pnlReport`, of the orders and returns of a range; a return gives back whole rupees. -/
def pnlReport (sales : List ReportedOrder) (returns : List PosReturn) (expenses : ℤ)
    (costs : ObjectId → ℤ) : PnlSummary :=
  let revenue := (sales.map ReportedOrder.grandTotal).sum
  let refunds := (returns.map (fun x => x.refundTotal * 100)).sum
  let netCogs := (sales.map (fun o => orderCost o costs)).sum - returnedCost returns costs
  { grossSales := revenue
    saleReturns := refunds
    netSales := revenue - refunds
    costOfGoodsSold := netCogs
    grossProfit := revenue - refunds - netCogs
    gstIncluded := roundCurrency (sales.map orderGst).sum
    expenses
    netProfit := revenue - refunds - netCogs - expenses }

/-! ## The GST of a bill -/

def reportedOrder (items : List HydratedPosItem) (costPrice : HydratedPosItem → Option ℤ)
    (pb : PosBreakdown) : ReportedOrder where
  items := items.map (fun i => { i.toBillLine with costPrice := costPrice i })
  discountTotal := pb.discountTotal
  grandTotal := pb.grandTotal

/-- What the rates of the lines make of their prices. -/
def listTax (isTaxInclusive : Bool) (items : List BillLine) : ℚ :=
  (items.map (fun i => i.amount * taxPart isTaxInclusive i.gstPercent)).sum

/-- The amount, the rate or the rates that a bill is taxed by come within a paisa of the GST that is
in the list prices of its lines. -/
def TaxedAsListed (items : List BillLine) (gross taxable : ℤ) (isTaxInclusive : Bool)
    (taxPercent taxTotal : Option ℚ) : Prop :=
  match taxTotal with
  | some entered =>
    |roundCurrency (listTax true items) - (if isTaxInclusive then
      min (roundCurrency (max 0 entered)) taxable else roundCurrency (max 0 entered))| ≤ 1
  | none =>
    if 0 < taxPercent.getD 0 then
      |roundCurrency (listTax true items)
        - roundCurrency (fromPaise taxable * taxPart isTaxInclusive (taxPercent.getD 0))| ≤ 1
    else
      |roundCurrency (listTax true items)
        - roundCurrency (share gross taxable * listTax isTaxInclusive items)| ≤ 1

structure GstAgrees (o : ReportedOrder) (costs : ObjectId → ℤ) (taxTotal : ℤ) : Prop where
  sales : |(salesRow o costs).gst - taxTotal| ≤ 1
  pnl : |(pnlReport [o] [] 0 costs).gstIncluded - taxTotal| ≤ 1

theorem orderGst_reportedOrder (items : List HydratedPosItem)
    (costPrice : HydratedPosItem → Option ℤ) (pb : PosBreakdown) :
    orderGst (reportedOrder items costPrice pb)
      = listTax true (items.map toBillLine) := by
  unfold orderGst listTax reportedOrder
  rw [map_map, map_map]
  refine congrArg sum (map_congr_left (fun i _ => ?_))
  exact mul_div_assoc _ _ _

theorem lineTax_eq (isTaxInclusive : Bool) (items : List BillLine) (share : ℚ) :
    lineTax isTaxInclusive items share = roundCurrency (share * listTax isTaxInclusive items) := by
  unfold lineTax listTax
  rw [← sum_map_mul_left]
  refine congrArg (fun xs : List ℚ => roundCurrency xs.sum) (map_congr_left (fun i _ => ?_))
  rw [taxOn_eq _ _ i.gstPercent.coe_nonneg]
  ring

/-- A lamp of 100 rupees with 18% GST on top. -/
def exclusiveLamp : HydratedPosItem where
  product := 1
  variantSlot := ""
  quantity := ⟨1, Nat.one_pos⟩
  price := (100 : ℕ)
  gstPercent := (18 : ℕ)
  headerCategoryId := none

end DiscountBazar.Pos
