/-
Purchase bills and purchase returns (`businessService.js`).

Every operation runs in a transaction: it returns the shop it leaves, or throws and leaves the shop
as it was. Requests are as the schemas of `businessRoutes.js` admit them: a line has at least one
unit, and no cost, rate or payment is negative. The cost price that a purchase writes to its
products is left out, since nothing here reads it.
-/
import DiscountBazar.Business.PartyLedger
import DiscountBazar.Inventory.Stock

namespace DiscountBazar.Business

open Transaction Inventory

/-! ## Documents -/

structure ItemKey where
  product : ObjectId
  variantSku : String
  deriving DecidableEq

structure PurchaseLine where
  productId : ObjectId
  variantSku : String := ""
  quantity : ℕ+
  cost : ℚ≥0
  gstPercent : ℚ≥0 := 0
  inclusive : Bool := false

/-- A line of a bill or a return; `lineTotal` is in paise. -/
structure PurchaseItem where
  product : ObjectId
  name : String := ""
  variantSku : String
  quantity : ℕ+
  cost : ℚ≥0
  gstPercent : ℚ≥0
  inclusive : Bool
  lineTotal : ℤ

def PurchaseItem.key (i : PurchaseItem) : ItemKey := ⟨i.product, i.variantSku⟩

inductive BillStatus where
  | draft | confirmed | cancelled
  deriving DecidableEq

/-- `PurchaseBill`; the totals are in paise, and what was paid is as it was typed in. -/
structure PurchaseBill where
  id : ObjectId
  supplier : Option ObjectId
  billNo : String
  billDate : Date
  items : List PurchaseItem
  subtotal : ℤ
  gstTotal : ℤ
  total : ℤ
  amountPaid : ℚ
  paymentMethod : Option PaymentMethod
  status : BillStatus

structure PurchaseReturn where
  id : ObjectId
  supplier : Option ObjectId
  purchaseBill : Option ObjectId
  date : Date
  items : List PurchaseItem
  total : ℤ

/-- What a seller has, as far as purchases go. -/
structure Shop where
  products : Products
  productName : ObjectId → String
  isParty : PartyType → ObjectId → Bool
  zone : Zone
  days : CashDays
  bills : Table PurchaseBill.id
  returns : Table PurchaseReturn.id
  ledger : PartyLedger

/-! ## Stock -/

/-- `$inc` on the stock of a variant, which counts from nothing where it is missing. -/
def addStock (delta : ℤ) (v : Variant) : Variant := { v with stock := some (v.stock.getD 0 + delta) }

def takesStock (variantSku : String) (delta : ℤ) (v : Variant) : Bool :=
  decide (v.sku = variantSku ∧ (delta < 0 → v.stock.any (fun s => decide (-delta ≤ s)) = true))

def insufficientStock : ServiceError :=
  ⟨"Insufficient stock or product/variant not found for stock adjustment", some 409⟩

/-- `applyStock` on the product. -/
def stockApplied (p : Product) (variantSku : String) (delta : ℤ) : Option Product :=
  if variantSku ≠ "" then
    (updateFirst (takesStock variantSku delta) (addStock delta) p.variants).map
      (fun vs => { stock := p.stock + delta, variants := vs })
  else if delta < 0 ∧ p.stock < -delta then none
  else some { p with stock := p.stock + delta }

def applyStock (products : Products) (productId : ObjectId) (variantSku : String) (delta : ℤ) :
    Except ServiceError Products :=
  if delta = 0 then pure products
  else
    match (products productId).bind (fun p => stockApplied p variantSku delta) with
    | some p => pure (Function.update products productId (some p))
    | none => throw insufficientStock

/-- What stands before the first `::`. -/
def beforeSeparator : List Char → List Char
  | [] => []
  | [c] => [c]
  | c :: d :: cs => if c = ':' ∧ d = ':' then [] else c :: beforeSeparator (d :: cs)

/-- The SKU that `key.split("::")` reads from a key. -/
def splitSku (key : ItemKey) : String := String.ofList (beforeSeparator key.variantSku.toList)

/-- A map from keys to units, in the order in which the keys came. -/
abbrev QtyMap := List (ItemKey × ℤ)

def QtyMap.get (m : QtyMap) (key : ItemKey) : ℤ :=
  ((m.find? (fun entry => decide (entry.1 = key))).map Prod.snd).getD 0

def QtyMap.add (key : ItemKey) (n : ℤ) : QtyMap → QtyMap
  | [] => [(key, n)]
  | (k, m) :: rest => if k = key then (k, m + n) :: rest else (k, m) :: QtyMap.add key n rest

/-- `qtyMap`, of keys with units. -/
def qtyMapOf (lines : List (ItemKey × ℤ)) : QtyMap :=
  lines.foldl (fun m line => QtyMap.add line.1 line.2 m) []

def PurchaseItem.units (i : PurchaseItem) : ItemKey × ℤ := (i.key, (i.quantity : ℕ))

def qtyMap (items : List PurchaseItem) : QtyMap := qtyMapOf (items.map PurchaseItem.units)

def applyQtyMap (sign : ℤ) : Products → QtyMap → Except ServiceError Products
  | products, [] => pure products
  | products, (key, qty) :: rest => do
      let products ← applyStock products key.product (splitSku key) (sign * qty)
      applyQtyMap sign products rest

/-! ## Pricing and naming -/

/-- A line with its totals before and of tax. -/
structure PricedItem extends PurchaseItem where
  base : ℤ
  gst : ℤ

/-- `priceItems`, for one line. -/
def priceItem (i : PurchaseLine) : PricedItem :=
  let whole := roundCurrency ((i.quantity : ℕ) * (i.cost : ℚ))
  let base := if i.inclusive then roundCurrency (fromPaise whole / (1 + (i.gstPercent : ℚ) / 100)) else whole
  let gst :=
    if i.inclusive then whole - base else roundCurrency (fromPaise base * (i.gstPercent : ℚ) / 100)
  { product := i.productId
    variantSku := i.variantSku
    quantity := i.quantity
    cost := i.cost
    gstPercent := i.gstPercent
    inclusive := i.inclusive
    lineTotal := if i.inclusive then whole else base + gst
    base
    gst }

structure PurchaseTotals where
  priced : List PurchaseItem
  subtotal : ℤ
  gstTotal : ℤ
  total : ℤ

def priceItems (items : List PurchaseLine) : PurchaseTotals :=
  let priced := items.map priceItem
  let subtotal := (priced.map PricedItem.base).sum
  let gstTotal := (priced.map PricedItem.gst).sum
  { priced := priced.map PricedItem.toPurchaseItem, subtotal, gstTotal, total := subtotal + gstTotal }

def notInCatalog : ServiceError := ⟨"One or more products not in your catalog", some 404⟩

/-- The SKU that a line is booked against: a product with one variant keeps its stock on that
variant. -/
def bookedSku (product : Product) (variantSku : String) : String :=
  if variantSku ≠ "" then variantSku
  else
    match product.variants with
    | [v] => v.sku
    | _ => ""

/-- `nameItems`, for one line. -/
def nameItem (products : Products) (productName : ObjectId → String) (p : PurchaseItem) :
    Except ServiceError PurchaseItem :=
  match products p.product with
  | none => throw notInCatalog
  | some product =>
    if p.variantSku ≠ "" ∧ ∀ v ∈ product.variants, v.sku ≠ p.variantSku then
      throw ⟨"Variant not found", some 404⟩
    else if p.variantSku = "" ∧ 1 < product.variants.length then
      throw ⟨"Select a variant for " ++ productName p.product, some 400⟩
    else
      let variantSku := bookedSku product p.variantSku
      let name := productName p.product
      pure { p with
             variantSku
             name := if variantSku ≠ "" then name ++ " (" ++ variantSku ++ ")" else name }

def nameItems (products : Products) (productName : ObjectId → String) (priced : List PurchaseItem) :
    Except ServiceError (List PurchaseItem) :=
  priced.mapM (nameItem products productName)

/-! ## Bills -/

def resolveSupplierId (s : Shop) (supplierId : Option ObjectId) :
    Except ServiceError (Option ObjectId) :=
  match supplierId with
  | none => pure none
  | some id => if s.isParty .supplier id then pure (some id) else throw ⟨"Supplier not found", some 404⟩

def assertUniqueBillNo (s : Shop) (supplierId : Option ObjectId) (billNo : String)
    (exceptId : Option ObjectId := none) : Except ServiceError Unit :=
  if s.bills.rows.any (fun b => decide (b.supplier = supplierId ∧ b.billNo = billNo ∧
      b.status ≠ .cancelled ∧ exceptId ≠ some b.id)) then
    throw ⟨"Bill no. " ++ billNo ++ " is already recorded for this supplier", some 409⟩
  else pure ()

/-- The rows that `writeBillLedger` writes. Without a supplier nobody is owed money, and only the
payment is recorded. -/
def billRows (bill : PurchaseBill) : PartyLedger :=
  let base : PartyLedgerEntry :=
    { partyType := .supplier
      party := bill.supplier
      kind := .purchase
      effect := 1
      amount := fromPaise bill.total
      ref := some (.purchaseBill bill.id)
      date := bill.billDate }
  (if bill.supplier.isSome then [base] else []) ++
    (if 0 < bill.amountPaid then
      [{ base with
         kind := .payment
         effect := -1
         amount := bill.amountPaid
         method := some (bill.paymentMethod.getD .cash) }]
    else [])

def writeBillLedger (s : Shop) (bill : PurchaseBill) : Shop :=
  { s with ledger := s.ledger ++ billRows bill }

def clearBillLedger (s : Shop) (bill : PurchaseBill) : Shop :=
  { s with ledger := reverseLedgerEntries s.ledger (.purchaseBill bill.id) }

/-- `bill.save()`. -/
def saveBill (s : Shop) (bill : PurchaseBill) : Shop := { s with bills := s.bills.set bill }

def confirmBillTxn (s : Shop) (bill : PurchaseBill) : Except ServiceError Shop :=
  if bill.status ≠ .draft then throw ⟨"Only draft bills can be confirmed", some 409⟩
  else do
    let products ← applyQtyMap 1 s.products (qtyMap bill.items)
    pure (saveBill (writeBillLedger { s with products } bill) { bill with status := .confirmed })

/-- What is sent with a bill. Left out, the supplier and what was paid stay as they are. -/
structure BillPayload where
  supplierId : Option (Option ObjectId) := none
  billNo : Option String := none
  billDate : Option Date := none
  items : List PurchaseLine
  amountPaid : Option ℚ≥0 := none
  paymentMethod : Option PaymentMethod := none
  confirm : Bool := false

/-- How a bill is paid: not at all where nothing was paid. -/
def methodOf (paid : ℚ) (paymentMethod : Option PaymentMethod) : Option PaymentMethod :=
  if paid ≠ 0 then some (paymentMethod.getD .cash) else none

/-- The bill that `createPurchaseBill` stores. -/
def draftBill (s : Shop) (p : BillPayload) (supplierId : Option ObjectId) (items : List PurchaseItem)
    (now : Date) : PurchaseBill :=
  let t := priceItems p.items
  let paid := min ((p.amountPaid.getD 0 : ℚ≥0) : ℚ) (fromPaise t.total)
  { id := s.bills.freshKey
    supplier := supplierId
    billNo := p.billNo.getD ""
    billDate := p.billDate.getD now
    items
    subtotal := t.subtotal
    gstTotal := t.gstTotal
    total := t.total
    amountPaid := paid
    paymentMethod := methodOf paid p.paymentMethod
    status := .draft }

def createPurchaseBill (s : Shop) (p : BillPayload) (now : Date) : Except ServiceError Shop := do
  assertDayOpen s.zone s.days (p.billDate.getD now)
  let supplierId ← resolveSupplierId s p.supplierId.join
  assertUniqueBillNo s supplierId (p.billNo.getD "")
  let items ← nameItems s.products s.productName (priceItems p.items).priced
  let bill := draftBill s p supplierId items now
  let s := { s with bills := s.bills.insert bill }
  if p.confirm then confirmBillTxn s bill else pure s

def billNotFound : ServiceError := ⟨"Bill not found", some 404⟩

def confirmPurchaseBill (s : Shop) (id : ObjectId) : Except ServiceError Shop :=
  match s.bills.get? id with
  | none => throw billNotFound
  | some bill => do
      assertDayOpen s.zone s.days bill.billDate
      confirmBillTxn s bill

def returnedQty (s : Shop) (billId : ObjectId) : QtyMap :=
  qtyMap ((s.returns.rows.filter (fun r => decide (r.purchaseBill = some billId))).flatMap
    PurchaseReturn.items)

def assertNotReturned (newQ : QtyMap) : QtyMap → Except ServiceError Unit
  | [] => pure ()
  | (key, q) :: rest =>
    if newQ.get key < q then
      throw ⟨toString q ++ " unit(s) of an item were already returned against this bill; " ++
        "quantity cannot go below that", some 409⟩
    else assertNotReturned newQ rest

/-- The keys of two maps, those of the first one first. -/
def unionKeys (oldQ newQ : QtyMap) : List ItemKey :=
  (oldQ.map Prod.fst ++ newQ.map Prod.fst).reverse.dedup.reverse

def qtyDiff (oldQ newQ : QtyMap) : QtyMap :=
  (unionKeys oldQ newQ).map (fun key => (key, newQ.get key - oldQ.get key))

/-- The stock changes of an edit: reductions first. -/
def applyDiff (products : Products) (oldQ newQ : QtyMap) : Except ServiceError Products := do
  let diff := qtyDiff oldQ newQ
  let products ← applyQtyMap (-1) products
    ((diff.filter (fun e => decide (e.2 < 0))).map (fun e => (e.1, -e.2)))
  applyQtyMap 1 products (diff.filter (fun e => decide (0 < e.2)))

/-- What an edit does to the stock and the ledger of a confirmed bill, before the bill is saved. -/
def reopenBill (s : Shop) (bill : PurchaseBill) (items : List PurchaseItem) :
    Except ServiceError Shop :=
  if bill.status = .confirmed then do
    assertNotReturned (qtyMap items) (returnedQty s bill.id)
    let products ← applyDiff s.products (qtyMap bill.items) (qtyMap items)
    pure (clearBillLedger { s with products } bill)
  else pure s

def editedBill (bill : PurchaseBill) (p : BillPayload) (supplierId : Option ObjectId)
    (items : List PurchaseItem) : PurchaseBill :=
  let t := priceItems p.items
  let paid := min ((p.amountPaid.map (fun a : ℚ≥0 => (a : ℚ))).getD bill.amountPaid) (fromPaise t.total)
  { bill with
    supplier := supplierId
    billNo := ((p.billNo).filter (· ≠ "")).getD bill.billNo
    billDate := p.billDate.getD bill.billDate
    items
    subtotal := t.subtotal
    gstTotal := t.gstTotal
    total := t.total
    amountPaid := paid
    paymentMethod :=
      if paid ≠ 0 then some ((p.paymentMethod.or bill.paymentMethod).getD .cash) else none }

def editedSupplier (s : Shop) (bill : PurchaseBill) (p : BillPayload) :
    Except ServiceError (Option ObjectId) :=
  match p.supplierId with
  | some supplierId => resolveSupplierId s supplierId
  | none => pure bill.supplier

def rewriteBill (s : Shop) (bill : PurchaseBill) : Shop :=
  if bill.status = .confirmed then writeBillLedger (saveBill s bill) bill else saveBill s bill

def assertEditDays (s : Shop) (bill : PurchaseBill) (p : BillPayload) : Except ServiceError Unit := do
  assertDayOpen s.zone s.days bill.billDate
  match p.billDate with
  | some date => assertDayOpen s.zone s.days date
  | none => pure ()

def updatePurchaseBill (s : Shop) (id : ObjectId) (p : BillPayload) : Except ServiceError Shop :=
  match s.bills.get? id with
  | none => throw billNotFound
  | some bill =>
    if bill.status = .cancelled then throw ⟨"Cancelled bill cannot be edited", some 409⟩
    else do
      assertEditDays s bill p
      let supplierId ← editedSupplier s bill p
      assertUniqueBillNo s supplierId (((p.billNo).filter (· ≠ "")).getD bill.billNo) (some bill.id)
      let items ← nameItems s.products s.productName (priceItems p.items).priced
      let s ← reopenBill s bill items
      pure (rewriteBill s (editedBill bill p supplierId items))

/-- What a cancellation takes back. -/
def undoBill (s : Shop) (bill : PurchaseBill) : Except ServiceError Shop :=
  if bill.status = .confirmed then do
    let products ← applyQtyMap (-1) s.products (qtyMap bill.items)
    pure (clearBillLedger { s with products } bill)
  else pure s

def cancelPurchaseBill (s : Shop) (id : ObjectId) : Except ServiceError Shop :=
  match s.bills.get? id with
  | none => throw billNotFound
  | some bill =>
    if bill.status = .cancelled then throw ⟨"Already cancelled", some 409⟩
    else do
      assertDayOpen s.zone s.days bill.billDate
      if s.returns.rows.any (fun r => decide (r.purchaseBill = some bill.id)) then
        throw ⟨"This bill has purchase returns, so it cannot be cancelled. Edit the bill instead.",
          some 409⟩
      else do
        let s ← undoBill s bill
        pure (saveBill s { bill with status := .cancelled })

/-! ## Returns -/

structure ReturnPayload where
  supplierId : Option ObjectId := none
  purchaseBillId : Option ObjectId := none
  date : Option Date := none
  items : List PurchaseLine

def PurchaseLine.key (i : PurchaseLine) : ItemKey := ⟨i.productId, i.variantSku⟩

def billReturnLine (bill : PurchaseBill) (i : PurchaseLine) : Except ServiceError PurchaseLine :=
  match bill.items.find? (fun b => decide (b.key = i.key)) with
  | none => throw ⟨"Returned item is not on this purchase bill", some 400⟩
  | some line => pure { i with gstPercent := line.gstPercent, inclusive := line.inclusive }

def assertLeft (bought done : QtyMap) : QtyMap → Except ServiceError Unit
  | [] => pure ()
  | (key, q) :: rest =>
    let left := bought.get key - done.get key
    if left < q then
      throw ⟨if 0 < left then "Only " ++ toString left ++ " unit(s) left to return on this bill"
        else "This item has already been fully returned", some 409⟩
    else assertLeft bought done rest

def requestedQty (lines : List PurchaseLine) : QtyMap :=
  qtyMapOf (lines.map (fun l => (l.key, ((l.quantity : ℕ) : ℤ))))

def billReturnLines (s : Shop) (billId : ObjectId) (items : List PurchaseLine) :
    Except ServiceError (List PurchaseLine × Option ObjectId) :=
  match s.bills.get? billId with
  | none => throw ⟨"Purchase bill not found", some 404⟩
  | some bill =>
    if bill.status ≠ .confirmed then throw ⟨"Only confirmed bills can have returns", some 409⟩
    else do
      let lines ← items.mapM (billReturnLine bill)
      assertLeft (qtyMap bill.items) (returnedQty s bill.id) (requestedQty lines)
      pure (lines, bill.supplier)

def returnLines (s : Shop) (p : ReturnPayload) :
    Except ServiceError (List PurchaseLine × Option ObjectId) :=
  match p.purchaseBillId with
  | some billId => billReturnLines s billId p.items
  | none => do
      let supplierId ← resolveSupplierId s p.supplierId
      pure (p.items, supplierId)

/-- The row of a return; there is none where nobody's balance goes down. -/
def returnRows (r : PurchaseReturn) : PartyLedger :=
  match r.supplier with
  | none => []
  | some supplier =>
    [{ partyType := .supplier
       party := some supplier
       kind := .purchaseReturn
       effect := -1
       amount := fromPaise r.total
       ref := some (.purchaseReturn r.id)
       date := r.date }]

def recordReturn (s : Shop) (products : Products) (r : PurchaseReturn) : Shop :=
  { s with products, returns := s.returns.insert r, ledger := s.ledger ++ returnRows r }

def createPurchaseReturn (s : Shop) (p : ReturnPayload) (now : Date) : Except ServiceError Shop := do
  assertDayOpen s.zone s.days (p.date.getD now)
  let (lines, supplierId) ← returnLines s p
  let t := priceItems lines
  let items ← nameItems s.products s.productName t.priced
  let products ← applyQtyMap (-1) s.products (qtyMap items)
  pure (recordReturn s products
    { id := s.returns.freshKey
      supplier := supplierId
      purchaseBill := p.purchaseBillId
      date := p.date.getD now
      items
      total := t.total })

/-! ## Payments -/

/-- `recordPayment`. A repeated submission finds the row of the first one. -/
def recordPayment (s : Shop) (r : PaymentRequest) (now : Date) : Except ServiceError Shop :=
  if s.isParty r.partyType r.partyId = false then throw partyNotFound
  else
    match findDuplicate s.ledger r.clientRef with
    | some _ => pure s
    | none => do
        assertDayOpen s.zone s.days (r.date.getD now)
        let due := partyNet s.ledger .customer r.partyId
        if r.partyType = .customer ∧ exceedsDue r.amount due then throw (dueExceeded due)
        else pure { s with ledger := s.ledger ++ [r.entry now] }

/-! ## Runs -/

/-- What happens to a shop. The catalogue, the parties and the business days are others' business:
they become what they may at any time. -/
inductive PurchaseOp where
  | createPurchaseBill (p : BillPayload) (now : Date)
  | confirmPurchaseBill (id : ObjectId)
  | updatePurchaseBill (id : ObjectId) (p : BillPayload)
  | cancelPurchaseBill (id : ObjectId)
  | createPurchaseReturn (p : ReturnPayload) (now : Date)
  | recordPayment (r : PaymentRequest) (now : Date)
  | elsewhere (products : Products) (productName : ObjectId → String)
      (isParty : PartyType → ObjectId → Bool) (zone : Zone) (days : CashDays)

def PurchaseOp.run (s : Shop) : PurchaseOp → Except ServiceError Shop
  | .createPurchaseBill p now => DiscountBazar.Business.createPurchaseBill s p now
  | .confirmPurchaseBill id => DiscountBazar.Business.confirmPurchaseBill s id
  | .updatePurchaseBill id p => DiscountBazar.Business.updatePurchaseBill s id p
  | .cancelPurchaseBill id => DiscountBazar.Business.cancelPurchaseBill s id
  | .createPurchaseReturn p now => DiscountBazar.Business.createPurchaseReturn s p now
  | .recordPayment r now => DiscountBazar.Business.recordPayment s r now
  | .elsewhere products productName isParty zone days =>
    pure { s with products, productName, isParty, zone, days }

/-- The shop after an operation; one that throws leaves it as it was. -/
def purchaseStep (s : Shop) (op : PurchaseOp) : Shop :=
  match op.run s with
  | .ok s' => s'
  | .error _ => s

end DiscountBazar.Business
