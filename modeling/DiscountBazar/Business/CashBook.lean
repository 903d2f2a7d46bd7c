/-
The cash register and the day book (`businessReportService.js`, `businessService.js`).

What moves in a period is summed anew from the bills, orders, payments, returns, expenses and cash
entries each time it is asked for. Only what a day opens with can be stored, in its row.
-/
import DiscountBazar.Business.CreditSales

namespace DiscountBazar.Business

open Transaction PartyLedgerEntry
open Finance (PaymentMode)
open Pos (RefundMethod)

/-! ## Records -/

/-- A bill of the counter. An old one may not say how it was paid. -/
structure PosOrder where
  id : ObjectId
  posPaymentMethod : Option PosMethod := none
  posAmountPaid : Option ℚ := none
  posPayments : List (PosMethod × ℚ) := []
  grandTotal : ℚ
  createdAt : Date

/-- An order of the app; `delivered` where its `workflowStatus` is `DELIVERED`. -/
structure AppOrder where
  id : ObjectId
  paymentMode : PaymentMode
  grandTotal : ℚ
  delivered : Bool
  createdAt : Date

/-- `PosReturn`, as far as its refund goes. -/
structure CounterRefund where
  refundMethod : RefundMethod
  refundTotal : ℚ
  createdAt : Date

structure Expense where
  id : ObjectId
  amount : ℚ
  method : PaymentMethod := .cash
  date : Date

inductive CashDirection where
  | moneyIn | moneyOut
  deriving DecidableEq

structure CashEntry where
  direction : CashDirection
  amount : ℚ
  date : Date

/-- All that the day book sums up. -/
structure CashRecords where
  posOrders : List PosOrder := []
  appOrders : List AppOrder := []
  ledger : PartyLedger := []
  posReturns : List CounterRefund := []
  expenses : List Expense := []
  cashEntries : List CashEntry := []

/-! ## Movements -/

/-- `sumBy`, for the rows of one kind. -/
def sumBy {ρ : Type} (rows : List ρ) (date : ρ → Date) (between : Date → Bool) (keep : ρ → Bool)
    (value : ρ → ℚ) : ℚ :=
  ((rows.filter (fun r => between (date r) && keep r)).map value).sum

/-- The tender lines of a bill; one that was not split is a single line. -/
def tenderLines (o : PosOrder) : List (Option PosMethod × ℚ) :=
  if o.posPayments = [] then [(o.posPaymentMethod, o.posAmountPaid.getD o.grandTotal)]
  else o.posPayments.map (fun line => (some line.1, line.2))

/-- What the bills of a period have taken by one kind of tender. -/
def posSalesByTender (posOrders : List PosOrder) (between : Date → Bool)
    (method : Option PosMethod) : ℚ :=
  ((((posOrders.filter (fun o => between o.createdAt)).flatMap tenderLines).filter
    (fun line => decide (line.1 = method))).map Prod.snd).sum

def appSales (appOrders : List AppOrder) (between : Date → Bool) (mode : PaymentMode) : ℚ :=
  sumBy appOrders AppOrder.createdAt between
    (fun o => o.delivered && decide (o.paymentMode = mode)) AppOrder.grandTotal

/-- What was paid at billing is in the bill already. -/
def refersToOrder (ref : Option EntryRef) : Bool :=
  match ref with
  | some (.order _) => true
  | _ => false

/-- The row is a payment of a customer that no bill counts. -/
def isReceipt (e : PartyLedgerEntry) : Bool :=
  decide (e.partyType = .customer ∧ e.kind = .payment ∧ e.voided = false) && !refersToOrder e.ref

def isSupplierPayment (e : PartyLedgerEntry) : Bool :=
  decide (e.partyType = .supplier ∧ e.kind = .payment ∧ e.voided = false)

/-- The rows of the ledger that pay in this way. -/
def ledgerCash (ledger : PartyLedger) (between : Date → Bool) (keep : PartyLedgerEntry → Bool) : ℚ :=
  sumBy ledger date between keep amount

def inCash (e : PartyLedgerEntry) : Bool := decide (e.method = some .cash)

structure DigitalSales where
  upi : ℤ
  card : ℤ
  other : ℤ
  online : ℤ

/-- What `cashMovements` returns. -/
structure CashMovements where
  cashSales : ℤ
  digitalSales : DigitalSales
  digitalTotal : ℤ
  customerReceiptsCash : ℤ
  customerReceiptsDigital : ℤ
  supplierPaymentsCash : ℤ
  refundsCash : ℤ
  expensesTotal : ℤ
  expensesCash : ℤ
  manualCashIn : ℤ
  manualCashOut : ℤ
  cashIn : ℤ
  cashOut : ℤ
  net : ℤ

section Period

variable (records : CashRecords) (between : Date → Bool)

def cashSales : ℚ :=
  posSalesByTender records.posOrders between (some .cash)
    + posSalesByTender records.posOrders between (some .credit)
    + posSalesByTender records.posOrders between none
    + appSales records.appOrders between .cod

def customerReceiptsCash : ℚ := ledgerCash records.ledger between (fun e => isReceipt e && inCash e)

def supplierPaymentsCash : ℚ :=
  ledgerCash records.ledger between (fun e => isSupplierPayment e && inCash e)

def refundsCash : ℚ :=
  sumBy records.posReturns CounterRefund.createdAt between
    (fun r => decide (r.refundMethod = .cash)) CounterRefund.refundTotal

def expensesCash : ℚ :=
  sumBy records.expenses Expense.date between (fun e => decide (e.method = .cash)) Expense.amount

def manualCash (direction : CashDirection) : ℚ :=
  sumBy records.cashEntries CashEntry.date between (fun e => decide (e.direction = direction))
    CashEntry.amount

def cashIn : ℚ :=
  cashSales records between + customerReceiptsCash records between
    + manualCash records between .moneyIn

def cashOut : ℚ :=
  refundsCash records between + supplierPaymentsCash records between
    + expensesCash records between + manualCash records between .moneyOut

/-- `cashMovements`, of the moments that are `between`. -/
def movementsBetween : CashMovements :=
  let upi := posSalesByTender records.posOrders between (some .qr)
  let card := posSalesByTender records.posOrders between (some .card)
  let other := posSalesByTender records.posOrders between (some .other)
  let online := appSales records.appOrders between .online
  let receipts := ledgerCash records.ledger between isReceipt
  let expenses := sumBy records.expenses Expense.date between (fun _ => true) Expense.amount
  { cashSales := roundCurrency (cashSales records between)
    digitalSales :=
      { upi := roundCurrency upi
        card := roundCurrency card
        other := roundCurrency other
        online := roundCurrency online }
    digitalTotal := roundCurrency (upi + card + other + online)
    customerReceiptsCash := roundCurrency (customerReceiptsCash records between)
    customerReceiptsDigital := roundCurrency (receipts - customerReceiptsCash records between)
    supplierPaymentsCash := roundCurrency (supplierPaymentsCash records between)
    refundsCash := roundCurrency (refundsCash records between)
    expensesTotal := roundCurrency expenses
    expensesCash := roundCurrency (expensesCash records between)
    manualCashIn := roundCurrency (manualCash records between .moneyIn)
    manualCashOut := roundCurrency (manualCash records between .moneyOut)
    cashIn := roundCurrency (cashIn records between)
    cashOut := roundCurrency (cashOut records between)
    net := roundCurrency (cashIn records between - cashOut records between) }

end Period

/-- `{ $gte: from, $lte: to }`. -/
def within (first last : Date) (date : Date) : Bool := decide (first ≤ date ∧ date ≤ last)

def cashMovements (records : CashRecords) (first last : Date) : CashMovements :=
  movementsBetween records (within first last)

/-! ## The day book -/

structure OpeningCash where
  opening : ℚ
  counted : Option ℚ := none
  explicit : Bool := false

def latestDay (days : CashDays) (key : DateKey) : Option CashDay :=
  @List.argmax CashDay ℤ Int.instLinearOrder.toPreorder _ CashDay.dateKey
    (days.rows.filter (fun d => decide (d.dateKey ≤ key)))

def openingCashFor (records : CashRecords) (zone : Zone) (days : CashDays) (key : DateKey) :
    OpeningCash :=
  match latestDay days key with
  | none => { opening := 0 }
  | some base =>
    if base.dateKey = key then
      { opening := base.openingCash, counted := base.countedClosingCash, explicit := true }
    else
      let mv := cashMovements records (dayStart zone base.dateKey) (dayStart zone key - 1)
      { opening := fromPaise (roundCurrency (base.openingCash + fromPaise mv.net)) }

/-- What `dayBook` returns. -/
structure DayBook where
  date : DateKey
  openingCash : ℚ
  movements : CashMovements
  closingCash : ℤ
  closed : Bool
  countedClosingCash : Option ℚ
  difference : Option ℤ

def dayBook (records : CashRecords) (zone : Zone) (days : CashDays) (key : DateKey) : DayBook :=
  let mv := cashMovements records (dayStart zone key) (dayEnd zone key)
  let opening := (openingCashFor records zone days key).opening
  let closing := roundCurrency (opening + fromPaise mv.net)
  let counted := (days.get? key).bind CashDay.countedClosingCash
  { date := key
    openingCash := opening
    movements := mv
    closingCash := closing
    closed := isClosed days key
    countedClosingCash := counted
    difference := counted.map (fun c => roundCurrency (c - fromPaise closing)) }

/-! ## Opening, closing and reopening a day -/

/-- The first half of `setOpeningCash`. -/
def assertNotClosed (days : CashDays) (key : DateKey) : Except ServiceError Unit :=
  if isClosed days key then throw (dayClosedError key) else pure ()

/-- The update of `setOpeningCash`, which looks at nothing but the key. -/
def upsertOpening (days : CashDays) (key : DateKey) (openingCash : ℚ) (counted : Option ℚ) :
    CashDays :=
  match days.get? key with
  | some d => days.set { d with openingCash, countedClosingCash := counted <|> d.countedClosingCash }
  | none => days.insert { dateKey := key, openingCash, countedClosingCash := counted }

def setOpeningCash (days : CashDays) (key : DateKey) (openingCash : ℚ) (counted : Option ℚ) :
    Except ServiceError CashDays := do
  assertNotClosed days key
  pure (upsertOpening days key openingCash counted)

def alreadyClosed (key : DateKey) : ServiceError :=
  ⟨"Business day " ++ dateKeyText key ++ " is already closed", some 409⟩

/-- `closeDay`. The upsert of a day that is closed collides with the index. -/
def closeDay (days : CashDays) (key : DateKey) (counted : Option ℚ) : Except ServiceError CashDays :=
  match days.get? key with
  | some d =>
    if d.closed then throw (alreadyClosed key)
    else
      pure (days.set
        { d with closed := true, countedClosingCash := counted <|> d.countedClosingCash })
  | none =>
    pure (days.insert
      { dateKey := key, openingCash := 0, countedClosingCash := counted, closed := true })

def giveReason : ServiceError := ⟨"Give a reason for reopening the day", some 400⟩

def notClosed (key : DateKey) : ServiceError :=
  ⟨"Business day " ++ dateKeyText key ++ " is not closed", some 409⟩

def dayNotFound : ServiceError := ⟨"Day not found", some 404⟩

/-- The UTF-16 units of a text. -/
def jsLength (s : String) : ℕ := (s.toList.map (fun c => if c.toNat < 65536 then 1 else 2)).sum

def reopenDay (days : CashDays) (key : DateKey) (reason : String) : Except ServiceError CashDays :=
  if jsLength (Pricing.trim reason) < 3 then throw giveReason
  else
    match days.get? key with
    | some d => if d.closed then pure (days.set { d with closed := false }) else throw (notClosed key)
    | none => throw dayNotFound

end DiscountBazar.Business
