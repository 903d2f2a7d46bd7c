/-
What becomes of a day once it is closed (`businessTime.js`, `businessService.js`,
`businessReportService.js` and the writers of cash records).

Each handler asks whether the day is closed and then writes in a transaction of its own, so that the
day may be closed in between; a delivery asks nothing. What a handler decides beside the day, and the
amounts that it writes, come from outside: a call may be refused, and the documents are given.
-/
import DiscountBazar.Business.CashRollsForward
import DiscountBazar.Lib.Tasks

namespace DiscountBazar.Business.Closing

open Tasks Transaction
open Prog (perform)
open Finance (PaymentMode)

/-! ## The shared state -/

/-- What a seller's day book is made of, with the purchase bills, whose dates are checked. -/
structure Books where
  records : CashRecords := {}
  purchaseBills : Table PurchaseBill.id := Table.empty
  days : CashDays := Table.empty
  zone : Zone := defaultZone

/-! ## Calls -/

inductive Kind where
  /-- `new Date()` -/
  | now
  | getSellerTz
  /-- the lookup of `assertDayOpen` -/
  | findClosedDay (key : DateKey)
  /-- the lookup of `setOpeningCash` -/
  | findDay (key : DateKey)
  /-- when the bill of the counter was made -/
  | findOrder (id : ObjectId)
  | findPurchaseBill (id : ObjectId)
  /-- the date of the expense -/
  | findExpense (id : ObjectId)
  | saveSale (b : CreditBill)
  | saveEdit (b : CreditBill)
  | saveReturn (customer : Option ObjectId) (r : BillReturn)
  | createEntry (r : PaymentRequest)
  | createBill (bill : PurchaseBill) (billDate : Option Date) (confirm : Bool)
  | confirmBill (bill : PurchaseBill)
  | rewriteBill (bill edited : PurchaseBill)
  | cancelBill (bill : PurchaseBill)
  | createPurchaseReturn (r : PurchaseReturn) (date : Option Date)
  | createExpense (e : Expense) (date : Option Date)
  | deleteExpense (id : ObjectId)
  | createCashEntry (e : CashEntry) (date : Option Date)
  | deliver (id : ObjectId)
  | setPaymentMode (id : ObjectId) (mode : PaymentMode)
  | upsertOpening (key : DateKey) (openingCash : ℚ) (counted : Option ℚ)
  | closeDay (key : DateKey) (counted : Option ℚ)
  | reopenDay (key : DateKey) (reason : String)
  | setTimezone (zone : Zone)

@[reducible] def Kind.Reply : Kind → Type
  | .now => Date
  | .getSellerTz => Zone
  | .findClosedDay _ | .findDay _ => Bool
  | .findOrder _ | .findExpense _ => Option Date
  | .findPurchaseBill _ => Option PurchaseBill
  | _ => Unit

structure Choice where
  outcome : Tasks.Outcome ServiceError := .done
  now : Date := 0

/-! ### What a call writes -/

def posOrderOf (b : CreditBill) (createdAt : Date) : PosOrder where
  id := b.id
  posPaymentMethod := some b.posPaymentMethod
  posAmountPaid := some (fromPaise b.posAmountPaid)
  posPayments := (b.posPayments.getD []).map (fun line => (line.method, fromPaise line.amount))
  grandTotal := fromPaise b.grandTotal
  createdAt

/-- An edit leaves the moment at which the bill was made. -/
def editedOrder (b : CreditBill) (o : PosOrder) : PosOrder :=
  if o.id = b.id then posOrderOf b o.createdAt else o

def deliveredOrder (id : ObjectId) (o : AppOrder) : AppOrder :=
  if o.id = id then { o with delivered := true } else o

def paidOrder (id : ObjectId) (mode : PaymentMode) (o : AppOrder) : AppOrder :=
  if o.id = id then { o with paymentMode := mode } else o

/-- The rows of a bill before an edit or a cancellation: only a confirmed bill has any. -/
def clearedLedger (ledger : PartyLedger) (bill : PurchaseBill) : PartyLedger :=
  if bill.status = .confirmed then reverseLedgerEntries ledger (.purchaseBill bill.id) else ledger

def bookedRows (bill : PurchaseBill) : PartyLedger :=
  if bill.status = .confirmed then billRows bill else []

def storedBill (s : Books) (bill : PurchaseBill) (billDate : Date) (confirm : Bool) : PurchaseBill :=
  { bill with
    id := s.purchaseBills.freshKey
    billDate
    status := if confirm then .confirmed else .draft }

def writtenRecords (now : Date) (s : Books) : Kind → CashRecords
  | .saveSale b =>
    { s.records with
      posOrders := s.records.posOrders ++ [posOrderOf b now]
      ledger := s.records.ledger ++ creditRows b now }
  | .saveEdit b =>
    { s.records with
      posOrders := s.records.posOrders.map (editedOrder b)
      ledger := reverseLedgerEntries s.records.ledger (.order b.id) ++ creditRows b b.createdAt }
  | .saveReturn customer r =>
    { s.records with
      posReturns := s.records.posReturns ++
        [{ refundMethod := r.doc.refundMethod, refundTotal := r.doc.refundTotal, createdAt := now }]
      ledger := s.records.ledger ++ refundRows customer r now }
  | .createEntry r => { s.records with ledger := s.records.ledger ++ [r.entry now] }
  | .createBill bill billDate confirm =>
    { s.records with
      ledger := s.records.ledger ++ bookedRows (storedBill s bill (billDate.getD now) confirm) }
  | .confirmBill bill => { s.records with ledger := s.records.ledger ++ billRows bill }
  | .rewriteBill bill edited =>
    { s.records with ledger := clearedLedger s.records.ledger bill ++ bookedRows edited }
  | .cancelBill bill => { s.records with ledger := clearedLedger s.records.ledger bill }
  | .createPurchaseReturn r date =>
    { s.records with
      ledger := s.records.ledger ++ returnRows { r with date := date.getD now } }
  | .createExpense e date =>
    { s.records with expenses := s.records.expenses ++ [{ e with date := date.getD now }] }
  | .deleteExpense id =>
    { s.records with expenses := s.records.expenses.filter (fun e => decide (e.id ≠ id)) }
  | .createCashEntry e date =>
    { s.records with cashEntries := s.records.cashEntries ++ [{ e with date := date.getD now }] }
  | .deliver id => { s.records with appOrders := s.records.appOrders.map (deliveredOrder id) }
  | .setPaymentMode id mode =>
    { s.records with appOrders := s.records.appOrders.map (paidOrder id mode) }
  | _ => s.records

def writtenBills (now : Date) (s : Books) : Kind → Table PurchaseBill.id
  | .createBill bill billDate confirm =>
    s.purchaseBills.insert (storedBill s bill (billDate.getD now) confirm)
  | .confirmBill bill => s.purchaseBills.set { bill with status := .confirmed }
  | .rewriteBill _ edited => s.purchaseBills.set edited
  | .cancelBill bill => s.purchaseBills.set { bill with status := .cancelled }
  | _ => s.purchaseBills

/-- What a call on a day leaves: what it returns, or the rows as they were. -/
def daysAfter (days : CashDays) (result : Except ServiceError CashDays) : CashDays :=
  match result with
  | .ok days' => days'
  | .error _ => days

def writtenDays (s : Books) : Kind → CashDays
  | .upsertOpening key openingCash counted =>
    DiscountBazar.Business.upsertOpening s.days key openingCash counted
  | .closeDay key counted => daysAfter s.days (DiscountBazar.Business.closeDay s.days key counted)
  | .reopenDay key reason => daysAfter s.days (DiscountBazar.Business.reopenDay s.days key reason)
  | _ => s.days

def written (now : Date) (kind : Kind) (s : Books) : Books where
  records := writtenRecords now s kind
  purchaseBills := writtenBills now s kind
  days := writtenDays s kind
  zone :=
    match kind with
    | .setTimezone zone => zone
    | _ => s.zone

def answer (now : Date) (s : Books) : (kind : Kind) → Except ServiceError kind.Reply
  | .now => .ok now
  | .getSellerTz => .ok s.zone
  | .findClosedDay key => .ok (isClosed s.days key)
  | .findDay key => .ok (isClosed s.days key)
  | .findOrder id => .ok ((s.records.posOrders.find? (fun o => decide (o.id = id))).map PosOrder.createdAt)
  | .findPurchaseBill id => .ok (s.purchaseBills.get? id)
  | .findExpense id => .ok ((s.records.expenses.find? (fun e => decide (e.id = id))).map Expense.date)
  | .closeDay key counted =>
    (DiscountBazar.Business.closeDay s.days key counted).map (fun _ => ())
  | .reopenDay key reason =>
    (DiscountBazar.Business.reopenDay s.days key reason).map (fun _ => ())
  | .saveSale _ | .saveEdit _ | .saveReturn _ _ | .createEntry _ | .createBill _ _ _ | .confirmBill _
  | .rewriteBill _ _ | .cancelBill _ | .createPurchaseReturn _ _ | .createExpense _ _
  | .deleteExpense _ | .createCashEntry _ _ | .deliver _ | .setPaymentMode _ _
  | .upsertOpening _ _ _ | .setTimezone _ => .ok ()

def performOp (_ : ℕ) (kind : Kind) (c : Choice) (s : Books) :
    Option (Except ServiceError kind.Reply × Books) :=
  some (c.outcome.perform (answer c.now s kind, written c.now kind s) s)

/-! ## The handlers -/

abbrev M := Prog Kind Kind.Reply ServiceError

/-- `assertDayOpen`, which reads the zone and then the day. -/
def assertDayOpen (date : Date) : M Unit := do
  let zone ← perform Kind.getSellerTz
  let closed ← perform (Kind.findClosedDay (dateKeyOf zone date))
  if closed then .throw (dayClosedError (dateKeyOf zone date)) else pure ()

/-- The check of a date that may be left out. -/
def assertDateOpen (date : Option Date) : M Unit := do
  let now ← perform Kind.now
  assertDayOpen (date.getD now)

def assertSentOpen (date : Option Date) : M Unit :=
  match date with
  | none => pure ()
  | some date => assertDayOpen date

def createPosSale (b : CreditBill) : M Unit := do
  assertDateOpen none
  perform (Kind.saveSale b)

def editPosSale (b : CreditBill) : M Unit := do
  let found ← perform (Kind.findOrder b.id)
  match found with
  | none => .throw billNotFoundAtCounter
  | some createdAt => do
      assertDayOpen createdAt
      perform (Kind.saveEdit b)

def createPosReturn (customer : Option ObjectId) (r : BillReturn) : M Unit := do
  assertDateOpen none
  perform (Kind.saveReturn customer r)

def recordPayment (r : PaymentRequest) : M Unit := do
  assertDateOpen r.date
  perform (Kind.createEntry r)

def createPurchaseBill (bill : PurchaseBill) (billDate : Option Date) (confirm : Bool) : M Unit := do
  assertDateOpen billDate
  perform (Kind.createBill bill billDate confirm)

def confirmPurchaseBill (id : ObjectId) : M Unit := do
  let found ← perform (Kind.findPurchaseBill id)
  match found with
  | none => .throw billNotFound
  | some bill => do
      assertDayOpen bill.billDate
      if bill.status ≠ .draft then .throw ⟨"Only draft bills can be confirmed", some 409⟩
      else perform (Kind.confirmBill bill)

/-- `updatePurchaseBill`, with the bill as it is edited. -/
def updatePurchaseBill (id : ObjectId) (billDate : Option Date) (edit : PurchaseBill → PurchaseBill) :
    M Unit := do
  let found ← perform (Kind.findPurchaseBill id)
  match found with
  | none => .throw billNotFound
  | some bill =>
    if bill.status = .cancelled then .throw ⟨"Cancelled bill cannot be edited", some 409⟩
    else do
      assertDayOpen bill.billDate
      assertSentOpen billDate
      perform (Kind.rewriteBill bill
        { edit bill with
          id := bill.id, status := bill.status, billDate := billDate.getD bill.billDate })

def cancelPurchaseBill (id : ObjectId) : M Unit := do
  let found ← perform (Kind.findPurchaseBill id)
  match found with
  | none => .throw billNotFound
  | some bill =>
    if bill.status = .cancelled then .throw ⟨"Already cancelled", some 409⟩
    else do
      assertDayOpen bill.billDate
      perform (Kind.cancelBill bill)

def createPurchaseReturn (r : PurchaseReturn) (date : Option Date) : M Unit := do
  assertDateOpen date
  perform (Kind.createPurchaseReturn r date)

def addExpense (e : Expense) (date : Option Date) : M Unit := do
  assertDateOpen date
  perform (Kind.createExpense e date)

def deleteExpense (id : ObjectId) : M Unit := do
  let found ← perform (Kind.findExpense id)
  match found with
  | none => .throw ⟨"Expense not found", some 404⟩
  | some date => do
      assertDayOpen date
      perform (Kind.deleteExpense id)

def addCashEntry (e : CashEntry) (date : Option Date) : M Unit := do
  assertDateOpen date
  perform (Kind.createCashEntry e date)

def setOpeningCash (key : DateKey) (openingCash : ℚ) (counted : Option ℚ) : M Unit := do
  let closed ← perform (Kind.findDay key)
  if closed then .throw (dayClosedError key)
  else perform (Kind.upsertOpening key openingCash counted)

/-! ## The system -/

inductive Request where
  | createPosSale (b : CreditBill)
  | editPosSale (b : CreditBill)
  | createPosReturn (customer : Option ObjectId) (r : BillReturn)
  | recordPayment (r : PaymentRequest)
  | createPurchaseBill (bill : PurchaseBill) (billDate : Option Date) (confirm : Bool)
  | confirmPurchaseBill (id : ObjectId)
  | updatePurchaseBill (id : ObjectId) (billDate : Option Date) (edit : PurchaseBill → PurchaseBill)
  | cancelPurchaseBill (id : ObjectId)
  | createPurchaseReturn (r : PurchaseReturn) (date : Option Date)
  | addExpense (e : Expense) (date : Option Date)
  | deleteExpense (id : ObjectId)
  | addCashEntry (e : CashEntry) (date : Option Date)
  | settleDeliveredOrder (id : ObjectId)
  | setPaymentMode (id : ObjectId) (mode : PaymentMode)
  | setOpeningCash (key : DateKey) (openingCash : ℚ) (counted : Option ℚ)
  | closeDay (key : DateKey) (counted : Option ℚ)
  | reopenDay (key : DateKey) (reason : String)
  | setTimezone (zone : Zone)

def handler : Request → M Unit
  | .createPosSale b => createPosSale b
  | .editPosSale b => editPosSale b
  | .createPosReturn customer r => createPosReturn customer r
  | .recordPayment r => recordPayment r
  | .createPurchaseBill bill billDate confirm => createPurchaseBill bill billDate confirm
  | .confirmPurchaseBill id => confirmPurchaseBill id
  | .updatePurchaseBill id billDate edit => updatePurchaseBill id billDate edit
  | .cancelPurchaseBill id => cancelPurchaseBill id
  | .createPurchaseReturn r date => createPurchaseReturn r date
  | .addExpense e date => addExpense e date
  | .deleteExpense id => deleteExpense id
  | .addCashEntry e date => addCashEntry e date
  -- a delivery and the collection of its payment look at no day
  | .settleDeliveredOrder id => perform (Kind.deliver id)
  | .setPaymentMode id mode => perform (Kind.setPaymentMode id mode)
  | .setOpeningCash key openingCash counted => setOpeningCash key openingCash counted
  | .closeDay key counted => perform (Kind.closeDay key counted)
  | .reopenDay key reason => perform (Kind.reopenDay key reason)
  | .setTimezone zone => perform (Kind.setTimezone zone)

def placed (o : AppOrder) (s : Books) : Option Books :=
  some { s with
         records := { s.records with
                      appOrders := s.records.appOrders ++ [{ o with delivered := false }] } }

def closingSystem : System Kind Kind.Reply ServiceError Books Choice AppOrder Request where
  perform := performOp
  outside := placed
  entry := handler
  mayStart := fun _ _ => true

abbrev Books.Pool := Tasks.Pool Kind Kind.Reply ServiceError Books

abbrev Act := Action Choice AppOrder Request

end DiscountBazar.Business.Closing
