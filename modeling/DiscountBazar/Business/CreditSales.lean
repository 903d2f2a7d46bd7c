/-
Sales, edits and returns at the counter, as far as a customer's credit goes (`posSaleService.js`,
`posEditService.js`, `posReturnService.js`, `posPayment.js`).

What a bill comes to is said in `Pos`. Here it is sold: it is paid in some way, and a sale on credit
is written to the ledger of its customer. What the stock, the coupon and the settings have to say may
refuse any of these operations; it comes as an outcome from outside.
-/
import DiscountBazar.Business.Purchases
import DiscountBazar.Pos.Returns

namespace DiscountBazar.Business

open Transaction Pos

/-! ## Payment (`resolvePosPayment`) -/

inductive PosMethod where
  | cash | card | qr | credit | other | split
  deriving DecidableEq

/-- A tender line of a split bill. -/
structure PosTender where
  method : PosMethod
  amount : ℤ
  deriving DecidableEq

structure PaymentPayload where
  posPaymentMethod : Option PosMethod := none
  amountPaid : Option ℚ≥0 := none
  posPayments : Option (List (PosMethod × ℚ≥0)) := none
  cashTendered : Option ℚ≥0 := none

structure PosPaid where
  posAmountPaid : ℤ
  posPayments : Option (List PosTender) := none
  posCashTendered : Option ℤ := none
  deriving DecidableEq

def cashTooLittle (tendered total : ℤ) : ServiceError :=
  ⟨"Cash received (₹" ++ rupeesText tendered.toNat ++ ") is less than the bill total (₹" ++
    rupeesText total.toNat ++ ")", some 400⟩

/-- The tender lines of a split bill must add up to it. -/
def resolveSplit (total : ℤ) (payments : List (PosMethod × ℚ)) : Except ServiceError PosPaid :=
  let lines := (payments.map (fun p => PosTender.mk p.1 (roundCurrency p.2))).filter
    (fun p => decide (0 < p.amount))
  let paid := (lines.map PosTender.amount).sum
  if lines = [] then throw ⟨"Enter the split payment amounts", some 400⟩
  else if 1 < |paid - total| then
    throw ⟨"Split payments (₹" ++ rupeesText paid.toNat ++ ") must add up to the bill total (₹" ++
      rupeesText total.toNat ++ ")", some 400⟩
  else pure { posAmountPaid := total, posPayments := some lines }

def resolvePosPayment (method : PosMethod) (total : ℤ) (amountPaid : ℚ)
    (payments : List (PosMethod × ℚ)) (cashTendered : Option ℚ) : Except ServiceError PosPaid :=
  match method with
  | .cash =>
    match cashTendered.map roundCurrency with
    | some tendered =>
      if tendered < total then throw (cashTooLittle tendered total)
      else pure { posAmountPaid := total, posCashTendered := some tendered }
    | none => pure { posAmountPaid := total }
  | .credit => pure { posAmountPaid := min (roundCurrency amountPaid) total }
  | .split => resolveSplit total payments
  | _ => pure { posAmountPaid := total }

/-! ## Bills -/

structure CreditBill extends PosPaid where
  id : ObjectId
  bill : PosBill
  posPaymentMethod : PosMethod
  createdAt : Date

def CreditBill.grandTotal (b : CreditBill) : ℤ := b.bill.paymentBreakdown.grandTotal

structure BillReturn where
  id : ObjectId
  order : ObjectId
  doc : PosReturn

/-- What a seller has, as far as the counter goes. -/
structure Till where
  shop : Shop
  catalog : List PosProduct
  settings : PosSettings
  bills : Table CreditBill.id
  returns : Table BillReturn.id

/-- The rows that a bill has in the ledger: none, unless it is on credit. -/
def creditRows (b : CreditBill) (date : Date) : PartyLedger :=
  let base : PartyLedgerEntry :=
    { partyType := .customer
      party := b.bill.posCustomer
      kind := .sale
      effect := 1
      amount := fromPaise b.grandTotal
      ref := some (.order b.id)
      date }
  if b.posPaymentMethod = .credit then
    base :: (if 0 < b.posAmountPaid then
      [{ base with
         kind := .payment
         effect := -1
         amount := fromPaise b.posAmountPaid
         method := some .cash }]
      else [])
  else []

def customerNotFound : ServiceError := ⟨"Customer not found", some 404⟩

def selectCustomer : ServiceError := ⟨"Select a customer for credit (udhaar) sales", some 400⟩

/-- A customer that the bill is linked to is the seller's own. -/
def assertKnown (t : Till) (customer : Option ObjectId) : Except ServiceError Unit :=
  if customer.any (fun id => !t.shop.isParty .customer id) then throw customerNotFound else pure ()

def assertCreditCustomer (method : PosMethod) (customer : Option ObjectId) :
    Except ServiceError Unit :=
  if method = .credit ∧ customer = none then throw selectCustomer else pure ()

/-! ## Operations -/

def recordSale (t : Till) (b : CreditBill) (now : Date) : Till :=
  { t with
    shop := { t.shop with ledger := t.shop.ledger ++ creditRows b now }
    bills := t.bills.insert b }

def sentPayments (p : PaymentPayload) : Option (List (PosMethod × ℚ)) :=
  p.posPayments.map (List.map (fun line => (line.1, (line.2 : ℚ))))

def createPosSale (t : Till) (payload : PosPayload) (p : PaymentPayload) (couponDiscount : ℚ)
    (others : Except ServiceError Unit) (now : Date) : Except ServiceError Till := do
  let method := p.posPaymentMethod.getD .cash
  assertDayOpen t.shop.zone t.shop.days now
  let bill ← Pos.createPosSale t.catalog t.settings payload couponDiscount
  assertKnown t bill.posCustomer
  assertCreditCustomer method bill.posCustomer
  others
  let paid ← resolvePosPayment method bill.paymentBreakdown.grandTotal
    ((p.amountPaid.getD 0 : ℚ≥0) : ℚ) ((sentPayments p).getD []) (asNumber p.cashTendered)
  pure (recordSale t
    { toPosPaid := paid, id := t.bills.freshKey, bill, posPaymentMethod := method, createdAt := now }
    now)

def billNotFoundAtCounter : ServiceError := ⟨"POS bill not found", some 404⟩

def hasReturns (t : Till) (id : ObjectId) : Bool :=
  t.returns.rows.any (fun r => decide (r.order = id))

def editedPayments (b : CreditBill) (p : PaymentPayload) (method : PosMethod) :
    List (PosMethod × ℚ) :=
  match sentPayments p with
  | some sent => sent
  | none =>
    if method = b.posPaymentMethod then
      (b.posPayments.getD []).map (fun line => (line.method, fromPaise line.amount))
    else []

/-- The cash handed over: as sent, or as recorded while it covers the new total. -/
def editedTendered (b : CreditBill) (p : PaymentPayload) (method : PosMethod) (grandTotal : ℤ) :
    Option ℚ :=
  match asNumber p.cashTendered with
  | some sent => some sent
  | none =>
    if method = b.posPaymentMethod then
      (b.posCashTendered.filter (fun tendered => decide (grandTotal ≤ tendered))).map fromPaise
    else none

/-- The last writes of an edit: the ledger rows of the bill are written anew. -/
def rewriteSale (t : Till) (b : CreditBill) : Till :=
  { t with
    shop :=
      { t.shop with
        ledger := reverseLedgerEntries t.shop.ledger (.order b.id) ++ creditRows b b.createdAt }
    bills := t.bills.set b }

def editPosSale (t : Till) (id : ObjectId) (payload : PosPayload) (p : PaymentPayload)
    (others : Except ServiceError Unit) : Except ServiceError Till :=
  match t.bills.get? id with
  | none => throw billNotFoundAtCounter
  | some b => do
      let method := p.posPaymentMethod.getD b.posPaymentMethod
      assertDayOpen t.shop.zone t.shop.days b.createdAt
      if hasReturns t b.id then
        throw ⟨"This bill already has returns; it can no longer be edited", some 409⟩
      else do
        let bill ← Pos.editPosSale t.catalog payload b.bill
        others
        assertCreditCustomer method bill.posCustomer
        assertKnown t bill.posCustomer
        let paid ← resolvePosPayment method bill.paymentBreakdown.grandTotal
          ((p.amountPaid.map (fun a : ℚ≥0 => (a : ℚ))).getD (fromPaise b.posAmountPaid))
          (editedPayments b p method) (editedTendered b p method bill.paymentBreakdown.grandTotal)
        pure (rewriteSale t
          { toPosPaid := paid, id := b.id, bill, posPaymentMethod := method, createdAt := b.createdAt })

def refundRows (customer : Option ObjectId) (r : BillReturn) (now : Date) : PartyLedger :=
  if r.doc.refundMethod = .credit then
    [{ partyType := .customer
       party := customer
       kind := .saleReturn
       effect := -1
       amount := r.doc.refundTotal
       ref := some (.posReturn r.id)
       date := now }]
  else []

def recordRefund (t : Till) (customer : Option ObjectId) (r : BillReturn) (now : Date) : Till :=
  { t with
    shop := { t.shop with ledger := t.shop.ledger ++ refundRows customer r now }
    returns := t.returns.insert r }

def returnsOf (t : Till) (id : ObjectId) : List PosReturn :=
  (t.returns.rows.filter (fun r => decide (r.order = id))).map BillReturn.doc

def createPosReturn (t : Till) (id : ObjectId) (known : ObjectId → Bool) (request : ReturnRequest)
    (now : Date) : Except ServiceError Till := do
  assertDayOpen t.shop.zone t.shop.days now
  match t.bills.get? id with
  | none => throw ⟨"POS order not found", some 404⟩
  | some b => do
      let doc ← Pos.createPosReturn b.bill known (returnsOf t b.id) request
      pure (recordRefund t b.bill.posCustomer { id := t.returns.freshKey, order := b.id, doc } now)

/-! ## Runs -/

/-- What happens at the counter. The catalogue, the customers, the settings and the business days
become what they may at any time. -/
inductive TillOp where
  | createPosSale (payload : PosPayload) (p : PaymentPayload) (couponDiscount : ℚ)
      (others : Except ServiceError Unit) (now : Date)
  | editPosSale (id : ObjectId) (payload : PosPayload) (p : PaymentPayload)
      (others : Except ServiceError Unit)
  | createPosReturn (id : ObjectId) (known : ObjectId → Bool) (request : ReturnRequest) (now : Date)
  | recordPayment (r : PaymentRequest) (now : Date)
  | elsewhere (catalog : List PosProduct) (settings : PosSettings)
      (isParty : PartyType → ObjectId → Bool) (zone : Zone) (days : CashDays)

def TillOp.run (t : Till) : TillOp → Except ServiceError Till
  | .createPosSale payload p couponDiscount others now =>
    DiscountBazar.Business.createPosSale t payload p couponDiscount others now
  | .editPosSale id payload p others => DiscountBazar.Business.editPosSale t id payload p others
  | .createPosReturn id known request now =>
    DiscountBazar.Business.createPosReturn t id known request now
  | .recordPayment r now => do
      let shop ← DiscountBazar.Business.recordPayment t.shop r now
      pure { t with shop }
  | .elsewhere catalog settings isParty zone days =>
    pure { t with catalog, settings, shop := { t.shop with isParty, zone, days } }

/-- The till after an operation; one that throws leaves it as it was. -/
def tillStep (t : Till) (op : TillOp) : Till :=
  match op.run t with
  | .ok t' => t'
  | .error _ => t

end DiscountBazar.Business
