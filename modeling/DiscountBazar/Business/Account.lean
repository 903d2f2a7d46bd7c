/-
The account section (`paymentsMade`, `paymentsReceived` in `businessReportService.js`).

It lists what `cashMovements` adds up. Both look into the same records, each with its own idea of
what they are in.
-/
import DiscountBazar.Business.Tenders

namespace DiscountBazar.Business

open PartyLedgerEntry
open Finance (PaymentMode)
open Pos (RefundMethod)
open List AppOrder

/-! ## Rows -/

inductive AccountType where
  | supplierPayment | customerRefund | expense | cashOut
  | posSale | onlineOrder | customerPayment | cashIn

/-- A row of the account; `method` is left out where something was received. -/
structure AccountRow where
  date : Date
  type : AccountType
  method : Option PaymentMethod := none
  amount : ℤ

/-- `tenderLabel`, of a refund. -/
def tenderLabel : RefundMethod → Option PaymentMethod
  | .cash => some .cash
  | .card => some .card
  | .qr => some .upi
  | .credit => none

section Period

variable (records : CashRecords) (between : Date → Bool)

def paymentsMade : List AccountRow :=
  (records.ledger.filter (fun e => between e.date && isSupplierPayment e)).map
      (fun e => ⟨e.date, .supplierPayment, some (e.method.getD .cash), roundCurrency e.amount⟩)
    -- a refund on credit takes no money out of the shop
    ++ (records.posReturns.filter
        (fun r => between r.createdAt && decide (r.refundMethod ≠ .credit))).map
      (fun r => ⟨r.createdAt, .customerRefund, tenderLabel r.refundMethod,
        roundCurrency r.refundTotal⟩)
    ++ (records.expenses.filter (fun x => between x.date)).map
      (fun x => ⟨x.date, .expense, some x.method, roundCurrency x.amount⟩)
    ++ (records.cashEntries.filter
        (fun x => between x.date && decide (x.direction = .moneyOut))).map
      (fun x => ⟨x.date, .cashOut, some .cash, roundCurrency x.amount⟩)

def billAmount (o : PosOrder) : ℚ := ((tenderLines o).map Prod.snd).sum

def paymentsReceived : List AccountRow :=
  (records.posOrders.filter (fun o => between o.createdAt && decide (0 < billAmount o))).map
      (fun o => { date := o.createdAt, type := .posSale, amount := roundCurrency (billAmount o) })
    ++ (records.appOrders.filter
        (fun o => between o.createdAt && (o.delivered && decide (0 < o.grandTotal)))).map
      (fun o => { date := o.createdAt, type := .onlineOrder, amount := roundCurrency o.grandTotal })
    ++ (records.ledger.filter (fun e => between e.date && isReceipt e)).map
      (fun e => { date := e.date, type := .customerPayment, amount := roundCurrency e.amount })
    ++ (records.cashEntries.filter
        (fun x => between x.date && decide (x.direction = .moneyIn))).map
      (fun x => { date := x.date, type := .cashIn, amount := roundCurrency x.amount })

end Period

/-- The account of a range has what the day book has. -/
structure AccountAgrees (records : CashRecords) (first last : Date) : Prop where
  made : (((paymentsMade records (within first last)).filter
      (fun row => decide (row.method = some .cash))).map AccountRow.amount).sum
    = (cashMovements records first last).refundsCash
      + (cashMovements records first last).supplierPaymentsCash
      + (cashMovements records first last).expensesCash
      + (cashMovements records first last).manualCashOut
  received : ((paymentsReceived records (within first last)).map AccountRow.amount).sum
    = (cashMovements records first last).cashSales + (cashMovements records first last).digitalTotal
      + ((cashMovements records first last).customerReceiptsCash
        + (cashMovements records first last).customerReceiptsDigital)
      + (cashMovements records first last).manualCashIn

/-! ## What sets the two apart -/

section Apart

variable (records : CashRecords) (between : Date → Bool)

/-- What rounding to paise takes from an amount. -/
def restOf (x : ℚ) : ℚ := x - fromPaise (roundCurrency x)

def restsOf (amounts : List ℚ) : ℚ := (amounts.map restOf).sum

def amountsBy {ρ : Type} (rows : List ρ) (date : ρ → Date) (between : Date → Bool) (keep : ρ → Bool)
    (value : ρ → ℚ) : List ℚ :=
  (rows.filter (fun r => between (date r) && keep r)).map value

/-- The amounts that were paid in cash, as the account has it: also where no method is known. -/
def madeAmounts : List ℚ :=
  amountsBy records.ledger date between
      (fun e => isSupplierPayment e && decide (e.method.getD .cash = .cash)) amount
    ++ amountsBy records.posReturns CounterRefund.createdAt between
      (fun r => decide (r.refundMethod = .cash)) CounterRefund.refundTotal
    ++ amountsBy records.expenses Expense.date between (fun x => decide (x.method = .cash))
      Expense.amount
    ++ amountsBy records.cashEntries CashEntry.date between
      (fun x => decide (x.direction = .moneyOut)) CashEntry.amount

def receivedAmounts : List ℚ :=
  amountsBy records.posOrders PosOrder.createdAt between (fun o => decide (0 < billAmount o))
      billAmount
    ++ amountsBy records.appOrders createdAt between
      (fun o => o.delivered && decide (0 < o.grandTotal)) grandTotal
    ++ amountsBy records.ledger date between isReceipt amount
    ++ amountsBy records.cashEntries CashEntry.date between
      (fun x => decide (x.direction = .moneyIn)) CashEntry.amount

def methodless : ℚ :=
  ledgerCash records.ledger between (fun e => isSupplierPayment e && decide (e.method = none))

/-- What only the account has as received: orders paid from a wallet and lines that are only known
to be split, without the bills and orders of less than nothing. -/
def receivedApart : ℚ :=
  appSales records.appOrders between .wallet
    + posSalesByTender records.posOrders between (some .split)
    - sumBy records.posOrders PosOrder.createdAt between (fun o => !decide (0 < billAmount o))
      billAmount
    - sumBy records.appOrders createdAt between
      (fun o => o.delivered && !decide (0 < o.grandTotal)) grandTotal

def digitalOf : ℚ :=
  posSalesByTender records.posOrders between (some .qr)
    + posSalesByTender records.posOrders between (some .card)
    + posSalesByTender records.posOrders between (some .other)
    + appSales records.appOrders between .online

def receiptsDigital : ℚ :=
  ledgerCash records.ledger between isReceipt - customerReceiptsCash records between

/-- What only the account counts is made up for by what rounding takes from its rows beyond what it
takes from the figures of the day book. -/
def ApartMadeUp : Prop :=
  methodless records between = restsOf (madeAmounts records between)
      - restsOf [refundsCash records between, supplierPaymentsCash records between,
        expensesCash records between, manualCash records between .moneyOut] ∧
    receivedApart records between = restsOf (receivedAmounts records between)
      - restsOf [cashSales records between, digitalOf records between,
        customerReceiptsCash records between, receiptsDigital records between,
        manualCash records between .moneyIn]

end Apart

section Sums

variable {records : CashRecords} {between : Date → Bool}

theorem sum_rounded (amounts : List ℚ) :
    fromPaise (amounts.map roundCurrency).sum = amounts.sum - restsOf amounts := by
  induction amounts with
  | nil => simp [restsOf]
  | cons x amounts ih =>
    have hrests : restsOf (x :: amounts) = restOf x + restsOf amounts := rfl
    rw [map_cons, sum_cons, fromPaise_add, ih, hrests, restOf, sum_cons]
    ring

theorem sumBy_eq {ρ : Type} (rows : List ρ) (date : ρ → Date) (keep : ρ → Bool) (value : ρ → ℚ) :
    (amountsBy rows date between keep value).sum = sumBy rows date between keep value := rfl

theorem sumBy_or {ρ : Type} (rows : List ρ) (date : ρ → Date) (between : Date → Bool)
    (value : ρ → ℚ) (keep one two : ρ → Bool) (hkeep : ∀ r, keep r = (one r || two r))
    (happart : ∀ r, one r = true → two r = false) :
    sumBy rows date between keep value
      = sumBy rows date between one value + sumBy rows date between two value := by
  unfold sumBy
  induction rows with
  | nil => simp
  | cons r rows ih =>
    have hr := hkeep r
    by_cases hb : between (date r) = true
    · cases hone : one r with
      | true =>
        rw [hone, Bool.true_or] at hr
        simp [hb, hr, hone, happart r hone, ih, add_assoc]
      | false =>
        rw [hone, Bool.false_or] at hr
        by_cases htwo : two r = true
        · simp [hb, hr, hone, htwo, ih, add_left_comm]
        · simp [hb, hr, hone, htwo, ih]
    · simp [hb, ih]

theorem sum_madeAmounts : (madeAmounts records between).sum
    = refundsCash records between + supplierPaymentsCash records between
      + expensesCash records between + manualCash records between .moneyOut
      + methodless records between := by
  have hsupplier := sumBy_or records.ledger date between amount
    (fun e => isSupplierPayment e && decide (e.method.getD .cash = .cash))
    (fun e => isSupplierPayment e && inCash e)
    (fun e => isSupplierPayment e && decide (e.method = none)) (fun e => ?_) (fun e => ?_)
  · unfold madeAmounts
    rw [sum_append, sum_append, sum_append, sumBy_eq, sumBy_eq, sumBy_eq, sumBy_eq,
      hsupplier]
    unfold refundsCash supplierPaymentsCash expensesCash manualCash methodless ledgerCash
    ring
  · cases hm : e.method with
    | none => simp [inCash, hm]
    | some method => simp [inCash, hm]
  · intro h
    simp only [inCash, Bool.and_eq_true, decide_eq_true_eq] at h
    simp [h.2]

theorem sum_bills : sumBy records.posOrders PosOrder.createdAt between (fun _ => true) billAmount
    = (tenders.map (posSalesByTender records.posOrders between)).sum := by
  have hlines : ∀ orders : List PosOrder,
      ((orders.flatMap tenderLines).map Prod.snd).sum = (orders.map billAmount).sum := by
    intro orders
    induction orders with
    | nil => rfl
    | cons o orders ih =>
      rw [flatMap_cons, map_append, sum_append, ih, map_cons, sum_cons]
      rfl
  unfold sumBy
  simp only [Bool.and_true]
  rw [← hlines, sum_eq_sumAt Prod.fst Prod.snd (by decide : tenders.Nodup)
    (fun line _ => mem_tenders line.1)]
  rfl

theorem sum_receivedAmounts : (receivedAmounts records between).sum
    = cashSales records between + digitalOf records between
      + (customerReceiptsCash records between + receiptsDigital records between)
      + manualCash records between .moneyIn + receivedApart records between := by
  have hbills := sumBy_or records.posOrders PosOrder.createdAt between billAmount (fun _ => true)
    (fun o => decide (0 < billAmount o)) (fun o => !decide (0 < billAmount o))
    (fun o => by simp) (fun o h => by simp [of_decide_eq_true h])
  have horders := sumBy_or records.appOrders createdAt between grandTotal
    delivered (fun o => o.delivered && decide (0 < o.grandTotal))
    (fun o => o.delivered && !decide (0 < o.grandTotal))
    (fun o => by rw [← Bool.and_or_distrib_left, Bool.or_not_self, Bool.and_true])
    (fun o h => by rw [(Bool.and_eq_true_iff.mp h).2, Bool.not_true, Bool.and_false])
  have hmodes : sumBy records.appOrders createdAt between delivered
      grandTotal = appSales records.appOrders between .cod
        + appSales records.appOrders between .online
        + appSales records.appOrders between .wallet := by
    have hmode : ∀ mode, sumAt paymentMode grandTotal
        (records.appOrders.filter (fun o => between o.createdAt && o.delivered)) mode
          = appSales records.appOrders between mode := by
      intro mode
      unfold sumAt appSales sumBy
      rw [filter_filter]
      congr 2
      exact filter_congr (fun o _ => by rw [Bool.and_comm, Bool.and_assoc])
    have hall : ∀ mode : PaymentMode, mode ∈ ([.cod, .online, .wallet] : List PaymentMode) := by
      intro mode
      cases mode with
      | cod | online | wallet => decide
    unfold sumBy
    rw [sum_eq_sumAt paymentMode grandTotal
      (by decide : ([.cod, .online, .wallet] : List PaymentMode).Nodup) (fun o _ => hall _)]
    simp only [map_cons, map_nil, sum_cons, sum_nil, hmode]
    ring
  rw [sum_bills] at hbills
  rw [hmodes] at horders
  unfold receivedAmounts
  rw [sum_append, sum_append, sum_append, sumBy_eq, sumBy_eq, sumBy_eq, sumBy_eq]
  simp only [tenders, map_cons, map_nil, sum_cons, sum_nil] at hbills
  unfold receivedApart receiptsDigital digitalOf cashSales manualCash ledgerCash
  linarith

theorem cash_made : ((paymentsMade records between).filter
      (fun row => decide (row.method = some .cash))).map AccountRow.amount
    = (madeAmounts records between).map roundCurrency := by
  have hrefund : ∀ m : RefundMethod, (decide (tenderLabel m = some .cash) && !decide (m = .credit))
      = decide (m = .cash) := by
    intro m
    cases m with
    | cash | card | qr | credit => rfl
  unfold paymentsMade madeAmounts amountsBy
  simp only [filter_append, map_append, filter_map, map_map, filter_filter]
  refine congrArg₂ (· ++ ·) (congrArg₂ (· ++ ·) (congrArg₂ (· ++ ·) ?_ ?_) ?_) ?_
  · refine congrArg (map _) (filter_congr (fun e _ => ?_))
    simp [Bool.and_comm, Bool.and_left_comm]
  · refine congrArg (map _) (filter_congr (fun r _ => ?_))
    rw [← hrefund]
    simp [Bool.and_left_comm]
  · refine congrArg (map _) (filter_congr (fun x _ => ?_))
    simp [Bool.and_comm]
  · refine congrArg (map _) (filter_congr (fun x _ => ?_))
    simp

theorem received_rounded : (paymentsReceived records between).map AccountRow.amount
    = (receivedAmounts records between).map roundCurrency := by
  unfold paymentsReceived receivedAmounts amountsBy
  simp only [map_append, map_map]
  rfl

/-- The account agrees with the day book exactly where what sets the two apart is made up. -/
theorem account_agrees_iff (records : CashRecords) (first last : Date) :
    AccountAgrees records first last ↔ ApartMadeUp records (within first last) := by
  have hmade := sum_rounded (madeAmounts records (within first last))
  have hreceived := sum_rounded (receivedAmounts records (within first last))
  rw [sum_madeAmounts, ← cash_made] at hmade
  rw [sum_receivedAmounts, ← received_rounded] at hreceived
  have hsplit : AccountAgrees records first last ↔ _ ∧ _ :=
    ⟨fun h => ⟨h.made, h.received⟩, fun h => ⟨h.1, h.2⟩⟩
  rw [hsplit, ← fromPaise_inj, hmade, ← fromPaise_inj, hreceived]
  simp only [ApartMadeUp, restsOf, restOf, map_cons, map_nil, sum_cons, sum_nil,
    fromPaise_add, cashMovements, movementsBetween, digitalOf, receiptsDigital]
  refine and_congr ?_ ?_
  · constructor
    · intro h
      linarith
    · intro h
      linarith
  · constructor
    · intro h
      linarith
    · intro h
      linarith

end Sums

/-- A delivered order of 100 rupees that was paid from the wallet. -/
def walletOrder : CashRecords where
  appOrders := [⟨1, .wallet, 100, true, 0⟩]

/-- The account has it, and the day book has not. -/
theorem account_lists_wallet_order : ¬ AccountAgrees walletOrder 0 0 := by
  intro h
  have hreceived := h.received
  revert hreceived
  decide +kernel

end DiscountBazar.Business
