/-
The order finance service (`orderFinanceService.js`, `utils/returnWindow.js`): capture of
an online payment, collection and remittance of COD cash, and the settlement of a
delivered order.

Capture, collection and remittance each run in one transaction, so they are `Except`
computations on the store. Settlement opens a transaction and calls the payout service
inside it, which commits its own; what it returns is therefore the outcome beside the
store that is left, also when the outcome is an error.
-/
import DiscountBazar.Finance.PayoutService

namespace DiscountBazar.Finance

open Transaction Prod

structure Env where
  returnEligibilityDelayMinutes : ℕ := 2
  returnWindowMinutes : ℕ := 2
  autoReleaseSellerPayout : Bool := true

/-- `computeReturnWindowDates`: when returns open and when the window closes. -/
def computeReturnWindowDates (env : Env) (deliveredAt : Date) : Date × Date :=
  (deliveredAt + env.returnEligibilityDelayMinutes * 60 * 1000,
    deliveredAt + env.returnWindowMinutes * 60 * 1000)

def findOrderForUpdate (db : Db) (orderId : ObjectId) : Except ServiceError Order :=
  match db.orders.get? orderId with
  | none => throw ⟨"Order not found", none⟩
  | some order => pure order

/-! ## Online capture -/

def captureAmount (order : Order) : ℤ :=
  orAmount order.paymentBreakdown.grandTotal order.pricingTotal

def handleOnlineOrderFinance (db : Db) (orderId : ObjectId) : Except ServiceError (Db × Order) := do
  let order ← findOrderForUpdate db orderId
  if order.financeFlags.onlinePaymentCaptured then pure (db, { order with paymentMode := .online })
  else
    let grandTotal := roundCurrency (fromPaise (captureAmount order))
    let (db, credit) ← creditWallet db .admin (fromPaise grandTotal)
    let db ← createLedgerEntry db
      { actor := .admin
        type := .orderOnlinePaymentCaptured
        direction := .credit
        amount := grandTotal
        orderId := some order.id
        paymentMode := some .online
        balanceBefore := some credit.before
        balanceAfter := some credit.after }
    let order :=
      { order with
        paymentMode := .online
        financeFlags := { order.financeFlags with onlinePaymentCaptured := true }
        paymentStatus := .paid }
    let db := db.audit (.onlinePaymentVerified order.id grandTotal)
    pure (db.saveOrder order, order)

/-! ## COD collection -/

/-- The cash a collection is for: the amount given, or else the order's total. -/
def codAmountGross (order : Order) (amount : Option ℚ) : ℤ :=
  match amount with
  | none =>
    roundCurrency
      (fromPaise (orAmount order.paymentBreakdown.grandTotal order.pricingTotal))
  | some amount => roundCurrency amount

/-- The part of it the partner has to remit: the gross amount less the commission. -/
def codAmountNet (order : Order) (gross : ℤ) : ℤ :=
  roundCurrency
    (max (fromPaise gross
      - fromPaise (roundCurrency (fromPaise order.paymentBreakdown.riderPayoutTotal))) 0)

def handleCodOrderFinance (db : Db) (orderId : ObjectId) (amount : Option ℚ)
    (deliveryPartnerId : Option ObjectId) : Except ServiceError (Db × Order) := do
  let order ← findOrderForUpdate db orderId
  if order.paymentMode = .online then
    throw ⟨"COD collection is not allowed for ONLINE orders", none⟩
  else if order.paymentMode = .wallet then
    throw ⟨"COD collection is not allowed for wallet-paid orders", some 400⟩
  else if ¬ (order.status = .delivered ∨ order.orderStatus = .delivered) then
    throw ⟨"COD can only be collected after order delivery", none⟩
  else if order.financeFlags.codMarkedCollected then pure (db, order)
  else
    match order.deliveryBoy.or deliveryPartnerId with
    | none => throw ⟨"Delivery partner is required for COD collection", none⟩
    | some partnerId =>
      let gross := codAmountGross order amount
      if gross ≤ 0 then throw ⟨"COD collection amount must be greater than 0", none⟩
      else
        let commission := roundCurrency (fromPaise order.paymentBreakdown.riderPayoutTotal)
        let net := codAmountNet order gross
        let (db, _) ← updateCashInHand db (.deliveryPartner partnerId) (fromPaise net)
        let pb := order.paymentBreakdown
        let order :=
          { order with
            paymentMode := .cod
            deliveryBoy := some partnerId
            paymentBreakdown :=
              { pb with
                codCollectedAmount :=
                  roundCurrency (fromPaise pb.codCollectedAmount + fromPaise net)
                codRemittedAmount := roundCurrency (fromPaise pb.codRemittedAmount)
                codPendingAmount :=
                  roundCurrency (fromPaise pb.codCollectedAmount + fromPaise net
                    - fromPaise pb.codRemittedAmount) }
            paymentStatus := .cashCollected
            financeFlags := { order.financeFlags with codMarkedCollected := true } }
        let db ← createLedgerEntry db
          { actor := .deliveryPartner partnerId
            type := .orderCodCollected
            direction := .credit
            amount := net
            orderId := some order.id
            paymentMode := some .cod }
        let db := db.audit (.codMarkedCollected order.id gross commission net partnerId)
        pure (db.saveOrder order, order)

/-! ## COD remittance -/

/-- `reconcileCodCash`. The partner of the request goes before the order's. -/
def reconcileCodCash (db : Db) (orderId : ObjectId) (amount : ℚ)
    (deliveryPartnerId : Option ObjectId) (now : Date) : Except ServiceError (Db × Order) := do
  let order ← findOrderForUpdate db orderId
  match deliveryPartnerId.or order.deliveryBoy with
  | none => throw ⟨"Delivery partner is required for reconciliation", some 400⟩
  | some partnerId =>
    if order.paymentMode ≠ .cod then
      throw ⟨"COD reconciliation is only allowed for COD orders", some 400⟩
    else
      let requested := roundCurrency amount
      if requested ≤ 0 then
        throw ⟨"Reconciliation amount must be greater than 0", some 400⟩
      else
        let pb := order.paymentBreakdown
        let codCollected := roundCurrency (fromPaise pb.codCollectedAmount)
        let codRemitted := roundCurrency (fromPaise pb.codRemittedAmount)
        let codPending := roundCurrency (fromPaise codCollected - fromPaise codRemitted)
        if codPending ≤ 0 then throw ⟨"No COD pending amount for this order", some 400⟩
        else if codPending < requested then
          throw ⟨"Reconciliation amount exceeds COD pending amount", some 400⟩
        else
          let (db, _) ←
            updateCashInHand db (.deliveryPartner partnerId) (-fromPaise requested)
          let (db, adminCredit) ← creditWallet db .admin (fromPaise requested)
          let db ← createLedgerEntry db
            { actor := .deliveryPartner partnerId
              type := .codRemitted
              direction := .debit
              amount := requested
              orderId := some order.id
              paymentMode := some .cod }
          let db ← createLedgerEntry db
            { actor := .admin
              type := .codRemitted
              direction := .credit
              amount := requested
              orderId := some order.id
              paymentMode := some .cod
              balanceBefore := some adminCredit.before
              balanceAfter := some adminCredit.after }
          let nextRemitted := addMoney (fromPaise codRemitted) (fromPaise requested)
          let nextPending := roundCurrency (fromPaise codCollected - fromPaise nextRemitted)
          let order :=
            { order with
              paymentBreakdown :=
                { pb with
                  codCollectedAmount := codCollected
                  codRemittedAmount := nextRemitted
                  codPendingAmount := nextPending }
              paymentStatus :=
                if nextPending ≤ 0 then .codReconciled else .partiallyRemitted
              settlementStatus :=
                if nextPending ≤ 0 then { order.settlementStatus with reconciledAt := some now }
                else order.settlementStatus }
          let db := db.audit
            (.codReconciled order.id requested partnerId nextRemitted nextPending)
          pure (db.saveOrder order, order)

/-! ## Settlement of a delivered order -/

/-- The calls of `settleDeliveredOrder` that can fail: its own and those of the two
nested payout calls. -/
inductive SettleCall where
  | findOrder
  | sellerPayout (call : PayoutCall)
  | riderPayout (call : PayoutCall)
  | getAdminWallet | createLedgerEntry | createAuditLog
  | saveOrder | commitTransaction
  deriving DecidableEq

namespace SettleCall

/-- The failing call, seen from inside the seller's payout call. -/
def inSellerPayout : SettleCall → Option PayoutCall
  | sellerPayout call => some call
  | _ => none

/-- The failing call, seen from inside the rider's payout call. -/
def inRiderPayout : SettleCall → Option PayoutCall
  | riderPayout call => some call
  | _ => none

end SettleCall

/-- `createPendingSellerPayout`. The session it is given does not reach the payout
service. -/
def createPendingSellerPayout (db : Db) (order : Order) (failsAt : Option PayoutCall := none) :
    Except ServiceError (Db × Order) :=
  match order.seller with
  | none => pure (db, order)
  | some seller =>
    if order.financeFlags.sellerPayoutQueued then pure (db, order)
    else
      let amount := roundCurrency (fromPaise order.paymentBreakdown.sellerPayoutTotal)
      if amount ≤ 0 then
        pure (db, { order with
          settlementStatus := { order.settlementStatus with sellerPayout := .notApplicable } })
      else do
        let (db, _) ←
          createPendingPayoutForOrder db order .seller (some seller) (fromPaise amount) failsAt
        pure (db, { order with
          financeFlags := { order.financeFlags with sellerPayoutQueued := true }
          settlementStatus := { order.settlementStatus with sellerPayout := .pending } })

def createPendingRiderPayout (db : Db) (order : Order) (failsAt : Option PayoutCall := none) :
    Except ServiceError (Db × Order) :=
  match order.deliveryBoy with
  | none =>
    pure (db, { order with
      settlementStatus := { order.settlementStatus with riderPayout := .notApplicable } })
  | some deliveryBoy =>
    if order.financeFlags.riderPayoutQueued then pure (db, order)
    else
      let amount := roundCurrency (fromPaise order.paymentBreakdown.riderPayoutTotal)
      if amount ≤ 0 then
        pure (db, { order with
          settlementStatus := { order.settlementStatus with riderPayout := .notApplicable } })
      else do
        let (db, _) ←
          createPendingPayoutForOrder db order .deliveryPartner (some deliveryBoy)
            (fromPaise amount) failsAt
        pure (db, { order with
          financeFlags := { order.financeFlags with riderPayoutQueued := true }
          settlementStatus := { order.settlementStatus with riderPayout := .pending } })

def Order.withAdminEarning (order : Order) : Order :=
  { order with
    settlementStatus := { order.settlementStatus with adminEarningCredited := true }
    financeFlags := { order.financeFlags with adminEarningCredited := true } }

/-- `creditAdminEarning`. It recognizes the earning in the ledger; no wallet moves. -/
def creditAdminEarning (db : Db) (order : Order) (failsAt : Option SettleCall := none) :
    Except ServiceError (Db × Order) :=
  if order.financeFlags.adminEarningCredited then pure (db, order)
  -- COD inflows are tracked through remittance instead.
  else if order.paymentMode = .cod then pure (db, order.withAdminEarning)
  else
    let adminEarning := roundCurrency (fromPaise order.paymentBreakdown.platformTotalEarning)
    if adminEarning ≤ 0 then pure (db, order.withAdminEarning)
    else do
      attempt failsAt .getAdminWallet databaseError
      attempt failsAt .createLedgerEntry databaseError
      let db ← createLedgerEntry db
        { actor := .admin
          type := .adminEarningCredited
          direction := .credit
          amount := adminEarning
          orderId := some order.id
          paymentMode := some order.paymentMode }
      attempt failsAt .createAuditLog databaseError
      pure (db.audit (.orderDeliveredSettled order.id adminEarning), order.withAdminEarning)

/-- The fields settlement stamps on a delivered order. -/
def markDelivered (env : Env) (now : Date) (order : Order) : Order :=
  let deliveredAt := order.deliveredAt.getD now
  let (eligibleAt, windowExpiresAt) := computeReturnWindowDates env deliveredAt
  let order :=
    { order with
      status := .delivered
      orderStatus := .delivered
      workflowStatus :=
        if 2 ≤ order.workflowVersion then some .delivered else order.workflowStatus
      deliveredAt := some deliveredAt }
  if order.returnEligibleAt = none ∨ order.returnWindowExpiresAt = none then
    { order with
      returnEligibleAt := order.returnEligibleAt.or (some eligibleAt)
      returnWindowExpiresAt := order.returnWindowExpiresAt.or (some windowExpiresAt)
      returnDeadline := order.returnDeadline.or (some windowExpiresAt) }
  else order

/-- The first part of settlement: find the order, refuse it or mark it delivered. -/
def openSettlement (env : Env) (db : Db) (orderId : ObjectId) (now : Date)
    (failsAt : Option SettleCall) : Except ServiceError Order := do
  attempt failsAt .findOrder databaseError
  let order ← findOrderForUpdate db orderId
  if order.status = .cancelled ∨ order.workflowStatus = some .cancelled then
    throw ⟨"A cancelled order cannot be marked delivered", some 409⟩
  else
    let order := markDelivered env now order
    if order.paymentMode = .online ∧ order.financeFlags.onlinePaymentCaptured = false then
      throw ⟨"Cannot settle delivered online order before payment capture", none⟩
    else pure order

/-- `holdSellerPayout`: the return window is still open. -/
def holdSellerPayout (order : Order) (now : Date) : Prop :=
  ∃ expiresAt ∈ order.returnWindowExpiresAt, now < expiresAt

instance (order : Order) (now : Date) : Decidable (holdSellerPayout order now) :=
  match h : order.returnWindowExpiresAt with
  | none => isFalse (by simp [holdSellerPayout, h])
  | some expiresAt => decidable_of_iff (now < expiresAt) (by simp [holdSellerPayout, h])

/-- Put the seller's payout on hold while the return window is open. -/
def holdIfOpen (order : Order) (now : Date) : Order :=
  if holdSellerPayout order now then
    { order with
      financeFlags := { order.financeFlags with sellerPayoutHeld := true }
      settlementStatus := { order.settlementStatus with sellerPayout := .hold } }
  else order

/-- The last part of settlement: earning, flag, overall status, save and commit. -/
def closeSettlement (db : Db) (order : Order) (now : Date) (failsAt : Option SettleCall) :
    Except ServiceError (Db × Order) := do
  let (db, order) ← creditAdminEarning db order failsAt
  let order :=
    { order with
      financeFlags := { order.financeFlags with deliveredSettlementApplied := true }
      settlementStatus := computeOverallSettlement order.settlementStatus now }
  attempt failsAt .saveOrder databaseError
  attempt failsAt .commitTransaction databaseError
  pure (db.saveOrder order, order)

/-- The part of a settlement after the checks: both payouts, the earning, the save. The
second component is the store that is left. Each payout call commits a transaction of its
own, so an error after it leaves what it wrote. -/
def settleOpened (db : Db) (order : Order) (now : Date) (failsAt : Option SettleCall) :
    Except ServiceError Order × Db :=
  match createPendingSellerPayout db order (failsAt.bind SettleCall.inSellerPayout) with
  | .error e => (.error e, db)
  | .ok (db, order) =>
    match createPendingRiderPayout db (holdIfOpen order now)
        (failsAt.bind SettleCall.inRiderPayout) with
    | .error e => (.error e, db)
    | .ok (db, order) =>
      match closeSettlement db order now failsAt with
      | .error e => (.error e, db)
      | .ok (db, order) => (.ok order, db)

/-- `settleDeliveredOrder`, with the call that fails in it (if any). -/
def settleDeliveredOrder (env : Env) (db : Db) (orderId : ObjectId) (now : Date)
    (failsAt : Option SettleCall := none) : Except ServiceError Order × Db :=
  match openSettlement env db orderId now failsAt with
  | .error e => (.error e, db)
  | .ok order =>
    if order.financeFlags.deliveredSettlementApplied then
      -- nothing is saved on this path, only the transaction is committed
      (do attempt failsAt .commitTransaction databaseError; pure order, db)
    else settleOpened db order now failsAt

/-! ## What capture, collection and remittance write -/

variable {orderId : ObjectId}

theorem findOrderForUpdate_eq_ok {db : Db} {order : Order} :
    findOrderForUpdate db orderId = .ok order ↔ db.orders.get? orderId = some order := by
  unfold findOrderForUpdate
  cases db.orders.get? orderId with
  | none =>
    constructor
    · intro h
      exact absurd h throw_ne_ok
    · rintro ⟨⟩
  | some found =>
    rw [pure_eq_ok, Option.some.injEq]
    exact eq_comm

def capturedRow (order : Order) (adminWallet : Wallet) : LedgerEntry where
  actor := .admin
  type := .orderOnlinePaymentCaptured
  direction := .credit
  amount := captureAmount order
  orderId := some order.id
  paymentMode := some .online
  balanceBefore := some adminWallet.availableBalance
  balanceAfter := some (adminWallet.availableBalance + captureAmount order)

def Order.captured (order : Order) : Order :=
  { order with
    paymentMode := .online
    financeFlags := { order.financeFlags with onlinePaymentCaptured := true }
    paymentStatus := .paid }

def Db.captureOnline (db : Db) (order : Order) : Db :=
  (((db.saveWallet .admin
      ((db.wallets .admin).credited .available (captureAmount order))).appendLedger
      (capturedRow order (db.wallets .admin))).audit
      (.onlinePaymentVerified order.id (captureAmount order))).saveOrder order.captured

variable {db db' : Db}

theorem handleOnlineOrderFinance_eq_ok :
    (∃ order', handleOnlineOrderFinance db orderId = .ok (db', order')) ↔
      ∃ order, db.orders.get? orderId = some order ∧
        ((order.financeFlags.onlinePaymentCaptured = true ∧ db' = db) ∨
          (order.financeFlags.onlinePaymentCaptured = false ∧ 0 < captureAmount order ∧
            (db.wallets .admin).status = .active ∧ db' = db.captureOnline order)) := by
  unfold handleOnlineOrderFinance
  simp only [bind_eq_ok, findOrderForUpdate_eq_ok, roundCurrency_fromPaise]
  constructor
  · rintro ⟨order', order, hget, h⟩
    refine ⟨order, hget, ?_⟩
    cases hflag : order.financeFlags.onlinePaymentCaptured with
    | true =>
      rw [if_pos hflag] at h
      exact .inl ⟨rfl, (mk.inj (pure_eq_ok.mp h)).1⟩
    | false =>
      rw [if_neg (by rw [hflag]; exact Bool.false_ne_true)] at h
      simp only [bind_eq_ok, createLedgerEntry_eq_ok, pure_eq_ok, mk.injEq] at h
      obtain ⟨⟨db₁, m⟩, hcredit, _, ⟨-, -, rfl⟩, rfl, -⟩ := h
      obtain ⟨hpos, hactive, rfl, rfl⟩ := creditWallet_admin_eq_ok.mp hcredit
      rw [roundCurrency_fromPaise] at hpos
      refine .inr ⟨rfl, hpos, hactive, ?_⟩
      simp only [roundCurrency_fromPaise]
      rfl
  · rintro ⟨order, hget, ⟨hflag, rfl⟩ | ⟨hflag, hpos, hactive, rfl⟩⟩
    · exact ⟨{ order with paymentMode := .online }, order, hget, if_pos hflag⟩
    · have hcredit : creditWallet db .admin (fromPaise (captureAmount order)) = .ok (_, _) :=
        creditWallet_admin_eq_ok.mpr
          ⟨by rw [roundCurrency_fromPaise]; exact hpos, hactive, rfl, rfl⟩
      simp only [roundCurrency_fromPaise] at hcredit
      refine ⟨order.captured, order, hget, ?_⟩
      rw [if_neg (by rw [hflag]; exact Bool.false_ne_true)]
      simp only [bind_eq_ok, createLedgerEntry_eq_ok, pure_eq_ok, mk.injEq]
      exact ⟨(_, _), hcredit, _, ⟨le_of_lt hpos, trivial, rfl⟩, rfl, rfl⟩

/-- The remittable part of a collection, in paise. -/
def codNet (order : Order) (gross : ℤ) : ℤ :=
  max (gross - order.paymentBreakdown.riderPayoutTotal) 0

@[simp] theorem codAmountNet_eq (order : Order) (gross : ℤ) :
    codAmountNet order gross = codNet order gross := by
  unfold codAmountNet codNet
  rw [roundCurrency_fromPaise, roundCurrency_sub_clamped]

def Order.cashCollected (order : Order) (partnerId : ObjectId) (gross : ℤ) : Order :=
  { order with
    deliveryBoy := some partnerId
    paymentMode := .cod
    paymentBreakdown :=
      { order.paymentBreakdown with
        codCollectedAmount := order.paymentBreakdown.codCollectedAmount + codNet order gross
        codPendingAmount := order.paymentBreakdown.codCollectedAmount + codNet order gross
          - order.paymentBreakdown.codRemittedAmount }
    paymentStatus := .cashCollected
    financeFlags := { order.financeFlags with codMarkedCollected := true } }

def collectedRow (order : Order) (partnerId : ObjectId) (gross : ℤ) : LedgerEntry where
  actor := .deliveryPartner partnerId
  type := .orderCodCollected
  direction := .credit
  amount := codNet order gross
  orderId := some order.id
  paymentMode := some .cod

def Db.collectCod (db : Db) (order : Order) (partnerId : ObjectId) (gross : ℤ) : Db :=
  (((db.saveWallet (.deliveryPartner partnerId)
      ((db.wallets (.deliveryPartner partnerId)).withCash (codNet order gross))).appendLedger
      (collectedRow order partnerId gross)).audit
      (.codMarkedCollected order.id gross order.paymentBreakdown.riderPayoutTotal
        (codNet order gross) partnerId)).saveOrder
    (order.cashCollected partnerId gross)

/-- Collection is possible: a delivered COD order whose cash is not collected yet, a
partner, and an amount. -/
def Collects (order : Order) (amount : Option ℚ) (deliveryPartnerId : Option ObjectId)
    (partnerId : ObjectId) : Prop :=
  order.paymentMode = .cod ∧ (order.status = .delivered ∨ order.orderStatus = .delivered) ∧
    order.financeFlags.codMarkedCollected = false ∧
    order.deliveryBoy.or deliveryPartnerId = some partnerId ∧ 0 < codAmountGross order amount

variable {deliveryPartnerId : Option ObjectId}

/-- A collection that was marked before changes nothing; any other needs what `Collects`
says. -/
theorem handleCodOrderFinance_eq_ok {amount : Option ℚ} :
    (∃ order', handleCodOrderFinance db orderId amount deliveryPartnerId = .ok (db', order')) ↔
      ∃ order, db.orders.get? orderId = some order ∧
        ((order.paymentMode = .cod ∧
            (order.status = .delivered ∨ order.orderStatus = .delivered) ∧
            order.financeFlags.codMarkedCollected = true ∧ db' = db) ∨
          ∃ partnerId, Collects order amount deliveryPartnerId partnerId ∧
            db' = db.collectCod order partnerId (codAmountGross order amount)) := by
  unfold handleCodOrderFinance
  simp only [bind_eq_ok, findOrderForUpdate_eq_ok, ite_throw_eq_ok, codAmountNet_eq]
  constructor
  · rintro ⟨order', order, hget, honline, hwallet, hdelivered, h⟩
    have hcod : order.paymentMode = .cod := by
      cases hmode : order.paymentMode with
      | online => exact absurd hmode honline
      | wallet => exact absurd hmode hwallet
      | cod => rfl
    refine ⟨order, hget, ?_⟩
    cases hflag : order.financeFlags.codMarkedCollected with
    | true =>
      rw [if_pos hflag] at h
      exact .inl ⟨hcod, not_not.mp hdelivered, rfl, (mk.inj (pure_eq_ok.mp h)).1⟩
    | false =>
      rw [if_neg (by rw [hflag]; exact Bool.false_ne_true)] at h
      cases hpartner : order.deliveryBoy.or deliveryPartnerId with
      | none =>
        simp only [hpartner] at h
        exact absurd h throw_ne_ok
      | some partnerId =>
        simp only [hpartner, ite_throw_eq_ok, bind_eq_ok, createLedgerEntry_eq_ok, pure_eq_ok,
          mk.injEq] at h
        obtain ⟨hgross, ⟨db₁, m⟩, hcash, _, ⟨-, -, rfl⟩, rfl, -⟩ := h
        obtain rfl := updateCashInHand_eq_ok hcash
        refine .inr ⟨partnerId, ⟨hcod, not_not.mp hdelivered, hflag, hpartner,
          not_le.mp hgross⟩, ?_⟩
        simp only [roundCurrency_fromPaise, roundCurrency_add, roundCurrency_add_sub]
        rfl
  · rintro ⟨order, hget, ⟨hcod, hdelivered, hflag, rfl⟩ |
      ⟨partnerId, ⟨hcod, hdelivered, hflag, hpartner, hgross⟩, rfl⟩⟩
    · refine ⟨order, order, hget, by simp [hcod], by simp [hcod], not_not.mpr hdelivered, ?_⟩
      exact if_pos hflag
    · obtain ⟨⟨db₁, m⟩, hcash⟩ := updateCashInHand_isOk db (.deliveryPartner partnerId)
        (fromPaise (codNet order (codAmountGross order amount)))
      obtain rfl := updateCashInHand_eq_ok hcash
      have hnet : 0 ≤ codNet order (codAmountGross order amount) := le_max_right _ _
      refine ⟨order.cashCollected partnerId (codAmountGross order amount), order, hget,
        by simp [hcod], by simp [hcod], not_not.mpr hdelivered, ?_⟩
      rw [if_neg (by rw [hflag]; exact Bool.false_ne_true)]
      simp only [hpartner, ite_throw_eq_ok, bind_eq_ok, createLedgerEntry_eq_ok, pure_eq_ok,
        mk.injEq]
      refine ⟨not_le.mpr hgross, _, hcash, _, ⟨hnet, trivial, rfl⟩, ?_, ?_⟩
      · simp only [roundCurrency_fromPaise, roundCurrency_add, roundCurrency_add_sub]
        rfl
      · simp only [roundCurrency_fromPaise, roundCurrency_add, roundCurrency_add_sub]
        rfl

def Order.cashRemitted (order : Order) (requested : ℤ) (now : Date) : Order :=
  { order with
    paymentBreakdown :=
      { order.paymentBreakdown with
        codRemittedAmount := order.paymentBreakdown.codRemittedAmount + requested
        codPendingAmount := order.paymentBreakdown.codCollectedAmount
          - (order.paymentBreakdown.codRemittedAmount + requested) }
    paymentStatus :=
      if order.paymentBreakdown.codCollectedAmount
          - (order.paymentBreakdown.codRemittedAmount + requested) ≤ 0 then .codReconciled
      else .partiallyRemitted
    settlementStatus :=
      if order.paymentBreakdown.codCollectedAmount
          - (order.paymentBreakdown.codRemittedAmount + requested) ≤ 0 then
        { order.settlementStatus with reconciledAt := some now }
      else order.settlementStatus }

def remittedRow (order : Order) (partnerId : ObjectId) (requested : ℤ) : LedgerEntry where
  actor := .deliveryPartner partnerId
  type := .codRemitted
  direction := .debit
  amount := requested
  orderId := some order.id
  paymentMode := some .cod

def remittanceRow (order : Order) (adminWallet : Wallet) (requested : ℤ) : LedgerEntry where
  actor := .admin
  type := .codRemitted
  direction := .credit
  amount := requested
  orderId := some order.id
  paymentMode := some .cod
  balanceBefore := some adminWallet.availableBalance
  balanceAfter := some (adminWallet.availableBalance + requested)

def Db.remitWallets (db : Db) (partnerId : ObjectId) (requested : ℤ) : Db :=
  (db.saveWallet (.deliveryPartner partnerId)
    ((db.wallets (.deliveryPartner partnerId)).withCash (-requested))).saveWallet .admin
    ((db.wallets .admin).credited .available requested)

def Db.remitCod (db : Db) (order : Order) (partnerId : ObjectId) (requested : ℤ) (now : Date) :
    Db :=
  ((((db.remitWallets partnerId requested).appendLedger
      (remittedRow order partnerId requested)).appendLedger
      (remittanceRow order (db.wallets .admin) requested)).audit
      (.codReconciled order.id requested partnerId
        (order.paymentBreakdown.codRemittedAmount + requested)
        (order.paymentBreakdown.codCollectedAmount
          - (order.paymentBreakdown.codRemittedAmount + requested)))).saveOrder
    (order.cashRemitted requested now)

/-- Remittance is possible: a COD order with cash outstanding, a partner, an amount
within what is outstanding, and an active platform wallet. -/
def Remits (db : Db) (order : Order) (amount : ℚ) (deliveryPartnerId : Option ObjectId)
    (partnerId : ObjectId) : Prop :=
  deliveryPartnerId.or order.deliveryBoy = some partnerId ∧ order.paymentMode = .cod ∧
    0 < roundCurrency amount ∧
    roundCurrency amount ≤ order.paymentBreakdown.codCollectedAmount
      - order.paymentBreakdown.codRemittedAmount ∧
    (db.wallets .admin).status = .active

theorem reconcileCodCash_eq_ok {amount : ℚ} {now : Date} :
    (∃ order', reconcileCodCash db orderId amount deliveryPartnerId now = .ok (db', order')) ↔
      ∃ order partnerId, db.orders.get? orderId = some order ∧
        Remits db order amount deliveryPartnerId partnerId ∧
        db' = db.remitCod order partnerId (roundCurrency amount) now := by
  have hadmin : ∀ partnerId wallet,
      (db.saveWallet (.deliveryPartner partnerId) wallet).wallets .admin = db.wallets .admin :=
    fun _ _ => rfl
  unfold reconcileCodCash
  simp only [bind_eq_ok, findOrderForUpdate_eq_ok, roundCurrency_fromPaise, roundCurrency_sub,
    addMoney_fromPaise]
  constructor
  · rintro ⟨order', order, hget, h⟩
    cases hpartner : deliveryPartnerId.or order.deliveryBoy with
    | none =>
      simp only [hpartner] at h
      exact absurd h throw_ne_ok
    | some partnerId =>
      simp only [hpartner, ite_throw_eq_ok, bind_eq_ok, createLedgerEntry_eq_ok, pure_eq_ok,
        mk.injEq] at h
      obtain ⟨hcod, hpos, -, hle, ⟨db₁, m₁⟩, hcash, ⟨db₂, m₂⟩, hcredit, _, ⟨-, -, rfl⟩, _,
        ⟨-, -, rfl⟩, rfl, -⟩ := h
      obtain rfl := updateCashInHand_eq_ok hcash
      obtain ⟨-, hactive, rfl, rfl⟩ := creditWallet_admin_eq_ok.mp hcredit
      refine ⟨order, partnerId, hget, ⟨hpartner, not_not.mp hcod, not_le.mp hpos, not_lt.mp hle,
        hactive⟩, ?_⟩
      simp only [roundCurrency_fromPaise, ← fromPaise_neg, hadmin]
      rfl
  · rintro ⟨order, partnerId, hget, ⟨hpartner, hcod, hpos, hle, hactive⟩, rfl⟩
    obtain ⟨⟨db₁, m⟩, hcash⟩ := updateCashInHand_isOk db (.deliveryPartner partnerId)
      (-fromPaise (roundCurrency amount))
    obtain rfl := updateCashInHand_eq_ok hcash
    have hcredit : creditWallet (db.saveWallet (.deliveryPartner partnerId)
        ((db.wallets (.deliveryPartner partnerId)).withCash
          (roundCurrency (-fromPaise (roundCurrency amount))))) .admin
        (fromPaise (roundCurrency amount)) = .ok (_, _) :=
      creditWallet_admin_eq_ok.mpr
        ⟨by rw [roundCurrency_fromPaise]; exact hpos, hactive, rfl, rfl⟩
    refine ⟨order.cashRemitted (roundCurrency amount) now, order, hget, ?_⟩
    simp only [hpartner, ite_throw_eq_ok, bind_eq_ok, createLedgerEntry_eq_ok, pure_eq_ok,
      mk.injEq]
    refine ⟨not_not.mpr hcod, not_le.mpr hpos, not_le.mpr (lt_of_lt_of_le hpos hle),
      not_lt.mpr hle, _, hcash, _, hcredit, _, ⟨le_of_lt hpos, trivial, rfl⟩, _,
      ⟨le_of_lt hpos, trivial, rfl⟩, ?_, rfl⟩
    simp only [roundCurrency_fromPaise, ← fromPaise_neg, hadmin]
    rfl

end DiscountBazar.Finance
