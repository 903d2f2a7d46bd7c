/-
The finance documents: wallets, ledger rows, payouts, the finance side of an order
and the finance audit log, and the store that holds them.

Ids are opaque numbers, times are milliseconds, stored amounts are paise. Fields
that no modelled function reads or writes (descriptions, references, remarks,
metadata) are left out; an absent wallet document reads as an empty wallet, since
`getOrCreateWallet` creates it with every balance 0 on first use.
-/
import DiscountBazar.Money
import DiscountBazar.Lib.Table
import DiscountBazar.Lib.Transaction

namespace DiscountBazar

abbrev ObjectId := ℕ

/-- A moment, in milliseconds. -/
abbrev Date := ℤ

structure ServiceError where
  message : String
  statusCode : Option ℕ
  deriving DecidableEq

namespace Finance

/-! ## Vocabulary (`constants/finance.js`) -/

inductive PaymentMode where
  | online | cod | wallet
  deriving DecidableEq

inductive OrderPaymentStatus where
  | created | pendingCashCollection | paid | cashCollected | partiallyRemitted | codReconciled
  | failed | refunded
  deriving DecidableEq

inductive OrderSettlementStatus where
  | pending | partiallySettled | completed | cancelled | refunded
  deriving DecidableEq

/-- `OWNER_TYPE` with the owner's id. The platform's wallet has none
(`normalizeOwnerId`), every other owner has one. -/
inductive Owner where
  | admin
  | seller (id : ObjectId)
  | deliveryPartner (id : ObjectId)
  | customer (id : ObjectId)
  deriving DecidableEq

inductive WalletStatus where
  | active | frozen | closed
  deriving DecidableEq

inductive LedgerDirection where
  | credit | debit
  deriving DecidableEq

inductive LedgerStatus where
  | pending | completed | failed | reversed
  deriving DecidableEq

inductive LedgerTransactionType where
  | orderOnlinePaymentCaptured | orderCodCollected
  | sellerPayoutPending | sellerPayoutProcessed | riderPayoutPending | riderPayoutProcessed
  | adminEarningCredited | codRemitted | refund | adjustment | withdrawal
  | cancellationReversal | walletRefund | payoutCancelled | walletPayment
  deriving DecidableEq

inductive PayoutType where
  | seller | deliveryPartner
  deriving DecidableEq

inductive PayoutStatus where
  | pending | processing | completed | failed | cancelled
  deriving DecidableEq

/-- The legacy `status` of an order. -/
inductive LegacyStatus where
  | pending | confirmed | packed | outForDelivery | delivered | cancelled
  deriving DecidableEq

inductive WorkflowStatus where
  | created | sellerPending | sellerAccepted | deliverySearch | deliveryAssigned | pickupReady
  | outForDelivery | delivered | cancelled
  deriving DecidableEq

instance : LawfulBEq (Option WorkflowStatus) := inferInstance

/-- `settlementStatus.sellerPayout`. -/
inductive SellerPayoutState where
  | notApplicable | hold | pending | processing | completed | failed | cancelled
  deriving DecidableEq

/-- `settlementStatus.riderPayout`. -/
inductive RiderPayoutState where
  | notApplicable | pending | processing | completed | failed
  deriving DecidableEq

/-- The order's `returnStatus`. -/
inductive ReturnStatus where
  | none | returnRequested | returnApproved | returnRejected | returnPickupAssigned
  | returnInTransit | returnDropPending | returned | qcPassed | qcFailed | refundCompleted
  deriving DecidableEq

/-- The `returnStatus` of an item of an order. -/
inductive ItemReturnStatus where
  | none | requested | approved | rejected | completed
  deriving DecidableEq

/-! ## Documents -/

structure Wallet where
  availableBalance : ℤ
  pendingBalance : ℤ
  cashInHand : ℤ
  totalCredited : ℤ
  totalDebited : ℤ
  status : WalletStatus
  deriving DecidableEq

/-- The wallet `getOrCreateWallet` creates. -/
def Wallet.empty : Wallet := ⟨0, 0, 0, 0, 0, .active⟩

/-- A ledger idempotency key. The keys the services build from ids are constructors, so
two of them are equal exactly when the strings are. -/
inductive IdempotencyKey where
  | payoutProcessed (payoutId : ObjectId)
  | cancellationPlatform (recordId allocationId : ObjectId)
  | cancellationCustomer (recordId allocationId : ObjectId)
  | named (key : String)
  deriving DecidableEq

structure LedgerEntry where
  actor : Owner
  type : LedgerTransactionType
  direction : LedgerDirection
  amount : ℤ
  status : LedgerStatus := .completed
  orderId : Option ObjectId := none
  payoutId : Option ObjectId := none
  paymentMode : Option PaymentMode := none
  balanceBefore : Option ℤ := none
  balanceAfter : Option ℤ := none
  idempotencyKey : Option IdempotencyKey := none
  deriving DecidableEq

structure Payout where
  id : ObjectId
  payoutType : PayoutType
  beneficiaryId : ObjectId
  amount : ℤ
  status : PayoutStatus
  relatedOrderIds : List ObjectId
  processedAt : Option Date := none
  deriving DecidableEq

/-- A row of `paymentBreakdown.lineItems`: what is due to the seller for an item of the order. -/
structure LineItem where
  quantity : ℚ
  sellerPayout : ℤ
  deriving DecidableEq

/-- The figures of `order.paymentBreakdown` that the finance and cancellation services read. The
pricing services round each to paise before the snapshot is frozen. -/
structure PaymentBreakdown where
  grandTotal : ℤ
  sellerPayoutTotal : ℤ
  riderPayoutTotal : ℤ
  platformTotalEarning : ℤ
  walletAmount : ℤ
  codCollectedAmount : ℤ
  codRemittedAmount : ℤ
  codPendingAmount : ℤ
  deliveryFeeCharged : ℤ := 0
  handlingFeeCharged : ℤ := 0
  tipTotal : ℤ := 0
  lineItems : List LineItem := []
  deriving DecidableEq

/-- The charges of the older `order.pricing`; its total is `pricingTotal` of the order. -/
structure OrderPricing where
  walletAmount : ℤ := 0
  deliveryFee : ℤ := 0
  platformFee : ℤ := 0
  tip : ℤ := 0
  deriving DecidableEq

/-- `order.financeFlags`. -/
structure FinanceFlags where
  onlinePaymentCaptured : Bool := false
  codMarkedCollected : Bool := false
  deliveredSettlementApplied : Bool := false
  sellerPayoutQueued : Bool := false
  riderPayoutQueued : Bool := false
  adminEarningCredited : Bool := false
  sellerPayoutHeld : Bool := false
  cancellationReversalApplied : Bool := false
  onlineRefundApplied : Bool := false
  returnPickupCommissionPaid : Bool := false
  deriving DecidableEq

/-- `order.settlementStatus`. -/
structure SettlementStatus where
  overall : OrderSettlementStatus := .pending
  sellerPayout : SellerPayoutState := .pending
  riderPayout : RiderPayoutState := .pending
  adminEarningCredited : Bool := false
  reconciledAt : Option Date := none
  deriving DecidableEq

structure ReturnPolicy where
  isReturnable : Bool := false
  returnWindowDays : ℤ := 0
  returnReasons : List String := []
  deriving DecidableEq

structure OrderItem where
  id : ObjectId
  product : ObjectId
  name : String
  quantity : ℚ
  price : ℤ
  returnPolicy : ReturnPolicy := {}
  returnStatus : ItemReturnStatus := .none
  returnedAt : Option Date := none
  returnReason : Option String := none
  deriving DecidableEq

/-- An item of a return request, as the order keeps it; its price is in paise. -/
structure ReturnItem where
  product : ObjectId
  name : String
  quantity : ℚ
  price : ℤ
  itemIndex : ℕ
  deriving DecidableEq

/-- The finance side of an `Order`, and what the return of its items reads and writes. The refund
of a return is in paise, not rounded yet. -/
structure Order where
  id : ObjectId
  customer : ObjectId
  seller : Option ObjectId
  deliveryBoy : Option ObjectId
  paymentMode : PaymentMode
  paymentStatus : OrderPaymentStatus
  status : LegacyStatus
  orderStatus : LegacyStatus
  workflowVersion : ℕ
  workflowStatus : Option WorkflowStatus
  deliveredAt : Option Date
  returnEligibleAt : Option Date
  returnWindowExpiresAt : Option Date
  returnDeadline : Option Date
  returnStatus : ReturnStatus
  pricingTotal : ℤ
  paymentBreakdown : PaymentBreakdown
  financeFlags : FinanceFlags
  settlementStatus : SettlementStatus
  pricing : OrderPricing := {}
  items : List OrderItem := []
  returnReason : Option String := none
  returnItems : List ReturnItem := []
  returnRequestedAt : Option Date := none
  returnRefundAmount : ℚ := 0
  returnDeliveryCommission : ℤ := 0
  returnDeliveryBoy : Option ObjectId := none
  deriving DecidableEq

/-- The amounts of a freshly placed order; nothing has been collected yet. -/
def PaymentBreakdown.placed (grandTotal sellerPayoutTotal riderPayoutTotal platformTotalEarning
    walletAmount : ℤ) : PaymentBreakdown where
  grandTotal := grandTotal
  sellerPayoutTotal := sellerPayoutTotal
  riderPayoutTotal := riderPayoutTotal
  platformTotalEarning := platformTotalEarning
  walletAmount := walletAmount
  codCollectedAmount := 0
  codRemittedAmount := 0
  codPendingAmount := 0

/-- An order as placed: nothing captured, collected, settled or returned. -/
def Order.placed (id customer : ObjectId) (seller deliveryBoy : Option ObjectId)
    (paymentMode : PaymentMode) (paymentBreakdown : PaymentBreakdown) : Order where
  id := id
  customer := customer
  seller := seller
  deliveryBoy := deliveryBoy
  paymentMode := paymentMode
  paymentStatus := if paymentMode = .online then .created else .pendingCashCollection
  status := .pending
  orderStatus := .pending
  workflowVersion := 2
  workflowStatus := some .created
  deliveredAt := none
  returnEligibleAt := none
  returnWindowExpiresAt := none
  returnDeadline := none
  returnStatus := .none
  pricingTotal := paymentBreakdown.grandTotal
  paymentBreakdown := paymentBreakdown
  financeFlags := {}
  settlementStatus := {}

/-- A row of the finance audit log, with the figures its metadata records. -/
inductive FinanceAuditLog where
  | onlinePaymentVerified (orderId : ObjectId) (amount : ℤ)
  | codMarkedCollected (orderId : ObjectId)
      (amountGross deliveryPartnerCommission amountNet : ℤ) (deliveryPartnerId : ObjectId)
  | codReconciled (orderId : ObjectId)
      (amount : ℤ) (deliveryPartnerId : ObjectId) (codRemittedAmount codPendingAmount : ℤ)
  | orderDeliveredSettled (orderId : ObjectId) (adminEarning : ℤ)
  | payoutProcessed (payoutId : ObjectId)
      (payoutType : PayoutType) (beneficiaryId : ObjectId) (amount : ℤ)

/-- The collections the finance services read and write. `users` is the legacy
mirror `User.walletBalance`. -/
structure Db where
  wallets : Owner → Wallet
  users : ObjectId → ℤ
  ledger : List LedgerEntry
  payouts : Table Payout.id
  orders : Table Order.id
  auditLog : List FinanceAuditLog

namespace Db

/-- A store with these orders and nothing else: no wallet, payout or ledger row yet. -/
def fresh (orders : Table Order.id) : Db where
  wallets := fun _ => Wallet.empty
  users := fun _ => 0
  ledger := []
  payouts := Table.empty
  orders := orders
  auditLog := []

/-- `wallet.save`. -/
def saveWallet (db : Db) (owner : Owner) (wallet : Wallet) : Db :=
  { db with wallets := Function.update db.wallets owner wallet }

/-- `order.save`. -/
def saveOrder (db : Db) (order : Order) : Db := { db with orders := db.orders.set order }

/-- `payout.save`. -/
def savePayout (db : Db) (payout : Payout) : Db := { db with payouts := db.payouts.set payout }

def audit (db : Db) (row : FinanceAuditLog) : Db := { db with auditLog := db.auditLog ++ [row] }

def getOrCreateWallet (db : Db) (owner : Owner) : Wallet := db.wallets owner

@[simp] theorem fresh_wallets (orders : Table Order.id) (o : Owner) :
    (fresh orders).wallets o = Wallet.empty := rfl

@[simp] theorem fresh_ledger (orders : Table Order.id) : (fresh orders).ledger = [] := rfl

@[simp] theorem fresh_payouts (orders : Table Order.id) : (fresh orders).payouts = Table.empty := rfl

@[simp] theorem fresh_orders (orders : Table Order.id) : (fresh orders).orders = orders := rfl

@[simp] theorem fresh_auditLog (orders : Table Order.id) : (fresh orders).auditLog = [] := rfl

@[simp] theorem saveWallet_wallets (db : Db) (o : Owner) (w : Wallet) :
    (db.saveWallet o w).wallets = Function.update db.wallets o w := rfl

@[simp] theorem saveWallet_ledger (db : Db) (o : Owner) (w : Wallet) :
    (db.saveWallet o w).ledger = db.ledger := rfl

@[simp] theorem saveWallet_payouts (db : Db) (o : Owner) (w : Wallet) :
    (db.saveWallet o w).payouts = db.payouts := rfl

@[simp] theorem saveWallet_orders (db : Db) (o : Owner) (w : Wallet) :
    (db.saveWallet o w).orders = db.orders := rfl

@[simp] theorem saveWallet_auditLog (db : Db) (o : Owner) (w : Wallet) :
    (db.saveWallet o w).auditLog = db.auditLog := rfl

@[simp] theorem saveOrder_wallets (db : Db) (r : Order) :
    (db.saveOrder r).wallets = db.wallets := rfl

@[simp] theorem saveOrder_ledger (db : Db) (r : Order) : (db.saveOrder r).ledger = db.ledger := rfl

@[simp] theorem saveOrder_payouts (db : Db) (r : Order) :
    (db.saveOrder r).payouts = db.payouts := rfl

@[simp] theorem saveOrder_orders (db : Db) (r : Order) :
    (db.saveOrder r).orders = db.orders.set r := rfl

@[simp] theorem saveOrder_auditLog (db : Db) (r : Order) :
    (db.saveOrder r).auditLog = db.auditLog := rfl

@[simp] theorem savePayout_wallets (db : Db) (p : Payout) :
    (db.savePayout p).wallets = db.wallets := rfl

@[simp] theorem savePayout_ledger (db : Db) (p : Payout) :
    (db.savePayout p).ledger = db.ledger := rfl

@[simp] theorem savePayout_payouts (db : Db) (p : Payout) :
    (db.savePayout p).payouts = db.payouts.set p := rfl

@[simp] theorem savePayout_orders (db : Db) (p : Payout) :
    (db.savePayout p).orders = db.orders := rfl

@[simp] theorem savePayout_auditLog (db : Db) (p : Payout) :
    (db.savePayout p).auditLog = db.auditLog := rfl

@[simp] theorem audit_wallets (db : Db) (row : FinanceAuditLog) :
    (db.audit row).wallets = db.wallets := rfl

@[simp] theorem audit_ledger (db : Db) (row : FinanceAuditLog) :
    (db.audit row).ledger = db.ledger := rfl

@[simp] theorem audit_payouts (db : Db) (row : FinanceAuditLog) :
    (db.audit row).payouts = db.payouts := rfl

@[simp] theorem audit_orders (db : Db) (row : FinanceAuditLog) :
    (db.audit row).orders = db.orders := rfl

@[simp] theorem audit_auditLog (db : Db) (row : FinanceAuditLog) :
    (db.audit row).auditLog = db.auditLog ++ [row] := rfl

end Db

end Finance

end DiscountBazar
