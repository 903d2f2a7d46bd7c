/-
Payment attempts (`models/payment.js`, `constants/payment.js`, the adapters of the two gateways
and the writes of `paymentService.js`).

A checkout is a group of orders paid together, or one order; each attempt to pay it is a payment
document of its own. What a write of the service does to the documents is a function here; the
handlers, in the next file, are sequences of them. The raw answers of the gateway, the times of
the changes and the correlation ids are left out.
-/
import DiscountBazar.Pricing.Coupon
import DiscountBazar.Workflow.Handlers

namespace DiscountBazar.Payments

open Finance Workflow

/-! ## Statuses -/

inductive PaymentStatus where
  | created | pending | authorized | captured | failed | refunded | cancelled
  deriving DecidableEq

def TRANSITIONS : PaymentStatus → List PaymentStatus
  | .created => [.pending, .authorized, .captured, .failed, .cancelled]
  | .pending => [.authorized, .captured, .failed, .cancelled]
  | .authorized => [.captured, .failed, .refunded]
  | .captured => [.refunded]
  | .failed | .cancelled | .refunded => []

def canTransitionPaymentStatus (fromStatus toStatus : PaymentStatus) : Bool :=
  decide (fromStatus = toStatus ∨ toStatus ∈ TRANSITIONS fromStatus)

def statusName : PaymentStatus → String
  | .created => "CREATED"
  | .pending => "PENDING"
  | .authorized => "AUTHORIZED"
  | .captured => "CAPTURED"
  | .failed => "FAILED"
  | .refunded => "REFUNDED"
  | .cancelled => "CANCELLED"

def paymentStatusToOrderPaymentStatus : PaymentStatus → OrderPaymentStatus
  | .captured => .paid
  | .failed => .failed
  | .refunded => .refunded
  | _ => .created

inductive PaymentEventSource where
  | clientVerify | webhook | system

inductive PaymentGateway where
  | razorpay | phonepe
  deriving DecidableEq

def providerName : PaymentGateway → String
  | .razorpay => "RAZORPAY"
  | .phonepe => "PHONEPE"

/-- `mapStatusToInternal` of the gateway's adapter. -/
def mapStatusToInternal (gateway : PaymentGateway) (state : String) : PaymentStatus :=
  match gateway with
  | .razorpay =>
    let normalized := Pricing.trim state.toLower
    if normalized ∈ ["captured", "paid", "payment.captured", "order.paid"] then .captured
    else if normalized ∈ ["failed", "payment.failed"] then .failed
    else if normalized ∈ ["authorized", "created", "attempted", "pending"] then .pending
    else if normalized = "refunded" then .refunded
    else .pending
  | .phonepe =>
    let normalized := state.toUpper
    if normalized = "COMPLETED" then .captured
    else if normalized = "FAILED" then .failed
    else .pending

/-! ## Documents -/

/-- A row of `statusHistory`. -/
structure StateChange where
  fromStatus : PaymentStatus
  toStatus : PaymentStatus
  source : PaymentEventSource
  reason : String

/-- An attempt. `razorpayOrderId` and `redirectUrl` are kept with the gateway's raw answer. -/
structure Payment where
  gatewayOrderId : String
  razorpayOrderId : Option String := none
  redirectUrl : Option String := none
  customer : ObjectId
  order : ObjectId
  orderIds : List ObjectId
  checkoutGroupId : Option String
  gatewayName : PaymentGateway
  amount : ℤ
  attemptCount : ℕ := 1
  idempotencyKey : Option String := none
  status : PaymentStatus := .created
  gatewayPaymentId : Option String := none
  gatewaySignature : Option String := none
  failureReason : Option String := none
  statusHistory : List StateChange := []

structure CheckoutOrder extends WorkflowOrder where
  checkoutGroupId : Option String := none

inductive GroupStatus where
  | created | paymentPending | paid | cancelled | expired | fulfilled
  deriving DecidableEq

/-- `stockReservation.status` of a group. -/
inductive ReservationStatus where
  | reserved | committed | released
  deriving DecidableEq

structure CheckoutGroup where
  checkoutGroupId : String
  status : GroupStatus := .created
  paymentStatus : OrderPaymentStatus := .created
  stockReservation : ReservationStatus := .reserved
  deriving DecidableEq

/-- A gateway's event, once it is decoded; `refund` is the refund it is about. -/
structure Decoded where
  eventId : String
  eventType : Option String := none
  merchantOrderId : Option String := none
  gatewayOrderId : Option String := none
  transactionId : Option String := none
  state : String
  responseCode : Option String := none

structure StatusResponse where
  state : String := ""
  transactionId : Option String := none
  responseCode : Option String := none

/-! ## Writes of a payment -/

/-- The payment after `transitionPaymentState`. -/
def transitioned (payment : Payment) (nextStatus : PaymentStatus) (source : PaymentEventSource)
    (reason : String) (gatewayPaymentId : Option String) : Payment :=
  if payment.status = nextStatus then
    { payment with gatewayPaymentId := payment.gatewayPaymentId.or gatewayPaymentId }
  else
    { payment with
      status := nextStatus
      gatewayPaymentId := gatewayPaymentId.or payment.gatewayPaymentId
      failureReason :=
        if nextStatus = .failed then
          if reason = "" then payment.failureReason else some reason
        else payment.failureReason
      statusHistory :=
        payment.statusHistory ++ [⟨payment.status, nextStatus, source, reason⟩] }

/-- `payment.save()`: the fields that were changed since the document was `loaded` are written,
and new rows of the history are pushed. -/
def savedPayment (loaded edited current : Payment) : Payment :=
  { current with
    status := Returns.written loaded.status edited.status current.status
    gatewayPaymentId :=
      Returns.written loaded.gatewayPaymentId edited.gatewayPaymentId current.gatewayPaymentId
    gatewaySignature :=
      Returns.written loaded.gatewaySignature edited.gatewaySignature current.gatewaySignature
    failureReason := Returns.written loaded.failureReason edited.failureReason current.failureReason
    statusHistory :=
      current.statusHistory ++ edited.statusHistory.drop loaded.statusHistory.length }

/-! ## Writes of a group -/

/-- `updateCheckoutGroupPaymentStatus`, on its group. -/
def CheckoutGroup.withPaymentStatus (group : CheckoutGroup) : PaymentStatus → CheckoutGroup
  | .captured => { group with status := .paid, paymentStatus := .paid, stockReservation := .committed }
  | .failed | .cancelled =>
    { group with status := .cancelled, paymentStatus := .failed, stockReservation := .released }
  | .refunded => { group with paymentStatus := .refunded, status := .cancelled }
  | _ => group

/-! ## Writes of an order -/

namespace CheckoutOrder

def isCancelled (order : CheckoutOrder) : Bool :=
  decide (order.status = .cancelled ∨ order.workflowStatus = some .cancelled)

def capture (order : CheckoutOrder) : CheckoutOrder :=
  { order with toWorkflowOrder := captured order.toWorkflowOrder }

/-- `moveOrderToSellerPendingAfterPayment`. -/
def moveToSellerPending (order : CheckoutOrder) (expiresAt : Date) : CheckoutOrder :=
  match (Update.sellerPending expiresAt).apply order.toWorkflowOrder with
  | some moved => { order with toWorkflowOrder := moved }
  | none => order

def paymentFailed (order : CheckoutOrder) (reason : String) : CheckoutOrder :=
  { order with toWorkflowOrder := Workflow.paymentFailed reason order.toWorkflowOrder }

def withPaymentStatus (order : CheckoutOrder) (paymentStatus : OrderPaymentStatus) : CheckoutOrder :=
  { order with paymentStatus }

end CheckoutOrder

/-- `getPayableAmountPaise`: the orders' totals, rounded up to whole rupees. -/
def getPayableAmountPaise (orders : List CheckoutOrder) : ℤ :=
  ((orders.map (fun order => order.paymentBreakdown.grandTotal)).sum + 99) / 100 * 100

end DiscountBazar.Payments
