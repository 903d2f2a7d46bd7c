/-
The order workflow (`orderWorkflowService.js`, `orderStateMachine.js`): the order document and
the conditional updates on it.

Every step of the workflow reads the order, decides, and then sends one update with a filter of
its own; the database applies it if the document still matches. An update is a value here, so
that what its filter asks for and what it writes can be compared. Delivery radius, times of the
broadcasts and texts for the clients are left out.
-/
import DiscountBazar.Cancellation.SelfCancel
import DiscountBazar.Returns.Handlers

namespace DiscountBazar.Workflow

open Finance Cancellation

/-! ## The state machine -/

def TRANSITIONS : WorkflowStatus → List WorkflowStatus
  | .created => [.sellerPending]
  | .sellerPending => [.sellerAccepted, .deliverySearch, .cancelled]
  | .sellerAccepted => [.deliverySearch, .cancelled]
  | .deliverySearch => [.deliveryAssigned, .cancelled]
  | .deliveryAssigned => [.pickupReady, .outForDelivery, .cancelled]
  | .pickupReady => [.outForDelivery, .cancelled]
  | .outForDelivery => [.delivered, .cancelled]
  | .delivered => []
  | .cancelled => []

def canTransition (source target : Option WorkflowStatus) : Bool :=
  match source, target with
  | some a, some b => decide (a = b ∨ b ∈ TRANSITIONS a)
  | _, _ => false

def legacyStatusFromWorkflow : WorkflowStatus → LegacyStatus
  | .created | .sellerPending => .pending
  | .sellerAccepted | .deliverySearch | .deliveryAssigned | .pickupReady => .confirmed
  | .outForDelivery => .outForDelivery
  | .delivered => .delivered
  | .cancelled => .cancelled

def legacyName : LegacyStatus → String
  | .pending => "pending"
  | .confirmed => "confirmed"
  | .packed => "packed"
  | .outForDelivery => "out_for_delivery"
  | .delivered => "delivered"
  | .cancelled => "cancelled"

/-! ## The order -/

inductive CancelledBy where
  | customer | seller | admin | system

structure WorkflowOrder extends OrderDocument where
  sellerPendingExpiresAt : Option Date := none
  expiresAt : Option Date := none
  sellerAcceptedAt : Option Date := none
  deliverySearchExpiresAt : Option Date := none
  /-- `deliverySearchMeta.attempt` -/
  deliverySearchAttempt : Option ℕ := none
  skippedBy : List ObjectId := []
  assignedAt : Option Date := none
  assignmentVersion : ℕ := 0
  deliveryRiderStep : ℕ := 0
  pickupReadyAt : Option Date := none
  outForDeliveryAt : Option Date := none
  otpValidatedAt : Option Date := none
  cancelledBy : Option CancelledBy := none
  cancelReason : Option String := none
  cancelledAt : Option Date := none
  stockReservationExpiresAt : Option Date := none
  stockReservationReleased : Bool := false

/-- Milliseconds a seller has to accept and a search for a rider waits, and how often it asks. -/
structure Timeouts where
  sellerMs : ℤ := 3600000
  deliveryMs : ℤ := 60000
  maxAttempts : ℕ := 3

/-! ## Updates -/

/-- The updates the workflow sends. A cancellation carries what it was computed from: the order it
has read, and the clauses of the policy. -/
inductive Update where
  | sellerAccept (sellerId : ObjectId) (now deliveryMs : ℤ)
  | sellerReject (sellerId : ObjectId) (now : Date)
  | sellerTimeout
  | extendSearch (expiresAt : Date) (attempt : ℕ)
  | deliveryTimeout
  | deliveryAccept (deliveryId : ObjectId) (now : Date)
  | arrivedAtStore (deliveryId : ObjectId) (now : Date)
  | confirmPickup (deliveryId : ObjectId) (now : Date)
  | deliver (deliveryId : ObjectId) (isV2Out : Bool) (now : Date)
  | cancelDirectly (workflowVersion : ℕ) (customer : Option ObjectId) (clauses : List StateClause)
      (cancelledBy : CancelledBy) (reason : String) (now : Date)
  | cancelAfterPickup (workflowVersion : ℕ) (cancelledBy : CancelledBy) (reason : String) (now : Date)
  /-- `moveOrderToSellerPendingAfterPayment` -/
  | sellerPending (expiresAt : Date)
  /-- the sweep of `orderAutoCancelJob.js` over unpaid orders -/
  | paymentTimeout
  /-- `sellerMarkReady`, and the update of the legacy status after it -/
  | markReady (now : Date)
  | markPacked

def isV2 (order : WorkflowOrder) : Bool := decide (2 ≤ order.workflowVersion)

def pickedUpOrderFilter (order : WorkflowOrder) : Bool :=
  order.deliveredAt.isNone &&
    decide (order.status ∉ [LegacyStatus.cancelled, .delivered]) &&
    (order.pickupConfirmedAt.isSome || decide (order.workflowStatus = some .outForDelivery) ||
      decide (order.status = .outForDelivery))

/-- `SELLER_READY_ALLOWED_STATUSES`. -/
def sellerReadyAllowed : List WorkflowStatus :=
  [.sellerAccepted, .deliverySearch, .deliveryAssigned, .pickupReady]

def Update.filter (order : WorkflowOrder) : Update → Bool
  | .sellerAccept sellerId _ _ =>
    decide (order.seller = some sellerId) && isV2 order &&
      decide (order.workflowStatus ∈ [some WorkflowStatus.sellerPending, some .created]) &&
      decide (order.paymentMode ≠ .online ∨ order.paymentStatus = .paid)
  | .sellerReject sellerId now =>
    decide (order.seller = some sellerId) && isV2 order &&
      decide (order.workflowStatus = some .sellerPending) &&
      order.sellerPendingExpiresAt.any (fun t => decide (now < t))
  | .sellerTimeout => isV2 order && decide (order.workflowStatus = some .sellerPending)
  | .extendSearch _ _ | .deliveryTimeout =>
    isV2 order && decide (order.workflowStatus = some .deliverySearch)
  | .deliveryAccept deliveryId _ =>
    order.deliveryBoy.isNone && decide (deliveryId ∉ order.skippedBy) &&
      decide (order.status ∉ [LegacyStatus.cancelled, .delivered]) &&
      (isV2 order && decide (order.workflowStatus = some .deliverySearch) ||
        !isV2 order && decide (order.status ∈ [LegacyStatus.confirmed, .packed]))
  | .arrivedAtStore deliveryId _ =>
    decide (order.workflowStatus = some .deliveryAssigned) &&
      decide (order.deliveryBoy = some deliveryId)
  | .confirmPickup deliveryId _ =>
    decide (order.workflowStatus ∈ [some WorkflowStatus.deliveryAssigned, some .pickupReady]) &&
      decide (order.deliveryBoy = some deliveryId)
  | .deliver deliveryId isV2Out _ =>
    (if isV2Out then decide (order.workflowStatus = some .outForDelivery)
      else decide (order.status = .outForDelivery)) &&
      decide (order.deliveryBoy = some deliveryId)
  | .cancelDirectly _ customer clauses _ _ _ => directFilter order.toOrderDocument customer clauses
  | .cancelAfterPickup _ _ _ _ => pickedUpOrderFilter order
  | .sellerPending _ =>
    isV2 order && decide (order.workflowStatus = some .created) &&
      decide (order.paymentMode = .online)
  | .paymentTimeout =>
    decide (order.workflowStatus = some .created) && decide (order.paymentStatus ≠ .paid)
  | .markReady _ =>
    order.workflowStatus.any (fun ws => decide (ws ∈ sellerReadyAllowed)) &&
      order.sellerReadyAt.isNone
  | .markPacked => decide (order.status = .confirmed)

def WorkflowOrder.withStatus (order : WorkflowOrder) (ws : WorkflowStatus) : WorkflowOrder :=
  { order with
    workflowStatus := some ws
    status := legacyStatusFromWorkflow ws
    orderStatus := legacyStatusFromWorkflow ws }

/-- `cancelledOrderSet`: the workflow status is written if the order that was read has one. -/
def cancelledOrderSet (order : WorkflowOrder) (workflowVersion : ℕ) (cancelledBy : CancelledBy)
    (reason : String) (now : Date) : WorkflowOrder :=
  { order with
    status := .cancelled
    orderStatus := .cancelled
    workflowStatus := if 2 ≤ workflowVersion then some .cancelled else order.workflowStatus
    cancelledBy := some cancelledBy
    cancelReason := some reason
    cancelledAt := some now
    expiresAt := none }

def Update.set (order : WorkflowOrder) : Update → WorkflowOrder
  | .sellerAccept _ now deliveryMs =>
    { order.withStatus .deliverySearch with
      sellerAcceptedAt := some now
      deliverySearchExpiresAt := some (now + deliveryMs)
      deliverySearchAttempt := some 1
      expiresAt := none }
  | .sellerReject _ _ =>
    { order.withStatus .cancelled with
      cancelledBy := some .seller, cancelReason := some "Rejected by seller" }
  | .sellerTimeout =>
    { order.withStatus .cancelled with
      cancelledBy := some .system, cancelReason := some "Seller timeout (60s)" }
  | .extendSearch expiresAt attempt =>
    { order with
      deliverySearchExpiresAt := some expiresAt, deliverySearchAttempt := some attempt }
  | .deliveryTimeout =>
    { order.withStatus .cancelled with
      cancelledBy := some .system, cancelReason := some "No delivery partner (timeout)" }
  | .deliveryAccept deliveryId now =>
    { order.withStatus .deliveryAssigned with
      deliveryBoy := some deliveryId
      assignedAt := some now
      deliveryRiderStep := 1
      assignmentVersion := order.assignmentVersion + 1 }
  | .arrivedAtStore _ now =>
    { order.withStatus .pickupReady with pickupReadyAt := some now, deliveryRiderStep := 2 }
  | .confirmPickup _ now =>
    { order.withStatus .outForDelivery with
      pickupConfirmedAt := some now, outForDeliveryAt := some now, deliveryRiderStep := 3 }
  | .deliver _ isV2Out now =>
    { order with
      status := .delivered
      orderStatus := .delivered
      deliveredAt := some now
      otpValidatedAt := some now
      workflowStatus := if isV2Out then some .delivered else order.workflowStatus }
  | .cancelDirectly workflowVersion _ _ cancelledBy reason now
  | .cancelAfterPickup workflowVersion cancelledBy reason now =>
    cancelledOrderSet order workflowVersion cancelledBy reason now
  | .sellerPending expiresAt =>
    { order with
      workflowStatus := some .sellerPending
      sellerPendingExpiresAt := some expiresAt
      expiresAt := some expiresAt }
  | .paymentTimeout =>
    { order.withStatus .cancelled with
      cancelledBy := some .system, cancelReason := some "Payment timeout" }
  | .markReady now => { order with sellerReadyAt := some now }
  | .markPacked => { order with status := .packed, orderStatus := .packed }

def Update.apply (update : Update) (order : WorkflowOrder) : Option WorkflowOrder :=
  if update.filter order then some (update.set order) else none

end DiscountBazar.Workflow
