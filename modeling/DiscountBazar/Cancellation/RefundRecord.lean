/-
The cancellation record, the gateway's refunds and the world they live in
(`models/orderCancellation.js` and the writes of `cancellationRefundService.js`).

Every definition here is one atomic write of the database or one thing the gateway does.
The engine's programs, in the next file, are sequences of these. Next to what the
services store, the world keeps three books that no service reads: the gateway calls
under way, the movements of money made for the record, and the allocations an admin has
closed by hand. The claims about the engine are about these books.
-/
import DiscountBazar.Cancellation.Eligibility
import DiscountBazar.Finance.OrderFinance

namespace DiscountBazar.Cancellation

open Finance

/-! ## Documents -/

/-- `refundAllocationSchema`. -/
structure Allocation where
  id : ObjectId
  source : RefundSource
  destination : RefundDestination
  amount : ℤ
  status : RefundStatus := .pending
  gatewayPaymentId : Option ObjectId := none
  gatewayRefundId : Option ObjectId := none
  attempts : ℕ := 0
  lastError : Option String := none
  initiatedAt : Option Date := none
  completedAt : Option Date := none

/-- The `refund` of a cancellation record. -/
structure Refund where
  status : RefundStatus := .pending
  paidWallet : ℤ := 0
  paidGateway : ℤ := 0
  amount : ℤ := 0
  deductions : Deductions := {}
  allocations : Table Allocation.id := Table.empty
  awaitingPaymentConfirmation : Bool := false
  lastError : Option String := none
  initiatedAt : Option Date := none
  completedAt : Option Date := none

/-- The part of `OrderCancellation` that refunds read and write. -/
structure CancellationRecord where
  id : ObjectId
  order : ObjectId
  stageAtRequest : Option CancellationStage := none
  afterPickup : Bool := false
  fullRefund : Bool := false
  cancelledAt : Date := 0
  inventoryInspected : Bool := false
  refund : Refund := {}

/-- What the gateway says of a refund (`mapRefundStatus`). -/
inductive GatewayRefundStatus where
  | processing | successful | failed
  deriving DecidableEq

/-- A refund the gateway has accepted; its notes carry the allocation. `call` is the task
whose `refundPayment` call for it has not returned yet. -/
structure GatewayRefund where
  id : ObjectId
  allocationId : ObjectId
  gatewayPaymentId : ObjectId
  amount : ℤ
  status : GatewayRefundStatus
  call : Option ℕ
  deriving DecidableEq

def GatewayRefund.live (refund : GatewayRefund) : Bool := decide (refund.status ≠ .failed)

/-- What `reconcileOrderPaymentStatus` answers. -/
inductive PaymentOutcome where
  | none | failed | unknown | pending | captured
  deriving DecidableEq

/-- What an operation of the engine throws: its message, and whether its code is
`REFUND_NOT_SUPPORTED`. -/
structure RefundError where
  message : String
  statusCode : Option ℕ := .none
  refundNotSupported : Bool := false

def RefundError.ofService (e : ServiceError) : RefundError := ⟨e.message, e.statusCode, false⟩

/-! ## The world -/

/-- How far a gateway attempt is: looking for an earlier refund, about to ask for one
because there was none, or waiting for the answer to a refund the gateway has accepted. -/
inductive CallStage where
  | looking | clear | accepted

/-- A gateway attempt under way, from the claim to the return of its last provider call. -/
structure GatewayCall where
  task : ℕ
  allocationId : ObjectId
  claimedAt : Date
  stage : CallStage

inductive MoveKind where
  | customerCredit | platformDebit | platformShortfall
  deriving DecidableEq

structure Move where
  allocationId : ObjectId
  kind : MoveKind
  deriving DecidableEq

/-- One cancelled order: the stores of the services, the payments and refunds of the
gateway (the latest captured payment first, each with its gateway id where it has one),
the clock, and the books of the claims. -/
structure World where
  db : Db
  record : CancellationRecord
  capturedPayments : List (Option ObjectId) := []
  gatewayRefunds : Table GatewayRefund.id := Table.empty
  now : Date := 0
  gatewayCalls : List GatewayCall := []
  moves : List Move := []
  resolvedManually : List ObjectId := []

/-- A gateway attempt with no reply for this long is treated as interrupted. -/
def staleGatewayAttemptMs : ℤ := 5 * 60 * 1000

/-! ## Writes of the record -/

/-- The fields a write gives an allocation; the others stay. -/
structure AllocationFields where
  status : Option RefundStatus := none
  gatewayPaymentId : Option (Option ObjectId) := none
  gatewayRefundId : Option (Option ObjectId) := none
  lastError : Option (Option String) := none

namespace Allocation

def set (a : Allocation) (fields : AllocationFields) : Allocation :=
  { a with
    status := fields.status.getD a.status
    gatewayPaymentId := fields.gatewayPaymentId.getD a.gatewayPaymentId
    gatewayRefundId := fields.gatewayRefundId.getD a.gatewayRefundId
    lastError := fields.lastError.getD a.lastError }

/-- The match of `claimAllocation`. An attempt is stale when it is old and has no refund
id. -/
def claimable (a : Allocation) (fromStatuses : List RefundStatus) (reclaimStale : Bool)
    (now : Date) : Bool :=
  decide (a.status ∈ fromStatuses) ||
    (reclaimStale && decide (a.status = .processing) && a.gatewayRefundId.isNone &&
      a.initiatedAt.any (fun t => decide (t < now - staleGatewayAttemptMs)))

/-- What `claimAllocation` writes. -/
def claimed (a : Allocation) (now : Date) : Allocation :=
  { a with status := .processing, initiatedAt := some now, attempts := a.attempts + 1 }

def completed (a : Allocation) (now : Date) : Allocation :=
  { a with status := .successful, completedAt := some now, lastError := none }

/-- The save of `resetFailedRefund`, which read the allocation as `seen`: Mongoose writes
the fields the loop has changed. -/
def resetFrom (a seen : Allocation) : Allocation :=
  if seen.status = .failed ∨ seen.status = .manualReview then
    { a with
      status := if seen.gatewayRefundId.isSome then .processing else .pending
      attempts := if seen.attempts = 0 then a.attempts else 0
      lastError := if seen.lastError.isNone then a.lastError else none }
  else a

/-- The save of `resolveRefundManually`, which read the allocation as `seen`. -/
def resolvedFrom (a seen : Allocation) (note : String) (now : Date) : Allocation :=
  if seen.status = .successful then a
  else
    { a with
      status := .successful
      completedAt := some now
      lastError := some ("Resolved manually: " ++ note) }

@[simp] theorem set_id (a : Allocation) (fields : AllocationFields) : (a.set fields).id = a.id := rfl

@[simp] theorem claimed_id (a : Allocation) (now : Date) : (a.claimed now).id = a.id := rfl

@[simp] theorem completed_id (a : Allocation) (now : Date) : (a.completed now).id = a.id := rfl

@[simp] theorem resetFrom_id (a seen : Allocation) : (a.resetFrom seen).id = a.id := by
  unfold resetFrom
  split <;> rfl

@[simp] theorem resolvedFrom_id (a seen : Allocation) (note : String) (now : Date) :
    (a.resolvedFrom seen note now).id = a.id := by
  unfold resolvedFrom
  split <;> rfl

def planned (id : ObjectId) (p : PlannedAllocation) : Allocation where
  id := id
  source := p.source
  destination :=
    match p.source with
    | .wallet => .wallet
    | .gateway => p.destination
  amount := p.amount

end Allocation

namespace Refund

/-- Change the allocations by `f`, which leaves the ids alone. -/
def mapAllocations (r : Refund) (f : Allocation → Allocation) (hf : ∀ a, (f a).id = a.id) :
    Refund :=
  { r with allocations := r.allocations.map f hf }

/-- Save what was done to the allocations of a refund that was read as `seen`. -/
def mapSeen (r seen : Refund) (f : Allocation → Allocation → Allocation)
    (hf : ∀ a s, (f a s).id = a.id) : Refund :=
  r.mapAllocations (fun a => (seen.allocations.get? a.id).elim a (f a))
    (fun a => by
      cases seen.allocations.get? a.id with
      | none => rfl
      | some s => exact hf a s)

def addAllocations (r : Refund) (ps : List PlannedAllocation) : Refund :=
  { r with
    allocations :=
      ps.foldl (fun t p => t.insert (Allocation.planned t.freshKey p)) r.allocations }

end Refund

/-- The refund `recordExternalCancellation` gives the record of an order that a seller
rejection, a timeout or a payment failure has cancelled. What those paths have refunded by
themselves is on it as finished. -/
def externalRefund (order : Order) (now : Date) : Refund :=
  let legacyRefunded := order.financeFlags.cancellationReversalApplied
  let gatewayRefunded := legacyRefunded && order.financeFlags.onlineRefundApplied
  let walletAmount := (orderCharges order).walletAmount
  let orderAmount := roundCurrency (fromPaise order.paymentBreakdown.grandTotal)
  let seeds : List PlannedAllocation :=
    (if legacyRefunded = true ∧ 0 < walletAmount then [⟨.wallet, walletAmount, .wallet⟩] else []) ++
      (if gatewayRefunded then [⟨.gateway, orderAmount, .wallet⟩] else [])
  if legacyRefunded then
    { (({} : Refund).addAllocations seeds).mapAllocations (fun a => a.completed now)
        (fun _ => rfl) with
      status := if seeds = [] then .notRequired else .successful
      amount := (seeds.map PlannedAllocation.amount).sum
      paidWallet := walletAmount
      paidGateway := if gatewayRefunded then orderAmount else 0
      initiatedAt := some now
      completedAt := some now }
  else {}

namespace World

def order? (w : World) : Option Order := w.db.orders.get? w.record.order

def withRefund (w : World) (refund : Refund) : World :=
  { w with record := { w.record with refund := refund } }

def allocation? (w : World) (id : ObjectId) : Option Allocation :=
  w.record.refund.allocations.get? id

def updateAllocation (w : World) (id : ObjectId) (f : Allocation → Allocation)
    (hf : ∀ a, (f a).id = a.id) : World :=
  w.withRefund (w.record.refund.mapAllocations (fun a => if a.id = id then f a else a)
    (fun a => by
      split
      · exact hf a
      · rfl))

/-- What `claimAllocation` writes. -/
def markClaimed (w : World) (id : ObjectId) : World :=
  w.updateAllocation id (fun a => a.claimed w.now) (fun a => a.claimed_id w.now)

def markCompleted (w : World) (id : ObjectId) : World :=
  w.updateAllocation id (fun a => a.completed w.now) (fun a => a.completed_id w.now)

def setAllocation (w : World) (id : ObjectId) (fields : AllocationFields) : World :=
  w.updateAllocation id (fun a => a.set fields) (fun a => a.set_id fields)

def canClaim (w : World) (id : ObjectId) (fromStatuses : List RefundStatus) (reclaimStale : Bool) :
    Bool :=
  (w.allocation? id).any (fun a => a.claimable fromStatuses reclaimStale w.now)

/-- `claimAllocation`, with the answer whether it modified the record. -/
def claimAllocation (w : World) (id : ObjectId) (fromStatuses : List RefundStatus)
    (reclaimStale : Bool) : Bool × World :=
  if w.canClaim id fromStatuses reclaimStale then
    (true, w.markClaimed id)
  else (false, w)

/-- The update of `processCancellationRefund` for a parcel that is not inspected yet. -/
def holdForInspection (w : World) : World :=
  w.withRefund { w.record.refund with status := .pending }

/-- The update of `planRefund` for a payment that is not settled yet. -/
def awaitPaymentConfirmation (w : World) (lastError : Option String) : World :=
  w.withRefund
    { w.record.refund with
      status := .pending
      awaitingPaymentConfirmation := true
      lastError := lastError }

/-- The conditional update of `planRefund`: only a record with no allocation and no start
date is frozen. -/
def freezePlan (w : World) (plan : RefundPlan) : Bool × World :=
  if w.record.refund.allocations.rows = [] ∧ w.record.refund.initiatedAt = none then
    let status := if plan.allocations = [] then RefundStatus.notRequired else .pending
    (true,
      w.withRefund
        { w.record.refund.addAllocations plan.allocations with
          status := status
          paidWallet := plan.paidWallet
          paidGateway := plan.paidGateway
          amount := plan.refundable
          deductions := plan.deductions
          awaitingPaymentConfirmation := false
          initiatedAt := some w.now
          completedAt := if status = .notRequired then some w.now else none })
  else (false, w)

/-- The conditional update of `addLateCaptureAllocation`, which read the refund's amount
as `seenAmount`. -/
def pushLateCapture (w : World) (gateway : PlannedAllocation) (paidGateway seenAmount : ℤ) :
    Bool × World :=
  if ∀ a ∈ w.record.refund.allocations.rows, a.source ≠ .gateway then
    (true,
      w.withRefund
        { w.record.refund.addAllocations [gateway] with
          status := .pending
          paidGateway := paidGateway
          amount := roundCurrency (fromPaise seenAmount + fromPaise gateway.amount)
          completedAt := none })
  else (false, w)

/-- The conditional update of `finalizeRefundStatus`. -/
def setRefundStatus (w : World) (previous next : RefundStatus) (lastError : Option String) :
    Bool × World :=
  if w.record.refund.status = previous then
    (true,
      w.withRefund
        { w.record.refund with
          status := next
          completedAt := if next = .successful then some w.now else w.record.refund.completedAt
          lastError := if next = .successful then none else lastError })
  else (false, w)

/-- `record.save` of `resetFailedRefund`, which read the refund as `seen`. -/
def saveReset (w : World) (seen : Refund) : World :=
  w.withRefund
    { w.record.refund.mapSeen seen Allocation.resetFrom Allocation.resetFrom_id with
      status := .pending
      lastError := if seen.lastError.isNone then w.record.refund.lastError else none }

/-- The allocations `resolveRefundManually` closes. -/
def closes (seen : Refund) : List ObjectId :=
  (seen.allocations.rows.filter (fun a => decide (a.status ≠ .successful))).map Allocation.id

/-- `record.save` of `resolveRefundManually`, which read the refund as `seen`. -/
def saveResolved (w : World) (seen : Refund) (note : String) : World :=
  { w.withRefund
      { w.record.refund.mapSeen seen (fun a s => a.resolvedFrom s note w.now)
          (fun a s => a.resolvedFrom_id s note w.now) with
        status := .successful
        completedAt := some w.now } with
    resolvedManually := w.resolvedManually ++ closes seen }

/-! ## Writes of the order -/

/-- `Order.updateOne` on the cancelled order. -/
def updateOrder (w : World) (f : Order → Order) : World :=
  match w.order? with
  | some order => { w with db := w.db.saveOrder (f order) }
  | none => w

/-- Legacy cancellation paths must never refund this order a second time. -/
def markCancellationReversalApplied (w : World) : World :=
  w.updateOrder (fun order =>
    { order with
      financeFlags := { order.financeFlags with cancellationReversalApplied := true } })

def markOrderGatewayRefunded (w : World) : World :=
  w.updateOrder (fun order =>
    { order with
      financeFlags :=
        { order.financeFlags with
          onlineRefundApplied := true
          cancellationReversalApplied := true }
      paymentStatus := .refunded })

def capturePayment (w : World) (gatewayPaymentId : Option ObjectId) : World :=
  { w with capturedPayments := gatewayPaymentId :: w.capturedPayments }

/-! ## Movements of money -/

def platformKey (w : World) (id : ObjectId) : IdempotencyKey := .cancellationPlatform w.record.id id

def customerKey (w : World) (id : ObjectId) : IdempotencyKey := .cancellationCustomer w.record.id id

def moved (w : World) (db : Db) (id : ObjectId) (kind : MoveKind) : World :=
  { w with db := db, moves := w.moves ++ [⟨id, kind⟩] }

/-- What `/Insufficient/i` matches among the errors of `debitWallet`. -/
def insufficient (e : ServiceError) : Bool :=
  decide (e.message = "Insufficient available balance")

/-- `debitPlatformForGatewayRefund`. A float that is short leaves a pending row. -/
def debitPlatformForGatewayRefund (w : World) (order : Order) (allocation : Allocation) :
    Except ServiceError World :=
  let key := w.platformKey allocation.id
  if keyFree w.db (some key) then
    match debitWallet w.db .admin (fromPaise allocation.amount) .available
        { ledgerType := some .refund
          orderId := some order.id
          paymentMode := some .online
          idempotencyKey := some key } with
    | .ok (db, _) => pure (w.moved db allocation.id .platformDebit)
    | .error e =>
      if insufficient e then do
        let db ← createLedgerEntry w.db
          { actor := .admin
            type := .refund
            direction := .debit
            amount := roundCurrency (fromPaise allocation.amount)
            status := .pending
            orderId := some order.id
            paymentMode := some .online
            idempotencyKey := some key }
        pure (w.moved db allocation.id .platformShortfall)
      else throw e
  else pure w

def creditCustomerWallet (w : World) (order : Order) (allocation : Allocation) :
    Except ServiceError World :=
  let key := w.customerKey allocation.id
  if keyFree w.db (some key) then do
    let (db, _) ← creditWallet w.db (.customer order.customer) (fromPaise allocation.amount)
      .available
      { ledgerType := some .walletRefund
        orderId := some order.id
        paymentMode := some .wallet
        idempotencyKey := some key }
    pure (w.moved db allocation.id .customerCredit)
  else pure w

def debitGatewaySource (w : World) (order : Order) (allocation : Allocation) :
    Except ServiceError World :=
  match allocation.source with
  | .wallet => pure w
  | .gateway => do
      let w ← w.debitPlatformForGatewayRefund order allocation
      pure w.markOrderGatewayRefunded

/-- The transaction of `processWalletDestination`. -/
def walletTransaction (w : World) (order : Order) (allocation : Allocation) :
    Except ServiceError World :=
  if w.canClaim allocation.id [.pending, .failed] false then do
    let w := (w.claimAllocation allocation.id [.pending, .failed] false).2
    let w ← w.debitGatewaySource order allocation
    let w ← w.creditCustomerWallet order allocation
    pure (w.markCompleted allocation.id)
  else pure w

/-- The transaction of `completeGatewayAllocation`. -/
def completeTransaction (w : World) (order : Order) (allocation : Allocation) :
    Except ServiceError World :=
  if (w.allocation? allocation.id).any (fun a => decide (a.status ≠ .successful)) then do
    let w := w.markCompleted allocation.id
    let w ← w.debitPlatformForGatewayRefund order allocation
    pure w.markOrderGatewayRefunded
  else pure w

/-! ## The gateway -/

/-- The call task `i` is in. -/
def callOf (w : World) (i : ℕ) : Option GatewayCall :=
  w.gatewayCalls.find? (fun c => decide (c.task = i))

/-- Task `i` has claimed the allocation and goes to the gateway. -/
def openCall (w : World) (i : ℕ) (id : ObjectId) : World :=
  { w with gatewayCalls := ⟨i, id, w.now, .looking⟩ :: w.gatewayCalls }

def advanceCall (w : World) (i : ℕ) (stage : CallStage) : World :=
  { w with
    gatewayCalls := w.gatewayCalls.map (fun c => if c.task = i then { c with stage := stage } else c) }

/-- Task `i` is not in a call any more: it has its answer, or it has crashed and its
connection is gone. -/
def hangUp (w : World) (i : ℕ) : World :=
  { w with
    gatewayCalls := w.gatewayCalls.filter (fun c => decide (c.task ≠ i))
    gatewayRefunds :=
      w.gatewayRefunds.map (fun r => if r.call = some i then { r with call := none } else r)
        (fun r => by split <;> rfl) }

/-- What `findRefunds` reports when the gateway lists these refunds. -/
def listedRefunds (w : World) (gatewayPaymentId : ObjectId) (ids : List ObjectId) :
    List GatewayRefund :=
  w.gatewayRefunds.rows.filter
    (fun r => decide (r.gatewayPaymentId = gatewayPaymentId ∧ r.id ∈ ids))

/-- The gateway accepts a refund that task `i` asks for. -/
def acceptRefund (w : World) (i : ℕ) (gatewayPaymentId : ObjectId) (allocation : Allocation)
    (status : GatewayRefundStatus) : GatewayRefund × World :=
  let refund : GatewayRefund :=
    { id := w.gatewayRefunds.freshKey
      allocationId := allocation.id
      gatewayPaymentId := gatewayPaymentId
      amount := roundCurrency (fromPaise allocation.amount)
      status := status
      call := some i }
  (refund, { w.advanceCall i .accepted with gatewayRefunds := w.gatewayRefunds.insert refund })

def settleRefund (w : World) (id : ObjectId) (status : GatewayRefundStatus) : World :=
  { w with
    gatewayRefunds :=
      w.gatewayRefunds.map
        (fun r => if r.id = id ∧ r.status = .processing then { r with status := status } else r)
        (fun r => by split <;> rfl) }

end World

end DiscountBazar.Cancellation
