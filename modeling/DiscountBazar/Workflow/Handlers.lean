/-
The steps of the order workflow (`orderWorkflowService.js`, `orderCancellationService.js`,
`orderController.js`, `paymentService.js`, `orderAutoCancelJob.js`), as programs over their calls
to the database.

Any number of clients run any number of them on one order. Stock, money, records of
cancellations, jobs and notifications that follow a step do not touch the fields seen here, and
are left out.
-/
import DiscountBazar.Workflow.Updates

namespace DiscountBazar.Workflow

open Finance Cancellation Tasks Returns
open Prog (perform)

/-! ## The shared state -/

/-- `OrderOtp` of type `delivery`. -/
structure HandoffOtp where
  codeHash : String
  expiresAt : Date
  consumedAt : Option Date := none
  attempts : ℕ := 0
  maxAttempts : ℕ := 3

/-- The order, and its OTPs in the order they were made. -/
structure OrderDesk where
  order : WorkflowOrder
  otps : List HandoffOtp := []

/-! ## Database calls -/

inductive Kind where
  | findOrder
  | findOneAndUpdate (update : Update)
  /-- the seller's location is configured -/
  | findSeller
  | findPolicy
  /-- the status of the order's cancellation record -/
  | findRecord
  /-- an acceptance with this key is in the cache -/
  | findAccepted
  | assertRiderCanTakeOrder
  | findOtp
  | countAttempt (index : ℕ)
  | consumeOtp (index : ℕ) (now : Date)
  /-- the transaction of `settleDeliveredOrder` -/
  | settle (env : Env) (now : Date)
  /-- `order.save()` of `updateOrderStatus` -/
  | saveOrder (loaded edited : WorkflowOrder)
  /-- the transaction of `handleOnlineOrderFinance` -/
  | capture
  /-- the transaction that cancels an order whose payment failed -/
  | cancelUnpaid (reason : String)
  /-- `reconcileOrderPaymentStatus`: the gateway knows of no capture -/
  | reconcile

@[reducible] def Kind.Reply : Kind → Type
  | .findOrder => WorkflowOrder
  | .findOneAndUpdate _ => Option WorkflowOrder
  | .findSeller | .findAccepted | .reconcile => Bool
  | .findPolicy => CustomerPolicy
  | .findRecord => Option CancellationStatus
  | .findOtp => Option (ℕ × HandoffOtp)
  | .consumeOtp _ _ => Bool
  | _ => Unit

structure Choice where
  outcome : Tasks.Outcome ServiceError := .done
  found : Bool := true
  policy : CustomerPolicy := {}
  record : Option CancellationStatus := none

/-- The fields of a document a save has changed are written, the others stay as they are. -/
def saved (loaded edited current : WorkflowOrder) : WorkflowOrder :=
  { current with
    status := written loaded.status edited.status current.status
    orderStatus := written loaded.orderStatus edited.orderStatus current.orderStatus
    workflowStatus := written loaded.workflowStatus edited.workflowStatus current.workflowStatus
    deliveryBoy := written loaded.deliveryBoy edited.deliveryBoy current.deliveryBoy
    assignmentVersion :=
      written loaded.assignmentVersion edited.assignmentVersion current.assignmentVersion
    assignedAt := written loaded.assignedAt edited.assignedAt current.assignedAt
    deliveryRiderStep :=
      written loaded.deliveryRiderStep edited.deliveryRiderStep current.deliveryRiderStep
    deliveredAt := written loaded.deliveredAt edited.deliveredAt current.deliveredAt }

/-- `settleDeliveredOrder`, the order's part of it. -/
def settled (env : Env) (now : Date) (order : WorkflowOrder) :
    Except ServiceError Unit × WorkflowOrder :=
  if order.status = .cancelled ∨ order.workflowStatus = some .cancelled then
    (.error ⟨"A cancelled order cannot be marked delivered", some 409⟩, order)
  else
    let delivered := markDelivered env now order.toOrder
    if delivered.paymentMode = .online ∧ delivered.financeFlags.onlinePaymentCaptured = false then
      (.error ⟨"Cannot settle delivered online order before payment capture", none⟩, order)
    else if delivered.financeFlags.deliveredSettlementApplied then (.ok (), order)
    else
      let financeFlags := { delivered.financeFlags with deliveredSettlementApplied := true }
      (.ok (), { order with toOrder := { delivered with financeFlags } })

/-- `handleOnlineOrderFinance`, the order's part of it. -/
def captured (order : WorkflowOrder) : WorkflowOrder :=
  if order.financeFlags.onlinePaymentCaptured then order
  else
    { order with
      paymentMode := .online
      paymentStatus := .paid
      financeFlags := { order.financeFlags with onlinePaymentCaptured := true } }

def paymentFailed (reason : String) (order : WorkflowOrder) : WorkflowOrder :=
  if order.workflowStatus = some .created ∧ order.status ≠ .cancelled then
    { order.withStatus .cancelled with
      cancelledBy := some .system
      cancelReason := some reason
      paymentStatus := .failed
      stockReservationReleased := true }
  else order

def effect (c : Choice) : (kind : Kind) → OrderDesk → Except ServiceError kind.Reply × OrderDesk
  | .findOrder, s => (.ok s.order, s)
  | .findOneAndUpdate update, s =>
    match update.apply s.order with
    | some order => (.ok (some order), { s with order })
    | none => (.ok none, s)
  | .findSeller, s => (.ok c.found, s)
  | .findPolicy, s => (.ok c.policy, s)
  | .findRecord, s => (.ok c.record, s)
  | .findAccepted, s => (.ok c.found, s)
  | .assertRiderCanTakeOrder, s => (.ok (), s)
  | .findOtp, s => (.ok (s.otps.getLast?.map (fun otp => (s.otps.length - 1, otp))), s)
  | .countAttempt index, s =>
    (.ok (), { s with otps := s.otps.modify index (fun otp =>
      if otp.consumedAt = none ∧ otp.attempts < otp.maxAttempts then
        { otp with attempts := otp.attempts + 1 } else otp) })
  | .consumeOtp index now, s =>
    if s.otps[index]?.any (fun otp => otp.consumedAt.isNone) then
      (.ok true,
        { s with otps := s.otps.modify index (fun otp => { otp with consumedAt := some now }) })
    else (.ok false, s)
  | .settle env now, s =>
    let (answer, order) := settled env now s.order
    (answer, { s with order })
  | .saveOrder loaded edited, s => (.ok (), { s with order := saved loaded edited s.order })
  | .capture, s => (.ok (), { s with order := captured s.order })
  | .cancelUnpaid reason, s => (.ok (), { s with order := paymentFailed reason s.order })
  | .reconcile, s => (.ok c.found, s)

theorem effect_update (c : Choice) (update : Update) (s : OrderDesk) :
    effect c (.findOneAndUpdate update) s
      = if update.filter s.order = true then
          (.ok (some (update.set s.order)), { s with order := update.set s.order })
        else (.ok none, s) := by
  unfold effect Update.apply
  dsimp only
  split
  · simp_all
  · simp_all

def performOp (_ : ℕ) (kind : Kind) (c : Choice) (s : OrderDesk) :
    Option (Except ServiceError kind.Reply × OrderDesk) :=
  some (c.outcome.perform (effect c kind s) s)

/-- A call that is refused changes nothing; one that is not leaves its effect. -/
theorem performOp_eq_some {i : ℕ} {kind : Kind} {c : Choice} {s s' : OrderDesk}
    {r : Except ServiceError kind.Reply} (h : performOp i kind c s = some (r, s')) :
    ((∃ e, r = .error e) ∧ s' = s) ∨
      (c.outcome.takesEffect = true ∧ s' = (effect c kind s).2 ∧
        (r = (effect c kind s).1 ∨ ∃ e, r = .error e)) :=
  Outcome.perform_eq (Option.some.inj h)

theorem performOp_takesEffect {kind : Kind} {c : Choice} {s : OrderDesk}
    (h : c.outcome.takesEffect = true) (i : ℕ) :
    ∃ r, performOp i kind c s = some (r, (effect c kind s).2) :=
  ⟨_, congrArg some (Prod.ext rfl (Outcome.perform_takesEffect h))⟩

/-! ## Steps -/

abbrev M := Prog Kind Kind.Reply ServiceError

def updateOr (update : Update) (e : ServiceError) : M Unit := do
  match ← perform (Kind.findOneAndUpdate update) with
  | some _ => pure ()
  | none => .throw e

def sellerAcceptAtomic (timeouts : Timeouts) (sellerId : ObjectId) (now : Date) : M Unit :=
  updateOr (.sellerAccept sellerId now timeouts.deliveryMs)
    ⟨"Order not available for acceptance or expired", some 409⟩

def sellerRejectAtomic (sellerId : ObjectId) (now : Date) : M Unit :=
  updateOr (.sellerReject sellerId now) ⟨"Order not available to reject", some 409⟩

def acceptanceRefused (order : WorkflowOrder) (deliveryId : ObjectId) : M Unit :=
  match order.deliveryBoy with
  | some riderId =>
    if riderId = deliveryId then pure ()
    else .throw ⟨"Another rider already accepted this order.", some 409⟩
  | none =>
    if order.status = .cancelled ∨ order.workflowStatus = some .cancelled then
      .throw ⟨"This order was cancelled.", some 409⟩
    else if deliveryId ∈ order.skippedBy then
      .throw ⟨"You rejected this order earlier, so it cannot be accepted now.", some 409⟩
    else if isV2 order ∧
        order.workflowStatus ∈ [some WorkflowStatus.created, some .sellerPending, some .sellerAccepted] then
      .throw ⟨"The store has not confirmed this order yet.", some 409⟩
    else .throw ⟨"Order already assigned or not available", some 409⟩

/-- `deliveryAcceptAtomic`; `idempotent` says that the request carries a key. -/
def deliveryAcceptAtomic (deliveryId : ObjectId) (idempotent : Bool) (now : Date) : M Unit := do
  let cached : M Bool := if idempotent then perform Kind.findAccepted else pure false
  let duplicate ← cached
  if duplicate then pure ()
  else do
    perform Kind.assertRiderCanTakeOrder
    match ← perform (Kind.findOneAndUpdate (.deliveryAccept deliveryId now)) with
    | some _ => pure ()
    | none => do
        let order ← perform Kind.findOrder
        acceptanceRefused order deliveryId

def processSellerTimeoutJob (now : Date) : M Unit := do
  let order ← perform Kind.findOrder
  if isV2 order = false ∨ order.workflowStatus ≠ some .sellerPending then pure ()
  else if order.sellerPendingExpiresAt.any (fun t => decide (now < t)) then pure ()
  else (perform (Kind.findOneAndUpdate .sellerTimeout)).discard

def processDeliveryTimeoutJob (timeouts : Timeouts) (attempt : ℕ) (now : Date) : M Unit := do
  let order ← perform Kind.findOrder
  if isV2 order = false ∨ order.workflowStatus ≠ some .deliverySearch then pure ()
  else if order.deliverySearchExpiresAt.any (fun t => decide (now < t)) then pure ()
  else
    let currentAttempt := order.deliverySearchAttempt.getD attempt
    if currentAttempt < timeouts.maxAttempts then
      (perform (Kind.findOneAndUpdate
        (.extendSearch (now + timeouts.deliveryMs) (currentAttempt + 1)))).discard
    else (perform (Kind.findOneAndUpdate .deliveryTimeout)).discard

def isWith (order : WorkflowOrder) (deliveryId : ObjectId) : Bool :=
  decide (order.deliveryBoy = some deliveryId)

def markArrivedAtStoreAtomic (deliveryId : ObjectId) (now : Date) : M Unit := do
  let order ← perform Kind.findOrder
  if isWith order deliveryId = false ∨ isV2 order = false then
    .throw ⟨"Order not found or invalid delivery partner", some 404⟩
  else if order.workflowStatus ≠ some .deliveryAssigned then
    .throw ⟨if order.workflowStatus = some .pickupReady then "Already arrived at store"
      else "Invalid state for arrival at store", some 409⟩
  else do
    let located ← perform Kind.findSeller
    if located = false then .throw ⟨"Seller location not configured", some 400⟩
    else updateOr (.arrivedAtStore deliveryId now) ⟨"Could not mark arrived at store", some 409⟩

def confirmPickupAtomic (deliveryId : ObjectId) (now : Date) : M Unit := do
  let order ← perform Kind.findOrder
  let mine := isWith order deliveryId && isV2 order
  -- a retry after a lost answer
  if mine = true ∧ order.pickupConfirmedAt.isSome = true ∧
      order.workflowStatus ∈ [some WorkflowStatus.outForDelivery, some .delivered] then pure ()
  else if mine = false ∨
      order.workflowStatus ∉ [some WorkflowStatus.deliveryAssigned, some .pickupReady] then
    .throw ⟨"Invalid state for pickup confirmation", some 409⟩
  else do
    let located ← perform Kind.findSeller
    if located = false then .throw ⟨"Seller location not configured", some 400⟩
    else updateOr (.confirmPickup deliveryId now) ⟨"Pickup confirm failed", some 409⟩

/-- The OTP part of `verifyHandoffOtpAndDeliver`: one code completes one hand-over. -/
def checkHandoffOtp (hashCode : String → String) (code : String) (now : Date) : M Unit := do
  match ← perform Kind.findOtp with
  | none => .throw ⟨"No OTP has been generated for this order yet", some 404⟩
  | some (index, otp) =>
    if otp.consumedAt.isSome then
      .throw ⟨"OTP has already been used. Please generate a new OTP.", some 409⟩
    else if otp.maxAttempts ≤ otp.attempts then
      .throw ⟨"Maximum validation attempts exceeded. Supervisor intervention required.", some 423⟩
    else if otp.expiresAt < now then
      .throw ⟨"OTP has expired. Please generate a new OTP.", some 401⟩
    else if hashCode code ≠ otp.codeHash then do
      perform (Kind.countAttempt index)
      .throw ⟨"Invalid OTP. Please try again.", some 403⟩
    else do
      let consumed ← perform (Kind.consumeOtp index now)
      if consumed then pure ()
      else .throw ⟨"OTP has already been used. Please generate a new OTP.", some 409⟩

/-- `verifyHandoffOtpAndDeliver`, for a code of four digits. -/
def verifyHandoffOtpAndDeliver (hashCode : String → String) (env : Env) (deliveryId : ObjectId)
    (code : String) (now : Date) : M Unit := do
  let order ← perform Kind.findOrder
  if isWith order deliveryId = false then
    .throw ⟨"Order not found or not assigned to you", some 404⟩
  else if order.otpValidatedAt.isSome ∧ order.status = .delivered then pure ()
  else
    let isV2Out := decide (order.workflowStatus = some .outForDelivery)
    let isV1Out := !isV2 order && decide (order.status = .outForDelivery)
    if isV2Out = false ∧ isV1Out = false then
      .throw ⟨"Invalid state for delivery completion", some 409⟩
    else do
      checkHandoffOtp hashCode code now
      updateOr (.deliver deliveryId isV2Out now) ⟨"Could not finalize delivery", some 409⟩
      -- a failed settlement is only a warning
      (perform (Kind.settle env now)).tryCatch (fun _ => pure ())

/-! ### Cancellation -/

/-- `ORDER_CANCELLED_STATUSES`. -/
def orderCancelled (record : CancellationStatus) : Bool :=
  decide (record = .approved ∨ record = .cancelled)

/-- `executeDirectCancellation`, on an order that was read as `order`. -/
def executeDirectCancellation (order : WorkflowOrder) (policy : CustomerPolicy)
    (ignorePolicy : Bool) (customer : Option ObjectId) (cancelledBy : CancelledBy) (reason : String)
    (now : Date) : M Unit :=
  let clauses := selfCancelStateClauses order.toOrderDocument policy ignorePolicy
  if isPrePickupStage (resolveCancellationStage order.toOrderDocument) = false ∨ clauses = [] then
    .throw ⟨"This order can no longer be cancelled at its current stage", some 409⟩
  else do
    match ← perform (Kind.findOneAndUpdate
        (.cancelDirectly order.workflowVersion customer clauses cancelledBy reason now)) with
    | some _ => pure ()
    | none => do
        let fresh ← perform Kind.findOrder
        let existing ← perform Kind.findRecord
        if fresh.status = .cancelled ∧ existing.any orderCancelled = true then pure ()
        else
          let eligibility := evaluateCancellationEligibility fresh.toOrderDocument policy existing
          .throw ⟨if eligibility.action = .request then
              "Your order has just been picked up, so it can no longer be cancelled directly. " ++
                "You can request a cancellation instead."
            else "The order status changed while you were cancelling. Please review the latest " ++
              "status.", some 409⟩

/-- `approvePostPickupCancellation`, on an order that was read as `order`. -/
def approvePostPickupCancellation (order : WorkflowOrder) (isRequest : Bool) (reason : String)
    (now : Date) : M Unit :=
  updateOr (.cancelAfterPickup order.workflowVersion (if isRequest then .customer else .admin) reason
    now) ⟨"The order status changed. Please refresh and try again.", some 409⟩

/-- `submitCustomerCancellation` in the mode that cancels. -/
def submitCustomerCancellation (customerId : ObjectId) (reason : String) (now : Date) : M Unit := do
  let order ← perform Kind.findOrder
  if order.customer ≠ customerId then .throw ⟨"Order not found", some 404⟩
  else do
    let policy ← perform Kind.findPolicy
    let existing ← perform Kind.findRecord
    let eligibility := evaluateCancellationEligibility order.toOrderDocument policy existing
    if existing.any (fun record => orderCancelled record || record.isOpen) = true then pure ()
    else if eligibility.canSelfCancel = false then .throw ⟨eligibility.message, some 409⟩
    else executeDirectCancellation order policy false (some customerId) .customer reason now

def approveCancellationRequest (reason : String) (now : Date) : M Unit := do
  let record ← perform Kind.findRecord
  if record.any CancellationStatus.isOpen = false then
    .throw ⟨"This request was already decided or withdrawn", some 409⟩
  else do
    let order ← perform Kind.findOrder
    let stage := resolveCancellationStage order.toOrderDocument
    if stage = .delivered then
      .throw ⟨"The order has already been delivered, so it cannot be cancelled normally. It was " ++
        "moved to the returns & disputes workflow.", some 409⟩
    else if stage = .cancelled then .throw ⟨"The order is already cancelled", some 409⟩
    else approvePostPickupCancellation order true reason now

/-- `adminCancelOrder`; `reason` is trimmed. -/
def adminCancelOrder (reason : String) (now : Date) : M Unit :=
  if reason.length < 3 then .throw ⟨"A reason is required for manual cancellation", some 400⟩
  else do
    let order ← perform Kind.findOrder
    let policy ← perform Kind.findPolicy
    let record ← perform Kind.findRecord
    let stage := resolveCancellationStage order.toOrderDocument
    if stage = .cancelled then .throw ⟨"This order is already cancelled", some 409⟩
    else if stage = .delivered then
      .throw ⟨"Delivered orders cannot be cancelled. Use the return, refund or dispute workflow " ++
        "instead.", some 409⟩
    else if stage = .notApplicable then .throw ⟨"This order cannot be cancelled from here", some 409⟩
    else if stage = .pickedUp then
      approvePostPickupCancellation order (record.any CancellationStatus.isOpen) reason now
    else executeDirectCancellation order policy true none .admin reason now

/-! ### Other writers -/

def sellerMarkReady (now : Date) : M Unit := do
  let order ← perform Kind.findOrder
  if order.sellerReadyAt.isSome then pure ()
  else
    let ws := orderWorkflowStatus order.toOrderDocument
    if ws ∉ sellerReadyAllowed then
      .throw ⟨if ws = .cancelled then "This order was cancelled"
        else if ws = .sellerPending ∨ ws = .created then "Accept the order before marking it ready"
        else "This order has already been picked up", some 409⟩
    else do
      match ← perform (Kind.findOneAndUpdate (.markReady now)) with
      | some _ => pure ()
      | none => do
          let fresh ← perform Kind.findOrder
          if fresh.sellerReadyAt.isSome then pure ()
          else .throw ⟨"Order status changed — please refresh", some 409⟩

/-- `STATUS_RANK`. -/
def sellerRank : LegacyStatus → ℕ
  | .confirmed => 1
  | .packed => 2
  | .cancelled => 5
  | _ => 0

/-- The strict part of `updateOrderStatus` for sellers. -/
def sellerRefusal (current target : LegacyStatus) : Option ServiceError :=
  if target = .outForDelivery ∨ target = .delivered then
    some ⟨"Sellers cannot mark orders as Out for Delivery or Delivered. These steps are handled " ++
      "exclusively by the delivery partner upon OTP verification.", some 403⟩
  else if current ∈ [.packed, .outForDelivery, .delivered, .cancelled] then
    some ⟨"Cannot change status of an order that is already " ++ legacyName current ++ ".", some 400⟩
  else if sellerRank target < sellerRank current ∧ target ≠ .cancelled then
    some ⟨"Order status cannot be reverted to a previous stage.", some 400⟩
  else none

/-- The order `updateOrderStatus` saves. -/
def withUpdate (order : WorkflowOrder) (status : Option LegacyStatus)
    (deliveryBoyId : Option ObjectId) (now : Date) : WorkflowOrder :=
  let order :=
    match status with
    | none => order
    | some status =>
      { order with
        status
        orderStatus := status
        workflowStatus :=
          if isV2 order then some (workflowFromLegacyStatus status) else order.workflowStatus
        deliveredAt :=
          if status = .delivered ∧ order.status ≠ .delivered then some now else order.deliveredAt }
  match deliveryBoyId with
  | none => order
  | some riderId =>
    if order.deliveryBoy = some riderId then order
    else
      { order with
        deliveryBoy := some riderId
        assignmentVersion := order.assignmentVersion + 1
        assignedAt := some now }

/-- The part of `updateOrderStatus` that saves the document; on an order of the newer workflow a
cancellation does not come here. -/
def saveStatus (env : Env) (user : User) (order : WorkflowOrder) (status : Option LegacyStatus)
    (deliveryBoyId : Option ObjectId) (now : Date) : M Unit :=
  let isOwnerSeller := decide (user.role = .seller ∧ order.seller = some user.id)
  let isAssignedDeliveryBoy := decide (user.role = .delivery ∧ order.deliveryBoy = some user.id)
  let isAdmin := decide (user.role = .admin)
  let refusal := if user.role = .seller then status.bind (sellerRefusal order.status) else none
  if isOwnerSeller = false ∧ isAssignedDeliveryBoy = false ∧ isAdmin = false then
    .throw ⟨"Access denied. You are not authorized to update this order.", some 403⟩
  else
    match refusal with
    | some e => .throw e
    | none =>
      if deliveryBoyId.isSome ∧ isAdmin = false then
        .throw ⟨"Only operations can assign or reassign a delivery partner.", some 403⟩
      else do
        perform (Kind.saveOrder order (withUpdate order status deliveryBoyId now))
        if status = some .delivered ∧ order.status ≠ .delivered then
          perform (Kind.settle env now)
        else pure ()

/-- `updateOrderStatus` on an order of the newer workflow. A seller who cancels an older one is left
out. -/
def updateOrderStatus (env : Env) (timeouts : Timeouts) (user : User) (status : Option LegacyStatus)
    (deliveryBoyId : Option ObjectId) (reason : String) (now : Date) : M Unit := do
  let order ← perform Kind.findOrder
  if status.isSome ∧ (order.status = .cancelled ∨ order.workflowStatus = some .cancelled) then
    .throw ⟨"This order is cancelled and can no longer be changed.", some 409⟩
  else if status = some .cancelled ∧ user.role = .delivery then
    .throw ⟨"Delivery partners cannot cancel orders.", some 403⟩
  else if status = some .cancelled ∧ user.role = .admin then adminCancelOrder reason now
  else if isV2 order = true ∧ user.role = .seller ∧ order.seller ≠ some user.id then
    .throw ⟨"Access denied. You are not authorized to update this order.", some 403⟩
  else if isV2 order = true ∧ user.role = .seller ∧ status = some .confirmed then
    (sellerAcceptAtomic timeouts user.id now).tryCatch (fun e => do
      let fresh ← perform Kind.findOrder
      if fresh.status = .cancelled ∨ fresh.workflowStatus = some .cancelled then
        .throw ⟨"This order was cancelled by the customer.", some 409⟩
      else if fresh.workflowStatus ∉ [some WorkflowStatus.sellerPending, some .created, none] then pure ()
      else .throw e)
  else if isV2 order = true ∧ user.role = .seller ∧ status = some .packed then do
    sellerMarkReady now
    (perform (Kind.findOneAndUpdate .markPacked)).discard
  else if isV2 order = true ∧ user.role = .seller ∧ status = some .cancelled then
    sellerRejectAtomic user.id now
  else if status = some .cancelled then
    .throw ⟨"Access denied. You are not authorized to update this order.", some 403⟩
  else saveStatus env user order status deliveryBoyId now

def markOrderDeliveredAndSettle (env : Env) (user : User) (now : Date) : M Unit := do
  let order ← perform Kind.findOrder
  if user.role = .delivery ∧ order.deliveryBoy ≠ some user.id then
    .throw ⟨"Only assigned delivery partner can mark this order delivered", some 403⟩
  else if user.role = .delivery ∧ ¬ (order.status = .delivered ∧ order.otpValidatedAt.isSome) then
    .throw ⟨"Confirm the delivery with the customer's OTP first", some 409⟩
  else if user.role = .seller ∧ order.seller.any (fun id => decide (id ≠ user.id)) then
    .throw ⟨"Only order seller can mark this order delivered", some 403⟩
  else perform (Kind.settle env now)

/-- A capture, as it comes to the order: `handleOnlineOrderFinance`, then on to the seller. -/
def paymentCaptured (timeouts : Timeouts) (now : Date) : M Unit := do
  let order ← perform Kind.findOrder
  perform Kind.capture
  if order.status = .cancelled ∨ order.workflowStatus = some .cancelled then pure ()
  else (perform (Kind.findOneAndUpdate (.sellerPending (now + timeouts.sellerMs)))).discard

def sweepUnpaid (now : Date) : M Unit := do
  let order ← perform Kind.findOrder
  if isV2 order = true ∧ order.workflowStatus = some .created ∧ order.paymentMode = .online ∧
      order.paymentStatus ≠ .paid ∧ order.stockReservationReleased = false ∧
      order.stockReservationExpiresAt.any (fun t => decide (t ≤ now)) = true then do
    let unpaid ← perform Kind.reconcile
    if unpaid then (perform (Kind.findOneAndUpdate .paymentTimeout)).discard else pure ()
  else pure ()

/-! ## The systems -/

/-- One of the atomic steps, with who takes it and when. -/
inductive Step where
  | sellerAccept (sellerId : ObjectId)
  | sellerReject (sellerId : ObjectId)
  | sellerTimeout
  | deliveryTimeout (attempt : ℕ)
  | deliveryAccept (deliveryId : ObjectId) (idempotent : Bool)
  | arrivedAtStore (deliveryId : ObjectId)
  | confirmPickup (deliveryId : ObjectId)
  | verifyHandoff (deliveryId : ObjectId) (code : String)
  | customerCancel (customerId : ObjectId) (reason : String)
  | approveRequest (reason : String)
  | adminCancel (reason : String)

def takeStep (hashCode : String → String) (env : Env) (timeouts : Timeouts) (now : Date) :
    Step → M Unit
  | .sellerAccept sellerId => sellerAcceptAtomic timeouts sellerId now
  | .sellerReject sellerId => sellerRejectAtomic sellerId now
  | .sellerTimeout => processSellerTimeoutJob now
  | .deliveryTimeout attempt => processDeliveryTimeoutJob timeouts attempt now
  | .deliveryAccept deliveryId idempotent => deliveryAcceptAtomic deliveryId idempotent now
  | .arrivedAtStore deliveryId => markArrivedAtStoreAtomic deliveryId now
  | .confirmPickup deliveryId => confirmPickupAtomic deliveryId now
  | .verifyHandoff deliveryId code => verifyHandoffOtpAndDeliver hashCode env deliveryId code now
  | .customerCancel customerId reason => submitCustomerCancellation customerId reason now
  | .approveRequest reason => approveCancellationRequest reason now
  | .adminCancel reason => adminCancelOrder reason now

/-- What else happens to the order: an OTP is sent, a payment is captured, the parcel is ready, a
rider does not want it. -/
inductive Event where
  | otpSent (codeHash : String) (expiresAt now : Date)
  | captured
  | ready (now : Date)
  | skipped (deliveryId : ObjectId)

def happens : Event → OrderDesk → OrderDesk
  | .otpSent codeHash expiresAt now, s =>
    { s with otps := s.otps.map (fun otp =>
        if otp.consumedAt.isNone then { otp with consumedAt := some now } else otp) ++
      [{ codeHash, expiresAt }] }
  | .captured, s => { s with order := captured s.order }
  | .ready now, s => { s with order := { s.order with sellerReadyAt := some now } }
  | .skipped deliveryId, s =>
    { s with order := { s.order with skippedBy := s.order.skippedBy ++ [deliveryId] } }

section Systems

variable (hashCode : String → String) (env : Env) (timeouts : Timeouts)

/-- The atomic steps on one order, by any number of clients. -/
def stepSystem : System Kind Kind.Reply ServiceError OrderDesk Choice Event (Step × Date) where
  perform := performOp
  outside := fun event s => some (happens event s)
  entry := fun (step, now) => takeStep hashCode env timeouts now step
  mayStart := fun _ _ => true

inductive Request where
  | step (step : Step)
  | updateOrderStatus (user : User) (status : Option LegacyStatus) (deliveryBoyId : Option ObjectId)
      (reason : String)
  | markDelivered (user : User)
  | paymentCaptured
  | paymentFailed (reason : String)
  | sweepUnpaid

def handleRequest (now : Date) : Request → M Unit
  | .step step => takeStep hashCode env timeouts now step
  | .updateOrderStatus user status deliveryBoyId reason =>
    updateOrderStatus env timeouts user status deliveryBoyId reason now
  | .markDelivered user => markOrderDeliveredAndSettle env user now
  | .paymentCaptured => paymentCaptured timeouts now
  | .paymentFailed reason => perform (Kind.cancelUnpaid reason)
  | .sweepUnpaid => sweepUnpaid now

def workflowSystem : System Kind Kind.Reply ServiceError OrderDesk Choice Event (Request × Date) where
  perform := performOp
  outside := fun event s => some (happens event s)
  entry := fun (request, now) => handleRequest hashCode env timeouts now request
  mayStart := fun _ _ => true

end Systems

/-- An order as it is placed: of the newer workflow, waiting for its payment or its seller. -/
structure Placed (order : WorkflowOrder) : Prop where
  v2 : 2 ≤ order.workflowVersion
  workflow : order.workflowStatus = some .created ∨ order.workflowStatus = some .sellerPending
  status : order.status = .pending
  rider : order.deliveryBoy = none
  pickup : order.pickupConfirmedAt = none
  delivered : order.deliveredAt = none
  validated : order.otpValidatedAt = none

end DiscountBazar.Workflow
