/-
The handlers of payment outcomes (`paymentService.js`), as programs over their calls to the
database and the gateway.

Notifications are left out but for the one that announces a cancellation. The refunds belong to
the cancellation service: what it does with a cancelled order, with a payment that was captured
too late, or with an update of a refund, is a parameter, and nothing is assumed of it.
-/
import DiscountBazar.Payments.Attempts
import DiscountBazar.Cancellation.RefundRecord

namespace DiscountBazar.Payments

open Finance Tasks Workflow
open Prog (perform)
open Cancellation (GatewayRefundStatus PaymentOutcome)

/-! ## The shared state -/

/-- The calls to the cancellation service, on the refunds it keeps for each order: the first two
are about one order, the last looks for the refund first. -/
structure RefundService (ρ : Type) where
  onLatePaymentCapture : Option CheckoutOrder → ρ → ρ
  recordExternalCancellation : String → Option CheckoutOrder → ρ → ρ
  handleGatewayRefundUpdate : ObjectId → GatewayRefundStatus → (ObjectId → ρ) → ObjectId → ρ

/-- The documents of the payment service; `credits` are the captures on the platform's wallet,
`announced` the orders whose cancellation was announced. -/
structure PaymentDesk (ρ : Type) where
  refunds : ObjectId → ρ
  payments : List Payment := []
  orders : List CheckoutOrder := []
  groups : List CheckoutGroup := []
  events : List String := []
  credits : List (ObjectId × ℤ) := []
  announced : List ObjectId := []

variable {ρ : Type}

namespace PaymentDesk

def order? (s : PaymentDesk ρ) (orderId : ObjectId) : Option CheckoutOrder :=
  s.orders.find? (fun order => decide (order.id = orderId))

def updateOrder (s : PaymentDesk ρ) (orderId : ObjectId) (f : CheckoutOrder → CheckoutOrder) :
    PaymentDesk ρ :=
  { s with orders := s.orders.map (fun order => if order.id = orderId then f order else order) }

def updateOrders (s : PaymentDesk ρ) (orderIds : List ObjectId) (f : CheckoutOrder → CheckoutOrder) :
    PaymentDesk ρ :=
  { s with orders := s.orders.map (fun order => if order.id ∈ orderIds then f order else order) }

/-- A call to the cancellation service about one order. -/
def updateRefunds (s : PaymentDesk ρ) (orderId : ObjectId) (f : Option CheckoutOrder → ρ → ρ) :
    PaymentDesk ρ :=
  { s with refunds := Function.update s.refunds orderId (f (s.order? orderId) (s.refunds orderId)) }

/-- `handleOnlineOrderFinance`, the order's and the platform's part of it. -/
def captureOrder (s : PaymentDesk ρ) (orderId : ObjectId) :
    Except ServiceError Unit × PaymentDesk ρ :=
  match s.order? orderId with
  | none => (.error ⟨"Order not found", none⟩, s)
  | some order =>
    if order.financeFlags.onlinePaymentCaptured then (.ok (), s)
    else if captureAmount order.toOrder ≤ 0 then
      (.error ⟨"Amount must be greater than zero", none⟩, s)
    else
      (.ok (),
        { s.updateOrder orderId CheckoutOrder.capture with
          credits := s.credits ++ [(orderId, captureAmount order.toOrder)] })

/-- `getRelatedOrdersForPayment`. -/
def relatedOrders (s : PaymentDesk ρ) (payment : Payment) : List CheckoutOrder :=
  if payment.orderIds ≠ [] then
    s.orders.filter (fun order => decide (order.id ∈ payment.orderIds))
  else
    match payment.checkoutGroupId with
    | some checkoutGroupId =>
      s.orders.filter (fun order => decide (order.checkoutGroupId = some checkoutGroupId))
    | none => (s.order? payment.order).toList

end PaymentDesk

/-! ## Calls -/

inductive PaymentClause where
  | gatewayOrderId (id : String)
  | razorpayOrderId (id : String)

def PaymentClause.matches (payment : Payment) : PaymentClause → Bool
  | .gatewayOrderId id => decide (payment.gatewayOrderId = id)
  | .razorpayOrderId id => decide (payment.razorpayOrderId = some id)

/-- What is paid: a checkout group, or an order that is in none. -/
inductive PaymentScope where
  | group (checkoutGroupId : String)
  | order (orderId : ObjectId)
  deriving DecidableEq

def PaymentScope.covers (payment : Payment) : PaymentScope → Bool
  | .group checkoutGroupId => decide (payment.checkoutGroupId = some checkoutGroupId)
  | .order orderId => decide (payment.order = orderId)

/-- What `resolvePaymentTarget` finds. -/
structure Target where
  checkoutGroupId : Option String
  primaryOrder : CheckoutOrder
  orders : List CheckoutOrder

def Target.scope (target : Target) : PaymentScope :=
  match target.checkoutGroupId with
  | some checkoutGroupId => .group checkoutGroupId
  | none => .order target.primaryOrder.id

/-- What the gateway answers to a new attempt. -/
structure InitResult where
  razorpayOrderId : Option String := none
  redirectUrl : Option String := none

inductive Kind where
  | findPayment (clauses : List PaymentClause)
  | findAttempts (orderId : ObjectId)
  | savePayment (index : ℕ) (loaded edited : Payment)
  /-- `PaymentWebhookEvent.create`: the answer says that there was none with this id -/
  | createEvent (eventId : String)
  | updateEvent (eventId : String)
  | findOrders (payment : Payment)
  | handleOnlineOrderFinance (orderId : ObjectId)
  | onLatePaymentCapture (orderId : ObjectId)
  | moveToSellerPending (orderId : ObjectId) (expiresAt : Date)
  | updateGroup (checkoutGroupId : String) (status : PaymentStatus)
  /-- the transaction that cancels the orders of a failed payment -/
  | cancelUnpaid (orderIds : List ObjectId) (reason : String)
  | setPaymentStatus (orderIds : List ObjectId) (status : OrderPaymentStatus)
  | recordExternalCancellation (orderId : ObjectId) (reason : String)
  | announceCancelled (orderId : ObjectId)
  | handleGatewayRefundUpdate (gatewayRefundId : ObjectId) (status : GatewayRefundStatus)
  | getPaymentStatus (payment : Payment)
  | findTarget (scope : PaymentScope)
  | findForKey (scope : PaymentScope) (idempotencyKey : String)
  | findOpenPayment (scope : PaymentScope)
  | countPayments (scope : PaymentScope)
  | initiatePayment (merchantOrderId : String) (amountPaise : ℤ)
  | createPayment (payment : Payment)

@[reducible] def Kind.Reply : Kind → Type
  | .findPayment _ => Option (ℕ × Payment)
  | .findAttempts _ => List (ℕ × Payment)
  | .createEvent _ => Bool
  | .findOrders _ => List CheckoutOrder
  | .getPaymentStatus _ => StatusResponse
  | .findTarget _ => Option Target
  | .findForKey _ _ | .findOpenPayment _ => Option Payment
  | .countPayments _ => ℕ
  | .initiatePayment _ _ => InitResult
  | _ => Unit

structure Choice where
  outcome : Tasks.Outcome ServiceError := .done
  response : StatusResponse := {}
  initResult : InitResult := {}

def attempts (s : PaymentDesk ρ) : List (ℕ × Payment) := s.payments.zipIdx.map Prod.swap

def effect (service : RefundService ρ) (c : Choice) :
    (kind : Kind) → PaymentDesk ρ → Except ServiceError kind.Reply × PaymentDesk ρ
  | .findPayment clauses, s =>
    (.ok ((attempts s).find? (fun attempt =>
      clauses.any (fun clause => clause.matches attempt.2))), s)
  | .findAttempts orderId, s =>
    (.ok ((attempts s).reverse.filter (fun attempt =>
      decide (attempt.2.order = orderId ∨ orderId ∈ attempt.2.orderIds))), s)
  | .savePayment index loaded edited, s =>
    (.ok (), { s with payments := s.payments.modify index (savedPayment loaded edited) })
  | .createEvent eventId, s =>
    if eventId ∈ s.events then (.ok false, s)
    else (.ok true, { s with events := s.events ++ [eventId] })
  | .updateEvent _, s => (.ok (), s)
  | .findOrders payment, s => (.ok (s.relatedOrders payment), s)
  | .handleOnlineOrderFinance orderId, s => s.captureOrder orderId
  | .onLatePaymentCapture orderId, s =>
    (.ok (), s.updateRefunds orderId service.onLatePaymentCapture)
  | .moveToSellerPending orderId expiresAt, s =>
    (.ok (), s.updateOrder orderId (fun order => order.moveToSellerPending expiresAt))
  | .updateGroup checkoutGroupId status, s =>
    (.ok (), { s with groups := s.groups.map (fun group =>
      if group.checkoutGroupId = checkoutGroupId then group.withPaymentStatus status else group) })
  | .cancelUnpaid orderIds reason, s =>
    (.ok (), s.updateOrders orderIds (fun order => order.paymentFailed reason))
  | .setPaymentStatus orderIds status, s =>
    (.ok (), s.updateOrders orderIds (fun order => order.withPaymentStatus status))
  | .recordExternalCancellation orderId reason, s =>
    (.ok (), s.updateRefunds orderId (service.recordExternalCancellation reason))
  | .announceCancelled orderId, s => (.ok (), { s with announced := s.announced ++ [orderId] })
  | .handleGatewayRefundUpdate gatewayRefundId status, s =>
    (.ok (),
      { s with refunds := service.handleGatewayRefundUpdate gatewayRefundId status s.refunds })
  | .getPaymentStatus _, s => (.ok c.response, s)
  | .findTarget scope, s =>
    match scope with
    | .group checkoutGroupId =>
      let orders := s.orders.filter (fun order =>
        decide (order.checkoutGroupId = some checkoutGroupId))
      (.ok (orders.head?.map (fun primaryOrder =>
        ⟨some checkoutGroupId, primaryOrder, orders⟩)), s)
    | .order orderId =>
      (.ok ((s.order? orderId).map (fun primaryOrder =>
        match primaryOrder.checkoutGroupId with
        | none => ⟨none, primaryOrder, [primaryOrder]⟩
        | some checkoutGroupId =>
          ⟨some checkoutGroupId, primaryOrder, s.orders.filter (fun order =>
            decide (order.checkoutGroupId = some checkoutGroupId))⟩)), s)
  | .findForKey scope idempotencyKey, s =>
    (.ok (s.payments.find? (fun payment =>
      scope.covers payment && decide (payment.idempotencyKey = some idempotencyKey))), s)
  | .findOpenPayment scope, s =>
    (.ok (s.payments.reverse.find? (fun payment =>
      scope.covers payment && decide (payment.status ∈ [PaymentStatus.created, .pending]))), s)
  | .countPayments scope, s => (.ok (s.payments.filter scope.covers).length, s)
  | .initiatePayment _ _, s => (.ok c.initResult, s)
  | .createPayment payment, s =>
    if s.payments.any (fun p => decide (p.gatewayOrderId = payment.gatewayOrderId)) then
      (.error ⟨"E11000 duplicate key error", none⟩, s)
    else (.ok (), { s with payments := s.payments ++ [payment] })

def performOp (service : RefundService ρ) (_ : ℕ) (kind : Kind) (c : Choice) (s : PaymentDesk ρ) :
    Option (Except ServiceError kind.Reply × PaymentDesk ρ) :=
  some (c.outcome.perform (effect service c kind s) s)

/-! ## Programs -/

abbrev M := Prog Kind Kind.Reply ServiceError

def transitionPaymentState (index : ℕ) (payment : Payment) (nextStatus : PaymentStatus)
    (source : PaymentEventSource) (reason : String) (gatewayPaymentId : Option String) : M Payment :=
  if canTransitionPaymentStatus payment.status nextStatus then do
    let edited := transitioned payment nextStatus source reason gatewayPaymentId
    perform (Kind.savePayment index payment edited)
    pure edited
  else
    .throw ⟨"Invalid payment transition " ++ statusName payment.status ++ " -> " ++
      statusName nextStatus, some 409⟩

def updateCheckoutGroupPaymentStatus (checkoutGroupId : Option String) (nextStatus : PaymentStatus) :
    M Unit :=
  match checkoutGroupId with
  | none => pure ()
  | some checkoutGroupId => perform (Kind.updateGroup checkoutGroupId nextStatus)

def captureOne (sellerPendingUntil : Date) (order : CheckoutOrder) : M Unit := do
  perform (Kind.handleOnlineOrderFinance order.id)
  -- money for an order that was cancelled already: it is refunded, the order stays cancelled
  if order.isCancelled then
    (perform (Kind.onLatePaymentCapture order.id)).tryCatch (fun _ => pure ())
  else perform (Kind.moveToSellerPending order.id sellerPendingUntil)

/-- `handleOrderSideEffectsFromPaymentStatus`. -/
def handleOrderSideEffects (sellerPendingUntil : Date) (payment : Payment)
    (nextStatus : PaymentStatus) (reason : String) : M Unit := do
  let orders ← perform (Kind.findOrders payment)
  let orderIds := orders.map (fun order => order.id)
  if orders.isEmpty then pure ()
  else
    match nextStatus with
    | .captured => do
        Prog.forEach (captureOne sellerPendingUntil) orders
        updateCheckoutGroupPaymentStatus payment.checkoutGroupId nextStatus
    | .failed | .cancelled => do
        let reason := if reason = "" then "Payment failed" else reason
        perform (Kind.cancelUnpaid orderIds reason)
        updateCheckoutGroupPaymentStatus payment.checkoutGroupId nextStatus
        -- what fails here is logged
        Prog.forEach (fun orderId => (perform
          (Kind.recordExternalCancellation orderId reason)).tryCatch (fun _ => pure ())) orderIds
        Prog.forEach (fun orderId => perform (Kind.announceCancelled orderId)) orderIds
    | .refunded => do
        perform (Kind.setPaymentStatus orderIds .refunded)
        updateCheckoutGroupPaymentStatus payment.checkoutGroupId nextStatus
    | _ => perform (Kind.setPaymentStatus orderIds (paymentStatusToOrderPaymentStatus nextStatus))

/-- `verifyPhonePePaymentStatus`; an administrator comes without a `userId`. -/
def verifyPhonePePaymentStatus (gateway : PaymentGateway) (merchantOrderId : String)
    (userId : Option ObjectId) (sellerPendingUntil : Date) : M Unit := do
  match ← perform (Kind.findPayment [.gatewayOrderId merchantOrderId]) with
  | none => .throw ⟨"Payment attempt not found", some 404⟩
  | some (index, payment) =>
    if userId.any (fun id => decide (payment.customer ≠ id)) then
      .throw ⟨"Not authorized to verify this payment", some 403⟩
    else do
      let response ← perform (Kind.getPaymentStatus payment)
      let nextStatus := mapStatusToInternal gateway response.state
      let payment ← transitionPaymentState index payment nextStatus .clientVerify
        (providerName gateway ++ " status check: " ++ response.state) response.transactionId
      handleOrderSideEffects sellerPendingUntil payment nextStatus
        (response.responseCode.getD response.state)
      perform (Kind.savePayment index payment payment)

/-- `verifyRazorpayPaymentSignature`; `isValid` is what the adapter says of the signature. -/
def verifyRazorpayPaymentSignature (gateway : PaymentGateway) (merchantOrderId : Option String)
    (razorpayOrderId razorpayPaymentId razorpaySignature : String) (isValid : Bool)
    (userId : Option ObjectId) (sellerPendingUntil : Date) : M Unit := do
  let clauses := (merchantOrderId.toList.map PaymentClause.gatewayOrderId) ++
    [.razorpayOrderId razorpayOrderId, .gatewayOrderId razorpayOrderId]
  if razorpayOrderId = "" ∨ razorpayPaymentId = "" ∨ razorpaySignature = "" then
    .throw ⟨"razorpay_order_id, razorpay_payment_id, and razorpay_signature are required", some 400⟩
  else do
    match ← perform (Kind.findPayment clauses) with
    | none => .throw ⟨"Payment attempt not found", some 404⟩
    | some (index, payment) =>
      if userId.any (fun id => decide (payment.customer ≠ id)) then
        .throw ⟨"Not authorized to verify this payment", some 403⟩
      else if payment.razorpayOrderId.getD payment.gatewayOrderId ≠ razorpayOrderId then
        .throw ⟨"Payment details do not match this order", some 400⟩
      else if gateway ≠ .razorpay then
        .throw ⟨"Active provider " ++ providerName gateway ++
          " does not support Razorpay signature verification", some 400⟩
      else if isValid = false then .throw ⟨"Invalid payment signature", some 400⟩
      else do
        let payment ← transitionPaymentState index payment .captured .clientVerify
          (providerName gateway ++ " client signature verified") (some razorpayPaymentId)
        let signed := { payment with gatewaySignature := some razorpaySignature }
        perform (Kind.savePayment index payment signed)
        handleOrderSideEffects sellerPendingUntil signed .captured "Payment captured successfully"

/-- The part of a webhook after its event was stored. -/
def processPaymentEvent (gateway : PaymentGateway) (clauses : List PaymentClause) (decoded : Decoded)
    (label reason : String) (sellerPendingUntil : Date) : M Unit := do
  match ← perform (Kind.findPayment clauses) with
  | none => pure ()
  | some (index, payment) => do
      let nextStatus := mapStatusToInternal gateway decoded.state
      let payment ← transitionPaymentState index payment nextStatus .webhook
        (providerName gateway ++ " webhook: " ++ label) decoded.transactionId
      perform (Kind.savePayment index payment payment)
      perform (Kind.updateEvent decoded.eventId)
      handleOrderSideEffects sellerPendingUntil payment nextStatus reason

/-- `processPhonePeWebhook`; `isValid` is what the adapter says of the signature. -/
def processPhonePeWebhook (isValid : Bool) (decoded : Decoded) (sellerPendingUntil : Date) :
    M Unit :=
  if isValid = false then .throw ⟨"Invalid webhook signature", some 401⟩
  else do
    let created ← perform (Kind.createEvent decoded.eventId)
    if created = false then pure ()
    else
      processPaymentEvent .phonepe (decoded.merchantOrderId.toList.map PaymentClause.gatewayOrderId)
        decoded decoded.state (decoded.responseCode.getD decoded.state) sellerPendingUntil

/-- What a Razorpay event is about besides a payment. -/
structure RefundEntity where
  id : ObjectId
  status : GatewayRefundStatus

def processRazorpayWebhook (isValid : Bool) (decoded : Decoded) (refundEntity : Option RefundEntity)
    (sellerPendingUntil : Date) : M Unit :=
  let eventType := decoded.eventType.getD decoded.state
  let eventId :=
    match refundEntity with
    | some refund => eventType ++ "_" ++ toString refund.id
    | none => decoded.eventId
  let clauses :=
    decoded.merchantOrderId.toList.map PaymentClause.gatewayOrderId ++
      decoded.gatewayOrderId.toList.flatMap (fun id =>
        [PaymentClause.razorpayOrderId id, .gatewayOrderId id])
  if isValid = false then .throw ⟨"Invalid Razorpay webhook signature", some 401⟩
  else do
    let created ← perform (Kind.createEvent eventId)
    if created = false then pure ()
    else
      match refundEntity with
      | some refund =>
        if eventType.startsWith "refund." then
          perform (Kind.handleGatewayRefundUpdate refund.id refund.status)
        else
          processPaymentEvent .razorpay clauses { decoded with eventId } eventType eventType
            sellerPendingUntil
      | none =>
        processPaymentEvent .razorpay clauses { decoded with eventId } eventType eventType
          sellerPendingUntil

def reconcileAttempt (gateway : PaymentGateway) (sellerPendingUntil : Date) (index : ℕ)
    (payment : Payment) : M PaymentStatus := do
  let response ← perform (Kind.getPaymentStatus payment)
  let nextStatus := mapStatusToInternal gateway response.state
  if nextStatus = payment.status then pure .pending
  else do
    let payment ← transitionPaymentState index payment nextStatus .system
      (providerName gateway ++ " reconciliation: " ++ response.state) response.transactionId
    handleOrderSideEffects sellerPendingUntil payment nextStatus response.state
    pure nextStatus

/-- The loop of `reconcileOrderPaymentStatus` over the open attempts. -/
def reconcileOpen (gateway : PaymentGateway) (sellerPendingUntil : Date) :
    List (ℕ × Payment) → Bool → Bool → M PaymentOutcome
  | [], unknown, pending =>
    pure (if unknown then .unknown else if pending then .pending else .failed)
  | (index, payment) :: rest, unknown, pending => do
      let answer ← ((do
        let status ← reconcileAttempt gateway sellerPendingUntil index payment
        pure (some status)) : M (Option PaymentStatus)).tryCatch (fun _ => pure none)
      match answer with
      | none => reconcileOpen gateway sellerPendingUntil rest true pending
      | some .captured => pure .captured
      | some .pending => reconcileOpen gateway sellerPendingUntil rest unknown true
      | some _ => reconcileOpen gateway sellerPendingUntil rest unknown pending

def reconcileOrderPaymentStatus (gateway : PaymentGateway) (orderId : ObjectId)
    (sellerPendingUntil : Date) : M PaymentOutcome := do
  let attempts ← perform (Kind.findAttempts orderId)
  let open_ := attempts.filter (fun attempt =>
    decide (attempt.2.status ∈ [PaymentStatus.created, .pending, .authorized]))
  if attempts.any (fun attempt => decide (attempt.2.status = .captured)) then pure .captured
  else if open_.isEmpty then pure (if attempts.isEmpty then .none else .failed)
  else reconcileOpen gateway sellerPendingUntil open_ false false

/-- `validatePaymentEligibility`: why an order cannot be paid. -/
def paymentRefusal (userId : ObjectId) (order : CheckoutOrder) : Option ServiceError :=
  if order.customer ≠ userId then some ⟨"You are not allowed to pay for this order", some 403⟩
  else if order.paymentMode ≠ .online then
    some ⟨"Payment is allowed only for ONLINE orders", some 400⟩
  else if order.isCancelled ∨ order.status = .delivered ∨ order.workflowStatus = some .delivered then
    some ⟨"Payment is not allowed for this checkout state", some 409⟩
  else if order.paymentStatus = .paid then some ⟨"Order is already paid", some 409⟩
  else if order.paymentStatus = .refunded then
    some ⟨"Order payment has already been refunded", some 409⟩
  else none

/-- `createPaymentOrderForOrderRef` for a target that was found. -/
def createAttempt (gateway : PaymentGateway) (target : Target)
    (merchantOrderIdOf : PaymentScope → ℕ → String) (idempotencyKey : Option String) : M Unit := do
  let openPayment ← perform (Kind.findOpenPayment target.scope)
  if openPayment.any (fun p => p.redirectUrl.isSome || p.razorpayOrderId.isSome) then pure ()
  else
    let amountPaise := getPayableAmountPaise target.orders
    if amountPaise ≤ 0 then
      .throw ⟨"Unable to determine payable amount for this checkout", some 400⟩
    else do
      let count ← perform (Kind.countPayments target.scope)
      let merchantOrderId := merchantOrderIdOf target.scope (count + 1)
      let init ← perform (Kind.initiatePayment merchantOrderId amountPaise)
      perform (Kind.createPayment
        { gatewayOrderId := merchantOrderId
          razorpayOrderId := init.razorpayOrderId
          redirectUrl := init.redirectUrl
          customer := target.primaryOrder.customer
          order := target.primaryOrder.id
          orderIds := target.orders.map (fun order => order.id)
          checkoutGroupId := target.checkoutGroupId
          gatewayName := gateway
          amount := amountPaise
          attemptCount := count + 1
          idempotencyKey
          status := .pending
          statusHistory :=
            [⟨.created, .pending, .system, providerName gateway ++ " checkout initiated"⟩] })

/-- `createPaymentOrderForOrderRef`; the ids given to the gateway are built from the scope and the
number of the attempt. -/
def createPaymentOrderForOrderRef (gateway : PaymentGateway)
    (merchantOrderIdOf : PaymentScope → ℕ → String) (scope : PaymentScope) (userId : ObjectId)
    (idempotencyKey : Option String) : M Unit := do
  match ← perform (Kind.findTarget scope) with
  | none => .throw ⟨"Order not found", some 404⟩
  | some target =>
    match (target.orders.filterMap (paymentRefusal userId)).head? with
    | some e => .throw e
    | none =>
      match idempotencyKey with
      | none => createAttempt gateway target merchantOrderIdOf none
      | some key => do
          let existing ← perform (Kind.findForKey target.scope key)
          if existing.isSome then pure ()
          else createAttempt gateway target merchantOrderIdOf (some key)

end DiscountBazar.Payments
