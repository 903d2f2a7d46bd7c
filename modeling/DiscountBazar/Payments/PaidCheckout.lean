/-
Attempts of a checkout that is paid already.

The side effects of an outcome are applied to all orders of the checkout, whichever attempt it is
the outcome of. They are guarded one by one, or not at all: the cancellation of a failed payment
looks at the workflow status of each order, the update of the group and the announcement look at
nothing. The condition says for each of these calls what it must not find.
-/
import DiscountBazar.Payments.Handlers

namespace DiscountBazar.Payments

open Finance Tasks Workflow Runs List CheckoutOrder

/-! ## The system -/

/-- A client, a gateway or a job comes with an outcome, or a client with a new attempt. -/
inductive Request where
  | createPayment (scope : PaymentScope) (userId : ObjectId) (idempotencyKey : Option String)
  | verifyStatus (merchantOrderId : String) (userId : Option ObjectId)
  | verifySignature (merchantOrderId : Option String)
      (razorpayOrderId razorpayPaymentId razorpaySignature : String) (isValid : Bool)
      (userId : Option ObjectId)
  | phonePeWebhook (isValid : Bool) (decoded : Decoded)
  | razorpayWebhook (isValid : Bool) (decoded : Decoded) (refundEntity : Option RefundEntity)
  | reconcile (orderId : ObjectId)

/-- Any workflow step of an order: its statuses change, not its payment. -/
inductive Event where
  | workflow (orderId : ObjectId) (workflowStatus : Option WorkflowStatus) (status : LegacyStatus)

section System

variable {ρ : Type} (service : RefundService ρ) (gateway : PaymentGateway)
  (merchantOrderIdOf : PaymentScope → ℕ → String)

def handleRequest (sellerPendingUntil : Date) : Request → M Unit
  | .createPayment scope userId idempotencyKey =>
    createPaymentOrderForOrderRef gateway merchantOrderIdOf scope userId idempotencyKey
  | .verifyStatus merchantOrderId userId =>
    verifyPhonePePaymentStatus gateway merchantOrderId userId sellerPendingUntil
  | .verifySignature merchantOrderId razorpayOrderId razorpayPaymentId razorpaySignature isValid
      userId =>
      verifyRazorpayPaymentSignature gateway merchantOrderId razorpayOrderId razorpayPaymentId
        razorpaySignature isValid userId sellerPendingUntil
  | .phonePeWebhook isValid decoded => processPhonePeWebhook isValid decoded sellerPendingUntil
  | .razorpayWebhook isValid decoded refundEntity =>
    processRazorpayWebhook isValid decoded refundEntity sellerPendingUntil
  | .reconcile orderId => (reconcileOrderPaymentStatus gateway orderId sellerPendingUntil).discard

def happens : Event → PaymentDesk ρ → PaymentDesk ρ
  | .workflow orderId workflowStatus status, s =>
    s.updateOrder orderId (fun order => { order with workflowStatus, status })

def paymentSystem :
    System Kind Kind.Reply ServiceError (PaymentDesk ρ) Choice Event (Request × Date) where
  perform := performOp service
  outside := fun event s => some (happens event s)
  entry := fun (request, sellerPendingUntil) =>
    handleRequest gateway merchantOrderIdOf sellerPendingUntil request
  mayStart := fun _ _ => true

end System

/-! ## The property -/

def CheckoutOrder.PaidLive (order : CheckoutOrder) : Prop :=
  order.paymentStatus = .paid ∧ order.isCancelled = false

instance (order : CheckoutOrder) : Decidable order.PaidLive := inferInstanceAs (Decidable (_ ∧ _))

def CheckoutGroup.Paid (group : CheckoutGroup) : Prop :=
  group.status = .paid ∧ group.paymentStatus = .paid ∧ group.stockReservation = .committed

instance (group : CheckoutGroup) : Decidable group.Paid := inferInstanceAs (Decidable (_ ∧ _))

section Property

variable {ρ : Type}

def PaymentDesk.HasPaidOrder (s : PaymentDesk ρ) (checkoutGroupId : String) : Prop :=
  ∃ order ∈ s.orders, order.checkoutGroupId = some checkoutGroupId ∧ order.PaidLive

instance (s : PaymentDesk ρ) (checkoutGroupId : String) : Decidable (s.HasPaidOrder checkoutGroupId) :=
  inferInstanceAs (Decidable (∃ order ∈ s.orders, _))

structure Undisturbed (s s' : PaymentDesk ρ) : Prop where
  order : ∀ (i : ℕ) (order : CheckoutOrder), s.orders[i]? = some order → order.PaidLive →
    ∃ order' : CheckoutOrder, s'.orders[i]? = some order' ∧ order'.paymentStatus = .paid
  group : ∀ (i : ℕ) (group : CheckoutGroup), s.groups[i]? = some group → group.Paid →
    s.HasPaidOrder group.checkoutGroupId →
      ∃ group' : CheckoutGroup, s'.groups[i]? = some group' ∧ group'.Paid
  announced : ∀ orderId ∈ s'.announced.drop s.announced.length, ∀ order ∈ s.orders,
    order.id = orderId → ¬ order.PaidLive

/-! ## The condition -/

def EffectInOrder : Kind → PaymentDesk ρ → Prop
  | .setPaymentStatus orderIds status, s =>
    status ≠ .paid → ∀ order ∈ s.orders, order.id ∈ orderIds → ¬ order.PaidLive
  | .cancelUnpaid orderIds _, s =>
    ∀ order ∈ s.orders, order.id ∈ orderIds → order.workflowStatus = some .created → ¬ order.PaidLive
  | .updateGroup checkoutGroupId status, s =>
    status ∈ [PaymentStatus.failed, .cancelled, .refunded] →
      ∀ group ∈ s.groups, group.checkoutGroupId = checkoutGroupId → group.Paid →
        ¬ s.HasPaidOrder checkoutGroupId
  | .announceCancelled orderId, s => ∀ order ∈ s.orders, order.id = orderId → ¬ order.PaidLive
  | _, _ => True

def CallInOrder (kind : Kind) (c : Choice) (s : PaymentDesk ρ) : Prop :=
  c.outcome.takesEffect = true → EffectInOrder kind s

end Property

/-! ## Calls -/

section Calls

variable {ρ : Type} {s : PaymentDesk ρ}

theorem Undisturbed.refl (s : PaymentDesk ρ) : Undisturbed s s where
  order := fun _ order h hpaid => ⟨order, h, hpaid.1⟩
  group := fun _ group h hpaid _ => ⟨group, h, hpaid⟩
  announced := by simp

/-- Orders that are changed one by one, the rest as it is. -/
theorem undisturbed_map_iff (s' : PaymentDesk ρ) (f : CheckoutOrder → CheckoutOrder)
    (horders : s'.orders = s.orders.map f) (hgroups : s'.groups = s.groups)
    (hannounced : s'.announced = s.announced) :
    Undisturbed s s' ↔ ∀ order ∈ s.orders, order.PaidLive → (f order).paymentStatus = .paid := by
  constructor
  · intro h order hmem hpaid
    obtain ⟨i, hi⟩ := getElem?_of_mem hmem
    obtain ⟨order', hget, hstatus⟩ := h.order i order hi hpaid
    rw [horders, getElem?_map, hi] at hget
    cases hget
    exact hstatus
  · intro h
    refine ⟨fun i order hi hpaid => ?_, fun i group hi hpaid _ => ?_, ?_⟩
    · refine ⟨f order, ?_, h order (mem_of_getElem? hi) hpaid⟩
      rw [horders, getElem?_map, hi]
      rfl
    · exact ⟨group, hgroups ▸ hi, hpaid⟩
    · simp [hannounced]

theorem undisturbed_of_same (s' : PaymentDesk ρ) (horders : s'.orders = s.orders)
    (hgroups : s'.groups = s.groups) (hannounced : s'.announced = s.announced) :
    Undisturbed s s' :=
  (undisturbed_map_iff s' id (by rw [horders, map_id]) hgroups hannounced).mpr
    fun _ _ hpaid => hpaid.1

theorem undisturbed_updateOrders_iff (orderIds : List ObjectId) (f : CheckoutOrder → CheckoutOrder) :
    Undisturbed s (s.updateOrders orderIds f) ↔ ∀ order ∈ s.orders, order.id ∈ orderIds →
      order.PaidLive → (f order).paymentStatus = .paid := by
  refine (undisturbed_map_iff (s.updateOrders orderIds f)
    (fun order => if order.id ∈ orderIds then f order else order) rfl rfl rfl).trans ?_
  refine forall₂_congr fun order _ => ?_
  by_cases hmem : order.id ∈ orderIds
  · simp [hmem]
  · simpa [hmem] using fun hpaid : order.PaidLive => hpaid.1

theorem undisturbed_updateOrder (s' : PaymentDesk ρ) (orderId : ObjectId)
    (f : CheckoutOrder → CheckoutOrder) (horders : s'.orders = (s.updateOrder orderId f).orders)
    (hgroups : s'.groups = s.groups) (hannounced : s'.announced = s.announced)
    (h : ∀ order : CheckoutOrder, order.paymentStatus = .paid → (f order).paymentStatus = .paid) :
    Undisturbed s s' := by
  refine (undisturbed_map_iff s' (fun order => if order.id = orderId then f order else order)
    horders hgroups hannounced).mpr fun order _ hpaid => ?_
  split
  · exact h order hpaid.1
  · exact hpaid.1

theorem capture_paymentStatus {order : CheckoutOrder} (h : order.paymentStatus = .paid) :
    order.capture.paymentStatus = .paid := by
  unfold capture captured
  split
  · exact h
  · rfl

theorem moveToSellerPending_paymentStatus (order : CheckoutOrder) (expiresAt : Date) :
    (order.moveToSellerPending expiresAt).paymentStatus = order.paymentStatus := by
  unfold moveToSellerPending Update.apply
  by_cases hfilter : Update.filter order.toWorkflowOrder (.sellerPending expiresAt) = true
  · rw [if_pos hfilter]
    rfl
  · rw [if_neg hfilter]

theorem paymentFailed_paymentStatus {order : CheckoutOrder} (h : order.PaidLive) (reason : String) :
    (order.paymentFailed reason).paymentStatus = .paid ↔ order.workflowStatus ≠ some .created := by
  have hstatus : order.status ≠ .cancelled := by
    have hlive := h.2
    unfold isCancelled at hlive
    simp only [decide_eq_false_iff_not, not_or] at hlive
    exact hlive.1
  unfold CheckoutOrder.paymentFailed Workflow.paymentFailed
  by_cases hcreated : order.workflowStatus = some .created
  · rw [if_pos ⟨hcreated, hstatus⟩]
    simp [hcreated]
  · rw [if_neg (fun hboth => hcreated hboth.1)]
    exact iff_of_true h.1 hcreated

theorem undisturbed_updateGroup_iff (checkoutGroupId : String) (status : PaymentStatus) :
    Undisturbed s { s with groups := s.groups.map (fun group =>
        if group.checkoutGroupId = checkoutGroupId then group.withPaymentStatus status else group) } ↔
      ∀ group ∈ s.groups, group.checkoutGroupId = checkoutGroupId → group.Paid →
        s.HasPaidOrder checkoutGroupId → (group.withPaymentStatus status).Paid := by
  constructor
  · rintro h group hmem rfl hpaid horder
    obtain ⟨i, hi⟩ := getElem?_of_mem hmem
    obtain ⟨group', hget, hpaid'⟩ := h.group i group hi hpaid horder
    rw [getElem?_map, hi] at hget
    simp only [Option.map_some, if_true, Option.some.injEq] at hget
    exact hget ▸ hpaid'
  · intro h
    refine ⟨fun i order hi hpaid => ⟨order, hi, hpaid.1⟩, fun i group hi hpaid horder => ?_, by simp⟩
    have hmem := mem_of_getElem? hi
    refine ⟨if group.checkoutGroupId = checkoutGroupId then group.withPaymentStatus status else group,
      ?_, ?_⟩
    · rw [getElem?_map, hi]
      rfl
    · by_cases hid : group.checkoutGroupId = checkoutGroupId
      · rw [if_pos hid]
        exact h group hmem hid hpaid (hid ▸ horder)
      · rw [if_neg hid]
        exact hpaid

theorem withPaymentStatus_paid {group : CheckoutGroup} (h : group.Paid) (status : PaymentStatus) :
    (group.withPaymentStatus status).Paid ↔
      status ∉ [PaymentStatus.failed, .cancelled, .refunded] := by
  cases status with
  | captured => exact iff_of_true ⟨rfl, rfl, rfl⟩ (by decide)
  | failed | cancelled | refunded => exact iff_of_false (fun hpaid => nomatch hpaid.1) (by decide)
  | _ => exact iff_of_true h (by decide)

theorem effect_undisturbed_iff (service : RefundService ρ) (c : Choice) (kind : Kind) :
    Undisturbed s (effect service c kind s).2 ↔ EffectInOrder kind s := by
  cases kind with
  | handleOnlineOrderFinance orderId =>
    refine iff_of_true ?_ trivial
    change Undisturbed s (s.captureOrder orderId).2
    unfold PaymentDesk.captureOrder
    split
    · exact Undisturbed.refl s
    split
    · exact Undisturbed.refl s
    split
    · exact Undisturbed.refl s
    · exact undisturbed_updateOrder _ orderId capture rfl rfl rfl
        fun _ => capture_paymentStatus
  | moveToSellerPending orderId expiresAt =>
    refine iff_of_true ?_ trivial
    refine undisturbed_updateOrder _ orderId _ rfl rfl rfl fun order hpaid => ?_
    rw [moveToSellerPending_paymentStatus]
    exact hpaid
  | cancelUnpaid orderIds reason =>
    refine (undisturbed_updateOrders_iff orderIds _).trans (forall₃_congr fun order _ _ => ?_)
    constructor
    · intro h hcreated hpaid
      exact (paymentFailed_paymentStatus hpaid reason).mp (h hpaid) hcreated
    · intro h hpaid
      exact (paymentFailed_paymentStatus hpaid reason).mpr fun hcreated => h hcreated hpaid
  | setPaymentStatus orderIds status =>
    refine (undisturbed_updateOrders_iff orderIds _).trans ?_
    constructor
    · intro h hstatus order hmem hid hpaid
      exact hstatus (h order hmem hid hpaid)
    · intro h order hmem hid hpaid
      by_contra hstatus
      exact h hstatus order hmem hid hpaid
  | updateGroup checkoutGroupId status =>
    refine (undisturbed_updateGroup_iff checkoutGroupId status).trans ?_
    constructor
    · intro h hstatus group hmem hid hpaid horder
      exact (withPaymentStatus_paid hpaid status).mp (h group hmem hid hpaid horder) hstatus
    · intro h group hmem hid hpaid horder
      exact (withPaymentStatus_paid hpaid status).mpr
        fun hstatus => h hstatus group hmem hid hpaid horder
  | announceCancelled orderId =>
    constructor
    · intro h
      exact h.announced orderId (by simp [effect])
    · intro h
      change ∀ order ∈ s.orders, order.id = orderId → ¬ order.PaidLive at h
      refine ⟨fun i order hi hpaid => ⟨order, hi, hpaid.1⟩,
        fun i group hi hpaid _ => ⟨group, hi, hpaid⟩, ?_⟩
      simpa [effect] using h
  | createEvent | createPayment =>
    refine iff_of_true ?_ trivial
    unfold effect
    dsimp only
    split
    · exact Undisturbed.refl s
    · exact undisturbed_of_same _ rfl rfl rfl
  | findTarget scope =>
    refine iff_of_true ?_ trivial
    cases scope with
    | group | order => exact Undisturbed.refl s
  | savePayment
  | onLatePaymentCapture => exact iff_of_true (undisturbed_of_same _ rfl rfl rfl) trivial
  | recordExternalCancellation | handleGatewayRefundUpdate =>
    exact iff_of_true (undisturbed_of_same _ rfl rfl rfl) trivial
  | _ => exact iff_of_true (Undisturbed.refl s) trivial

theorem outcome_undisturbed_iff (service : RefundService ρ) (c : Choice) (kind : Kind) :
    Undisturbed s (c.outcome.perform (effect service c kind s) s).2 ↔ CallInOrder kind c s := by
  cases houtcome : c.outcome with
  | refused e =>
    refine iff_of_true (Undisturbed.refl s) fun htakes => ?_
    rw [houtcome] at htakes
    cases htakes
  | done | lost =>
    have htakes : c.outcome.takesEffect = true := houtcome ▸ rfl
    exact (effect_undisturbed_iff service c kind).trans ⟨fun h _ => h, fun h => h htakes⟩

end Calls

/-! ## Runs -/

section Runs

variable {ρ : Type} (service : RefundService ρ) (gateway : PaymentGateway)
  (merchantOrderIdOf : PaymentScope → ℕ → String)

theorem happens_undisturbed (event : Event) (s : PaymentDesk ρ) : Undisturbed s (happens event s) :=
  undisturbed_updateOrder _ event.1 _ rfl rfl rfl fun _ hpaid => hpaid

theorem step_undisturbed_iff (p : Pool Kind Kind.Reply ServiceError (PaymentDesk ρ))
    (a : Action Choice Event (Request × Date)) :
    Undisturbed p.shared ((paymentSystem service gateway merchantOrderIdOf).step p a).shared ↔
      OnOps (fun _ kind c s => CallInOrder kind c s) p a := by
  cases a with
  | run i c =>
    refine System.step_run_iff (Undisturbed.refl p.shared) fun kind => ?_
    exact ⟨_, _, rfl, outcome_undisturbed_iff service c kind⟩
  | outside event => exact iff_of_true (happens_undisturbed event p.shared) trivial
  | start k => exact iff_of_true (Undisturbed.refl p.shared) trivial

end Runs

/-! ## An attempt that failed before -/

/-- Cancellations are nobody's business here. -/
def noRefunds : RefundService Unit := ⟨fun _ r => r, fun _ _ r => r, fun _ _ r => r⟩

/-- Customer 7 pays a checkout of one order; the first attempt is open. -/
def checkoutDesk : PaymentDesk Unit where
  refunds := fun _ => ()
  payments :=
    [{ gatewayOrderId := "CHK-1-A1", redirectUrl := some "/pay/1", customer := 7, order := 1,
       orderIds := [1], checkoutGroupId := some "CHK-1", gatewayName := .phonepe, amount := 50000,
       status := .pending }]
  orders :=
    [{ toOrder := Order.placed 1 7 (some 3) none .online (PaymentBreakdown.placed 50000 40000 3000 7000 0)
       checkoutGroupId := some "CHK-1" }]
  groups := [{ checkoutGroupId := "CHK-1" }]

def attemptIds (_ : PaymentScope) (n : ℕ) : String := if n = 1 then "CHK-1-A1" else "CHK-1-A2"

def saysFailed : Choice := { response := { state := "FAILED" } }

/-- The first attempt fails, and the process that was told dies before it goes on with the orders.
The customer tries again and pays; then the page of the first attempt asks for its status. -/
def staleFailure : List (Action Choice Event (Request × Date)) :=
  [.start (.verifyStatus "CHK-1-A1" (some 7), 100), .run 0 {}, .run 0 saysFailed, .run 0 {},
    .start (.createPayment (.group "CHK-1") 7 none, 200), .run 1 {}, .run 1 {}, .run 1 {},
    .run 1 { initResult := { redirectUrl := some "/pay/2" } }, .run 1 {},
    .start (.phonePeWebhook true
      { eventId := "T2", merchantOrderId := some "CHK-1-A2", state := "COMPLETED" }, 300),
    .run 2 {}, .run 2 {}, .run 2 {}, .run 2 {}, .run 2 {}, .run 2 {}, .run 2 {}, .run 2 {}, .run 2 {},
    .start (.verifyStatus "CHK-1-A1" (some 7), 400), .run 3 {}, .run 3 saysFailed, .run 3 {}, .run 3 {},
    .run 3 {}]

end DiscountBazar.Payments
