/-
Webhooks that are delivered again.

A webhook first stores the id of its event and answers a second delivery of it at once. What was
not done by then is not done by the redelivery either. So the delivery that stores the id has to
do everything: the condition says that every call it did not come to, or that failed in it without
failing the delivery, would have found nothing to change.
-/
import DiscountBazar.Payments.PaidCheckout
import DiscountBazar.Lib.Scripts

namespace DiscountBazar.Payments

open Finance Tasks Workflow Function Update Prog PaymentDesk
open Footprint (Linear)
open List (map_congr_left map_id map_inj_left map_map)
open CheckoutOrder

/-! ## Deliveries -/

/-- A webhook; `isValid` is what the adapter says of its signature. -/
inductive Webhook where
  | phonePe (isValid : Bool) (decoded : Decoded)
  | razorpay (isValid : Bool) (decoded : Decoded) (refundEntity : Option RefundEntity)

/-- The handler of the webhook's route. -/
def Webhook.process (sellerPendingUntil : Date) : Webhook → M Unit
  | phonePe isValid decoded => processPhonePeWebhook isValid decoded sellerPendingUntil
  | razorpay isValid decoded refundEntity =>
    processRazorpayWebhook isValid decoded refundEntity sellerPendingUntil

section Deliveries

variable {ρ : Type} (service : RefundService ρ)

/-- A call that is done. Nothing a webhook calls depends on what a gateway answers. -/
def done (kind : Kind) (s : PaymentDesk ρ) : Except ServiceError kind.Reply × PaymentDesk ρ :=
  effect service {} kind s

/-- The gateway delivers the webhook until a delivery is accepted; each delivery has its own time
and its own failures. -/
def redeliver (webhook : Webhook) :
    List (Date × Script ServiceError) → PaymentDesk ρ → Option (PaymentDesk ρ)
  | [], _ => none
  | (sellerPendingUntil, script) :: rest, s =>
    match (webhook.process sellerPendingUntil).runWith (done service) script s with
    | (some _, s') => some s'
    | (none, s') => redeliver webhook rest s'

def beginsWell : Script ServiceError → Bool
  | [] => true
  | none :: _ => false
  | some outcome :: _ => outcome.takesEffect

/-- The delivery that comes to store the event. -/
def storingDelivery (deliveries : List (Date × Script ServiceError)) : Date × Script ServiceError :=
  (deliveries.find? (fun delivery => beginsWell delivery.2)).getD (0, [])

/-- The state after one uninterrupted processing. -/
def processed (webhook : Webhook) (sellerPendingUntil : Date) (s : PaymentDesk ρ) : PaymentDesk ρ :=
  ((webhook.process sellerPendingUntil).run (done service) s).2

end Deliveries

/-! ## What is compared -/

structure Documents (ρ : Type) where
  refunds : ObjectId → ρ
  payments : List Payment
  orders : List CheckoutOrder
  groups : List CheckoutGroup

def PaymentDesk.documents {ρ : Type} (s : PaymentDesk ρ) : Documents ρ :=
  { refunds := s.refunds, payments := s.payments, orders := s.orders, groups := s.groups }

/-- A part of the documents that one call can be recognised by. -/
inductive Part where
  | payments
  | orders
  | captured (orderId : ObjectId)
  | workflow (orderId : ObjectId)
  | groups
  | refunds (orderId : ObjectId)
  | allRefunds

@[reducible] def Part.Value (ρ : Type) : Part → Type
  | payments => List Payment
  | orders => List CheckoutOrder
  | captured _ => List Bool
  | workflow _ => List (Option WorkflowStatus)
  | groups => List CheckoutGroup
  | refunds _ => ρ
  | allRefunds => ObjectId → ρ

def Documents.view {ρ : Type} : (part : Part) → Documents ρ → part.Value ρ
  | .payments, d => d.payments
  | .orders, d => d.orders
  | .captured orderId, d =>
    d.orders.map (fun order =>
      decide (order.id = orderId) && order.financeFlags.onlinePaymentCaptured)
  | .workflow orderId, d =>
    d.orders.map (fun order => if order.id = orderId then order.workflowStatus else none)
  | .groups, d => d.groups
  | .refunds orderId, d => d.refunds orderId
  | .allRefunds, d => d.refunds

/-- The part that is changed by a call that changes anything. -/
def tracked : Kind → Option Part
  | .savePayment _ _ _ | .createPayment _ => some .payments
  | .handleOnlineOrderFinance orderId => some (.captured orderId)
  | .onLatePaymentCapture orderId | .recordExternalCancellation orderId _ => some (.refunds orderId)
  | .moveToSellerPending orderId _ => some (.workflow orderId)
  | .updateGroup _ _ => some .groups
  | .cancelUnpaid _ _ | .setPaymentStatus _ _ => some .orders
  | .handleGatewayRefundUpdate _ _ => some .allRefunds
  | _ => none

/-- The parts that a call can change. -/
def Writes : Kind → Part → Prop
  | .savePayment _ loaded edited, .payments => loaded ≠ edited
  | .createPayment _, .payments => True
  | .handleOnlineOrderFinance orderId, .captured orderId' => orderId = orderId'
  | .moveToSellerPending orderId _, .workflow orderId' => orderId = orderId'
  | .cancelUnpaid _ _, .workflow _ => True
  | .handleOnlineOrderFinance _, .orders | .moveToSellerPending _ _, .orders
  | .cancelUnpaid _ _, .orders | .setPaymentStatus _ _, .orders => True
  | .updateGroup _ _, .groups => True
  | .onLatePaymentCapture orderId, .refunds orderId'
  | .recordExternalCancellation orderId _, .refunds orderId' => orderId = orderId'
  | .handleGatewayRefundUpdate _ _, .refunds _ => True
  | .onLatePaymentCapture _, .allRefunds | .recordExternalCancellation _ _, .allRefunds
  | .handleGatewayRefundUpdate _ _, .allRefunds => True
  | _, _ => False

/-! ## The condition -/

section Condition

variable {ρ : Type} (service : RefundService ρ)

/-- The call finds nothing to change. -/
def Idle : Kind → PaymentDesk ρ → Prop
  | .savePayment index loaded edited, s =>
    ∀ payment, s.payments[index]? = some payment → savedPayment loaded edited payment = payment
  | .createPayment payment, s =>
    s.payments.any (fun p => decide (p.gatewayOrderId = payment.gatewayOrderId)) = true
  | .handleOnlineOrderFinance orderId, s =>
    ∀ order, s.order? orderId = some order →
      order.financeFlags.onlinePaymentCaptured = true ∨ captureAmount order.toOrder ≤ 0
  | .onLatePaymentCapture orderId, s =>
    service.onLatePaymentCapture (s.order? orderId) (s.refunds orderId) = s.refunds orderId
  | .recordExternalCancellation orderId reason, s =>
    service.recordExternalCancellation reason (s.order? orderId) (s.refunds orderId)
      = s.refunds orderId
  | .moveToSellerPending orderId expiresAt, s =>
    ∀ order ∈ s.orders, order.id = orderId →
      (sellerPending expiresAt).filter order.toWorkflowOrder = false
  | .updateGroup checkoutGroupId status, s =>
    ∀ group ∈ s.groups, group.checkoutGroupId = checkoutGroupId →
      group.withPaymentStatus status = group
  | .cancelUnpaid orderIds _, s =>
    ∀ order ∈ s.orders, order.id ∈ orderIds →
      ¬ (order.workflowStatus = some .created ∧ order.status ≠ .cancelled)
  | .setPaymentStatus orderIds status, s =>
    ∀ order ∈ s.orders, order.id ∈ orderIds → order.paymentStatus = status
  | .handleGatewayRefundUpdate gatewayRefundId status, s =>
    service.handleGatewayRefundUpdate gatewayRefundId status s.refunds = s.refunds
  | _, _ => True

end Condition

/-! ## Calls -/

section Calls

variable {ρ : Type} (service : RefundService ρ)

theorem savedPayment_self (payment current : Payment) :
    savedPayment payment payment current = current := by
  simp [savedPayment, Returns.written]

theorem map_ite_eq_self {α : Type} {l : List α} {P : α → Prop} [DecidablePred P] {f : α → α} :
    l.map (fun a => if P a then f a else a) = l ↔ ∀ a ∈ l, P a → f a = a := by
  constructor
  · intro h a ha hP
    have hat := map_inj_left.mp (h.trans (map_id l).symm) a ha
    rw [if_pos hP] at hat
    exact hat
  · intro h
    refine (map_congr_left fun a ha => ?_).trans (map_id l)
    split
    next hP => exact h a ha hP
    next => rfl

@[simp] theorem capture_id (order : CheckoutOrder) : order.capture.id = order.id := by
  unfold capture captured
  split
  · rfl
  · rfl

@[simp] theorem capture_workflowStatus (order : CheckoutOrder) :
    order.capture.workflowStatus = order.workflowStatus := by
  unfold capture captured
  split
  · rfl
  · rfl

theorem capture_onlinePaymentCaptured (order : CheckoutOrder) :
    order.capture.financeFlags.onlinePaymentCaptured = true := by
  unfold capture captured
  split
  next h => exact h
  · rfl

@[simp] theorem moveToSellerPending_id (order : CheckoutOrder) (expiresAt : Date) :
    (order.moveToSellerPending expiresAt).id = order.id := by
  unfold moveToSellerPending apply
  by_cases hfilter : (sellerPending expiresAt).filter order.toWorkflowOrder = true
  · rw [if_pos hfilter]
    rfl
  · rw [if_neg hfilter]

@[simp] theorem moveToSellerPending_financeFlags (order : CheckoutOrder) (expiresAt : Date) :
    (order.moveToSellerPending expiresAt).financeFlags = order.financeFlags := by
  unfold moveToSellerPending apply
  by_cases hfilter : (sellerPending expiresAt).filter order.toWorkflowOrder = true
  · rw [if_pos hfilter]
    rfl
  · rw [if_neg hfilter]

variable {order : CheckoutOrder}

theorem moveToSellerPending_workflowStatus {expiresAt : Date}
    (h : (sellerPending expiresAt).filter order.toWorkflowOrder = true) :
    order.workflowStatus = some .created ∧
      (order.moveToSellerPending expiresAt).workflowStatus = some .sellerPending := by
  constructor
  · unfold filter at h
    simp only [Bool.and_eq_true, decide_eq_true_eq] at h
    exact h.1.2
  · unfold moveToSellerPending apply
    rw [if_pos h]
    rfl

theorem moveToSellerPending_of_not_filter {expiresAt : Date}
    (h : (sellerPending expiresAt).filter order.toWorkflowOrder = false) :
    order.moveToSellerPending expiresAt = order := by
  unfold moveToSellerPending apply
  rw [h]
  rfl

@[simp] theorem paymentFailed_id (order : CheckoutOrder) (reason : String) :
    (order.paymentFailed reason).id = order.id := by
  unfold CheckoutOrder.paymentFailed Workflow.paymentFailed
  split
  · rfl
  · rfl

@[simp] theorem paymentFailed_financeFlags (order : CheckoutOrder) (reason : String) :
    (order.paymentFailed reason).financeFlags = order.financeFlags := by
  unfold CheckoutOrder.paymentFailed Workflow.paymentFailed
  split
  · rfl
  · rfl

theorem paymentFailed_eq_self_iff (order : CheckoutOrder) (reason : String) :
    order.paymentFailed reason = order ↔
      ¬ (order.workflowStatus = some .created ∧ order.status ≠ .cancelled) := by
  unfold CheckoutOrder.paymentFailed Workflow.paymentFailed
  by_cases hcancels : order.workflowStatus = some .created ∧ order.status ≠ .cancelled
  · rw [if_pos hcancels]
    refine iff_of_false (fun h => ?_) (not_not.mpr hcancels)
    have hstatus := congrArg (fun o : CheckoutOrder => o.status) h
    exact hcancels.2 hstatus.symm
  · rw [if_neg hcancels]
    exact iff_of_true rfl hcancels

variable {s : PaymentDesk ρ}

theorem order?_some {orderId : ObjectId} (h : s.order? orderId = some order) :
    order ∈ s.orders ∧ order.id = orderId := by
  unfold order? at h
  have hid := List.find?_some h
  exact ⟨List.mem_of_find?_eq_some h, of_decide_eq_true hid⟩

theorem captureOrder_cases (s : PaymentDesk ρ) (orderId : ObjectId) :
    (Idle service (.handleOnlineOrderFinance orderId) s ∧ (s.captureOrder orderId).2 = s) ∨
      ∃ order, s.order? orderId = some order ∧
        ¬ order.financeFlags.onlinePaymentCaptured = true ∧ ¬ captureAmount order.toOrder ≤ 0 ∧
        ∃ credits, (s.captureOrder orderId).2
          = { s.updateOrder orderId capture with credits } := by
  unfold captureOrder
  cases horder : s.order? orderId with
  | none =>
    refine .inl ⟨fun order h => ?_, rfl⟩
    rw [horder] at h
    cases h
  | some order =>
    dsimp only
    split
    next hcaptured =>
      refine .inl ⟨fun order' h => .inl ?_, rfl⟩
      cases horder.symm.trans h
      exact hcaptured
    next hcaptured =>
      split
      next hamount =>
        refine .inl ⟨fun order' h => .inr ?_, rfl⟩
        cases horder.symm.trans h
        exact hamount
      next hamount => exact .inr ⟨order, rfl, hcaptured, hamount, _, rfl⟩

theorem updateRefunds_of_same {orderId : ObjectId} {f : Option CheckoutOrder → ρ → ρ}
    (h : f (s.order? orderId) (s.refunds orderId) = s.refunds orderId) :
    s.updateRefunds orderId f = s := by
  unfold updateRefunds
  rw [h, update_eq_self]

variable {kind : Kind}

theorem view_effect {part : Part} (h : ¬ Writes kind part) (s : PaymentDesk ρ) :
    (done service kind s).2.documents.view part = s.documents.view part := by
  cases kind with
  | savePayment index loaded edited =>
    cases part with
    | payments =>
      have heq : loaded = edited := not_not.mp h
      subst heq
      change s.payments.modify index (savedPayment loaded loaded) = s.payments
      rw [show savedPayment loaded loaded = id from funext (savedPayment_self loaded)]
      exact List.modify_id index s.payments
    | _ => rfl
  | createPayment payment =>
    unfold done effect
    dsimp only
    split
    · rfl
    · cases part with
      | payments => exact absurd trivial h
      | _ => rfl
  | handleOnlineOrderFinance orderId =>
    change (s.captureOrder orderId).2.documents.view part = _
    rcases captureOrder_cases service s orderId with ⟨-, hsame⟩ | ⟨-, -, -, -, credits, hset⟩
    · rw [hsame]
    · rw [hset]
      cases part with
      | orders => exact absurd trivial h
      | captured orderId' =>
        refine (map_map ..).trans (map_congr_left fun order _ => ?_)
        simp only [comp]
        split
        next hid =>
          have hne : order.id ≠ orderId' := fun heq => h (hid.symm.trans heq)
          simp [hne]
        next => rfl
      | workflow orderId' =>
        refine (map_map ..).trans (map_congr_left fun order _ => ?_)
        simp only [comp]
        split
        · simp
        · rfl
      | _ => rfl
  | moveToSellerPending orderId expiresAt =>
    cases part with
    | orders => exact absurd trivial h
    | captured orderId' =>
      refine (map_map ..).trans (map_congr_left fun order _ => ?_)
      simp only [comp]
      split
      · simp
      · rfl
    | workflow orderId' =>
      refine (map_map ..).trans (map_congr_left fun order _ => ?_)
      simp only [comp]
      split
      next hid =>
        have hne : order.id ≠ orderId' := fun heq => h (hid.symm.trans heq)
        simp [hne]
      next => rfl
    | _ => rfl
  | cancelUnpaid orderIds reason =>
    cases part with
    | orders | workflow => exact absurd trivial h
    | captured orderId' =>
      refine (map_map ..).trans (map_congr_left fun order _ => ?_)
      simp only [comp]
      split
      · simp
      · rfl
    | _ => rfl
  | setPaymentStatus orderIds status =>
    cases part with
    | orders => exact absurd trivial h
    | captured | workflow =>
      refine (map_map ..).trans (map_congr_left fun order _ => ?_)
      simp only [comp]
      split
      · rfl
      · rfl
    | _ => rfl
  | updateGroup checkoutGroupId status =>
    cases part with
    | groups => exact absurd trivial h
    | _ => rfl
  | onLatePaymentCapture | recordExternalCancellation =>
    cases part with
    | allRefunds => exact absurd trivial h
    | refunds orderId' => exact update_of_ne (Ne.symm h) _ _
    | _ => rfl
  | handleGatewayRefundUpdate gatewayRefundId status =>
    cases part with
    | allRefunds | refunds => exact absurd trivial h
    | _ => rfl
  | createEvent eventId =>
    unfold done effect
    dsimp only
    split
    · rfl
    · rfl
  | findTarget scope =>
    cases scope with
    | group | order => rfl
  | _ => rfl

/-- A call that leaves the part it is recognised by had nothing to change. -/
theorem idle_of_view
    (h : ∀ part, tracked kind = some part →
      (done service kind s).2.documents.view part = s.documents.view part) :
    Idle service kind s := by
  cases kind with
  | savePayment index loaded edited =>
    intro payment hpayment
    have hpayments : s.payments.modify index (savedPayment loaded edited) = s.payments :=
      h .payments rfl
    have hat := congrArg (fun l => l[index]?) hpayments
    simp only [List.getElem?_modify_eq, hpayment] at hat
    exact Option.some.inj hat
  | createPayment payment =>
    by_contra hfresh
    change ¬ s.payments.any (fun p => decide (p.gatewayOrderId = payment.gatewayOrderId)) = true
      at hfresh
    have hpayments : (done service (.createPayment payment) s).2.payments = s.payments :=
      h .payments rfl
    unfold done effect at hpayments
    dsimp only at hpayments
    rw [if_neg hfresh] at hpayments
    have hlength := congrArg List.length hpayments
    simp at hlength
  | handleOnlineOrderFinance orderId =>
    rcases captureOrder_cases service s orderId with
      ⟨hidle, -⟩ | ⟨order, horder, huncaptured, -, credits, hset⟩
    · exact hidle
    · obtain ⟨hmem, hid⟩ := order?_some horder
      have hcaptured : (s.captureOrder orderId).2.documents.view (.captured orderId) = _ :=
        h (.captured orderId) rfl
      rw [hset] at hcaptured
      have hat := map_inj_left.mp ((map_map ..).symm.trans hcaptured) order hmem
      simp [comp, hid, huncaptured, capture_onlinePaymentCaptured] at hat
  | moveToSellerPending orderId expiresAt =>
    intro order hmem hid
    by_contra hfilter
    have hmoved := moveToSellerPending_workflowStatus (eq_true_of_ne_false hfilter)
    have hat := map_inj_left.mp
      ((map_map ..).symm.trans (h (.workflow orderId) rfl)) order hmem
    simp [comp, hid, hmoved.1, hmoved.2] at hat
  | cancelUnpaid orderIds reason =>
    intro order hmem hid
    have hat := map_ite_eq_self.mp (h .orders rfl) order hmem hid
    exact (paymentFailed_eq_self_iff order reason).mp hat
  | setPaymentStatus orderIds status =>
    intro order hmem hid
    have hat := map_ite_eq_self.mp (h .orders rfl) order hmem hid
    exact (congrArg (fun o : CheckoutOrder => o.paymentStatus) hat).symm
  | updateGroup checkoutGroupId status => exact map_ite_eq_self.mp (h .groups rfl)
  | onLatePaymentCapture orderId =>
    exact (update_self ..).symm.trans (h (.refunds orderId) rfl)
  | recordExternalCancellation orderId reason =>
    exact (update_self ..).symm.trans (h (.refunds orderId) rfl)
  | handleGatewayRefundUpdate gatewayRefundId status => exact h .allRefunds rfl
  | _ => trivial

theorem documents_of_idle (h : Idle service kind s) :
    (done service kind s).2.documents = s.documents := by
  cases kind with
  | savePayment index loaded edited =>
    have hpayments : s.payments.modify index (savedPayment loaded edited) = s.payments := by
      refine List.ext_getElem? fun i => ?_
      by_cases hi : index = i
      · subst hi
        rw [List.getElem?_modify_eq]
        cases hpayment : s.payments[index]? with
        | none => rfl
        | some payment => exact congrArg some (h payment hpayment)
      · exact List.getElem?_modify_ne _ _ hi
    exact congrArg (fun payments => { s.documents with payments }) hpayments
  | createPayment payment =>
    change s.payments.any (fun p => decide (p.gatewayOrderId = payment.gatewayOrderId)) = true at h
    unfold done effect
    dsimp only
    rw [if_pos h]
  | handleOnlineOrderFinance orderId =>
    rcases captureOrder_cases service s orderId with
      ⟨-, hsame⟩ | ⟨order, horder, huncaptured, hamount, -⟩
    · exact congrArg documents hsame
    · exact absurd (h order horder) (not_or.mpr ⟨huncaptured, hamount⟩)
  | moveToSellerPending orderId expiresAt =>
    have horders := map_ite_eq_self.mpr fun order hmem hid =>
      moveToSellerPending_of_not_filter (h order hmem hid)
    exact congrArg (fun orders => { s.documents with orders }) horders
  | cancelUnpaid orderIds reason =>
    have horders := map_ite_eq_self.mpr fun order hmem hid =>
      (paymentFailed_eq_self_iff order reason).mpr (h order hmem hid)
    exact congrArg (fun orders => { s.documents with orders }) horders
  | setPaymentStatus orderIds status =>
    have horders : s.orders.map (fun order =>
        if order.id ∈ orderIds then order.withPaymentStatus status else order) = s.orders := by
      refine map_ite_eq_self.mpr fun order hmem hid => ?_
      rw [← h order hmem hid]
      rfl
    exact congrArg (fun orders => { s.documents with orders }) horders
  | updateGroup checkoutGroupId status =>
    exact congrArg (fun groups => { s.documents with groups }) (map_ite_eq_self.mpr h)
  | onLatePaymentCapture orderId => exact congrArg documents (updateRefunds_of_same h)
  | recordExternalCancellation orderId reason =>
    exact congrArg documents (updateRefunds_of_same h)
  | handleGatewayRefundUpdate gatewayRefundId status =>
    exact congrArg (fun refunds => { s.documents with refunds }) h
  | createEvent eventId =>
    unfold done effect
    dsimp only
    split
    · rfl
    · rfl
  | findTarget scope =>
    cases scope with
    | group | order => rfl
  | _ => rfl

def documentFootprint : Footprint (done service) where
  Result := Documents ρ
  result := documents
  Part := Part
  Value := Part.Value ρ
  view := Documents.view
  track := tracked
  writes := Writes
  idle := Idle service
  frame := fun h s => view_effect service h s
  idle_of_view := fun h => idle_of_view service h
  result_of_idle := fun h => documents_of_idle service h

end Calls

/-! ## The webhooks are linear -/

section Programs

variable {ρ : Type} (service : RefundService ρ)

variable {sellerPendingUntil : Date}

theorem captureOne_all {P : Kind → Prop} {order : CheckoutOrder}
    (hcapture : P (.handleOnlineOrderFinance order.id)) (hlate : P (.onLatePaymentCapture order.id))
    (hmove : P (.moveToSellerPending order.id sellerPendingUntil)) :
    (captureOne sellerPendingUntil order).All P :=
  (All.perform hcapture).bind fun _ =>
    All.ite ((All.perform hlate).tryCatch fun _ => All.ret) (All.perform hmove)

variable {nextStatus : PaymentStatus}

theorem updateCheckoutGroupPaymentStatus_all {P : Kind → Prop} {checkoutGroupId : Option String}
    (h : ∀ id, P (.updateGroup id nextStatus)) :
    (updateCheckoutGroupPaymentStatus checkoutGroupId nextStatus).All P := by
  cases checkoutGroupId with
  | none => trivial
  | some id => exact All.perform (h id)

/-- The calls that the side effects of an outcome are made of. -/
def SideEffect : Kind → Prop
  | .findOrders _ | .handleOnlineOrderFinance _ | .onLatePaymentCapture _
  | .moveToSellerPending _ _ | .updateGroup _ _ | .cancelUnpaid _ _ | .setPaymentStatus _ _
  | .recordExternalCancellation _ _ | .announceCancelled _ => True
  | _ => False

theorem handleOrderSideEffects_all {payment : Payment} {reason : String} :
    (handleOrderSideEffects sellerPendingUntil payment nextStatus reason).All SideEffect := by
  refine (All.perform trivial).bind fun orders => All.ite All.ret ?_
  have hgroup : (updateCheckoutGroupPaymentStatus payment.checkoutGroupId nextStatus).All SideEffect :=
    updateCheckoutGroupPaymentStatus_all fun _ => trivial
  have hcancel : ∀ reason, (do
      perform (Kind.cancelUnpaid (orders.map (fun order => order.id)) reason)
      updateCheckoutGroupPaymentStatus payment.checkoutGroupId nextStatus
      forEach (fun orderId => (perform
        (Kind.recordExternalCancellation orderId reason)).tryCatch (fun _ => pure ()))
        (orders.map (fun order => order.id))
      forEach (fun orderId => perform (Kind.announceCancelled orderId))
        (orders.map (fun order => order.id)) : M Unit).All SideEffect := fun reason =>
    (All.perform trivial).bind fun _ => hgroup.bind fun _ =>
      (All.forEach fun _ _ => (All.perform trivial).tryCatch fun _ => All.ret).bind
        fun _ => All.forEach fun _ _ => All.perform trivial
  cases nextStatus with
  | captured =>
    exact (All.forEach fun _ _ => captureOne_all trivial trivial trivial).bind fun _ => hgroup
  | failed | cancelled => exact hcancel _
  | refunded => exact (All.perform trivial).bind fun _ => hgroup
  | _ => exact All.perform trivial

theorem done_orders_id (kind : Kind) (s : PaymentDesk ρ) :
    (done service kind s).2.orders.map (fun order => order.id)
      = s.orders.map (fun order => order.id) := by
  have hmap : ∀ f : CheckoutOrder → CheckoutOrder, (∀ order, (f order).id = order.id) →
      (s.orders.map f).map (fun order => order.id) = s.orders.map (fun order => order.id) :=
    fun f hf => (map_map ..).trans (map_congr_left fun order _ => hf order)
  cases kind with
  | handleOnlineOrderFinance orderId =>
    change (s.captureOrder orderId).2.orders.map _ = _
    rcases captureOrder_cases service s orderId with ⟨-, hsame⟩ | ⟨-, -, -, -, credits, hset⟩
    · rw [hsame]
    · rw [hset]
      refine hmap _ fun order => ?_
      split
      · exact capture_id order
      · rfl
  | moveToSellerPending orderId expiresAt =>
    refine hmap _ fun order => ?_
    split
    · exact moveToSellerPending_id order expiresAt
    · rfl
  | cancelUnpaid orderIds reason =>
    refine hmap _ fun order => ?_
    split
    · exact paymentFailed_id order reason
    · rfl
  | setPaymentStatus orderIds status =>
    refine hmap _ fun order => ?_
    split
    · rfl
    · rfl
  | createEvent | createPayment =>
    unfold done effect
    dsimp only
    split
    · rfl
    · rfl
  | findTarget scope =>
    cases scope with
    | group | order => rfl
  | _ => rfl

def OrdersDistinct (s : PaymentDesk ρ) : Prop := (s.orders.map (fun order => order.id)).Nodup

instance (s : PaymentDesk ρ) : Decidable (OrdersDistinct s) := inferInstanceAs (Decidable (List.Nodup _))

variable {s : PaymentDesk ρ}

theorem OrdersDistinct.run (h : OrdersDistinct s) {α : Type} (p : M α) :
    OrdersDistinct (p.run (done service) s).2 :=
  run_keeps (P := fun _ => True) (fun kind _ s' hs' => by
    unfold OrdersDistinct
    rw [done_orders_id]
    exact hs') (all_of_forall (fun _ => trivial) p) h

theorem relatedOrders_distinct (h : OrdersDistinct s) (payment : Payment) :
    ((s.relatedOrders payment).map (fun order => order.id)).Nodup := by
  unfold relatedOrders
  split
  · exact h.sublist (List.filter_sublist.map _)
  · split
    · exact h.sublist (List.filter_sublist.map _)
    · cases s.order? payment.order with
      | none => exact List.nodup_nil
      | some order => exact List.nodup_singleton _

variable {service}

theorem linear_bind {α β : Type} {p : M α} {f : α → M β} (hs : OrdersDistinct s)
    (hp : (documentFootprint service).Linear p s)
    (hapart : ∀ a, (documentFootprint service).Apart p (f a))
    (hf : ∀ a s', OrdersDistinct s' → (documentFootprint service).Linear (f a) s') :
    (documentFootprint service).Linear (p >>= f) s := by
  refine hp.bind hapart fun a s' hrun => hf a s' ?_
  have hrest := hs.run service p
  rw [hrun] at hrest
  exact hrest

theorem apart_of_untracked {kind : Kind} (h : tracked kind = none) {β : Type} (q : M β) :
    (documentFootprint service).Apart (perform kind : M kind.Reply) q :=
  All.perform fun part hpart => absurd (h.symm.trans hpart) (by simp)

theorem linear_captureOne (sellerPendingUntil : Date) (order : CheckoutOrder) (s : PaymentDesk ρ) :
    (documentFootprint service).Linear (captureOne sellerPendingUntil order) s := by
  refine (Linear.call _ s).bind (fun _ => ?_) fun _ s' _ => ?_
  · refine All.perform fun part hpart => ?_
    cases hpart
    exact All.ite ((All.perform id).tryCatch fun _ => All.ret) (All.perform id)
  · exact Linear.ite (fun _ => Linear.attempt rfl updateRefunds_of_same)
      fun _ => Linear.call _ s'

/-- The captures of two orders have nothing in common. -/
theorem apart_captureOne {order order' : CheckoutOrder} (h : order.id ≠ order'.id) :
    (documentFootprint service).Apart (captureOne sellerPendingUntil order)
      (captureOne sellerPendingUntil order') := by
  refine captureOne_all ?_ ?_ ?_
  · intro part hpart
    cases hpart
    exact captureOne_all (Ne.symm h) id id
  · intro part hpart
    cases hpart
    exact captureOne_all id (Ne.symm h) id
  · intro part hpart
    cases hpart
    exact captureOne_all id id (Ne.symm h)

theorem linear_updateCheckoutGroupPaymentStatus (checkoutGroupId : Option String)
    (nextStatus : PaymentStatus) (s : PaymentDesk ρ) :
    (documentFootprint service).Linear
      (updateCheckoutGroupPaymentStatus checkoutGroupId nextStatus) s := by
  cases checkoutGroupId with
  | none => trivial
  | some id => exact Linear.call _ s

variable {orderIds : List ObjectId}

theorem linear_announcements (hids : orderIds.Nodup) (reason : String) (s : PaymentDesk ρ) :
    (documentFootprint service).Linear (do
      forEach (fun orderId => (perform
        (Kind.recordExternalCancellation orderId reason)).tryCatch (fun _ => pure ())) orderIds
      forEach (fun orderId => perform (Kind.announceCancelled orderId)) orderIds : M Unit) s := by
  refine (Linear.forEach ?_ ?_ s).bind (fun _ => ?_) fun _ s' _ => ?_
  · exact fun orderId _ s => Linear.attempt rfl updateRefunds_of_same
  · refine hids.imp fun {orderId orderId'} hne => ?_
    refine (All.perform fun part hpart => ?_).tryCatch fun _ => All.ret
    cases hpart
    refine All.tryCatch (All.perform ?_) fun _ => All.ret
    exact Ne.symm hne
  · refine All.forEach fun orderId _ => ?_
    refine (All.perform fun part hpart => ?_).tryCatch fun _ => All.ret
    cases hpart
    exact All.forEach fun _ _ => All.perform id
  · refine Linear.forEach (fun _ _ s => Linear.call _ s) ?_ s'
    exact List.pairwise_of_forall fun _ _ => apart_of_untracked rfl _

theorem announcements_all {part : Part} (hpart : part = .orders ∨ part = .groups)
    (orderIds : List ObjectId) (reason : String) : (do
      forEach (fun orderId => (perform
        (Kind.recordExternalCancellation orderId reason)).tryCatch (fun _ => pure ())) orderIds
      forEach (fun orderId => perform (Kind.announceCancelled orderId)) orderIds : M Unit).All
      (fun kind => ¬ Writes kind part) := by
  rcases hpart with rfl | rfl
  · exact (All.forEach fun _ _ => (All.perform id).tryCatch fun _ => All.ret).bind
      fun _ => All.forEach fun _ _ => All.perform id
  · exact (All.forEach fun _ _ => (All.perform id).tryCatch fun _ => All.ret).bind
      fun _ => All.forEach fun _ _ => All.perform id

theorem linear_cancellation (hids : orderIds.Nodup) (checkoutGroupId : Option String)
    (nextStatus : PaymentStatus) (reason : String) (s : PaymentDesk ρ) :
    (documentFootprint service).Linear (do
      perform (Kind.cancelUnpaid orderIds reason)
      updateCheckoutGroupPaymentStatus checkoutGroupId nextStatus
      forEach (fun orderId => (perform
        (Kind.recordExternalCancellation orderId reason)).tryCatch (fun _ => pure ())) orderIds
      forEach (fun orderId => perform (Kind.announceCancelled orderId)) orderIds : M Unit) s := by
  refine (Linear.call _ s).bind (fun _ => ?_) fun _ s₁ _ => ?_
  · refine All.perform fun part hpart => ?_
    cases hpart
    exact (updateCheckoutGroupPaymentStatus_all fun _ => id).bind
      fun _ => announcements_all (.inl rfl) orderIds reason
  refine (linear_updateCheckoutGroupPaymentStatus checkoutGroupId nextStatus s₁).bind (fun _ => ?_)
    fun _ s₂ _ => linear_announcements hids reason s₂
  refine updateCheckoutGroupPaymentStatus_all fun id part hpart => ?_
  cases hpart
  exact announcements_all (.inr rfl) orderIds reason

theorem linear_handleOrderSideEffects (hs : OrdersDistinct s) (sellerPendingUntil : Date)
    (payment : Payment) (nextStatus : PaymentStatus) (reason : String) :
    (documentFootprint service).Linear
      (handleOrderSideEffects sellerPendingUntil payment nextStatus reason) s := by
  refine (Linear.call _ s).bind (fun _ => apart_of_untracked rfl _) fun orders s' hrun => ?_
  have horders : orders = s.relatedOrders payment := by
    rw [run_perform] at hrun
    cases hrun
    rfl
  have hids : (orders.map (fun order => order.id)).Nodup :=
    horders ▸ relatedOrders_distinct hs payment
  refine Linear.ite (fun _ => Linear.ret) fun _ => ?_
  cases nextStatus with
  | captured =>
    refine (Linear.forEach (fun order _ s => ?_) ?_ s').bind (fun _ => ?_)
      fun _ s₁ _ => ?_
    · exact linear_captureOne sellerPendingUntil order s
    · exact (List.pairwise_map.mp hids).imp fun hne => apart_captureOne hne
    · refine All.forEach fun order _ => captureOne_all ?_ ?_ ?_
      all_goals
        intro part hpart
        cases hpart
        exact updateCheckoutGroupPaymentStatus_all fun _ => id
    · exact linear_updateCheckoutGroupPaymentStatus payment.checkoutGroupId .captured s₁
  | failed => exact linear_cancellation hids payment.checkoutGroupId .failed _ s'
  | cancelled => exact linear_cancellation hids payment.checkoutGroupId .cancelled _ s'
  | refunded =>
    refine (Linear.call _ s').bind (fun _ => ?_) fun _ s₁ _ => ?_
    · refine All.perform fun part hpart => ?_
      cases hpart
      exact updateCheckoutGroupPaymentStatus_all fun _ => id
    · exact linear_updateCheckoutGroupPaymentStatus payment.checkoutGroupId .refunded s₁
  | _ => exact Linear.call _ s'

theorem afterTransition_all (index : ℕ) (payment : Payment) (eventId : String)
    (sellerPendingUntil : Date) (nextStatus : PaymentStatus) (reason : String) : (do
      perform (Kind.savePayment index payment payment)
      perform (Kind.updateEvent eventId)
      handleOrderSideEffects sellerPendingUntil payment nextStatus reason : M Unit).All
      (fun kind => ¬ Writes kind .payments) := by
  refine All.bind (All.perform ?_) fun _ => All.bind (All.perform id) fun _ => ?_
  · exact not_not.mpr rfl
  refine handleOrderSideEffects_all.mono fun kind hkind hwrites => ?_
  cases kind with
  | savePayment | createPayment => exact hkind
  | _ => exact hwrites

theorem linear_processPaymentEvent (hs : OrdersDistinct s) (gateway : PaymentGateway)
    (clauses : List PaymentClause) (decoded : Decoded) (label reason : String)
    (sellerPendingUntil : Date) :
    (documentFootprint service).Linear
      (processPaymentEvent gateway clauses decoded label reason sellerPendingUntil) s := by
  refine linear_bind hs (Linear.call _ s) (fun _ => apart_of_untracked rfl _)
    fun found s₁ hs₁ => ?_
  match found with
  | none => exact Linear.ret
  | some (index, payment) =>
    dsimp only
    refine linear_bind hs₁ ?_ (fun payment => ?_) fun payment s₂ hs₂ => ?_
    · unfold transitionPaymentState
      refine Linear.ite (fun _ => ?_) fun _ => Linear.throw
      refine (Linear.call _ s₁).bind (fun _ => ?_) fun _ _ _ => Linear.ret
      exact All.perform fun _ _ => All.ret
    · unfold transitionPaymentState
      refine All.ite ((All.perform fun part hpart => ?_).bind fun _ => All.ret)
        All.throw
      cases hpart
      exact afterTransition_all index payment decoded.eventId sellerPendingUntil _ reason
    refine linear_bind hs₂ (Linear.call _ s₂) (fun _ => ?_) fun _ s₃ hs₃ => ?_
    · refine All.perform fun part hpart => ?_
      cases hpart
      exact (afterTransition_all index payment decoded.eventId sellerPendingUntil _ reason).2 (.ok ())
    refine linear_bind hs₃ (Linear.call _ s₃) (fun _ => apart_of_untracked rfl _)
      fun _ s₄ hs₄ => ?_
    exact linear_handleOrderSideEffects hs₄ sellerPendingUntil payment _ reason

/-- The work of a webhook, behind the event it stores. -/
def storeFirst (eventId : String) (work : M Unit) : M Unit := do
  let created ← perform (Kind.createEvent eventId)
  if created = false then pure () else work

/-- A webhook is turned away, or stores its event, under an id that is the same in all deliveries,
and goes on with programs that are linear. -/
theorem process_cases (service : RefundService ρ) (webhook : Webhook) :
    (∃ e, ∀ sellerPendingUntil, webhook.process sellerPendingUntil = .throw e) ∨
      ∃ (eventId : String) (work : Date → M Unit),
        (∀ sellerPendingUntil,
          webhook.process sellerPendingUntil = storeFirst eventId (work sellerPendingUntil)) ∧
        ∀ sellerPendingUntil s, OrdersDistinct s →
          (documentFootprint service).Linear (work sellerPendingUntil) s := by
  cases webhook with
  | phonePe isValid decoded =>
    cases isValid with
    | false => exact .inl ⟨_, fun _ => rfl⟩
    | true =>
      exact .inr ⟨decoded.eventId, _, fun _ => rfl, fun sellerPendingUntil s hs =>
        linear_processPaymentEvent hs _ _ _ _ _ sellerPendingUntil⟩
  | razorpay isValid decoded refundEntity =>
    cases isValid with
    | false => exact .inl ⟨_, fun _ => rfl⟩
    | true =>
      cases refundEntity with
      | none =>
        exact .inr ⟨decoded.eventId, _, fun _ => rfl, fun sellerPendingUntil s hs =>
          linear_processPaymentEvent hs _ _ _ _ _ sellerPendingUntil⟩
      | some refund =>
        refine .inr ⟨decoded.eventType.getD decoded.state ++ "_" ++ toString refund.id, _,
          fun _ => rfl, fun sellerPendingUntil s hs => ?_⟩
        exact Linear.ite (fun _ => Linear.call _ s) fun _ =>
          linear_processPaymentEvent hs _ _ _ _ _ sellerPendingUntil

theorem linear_storeFirst {eventId : String} {work : M Unit} (hs : OrdersDistinct s)
    (hwork : ∀ s, OrdersDistinct s → (documentFootprint service).Linear work s) :
    (documentFootprint service).Linear (storeFirst eventId work) s := by
  refine linear_bind hs (Linear.call _ s) (fun _ => apart_of_untracked rfl _)
    fun created s' hs' => ?_
  exact Linear.ite (fun _ => Linear.ret) fun _ => hwork s' hs'

end Programs

/-! ## Deliveries of a webhook that stores its event -/

section Storing

variable {ρ : Type} {service : RefundService ρ} {eventId : String} {work : M Unit}
  {s : PaymentDesk ρ}

theorem runWith_refused (e : ServiceError) (script : Script ServiceError) :
    (storeFirst eventId work).runWith (done service) (some (.refused e) :: script) s = (none, s) :=
  runWith_throw e script s

theorem runWith_lost (e : ServiceError) (script : Script ServiceError) :
    (storeFirst eventId work).runWith (done service) (some (.lost e) :: script) s
      = (none, (done service (.createEvent eventId) s).2) :=
  runWith_throw e script _

variable {script : Script ServiceError}

theorem runWith_of_not_beginsWell (h : ¬ beginsWell script = true) :
    (storeFirst eventId work).runWith (done service) script s = (none, s) := by
  match script with
  | [] => exact absurd rfl h
  | none :: script => rfl
  | some .done :: script => exact absurd rfl h
  | some (.lost e) :: script => exact absurd rfl h
  | some (.refused e) :: script => exact runWith_refused e script

theorem mem_events_done (kind : Kind) (h : eventId ∈ s.events) :
    eventId ∈ (done service kind s).2.events := by
  cases kind with
  | createEvent eventId' =>
    unfold done effect
    dsimp only
    split
    · exact h
    · exact List.mem_append_left _ h
  | createPayment payment =>
    unfold done effect
    dsimp only
    split
    · exact h
    · exact h
  | handleOnlineOrderFinance orderId =>
    change eventId ∈ (s.captureOrder orderId).2.events
    rcases captureOrder_cases service s orderId with ⟨-, hsame⟩ | ⟨-, -, -, -, credits, hset⟩
    · rw [hsame]
      exact h
    · rw [hset]
      exact h
  | findTarget scope =>
    cases scope with
    | group | order => exact h
  | _ => exact h

theorem mem_events_runWith (service : RefundService ρ) (h : eventId ∈ s.events) (p : M Unit) (script : Script ServiceError) :
    eventId ∈ (p.runWith (done service) script s).2.events :=
  runWith_keeps (P := fun _ => True) (I := fun s : PaymentDesk ρ => eventId ∈ s.events)
    (fun kind _ _ hs => mem_events_done kind hs) (all_of_forall (fun _ => trivial) p) script h

theorem mem_events_createEvent :
    eventId ∈ (done service (.createEvent eventId) s).2.events := by
  unfold done effect
  dsimp only
  split
  next h => exact h
  next => simp

theorem mem_events_of_beginsWell (service : RefundService ρ) (eventId : String) (work : M Unit)
    (s : PaymentDesk ρ) (h : beginsWell script = true) :
    eventId ∈ ((storeFirst eventId work).runWith (done service) script s).2.events := by
  have hstored : eventId ∈ (done service (.createEvent eventId) s).2.events := mem_events_createEvent
  match script with
  | [] => exact mem_events_runWith service hstored _ []
  | some .done :: script => exact mem_events_runWith service hstored _ script
  | some (.lost e) :: script =>
    rw [runWith_lost]
    exact hstored

theorem documents_of_stored (service : RefundService ρ) (work : M Unit) (h : eventId ∈ s.events)
    (script : Script ServiceError) :
    ((storeFirst eventId work).runWith (done service) script s).2.documents = s.documents := by
  have hcreate : done service (.createEvent eventId) s = (.ok false, s) := if_pos h
  match script with
  | [] =>
    change (runWith (done service) _ [] (done service (.createEvent eventId) s).2).2.documents = _
    rw [hcreate]
    exact congrArg documents (runWith_pure () [] s)
  | none :: script => rfl
  | some .done :: script =>
    change (runWith (done service) _ script (done service (.createEvent eventId) s).2).2.documents
      = _
    rw [hcreate]
    exact congrArg documents (runWith_pure () script s)
  | some (.refused e) :: script => rw [runWith_refused]
  | some (.lost e) :: script => rw [runWith_lost, hcreate]

end Storing

/-! ## Redelivery -/

section Redelivery

variable {ρ : Type} {service : RefundService ρ} {webhook : Webhook}

theorem redeliver_of_throw {e : ServiceError} (h : ∀ t, webhook.process t = .throw e)
    (deliveries : List (Date × Script ServiceError)) (s : PaymentDesk ρ) :
    redeliver service webhook deliveries s = none := by
  induction deliveries generalizing s with
  | nil => rfl
  | cons delivery rest ih =>
    unfold redeliver
    rw [h, runWith_throw]
    exact ih s

section Storing

variable {eventId : String} {work : Date → M Unit}
  (hprocess : ∀ t, webhook.process t = storeFirst eventId (work t))

include hprocess

variable {deliveries : List (Date × Script ServiceError)}

theorem redeliver_of_stored {s s' : PaymentDesk ρ} (hstored : eventId ∈ s.events)
    (h : redeliver service webhook deliveries s = some s') :
    s'.documents = s.documents := by
  induction deliveries generalizing s with
  | nil => cases h
  | cons delivery rest ih =>
    have hdocuments := documents_of_stored service (work delivery.1) hstored delivery.2
    have hevents := mem_events_runWith service hstored
      (storeFirst eventId (work delivery.1)) delivery.2
    unfold redeliver at h
    rw [hprocess] at h
    split at h
    next s₁ hrun =>
      rw [hrun] at hdocuments
      cases h
      exact hdocuments
    next s₁ hrun =>
      rw [hrun] at hdocuments hevents
      exact (ih hevents h).trans hdocuments

/-- What is left in the end is what the delivery that came to store the event left. -/
theorem redeliver_documents {s s' : PaymentDesk ρ}
    (h : redeliver service webhook deliveries s = some s') :
    s'.documents = ((webhook.process (storingDelivery deliveries).1).runWith (done service)
      (storingDelivery deliveries).2 s).2.documents := by
  induction deliveries with
  | nil => cases h
  | cons delivery rest ih =>
    by_cases hwell : beginsWell delivery.2 = true
    · have hdelivery : storingDelivery (delivery :: rest) = delivery := by
        simp [storingDelivery, hwell]
      rw [hdelivery, hprocess]
      have hevents := mem_events_of_beginsWell service eventId (work delivery.1) s hwell
      unfold redeliver at h
      rw [hprocess] at h
      split at h
      next s₁ hrun =>
        cases h
        rw [hrun]
      next s₁ hrun =>
        rw [hrun] at hevents ⊢
        exact redeliver_of_stored hprocess hevents h
    · have hdelivery : storingDelivery (delivery :: rest) = storingDelivery rest := by
        simp [storingDelivery, hwell]
      rw [hdelivery]
      unfold redeliver at h
      rw [hprocess, runWith_of_not_beginsWell hwell] at h
      exact ih h

end Storing

end Redelivery

/-- A webhook that is delivered until it is accepted leaves payments, orders, groups and refunds as
one uninterrupted processing does exactly when the failures of the delivery that came to store its
event are harmless. -/
theorem redelivery_recovers_iff {ρ : Type} (service : RefundService ρ) (webhook : Webhook)
    (deliveries : List (Date × Script ServiceError)) (s s' : PaymentDesk ρ) (hs : OrdersDistinct s)
    (haccepted : redeliver service webhook deliveries s = some s') :
    s'.documents = (processed service webhook (storingDelivery deliveries).1 s).documents ↔
      (documentFootprint service).Harmless (webhook.process (storingDelivery deliveries).1)
        (storingDelivery deliveries).2 s := by
  rcases process_cases service webhook with ⟨e, hthrow⟩ | ⟨eventId, work, hprocess, hlinear⟩
  · rw [redeliver_of_throw hthrow] at haccepted
    cases haccepted
  · rw [redeliver_documents hprocess haccepted]
    unfold processed
    rw [hprocess]
    exact (linear_storeFirst hs (hlinear _)).result_iff (storingDelivery deliveries).2

/-! ## A failure after the event was stored -/

/-- The gateway says that the first attempt was paid. -/
def completedWebhook : Webhook :=
  .phonePe true { eventId := "T1", merchantOrderId := some "CHK-1-A1", state := "COMPLETED" }

/-- The search for the attempt fails, and the gateway tries again later. -/
def failedLookup : List (Date × Script ServiceError) :=
  [(100, [some .done, some (.refused ⟨"connection lost", none⟩)]), (200, [])]

theorem failedLookup_accepted :
    redeliver noRefunds completedWebhook failedLookup checkoutDesk
      = some { checkoutDesk with events := ["T1"] } := rfl

/-- The second delivery is accepted, and the attempt stays unpaid. -/
theorem redelivered_payment_unpaid :
    ¬ ∀ (webhook : Webhook) (deliveries : List (Date × Script ServiceError)) (s s' : PaymentDesk Unit),
      OrdersDistinct s → redeliver noRefunds webhook deliveries s = some s' →
        s'.documents = (processed noRefunds webhook (storingDelivery deliveries).1 s).documents := by
  intro recovers
  have hsame := recovers completedWebhook failedLookup _ _ (by decide) failedLookup_accepted
  have hpaid : (processed noRefunds completedWebhook (storingDelivery failedLookup).1
      checkoutDesk).documents.payments.map (fun payment => payment.status) = [.captured] := by
    decide +kernel
  rw [← hsame] at hpaid
  exact absurd hpaid (by decide)

theorem redelivery_recovers_iff_lookup :
    ({ checkoutDesk with events := ["T1"] } : PaymentDesk Unit).documents
        = (processed noRefunds completedWebhook (storingDelivery failedLookup).1
          checkoutDesk).documents ↔
      (documentFootprint noRefunds).Harmless
        (completedWebhook.process (storingDelivery failedLookup).1) (storingDelivery failedLookup).2
        checkoutDesk :=
  redelivery_recovers_iff noRefunds completedWebhook failedLookup checkoutDesk _ (by decide)
    failedLookup_accepted

end DiscountBazar.Payments
