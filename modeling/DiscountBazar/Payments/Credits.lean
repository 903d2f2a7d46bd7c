/-
Captured money and the credits of the platform's wallet.

The handlers come one after the other. A handler that learns of a capture first records it in the
attempt and then credits the orders, one by one; nothing but another report of the same capture
makes up for a credit that did not come. So the condition has two parts: which captures the gateway
reports, and that no call fails while one of them is not recorded and credited yet.
-/
import DiscountBazar.Payments.CheckoutBooks

namespace DiscountBazar.Payments

open Finance Tasks Workflow Runs PaymentDesk
open Prog (perform All Ensures)
open List Books CheckoutOrder

/-! ## Visits -/

/-- What the cancellation service's books say of an order: what it has given back to the customer,
and what it has taken from the platform's wallet for it. -/
structure RefundAccounts (ρ : Type) where
  refunded : ρ → ℤ
  debited : ρ → ℤ

/-- A request with the time it comes at, what the gateway answers while it is handled, and how the
calls of its handler go. -/
structure Visit where
  request : Request
  sellerPendingUntil : Date
  answers : Payment → StatusResponse := fun _ => {}
  initResult : InitResult := {}
  script : Script ServiceError := []

/-- The desk, and the attempts that the gateway has said it has captured. -/
structure Account (ρ : Type) where
  desk : PaymentDesk ρ
  reported : List ℕ := []

inductive Step where
  | visit (visit : Visit)
  | workflow (event : Event)

section System

variable {ρ : Type} (service : RefundService ρ) (gateway : PaymentGateway)
  (merchantOrderIdOf : PaymentScope → ℕ → String)

def Visit.answered (visit : Visit) (kind : Kind) (s : PaymentDesk ρ) :
    Except ServiceError kind.Reply × PaymentDesk ρ :=
  let response :=
    match kind with
    | .getPaymentStatus payment => visit.answers payment
    | _ => {}
  effect service { response, initResult := visit.initResult } kind s

def matching (clauses : List PaymentClause) (s : PaymentDesk ρ) : Option (ℕ × Payment) :=
  (attempts s).find? (fun attempt => clauses.any (fun clause => clause.matches attempt.2))

/-- The clauses of the search in `processRazorpayWebhook`. -/
def razorpayClauses (decoded : Decoded) : List PaymentClause :=
  decoded.merchantOrderId.toList.map PaymentClause.gatewayOrderId ++
    decoded.gatewayOrderId.toList.flatMap (fun id =>
      [PaymentClause.razorpayOrderId id, .gatewayOrderId id])

def isRefundEvent (decoded : Decoded) (refundEntity : Option RefundEntity) : Bool :=
  refundEntity.isSome && (decoded.eventType.getD decoded.state).startsWith "refund."

def razorpayEventId (decoded : Decoded) : Option RefundEntity → String
  | some refund => decoded.eventType.getD decoded.state ++ "_" ++ toString refund.id
  | none => decoded.eventId

def attemptsAbout (orderId : ObjectId) (s : PaymentDesk ρ) : List (ℕ × Payment) :=
  (attempts s).reverse.filter (fun attempt =>
    decide (attempt.2.order = orderId ∨ orderId ∈ attempt.2.orderIds))

def isOpen (attempt : ℕ × Payment) : Bool :=
  decide (attempt.2.status ∈ [PaymentStatus.created, .pending, .authorized])

/-- The attempts that the gateway says in this visit it has captured: its events say so, a signature
of it does, or its answer where it is asked. -/
def Visit.captures (visit : Visit) (s : PaymentDesk ρ) : List ℕ :=
  match visit.request with
  | .createPayment _ _ _ => []
  | .verifyStatus merchantOrderId userId =>
    ((matching [.gatewayOrderId merchantOrderId] s).toList.filter (fun attempt =>
      !userId.any (fun id => decide (attempt.2.customer ≠ id)) &&
        decide (mapStatusToInternal gateway (visit.answers attempt.2).state = .captured))).map
      Prod.fst
  | .verifySignature merchantOrderId razorpayOrderId razorpayPaymentId razorpaySignature isValid _ =>
    ((matching ((merchantOrderId.toList.map PaymentClause.gatewayOrderId) ++
      [.razorpayOrderId razorpayOrderId, .gatewayOrderId razorpayOrderId]) s).toList.filter
      (fun attempt => isValid && decide (gateway = .razorpay) &&
        decide (¬ (razorpayOrderId = "" ∨ razorpayPaymentId = "" ∨ razorpaySignature = "")) &&
        decide (attempt.2.razorpayOrderId.getD attempt.2.gatewayOrderId = razorpayOrderId))).map
      Prod.fst
  | .phonePeWebhook isValid decoded =>
    ((matching (decoded.merchantOrderId.toList.map PaymentClause.gatewayOrderId) s).toList.filter
      (fun _ => isValid &&
        decide (mapStatusToInternal .phonepe decoded.state = .captured))).map Prod.fst
  | .razorpayWebhook isValid decoded refundEntity =>
    ((matching (razorpayClauses decoded) s).toList.filter
      (fun _ => isValid && !isRefundEvent decoded refundEntity &&
        decide (mapStatusToInternal .razorpay decoded.state = .captured))).map Prod.fst
  | .reconcile orderId =>
    if (attemptsAbout orderId s).any (fun attempt => decide (attempt.2.status = .captured)) then []
    else
      (((attemptsAbout orderId s).filter isOpen).filter (fun attempt =>
        decide (mapStatusToInternal gateway (visit.answers attempt.2).state = .captured))).map
        Prod.fst

def Account.step (a : Account ρ) : Step → Account ρ
  | .visit visit =>
    { desk := ((handleRequest gateway merchantOrderIdOf visit.sellerPendingUntil
        visit.request).runWith (visit.answered service) visit.script a.desk).2
      reported := a.reported ++ visit.captures gateway a.desk }
  | .workflow event => { a with desk := happens event a.desk }

end System

/-! ## The property -/

section Property

variable {ρ : Type} (accounts : RefundAccounts ρ)

/-- What was given back for the orders of a checkout. -/
def PaymentDesk.sumFor (s : PaymentDesk ρ) (amount : ρ → ℤ) (scope : PaymentScope) : ℤ :=
  ((s.orders.filter (fun order => decide (order.row.scope = scope))).map
    (fun order => amount (s.refunds order.id))).sum

/-- An order is credited at most once, and exactly when an attempt that covers it was captured; what
the platform holds of a checkout, together with what was given back, is what was captured for it. -/
structure CreditedInFull (a : Account ρ) : Prop where
  once : ∀ orderId, (a.desk.books.creditsOf orderId).length ≤ 1
  exactly : ∀ order ∈ a.desk.orders,
    (∃ credit ∈ a.desk.credits, credit.1 = order.id) ↔
      ∃ i ∈ a.reported, ∃ payment ∈ a.desk.payments[i]?, order ∈ a.desk.relatedOrders payment
  total : ∀ scope,
    a.desk.books.creditedFor scope - a.desk.sumFor accounts.debited scope
        + a.desk.sumFor accounts.refunded scope
      = a.desk.books.capturedFor a.reported scope

/-- The checkouts are placed, nothing is paid. -/
structure JustPlaced (s : PaymentDesk ρ) : Prop where
  distinct : OrdersDistinct s
  payments : s.payments = []
  credits : s.credits = []
  uncaptured : ∀ order ∈ s.orders, order.financeFlags.onlinePaymentCaptured = false
  debited : ∀ order ∈ s.orders,
    accounts.debited (s.refunds order.id) = accounts.refunded (s.refunds order.id)

/-! ## The condition -/

variable (service : RefundService ρ) (gateway : PaymentGateway)
  (merchantOrderIdOf : PaymentScope → ℕ → String)

def Booked (reported : List ℕ) (s : PaymentDesk ρ) : Prop :=
  ∀ i ∈ reported, ∀ payment ∈ s.payments[i]?,
    payment.recorded = true ∧
      ∀ order ∈ s.relatedOrders payment, order.financeFlags.onlinePaymentCaptured = true

/-- What the cancellation service has given back it has taken from the platform's wallet. -/
def Debited (s : PaymentDesk ρ) : Prop :=
  ∀ order ∈ s.orders, accounts.debited (s.refunds order.id) = accounts.refunded (s.refunds order.id)

/-- A call whose failure is only logged. -/
def isLogged : Kind → Bool
  | .onLatePaymentCapture _ => true
  | _ => false

/-- While something that was captured is not booked, no call fails and no process dies. -/
def Visit.terms (visit : Visit) (reported : List ℕ) : Terms ServiceError (PaymentDesk ρ) Kind where
  ok := fun kind o s => (Booked reported s ∨ o = .done ∨ isLogged kind = true) ∧
    Debited accounts (o.perform (visit.answered service kind s) s).2
  mayDie := Booked reported

/-- The handler does not turn the report away before it looks at the attempt. -/
def Visit.Admitted (visit : Visit) (payment : Payment) (s : PaymentDesk ρ) : Prop :=
  match visit.request with
  | .verifySignature _ _ _ _ _ userId => userId.any (fun id => decide (payment.customer ≠ id)) = false
  | .phonePeWebhook _ decoded => decoded.eventId ∉ s.events
  | .razorpayWebhook _ decoded refundEntity => razorpayEventId decoded refundEntity ∉ s.events
  | _ => True

/-- A capture that is reported for the first time: the attempt is open, it is the only one of its
checkout that was captured, and its amount is what its orders are credited with. -/
def Visit.ReportInOrder (visit : Visit) (a : Account ρ) : Prop :=
  ∀ i ∈ visit.captures gateway a.desk, i ∉ a.reported → ∀ payment ∈ a.desk.payments[i]?,
    payment.status ∈ [PaymentStatus.created, .pending] ∧
    (∀ j ∈ a.reported ++ visit.captures gateway a.desk, ∀ payment' ∈ a.desk.payments[j]?,
      payment'.scope = payment.scope → j = i) ∧
    (payment.amount = ((a.desk.books.rowsOf payment.scope).map OrderRow.amount).sum ∧
      ∀ row ∈ a.desk.books.rowsOf payment.scope, 0 < row.amount) ∧
    visit.Admitted payment a.desk

def StepInOrder (a : Account ρ) : Step → Prop
  | .visit visit =>
    visit.ReportInOrder gateway a ∧
      (handleRequest gateway merchantOrderIdOf visit.sellerPendingUntil visit.request).Meets
        (visit.answered service)
        (visit.terms accounts service (a.reported ++ visit.captures gateway a.desk))
        visit.script a.desk
  | .workflow _ => True

instance (reported : List ℕ) (s : PaymentDesk ρ) : Decidable (Booked reported s) :=
  inferInstanceAs (Decidable (∀ i ∈ reported, ∀ payment ∈ s.payments[i]?, _ ∧ ∀ order ∈ _, _ = true))

instance (s : PaymentDesk ρ) : Decidable (Debited accounts s) :=
  inferInstanceAs (Decidable (∀ order ∈ s.orders, _ = _))

instance (visit : Visit) (reported : List ℕ) (kind : Kind) (o : Outcome ServiceError)
    (s : PaymentDesk ρ) : Decidable ((visit.terms accounts service reported).ok kind o s) :=
  inferInstanceAs (Decidable ((Booked reported s ∨ o = .done ∨ isLogged kind = true) ∧
    Debited accounts (o.perform (visit.answered service kind s) s).2))

instance (visit : Visit) (reported : List ℕ) (s : PaymentDesk ρ) :
    Decidable ((visit.terms accounts service reported).mayDie s) :=
  inferInstanceAs (Decidable (Booked reported s))

instance : (visit : Visit) → (payment : Payment) → (s : PaymentDesk ρ) →
    Decidable (visit.Admitted payment s)
  | ⟨.verifySignature _ _ _ _ _ _, _, _, _, _⟩, _, _ => inferInstanceAs (Decidable (_ = false))
  | ⟨.phonePeWebhook _ _, _, _, _, _⟩, _, _ => inferInstanceAs (Decidable (_ ∉ _))
  | ⟨.razorpayWebhook _ _ _, _, _, _, _⟩, _, _ => inferInstanceAs (Decidable (_ ∉ _))
  | ⟨.createPayment _ _ _, _, _, _, _⟩, _, _ => isTrue trivial
  | ⟨.verifyStatus _ _, _, _, _, _⟩, _, _ => isTrue trivial
  | ⟨.reconcile _, _, _, _, _⟩, _, _ => isTrue trivial

instance (visit : Visit) (a : Account ρ) : Decidable (visit.ReportInOrder gateway a) :=
  inferInstanceAs (Decidable (∀ i ∈ visit.captures gateway a.desk, i ∉ a.reported →
    ∀ payment ∈ a.desk.payments[i]?, payment.status ∈ [PaymentStatus.created, .pending] ∧
      (∀ j ∈ _, ∀ payment' ∈ a.desk.payments[j]?, _ → _) ∧ (_ ∧ ∀ row ∈ _, _) ∧ _))

instance (a : Account ρ) :
    (step : Step) → Decidable (StepInOrder accounts service gateway merchantOrderIdOf a step)
  | .visit _ => inferInstanceAs (Decidable (_ ∧ _))
  | .workflow _ => isTrue trivial

end Property

/-! ## The desk and its books -/

section Desk

variable {ρ : Type} {s : PaymentDesk ρ} {reported : List ℕ}

theorem row_mem_books {order : CheckoutOrder} (h : order ∈ s.orders) : order.row ∈ s.books.rows :=
  mem_map_of_mem h

theorem mem_relatedOrders_iff (h : s.books.Sane reported) {payment : Payment}
    (hpayment : payment ∈ s.payments) {order : CheckoutOrder} (horder : order ∈ s.orders) :
    order ∈ s.relatedOrders payment ↔ order.row.scope = payment.scope := by
  rw [← h.mem_orderIds hpayment (row_mem_books horder)]
  unfold relatedOrders
  rw [if_pos (h.orderIds_ne_nil hpayment), mem_filter]
  exact ⟨fun hmem => of_decide_eq_true hmem.2, fun hid => ⟨horder, decide_eq_true hid⟩⟩

theorem settled_of_booked (h : s.books.Sane reported) (hbooked : Booked reported s) :
    s.books.Settled reported where
  sane := h
  recorded := fun i hi payment hget hunrecorded =>
    absurd ((hbooked i hi payment hget).1.symm.trans hunrecorded) (by simp)
  credited := by
    intro i hi payment hget _ row hrow huncaptured
    obtain ⟨hmem, hscope⟩ := mem_rowsOf.mp hrow
    obtain ⟨order, horder, rfl⟩ := mem_map.mp hmem
    have hrelated := (mem_relatedOrders_iff h (mem_of_getElem? hget) horder).mpr hscope
    exact absurd (((hbooked i hi payment hget).2 order hrelated).symm.trans huncaptured) (by simp)

variable {accounts : RefundAccounts ρ}

theorem creditedInFull_of_settled {a : Account ρ} (h : a.desk.books.Settled a.reported)
    (hdebited : Debited accounts a.desk) :
    CreditedInFull accounts a where
  once := h.sane.once
  exactly := by
    intro order horder
    refine (creditsOf_ne_nil_iff h.sane (row_mem_books horder)).trans
      ((h.captured_iff (row_mem_books horder)).trans ?_)
    refine exists_congr fun i => and_congr_right fun _ => exists_congr fun payment =>
      and_congr_right fun hget => ?_
    rw [mem_relatedOrders_iff h.sane (mem_of_getElem? hget) horder]
    exact eq_comm
  total := by
    intro scope
    have hsame : a.desk.sumFor accounts.debited scope = a.desk.sumFor accounts.refunded scope :=
      congrArg sum (map_congr_left fun order hmem =>
        hdebited order (mem_filter.mp hmem).1)
    rw [hsame, h.creditedFor_eq]
    omega

theorem JustPlaced.settled (h : JustPlaced accounts s) :
    s.books.Settled [] where
  sane :=
    { distinct := by
        change ((s.orders.map row).map OrderRow.id).Nodup
        rw [map_map]
        exact h.distinct
      covers := by
        intro payment hmem
        change payment ∈ s.payments at hmem
        rw [h.payments] at hmem
        cases hmem
      primary := by
        intro payment hmem
        change payment ∈ s.payments at hmem
        rw [h.payments] at hmem
        cases hmem
      status := by
        intro payment hmem
        change payment ∈ s.payments at hmem
        rw [h.payments] at hmem
        cases hmem
      credited := by
        intro row hrow
        obtain ⟨order, horder, rfl⟩ := mem_map.mp hrow
        have huncaptured : order.row.captured = false := h.uncaptured order horder
        rw [huncaptured]
        change s.credits.filter _ = []
        rw [h.credits]
        rfl
      known := by
        intro credit hmem
        change credit ∈ s.credits at hmem
        rw [h.credits] at hmem
        cases hmem
      backed := by
        intro row hrow hcaptured
        obtain ⟨order, horder, rfl⟩ := mem_map.mp hrow
        exact absurd ((h.uncaptured order horder).symm.trans hcaptured) (by simp)
      recorded := by
        intro i payment hget
        change s.payments[i]? = some payment at hget
        rw [h.payments] at hget
        cases hget
      present := by simp
      single := by simp
      amounts := by simp }
  recorded := by
    intro i hi
    cases hi
  credited := by
    intro i hi
    cases hi

end Desk

/-! ## Calls -/

/-- The calls that leave the books as they are. -/
def KeepsBooks : Kind → Prop
  | .savePayment _ loaded edited => loaded = edited
  | .createPayment _ | .handleOnlineOrderFinance _ => False
  | _ => True

section Calls

variable {ρ : Type} {service : RefundService ρ} {visit : Visit} {s : PaymentDesk ρ}

theorem payments_of_books {s' : PaymentDesk ρ} (h : s'.books = s.books) :
    s'.payments = s.payments :=
  congrArg Books.attempts h

theorem capture_row (order : CheckoutOrder) : order.capture.row = { order.row with captured := true } := by
  unfold row
  rw [capture_onlinePaymentCaptured]
  unfold capture captured
  split
  · rfl
  · rfl

theorem moveToSellerPending_row (order : CheckoutOrder) (expiresAt : Date) :
    (order.moveToSellerPending expiresAt).row = order.row := by
  unfold moveToSellerPending Update.apply
  by_cases hfilter : (Update.sellerPending expiresAt).filter order.toWorkflowOrder = true
  · rw [if_pos hfilter]
    rfl
  · rw [if_neg hfilter]

theorem paymentFailed_row (order : CheckoutOrder) (reason : String) :
    (order.paymentFailed reason).row = order.row := by
  unfold CheckoutOrder.paymentFailed Workflow.paymentFailed
  split
  · rfl
  · rfl

theorem books_map {f : CheckoutOrder → CheckoutOrder} (hf : ∀ order, (f order).row = order.row)
    (s : PaymentDesk ρ) : ({ s with orders := s.orders.map f } : PaymentDesk ρ).books = s.books := by
  unfold books
  rw [map_map]
  congr 1
  exact map_congr_left fun order _ => hf order

theorem answered_books {kind : Kind} (h : KeepsBooks kind) (s : PaymentDesk ρ) :
    (visit.answered service kind s).2.books = s.books := by
  cases kind with
  | savePayment index loaded edited =>
    cases h
    have hpayments : s.payments.modify index (savedPayment loaded loaded) = s.payments := by
      rw [show savedPayment loaded loaded = id from funext (savedPayment_self loaded)]
      exact modify_id index s.payments
    exact congrArg (fun attempts => { s.books with attempts }) hpayments
  | createPayment | handleOnlineOrderFinance => cases h
  | moveToSellerPending orderId expiresAt =>
    refine books_map (fun order => ?_) s
    split
    · exact moveToSellerPending_row order expiresAt
    · rfl
  | cancelUnpaid orderIds reason =>
    refine books_map (fun order => ?_) s
    split
    · exact paymentFailed_row order reason
    · rfl
  | setPaymentStatus orderIds status =>
    refine books_map (fun order => ?_) s
    split
    · rfl
    · rfl
  | createEvent eventId =>
    unfold Visit.answered effect
    dsimp only
    split
    · rfl
    · rfl
  | findTarget scope =>
    cases scope with
    | group | order => rfl
  | _ => rfl

theorem books_savePayment {index : ℕ} {loaded edited : Payment} (hget : s.payments[index]? = some loaded)
    (hedited : savedPayment loaded edited loaded = edited) :
    (visit.answered service (.savePayment index loaded edited) s).2.books = s.books.save index edited := by
  have hpayments : s.payments.modify index (savedPayment loaded edited) = s.payments.set index edited := by
    refine ext_getElem? fun i => ?_
    rw [getElem?_modify, getElem?_set]
    split
    next hi =>
      subst hi
      rw [hget, if_pos (List.getElem?_eq_some_iff.mp hget).1]
      exact congrArg some hedited
    next => exact Option.map_id' ..
  exact congrArg (fun attempts => { s.books with attempts }) hpayments

theorem books_credit {order : CheckoutOrder} {orderId : ObjectId} {credits : List (ObjectId × ℤ)}
    (hcredits : credits = s.credits ++ [(orderId, order.row.amount)]) :
    ({ s.updateOrder orderId capture with credits } : PaymentDesk ρ).books
      = s.books.credit orderId order.row.amount := by
  unfold books updateOrder credit
  dsimp only
  rw [map_map, map_map, hcredits]
  congr 1
  refine map_congr_left fun order _ => ?_
  simp only [Function.comp]
  by_cases hid : order.id = orderId
  · rw [if_pos hid, if_pos (show order.row.id = orderId from hid), capture_row]
  · rw [if_neg hid, if_neg (show ¬ order.row.id = orderId from hid)]

end Calls

/-! ## What a handler keeps -/

section Handlers

variable {ρ : Type} (accounts : RefundAccounts ρ) (service : RefundService ρ) (visit : Visit)
  (told : List ℕ)

/-- What holds in the middle of a handler: the books are sane, and the attempts of `kept` are as
they were read. -/
structure Orderly (kept : List (ℕ × Payment)) (s : PaymentDesk ρ) : Prop where
  sane : s.books.Sane told
  debited : Debited accounts s
  kept : ∀ attempt ∈ kept, s.payments[attempt.1]? = some attempt.2

/-- All is credited that is recorded, and all is recorded but the attempts of `missing`. -/
structure Complete (kept : List (ℕ × Payment)) (missing : List ℕ) (s : PaymentDesk ρ) : Prop
    extends Orderly accounts told kept s where
  recorded : s.books.RecordedBut told missing
  credited : s.books.CreditedBut told []

/-- What holds between a transition of an attempt and its side effects. -/
structure Marked (kept : List (ℕ × Payment)) (missing : List ℕ) (index : ℕ)
    (nextStatus : PaymentStatus) (payment : Payment) (s : PaymentDesk ρ) : Prop
    extends Orderly accounts told kept s where
  get : s.payments[index]? = some payment
  recorded : s.books.RecordedBut told missing
  credited : s.books.CreditedBut told payment.orderIds
  captured : nextStatus = .captured → payment.recorded = true ∧ index ∈ told
  others : nextStatus ≠ .captured → s.books.CreditedBut told []

/-- What holds while the orders of a captured attempt are credited, `rest` being still to come. -/
structure Crediting (kept : List (ℕ × Payment)) (missing : List ℕ) (index : ℕ) (payment : Payment)
    (rest : List ObjectId) (s : PaymentDesk ρ) : Prop extends Orderly accounts told kept s where
  get : s.payments[index]? = some payment
  captured : payment.recorded = true ∧ index ∈ told
  recorded : s.books.RecordedBut told missing
  credited : s.books.CreditedBut told rest

/-- What holds where a visit begins that reports the `captures`. -/
structure Starting (captures : List ℕ) (s : PaymentDesk ρ) : Prop
    extends Orderly accounts told [] s where
  recorded : s.books.RecordedBut told captures
  credited : s.books.CreditedBut told []
  told : ∀ i ∈ captures, i ∈ told
  acceptable : ∀ i ∈ captures, ∀ payment : Payment, s.payments[i]? = some payment →
    payment.recorded = true ∨ payment.status ∈ [PaymentStatus.created, .pending]

/-- What a program of the visit returns, and what it leaves where it throws. -/
abbrev VisitEnsures {α : Type} (Q : α → PaymentDesk ρ → Prop) (E : PaymentDesk ρ → Prop) (p : M α)
    (s : PaymentDesk ρ) : Prop :=
  p.Ensures (visit.answered service) (visit.terms accounts service told) (Complete accounts told [] [])
    Q (fun _ => E) s

/-- However the program goes, it leaves all recorded and credited. -/
abbrev Completes {α : Type} (p : M α) (s : PaymentDesk ρ) : Prop :=
  VisitEnsures accounts service visit told (fun _ => Complete accounts told [] [])
    (Complete accounts told [] []) p s

variable {accounts service visit told} {kept : List (ℕ × Payment)} {missing : List ℕ}
  {s s' : PaymentDesk ρ}

theorem Orderly.complete (h : Orderly accounts told kept s) (hbooked : Booked told s)
    (missing : List ℕ) : Complete accounts told kept missing s where
  toOrderly := h
  recorded := fun i hi payment hget hunrecorded =>
    absurd ((settled_of_booked h.sane hbooked).recorded i hi payment hget hunrecorded) (by simp)
  credited := (settled_of_booked h.sane hbooked).credited

theorem Orderly.forget (h : Orderly accounts told kept s) : Orderly accounts told [] s :=
  ⟨h.sane, h.debited, by simp⟩

theorem Orderly.dead (h : Orderly accounts told kept s) (hbooked : Booked told s) :
    Complete accounts told [] [] s := h.forget.complete hbooked []

theorem Orderly.of_books (h : Orderly accounts told kept s) (hbooks : s'.books = s.books)
    (hdebited : Debited accounts s') : Orderly accounts told kept s' where
  sane := hbooks ▸ h.sane
  debited := hdebited
  kept := payments_of_books hbooks ▸ h.kept

theorem Complete.of_books (h : Complete accounts told kept missing s) (hbooks : s'.books = s.books)
    (hdebited : Debited accounts s') : Complete accounts told kept missing s' where
  toOrderly := h.toOrderly.of_books hbooks hdebited
  recorded := hbooks ▸ h.recorded
  credited := hbooks ▸ h.credited

variable {index : ℕ} {nextStatus : PaymentStatus} {payment : Payment}

theorem Marked.of_books (h : Marked accounts told kept missing index nextStatus payment s)
    (hbooks : s'.books = s.books) (hs' : Orderly accounts told kept s') :
    Marked accounts told kept missing index nextStatus payment s' where
  toOrderly := hs'
  get := payments_of_books hbooks ▸ h.get
  recorded := hbooks ▸ h.recorded
  credited := hbooks ▸ h.credited
  captured := h.captured
  others := hbooks ▸ h.others

variable {E : PaymentDesk ρ → Prop}

theorem ensures_keep (kind : Kind) (hs : Orderly accounts told kept s) (hkind : KeepsBooks kind)
    (hlogged : isLogged kind = false) {Q : kind.Reply → PaymentDesk ρ → Prop}
    (hok : ∀ e, (visit.answered service kind s).1 ≠ .error e)
    (hQ : ∀ a s', (visit.answered service kind s).1 = .ok a → s'.books = s.books →
      Orderly accounts told kept s' → Q a s')
    (hE : ∀ s', s'.books = s.books → Orderly accounts told kept s' → Booked told s → E s') :
    VisitEnsures accounts service visit told Q E (perform kind) s := by
  refine Ensures.call hs.dead fun o r s' hterms hperform => ?_
  obtain ⟨hdone, hdebited⟩ := hterms
  rw [hperform] at hdebited
  have hbooks : s'.books = s.books := by
    rcases Outcome.perform_eq hperform with ⟨-, rfl⟩ | ⟨-, rfl, -⟩
    · rfl
    · exact answered_books hkind s
  have hs' := hs.of_books hbooks hdebited
  refine ⟨hs'.dead, fun a ha => ?_, fun e he => hE s' hbooks hs' ?_⟩
  · refine hQ a s' ?_ hbooks hs'
    cases o with
    | done => exact (congrArg Prod.fst hperform).trans ha
    | refused
    | lost => exact absurd ((congrArg Prod.fst hperform).trans ha) (by simp [Outcome.perform])
  · rcases hdone with hbooked | rfl | hlogged'
    · exact hbooked
    · exact absurd ((congrArg Prod.fst hperform).trans he) (hok e)
    · rw [hlogged] at hlogged'
      cases hlogged'

/-- A program that leaves the books alone leaves them complete, however its calls go. -/
theorem ensures_of_keeps {α : Type} {p : M α} (hp : p.All KeepsBooks)
    (hs : Complete accounts told kept missing s) :
    VisitEnsures accounts service visit told (fun _ => Complete accounts told kept missing)
      (Complete accounts told kept missing) p s := by
  induction p generalizing s with
  | ret | throw => exact ⟨hs.toOrderly.dead, hs⟩
  | call op next ih =>
    refine ⟨hs.toOrderly.dead, fun o hterms => ih _ (hp.2 _) (hs.of_books ?_ hterms.2)⟩
    cases o with
    | done | lost => exact answered_books hp.1 s
    | refused e => rfl

theorem ensures_save {loaded edited : Payment} (hs : Orderly accounts told kept s)
    (hget : s.payments[index]? = some loaded) (hedited : savedPayment loaded edited loaded = edited)
    (hsame : Books.SameAttempt loaded edited) (hstatus : edited.status ≠ .authorized)
    (hrecorded : edited.recorded = true → index ∈ told)
    (hmono : loaded.recorded = true → edited.recorded = true)
    (hkept : ∀ attempt ∈ kept, attempt.1 ≠ index) {Q : Unit → PaymentDesk ρ → Prop}
    (hQ : ∀ s', s'.books = s.books.save index edited → Orderly accounts told kept s' → Q () s')
    (hE : ∀ s', Complete accounts told kept [] s' → E s') :
    VisitEnsures accounts service visit told Q E
      (perform (Kind.savePayment index loaded edited)) s := by
  have horderly : ∀ s' : PaymentDesk ρ, s'.books = s.books.save index edited →
      Debited accounts s' → Orderly accounts told kept s' := by
    intro s' hbooks hdebited
    refine ⟨hbooks ▸ hs.sane.save hget hsame hstatus hrecorded, hdebited, fun attempt hmem => ?_⟩
    have hpayments : s'.payments = s.payments.set index edited := congrArg Books.attempts hbooks
    rw [hpayments, getElem?_set_ne (Ne.symm (hkept attempt hmem))]
    exact hs.kept attempt hmem
  have hbooks : (visit.answered service (.savePayment index loaded edited) s).2.books
      = s.books.save index edited := books_savePayment hget hedited
  refine Ensures.call hs.dead fun o r s' hterms hperform => ?_
  obtain ⟨hdone, hdebited⟩ := hterms
  rw [hperform] at hdebited
  cases o with
  | done =>
    cases hperform
    have hs' := horderly _ hbooks hdebited
    exact ⟨hs'.dead, fun _ _ => hQ _ hbooks hs', fun e he => nomatch he⟩
  | refused e =>
    cases hperform
    have hbooked : Booked told s := hdone.resolve_right (by simp [isLogged])
    exact ⟨hs.dead, fun _ ha => (nomatch ha), fun _ _ => hE s (hs.complete hbooked [])⟩
  | lost e =>
    cases hperform
    have hbooked : Booked told s := hdone.resolve_right (by simp [isLogged])
    have hsettled := settled_of_booked hs.sane hbooked
    have hs' := horderly _ hbooks hdebited
    -- everything was booked, so this attempt was recorded before, if it was reported
    have hloaded : index ∈ told → loaded.recorded = true := fun hindex => by
      by_contra hnot
      exact absurd (hsettled.recorded index hindex loaded hget (eq_false_of_ne_true hnot)) (by simp)
    have hcomplete : Complete accounts told kept []
        (visit.answered service (.savePayment index loaded edited) s).2 := by
      refine ⟨hs', ?_, ?_⟩
      · rw [hbooks]
        refine hsettled.recorded.save (fun hunrecorded hindex => ?_) (by simp)
        exact absurd ((hmono (hloaded hindex)).symm.trans hunrecorded) (by simp)
      · rw [hbooks]
        exact hsettled.credited.save hget hsame fun hedited' => .inl (hloaded (hrecorded hedited'))
    exact ⟨hs'.dead, fun _ ha => (nomatch ha), fun _ _ => hE _ hcomplete⟩

/-! ### The transition of an attempt -/

theorem transitioned_status (payment : Payment) (nextStatus : PaymentStatus)
    (source : PaymentEventSource) (reason : String) (gatewayPaymentId : Option String) :
    (transitioned payment nextStatus source reason gatewayPaymentId).status = nextStatus := by
  unfold transitioned
  split
  next h => exact h
  next => rfl

theorem transitioned_same (payment : Payment) (nextStatus : PaymentStatus)
    (source : PaymentEventSource) (reason : String) (gatewayPaymentId : Option String) :
    Books.SameAttempt payment (transitioned payment nextStatus source reason gatewayPaymentId) := by
  unfold transitioned
  split
  · exact ⟨rfl, rfl, rfl, rfl⟩
  · exact ⟨rfl, rfl, rfl, rfl⟩

theorem written_self {α : Type} [DecidableEq α] (loaded edited : α) :
    Returns.written loaded edited loaded = edited := by
  unfold Returns.written
  split
  next h => exact h.symm
  next => rfl

theorem savedPayment_transitioned (payment : Payment) (nextStatus : PaymentStatus)
    (source : PaymentEventSource) (reason : String) (gatewayPaymentId : Option String) :
    savedPayment payment (transitioned payment nextStatus source reason gatewayPaymentId) payment
      = transitioned payment nextStatus source reason gatewayPaymentId := by
  unfold savedPayment
  simp only [written_self]
  unfold transitioned
  split
  · simp
  · simp

theorem savedPayment_signed (payment : Payment) (signature : Option String) :
    savedPayment payment { payment with gatewaySignature := signature } payment
      = { payment with gatewaySignature := signature } := by
  unfold savedPayment
  simp [written_self]

theorem recorded_of_transition {status nextStatus : PaymentStatus}
    (h : canTransitionPaymentStatus status nextStatus = true) (hstatus : status ≠ .authorized)
    (hnext : nextStatus ≠ .captured) :
    nextStatus ∈ [PaymentStatus.captured, .refunded] ↔ status ∈ [PaymentStatus.captured, .refunded] := by
  revert h hstatus hnext
  cases status <;> cases nextStatus <;> decide

theorem mapStatusToInternal_ne_authorized (gateway : PaymentGateway) (state : String) :
    mapStatusToInternal gateway state ≠ .authorized := by
  unfold mapStatusToInternal
  cases gateway with
  | razorpay =>
    dsimp only
    split
    · simp
    split
    · simp
    split
    · simp
    split
    · simp
    · simp
  | phonepe =>
    dsimp only
    split
    · simp
    split
    · simp
    · simp

theorem ensures_transition {source : PaymentEventSource} {reason : String}
    {gatewayPaymentId : Option String} (hs : Orderly accounts told kept s)
    (hget : s.payments[index]? = some payment) (hkept : ∀ attempt ∈ kept, attempt.1 ≠ index)
    (hnext : nextStatus ≠ .authorized) (hrecorded : s.books.RecordedBut told (index :: missing))
    (hcredited : s.books.CreditedBut told [])
    (hcaptured : nextStatus = .captured → index ∈ told ∧
      (payment.recorded = true ∨ payment.status ∈ [PaymentStatus.created, .pending]))
    (hothers : nextStatus ≠ .captured → index ∈ told → payment.recorded = true) :
    VisitEnsures accounts service visit told
      (fun edited => Marked accounts told kept missing index nextStatus edited)
      (Complete accounts told kept missing)
      (transitionPaymentState index payment nextStatus source reason gatewayPaymentId) s := by
  have hmem : payment ∈ s.books.attempts := mem_of_getElem? hget
  have hauthorized : payment.status ≠ .authorized := hs.sane.status payment hmem
  -- an attempt that is recorded already is not missing
  have hrecorded_of : (index ∈ told → payment.recorded = true) → s.books.RecordedBut told missing := by
    intro hpayment i hi payment' hget' hunrecorded
    refine (mem_cons.mp (hrecorded i hi payment' hget' hunrecorded)).resolve_left ?_
    rintro rfl
    cases hget.symm.trans hget'
    exact absurd ((hpayment hi).symm.trans hunrecorded) (by simp)
  unfold transitionPaymentState
  refine Ensures.ite (fun hcan => ?_) fun hcannot => ?_
  · have hstatus := transitioned_status payment nextStatus source reason gatewayPaymentId
    have hsame := transitioned_same payment nextStatus source reason gatewayPaymentId
    have hedited := savedPayment_transitioned payment nextStatus source reason gatewayPaymentId
    generalize transitioned payment nextStatus source reason gatewayPaymentId = edited at *
    have hrecorded_iff : nextStatus ≠ .captured → (edited.recorded = true ↔ payment.recorded = true) := by
      intro hne
      unfold Payment.recorded
      rw [decide_eq_true_iff, decide_eq_true_iff, hstatus]
      exact recorded_of_transition hcan hauthorized hne
    have hedited_captured : nextStatus = .captured → edited.recorded = true := by
      rintro rfl
      unfold Payment.recorded
      rw [hstatus]
      decide
    have htold : edited.recorded = true → index ∈ told := by
      intro hrec
      by_cases hne : nextStatus = .captured
      · exact (hcaptured hne).1
      · exact hs.sane.recorded index payment hget ((hrecorded_iff hne).mp hrec)
    have hmono : payment.recorded = true → edited.recorded = true := by
      intro hrec
      by_cases hne : nextStatus = .captured
      · exact hedited_captured hne
      · exact (hrecorded_iff hne).mpr hrec
    refine Ensures.bind (R := fun _ s' => Marked accounts told kept missing index nextStatus
      edited s') ?_ fun _ s' hs' => Ensures.ret hs'.toOrderly.dead hs'
    refine ensures_save hs hget hedited hsame (hstatus ▸ hnext) htold hmono hkept
      (fun s' hbooks hs' => ?_) fun s' hs' => ?_
    · have hlength : index < s.payments.length := (List.getElem?_eq_some_iff.mp hget).1
      refine ⟨hs', ?_, ?_, ?_, fun hne => ⟨hedited_captured hne, (hcaptured hne).1⟩, fun hne => ?_⟩
      · have hpayments : s'.payments = s.payments.set index edited := congrArg Books.attempts hbooks
        rw [hpayments, getElem?_set_self hlength]
      · rw [hbooks]
        refine hrecorded.save (fun hunrecorded hindex => ?_) fun i hi hne =>
          (mem_cons.mp hi).resolve_left hne
        by_cases hne : nextStatus = .captured
        · exact absurd ((hedited_captured hne).symm.trans hunrecorded) (by simp)
        · exact absurd ((hmono (hothers hne hindex)).symm.trans hunrecorded) (by simp)
      · rw [hbooks]
        have hweaker : s.books.CreditedBut told edited.orderIds :=
          fun i hi payment' hget' hrec row hrow hun =>
            absurd (hcredited i hi payment' hget' hrec row hrow hun) (by simp)
        refine hweaker.save hget hsame fun _ => .inr fun row hrow => ?_
        rw [hsame.orderIds]
        exact (hs.sane.mem_orderIds hmem (mem_rowsOf.mp hrow).1).mpr (mem_rowsOf.mp hrow).2
      · rw [hbooks]
        exact hcredited.save hget hsame fun hrec => .inl ((hrecorded_iff hne).mp hrec)
    · exact ⟨hs'.toOrderly, fun i hi payment' hget' hun =>
        absurd (hs'.recorded i hi payment' hget' hun) (by simp), hs'.credited⟩
  · refine Ensures.throw hs.dead ⟨hs, hrecorded_of fun hindex => ?_, hcredited⟩
    by_cases hne : nextStatus = .captured
    · subst hne
      refine (hcaptured rfl).2.resolve_right fun hopen => hcannot ?_
      unfold canTransitionPaymentStatus
      rcases mem_pair.mp hopen with hstatus | hstatus
      · rw [hstatus]
        decide
      · rw [hstatus]
        decide
    · exact hothers hne hindex

/-! ### The side effects of an outcome -/

section Effects

variable {index : ℕ} {payment : Payment} {rest : List ObjectId}

theorem Crediting.of_books (h : Crediting accounts told kept missing index payment rest s)
    (hbooks : s'.books = s.books) (hs' : Orderly accounts told kept s') :
    Crediting accounts told kept missing index payment rest s' where
  toOrderly := hs'
  get := payments_of_books hbooks ▸ h.get
  captured := h.captured
  recorded := hbooks ▸ h.recorded
  credited := hbooks ▸ h.credited

variable {orderId : ObjectId}

theorem order_of_orderIds (hs : s.books.Sane told) (hget : s.payments[index]? = some payment)
    (hid : orderId ∈ payment.orderIds) :
    ∃ order, s.order? orderId = some order ∧ order ∈ s.orders ∧ order.id = orderId ∧
      order.row ∈ s.books.rowsOf payment.scope := by
  have hcovers := (hs.covers payment (mem_of_getElem? hget)).1
  rw [hcovers, mem_map] at hid
  obtain ⟨row, hrow, rfl⟩ := hid
  obtain ⟨hmem, hscope⟩ := mem_rowsOf.mp hrow
  obtain ⟨order, horder, rfl⟩ := mem_map.mp hmem
  cases hfound : s.order? order.row.id with
  | none =>
    unfold order? at hfound
    have hnot := find?_eq_none.mp hfound order horder
    exact absurd (decide_eq_true (show order.id = order.row.id from rfl)) hnot
  | some order' =>
    obtain ⟨horder', hid'⟩ := order?_some hfound
    have hrows : order'.row = order.row := hs.row_ext (row_mem_books horder') hmem hid'
    refine ⟨order', rfl, horder', hid', ?_⟩
    rw [hrows]
    exact hrow

theorem captureOrder_credit {order : CheckoutOrder} (hfound : s.order? orderId = some order)
    (hcaptured : ¬ order.financeFlags.onlinePaymentCaptured = true)
    (hpositive : ¬ captureAmount order.toOrder ≤ 0) :
    (s.captureOrder orderId).1 = .ok () ∧
      (s.captureOrder orderId).2.books = s.books.credit orderId order.row.amount := by
  unfold captureOrder
  rw [hfound]
  dsimp only
  rw [if_neg hcaptured, if_neg hpositive]
  exact ⟨rfl, books_credit rfl⟩

theorem ensures_handleOnlineOrderFinance
    (h : Crediting accounts told kept missing index payment (orderId :: rest) s)
    (hid : orderId ∈ payment.orderIds) :
    VisitEnsures accounts service visit told
      (fun _ => Crediting accounts told kept missing index payment rest)
      (Complete accounts told kept missing)
      (perform (Kind.handleOnlineOrderFinance orderId)) s := by
  obtain ⟨order, hfound, horder, horderId, hrow⟩ := order_of_orderIds h.sane h.get hid
  have hmem : order.row ∈ s.books.rows := row_mem_books horder
  refine Ensures.call h.toOrderly.dead fun o r s' hterms hperform => ?_
  obtain ⟨hdone, hdebited⟩ := hterms
  rw [hperform] at hdebited
  change o.perform (s.captureOrder orderId) s = (r, s') at hperform
  by_cases hcaptured : order.financeFlags.onlinePaymentCaptured = true
  · -- the order is credited already
    have hcapture : s.captureOrder orderId = (.ok (), s) := by
      unfold captureOrder
      rw [hfound]
      exact if_pos hcaptured
    have hsame : s' = s := by
      rw [hcapture] at hperform
      rcases Outcome.perform_eq hperform with ⟨-, rfl⟩ | ⟨-, rfl, -⟩
      · rfl
      · rfl
    subst hsame
    have hcredited : s'.books.CreditedBut told rest :=
      Books.CreditedBut.drop h.sane hmem hcaptured (by
        rw [show order.row.id = orderId from horderId]
        exact h.credited)
    refine ⟨h.toOrderly.dead, fun _ _ => { h with credited := hcredited }, fun e he => ?_⟩
    have hbooked : Booked told s' := by
      rcases hdone with hbooked | rfl | hlogged
      · exact hbooked
      · rw [hcapture] at hperform
        cases hperform
        cases he
      · cases hlogged
    exact h.toOrderly.complete hbooked missing
  · -- nothing may fail now
    have hnot : ¬ Booked told s := fun hbooked => hcaptured
      ((hbooked index h.captured.2 payment h.get).2 order
        ((mem_relatedOrders_iff h.sane (mem_of_getElem? h.get) horder).mpr
          (mem_rowsOf.mp hrow).2))
    have hdone' : o = .done := (hdone.resolve_left hnot).resolve_right (by simp [isLogged])
    subst hdone'
    have hpositive : ¬ captureAmount order.toOrder ≤ 0 :=
      not_le.mpr ((h.sane.amounts index h.captured.2 payment h.get).2 order.row hrow)
    obtain ⟨hreply, hbooks⟩ := captureOrder_credit hfound hcaptured hpositive
    change s.captureOrder orderId = (r, s') at hperform
    rw [hperform] at hreply hbooks
    have hsane := h.sane.credit hmem (eq_false_of_ne_true hcaptured) h.captured.2 h.get
      (mem_rowsOf.mp hrow).2.symm
    rw [show order.row.id = orderId from horderId, ← hbooks] at hsane
    have hpayments : s'.payments = s.payments := congrArg Books.attempts hbooks
    have hs' : Orderly accounts told kept s' := ⟨hsane, hdebited, hpayments ▸ h.kept⟩
    refine ⟨hs'.dead, fun _ _ => ⟨hs', hpayments ▸ h.get, h.captured, ?_, ?_⟩, fun e he => ?_⟩
    · rw [hbooks]
      exact h.recorded
    · rw [hbooks]
      exact h.credited.credit
    · cases hreply.symm.trans he

theorem Crediting.complete (h : Crediting accounts told kept missing index payment [] s) :
    Complete accounts told kept missing s := ⟨h.toOrderly, h.recorded, h.credited⟩

theorem Orderly.complete_after (h : Orderly accounts told kept s) (hbooked : Booked told s)
    (missing : List ℕ) (hbooks : s'.books = s.books) (hs' : Orderly accounts told kept s') :
    Complete accounts told kept missing s' := (h.complete hbooked missing).of_books hbooks hs'.debited

/-- A call to the cancellation service whose failure is logged. -/
theorem ensures_onLatePaymentCapture (h : Crediting accounts told kept missing index payment rest s)
    {E : PaymentDesk ρ → Prop} :
    VisitEnsures accounts service visit told
      (fun _ => Crediting accounts told kept missing index payment rest) E
      ((perform (Kind.onLatePaymentCapture orderId)).tryCatch (fun _ => pure ())) s := by
  refine Ensures.tryCatch
    (F := fun _ => Crediting accounts told kept missing index payment rest) ?_
    fun _ s' hs' => Ensures.ret hs'.toOrderly.dead hs'
  refine Ensures.call h.toOrderly.dead fun o r s' hterms hperform => ?_
  obtain ⟨-, hdebited⟩ := hterms
  rw [hperform] at hdebited
  have hbooks : s'.books = s.books := by
    rcases Outcome.perform_eq hperform with ⟨-, rfl⟩ | ⟨-, rfl, -⟩
    · rfl
    · rfl
  have hs' := h.of_books hbooks (h.toOrderly.of_books hbooks hdebited)
  exact ⟨hs'.toOrderly.dead, fun _ _ => hs', fun _ _ => hs'⟩

variable {sellerPendingUntil : Date}

theorem ensures_captureOne {order : CheckoutOrder}
    (h : Crediting accounts told kept missing index payment (order.id :: rest) s)
    (hid : order.id ∈ payment.orderIds) :
    VisitEnsures accounts service visit told
      (fun _ => Crediting accounts told kept missing index payment rest)
      (Complete accounts told kept missing) (captureOne sellerPendingUntil order) s := by
  refine Ensures.bind (ensures_handleOnlineOrderFinance h hid) fun _ s₁ hs₁ => ?_
  refine Ensures.ite (fun _ => ensures_onLatePaymentCapture hs₁) fun _ => ?_
  exact ensures_keep (.moveToSellerPending _ _) hs₁.toOrderly trivial rfl (by simp [Visit.answered, effect])
    (fun _ _ _ hbooks hs' => hs₁.of_books hbooks hs')
    fun _ hbooks hs' hbooked => hs₁.toOrderly.complete_after hbooked missing hbooks hs'

theorem keepsBooks_updateCheckoutGroupPaymentStatus (checkoutGroupId : Option String)
    (nextStatus : PaymentStatus) :
    (updateCheckoutGroupPaymentStatus checkoutGroupId nextStatus).All KeepsBooks :=
  updateCheckoutGroupPaymentStatus_all fun _ => trivial

theorem ensures_handleOrderSideEffects {nextStatus : PaymentStatus} {reason : String}
    (h : Marked accounts told kept missing index nextStatus payment s) :
    VisitEnsures accounts service visit told (fun _ => Complete accounts told kept missing)
      (Complete accounts told kept missing)
      (handleOrderSideEffects sellerPendingUntil payment nextStatus reason) s := by
  have hmem : payment ∈ s.payments := mem_of_getElem? h.get
  refine Ensures.bind (R := fun orders s' => orders = s.relatedOrders payment ∧
    Marked accounts told kept missing index nextStatus payment s') ?_ ?_
  · refine ensures_keep (.findOrders _) h.toOrderly trivial rfl (by simp [Visit.answered, effect]) ?_ ?_
    · intro orders s' hreply hbooks hs'
      cases hreply
      exact ⟨rfl, h.of_books hbooks hs'⟩
    · exact fun _ hbooks hs' hbooked => h.toOrderly.complete_after hbooked missing hbooks hs'
  rintro orders s' ⟨horders, hs'⟩
  -- the orders found are those the attempt was made for
  have hids : ∀ orderId, orderId ∈ orders.map (fun order => order.id) ↔ orderId ∈ payment.orderIds := by
    intro orderId
    rw [horders, mem_map]
    constructor
    · rintro ⟨order, horder, rfl⟩
      unfold relatedOrders at horder
      rw [if_pos (h.sane.orderIds_ne_nil hmem)] at horder
      exact of_decide_eq_true (mem_filter.mp horder).2
    · intro hid
      obtain ⟨order, -, horder, rfl, hrow⟩ := order_of_orderIds h.sane h.get hid
      exact ⟨order, (mem_relatedOrders_iff h.sane hmem horder).mpr (mem_rowsOf.mp hrow).2, rfl⟩
  have hcredited : s'.books.CreditedBut told (orders.map (fun order => order.id)) :=
    fun i hi payment' hget hrec row hrow hun =>
      (hids row.id).mpr (hs'.credited i hi payment' hget hrec row hrow hun)
  refine Ensures.ite (fun hempty => ?_) fun _ => ?_
  · rw [isEmpty_iff.mp hempty] at hcredited
    exact Ensures.ret hs'.toOrderly.dead ⟨hs'.toOrderly, hs'.recorded, hcredited⟩
  by_cases hnext : nextStatus = .captured
  · subst hnext
    have hstart : Crediting accounts told kept missing index payment
        (orders.map (fun order => order.id)) s' :=
      ⟨hs'.toOrderly, hs'.get, hs'.captured rfl, hs'.recorded, hcredited⟩
    refine Ensures.bind (R := fun _ s' => Complete accounts told kept missing s') ?_
      fun _ s₁ hs₁ => ensures_of_keeps (keepsBooks_updateCheckoutGroupPaymentStatus _ _) hs₁
    refine Ensures.mono (Ensures.forEach
      (I := fun rest s' => (∀ order ∈ rest, order.id ∈ payment.orderIds) ∧
        Crediting accounts told kept missing index payment (rest.map (fun order => order.id)) s')
      (fun _ hI => hI.2.toOrderly.dead) (fun order rest s₁ hI => ?_) orders
      ⟨fun order horder => (hids order.id).mp (mem_map_of_mem horder), hstart⟩)
      (fun _ _ hI => hI.2.complete) fun _ _ hE => hE
    refine Ensures.mono (ensures_captureOne hI.2 (hI.1 order (by simp))) (fun _ _ hQ => ?_)
      fun _ _ hE => hE
    exact ⟨fun order' horder' => hI.1 order' (mem_cons_of_mem order horder'), hQ⟩
  · have hcomplete : Complete accounts told kept missing s' :=
      ⟨hs'.toOrderly, hs'.recorded, hs'.others hnext⟩
    refine ensures_of_keeps ?_ hcomplete
    have hgroup := keepsBooks_updateCheckoutGroupPaymentStatus payment.checkoutGroupId nextStatus
    have hcancel : ∀ reason, (do
        perform (Kind.cancelUnpaid (orders.map (fun order => order.id)) reason)
        updateCheckoutGroupPaymentStatus payment.checkoutGroupId nextStatus
        Prog.forEach (fun orderId => (perform
          (Kind.recordExternalCancellation orderId reason)).tryCatch (fun _ => pure ()))
          (orders.map (fun order => order.id))
        Prog.forEach (fun orderId => perform (Kind.announceCancelled orderId))
          (orders.map (fun order => order.id)) : M Unit).All KeepsBooks := fun reason =>
      (All.perform trivial).bind fun _ => hgroup.bind fun _ =>
        (All.forEach fun _ _ => (All.perform trivial).tryCatch fun _ => All.ret).bind
          fun _ => All.forEach fun _ _ => All.perform trivial
    cases nextStatus with
    | captured => exact absurd rfl hnext
    | failed | cancelled => exact hcancel _
    | refunded => exact (All.perform trivial).bind fun _ => hgroup
    | _ => exact All.perform trivial

end Effects

/-! ### The handlers -/

theorem get_of_matching {clauses : List PaymentClause}
    (h : matching clauses s = some (index, payment)) : s.payments[index]? = some payment :=
  mem_indexed.mp (mem_of_find?_eq_some h)

theorem captures_found (attempt : ℕ × Payment) (P : ℕ × Payment → Bool) :
    (((some attempt).toList.filter P).map Prod.fst) = if P attempt then [attempt.1] else [] := by
  cases h : P attempt with
  | true | false => simp [h]

section Programs

variable {captures : List ℕ} {index : ℕ} {payment : Payment} {nextStatus : PaymentStatus}

theorem Starting.of_books (h : Starting accounts told captures s) (hbooks : s'.books = s.books)
    (hs' : Orderly accounts told [] s') : Starting accounts told captures s' where
  toOrderly := hs'
  recorded := hbooks ▸ h.recorded
  credited := hbooks ▸ h.credited
  told := h.told
  acceptable := payments_of_books hbooks ▸ h.acceptable

theorem Starting.complete (h : Starting accounts told [] s) : Complete accounts told [] [] s :=
  ⟨h.toOrderly, h.recorded, h.credited⟩

theorem ensures_reported {source : PaymentEventSource} {reason : String}
    {gatewayPaymentId : Option String} (h : Starting accounts told captures s)
    (hget : s.payments[index]? = some payment) (hnext : nextStatus ≠ .authorized)
    (hcaptured : nextStatus = .captured → captures = [index])
    (hothers : nextStatus ≠ .captured → captures = []) :
    VisitEnsures accounts service visit told
      (fun edited => Marked accounts told [] [] index nextStatus edited) (Complete accounts told [] [])
      (transitionPaymentState index payment nextStatus source reason gatewayPaymentId) s := by
  refine ensures_transition h.toOrderly hget (by simp) hnext ?_ h.credited ?_ ?_
  · intro i hi payment' hget' hun
    have hmem := h.recorded i hi payment' hget' hun
    by_cases hne : nextStatus = .captured
    · rw [hcaptured hne] at hmem
      exact hmem
    · rw [hothers hne] at hmem
      cases hmem
  · intro heq
    have hmem : index ∈ captures := by
      rw [hcaptured heq]
      exact mem_singleton_self index
    exact ⟨h.told index hmem, h.acceptable index hmem payment hget⟩
  · intro hne hindex
    by_contra hnot
    have hmem := h.recorded index hindex payment hget (eq_false_of_ne_true hnot)
    rw [hothers hne] at hmem
    cases hmem

theorem ensures_resave (h : Complete accounts told [] [] s) :
    Completes accounts service visit told (perform (Kind.savePayment index payment payment)) s :=
  ensures_of_keeps (All.perform rfl) h

/-- A call at the beginning that leaves the books. -/
theorem ensures_read (kind : Kind) (h : Starting accounts told captures s) (hkind : KeepsBooks kind)
    (hlogged : isLogged kind = false) (hok : ∀ e, (visit.answered service kind s).1 ≠ .error e) :
    VisitEnsures accounts service visit told
      (fun a s' => (visit.answered service kind s).1 = .ok a ∧ s'.books = s.books ∧
        Starting accounts told captures s')
      (Complete accounts told [] []) (perform kind) s :=
  ensures_keep kind h.toOrderly hkind hlogged hok
    (fun _ _ hreply hbooks hs' => ⟨hreply, hbooks, h.of_books hbooks hs'⟩)
    fun _ hbooks hs' hbooked => h.toOrderly.complete_after hbooked [] hbooks hs'

variable {clauses : List PaymentClause}

theorem ensures_findPayment (h : Starting accounts told captures s) :
    VisitEnsures accounts service visit told
      (fun found s' => .ok (matching clauses s) = Except.ok (ε := ServiceError) found ∧
        s'.books = s.books ∧ Starting accounts told captures s')
      (Complete accounts told [] []) (perform (Kind.findPayment clauses)) s :=
  ensures_read (.findPayment clauses) h trivial rfl (by simp [Visit.answered, effect])

variable (gateway : PaymentGateway)

variable {userId : Option ObjectId} {sellerPendingUntil : Date}

theorem ensures_verifyPhonePePaymentStatus {merchantOrderId : String}
    (hrequest : visit.request = .verifyStatus merchantOrderId userId)
    (h : Starting accounts told (visit.captures gateway s) s) :
    Completes accounts service visit told
      (verifyPhonePePaymentStatus gateway merchantOrderId userId sellerPendingUntil) s := by
  unfold Visit.captures at h
  rw [hrequest] at h
  dsimp only at h
  refine Ensures.bind (ensures_findPayment h) ?_
  rintro found s₁ ⟨⟨⟩, hbooks₁, h₁⟩
  cases hfound : matching [.gatewayOrderId merchantOrderId] s with
  | none =>
    rw [hfound] at h₁
    exact Ensures.throw h₁.toOrderly.dead h₁.complete
  | some attempt =>
    obtain ⟨index, payment⟩ := attempt
    rw [hfound, captures_found] at h₁
    refine Ensures.ite (fun hrefused => ?_) fun hadmitted => ?_
    · rw [if_neg (by dsimp only; rw [hrefused]; simp)] at h₁
      exact Ensures.throw h₁.toOrderly.dead h₁.complete
    refine Ensures.bind (ensures_read (.getPaymentStatus _) h₁ trivial rfl
      (by simp [Visit.answered, effect])) ?_
    rintro response s₂ ⟨⟨⟩, hbooks₂, h₂⟩
    have hpayments := payments_of_books (hbooks₂.trans hbooks₁)
    have hget : s₂.payments[index]? = some payment := hpayments ▸ get_of_matching hfound
    refine Ensures.bind (ensures_reported h₂ hget
      (mapStatusToInternal_ne_authorized _ _) (fun hcaptured => ?_) fun hothers => ?_) ?_
    · exact if_pos (by dsimp only; rw [eq_false_of_ne_true hadmitted]; simp [hcaptured])
    · exact if_neg (by simp [hothers])
    · intro edited s₃ hs₃
      exact Ensures.bind (ensures_handleOrderSideEffects hs₃)
        fun _ s₄ hs₄ => ensures_resave hs₄

theorem ensures_save_marked {edited : Payment} (h : Marked accounts told [] [] index nextStatus payment s)
    (hedited : savedPayment payment edited payment = edited)
    (hsame : Books.SameAttempt payment edited) (hkeeps : edited.status = payment.status) :
    VisitEnsures accounts service visit told
      (fun _ => Marked accounts told [] [] index nextStatus edited)
      (Complete accounts told [] []) (perform (Kind.savePayment index payment edited)) s := by
  have hrecorded : edited.recorded = payment.recorded := by
    unfold Payment.recorded
    rw [hkeeps]
  have hlength : index < s.payments.length := (List.getElem?_eq_some_iff.mp h.get).1
  have hstatus : payment.status ≠ .authorized := h.sane.status payment (mem_of_getElem? h.get)
  refine ensures_save h.toOrderly h.get hedited hsame (hkeeps ▸ hstatus)
    (fun hrec => h.sane.recorded index payment h.get (hrecorded ▸ hrec))
    (fun hrec => hrecorded.trans hrec) (by simp) (fun s' hbooks hs' => ?_) fun _ hs' => hs'
  refine ⟨hs', ?_, ?_, ?_, fun hne => ?_, fun hne => ?_⟩
  · have hpayments : s'.payments = s.payments.set index edited := congrArg Books.attempts hbooks
    rw [hpayments, getElem?_set_self hlength]
  · rw [hbooks]
    refine h.recorded.save (fun hun hindex => ?_) (by simp)
    exact absurd (h.recorded index hindex payment h.get (hrecorded ▸ hun)) (by simp)
  · rw [hbooks, hsame.orderIds]
    exact h.credited.save h.get hsame fun hrec => .inl (hrecorded ▸ hrec)
  · rw [hrecorded]
    exact h.captured hne
  · rw [hbooks]
    exact (h.others hne).save h.get hsame fun hrec => .inl (hrecorded ▸ hrec)

variable {isValid : Bool}

theorem ensures_verifyRazorpayPaymentSignature {merchantOrderId : Option String}
    {razorpayOrderId razorpayPaymentId razorpaySignature : String}
    (hrequest : visit.request = .verifySignature merchantOrderId razorpayOrderId razorpayPaymentId
      razorpaySignature isValid userId) (h : Starting accounts told (visit.captures gateway s) s)
    (hadmitted : s.books.RecordedBut told [] ∨ ∀ i ∈ visit.captures gateway s,
      ∀ payment ∈ s.payments[i]?, visit.Admitted payment s) :
    Completes accounts service visit told
      (verifyRazorpayPaymentSignature gateway merchantOrderId razorpayOrderId razorpayPaymentId
        razorpaySignature isValid userId sellerPendingUntil) s := by
  have hcaptures := hadmitted
  unfold Visit.captures at h hcaptures
  unfold Visit.Admitted at hcaptures
  rw [hrequest] at h hcaptures
  dsimp only at h hcaptures
  refine Ensures.ite (fun hempty => ?_) fun hfields => ?_
  · have hnone : ∀ found : List (ℕ × Payment), found.filter (fun attempt =>
        isValid && decide (gateway = .razorpay) &&
          decide (¬ (razorpayOrderId = "" ∨ razorpayPaymentId = "" ∨ razorpaySignature = "")) &&
          decide (attempt.2.razorpayOrderId.getD attempt.2.gatewayOrderId = razorpayOrderId)) = [] :=
      fun found => filter_eq_nil_iff.mpr fun attempt _ hP => by
        rw [decide_eq_false (not_not.mpr hempty)] at hP
        simp at hP
    rw [hnone] at h
    exact Ensures.throw h.toOrderly.dead h.complete
  refine Ensures.bind (ensures_findPayment h) ?_
  rintro found s₁ ⟨⟨⟩, hbooks₁, h₁⟩
  cases hfound : matching ((merchantOrderId.toList.map PaymentClause.gatewayOrderId) ++
      [.razorpayOrderId razorpayOrderId, .gatewayOrderId razorpayOrderId]) s with
  | none =>
    rw [hfound] at h₁
    exact Ensures.throw h₁.toOrderly.dead h₁.complete
  | some attempt =>
    obtain ⟨index, payment⟩ := attempt
    have hget : s.payments[index]? = some payment := get_of_matching hfound
    have hpayments := payments_of_books hbooks₁
    rw [hfound, captures_found] at h₁ hcaptures
    dsimp only at h₁ hcaptures
    refine Ensures.ite (fun hrefused => ?_) fun _ => ?_
    · refine Ensures.throw h₁.toOrderly.dead ⟨h₁.toOrderly, ?_, h₁.credited⟩
      rcases hcaptures with hall | hall
      · exact hbooks₁ ▸ hall
      · split at h₁
        next hP =>
          rw [if_pos hP] at hall
          exact absurd (hrefused.symm.trans (hall index (by simp) payment hget)) (by simp)
        next => exact h₁.recorded
    refine Ensures.ite (fun hmismatch => ?_) fun hmatch => ?_
    · rw [if_neg (by simp [hmismatch])] at h₁
      exact Ensures.throw h₁.toOrderly.dead h₁.complete
    refine Ensures.ite (fun hgateway => ?_) fun hgateway => ?_
    · rw [if_neg (by simp [hgateway])] at h₁
      exact Ensures.throw h₁.toOrderly.dead h₁.complete
    refine Ensures.ite (fun hinvalid => ?_) fun hvalid => ?_
    · rw [if_neg (by simp [hinvalid])] at h₁
      exact Ensures.throw h₁.toOrderly.dead h₁.complete
    have hcase : (if (isValid && decide (gateway = .razorpay) &&
        decide (¬ (razorpayOrderId = "" ∨ razorpayPaymentId = "" ∨ razorpaySignature = "")) &&
        decide (payment.razorpayOrderId.getD payment.gatewayOrderId = razorpayOrderId)) = true
        then [index] else []) = [index] := by
      refine if_pos ?_
      rw [decide_eq_true hfields, decide_eq_true (not_not.mp hgateway),
        decide_eq_true (not_not.mp hmatch), eq_true_of_ne_false hvalid]
      rfl
    refine Ensures.bind (ensures_reported h₁ (hpayments ▸ hget) (by simp) (fun _ => hcase)
      (fun hne => absurd rfl hne)) fun edited s₂ hs₂ => ?_
    refine Ensures.bind (ensures_save_marked hs₂ (savedPayment_signed edited _)
      ⟨rfl, rfl, rfl, rfl⟩ rfl) fun _ s₃ hs₃ => ?_
    exact ensures_handleOrderSideEffects hs₃

variable {decoded : Decoded}

/-- The part of a webhook after its event was stored. -/
theorem ensures_processPaymentEvent {label reason : String}
    (h : Starting accounts told (((matching clauses s).toList.filter (fun _ =>
      decide (mapStatusToInternal gateway decoded.state = .captured))).map Prod.fst) s) :
    Completes accounts service visit told
      (processPaymentEvent gateway clauses decoded label reason sellerPendingUntil) s := by
  refine Ensures.bind (ensures_findPayment h) ?_
  rintro found s₁ ⟨⟨⟩, hbooks₁, h₁⟩
  cases hfound : matching clauses s with
  | none =>
    rw [hfound] at h₁
    exact Ensures.ret h₁.toOrderly.dead h₁.complete
  | some attempt =>
    obtain ⟨index, payment⟩ := attempt
    have hpayments := payments_of_books hbooks₁
    rw [hfound, captures_found] at h₁
    refine Ensures.bind (ensures_reported h₁ (hpayments ▸ get_of_matching hfound)
      (mapStatusToInternal_ne_authorized _ _) (fun hcaptured => if_pos (decide_eq_true hcaptured))
      fun hothers => if_neg (by simp [hothers])) fun edited s₂ hs₂ => ?_
    refine Ensures.bind (ensures_save_marked hs₂ (savedPayment_self edited edited)
      (Books.SameAttempt.refl edited) rfl) fun _ s₃ hs₃ => ?_
    refine Ensures.bind (R := fun _ s' => Marked accounts told [] [] index _ edited s') ?_
      fun _ s₄ hs₄ => ensures_handleOrderSideEffects hs₄
    exact ensures_keep (.updateEvent _) hs₃.toOrderly trivial rfl (by simp [Visit.answered, effect])
      (fun _ _ _ hbooks hs' => hs₃.of_books hbooks hs')
      fun _ hbooks hs' hbooked => hs₃.toOrderly.complete_after hbooked [] hbooks hs'

theorem ensures_storeFirst {eventId : String} {work : M Unit}
    (h : Starting accounts told captures s)
    (hstored : eventId ∈ s.events → s.books.RecordedBut told [])
    (hwork : ∀ s', s'.books = s.books → Starting accounts told captures s' →
      Completes accounts service visit told work s') :
    Completes accounts service visit told (storeFirst eventId work) s := by
  refine Ensures.bind (ensures_read (.createEvent _) h trivial rfl ?_) ?_
  · intro e
    unfold Visit.answered effect
    dsimp only
    split
    · simp
    · simp
  rintro created s₁ ⟨hreply, hbooks, h₁⟩
  have hcreated : created = false → eventId ∈ s.events := by
    intro hcreated
    by_contra hnew
    unfold Visit.answered effect at hreply
    dsimp only at hreply
    rw [if_neg hnew] at hreply
    cases hreply
    cases hcreated
  refine Ensures.ite (fun hfalse => ?_) fun _ => hwork s₁ hbooks h₁
  exact Ensures.ret h₁.toOrderly.dead
    ⟨h₁.toOrderly, hbooks ▸ hstored (hcreated hfalse), h₁.credited⟩

/-- A report that is turned away was about nothing new. -/
theorem Starting.recorded_of_not_admitted (h : Starting accounts told captures s)
    (hadmitted : s.books.RecordedBut told [] ∨ ∀ i ∈ captures, ∀ payment ∈ s.payments[i]?,
      visit.Admitted payment s) (hnot : ∀ payment, ¬ visit.Admitted payment s) :
    s.books.RecordedBut told [] := by
  refine hadmitted.elim id fun hall => ?_
  intro i hi payment hget hun
  exact absurd (hall i (h.recorded i hi payment hget hun) payment hget) (hnot payment)

theorem matching_of_books (clauses : List PaymentClause) (hbooks : s'.books = s.books) :
    matching clauses s' = matching clauses s := by
  have hpayments := payments_of_books hbooks
  unfold matching attempts
  rw [hpayments]

theorem ensures_processPhonePeWebhook (hrequest : visit.request = .phonePeWebhook isValid decoded)
    (h : Starting accounts told (visit.captures gateway s) s)
    (hadmitted : s.books.RecordedBut told [] ∨ ∀ i ∈ visit.captures gateway s,
      ∀ payment ∈ s.payments[i]?, visit.Admitted payment s) :
    Completes accounts service visit told
      (processPhonePeWebhook isValid decoded sellerPendingUntil) s := by
  have hturned : decoded.eventId ∈ s.events → s.books.RecordedBut told [] := by
    refine fun hstored => h.recorded_of_not_admitted hadmitted fun payment hadm => ?_
    unfold Visit.Admitted at hadm
    rw [hrequest] at hadm
    exact hadm hstored
  unfold Visit.captures at h
  rw [hrequest] at h
  dsimp only at h
  cases isValid with
  | false =>
    simp only [Bool.false_and, filter_false, map_nil] at h
    exact Ensures.throw h.toOrderly.dead h.complete
  | true =>
    simp only [Bool.true_and] at h
    refine ensures_storeFirst h hturned fun s' hbooks hs' => ?_
    rw [← matching_of_books _ hbooks] at hs'
    exact ensures_processPaymentEvent .phonepe hs'

theorem ensures_processRazorpayWebhook {refundEntity : Option RefundEntity}
    (hrequest : visit.request = .razorpayWebhook isValid decoded refundEntity)
    (h : Starting accounts told (visit.captures gateway s) s)
    (hadmitted : s.books.RecordedBut told [] ∨ ∀ i ∈ visit.captures gateway s,
      ∀ payment ∈ s.payments[i]?, visit.Admitted payment s) :
    Completes accounts service visit told
      (processRazorpayWebhook isValid decoded refundEntity sellerPendingUntil) s := by
  have hturned : razorpayEventId decoded refundEntity ∈ s.events → s.books.RecordedBut told [] := by
    refine fun hstored => h.recorded_of_not_admitted hadmitted fun payment hadm => ?_
    unfold Visit.Admitted at hadm
    rw [hrequest] at hadm
    exact hadm hstored
  unfold Visit.captures at h
  rw [hrequest] at h
  dsimp only at h
  cases isValid with
  | false =>
    simp only [Bool.false_and, filter_false, map_nil] at h
    exact Ensures.throw h.toOrderly.dead h.complete
  | true =>
    simp only [Bool.true_and] at h
    cases refundEntity with
    | none =>
      simp only [isRefundEvent, Option.isSome_none, Bool.false_and, Bool.not_false,
        Bool.true_and] at h
      refine ensures_storeFirst h hturned fun s' hbooks hs' => ?_
      rw [← matching_of_books _ hbooks] at hs'
      exact ensures_processPaymentEvent .razorpay hs'
    | some refund =>
      refine ensures_storeFirst h hturned fun s' hbooks hs' => ?_
      refine Ensures.ite (fun hrefund => ?_) fun hrefund => ?_
      · have hevent : isRefundEvent decoded (some refund) = true := by
          unfold isRefundEvent
          rw [hrefund]
          rfl
        simp only [hevent, Bool.not_true, Bool.false_and, filter_false, map_nil] at hs'
        exact ensures_of_keeps (All.perform trivial) hs'.complete
      · have hevent : isRefundEvent decoded (some refund) = false := by
          unfold isRefundEvent
          rw [eq_false_of_ne_true hrefund]
          rfl
        simp only [hevent, Bool.not_false, Bool.true_and] at hs'
        rw [← matching_of_books _ hbooks] at hs'
        exact ensures_processPaymentEvent .razorpay hs'

/-! ### A reconciliation -/

def capturedAmong (gateway : PaymentGateway) (visit : Visit) (polled : List (ℕ × Payment)) : List ℕ :=
  (polled.filter (fun attempt =>
    decide (mapStatusToInternal gateway (visit.answers attempt.2).state = .captured))).map Prod.fst

/-- What is known of the attempts that a reconciliation is still to poll. -/
structure Polled (gateway : PaymentGateway) (visit : Visit) (told : List ℕ)
    (polled : List (ℕ × Payment)) : Prop where
  distinct : (polled.map Prod.fst).Nodup
  isOpen : ∀ attempt ∈ polled, attempt.2.status ∈ [PaymentStatus.created, .pending, .authorized]
  scope : ∀ attempt ∈ polled, ∀ attempt' ∈ polled, attempt.2.scope = attempt'.2.scope
  told : ∀ i ∈ capturedAmong gateway visit polled, i ∈ told

variable {gateway} {polled : List (ℕ × Payment)}

theorem capturedAmong_cons (attempt : ℕ × Payment) (polled : List (ℕ × Payment)) :
    capturedAmong gateway visit (attempt :: polled)
      = if mapStatusToInternal gateway (visit.answers attempt.2).state = .captured then
          attempt.1 :: capturedAmong gateway visit polled
        else capturedAmong gateway visit polled := by
  unfold capturedAmong
  by_cases hcaptured : mapStatusToInternal gateway (visit.answers attempt.2).state = .captured
  · rw [filter_cons_of_pos (by simpa using hcaptured), if_pos hcaptured]
    rfl
  · rw [filter_cons_of_neg (by simpa using hcaptured), if_neg hcaptured]

variable {attempt : ℕ × Payment}

theorem Polled.tail (h : Polled gateway visit told (attempt :: polled)) :
    Polled gateway visit told polled where
  distinct := (nodup_cons.mp h.distinct).2
  isOpen := fun attempt' hmem => h.isOpen attempt' (mem_cons_of_mem attempt hmem)
  scope := fun attempt' hmem attempt'' hmem' =>
    h.scope attempt' (mem_cons_of_mem attempt hmem) attempt'' (mem_cons_of_mem attempt hmem')
  told := by
    intro i hi
    refine h.told i ?_
    rw [capturedAmong_cons]
    split
    · exact mem_cons_of_mem _ hi
    · exact hi

theorem mem_capturedAmong {i : ℕ} (hi : i ∈ capturedAmong gateway visit polled) :
    ∃ payment, (i, payment) ∈ polled ∧
      mapStatusToInternal gateway (visit.answers payment).state = .captured := by
  obtain ⟨⟨j, payment⟩, hmem, rfl⟩ := mem_map.mp hi
  obtain ⟨hpolled, hcaptured⟩ := mem_filter.mp hmem
  exact ⟨payment, hpolled, of_decide_eq_true hcaptured⟩

/-- After an attempt that was captured, no other one of the checkout is. -/
theorem Polled.no_other (h : Polled gateway visit told ((index, payment) :: polled))
    (hcaptured : mapStatusToInternal gateway (visit.answers payment).state = .captured)
    (hs : Orderly accounts told ((index, payment) :: polled) s) :
    capturedAmong gateway visit polled = [] := by
  refine eq_nil_iff_forall_not_mem.mpr fun j hj => ?_
  obtain ⟨payment', hmem, -⟩ := mem_capturedAmong hj
  have hindex : index ∈ told := h.told index (by
    rw [capturedAmong_cons, if_pos hcaptured]
    exact mem_cons_self)
  have hget := hs.kept (index, payment) mem_cons_self
  have hget' := hs.kept _ (mem_cons_of_mem (index, payment) hmem)
  have hscope := h.scope (index, payment) (by simp) (j, payment') (mem_cons_of_mem _ hmem)
  have heq := hs.sane.single index hindex j (h.tail.told j hj) payment payment' hget hget' hscope
  refine (nodup_cons.mp h.distinct).1 ?_
  exact mem_map.mpr ⟨(j, payment'), hmem, heq.symm⟩

theorem ensures_reconcileAttempt (h : Polled gateway visit told ((index, payment) :: polled))
    (hs : Complete accounts told ((index, payment) :: polled)
      (capturedAmong gateway visit ((index, payment) :: polled)) s) :
    VisitEnsures accounts service visit told
      (fun status s' => Complete accounts told polled (capturedAmong gateway visit polled) s' ∧
        (status = .captured → capturedAmong gateway visit polled = []))
      (Complete accounts told polled (capturedAmong gateway visit polled))
      (reconcileAttempt gateway sellerPendingUntil index payment) s := by
  have hkept : ∀ {s' : PaymentDesk ρ}, Orderly accounts told ((index, payment) :: polled) s' →
      Orderly accounts told polled s' := fun hs' =>
    ⟨hs'.sane, hs'.debited, fun attempt hmem => hs'.kept attempt (mem_cons_of_mem _ hmem)⟩
  obtain ⟨hfresh, -⟩ := nodup_cons.mp h.distinct
  have hopen := h.isOpen (index, payment) (by simp)
  refine Ensures.bind (R := fun response s' => response = visit.answers payment ∧
    Complete accounts told ((index, payment) :: polled)
      (capturedAmong gateway visit ((index, payment) :: polled)) s') ?_ ?_
  · refine ensures_keep (.getPaymentStatus _) hs.toOrderly trivial rfl
      (by simp [Visit.answered, effect]) ?_ ?_
    · intro response s' hreply hbooks hs'
      cases hreply
      exact ⟨rfl, hs.of_books hbooks hs'.debited⟩
    · exact fun _ hbooks hs' hbooked =>
        (hkept hs.toOrderly).complete_after hbooked _ hbooks (hkept hs')
  rintro response s₁ ⟨rfl, hs₁⟩
  have hget : s₁.payments[index]? = some payment := hs₁.kept (index, payment) (by simp)
  refine Ensures.ite (fun hsame => ?_) fun _ => ?_
  · -- the attempt is still as it was, and so it is not captured
    have hnot : ¬ mapStatusToInternal gateway (visit.answers payment).state = .captured := by
      intro hcaptured
      rw [← hsame, hcaptured] at hopen
      exact absurd hopen (by decide)
    have hrecorded := hs₁.recorded
    rw [capturedAmong_cons, if_neg hnot] at hrecorded
    exact Ensures.ret hs₁.toOrderly.dead
      ⟨⟨hkept hs₁.toOrderly, hrecorded, hs₁.credited⟩, fun hpending => absurd hpending (by decide)⟩
  · refine Ensures.bind (ensures_transition (hkept hs₁.toOrderly) hget ?_
      (mapStatusToInternal_ne_authorized _ _) ?_ hs₁.credited ?_ ?_) fun edited s₂ hs₂ => ?_
    · exact fun attempt hmem heq => hfresh (mem_map.mpr ⟨attempt, hmem, heq⟩)
    · intro i hi payment' hget' hun
      have hmem := hs₁.recorded i hi payment' hget' hun
      rw [capturedAmong_cons] at hmem
      split at hmem
      · exact hmem
      · exact mem_cons_of_mem _ hmem
    · intro hcaptured
      refine ⟨h.told index ?_, .inr ?_⟩
      · rw [capturedAmong_cons, if_pos hcaptured]
        exact mem_cons_self
      · have hauthorized := hs₁.sane.status payment (mem_of_getElem? hget)
        simp only [mem_cons, not_mem_nil, or_false] at hopen ⊢
        tauto
    · intro hne hindex
      by_contra hnot
      have hmem := hs₁.recorded index hindex payment hget (eq_false_of_ne_true hnot)
      rw [capturedAmong_cons, if_neg hne] at hmem
      obtain ⟨payment', hmem', -⟩ := mem_capturedAmong hmem
      exact hfresh (mem_map.mpr ⟨(index, payment'), hmem', rfl⟩)
    · exact Ensures.bind (ensures_handleOrderSideEffects hs₂) fun _ s₃ hs₃ =>
        Ensures.ret hs₃.toOrderly.dead
          ⟨hs₃, fun hcaptured => h.no_other hcaptured hs.toOrderly⟩

theorem ensures_reconcileOpen {unknown pending : Bool} (h : Polled gateway visit told polled)
    (hs : Complete accounts told polled (capturedAmong gateway visit polled) s) :
    Completes accounts service visit told
      (reconcileOpen gateway sellerPendingUntil polled unknown pending) s := by
  induction polled generalizing s unknown pending with
  | nil => exact Ensures.ret hs.toOrderly.dead hs
  | cons attempt polled ih =>
    obtain ⟨index, payment⟩ := attempt
    unfold reconcileOpen
    refine Ensures.bind (R := fun answer s' =>
      Complete accounts told polled (capturedAmong gateway visit polled) s' ∧
        (answer = some .captured → capturedAmong gateway visit polled = [])) ?_ ?_
    · refine Ensures.tryCatch
        (F := fun _ => Complete accounts told polled (capturedAmong gateway visit polled)) ?_
        fun _ s' hs' => Ensures.ret hs'.toOrderly.dead ⟨hs', fun hnone => nomatch hnone⟩
      refine Ensures.bind (ensures_reconcileAttempt h hs) fun status s' hs' => ?_
      exact Ensures.ret hs'.1.toOrderly.dead
        ⟨hs'.1, fun hcaptured => hs'.2 (Option.some.inj hcaptured)⟩
    rintro answer s' ⟨hs', hlast⟩
    match answer with
    | none => exact ih h.tail hs'
    | some .captured =>
      refine Ensures.ret hs'.toOrderly.dead ⟨hs'.toOrderly.forget, ?_, hs'.credited⟩
      rw [← hlast rfl]
      exact hs'.recorded
    | some .pending => exact ih h.tail hs'
    | some .created | some .authorized | some .failed | some .refunded | some .cancelled =>
      exact ih h.tail hs'

variable {orderId : ObjectId}

theorem get_of_mem_attemptsAbout (h : attempt ∈ attemptsAbout orderId s) :
    s.payments[attempt.1]? = some attempt.2 :=
  mem_indexed.mp (mem_reverse.mp (mem_filter.mp h).1)

theorem scope_of_mem_attemptsAbout (hs : s.books.Sane told) {attempt attempt' : ℕ × Payment}
    (h : attempt ∈ attemptsAbout orderId s) (h' : attempt' ∈ attemptsAbout orderId s) :
    attempt.2.scope = attempt'.2.scope := by
  have hrow : ∀ attempt ∈ attemptsAbout orderId s,
      ∃ row ∈ s.books.rows, row.id = orderId ∧ row.scope = attempt.2.scope := by
    intro attempt hmem
    have hget := get_of_mem_attemptsAbout hmem
    have hid : orderId ∈ attempt.2.orderIds := by
      rcases of_decide_eq_true (mem_filter.mp hmem).2 with heq | hid
      · exact heq ▸ hs.primary attempt.2 (mem_of_getElem? hget)
      · exact hid
    obtain ⟨order, -, horder, horderId, hrow⟩ := order_of_orderIds hs hget hid
    exact ⟨order.row, row_mem_books horder, horderId, (mem_rowsOf.mp hrow).2⟩
  obtain ⟨row, hmem, hid, hscope⟩ := hrow attempt h
  obtain ⟨row', hmem', hid', hscope'⟩ := hrow attempt' h'
  rw [← hscope, ← hscope', hs.row_ext hmem hmem' (hid.trans hid'.symm)]

theorem nodup_attemptsAbout (orderId : ObjectId) (s : PaymentDesk ρ) :
    ((attemptsAbout orderId s).map Prod.fst).Nodup := by
  have hall : ((attempts s).map Prod.fst).Nodup := by
    unfold attempts
    rw [map_map]
    change (s.payments.zipIdx.map Prod.snd).Nodup
    rw [zipIdx_map_snd]
    exact nodup_range' ..
  refine List.Nodup.sublist (filter_sublist.map Prod.fst) ?_
  rw [map_reverse]
  exact nodup_reverse.mpr hall

theorem ensures_reconcileOrderPaymentStatus (hrequest : visit.request = .reconcile orderId)
    (h : Starting accounts told (visit.captures gateway s) s) :
    Completes accounts service visit told
      (reconcileOrderPaymentStatus gateway orderId sellerPendingUntil).discard s := by
  unfold Visit.captures at h
  rw [hrequest] at h
  dsimp only at h
  refine Ensures.bind (Q := fun _ => Complete accounts told [] [])
    (R := fun _ => Complete accounts told [] []) ?_
    fun _ s' hs' => Ensures.ret hs'.toOrderly.dead hs'
  refine Ensures.bind (ensures_read (.findAttempts _) h trivial rfl
    (by simp [Visit.answered, effect])) ?_
  rintro found s₁ ⟨⟨⟩, hbooks, h₁⟩
  refine Ensures.ite (fun hcaptured => ?_) fun hnone => ?_
  · rw [if_pos (show (attemptsAbout orderId s).any _ = true from hcaptured)] at h₁
    exact Ensures.ret h₁.toOrderly.dead h₁.complete
  rw [if_neg (show ¬ (attemptsAbout orderId s).any _ = true from hnone)] at h₁
  refine Ensures.ite (fun hempty => ?_) fun _ => ?_
  · have hopen : (attemptsAbout orderId s).filter isOpen = [] := isEmpty_iff.mp hempty
    rw [hopen] at h₁
    exact Ensures.ret h₁.toOrderly.dead h₁.complete
  · have hpayments := payments_of_books hbooks
    have hpolled : Polled gateway visit told ((attemptsAbout orderId s).filter isOpen) := by
      refine ⟨?_, fun attempt hmem => of_decide_eq_true (mem_filter.mp hmem).2, ?_, h₁.told⟩
      · exact List.Nodup.sublist (filter_sublist.map Prod.fst) (nodup_attemptsAbout orderId s)
      · exact fun attempt hmem attempt' hmem' => scope_of_mem_attemptsAbout h.sane
          (mem_filter.mp hmem).1 (mem_filter.mp hmem').1
    refine ensures_reconcileOpen hpolled ⟨⟨h₁.sane, h₁.debited, ?_⟩, h₁.recorded, h₁.credited⟩
    intro attempt hmem
    rw [hpayments]
    exact get_of_mem_attemptsAbout (mem_filter.mp hmem).1

/-! ### A new attempt -/

variable {checkoutGroupId : String}

theorem row_scope_eq_group {row : OrderRow} :
    row.scope = .group checkoutGroupId ↔ row.checkoutGroupId = some checkoutGroupId := by
  unfold OrderRow.scope
  split
  next g hg => simp [hg]
  next hg => simp [hg]

theorem row_scope_eq_order {row : OrderRow} :
    row.scope = .order orderId ↔ row.checkoutGroupId = none ∧ row.id = orderId := by
  unfold OrderRow.scope
  split
  next g hg => simp [hg]
  next hg => simp [hg]

/-- What `resolvePaymentTarget` finds is a whole checkout. -/
structure Whole (b : Books) (target : Target) : Prop where
  orders : target.orders.map (fun order => order.id) = (b.rowsOf target.scope).map OrderRow.id
  primary : target.primaryOrder ∈ target.orders

theorem whole_group {primaryOrder : CheckoutOrder}
    (hmem : primaryOrder ∈ s.orders.filter (fun order =>
      decide (order.checkoutGroupId = some checkoutGroupId))) :
    Whole s.books ⟨some checkoutGroupId, primaryOrder, s.orders.filter (fun order =>
      decide (order.checkoutGroupId = some checkoutGroupId))⟩ where
  orders := by
    change _ = ((s.orders.map row).filter (fun row =>
      decide (row.scope = .group checkoutGroupId))).map OrderRow.id
    rw [filter_map, map_map]
    congr 1
    refine filter_congr fun order _ => ?_
    have hscope : order.row.scope = .group checkoutGroupId ↔ order.checkoutGroupId = some checkoutGroupId :=
      row_scope_eq_group
    exact decide_eq_decide.mpr hscope.symm
  primary := hmem

theorem whole_of_findTarget (hs : s.books.Sane told) {scope : PaymentScope} {target : Target}
    (h : (visit.answered service (.findTarget scope) s).1 = .ok (some target)) :
    Whole s.books target := by
  cases scope with
  | group checkoutGroupId =>
    have hfound := Except.ok.inj h
    obtain ⟨primaryOrder, hhead, rfl⟩ := Option.map_eq_some_iff.mp hfound
    exact whole_group (mem_of_mem_head? hhead)
  | order orderId =>
    have hfound := Except.ok.inj h
    obtain ⟨primaryOrder, horder, rfl⟩ := Option.map_eq_some_iff.mp hfound
    obtain ⟨hmem, hid⟩ := order?_some horder
    cases hgroup : primaryOrder.checkoutGroupId with
    | some checkoutGroupId =>
      exact whole_group (mem_filter.mpr ⟨hmem, decide_eq_true hgroup⟩)
    | none =>
      refine ⟨?_, mem_singleton_self primaryOrder⟩
      have hrows : s.books.rowsOf (.order primaryOrder.id) = [primaryOrder.row] := by
        refine filter_eq_singleton (List.Nodup.of_map OrderRow.id hs.distinct)
          (row_mem_books hmem) (decide_eq_true (row_scope_eq_order.mpr ⟨hgroup, rfl⟩))
          fun row hrow hscope => ?_
        have hrowid := (row_scope_eq_order.mp (of_decide_eq_true hscope)).2
        exact hs.row_ext hrow (row_mem_books hmem) hrowid
      change [primaryOrder.id] = (s.books.rowsOf (.order primaryOrder.id)).map OrderRow.id
      rw [hrows]
      rfl

/-- A new attempt to pay a whole checkout, whether it is stored or its id is taken. -/
theorem ensures_createPayment {payment : Payment} (h : Complete accounts told [] [] s)
    (hcovers : payment.orderIds = (s.books.rowsOf payment.scope).map OrderRow.id ∧
      s.books.rowsOf payment.scope ≠ []) (hprimary : payment.order ∈ payment.orderIds)
    (hstatus : payment.status = .pending) :
    Completes accounts service visit told (perform (Kind.createPayment payment)) s := by
  refine Ensures.call h.toOrderly.dead fun o r s' hterms hperform => ?_
  obtain ⟨-, hdebited⟩ := hterms
  rw [hperform] at hdebited
  have hbooks : s'.books = s.books ∨ s'.books = s.books.add payment := by
    rcases Outcome.perform_eq hperform with ⟨-, rfl⟩ | ⟨-, rfl, -⟩
    · exact .inl rfl
    · unfold Visit.answered effect
      dsimp only
      split
      · exact .inl rfl
      · exact .inr rfl
  have hs' : Complete accounts told [] [] s' := by
    rcases hbooks with hsame | hadded
    · exact h.of_books hsame hdebited
    · have hsettled : (s.books.add payment).Settled told :=
        Books.Settled.add ⟨h.sane, h.recorded, h.credited⟩ hcovers hprimary hstatus
      rw [← hadded] at hsettled
      exact ⟨⟨hsettled.sane, hdebited, by simp⟩, hsettled.recorded, hsettled.credited⟩
  exact ⟨hs'.toOrderly.dead, fun _ _ => hs', fun _ _ => hs'⟩

/-- A call of `createPaymentOrderForOrderRef` that leaves the books. -/
theorem ensures_step (kind : Kind) {b : Books} (hb : s.books = b) (h : Complete accounts told [] [] s)
    (hkind : KeepsBooks kind) (hlogged : isLogged kind = false)
    (hok : ∀ e, (visit.answered service kind s).1 ≠ .error e) :
    VisitEnsures accounts service visit told
      (fun a s' => (visit.answered service kind s).1 = .ok a ∧ s'.books = b ∧
        Complete accounts told [] [] s')
      (Complete accounts told [] []) (perform kind) s :=
  ensures_keep kind h.toOrderly hkind hlogged hok
    (fun _ _ hreply hbooks hs' => ⟨hreply, hbooks.trans hb, h.of_books hbooks hs'.debited⟩)
    fun _ hbooks hs' _ => h.of_books hbooks hs'.debited

variable {merchantOrderIdOf : PaymentScope → ℕ → String} {idempotencyKey : Option String}

theorem ensures_createAttempt {target : Target} (hwhole : Whole s.books target)
    (h : Complete accounts told [] [] s) :
    Completes accounts service visit told
      (createAttempt gateway target merchantOrderIdOf idempotencyKey) s := by
  refine Ensures.bind (ensures_step (.findOpenPayment _) rfl h trivial rfl
    (by simp [Visit.answered, effect])) ?_
  rintro openPayment s₁ ⟨-, hbooks₁, h₁⟩
  refine Ensures.ite (fun _ => Ensures.ret h₁.toOrderly.dead h₁) fun _ => ?_
  refine Ensures.ite (fun _ => Ensures.throw h₁.toOrderly.dead h₁) fun _ => ?_
  refine Ensures.bind (ensures_step (.countPayments _) hbooks₁ h₁ trivial rfl
    (by simp [Visit.answered, effect])) ?_
  rintro count s₂ ⟨-, hbooks₂, h₂⟩
  refine Ensures.bind (ensures_step (.initiatePayment _ _) hbooks₂ h₂ trivial rfl
    (by simp [Visit.answered, effect])) ?_
  rintro init s₃ ⟨-, hbooks₃, h₃⟩
  have hids : target.primaryOrder.id ∈ target.orders.map (fun order => order.id) :=
    mem_map_of_mem hwhole.primary
  refine ensures_createPayment h₃ ?_ hids rfl
  rw [hbooks₃]
  refine ⟨hwhole.orders, fun hnone => ?_⟩
  have hrows : s.books.rowsOf target.scope = [] := hnone
  rw [hwhole.orders, hrows] at hids
  cases hids

theorem ensures_createPaymentOrderForOrderRef {scope : PaymentScope} {userId : ObjectId}
    (h : Complete accounts told [] [] s) :
    Completes accounts service visit told
      (createPaymentOrderForOrderRef gateway merchantOrderIdOf scope userId idempotencyKey) s := by
  refine Ensures.bind (ensures_step (.findTarget scope) rfl h trivial rfl
    (by cases scope <;> simp [Visit.answered, effect])) ?_
  rintro found s₁ ⟨hfound, hbooks₁, h₁⟩
  cases found with
  | none => exact Ensures.throw h₁.toOrderly.dead h₁
  | some target =>
    have hwhole : Whole s₁.books target := hbooks₁ ▸ whole_of_findTarget h.sane hfound
    dsimp only
    split
    · exact Ensures.throw h₁.toOrderly.dead h₁
    cases idempotencyKey with
    | none => exact ensures_createAttempt hwhole h₁
    | some key =>
      refine Ensures.bind (ensures_step (.findForKey target.scope key) rfl h₁ trivial rfl
        (by simp [Visit.answered, effect])) ?_
      rintro existing s₂ ⟨-, hbooks₂, h₂⟩
      refine Ensures.ite (fun _ => Ensures.ret h₂.toOrderly.dead h₂) fun _ => ?_
      exact ensures_createAttempt (hbooks₂ ▸ hwhole) h₂

/-! ### Every handler -/

theorem ensures_handleRequest (h : Starting accounts told (visit.captures gateway s) s)
    (hadmitted : s.books.RecordedBut told [] ∨ ∀ i ∈ visit.captures gateway s,
      ∀ payment ∈ s.payments[i]?, visit.Admitted payment s) :
    Completes accounts service visit told
      (handleRequest gateway merchantOrderIdOf visit.sellerPendingUntil visit.request) s := by
  cases hrequest : visit.request with
  | createPayment scope userId idempotencyKey =>
    have hnone : visit.captures gateway s = [] := by
      unfold Visit.captures
      rw [hrequest]
    rw [hnone] at h
    exact ensures_createPaymentOrderForOrderRef h.complete
  | verifyStatus merchantOrderId userId =>
    exact ensures_verifyPhonePePaymentStatus gateway hrequest h
  | verifySignature merchantOrderId razorpayOrderId razorpayPaymentId razorpaySignature isValid userId =>
    exact ensures_verifyRazorpayPaymentSignature gateway hrequest h hadmitted
  | phonePeWebhook isValid decoded => exact ensures_processPhonePeWebhook gateway hrequest h hadmitted
  | razorpayWebhook isValid decoded refundEntity =>
    exact ensures_processRazorpayWebhook gateway hrequest h hadmitted
  | reconcile orderId => exact ensures_reconcileOrderPaymentStatus hrequest h

end Programs

end Handlers

/-! ## Runs -/

section Runs

variable {ρ : Type} {accounts : RefundAccounts ρ} {service : RefundService ρ}
  {gateway : PaymentGateway} {merchantOrderIdOf : PaymentScope → ℕ → String}

def InBalance (accounts : RefundAccounts ρ) (a : Account ρ) : Prop :=
  a.desk.books.Settled a.reported ∧ Debited accounts a.desk

theorem single_of_found (found : Option (ℕ × Payment)) (P : ℕ × Payment → Bool) :
    ∀ i ∈ (found.toList.filter P).map Prod.fst, ∀ j ∈ (found.toList.filter P).map Prod.fst, i = j := by
  cases found with
  | none =>
    intro i hi
    cases hi
  | some attempt =>
    rw [captures_found]
    intro i hi j hj
    split at hi
    · rw [if_pos ‹_›] at hj
      exact (mem_singleton.mp hi).trans (mem_singleton.mp hj).symm
    · cases hi

theorem Visit.admitted_or_single (visit : Visit) (gateway : PaymentGateway) (s : PaymentDesk ρ) :
    (∀ payment, visit.Admitted payment s) ∨
      ∀ i ∈ visit.captures gateway s, ∀ j ∈ visit.captures gateway s, i = j := by
  unfold Visit.captures Visit.Admitted
  cases visit.request with
  | createPayment | verifyStatus | reconcile => exact .inl fun _ => trivial
  | verifySignature merchantOrderId razorpayOrderId razorpayPaymentId razorpaySignature isValid userId =>
    exact .inr (single_of_found _ _)
  | phonePeWebhook | razorpayWebhook => exact .inr (single_of_found _ _)

theorem Visit.captures_present (visit : Visit) (s : PaymentDesk ρ) :
    ∀ i ∈ visit.captures gateway s, i < s.payments.length := by
  have hindexed : ∀ attempt ∈ attempts s, attempt.1 < s.payments.length := fun attempt hmem =>
    (List.getElem?_eq_some_iff.mp (mem_indexed.mp hmem)).1
  have hmatching : ∀ (clauses : List PaymentClause) (P : ℕ × Payment → Bool),
      ∀ i ∈ ((matching clauses s).toList.filter P).map Prod.fst, i < s.payments.length := by
    intro clauses P i hi
    obtain ⟨attempt, hmem, rfl⟩ := mem_map.mp hi
    have hfound := Option.mem_toList.mp (mem_filter.mp hmem).1
    exact hindexed attempt (mem_of_find?_eq_some hfound)
  unfold Visit.captures
  cases visit.request with
  | createPayment scope userId idempotencyKey =>
    intro i hi
    cases hi
  | verifyStatus | phonePeWebhook | razorpayWebhook => exact hmatching _ _
  | verifySignature merchantOrderId razorpayOrderId razorpayPaymentId razorpaySignature isValid userId =>
    exact hmatching _ _
  | reconcile orderId =>
    intro i hi
    dsimp only at hi
    split at hi
    · cases hi
    · obtain ⟨attempt, hmem, rfl⟩ := mem_map.mp hi
      have habout := (mem_filter.mp (mem_filter.mp hmem).1).1
      exact (List.getElem?_eq_some_iff.mp (get_of_mem_attemptsAbout habout)).1

variable {a : Account ρ}

theorem Visit.starting {visit : Visit} (ha : InBalance accounts a)
    (hreport : visit.ReportInOrder gateway a) :
    Starting accounts (a.reported ++ visit.captures gateway a.desk) (visit.captures gateway a.desk)
      a.desk where
  sane := by
    refine ha.1.sane.report (visit.captures_present a.desk) ?_ ?_
    · intro i hi j hj payment payment' hget hget' hscope
      by_cases hold : i ∈ a.reported
      · by_cases hold' : j ∈ a.reported
        · exact ha.1.sane.single i hold j hold' payment payment' hget hget' hscope
        · have hnew := (mem_append.mp hj).resolve_left hold'
          exact (hreport j hnew hold' payment' hget').2.1 i (mem_append_left _ hold) payment hget
            hscope
      · exact ((hreport i hi hold payment hget).2.1 j hj payment' hget' hscope.symm).symm
    · intro i hi payment hget
      by_cases hold : i ∈ a.reported
      · exact ha.1.sane.amounts i hold payment hget
      · exact (hreport i hi hold payment hget).2.2.1
  debited := ha.2
  kept := by simp
  recorded := ha.1.recordedBut
  credited := ha.1.creditedBut
  told := fun i hi => mem_append_right _ hi
  acceptable := by
    intro i hi payment hget
    by_cases hold : i ∈ a.reported
    · refine .inl ?_
      by_contra hnot
      exact absurd (ha.1.recorded i hold payment hget (eq_false_of_ne_true hnot)) (by simp)
    · exact .inr (hreport i hi hold payment hget).1

theorem Visit.admitted {visit : Visit} (ha : InBalance accounts a)
    (hreport : visit.ReportInOrder gateway a) :
    a.desk.books.RecordedBut (a.reported ++ visit.captures gateway a.desk) [] ∨
      ∀ i ∈ visit.captures gateway a.desk, ∀ payment ∈ a.desk.payments[i]?,
        visit.Admitted payment a.desk := by
  by_cases hall : ∀ i ∈ visit.captures gateway a.desk, i ∈ a.reported
  · refine .inl fun i hi payment hget hunrecorded => ?_
    have hold : i ∈ a.reported := (mem_append.mp hi).elim id (hall i)
    exact ha.1.recorded i hold payment hget hunrecorded
  · refine .inr fun i hi payment hget => ?_
    rcases visit.admitted_or_single gateway a.desk with hadmitted | hsingle
    · exact hadmitted payment
    · have hnew : i ∉ a.reported := fun hold => hall fun j hj => hsingle i hi j hj ▸ hold
      exact (hreport i hi hnew payment hget).2.2.2

theorem inBalance_happens (ha : InBalance accounts a) (event : Event) :
    InBalance accounts { a with desk := happens event a.desk } := by
  match event with
  | .workflow orderId workflowStatus status =>
    have hbooks : (happens (.workflow orderId workflowStatus status) a.desk).books = a.desk.books := by
      refine books_map (fun order => ?_) a.desk
      split
      · rfl
      · rfl
    refine ⟨?_, fun order horder => ?_⟩
    · dsimp only
      rw [hbooks]
      exact ha.1
    · obtain ⟨before, hmem, rfl⟩ := mem_map.mp horder
      have hdebited := ha.2 before hmem
      split
      · exact hdebited
      · exact hdebited

theorem step_inBalance {step : Step} (ha : InBalance accounts a)
    (hstep : StepInOrder accounts service gateway merchantOrderIdOf a step) :
    InBalance accounts (a.step service gateway merchantOrderIdOf step) := by
  match step with
  | .workflow event => exact inBalance_happens ha event
  | .visit visit =>
    let told := a.reported ++ visit.captures gateway a.desk
    have hensures : Completes accounts service visit told
      (handleRequest gateway merchantOrderIdOf visit.sellerPendingUntil visit.request) a.desk :=
      ensures_handleRequest (visit.starting ha hstep.1) (visit.admitted ha hstep.1)
    have hcomplete := hensures.run (R := Complete accounts told [] []) (fun _ hs => hs)
      (fun _ _ hs => hs) (fun _ _ hs => hs) hstep.2
    exact ⟨⟨hcomplete.sane, hcomplete.recorded, hcomplete.credited⟩, hcomplete.debited⟩

end Runs

/-- Where every report is about one open attempt of its checkout and nothing fails before a capture
is recorded and credited, captured money is credited exactly once and fully. -/
theorem credited_in_full {ρ : Type} (accounts : RefundAccounts ρ) (service : RefundService ρ)
    (gateway : PaymentGateway) (merchantOrderIdOf : PaymentScope → ℕ → String) (s : PaymentDesk ρ)
    (hs : JustPlaced accounts s) (steps : List Step)
    (hsteps : Guarded (Account.step service gateway merchantOrderIdOf)
      (StepInOrder accounts service gateway merchantOrderIdOf) ⟨s, []⟩ steps) :
    Along (Account.step service gateway merchantOrderIdOf) (CreditedInFull accounts) ⟨s, []⟩
      steps := by
  have hbalance : Along (Account.step service gateway merchantOrderIdOf) (InBalance accounts)
      ⟨s, []⟩ steps :=
    along_of_guarded (fun _ _ ha hstep => step_inBalance ha hstep)
      (show InBalance accounts ⟨s, []⟩ from ⟨hs.settled, hs.debited⟩) hsteps
  exact hbalance.mono fun _ ha => creditedInFull_of_settled ha.1 ha.2

/-! ## A payment that fails before it succeeds -/

def noAccounts : RefundAccounts Unit := ⟨fun _ => 0, fun _ => 0⟩

def placedDesk : PaymentDesk Unit := { checkoutDesk with payments := [] }

theorem placedDesk_justPlaced : JustPlaced noAccounts placedDesk where
  distinct := by decide
  payments := rfl
  credits := rfl
  uncaptured := by decide
  debited := fun _ _ => rfl

def openPage : Step :=
  .visit { request := .createPayment (.group "CHK-1") 7 none, sellerPendingUntil := 100,
           initResult := { razorpayOrderId := some "order_1" } }

def razorpaySays (eventId state : String) : Step :=
  .visit { request := .razorpayWebhook true
             { eventId, gatewayOrderId := some "order_1", state } none, sellerPendingUntil := 200 }

theorem credited_in_full_page :
    Along (Account.step noRefunds .razorpay attemptIds) (CreditedInFull noAccounts) ⟨placedDesk, []⟩
      [openPage, razorpaySays "E1" "payment.captured", razorpaySays "E1" "payment.captured"] :=
  credited_in_full noAccounts noRefunds .razorpay attemptIds placedDesk placedDesk_justPlaced _
    (by decide +kernel)

/-- The customer's first card is refused, the second pays, and the order is not credited. -/
theorem captured_not_credited :
    ¬ ∀ steps : List Step,
      Along (Account.step noRefunds .razorpay attemptIds) (CreditedInFull noAccounts)
        ⟨placedDesk, []⟩ steps := by
  intro credited
  have hlast := (credited [openPage, razorpaySays "E1" "payment.failed",
    razorpaySays "E2" "payment.captured"]).last
  have htotal := hlast.total (.group "CHK-1")
  revert htotal
  decide +kernel

end DiscountBazar.Payments
