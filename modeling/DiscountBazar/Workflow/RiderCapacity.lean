/-
How many orders a rider holds (`riderActiveOrdersService.js`, `deliveryAcceptAtomic`).

An acceptance counts the rider's deliveries and return legs, and then sends an update that looks at
its own order only. So between the count and the update another acceptance may have taken the last
place.
-/
import DiscountBazar.Workflow.Handlers

namespace DiscountBazar.Workflow.Capacity

open Finance Tasks Runs
open Prog (perform)
open Option Update

/-! ## The orders -/

abbrev Orders := Table (fun order : WorkflowOrder => order.id)

/-- `activeDeliveryFilter`. -/
def isActiveDelivery (riderId : ObjectId) (order : WorkflowOrder) : Bool :=
  decide (order.deliveryBoy = some riderId) &&
    (isV2 order && order.workflowStatus.any (fun ws =>
        decide (ws ∈ [WorkflowStatus.deliveryAssigned, .pickupReady, .outForDelivery])) ||
      !isV2 order && decide (order.status ∈ [LegacyStatus.confirmed, .packed, .outForDelivery]))

/-- `activeReturnFilter`. -/
def isActiveReturn (riderId : ObjectId) (order : WorkflowOrder) : Bool :=
  decide (order.returnDeliveryBoy = some riderId) &&
    decide (order.returnStatus ∈
      [ReturnStatus.returnPickupAssigned, .returnInTransit, .returnDropPending])

/-- `countDocuments` of the orders other than one. -/
def countOthers (orders : Orders) (filter : WorkflowOrder → Bool) (excludeOrderId : ObjectId) : ℕ :=
  orders.rows.countP (fun order => decide (order.id ≠ excludeOrderId) && filter order)

/-- The deliveries and return legs that the rider holds. -/
def activeOrders (riderId : ObjectId) (orders : Orders) : ℕ :=
  orders.rows.countP (isActiveDelivery riderId) + orders.rows.countP (isActiveReturn riderId)

/-! ## Calls -/

inductive Kind where
  /-- an acceptance of the order with the key of the request is in the cache -/
  | findAccepted (orderId : ObjectId)
  | countDeliveries (excludeOrderId : ObjectId)
  | countReturns (excludeOrderId : ObjectId)
  | acceptOrder (orderId : ObjectId) (now : Date)
  | findOrder (orderId : ObjectId)

@[reducible] def Kind.Reply : Kind → Type
  | .findAccepted _ => Bool
  | .countDeliveries _ | .countReturns _ => ℕ
  | .acceptOrder _ _ | .findOrder _ => Option WorkflowOrder

structure Choice where
  outcome : Tasks.Outcome ServiceError := .done
  found : Bool := false

def accepted (riderId orderId : ObjectId) (now : Date) (orders : Orders) : Option WorkflowOrder :=
  (orders.get? orderId).bind (deliveryAccept riderId now).apply

def effect (riderId : ObjectId) (c : Choice) (orders : Orders) :
    (kind : Kind) → Except ServiceError kind.Reply × Orders
  | .findAccepted _ => (.ok c.found, orders)
  | .countDeliveries excludeOrderId =>
    (.ok (countOthers orders (isActiveDelivery riderId) excludeOrderId), orders)
  | .countReturns excludeOrderId =>
    (.ok (countOthers orders (isActiveReturn riderId) excludeOrderId), orders)
  | .acceptOrder orderId now =>
    match accepted riderId orderId now orders with
    | some order => (.ok (some order), orders.set order)
    | none => (.ok none, orders)
  | .findOrder orderId => (.ok (orders.get? orderId), orders)

def performOp (riderId : ObjectId) (_ : ℕ) (kind : Kind) (c : Choice) (orders : Orders) :
    Option (Except ServiceError kind.Reply × Orders) :=
  some (c.outcome.perform (effect riderId c orders kind) orders)

/-! ## The acceptance -/

abbrev M := Prog Kind Kind.Reply ServiceError

def countRiderActiveOrders (excludeOrderId : ObjectId) : M ℕ := do
  let deliveries ← perform (Kind.countDeliveries excludeOrderId)
  let returns ← perform (Kind.countReturns excludeOrderId)
  pure (deliveries + returns)

def hasRoom (max active : ℕ) : Prop := active < max

instance (max active : ℕ) : Decidable (hasRoom max active) := inferInstanceAs (Decidable (_ < _))

/-- `RIDER_AT_CAPACITY`. -/
def atCapacity (max active : ℕ) : ServiceError :=
  ⟨if max = 1 then "Finish your current delivery before accepting a new order."
    else "You already have " ++ toString active ++ " active deliveries.", some 409⟩

/-- `assertRiderCanTakeOrder`; 0 is no limit. -/
def assertRiderCanTakeOrder (max : ℕ) (orderId : ObjectId) : M Unit :=
  if max = 0 then pure ()
  else do
    let active ← countRiderActiveOrders orderId
    if hasRoom max active then pure () else .throw (atCapacity max active)

def refused (riderId : ObjectId) : Option WorkflowOrder → M Unit
  | none => .throw ⟨"Order not found", some 404⟩
  | some order =>
    match order.deliveryBoy with
    | some other =>
      if other = riderId then pure ()
      else .throw ⟨"Another rider already accepted this order.", some 409⟩
    | none =>
      if order.status = .cancelled ∨ order.workflowStatus = some .cancelled then
        .throw ⟨"This order was cancelled.", some 409⟩
      else if riderId ∈ order.skippedBy then
        .throw ⟨"You rejected this order earlier, so it cannot be accepted now.", some 409⟩
      else if isV2 order ∧ order.workflowStatus.any (fun ws =>
          decide (ws ∈ [WorkflowStatus.created, .sellerPending, .sellerAccepted])) = true then
        .throw ⟨"The store has not confirmed this order yet.", some 409⟩
      else .throw ⟨"Order already assigned or not available", some 409⟩

structure Acceptance where
  orderId : ObjectId
  now : Date
  /-- the request carries a key, and the cache is there -/
  idempotent : Bool := false

def lookUpAccepted (request : Acceptance) : M Bool :=
  if request.idempotent then perform (Kind.findAccepted request.orderId) else pure false

/-- The part of `deliveryAcceptAtomic` after the cache. -/
def takeOrder (max : ℕ) (riderId : ObjectId) (request : Acceptance) : M Unit := do
  assertRiderCanTakeOrder max request.orderId
  let updated ← perform (Kind.acceptOrder request.orderId request.now)
  match updated with
  | some _ => pure ()
  | none => do
      let order ← perform (Kind.findOrder request.orderId)
      refused riderId order

def deliveryAcceptAtomic (max : ℕ) (riderId : ObjectId) (request : Acceptance) : M Unit := do
  let duplicate ← lookUpAccepted request
  if duplicate then pure () else takeOrder max riderId request

def acceptances (max : ℕ) (riderId : ObjectId) :
    System Kind Kind.Reply ServiceError Orders Choice Empty Acceptance where
  perform := performOp riderId
  outside := nofun
  entry := deliveryAcceptAtomic max riderId
  mayStart := fun _ _ => true

abbrev Pool := Tasks.Pool Kind Kind.Reply ServiceError Orders

abbrev Act := Action Choice Empty Acceptance

/-! ## The limit -/

/-- The rider holds no more than the limit. -/
def Within (max : ℕ) (riderId : ObjectId) (orders : Orders) : Prop :=
  activeOrders riderId orders ≤ max

instance (max : ℕ) (riderId : ObjectId) (orders : Orders) : Decidable (Within max riderId orders) :=
  inferInstanceAs (Decidable (_ ≤ _))

/-- A call that takes an order finds room for one more, on a count of all the orders at that moment. -/
def Room (max : ℕ) (riderId : ObjectId) (orders : Orders) : Kind → Prop
  | .acceptOrder orderId now =>
    (accepted riderId orderId now orders).isSome = true → hasRoom max (activeOrders riderId orders)
  | _ => True

def RoomAtUpdate (max : ℕ) (riderId : ObjectId) (_ : ℕ) (kind : Kind) (c : Choice)
    (orders : Orders) : Prop :=
  c.outcome.takesEffect = true → Room max riderId orders kind

instance (max : ℕ) (riderId : ObjectId) (orders : Orders) (kind : Kind) :
    Decidable (Room max riderId orders kind) := by
  unfold Room
  split
  · infer_instance
  · infer_instance

instance (max : ℕ) (riderId : ObjectId) (i : ℕ) (kind : Kind) (c : Choice) (orders : Orders) :
    Decidable (RoomAtUpdate max riderId i kind c orders) :=
  inferInstanceAs (Decidable (_ → _))

/-! ## What one call does -/

variable {orders : Orders} {order : WorkflowOrder}

theorem accepted_eq_some {riderId orderId : ObjectId} {now : Date}
    (h : accepted riderId orderId now orders = some order) :
    ∃ old, orders.get? orderId = some old ∧
      (deliveryAccept riderId now).filter old = true ∧
      order = (deliveryAccept riderId now).set old := by
  obtain ⟨old, hold, happly⟩ := bind_eq_some_iff.mp h
  unfold apply at happly
  split at happly
  next hfilter => exact ⟨old, hold, hfilter, (some.inj happly).symm⟩
  next => cases happly

variable {riderId : ObjectId}

theorem isActiveDelivery_of_filter {now : Date}
    (h : (deliveryAccept riderId now).filter order = true) :
    isActiveDelivery riderId order = false := by
  unfold filter at h
  simp only [Bool.and_eq_true, isNone_iff_eq_none] at h
  obtain ⟨⟨⟨hnone, -⟩, -⟩, -⟩ := h
  unfold isActiveDelivery
  rw [hnone]
  rfl

theorem isActiveDelivery_set (riderId : ObjectId) (now : Date) (order : WorkflowOrder) :
    isActiveDelivery riderId ((deliveryAccept riderId now).set order) = true := by
  unfold isActiveDelivery Update.set WorkflowOrder.withStatus legacyStatusFromWorkflow isV2
  by_cases hversion : 2 ≤ order.workflowVersion
  · simp [hversion]
  · simp [hversion]

theorem isActiveReturn_set (riderId : ObjectId) (now : Date) (order : WorkflowOrder) :
    isActiveReturn riderId ((deliveryAccept riderId now).set order)
      = isActiveReturn riderId order := rfl

theorem activeOrders_set {riderId orderId : ObjectId} {now : Date}
    (h : accepted riderId orderId now orders = some order) :
    activeOrders riderId (orders.set order) = activeOrders riderId orders + 1 := by
  obtain ⟨old, hold, hfilter, rfl⟩ := accepted_eq_some h
  have hkey : orders.get? ((deliveryAccept riderId now).set old).id = some old := by
    have hid : ((deliveryAccept riderId now).set old).id = old.id := rfl
    rw [hid, Table.key_of_get? hold]
    exact hold
  have hdeliveries := Table.countP_set hkey (isActiveDelivery riderId)
  have hreturns := Table.countP_set hkey (isActiveReturn riderId)
  rw [isActiveDelivery_of_filter hfilter, isActiveDelivery_set] at hdeliveries
  rw [isActiveReturn_set] at hreturns
  unfold activeOrders
  simp only [Bool.false_eq_true, if_false, if_true] at hdeliveries
  omega

theorem within_effect_iff {max : ℕ} (kind : Kind) (c : Choice) (hwithin : Within max riderId orders) :
    Within max riderId (effect riderId c orders kind).2 ↔ Room max riderId orders kind := by
  cases kind with
  | acceptOrder orderId now =>
    cases haccepted : accepted riderId orderId now orders with
    | some order =>
      simp only [effect, Room, haccepted, Within, hasRoom, activeOrders_set haccepted,
        isSome_some, forall_const]
      exact Nat.succ_le_iff
    | none =>
      simp only [effect, Room, haccepted]
      exact iff_of_true hwithin (fun hsome => by cases hsome)
  | findAccepted | countDeliveries | countReturns | findOrder => exact iff_of_true hwithin trivial

theorem within_performOp_iff {max : ℕ} (i : ℕ) (kind : Kind) (c : Choice)
    (hwithin : Within max riderId orders) :
    ∃ r orders', performOp riderId i kind c orders = some (r, orders') ∧
      (Within max riderId orders' ↔ RoomAtUpdate max riderId i kind c orders) :=
  ⟨_, _, rfl, Outcome.perform_iff (P := Within max riderId) hwithin
    (fun _ => within_effect_iff kind c hwithin)⟩

/-! ## Every interleaving -/

def searching (orderId : ObjectId) : WorkflowOrder :=
  WorkflowOrder.withStatus
    { toOrder :=
        Order.placed orderId 7 (some 3) none .cod (PaymentBreakdown.placed 50000 40000 3000 7000 0) }
    .deliverySearch

def twoSearching : Orders := ⟨[searching 1, searching 2], by decide⟩

def countedTogether : List Act :=
  [.start ⟨1, 10, false⟩, .start ⟨2, 10, false⟩, .run 0 {}, .run 0 {}, .run 1 {}, .run 1 {},
    .run 0 {}, .run 1 {}]

/-- The same two acceptances, one after the other. -/
def oneByOne : List Act :=
  [.start ⟨1, 10, false⟩, .start ⟨2, 10, false⟩, .run 0 {}, .run 0 {}, .run 0 {}, .run 1 {},
    .run 1 {}, .run 1 {}]

end DiscountBazar.Workflow.Capacity
