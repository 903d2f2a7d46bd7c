/-
Coupon usage after a placement (`decrementCouponUsage`, the coupon part of
`compensateOrderCancellation`, and the paths that cancel orders).

The tasks are placements, cancellations that compensate on their own (seller rejection,
timeouts, the auto-cancel job), cancellations that leave the compensation to
`processCancellation`, and payment failures. Each transaction and each database call is one
operation. Of a compensation only what bears on the coupon is here; the stock, finance and
tracking parts are calls that may fail. An order counts as cancelled from the write that
cancels it on. What a task or a cancellation record still owes the coupon is kept beside the
documents and is read by nobody.
-/
import DiscountBazar.Placement.PlaceOrder

namespace DiscountBazar.Placement.Reversal

open Tasks Pricing Function
open Prog (perform)
open Finance (WorkflowStatus)

/-! ## State -/

/-- What a task has still to do for the coupon of a group: see to the reversal after it has
cancelled an order of the group, or decrement the usage after it has locked the group. -/
inductive Duty where
  | none
  | compensate (group : ObjectId)
  | decrement (group : ObjectId)
  deriving DecidableEq

/-- `processing` of a cancellation record: its compensation step, and whether its state is
PENDING. -/
structure Processing where
  compensation : Bool
  pending : Bool
  deriving DecidableEq

/-- The shop with what placements do not touch: the groups with `couponReversalApplied`, the
groups whose document has expired, and the processing of the cancellation records. -/
structure Shop where
  world : World
  reversed : ObjectId → Bool := fun _ => false
  deleted : ObjectId → Bool := fun _ => false
  records : ObjectId → Option Processing := fun _ => none
  -- read by no operation
  duty : ℕ → Duty := fun _ => .none
  owed : ObjectId → Bool := fun _ => false
  decremented : ObjectId → Bool := fun _ => false

def isLive (o : Order) : Bool := decide (o.workflowStatus ≠ .cancelled)

/-- `activeCount` of a group. -/
def activeCount (orders : List Order) (group : ObjectId) : ℕ :=
  (orders.filter (fun o => decide (o.checkoutGroupId = group) && isLive o)).length

def cancelOrders (orders : List Order) (orderIds : List ObjectId)
    (filter : WorkflowStatus → Bool) : List Order :=
  orders.map (fun o =>
    if o.orderId ∈ orderIds ∧ isLive o = true ∧ filter o.workflowStatus = true then
      { o with workflowStatus := .cancelled }
    else o)

def findOrder (orders : List Order) (orderId : ObjectId) : Option Order :=
  orders.find? (fun o => decide (o.orderId = orderId))

def couponOf (s : Shop) (group : ObjectId) : Option ObjectId :=
  (s.world.groups.find? (fun g => decide (g.checkoutGroupId = group))).bind CheckoutGroup.coupon

def decrementCouponUsage (store : CouponStore) (couponId : ObjectId) : CouponStore :=
  { store with coupons := store.coupons.map (fun c =>
      if c.id = couponId then { c with usedCount := c.usedCount - 1 } else c) }

def Shop.withOrders (s : Shop) (orders : List Order) : Shop :=
  { s with world := { s.world with orders } }

def Shop.withCoupons (s : Shop) (coupons : CouponStore) : Shop :=
  { s with world := { s.world with store := { s.world.store with coupons } } }

def Shop.setDuty (s : Shop) (i : ℕ) (duty : Duty) : Shop :=
  { s with duty := update s.duty i duty }

/-! ## Operations -/

inductive Kind where
  /-- the transaction of `placeOrderAtomic` -/
  | place (r : Request)
  /-- `findOneAndUpdate` of a path that compensates on its own -/
  | cancel (orderId : ObjectId) (filter : WorkflowStatus → Bool)
  /-- the transaction of `executeDirectCancellation` -/
  | cancelDirectly (orderId : ObjectId) (filter : WorkflowStatus → Bool)
  /-- the transaction of the payment failure branch -/
  | failPayment (orderIds : List ObjectId)
  /-- `compensateOrderCancellation` up to the coupon: the order, its stock, its transaction row -/
  | prepare (orderId : ObjectId)
  | countActive (existing : Order)
  | lockGroup (existing : Order)
  /-- the update of a group whose lock was not to be had -/
  | updateGroup (existing : Order)
  | decrement (existing : Order) (couponId : ObjectId)
  | recordExternal (orderId : ObjectId)
  /-- the lease of `processCancellation`, where the order is cancelled -/
  | lease (orderId : ObjectId)
  | saveSteps (orderId : ObjectId) (compensation : Bool)
  | saveState (orderId : ObjectId) (pending : Bool)

@[reducible] def Kind.Reply : Kind → Type
  | .place _ => Placed
  | .cancel _ _ => Option Order
  | .prepare _ => Option Order
  | .countActive _ => ℕ
  | .lockGroup _ => Option (Option ObjectId)
  | .lease _ => Option Processing
  | _ => Unit

/-- How an operation goes: it is done, it fails before its effect, or its effect is there and
its answer is lost. -/
inductive Outcome where
  | done
  | refused (e : ServiceError)
  | lost (e : ServiceError)
  deriving DecidableEq

/-- The unique indexes let a placement's group and orders in. -/
def idsFresh (w : World) (placed : Placed) : Bool :=
  decide (placed.checkoutGroup.checkoutGroupId ∉ w.groups.map CheckoutGroup.checkoutGroupId ∧
    (w.orders.map Order.orderId ++ placed.orders.map Order.orderId).Nodup)

/-- What an operation of task `i` answers and leaves where it is done. -/
def effect (i : ℕ) : (kind : Kind) → Shop → Option (Except ServiceError kind.Reply × Shop)
  | .place r, s =>
    match placeOrder s.world r with
    | .error e => some (.error e, s)
    | .ok (w, placed) =>
      if idsFresh s.world placed then some (.ok placed, { s with world := w }) else none
  | .cancel orderId filter, s =>
    match findOrder s.world.orders orderId with
    | none => some (.ok none, s)
    | some o =>
      if isLive o = true ∧ filter o.workflowStatus = true then
        let s' := s.withOrders (cancelOrders s.world.orders [orderId] filter)
        some (.ok (some o), s'.setDuty i (.compensate o.checkoutGroupId))
      else some (.ok none, s)
  | .cancelDirectly orderId filter, s =>
    match findOrder s.world.orders orderId with
    | none => some (.ok (), s)
    | some o =>
      if isLive o = true ∧ filter o.workflowStatus = true then
        let s' := s.withOrders (cancelOrders s.world.orders [orderId] filter)
        let processing : Processing := { compensation := false, pending := true }
        some (.ok (), { s' with
          records := update s.records orderId (some processing)
          owed := update s.owed orderId true })
      else some (.ok (), s)
  | .failPayment orderIds, s =>
    some (.ok (), s.withOrders
      (cancelOrders s.world.orders orderIds (fun status => decide (status = .created))))
  | .prepare orderId, s => some (.ok (findOrder s.world.orders orderId), s)
  | .countActive existing, s =>
    let active := activeCount s.world.orders existing.checkoutGroupId
    -- with a live order left there is nothing to do for the coupon
    some (.ok active, if active = 0 then s else
      { s.setDuty i .none with owed := update s.owed existing.orderId false })
  | .lockGroup existing, s =>
    let group := existing.checkoutGroupId
    if s.deleted group = false ∧ s.reversed group = false ∧
        group ∈ s.world.groups.map CheckoutGroup.checkoutGroupId then
      some (.ok (some (couponOf s group)),
        { s.setDuty i (if (couponOf s group).isSome then .decrement group else .none) with
            reversed := update s.reversed group true
            owed := update s.owed existing.orderId false })
    else
      some (.ok none,
        { s.setDuty i .none with owed := update s.owed existing.orderId false })
  | .updateGroup _, s => some (.ok (), s)
  | .decrement existing couponId, s =>
    let s' := s.withCoupons (decrementCouponUsage s.world.store.coupons couponId)
    some (.ok (), { s'.setDuty i .none with
      decremented := update s.decremented existing.checkoutGroupId true })
  | .recordExternal orderId, s =>
    -- a record that is there stays
    let processing := (s.records orderId).getD ⟨true, true⟩
    some (.ok (), { s with records := update s.records orderId (some processing) })
  | .lease orderId, s =>
    let cancelled := (findOrder s.world.orders orderId).any (fun o => !isLive o)
    some (.ok (if cancelled then s.records orderId else none), s)
  | .saveSteps orderId compensation, s =>
    let processing := (s.records orderId).map (fun p => { p with compensation })
    some (.ok (), { s with records := update s.records orderId processing })
  | .saveState orderId pending, s =>
    let processing := (s.records orderId).map (fun p => { p with pending })
    some (.ok (), { s with
      records := update s.records orderId processing
      owed := if pending then s.owed else update s.owed orderId false })

/-- A task whose operation fails is done with the coupon. -/
def performOp (i : ℕ) (kind : Kind) (outcome : Outcome) (s : Shop) :
    Option (Except ServiceError kind.Reply × Shop) :=
  match outcome with
  | .done => effect i kind s
  | .refused e => some (.error e, s.setDuty i .none)
  | .lost e => (effect i kind s).map (fun r => (.error e, r.2.setDuty i .none))

/-! ## The paths -/

abbrev M := Prog Kind Kind.Reply ServiceError

def compensateOrderCancellation (orderId : ObjectId) : M Unit := do
  match ← perform (Kind.prepare orderId) with
  | none => pure ()
  | some existing =>
    let active ← perform (Kind.countActive existing)
    if active = 0 then
      match ← perform (Kind.lockGroup existing) with
      | none => perform (Kind.updateGroup existing)
      | some groupCoupon =>
        match existing.coupon.or groupCoupon with
        | some couponId => perform (Kind.decrement existing couponId)
        | none => pure ()
    else pure ()

/-- A path that cancels an order and compensates on its own: a seller's rejection, the timeouts
of seller, delivery and payment, a legacy cancellation. -/
def cancelAndCompensate (orderId : ObjectId) (filter : WorkflowStatus → Bool) : M Unit := do
  match ← perform (Kind.cancel orderId filter) with
  | none => pure ()
  | some order => do
      compensateOrderCancellation order.orderId
      perform (Kind.recordExternal order.orderId)

/-- `processCancellation`; `pending` is what its other steps make of the record. -/
def processCancellation (orderId : ObjectId) (pending : Bool) : M Unit := do
  match ← perform (Kind.lease orderId) with
  | none => pure ()
  | some processing => do
      let compensated : M Bool :=
        if processing.compensation then pure true
        else ((compensateOrderCancellation orderId).bind (fun _ => .ret true)).tryCatch
          (fun _ => pure false)
      let steps : M Bool := do
        let compensation ← compensated
        perform (Kind.saveSteps orderId compensation)
        pure pending
      let pending ← steps.tryCatch (fun _ => pure true)
      perform (Kind.saveState orderId pending)

/-- The records that the payment failure branch leaves. -/
def recordExternals : List ObjectId → M Unit
  | [] => pure ()
  | orderId :: orderIds => do
      perform (Kind.recordExternal orderId)
      recordExternals orderIds

def paymentFailed (orderIds : List ObjectId) : M Unit := do
  perform (Kind.failPayment orderIds)
  recordExternals orderIds

inductive Path where
  | place (r : Request)
  | cancelAndCompensate (orderId : ObjectId) (filter : WorkflowStatus → Bool)
  | cancelDirectly (orderId : ObjectId) (filter : WorkflowStatus → Bool)
  | processCancellation (orderId : ObjectId) (pending : Bool)
  | paymentFailed (orderIds : List ObjectId)

def Path.program : Path → M Unit
  | .place r => (perform (Kind.place r)).discard
  | .cancelAndCompensate orderId filter => Reversal.cancelAndCompensate orderId filter
  | .cancelDirectly orderId filter => perform (Kind.cancelDirectly orderId filter)
  | .processCancellation orderId pending => Reversal.processCancellation orderId pending
  | .paymentFailed orderIds => Reversal.paymentFailed orderIds

/-! ## The system -/

/-- What happens on other paths: the catalogue, stock, funds and carts change, an order moves
on, and the document of a group expires. -/
inductive Elsewhere where
  | shop (store : Store) (stock : Inventory.Products) (funds : Funds)
      (carts : ObjectId → List OrderItemInput)
  | advance (orderId : ObjectId) (status : WorkflowStatus)
  | expire (group : ObjectId)

/-- No other path changes the coupons or the flags. -/
def elsewhere (s : Shop) : Elsewhere → Option Shop
  | .shop store stock funds carts =>
    some { s with world := { s.world with
      store := { store with
        flags := s.world.store.flags
        coupons := { store.coupons with coupons := s.world.store.coupons.coupons } }
      stock, funds, carts } }
  | .advance orderId status =>
    if status = .cancelled then none
    else some (s.withOrders (s.world.orders.map (fun o =>
      if o.orderId = orderId ∧ isLive o = true then { o with workflowStatus := status } else o)))
  | .expire group => some { s with deleted := update s.deleted group true }

def reversalSystem : System Kind Kind.Reply ServiceError Shop Outcome Elsewhere Path where
  perform := performOp
  outside := fun e s => elsewhere s e
  entry := Path.program
  mayStart := fun _ _ => true

end DiscountBazar.Placement.Reversal
