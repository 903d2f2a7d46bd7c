/-
The release of the stock reserved for an order (`cancellationInventoryService.js`,
`stockService.js`, `orderCompensation.js`).

One order, its cancellation record and the products. Every path that gives stock back first
flips `stockReservation.status` to RELEASED with a conditional update. The customer's
cancellation, a failed payment and the inspection of a returned parcel do it and the
increments in one transaction; the compensation of a cancelled order does it call by call,
and any call may fail, also after its write has gone through. `restored` and `claimedBy` are
history that no code reads: the increments made, and the task that flipped the flag.
Coupons, finance, alerts and the audit log are left out, and orders are not deleted.
-/
import DiscountBazar.Inventory.Stock
import DiscountBazar.Lib.Tasks

namespace DiscountBazar.Inventory

open Tasks Function
open Prog (perform)

/-! ## The world -/

/-- `stockReservation.status`. -/
inductive ReservationStatus where
  | reserved | committed | released
  deriving DecidableEq

inductive InventoryStatus where
  | pending | restored | notRequired | awaitingReturn | awaitingInspection | inspected
  deriving DecidableEq

/-- The part of an order that the release of its stock reads. -/
structure Order where
  items : List Line
  reservation : ReservationStatus
  workflowStatus : Finance.WorkflowStatus
  paid : Bool := false

/-- An increment made for a line of the order: by which task, of which line, by how much. -/
structure Increment where
  task : ℕ
  index : ℕ
  quantity : ℕ
  deriving DecidableEq

structure World where
  order : Order
  inventory : InventoryStatus
  products : Products
  restored : List Increment := []
  claimedBy : Option ℕ := none

namespace World

def claimReservationRelease (w : World) (i : ℕ) : Bool × World :=
  if w.order.reservation = .released then (false, w)
  else (true, { w with
    order := { w.order with reservation := .released }
    claimedBy := some i })

def restock (w : World) (i index : ℕ) (l : Line) (p : Product) : World :=
  { w with
    products := update w.products l.product (some (p.increment l))
    restored := w.restored ++ [⟨i, index, l.quantity⟩] }

/-- The update of `incrementProductStock`; it answers the updated product. -/
def incrementProductStock (w : World) (i index : ℕ) (l : Line) : Option Product × World :=
  match w.products l.product with
  | none => (none, w)
  | some p => (some (p.increment l), w.restock i index l p)

/-- The self-heal of `incrementProductStock`: it writes the sum of the variants it was
answered, where that is not the master. -/
def keepMasterStock (w : World) (id : ObjectId) (updated : Product) : World :=
  if updated.healReleased.stock = updated.stock then w
  else { w with
    products := update w.products id
      ((w.products id).map (fun p => { p with stock := updated.healReleased.stock })) }

/-! ## In one transaction -/

/-- One line of a release, unless nothing of it goes back. -/
def restoreItem (i : ℕ) (w : World) (item : Line × ℕ) : World :=
  if item.1.quantity = 0 then w
  else
    match w.incrementProductStock i item.2 item.1 with
    | (none, w') => w'
    | (some p, w') => w'.keepMasterStock item.1.product p

/-- The loop of a release over lines with their places in the order. -/
def restoreItems (i : ℕ) (w : World) (items : List (Line × ℕ)) : World :=
  items.foldl (restoreItem i) w

/-- `restoreReservedInventory` in the caller's transaction. -/
def restoreReservedInventory (w : World) (i : ℕ) : World :=
  match w.claimReservationRelease i with
  | (false, w') => w'
  | (true, w') => w'.restoreItems i w'.order.items.zipIdx

/-- `releaseReservedStockForOrder` in the caller's transaction. -/
def releaseReservedStockForOrder (w : World) (i : ℕ) : World :=
  if w.order.items = [] then w
  else if w.order.reservation = .released then w
  else w.restoreReservedInventory i

def cancelOrder (w : World) (filter : Order → Bool) : Bool × World :=
  if filter w.order then
    (true, { w with order := { w.order with workflowStatus := .cancelled } })
  else (false, w)

/-- The transaction of `executeDirectCancellation`, `false` when the race is lost. -/
def executeDirectCancellation (w : World) (i : ℕ) (filter : Order → Bool) : Bool × World :=
  match w.cancelOrder filter with
  | (false, w') => (false, w')
  | (true, w') => (true, w'.restoreReservedInventory i)

/-- The transaction of a failed payment: only an order still CREATED is released. -/
def paymentFailed (w : World) (i : ℕ) : World :=
  if w.order.workflowStatus = .created then
    ((w.releaseReservedStockForOrder i).cancelOrder (fun _ => true)).2
  else w

end World

/-! ## Inspection -/

/-- A row of the store's inspection; `none` is a value that is not a whole number. -/
structure InspectionRow where
  itemIndex : Option ℤ
  sellableQty : Option ℤ := some 0
  damagedQty : Option ℤ := some 0
  missingQty : Option ℤ := some 0

structure InspectedLine where
  sellableQty : ℕ
  damagedQty : ℕ
  missingQty : ℕ

/-- What the inspection says of each line, by its place in the order. -/
abbrev Inspection := ℕ → Option InspectedLine

/-- `clean` of `normalizeInspection`. -/
def cleanQuantity (v : Option ℤ) : Except ServiceError ℕ :=
  match v with
  | some (.ofNat n) => pure n
  | _ => throw ⟨"Inspection quantities must be whole numbers of 0 or more", some 400⟩

/-- The rows by the lines they are about; a later row of a line replaces an earlier one. -/
def inspectionByIndex (items : List Line) : List InspectionRow → Inspection →
    Except ServiceError Inspection
  | [], byIndex => pure byIndex
  | row :: rows, byIndex =>
    match row.itemIndex with
    | some (.ofNat index) =>
      if index < items.length then do
        let sellableQty ← cleanQuantity row.sellableQty
        let damagedQty ← cleanQuantity row.damagedQty
        let missingQty ← cleanQuantity row.missingQty
        inspectionByIndex items rows
          (update byIndex index (some ⟨sellableQty, damagedQty, missingQty⟩))
      else throw ⟨"Inspection refers to an item that is not in this order", some 400⟩
    | _ => throw ⟨"Inspection refers to an item that is not in this order", some 400⟩

def itemName (item : Line × ℕ) : String :=
  if item.1.productName = "" then toString (item.2 + 1) else item.1.productName

/-- Every unit of every line is accounted for. -/
def checkInspection (byIndex : Inspection) : List (Line × ℕ) → Except ServiceError Unit
  | [] => pure ()
  | item :: items =>
    match byIndex item.2 with
    | none => throw ⟨"Inspection is missing item \"" ++ itemName item ++ "\"", some 400⟩
    | some entry =>
      if entry.sellableQty + entry.damagedQty + entry.missingQty ≠ item.1.quantity then
        throw ⟨"Sellable, damaged and missing units for \"" ++ itemName item ++
          "\" must add up to " ++ toString item.1.quantity, some 400⟩
      else checkInspection byIndex items

def normalizeInspection (items : List Line) (rows : List InspectionRow) :
    Except ServiceError Inspection := do
  let byIndex ← inspectionByIndex items rows (fun _ => none)
  checkInspection byIndex items.zipIdx
  pure byIndex

def sellableItems (items : List Line) (inspection : Inspection) : List (Line × ℕ) :=
  items.zipIdx.map (fun item =>
    ({ item.1 with quantity := ((inspection item.2).map InspectedLine.sellableQty).getD 0 }, item.2))

inductive InspectorRole where
  | seller | admin

def InspectorRole.allowed : InspectorRole → List InventoryStatus
  | .admin => [.awaitingInspection, .awaitingReturn]
  | .seller => [.awaitingInspection]

/-- The transaction of `inspectReturnedParcel` with `restoreInspectedInventory`. -/
def World.inspectReturnedParcel (w : World) (i : ℕ) (allowed : List InventoryStatus)
    (inspection : Inspection) : Except ServiceError World :=
  if w.inventory ∉ allowed then throw ⟨"This parcel was already inspected", some 409⟩
  else
    match ({ w with inventory := .inspected }).claimReservationRelease i with
    | (false, _) => throw ⟨"Stock for this order has already been released", some 409⟩
    | (true, w') => pure (w'.restoreItems i (sellableItems w'.order.items inspection))

/-- The end of a transaction: an error leaves the world as it was. -/
def World.commit (w : World) (r : Except ServiceError World) : Except ServiceError Unit × World :=
  match r with
  | .ok w' => (.ok (), w')
  | .error e => (.error e, w)

/-! ## Operations -/

inductive Op where
  | findOrder
  | findInventoryStatus
  | cancelOrder (filter : Order → Bool)
  | claimReservationRelease
  | incrementProductStock (index : ℕ) (l : Line)
  | keepMasterStock (index : ℕ) (id : ObjectId) (updated : Product)
  | saveOrder (released : Bool)
  | restOfCompensation
  | executeDirectCancellation (filter : Order → Bool)
  | paymentFailed
  | inspectReturnedParcel (allowed : List InventoryStatus) (inspection : Inspection)

def Op.Reply : Op → Type
  | .findOrder => Order
  | .findInventoryStatus => InventoryStatus
  | .cancelOrder _ => Bool
  | .claimReservationRelease => Bool
  | .incrementProductStock _ _ => Option Product
  | .executeDirectCancellation _ => Bool
  | _ => Unit

/-- What the operation of task `i` answers and leaves where it goes through. -/
def Op.run (i : ℕ) (w : World) : (op : Op) → Except ServiceError op.Reply × World
  | .findOrder => (.ok w.order, w)
  | .findInventoryStatus => (.ok w.inventory, w)
  | .cancelOrder filter => (.ok (w.cancelOrder filter).1, (w.cancelOrder filter).2)
  | .claimReservationRelease =>
    (.ok (w.claimReservationRelease i).1, (w.claimReservationRelease i).2)
  | .incrementProductStock index l =>
    (.ok (w.incrementProductStock i index l).1, (w.incrementProductStock i index l).2)
  | .keepMasterStock _ id updated => (.ok (), w.keepMasterStock id updated)
  | .saveOrder released =>
    (.ok (), if released then { w with order := { w.order with reservation := .released } } else w)
  | .restOfCompensation => (.ok (), w)
  | .executeDirectCancellation filter =>
    (.ok (w.executeDirectCancellation i filter).1, (w.executeDirectCancellation i filter).2)
  | .paymentFailed => (.ok (), w.paymentFailed i)
  | .inspectReturnedParcel allowed inspection =>
    w.commit (w.inspectReturnedParcel i allowed inspection)

/-- How an operation ends: it goes through, it is refused and nothing happens, or it goes
through and its answer is lost. -/
inductive Outcome where
  | done
  | refused (e : ServiceError)
  | lost (e : ServiceError)

/-- One operation of task `i`. -/
def performOp (i : ℕ) (op : Op) (outcome : Outcome) (w : World) :
    Except ServiceError op.Reply × World :=
  match outcome with
  | .done => op.run i w
  | .refused e => (.error e, w)
  | .lost e => (.error e, (op.run i w).2)

/-! ## Programs -/

abbrev M (α : Type) := Prog Op Op.Reply ServiceError α

def findOrder : M Order := perform Op.findOrder

def findInventoryStatus : M InventoryStatus := perform Op.findInventoryStatus

def cancelOrder (filter : Order → Bool) : M Bool := perform (Op.cancelOrder filter)

def claimReservationRelease : M Bool := perform Op.claimReservationRelease

def incrementProductStock (index : ℕ) (l : Line) : M (Option Product) :=
  perform (Op.incrementProductStock index l)

def keepMasterStock (index : ℕ) (id : ObjectId) (updated : Product) : M Unit :=
  perform (Op.keepMasterStock index id updated)

def saveOrder (released : Bool) : M Unit := perform (Op.saveOrder released)

def restOfCompensation : M Unit := perform Op.restOfCompensation

/-- One line of a release, outside a transaction. -/
def restoreItem (item : Line × ℕ) : M Unit :=
  if item.1.quantity = 0 then pure ()
  else do
    let updated ← incrementProductStock item.2 item.1
    match updated with
    | none => pure ()
    | some p => keepMasterStock item.2 item.1.product p

def restoreItems : List (Line × ℕ) → M Unit
  | [] => pure ()
  | item :: items => do
      restoreItem item
      restoreItems items

/-- `restoreReservedInventory` without a session. -/
def restoreReservedInventory (order : Order) : M Bool := do
  let claimed ← claimReservationRelease
  if claimed then do
    restoreItems order.items.zipIdx
    pure true
  else pure false

/-- `releaseReservedStockForOrder` without a session. -/
def releaseReservedStockForOrder (order : Order) : M Bool :=
  if order.items = [] then pure false
  else if order.reservation = .released then pure false
  else restoreReservedInventory order

def compensateOrderCancellation (skipStockRelease : Bool) : M Unit := do
  let existing ← findOrder
  if skipStockRelease then restOfCompensation
  else do
    let released ← releaseReservedStockForOrder existing
    saveOrder released
    restOfCompensation

/-- A conditional cancellation and its compensation: the seller's rejection, the timeouts
and the cancellation of an order of the first version. -/
def cancelAndCompensate (filter : Order → Bool) : M Unit := do
  let updated ← cancelOrder filter
  if updated then compensateOrderCancellation false else pure ()

def inspectReturnedParcel (role : InspectorRole) (rows : List InspectionRow) : M Unit := do
  let status ← findInventoryStatus
  if status = .inspected then pure ()
  else if status ∉ role.allowed then
    Prog.throw ⟨if status = .awaitingReturn then "The rider has not confirmed the parcel return yet"
      else "There is nothing to inspect for this order", some 409⟩
  else do
    let order ← findOrder
    match normalizeInspection order.items rows with
    | .error e => Prog.throw e
    | .ok inspection => perform (Op.inspectReturnedParcel role.allowed inspection)

end DiscountBazar.Inventory
