/-
The writers of stock (`stockService.js`, `cancellationInventoryService.js`, `businessService.js`,
`posEditService.js`, `posReturnService.js` and `stockController.js`).

The products of one seller, and every request that moves their stock. A placement, a sale at the
counter, its edit and its return, a purchase bill, a purchase return, a cancellation, a failed
payment and an inspection each do so in one transaction. The compensation of a cancelled order and a
manual adjustment write call by call, and their self-heal writes a sum that was read before. The
lines and the units of the documents come from outside, and so does that the stock of an order is
released once; stock history and alerts are left out. `unhealed` is history that no code reads: the
products whose master a release outside a transaction moved alone, and that were not healed since.
-/
import DiscountBazar.Business.Purchases
import DiscountBazar.Inventory.Release
import DiscountBazar.Pricing.Coupon

namespace DiscountBazar.Inventory.Writers

open Tasks Business
open Prog (perform)
open Pricing (trim)

/-! ## The shared state -/

structure Shelf where
  products : Products
  /-- The names of the variants of a product, by their places. -/
  names : ObjectId → ℕ → String := fun _ _ => ""
  unhealed : List ObjectId := []

/-! ## Returns and edits at the counter -/

def hasSku (variantSku : String) (v : Variant) : Bool := decide (v.sku = variantSku)

/-- A good line of `createPosReturn`; no self-heal follows. -/
def restockProduct (p : Product) (l : Line) : Product :=
  match if l.variantSku ≠ "" then
      updateFirst (hasSku l.variantSku) (addStock l.quantity) p.variants else none with
  | some vs => { stock := p.stock + l.quantity, variants := vs }
  | none => { p with stock := p.stock + l.quantity }

def restockLine (products : Products) (l : Line) : Products :=
  Function.update products l.product ((products l.product).map (fun p => restockProduct p l))

def editDeltas (oldQ merged : QtyMap) : QtyMap :=
  (unionKeys oldQ merged).map (fun key => (key, oldQ.get key - merged.get key))

/-- The stock changes of `editPosSale`: what is taken first. -/
def editStock (products : Products) (oldQ merged : QtyMap) : Except ServiceError Products := do
  let deltas := editDeltas oldQ merged
  let products ← applyQtyMap 1 products (deltas.filter (fun e => decide (e.2 < 0)))
  applyQtyMap 1 products (deltas.filter (fun e => decide (0 < e.2)))

/-! ## Manual adjustments -/

inductive AdjustmentType where
  | restock | correction
  deriving DecidableEq

def comparable (s : String) : String := (trim s).toLower

/-- The place of the variant to adjust; none where the product has no variants. -/
def targetVariant (p : Product) (names : ℕ → String) (variantSku : String) :
    Except ServiceError (Option ℕ) :=
  let wanted := comparable variantSku
  if p.variants = [] then pure none
  else if wanted ≠ "" then
    match p.variants.zipIdx.find? (fun v =>
        decide (comparable v.1.sku = wanted ∨ comparable (names v.2) = wanted)) with
    | some v => pure (some v.2)
    | none => throw ⟨"Variant not found on this product", some 400⟩
  else if p.variants.length = 1 then pure (some 0)
  -- never guess
  else throw ⟨"Choose the variant to adjust", some 400⟩

def stockOf (p : Product) (target : Option ℕ) : Option ℤ :=
  match target with
  | some i => p.variants[i]?.bind Variant.stock
  | none => some p.stock

/-- The update of `adjustStock`, which takes no more than there is. -/
def adjustProduct (p : Product) (target : Option ℕ) (delta : ℤ) : Option Product :=
  if delta < 0 ∧ (stockOf p target).all (fun s => decide (s < -delta)) = true then none
  else
    match target with
    | none => some { p with stock := p.stock + delta }
    | some i =>
      p.variants[i]?.map
        (fun v => { stock := p.stock + delta, variants := p.variants.set i (addStock delta v) })

def startCountingProduct (p : Product) (i : ℕ) : Product :=
  match p.variants[i]? with
  | some v => { p with variants := p.variants.set i { v with stock := some (v.stock.getD 0) } }
  | none => p

/-- The sum that the self-heal of an updated product writes, where that is not its master. -/
def healOfAdjusted (p : Product) : Option ℤ :=
  if p.variants ≠ [] ∧ variantStockSum p.variants ≠ p.stock then some (variantStockSum p.variants)
  else none

/-- The sum that the self-heal of `incrementProductStock` writes, where that is not the master. -/
def healOfReleased (p : Product) : Option ℤ :=
  if p.healReleased.stock ≠ p.stock then some p.healReleased.stock else none

/-! ## Calls -/

inductive Kind where
  /-- the transaction of a placement or of a sale at the counter -/
  | reserveStockForItems (items : List Line)
  /-- the transaction of a cancellation, a failed payment or an inspection -/
  | restoreInventory (lines : List Line)
  | editPosSale (oldQ merged : QtyMap)
  /-- the transaction of a return at the counter, with its good lines -/
  | createPosReturn (lines : List Line)
  /-- the transaction of a bill that is confirmed or cancelled, or of a purchase return -/
  | applyQtyMap (sign : ℤ) (q : QtyMap)
  | updatePurchaseBill (oldQ newQ : QtyMap)
  | incrementProductStock (l : Line)
  | setMasterStock (id : ObjectId) (sum : ℤ)
  | restOfCompensation
  | findProduct (id : ObjectId)
  | startCounting (id : ObjectId) (i : ℕ)
  | adjustProduct (id : ObjectId) (target : Option ℕ) (delta : ℤ)
  | saveHistory

@[reducible] def Kind.Reply : Kind → Type
  | .incrementProductStock _ | .adjustProduct _ _ _ => Option Product
  | .findProduct _ => Option (Product × (ℕ → String))
  | _ => Unit

def updateProduct (products : Products) (id : ObjectId) (f : Product → Product) : Products :=
  Function.update products id ((products id).map f)

/-- What a transaction leaves; one that fails leaves the products as they were. -/
def committed (products : Products) (result : Except ServiceError Products) : Products :=
  match result with
  | .ok products' => products'
  | .error _ => products

def transaction (products : Products) : Kind → Except ServiceError Products
  | .reserveStockForItems items => Inventory.reserveStockForItems products items
  | .restoreInventory lines => pure (restoreLines products lines)
  | .editPosSale oldQ merged => editStock products oldQ merged
  | .createPosReturn lines => pure (lines.foldl restockLine products)
  | .applyQtyMap sign q => Business.applyQtyMap sign products q
  | .updatePurchaseBill oldQ newQ => applyDiff products oldQ newQ
  | _ => pure products

def writtenProducts (products : Products) : Kind → Products
  | .incrementProductStock l => updateProduct products l.product (fun p => p.increment l)
  | .setMasterStock id sum => updateProduct products id (fun p => { p with stock := sum })
  | .startCounting id i => updateProduct products id (fun p => startCountingProduct p i)
  | .adjustProduct id target delta =>
    updateProduct products id (fun p => (Writers.adjustProduct p target delta).getD p)
  | kind => committed products (transaction products kind)

/-- The increment finds no counter of a variant, and moves the master alone. -/
def incrementsMasterAlone (p : Product) (l : Line) : Bool :=
  decide (l.variantSku = "" ∨ p.variants.any (tracked l.variantSku) = false)

def Kind.heals (id : ObjectId) : Kind → Bool
  | .reserveStockForItems items => items.any (fun l => decide (l.product = id))
  | .restoreInventory lines => lines.any (fun l => decide (l.product = id ∧ l.quantity ≠ 0))
  | .setMasterStock id' _ => decide (id' = id)
  | _ => false

def writtenUnhealed (s : Shelf) : Kind → List ObjectId
  | .incrementProductStock l =>
    if (s.products l.product).any (fun p => incrementsMasterAlone p l) then
      l.product :: s.unhealed
    else s.unhealed
  | kind => s.unhealed.filter (fun id => !kind.heals id)

def Kind.isLast : Kind → Bool
  | .reserveStockForItems _ | .restoreInventory _ | .editPosSale _ _ | .createPosReturn _
  | .applyQtyMap _ _ | .updatePurchaseBill _ _ | .restOfCompensation | .saveHistory => true
  | _ => false

/-- The call completes an operation: its transaction commits, or there is nothing left to do. -/
def Kind.completes (products : Products) (kind : Kind) : Bool :=
  kind.isLast && (transaction products kind).isOk

def written (s : Shelf) (kind : Kind) : Shelf where
  products := writtenProducts s.products kind
  names := s.names
  unhealed := if (transaction s.products kind).isOk then writtenUnhealed s kind else s.unhealed

def answer (s : Shelf) : (kind : Kind) → Except ServiceError kind.Reply
  | .incrementProductStock l => .ok ((s.products l.product).map (fun p => p.increment l))
  | .findProduct id => .ok ((s.products id).map (fun p => (p, s.names id)))
  | .adjustProduct id target delta =>
    .ok ((s.products id).bind (fun p => Writers.adjustProduct p target delta))
  | .setMasterStock _ _ | .startCounting _ _ | .restOfCompensation | .saveHistory => .ok ()
  | .reserveStockForItems items =>
    (transaction s.products (.reserveStockForItems items)).map (fun _ => ())
  | .restoreInventory lines => (transaction s.products (.restoreInventory lines)).map (fun _ => ())
  | .editPosSale oldQ merged =>
    (transaction s.products (.editPosSale oldQ merged)).map (fun _ => ())
  | .createPosReturn lines => (transaction s.products (.createPosReturn lines)).map (fun _ => ())
  | .applyQtyMap sign q => (transaction s.products (.applyQtyMap sign q)).map (fun _ => ())
  | .updatePurchaseBill oldQ newQ =>
    (transaction s.products (.updatePurchaseBill oldQ newQ)).map (fun _ => ())

def performOp (_ : ℕ) (kind : Kind) (c : Tasks.Outcome ServiceError) (s : Shelf) :
    Option (Except ServiceError kind.Reply × Shelf) :=
  some (c.perform (answer s kind, written s kind) s)

/-! ## The handlers -/

abbrev M := Prog Kind Kind.Reply ServiceError

def heal (id : ObjectId) : Option ℤ → M Unit
  | none => pure ()
  | some sum => perform (Kind.setMasterStock id sum)

/-- `incrementProductStock` without a session, for a line of `restoreReservedInventory`. -/
def restoreItem (l : Line) : M Unit :=
  if l.quantity = 0 then pure ()
  else do
    let updated ← perform (Kind.incrementProductStock l)
    heal l.product (updated.bind healOfReleased)

def restoreItems : List Line → M Unit
  | [] => pure ()
  | l :: lines => do
      restoreItem l
      restoreItems lines

/-- `compensateOrderCancellation`, for the lines whose release it has claimed. -/
def compensateOrderCancellation (lines : List Line) : M Unit := do
  restoreItems lines
  perform Kind.restOfCompensation

/-- `inspectReturnedParcel`, where the parcel awaits its inspection. -/
def inspectReturnedParcel (items : List Line) (rows : List InspectionRow) : M Unit :=
  match normalizeInspection items rows with
  | .error e => .throw e
  | .ok inspection =>
    perform (Kind.restoreInventory ((sellableItems items inspection).map Prod.fst))

/-- An adjustment takes more than there is. -/
def cannotRemove (qtyChange : ℤ) (available : ℤ) : ServiceError :=
  ⟨"Cannot remove " ++ toString qtyChange ++ " unit(s): only " ++ toString available ++ " in stock",
    some 409⟩

/-- What follows the update of an adjustment: the refusal, or the self-heal and the history. -/
def finishAdjustment (productId : ObjectId) (target : Option ℕ) (qtyChange : ℤ) :
    Option Product → M Unit
  | none => do
      let live ← perform (Kind.findProduct productId)
      .throw (cannotRemove qtyChange (max 0 ((live.bind (fun p => stockOf p.1 target)).getD 0)))
  | some updated => do
      heal productId (healOfAdjusted updated)
      perform Kind.saveHistory

def startCounting (productId : ObjectId) (p : Product) : Option ℕ → M Unit
  | none => pure ()
  | some i =>
    if (stockOf p (some i)).isNone then perform (Kind.startCounting productId i) else pure ()

def applyAdjustment (productId : ObjectId) (p : Product) (target : Option ℕ)
    (type : AdjustmentType) (qtyChange : ℤ) : M Unit := do
  startCounting productId p target
  let updated ← perform
    (Kind.adjustProduct productId target (if type = .restock then qtyChange else -qtyChange))
  finishAdjustment productId target qtyChange updated

/-- The quantity of an adjustment, without its sign. -/
def wholeQuantity (quantity : Option ℚ) : Except ServiceError ℤ :=
  match quantity with
  | some q =>
    if |q|.isInt = true ∧ 0 < |q| then pure |q|.num
    else throw ⟨"Quantity must be a positive whole number", some 400⟩
  | none => throw ⟨"Quantity must be a positive whole number", some 400⟩

/-- `adjustStock`; no type stands for an unknown one, and no quantity for what is no number. -/
def adjustStock (productId : ObjectId) (variantSku : String) (type : Option AdjustmentType)
    (quantity : Option ℚ) : M Unit :=
  match type with
  | none => .throw ⟨"type must be Restock or Correction", some 400⟩
  | some type => do
      let found ← perform (Kind.findProduct productId)
      match found with
      | none => .throw ⟨"Product not found or unauthorized", some 404⟩
      | some (p, names) =>
        match wholeQuantity quantity, targetVariant p names variantSku with
        | .error e, _ => .throw e
        | .ok _, .error e => .throw e
        | .ok qtyChange, .ok target => applyAdjustment productId p target type qtyChange

/-! ## The system -/

inductive Request where
  | placeOrder (items : List Line)
  | createPosSale (items : List Line)
  | editPosSale (oldQ merged : QtyMap)
  | createPosReturn (lines : List Line)
  | confirmPurchaseBill (q : QtyMap)
  | updatePurchaseBill (oldQ newQ : QtyMap)
  | cancelPurchaseBill (q : QtyMap)
  | createPurchaseReturn (q : QtyMap)
  | executeDirectCancellation (lines : List Line)
  /-- a failed payment, with the lines of all its orders -/
  | paymentFailed (lines : List Line)
  | compensateOrderCancellation (lines : List Line)
  | inspectReturnedParcel (items : List Line) (rows : List InspectionRow)
  | adjustStock (productId : ObjectId) (variantSku : String) (type : Option AdjustmentType)
      (quantity : Option ℚ)

def handler : Request → M Unit
  | .placeOrder items => perform (Kind.reserveStockForItems items)
  | .createPosSale items => perform (Kind.reserveStockForItems items)
  | .editPosSale oldQ merged => perform (Kind.editPosSale oldQ merged)
  | .createPosReturn lines => perform (Kind.createPosReturn lines)
  | .confirmPurchaseBill q => perform (Kind.applyQtyMap 1 q)
  | .updatePurchaseBill oldQ newQ => perform (Kind.updatePurchaseBill oldQ newQ)
  | .cancelPurchaseBill q => perform (Kind.applyQtyMap (-1) q)
  | .createPurchaseReturn q => perform (Kind.applyQtyMap (-1) q)
  | .executeDirectCancellation lines => perform (Kind.restoreInventory lines)
  | .paymentFailed lines => perform (Kind.restoreInventory lines)
  | .compensateOrderCancellation lines => compensateOrderCancellation lines
  | .inspectReturnedParcel items rows => inspectReturnedParcel items rows
  | .adjustStock productId variantSku type quantity =>
    adjustStock productId variantSku type quantity

def stockSystem :
    System Kind Kind.Reply ServiceError Shelf (Tasks.Outcome ServiceError) Empty Request where
  perform := performOp
  outside := nofun
  entry := handler
  mayStart := fun _ _ => true

abbrev Shelf.Pool := Tasks.Pool Kind Kind.Reply ServiceError Shelf

abbrev Act := Action (Tasks.Outcome ServiceError) Empty Request

end DiscountBazar.Inventory.Writers
