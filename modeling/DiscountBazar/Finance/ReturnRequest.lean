/-
Return requests (`orderReturnService.js`, `utils/returnEligibilityHelper.js`).

A request is checked item by item against the policy each item was sold under; the loop
marks the items as it goes, so one request cannot name an item twice. The window a
settlement puts a seller's payout on hold for is not looked at here, and an accepted
request clears it.
-/
import DiscountBazar.Finance.OrderFinance

namespace DiscountBazar.Finance

open Transaction

/-! ## Eligibility -/

/-- What `isReturnEligible` returns. -/
structure ReturnEligibility where
  returnEligible : Bool
  remainingReturnDays : ℤ
  reason : String

def ItemReturnStatus.name : ItemReturnStatus → String
  | none => "none"
  | requested => "requested"
  | approved => "approved"
  | rejected => "rejected"
  | completed => "completed"

def dayMs : ℤ := 24 * 60 * 60 * 1000

/-- `isReturnEligible`, on an item that exists. -/
def isReturnEligible (orderItem : OrderItem) (deliveredAt : Date) (orderStatus : LegacyStatus)
    (now : Date) : ReturnEligibility :=
  let policy := orderItem.returnPolicy
  if policy.isReturnable = false then ⟨false, 0, "Non Returnable"⟩
  else if orderStatus ≠ .delivered then ⟨false, 0, "Order not delivered"⟩
  else if orderItem.returnStatus ≠ .none then
    ⟨false, 0, "Return already " ++ orderItem.returnStatus.name⟩
  else if policy.returnWindowDays ≤ 0 then ⟨false, 0, "Non Returnable"⟩
  else
    let expiryTimestamp := deliveredAt + policy.returnWindowDays * dayMs
    if expiryTimestamp < now then ⟨false, 0, "Return Window Closed"⟩
    -- `Math.ceil` of the days left
    else ⟨true, max 0 (-(-(expiryTimestamp - now) / dayMs)), "Eligible for Return"⟩

/-! ## The request -/

/-- An entry of `payload.items`. -/
structure ReturnEntry where
  itemIndex : Option ℤ := none
  itemId : Option ObjectId := none
  quantity : Option ℚ := none

/-- The part of the payload that decides; `reason` is trimmed. -/
structure ReturnPayload where
  items : List ReturnEntry
  reason : String

/-- The index an entry selects, if it selects one. -/
def targetIndex (items : List OrderItem) (entry : ReturnEntry) : Option ℕ :=
  match entry.itemIndex with
  | some i =>
    if 0 ≤ i ∧ i < items.length then some i.toNat
    else entry.itemId.bind (fun itemId => items.findIdx? (fun item => decide (item.id = itemId)))
  | none => entry.itemId.bind (fun itemId => items.findIdx? (fun item => decide (item.id = itemId)))

/-- The quantity an entry asks for: `Number(quantity) || original.quantity`. -/
def requestedQuantity (original : OrderItem) (entry : ReturnEntry) : ℚ :=
  match entry.quantity with
  | some quantity => if quantity ≠ 0 then quantity else original.quantity
  | none => original.quantity

/-- One round of the loop over `payload.items`. -/
def selectReturnItem (status : LegacyStatus) (deliveredAt : Date) (reason : String) (now : Date)
    (items : List OrderItem) (selected : List ReturnItem) (entry : ReturnEntry) :
    Except ServiceError (List OrderItem × List ReturnItem) :=
  match targetIndex items entry with
  | none => throw ⟨"Invalid item selection for return.", some 400⟩
  | some index =>
    match items[index]? with
    | none => throw ⟨"Invalid item selection for return.", some 400⟩
    | some original =>
      let eligibility := isReturnEligible original deliveredAt status now
      if eligibility.returnEligible = false then
        throw ⟨"Item '" ++ original.name ++ "' is not eligible for return: "
          ++ eligibility.reason, some 400⟩
      else if original.returnPolicy.returnReasons ≠ [] ∧
          reason ∉ original.returnPolicy.returnReasons then
        throw ⟨"Selected return reason is not valid for '" ++ original.name ++ "'", some 400⟩
      else
        let qty := requestedQuantity original entry
        if qty ≤ 0 ∨ original.quantity < qty then
          throw ⟨"Invalid quantity for one of the return items.", some 400⟩
        else
          pure
            (items.set index
              { original with
                returnStatus := .requested
                returnedAt := some now
                returnReason := some reason },
              selected ++ [⟨original.product, original.name, qty, original.price, index⟩])

/-- The loop over `payload.items`. -/
def selectReturnItems (status : LegacyStatus) (deliveredAt : Date) (reason : String) (now : Date) :
    List OrderItem → List ReturnItem → List ReturnEntry →
      Except ServiceError (List OrderItem × List ReturnItem)
  | items, selected, [] => pure (items, selected)
  | items, selected, entry :: rest => do
      let (items, selected) ← selectReturnItem status deliveredAt reason now items selected entry
      selectReturnItems status deliveredAt reason now items selected rest

/-- `createReturnRequest`. The store keeps no `updatedAt`, which stands in for a missing
delivery date, so it is an argument. -/
def createReturnRequest (db : Db) (customerId orderId : ObjectId) (payload : ReturnPayload)
    (updatedAt now : Date) : Except ServiceError (Db × Order) :=
  if payload.items = [] then throw ⟨"Please select at least one item to return.", some 400⟩
  else if payload.reason = "" then throw ⟨"Return reason is required.", some 400⟩
  else
    match db.orders.get? orderId with
    | none => throw ⟨"Order not found", some 404⟩
    | some order =>
      if order.customer ≠ customerId then throw ⟨"Order not found", some 404⟩
      else if order.status ≠ .delivered then
        throw ⟨"Return can only be requested for delivered orders.", some 400⟩
      else do
        let (items, selectedItems) ←
          selectReturnItems order.status (order.deliveredAt.getD updatedAt) payload.reason now
            order.items [] payload.items
        let order :=
          { order with
            items := items
            returnStatus := .returnRequested
            returnReason := some payload.reason
            returnItems := selectedItems
            returnRequestedAt := some now
            returnEligibleAt := some now
            returnWindowExpiresAt := none
            returnDeadline := none }
        pure (db.saveOrder order, order)

/-! ## What a request writes -/

def Order.returnRequested (order : Order) (payload : ReturnPayload) (items : List OrderItem)
    (selectedItems : List ReturnItem) (now : Date) : Order :=
  { order with
    items := items
    returnStatus := .returnRequested
    returnReason := some payload.reason
    returnItems := selectedItems
    returnRequestedAt := some now
    returnEligibleAt := some now
    returnWindowExpiresAt := none
    returnDeadline := none }

theorem createReturnRequest_eq_ok {db db' : Db} {customerId orderId : ObjectId}
    {payload : ReturnPayload} {updatedAt now : Date} {result : Order} :
    createReturnRequest db customerId orderId payload updatedAt now = .ok (db', result) ↔
      payload.items ≠ [] ∧ payload.reason ≠ "" ∧
        ∃ order items selectedItems, db.orders.get? orderId = some order ∧
          order.customer = customerId ∧ order.status = .delivered ∧
          selectReturnItems order.status (order.deliveredAt.getD updatedAt) payload.reason now
            order.items [] payload.items = .ok (items, selectedItems) ∧
          result = order.returnRequested payload items selectedItems now ∧
          db' = db.saveOrder result := by
  unfold createReturnRequest
  rw [ite_throw_eq_ok, ite_throw_eq_ok]
  apply and_congr_right
  intro _
  apply and_congr_right
  intro _
  cases hget : db.orders.get? orderId with
  | none =>
    constructor
    · intro h
      exact absurd h throw_ne_ok
    · rintro ⟨_, _, _, ⟨⟩, -⟩
  | some order =>
    simp only [ite_throw_eq_ok, ne_eq, not_not, bind_eq_ok, pure_eq_ok, Prod.mk.injEq]
    constructor
    · rintro ⟨hcustomer, hstatus, ⟨items, selectedItems⟩, hselect, rfl, rfl⟩
      exact ⟨order, items, selectedItems, rfl, hcustomer, hstatus, hselect, rfl, rfl⟩
    · rintro ⟨_, items, selectedItems, ⟨⟩, hcustomer, hstatus, hselect, rfl, rfl⟩
      exact ⟨hcustomer, hstatus, ⟨items, selectedItems⟩, hselect, rfl, rfl⟩

end DiscountBazar.Finance
