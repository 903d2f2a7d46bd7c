/-
When a held payout is released (`returnWindowReleaseJob.js`, `orderReturnService.js`).

The release job selects the orders on hold by their return status and by the date their window
ends at. A return request clears that date, and neither a rejection nor a failed check brings it
or the status back. So of the orders on hold whose return is over, the job releases exactly those
that were never returned, and of these the ones that still have a payout waiting. Processing the
payout leaves one of the two marks of the hold on the order.
-/
import DiscountBazar.Finance.SellerHold
import DiscountBazar.Returns.SellerLeg

namespace DiscountBazar.Returns.Holds

open Finance Transaction Runs Table List Option Order

/-! ## The end of a return, on the store -/

/-- `rejectReturn`; `reason` is trimmed. -/
def rejectReturn (db : Db) (user : User) (orderId : ObjectId) (reason : String) :
    Except ServiceError (Db × Order) :=
  if reason = "" then throw ⟨"Rejection reason is required.", some 400⟩
  else
    match db.orders.get? orderId with
    | none => throw ⟨"Order not found", some 404⟩
    | some order =>
      if mayManage user { toOrder := order } = false then
        throw ⟨"Access denied. You are not authorized to reject this return.", some 403⟩
      else if order.returnStatus ≠ .returnRequested then
        throw ⟨"Only pending return requests can be rejected.", some 400⟩
      else
        let order := { order with returnStatus := .returnRejected }
        pure (db.saveOrder order, order)

/-- The checks of `updateReturnQcStatus`, and its save. -/
def recordQc (db : Db) (user : User) (orderId : ObjectId) (qcStatus : ReturnStatus) :
    Except ServiceError (Db × Order) :=
  if user.role ≠ .admin then throw ⟨"Access denied. Admins only.", some 403⟩
  else if qcStatus ∉ [.qcPassed, .qcFailed] then throw ⟨"Invalid qcStatus value.", some 400⟩
  else
    match db.orders.get? orderId with
    | none => throw ⟨"Order not found", some 404⟩
    | some order =>
      if order.returnStatus ≠ .returned then
        throw ⟨"QC can only be completed after the item is returned.", some 400⟩
      else
        let order := { order with returnStatus := qcStatus }
        pure (db.saveOrder order, order)

/-- What a failed check does for the payout: it is processed, with an error only logged, or the
hold is lifted. -/
def releaseAfterQc (env : Env) (db : Db) (orderId : ObjectId) (now : Date) : Db :=
  if env.autoReleaseSellerPayout then
    match findLivePayout db orderId .seller with
    | none => db
    | some payout => commit db (processPayout db payout.id now)
  else
    match db.orders.get? orderId with
    | none => db
    | some order => db.saveOrder order.holdLifted

/-- `updateReturnQcStatus`; where it does not go on, the process has died after the save. -/
def updateReturnQcStatus (env : Env) (db : Db) (user : User) (orderId : ObjectId)
    (qcStatus : ReturnStatus) (now : Date) (goesOn : Bool) : Db :=
  match recordQc db user orderId qcStatus with
  | .error _ => db
  | .ok (db, _) =>
    if goesOn = false then db
    else if qcStatus = .qcPassed then commit db (completeReturnAndRefund db orderId)
    else releaseAfterQc env db orderId now

/-- The fields the other return handlers write on an order: its status, the refund and the
commission an approval stores, the rider. -/
structure ReturnFields where
  returnStatus : ReturnStatus
  returnRefundAmount : ℚ
  returnDeliveryCommission : ℤ
  returnDeliveryBoy : Option ObjectId

def withReturn (order : Order) (fields : ReturnFields) : Order :=
  { order with
    returnStatus := fields.returnStatus
    returnRefundAmount := fields.returnRefundAmount
    returnDeliveryCommission := fields.returnDeliveryCommission
    returnDeliveryBoy := fields.returnDeliveryBoy }

/-! ## The system -/

/-- What can happen next: anything that can happen to payouts on hold, the end of a return, and a
save of one of the other return handlers. Those never take a return back to `none`. -/
inductive ReleaseOp where
  | hold (op : HoldOp)
  | rejectReturn (user : User) (orderId : ObjectId) (reason : String)
  | updateReturnQcStatus (user : User) (orderId : ObjectId) (qcStatus : ReturnStatus)
      (goesOn : Bool)
  | saveReturn (orderId : ObjectId) (fields : ReturnFields)

def releaseStep (env : Env) (s : HoldState) : ReleaseOp → HoldState
  | .hold op => holdStep env s op
  | .rejectReturn user orderId reason =>
    { s with db := commit s.db (Holds.rejectReturn s.db user orderId reason) }
  | .updateReturnQcStatus user orderId qcStatus goesOn =>
    { s with
      db := Holds.updateReturnQcStatus env s.db user orderId qcStatus s.now goesOn }
  | .saveReturn orderId fields =>
    match s.db.orders.get? orderId with
    | none => s
    | some order =>
      if fields.returnStatus = .none then s
      else { s with db := s.db.saveOrder (withReturn order fields) }

/-! ## The property and the condition -/

/-- A delivered order on hold, with its window over and no return in progress: never requested,
rejected, or failed in quality control. A window that a request has cleared counts as over. -/
structure Due (now : Date) (order : Order) : Prop where
  delivered : order.status = .delivered
  hold : order.settlementStatus.sellerPayout = .hold
  passed : ∀ expiresAt ∈ order.returnWindowExpiresAt, expiresAt ≤ now
  noReturn : order.returnStatus = .none ∨ order.returnStatus = .returnRejected ∨
    order.returnStatus = .qcFailed

def Released (db : Db) (orderId : ObjectId) : Prop :=
  ∃ order, db.orders.get? orderId = some order ∧
    (order.settlementStatus.sellerPayout = .completed ∨
      order.settlementStatus.sellerPayout = .pending) ∧
    ∃ payout ∈ db.payouts.rows, payout.payoutType = .seller ∧ orderId ∈ payout.relatedOrderIds ∧
      (payout.status = .completed ∨ payout.status.Live)

def FlagCleared (db : Db) (orderId : ObjectId) : Prop :=
  ∃ order, db.orders.get? orderId = some order ∧ order.financeFlags.sellerPayoutHeld = false

/-- The condition: no return was ever requested, and the seller's payout is waiting. -/
def Releasable (db : Db) (order : Order) : Prop :=
  order.returnStatus = .none ∧ findLivePayout db order.id .seller ≠ none

/-! ## Orders on hold -/

/-- An order on hold bears both marks, and the date of its window as long as no return was
requested. -/
def Marked (order : Order) : Prop :=
  order.settlementStatus.sellerPayout = .hold →
    order.financeFlags.sellerPayoutHeld = true ∧
      (order.returnStatus = .none → order.returnWindowExpiresAt ≠ none)

section Marks

variable {order : Order}

theorem markDelivered_window (env : Env) (now : Date) (order : Order) :
    (markDelivered env now order).returnWindowExpiresAt ≠ none := by
  unfold markDelivered
  dsimp only
  split
  next hmissing =>
    cases h : order.returnWindowExpiresAt with
    | none | some =>
      simp
  next hmissing =>
    simp only [not_or] at hmissing
    exact hmissing.2

theorem sellerMarked_marks (order : Order) :
    order.sellerMarked.returnWindowExpiresAt = order.returnWindowExpiresAt ∧
      order.sellerMarked.financeFlags.sellerPayoutHeld = order.financeFlags.sellerPayoutHeld ∧
      (order.sellerMarked.settlementStatus.sellerPayout = .hold →
        order.settlementStatus.sellerPayout = .hold) := by
  unfold sellerMarked
  split
  · exact ⟨rfl, rfl, nofun⟩
  · split
    · exact ⟨rfl, rfl, id⟩
    · exact ⟨rfl, rfl, nofun⟩

theorem riderMarked_marks (order : Order) :
    order.riderMarked.returnWindowExpiresAt = order.returnWindowExpiresAt ∧
      order.riderMarked.financeFlags.sellerPayoutHeld = order.financeFlags.sellerPayoutHeld ∧
      order.riderMarked.settlementStatus.sellerPayout = order.settlementStatus.sellerPayout := by
  unfold riderMarked
  split
  · exact ⟨rfl, rfl, rfl⟩
  · split <;> exact ⟨rfl, rfl, rfl⟩

theorem closed_marks (order : Order) (now : Date) :
    (order.closed now).returnWindowExpiresAt = order.returnWindowExpiresAt ∧
      (order.closed now).financeFlags.sellerPayoutHeld = order.financeFlags.sellerPayoutHeld ∧
      (order.closed now).settlementStatus.sellerPayout = order.settlementStatus.sellerPayout := by
  unfold closed
  dsimp only
  rw [computeOverallSettlement_sellerPayout]
  unfold earningMarked
  split <;> exact ⟨rfl, rfl, rfl⟩

theorem Marked.settled (h : Marked order) (env : Env) (now : Date) :
    Marked (order.settled env now) := by
  obtain ⟨hw₁, hf₁, hs₁⟩ := sellerMarked_marks (markDelivered env now order)
  obtain ⟨hw₃, hf₃, hs₃⟩ := riderMarked_marks (order.beforeRider env now)
  obtain ⟨hw₄, hf₄, hs₄⟩ := closed_marks (order.beforeRider env now).riderMarked now
  intro hhold
  unfold Order.settled at hhold ⊢
  rw [hs₄, hs₃] at hhold
  rw [hf₄, hf₃, hw₄, hw₃]
  unfold beforeRider holdIfOpen at hhold ⊢
  split at hhold
  next hopen =>
    rw [if_pos hopen]
    refine ⟨rfl, fun _ => ?_⟩
    dsimp only
    rw [hw₁]
    exact markDelivered_window env now order
  next hopen =>
    rw [if_neg hopen]
    have hkept : order.settlementStatus.sellerPayout = .hold := by
      have hdelivered := hs₁ hhold
      unfold markDelivered at hdelivered
      dsimp only at hdelivered
      split at hdelivered <;> exact hdelivered
    rw [hf₁, hw₁, markDelivered_financeFlags]
    exact ⟨(h hkept).1, fun _ => markDelivered_window env now order⟩

theorem Marked.paid (h : Marked order) (payoutType : PayoutType) (now : Date) :
    Marked (markOrderPaid payoutType now order) := by
  intro hhold
  cases payoutType with
  | seller =>
    rw [markOrderPaid, computeOverallSettlement_sellerPayout] at hhold
    cases hhold
  | deliveryPartner =>
    rw [markOrderPaid, computeOverallSettlement_sellerPayout] at hhold
    exact h hhold

theorem Marked.of_returned {order' : Order} (h : Marked order)
    (hhold : order'.settlementStatus = order.settlementStatus)
    (hflags : order'.financeFlags = order.financeFlags) (hstatus : order'.returnStatus ≠ .none) :
    Marked order' := by
  intro hheld
  rw [hhold] at hheld
  rw [hflags]
  exact ⟨(h hheld).1, fun hnone => absurd hnone hstatus⟩

theorem marked_of_released (h : order.settlementStatus.sellerPayout ≠ .hold) : Marked order :=
  fun hhold => absurd hhold h

end Marks

/-! ## The invariant -/

def AllMarked (orders : Table Order.id) : Prop := ∀ order ∈ orders.rows, Marked order

section AllMarked

variable {orders : Table Order.id} {db : Db} {order : Order}

theorem AllMarked.set (h : AllMarked orders) (hmarked : Marked order) :
    AllMarked (orders.set order) := by
  intro row hrow
  rcases mem_set.mp hrow with ⟨hrow, -⟩ | ⟨rfl, -⟩
  · exact h row hrow
  · exact hmarked

theorem AllMarked.markOrdersPaid (h : AllMarked orders) (payoutType : PayoutType) (now : Date)
    (orderIds : List ObjectId) : AllMarked (markOrdersPaid orders payoutType now orderIds) := by
  have hround : ∀ (orders : Table Order.id) (orderId : ObjectId), AllMarked orders →
      AllMarked (match orders.get? orderId with
        | none => orders
        | some order => orders.set (markOrderPaid payoutType now order)) := by
    intro orders orderId h
    split
    · exact h
    · rename_i order hget
      exact h.set ((h order (mem_of_get? hget)).paid payoutType now)
  exact exec_induction hround h orderIds

theorem AllMarked.process (h : AllMarked db.orders) (id : ObjectId) (now : Date) :
    AllMarked (commit db (processPayout db id now)).orders := by
  rcases process_cases db id now with heq | ⟨payout, -, -, -, heq⟩
  · rw [heq]
    exact h
  · rw [heq]
    exact h.markOrdersPaid payout.payoutType now payout.relatedOrderIds

theorem AllMarked.processAll (h : AllMarked db.orders) (ids : List ObjectId) (now : Date) :
    AllMarked (processAll now db ids).1.orders := by
  rw [processAll_fst]
  have hround : ∀ (db : Db) (id : ObjectId), AllMarked db.orders →
      AllMarked (commit db (processPayout db id now)).orders := fun db id hdb => hdb.process id now
  exact exec_induction hround h ids

theorem AllMarked.release (h : AllMarked db.orders) (env : Env) (orderId : ObjectId) (now : Date) :
    AllMarked (releaseSellerHold env db orderId now).orders := by
  unfold releaseSellerHold
  split
  · exact h
  · split
    · exact h.process _ now
    · split
      · exact h
      · exact h.set (marked_of_released (fun hhold => SellerPayoutState.noConfusion hhold))

theorem AllMarked.holdStep {s : HoldState} (h : AllMarked s.db.orders) (env : Env) (op : HoldOp) :
    AllMarked (holdStep env s op).db.orders := by
  cases op with
  | tick | findExpiredHolds => exact h
  | settleDeliveredOrder orderId failsAt =>
    show AllMarked (settleDeliveredOrder env s.db orderId s.now failsAt).2.orders
    rcases settleDeliveredOrder_cases env s.db orderId s.now failsAt with
      ⟨heq, -⟩ | ⟨order, hget, -, ⟨call, -, -, heq⟩ | ⟨-, heq⟩⟩
    · rw [heq]
      exact h
    · rw [heq, leftBy_orders]
      exact h
    · rw [heq, settledBy_orders]
      exact h.set ((h order (mem_of_get? hget)).settled env s.now)
  | processPayout payoutId => exact h.process payoutId s.now
  | bulkProcessPayouts payoutIds payoutType limit => exact h.processAll _ s.now
  | createReturnRequest customerId orderId payload updatedAt =>
    show AllMarked (commit s.db
      (Finance.createReturnRequest s.db customerId orderId payload updatedAt s.now)).orders
    refine commit_induction (P := fun db : Db => AllMarked db.orders) h ?_
    intro db' result hok
    obtain ⟨-, -, order, items, selectedItems, hget, -, -, -, rfl, rfl⟩ :=
      createReturnRequest_eq_ok.mp hok
    exact h.set ((h order (mem_of_get? hget)).of_returned rfl rfl nofun)
  | releaseHold orderId =>
    rw [Finance.holdStep]
    split
    · exact h.release env orderId s.now
    · exact h

end AllMarked

/-! ### Payout rows through a refund -/

def NoneProcessed (db db' : Db) : Prop :=
  ∀ row ∈ db'.ledger, row ∈ db.ledger ∨ ∀ id, row.idempotencyKey ≠ some (.payoutProcessed id)

theorem named_ne_processed (key : String) (id : ObjectId) :
    some (IdempotencyKey.named key) ≠ some (.payoutProcessed id) := nofun

section Refund

variable {db db' : Db} {order : Order}

theorem noneProcessed_append {row : LedgerEntry} (hl : db'.ledger = db.ledger ++ [row])
    (hkey : ∀ id, row.idempotencyKey ≠ some (.payoutProcessed id)) : NoneProcessed db db' := by
  intro r hr
  rw [hl] at hr
  rcases mem_append.mp hr with hr | hr
  · exact .inl hr
  · right
    rw [mem_singleton.mp hr]
    exact hkey

theorem payoutsInv_of_noneProcessed (h : PayoutsInv db) (hp : db'.payouts = db.payouts)
    (hl : NoneProcessed db db') : PayoutsInv db' := by
  constructor
  · rw [hp]
    exact h.related
  · rw [hp]
    exact h.amounts
  · intro row hrow id hkey
    rw [hp]
    rcases hl row hrow with hold | hother
    · exact h.processed row hold id hkey
    · exact absurd hkey (hother id)

variable {owner : Owner} {options : MovementOptions}

theorem noneProcessed_maybeWrite {direction : LedgerDirection} {amount before after : ℤ}
    (ha : 0 ≤ amount) (hkey : ∀ id, options.idempotencyKey ≠ some (.payoutProcessed id))
    (h : maybeWriteLedgerEntry db owner direction amount before after options = .ok db') :
    NoneProcessed db db' := by
  obtain ⟨-, ⟨-, rfl⟩ | ⟨t, -, -, rfl⟩⟩ := (maybeWriteLedgerEntry_eq_ok ha).mp h
  · exact fun row hrow => .inl hrow
  · exact noneProcessed_append rfl hkey

theorem noneProcessed_credit {amount : ℚ} {m : Movement}
    (hkey : ∀ id, options.idempotencyKey ≠ some (.payoutProcessed id))
    (h : creditWallet db owner amount .available options = .ok (db', m)) :
    NoneProcessed db db' := by
  obtain ⟨db₁, hpos, -, hwrite, rfl, -⟩ := creditWallet_eq_ok.mp h
  have hwritten := noneProcessed_maybeWrite hpos.le hkey hwrite
  intro row hrow
  rw [if_pos rfl, maybeSyncUserWalletBalance_ledger] at hrow
  exact hwritten row hrow

theorem noneProcessed_debit {amount : ℚ} {m : Movement}
    (hkey : ∀ id, options.idempotencyKey ≠ some (.payoutProcessed id))
    (h : debitWallet db owner amount .available options = .ok (db', m)) : NoneProcessed db db' := by
  obtain ⟨db₁, hpos, -, -, hwrite, rfl, -⟩ := debitWallet_eq_ok.mp h
  have hwritten := noneProcessed_maybeWrite hpos.le hkey hwrite
  intro row hrow
  rw [if_pos rfl, maybeSyncUserWalletBalance_ledger] at hrow
  exact hwritten row hrow

theorem payoutsInv_unqueue (h : PayoutsInv db) {payout : Payout} (hmem : payout ∈ db.payouts.rows)
    (orderId : ObjectId) : PayoutsInv (db.unqueuePayout orderId payout) := by
  have hself : ({ payout with status := .cancelled } : Payout)
      ∈ (db.unqueuePayout orderId payout).payouts.rows :=
    mem_set.mpr (.inr ⟨rfl, payout, hmem, rfl⟩)
  constructor
  · intro p hp
    rcases mem_set.mp hp with ⟨hp, -⟩ | ⟨rfl, -⟩
    · exact h.related p hp
    · exact h.related payout hmem
  · intro p hp
    rcases mem_set.mp hp with ⟨hp, -⟩ | ⟨rfl, -⟩
    · exact h.amounts p hp
    · exact h.amounts payout hmem
  · intro row hrow id hkey
    rcases mem_append.mp hrow with hrow | hrow
    · obtain ⟨other, hother, hid, hclosed⟩ := h.processed row hrow id hkey
      by_cases hne : other.id = payout.id
      · refine ⟨_, hself, hne.symm.trans hid, ?_⟩
        simp [PayoutStatus.Live]
      · exact ⟨other, mem_set.mpr (.inl ⟨hother, hne⟩), hid, hclosed⟩
    · rw [mem_singleton.mp hrow] at hkey
      cases hkey

theorem payoutsInv_creditCustomer (h : PayoutsInv db) (hok : creditCustomer db order = .ok db') :
    PayoutsInv db' := by
  have hspec := creditCustomer_spec hok
  unfold creditCustomer at hok
  split at hok
  · obtain ⟨⟨db₁, m⟩, hcredit, hpure⟩ := bind_eq_ok.mp hok
    cases pure_eq_ok.mp hpure
    exact payoutsInv_of_noneProcessed h hspec.1 (noneProcessed_credit (named_ne_processed _) hcredit)
  · cases pure_eq_ok.mp hok
    exact h

theorem payReturnPickup_effect (h : PayoutsInv db) (hok : payReturnPickup db order = .ok db') :
    PayoutsInv db' ∧ db'.orders = db.orders := by
  unfold payReturnPickup at hok
  split at hok
  · split at hok
    · obtain ⟨⟨db₁, m⟩, hcredit, hpure⟩ := bind_eq_ok.mp hok
      cases pure_eq_ok.mp hpure
      obtain ⟨-, hp, ho⟩ := creditWallet_writes hcredit
      exact ⟨payoutsInv_of_noneProcessed h hp (noneProcessed_credit (named_ne_processed _) hcredit), ho⟩
    · cases pure_eq_ok.mp hok
      exact ⟨h, rfl⟩
  · cases pure_eq_ok.mp hok
    exact ⟨h, rfl⟩

variable {I : Table Order.id → Prop}

theorem orders_elim_save {f : Order → Order}
    (hf : ∀ orders : Table Order.id, I orders → ∀ order ∈ orders.rows, I (orders.set (f order)))
    (h : I db.orders) (orderId : ObjectId) :
    I ((db.orders.get? orderId).elim db (fun current => db.saveOrder (f current))).orders := by
  cases hget : db.orders.get? orderId with
  | none => exact h
  | some current => exact hf db.orders h current (mem_of_get? hget)

theorem adjustSeller_effect (h : PayoutsInv db)
    (hcancel : ∀ orders : Table Order.id, I orders → ∀ order ∈ orders.rows,
      I (orders.set (payoutCancelled order)))
    (ho : I db.orders) (hok : adjustSeller db order = .ok db') :
    PayoutsInv db' ∧ I db'.orders := by
  rcases adjustSeller_cases hok with rfl | ⟨sellerId, hok⟩
  · exact ⟨h, ho⟩
  rcases recoverFromSeller_cases hok with rfl | ⟨payout, hfind, rfl⟩ | ⟨m, hdebit⟩
  · exact ⟨h, ho⟩
  · have hinv := payoutsInv_unqueue h (mem_of_findLivePayout hfind).1 order.id
    refine ⟨?_, orders_elim_save hcancel (by exact ho) order.id⟩
    cases hget : (db.unqueuePayout order.id payout).orders.get? order.id with
    | none => exact hinv
    | some current => exact hinv.congr rfl (fun row hrow => .inl hrow)
  · obtain ⟨-, hp, ho'⟩ := debitWallet_writes hdebit
    refine ⟨payoutsInv_of_noneProcessed h hp (noneProcessed_debit (named_ne_processed _) hdebit), ?_⟩
    rw [ho']
    exact ho

theorem completeReturnAndRefund_effect (h : PayoutsInv db)
    (hcancel : ∀ orders : Table Order.id, I orders → ∀ order ∈ orders.rows,
      I (orders.set (payoutCancelled order)))
    (hdone : ∀ orders : Table Order.id, I orders → ∀ order ∈ orders.rows,
      I (orders.set (refundCompleted order)))
    (ho : I db.orders) (orderId : ObjectId) :
    PayoutsInv (commit db (completeReturnAndRefund db orderId)) ∧
      I (commit db (completeReturnAndRefund db orderId)).orders := by
  refine commit_induction (P := fun db : Db => PayoutsInv db ∧ I db.orders) ⟨h, ho⟩ ?_
  intro db' result hok
  rcases completeReturnAndRefund_cases hok with rfl | ⟨order, horder, hchecked⟩
  · exact ⟨h, ho⟩
  · obtain ⟨db₁, db₂, db₃, hcustomer, hseller, hpickup, rfl⟩ :=
      completeReturnAndRefund_parts horder hchecked hok
    have h₁ := payoutsInv_creditCustomer h hcustomer
    have ho₁ : I db₁.orders := by
      rw [(creditCustomer_spec hcustomer).2.1]
      exact ho
    obtain ⟨h₂, ho₂⟩ := adjustSeller_effect h₁ hcancel ho₁ hseller
    obtain ⟨h₃, heq⟩ := payReturnPickup_effect h₂ hpickup
    have ho₃ : I db₃.orders := by
      rw [heq]
      exact ho₂
    refine ⟨?_, orders_elim_save hdone ho₃ orderId⟩
    cases hget : db₃.orders.get? orderId with
    | none => exact h₃
    | some current => exact h₃.congr rfl (fun row hrow => .inl hrow)

end Refund

/-! ### Every step -/

/-- The invariant of the payouts on hold, with the marks. -/
structure ReleaseInv (s : HoldState) : Prop where
  hold : HoldInv s
  marked : AllMarked s.db.orders

theorem releaseInv_fresh {orders : Table Order.id}
    (h : ∀ order ∈ orders.rows, order.settlementStatus.sellerPayout ≠ .hold) (now : Date) :
    ReleaseInv ⟨Db.fresh orders, now, []⟩ := by
  constructor
  · exact holdInv_fresh (fun order hmem hhold => absurd hhold (h order hmem)) now
  · intro order hmem
    exact marked_of_released (h order hmem)

/-- What the order tables of the invariant are closed under. -/
def OrdersOk (now : Date) (candidates : List ObjectId) (orders : Table Order.id) : Prop :=
  OrdersInv orders now candidates ∧ AllMarked orders

section Step

variable {s : HoldState} {order order' : Order} {orders : Table Order.id} {now : Date}
  {candidates : List ObjectId}

theorem OrdersOk.set (h : OrdersOk now candidates orders) (hmem : order ∈ orders.rows)
    (hkeeps : order.Keeps order') (hmarked : Marked order') :
    OrdersOk now candidates (orders.set order') :=
  ⟨h.1.set hmem hkeeps, h.2.set hmarked⟩

theorem OrdersOk.setReturned (h : OrdersOk now candidates orders) (hmem : order ∈ orders.rows)
    (hid : order'.id = order.id) (hsettlement : order'.settlementStatus = order.settlementStatus)
    (hflags : order'.financeFlags = order.financeFlags)
    (hwindow : order'.returnWindowExpiresAt = order.returnWindowExpiresAt)
    (hstatus : order'.returnStatus ≠ .none) : OrdersOk now candidates (orders.set order') := by
  refine h.set hmem ?_ ((h.2 order hmem).of_returned hsettlement hflags hstatus)
  constructor
  · exact hid
  · intro hhold
    rw [hsettlement] at hhold
    rw [hflags]
    exact h.1.settled order hmem hhold
  · rw [hflags]
    exact id
  · intro _ expiresAt hexpires
    rw [hwindow] at hexpires
    exact hexpires

theorem OrdersOk.setLifted (h : OrdersOk now candidates orders) (hmem : order ∈ orders.rows) :
    OrdersOk now candidates (orders.set order.holdLifted) :=
  h.set hmem keeps_holdLifted (marked_of_released nofun)

theorem OrdersOk.setCancelled (h : OrdersOk now candidates orders) (hmem : order ∈ orders.rows) :
    OrdersOk now candidates (orders.set (payoutCancelled order)) := by
  refine h.set hmem ?_ (marked_of_released nofun)
  constructor
  · rfl
  · rintro ⟨⟩
  · exact id
  · intro _ _ hexpires
    exact hexpires

theorem ReleaseInv.ok (h : ReleaseInv s) : OrdersOk s.now s.candidates s.db.orders :=
  ⟨h.hold.orders, h.marked⟩

theorem releaseInv_of {db : Db} (hp : PayoutsInv db) (ho : OrdersOk s.now s.candidates db.orders) :
    ReleaseInv { s with db := db } := ⟨⟨hp, ho.1⟩, ho.2⟩

theorem payoutsInv_saveOrder {db : Db} (h : PayoutsInv db) (order : Order) :
    PayoutsInv (db.saveOrder order) := h.congr rfl (fun _ hrow => .inl hrow)

/-- What a failed check does for the payout keeps the invariant. -/
theorem releaseAfterQc_inv (env : Env) {db : Db} (hp : PayoutsInv db)
    (ho : OrdersOk s.now s.candidates db.orders) (orderId : ObjectId) :
    PayoutsInv (releaseAfterQc env db orderId s.now) ∧
      OrdersOk s.now s.candidates (releaseAfterQc env db orderId s.now).orders := by
  unfold releaseAfterQc
  split
  · split
    · exact ⟨hp, ho⟩
    · rename_i payout _
      exact ⟨hp.process payout.id s.now, ho.1.process payout.id s.now,
        ho.2.process payout.id s.now⟩
  · split
    · exact ⟨hp, ho⟩
    · rename_i order hget
      exact ⟨payoutsInv_saveOrder hp order.holdLifted, ho.setLifted (mem_of_get? hget)⟩

theorem updateReturnQcStatus_inv (env : Env) (h : ReleaseInv s) (user : User) (orderId : ObjectId)
    (qcStatus : ReturnStatus) (goesOn : Bool) :
    ReleaseInv { s with
      db := updateReturnQcStatus env s.db user orderId qcStatus s.now goesOn } := by
  unfold updateReturnQcStatus
  split
  · exact h
  · rename_i db order hok
    unfold recordQc at hok
    rw [ite_throw_eq_ok, ite_throw_eq_ok] at hok
    obtain ⟨-, hallowed, hok⟩ := hok
    split at hok
    · exact absurd hok throw_ne_ok
    · rename_i found hget
      rw [ite_throw_eq_ok] at hok
      obtain ⟨-, hok⟩ := hok
      cases pure_eq_ok.mp hok
      have hstatus : qcStatus ≠ .none := by
        rintro rfl
        exact hallowed (by decide)
      have hp := payoutsInv_saveOrder h.hold.payouts { found with returnStatus := qcStatus }
      have ho : OrdersOk s.now s.candidates
          (s.db.saveOrder { found with returnStatus := qcStatus }).orders :=
        h.ok.setReturned (mem_of_get? hget) rfl rfl rfl rfl hstatus
      split
      · exact releaseInv_of hp ho
      · split
        · obtain ⟨hp', ho'⟩ := completeReturnAndRefund_effect hp
            (fun orders hI order hmem => OrdersOk.setCancelled hI hmem)
            (fun orders hI order hmem => OrdersOk.setReturned hI hmem rfl rfl rfl rfl nofun) ho orderId
          exact releaseInv_of hp' ho'
        · obtain ⟨hp', ho'⟩ := releaseAfterQc_inv env hp ho orderId
          exact releaseInv_of hp' ho'

theorem releaseInv_step (env : Env) (s : HoldState) (op : ReleaseOp) (h : ReleaseInv s) :
    ReleaseInv (releaseStep env s op) := by
  cases op with
  | hold op => exact ⟨holdInv_step env s op h.hold, h.marked.holdStep env op⟩
  | rejectReturn user orderId reason =>
    refine commit_induction (P := fun db => ReleaseInv { s with db := db }) h ?_
    intro db' result hok
    unfold rejectReturn at hok
    rw [ite_throw_eq_ok] at hok
    obtain ⟨-, hok⟩ := hok
    split at hok
    · exact absurd hok throw_ne_ok
    · rename_i order hget
      rw [ite_throw_eq_ok, ite_throw_eq_ok] at hok
      obtain ⟨-, -, hok⟩ := hok
      cases pure_eq_ok.mp hok
      refine releaseInv_of (payoutsInv_saveOrder h.hold.payouts _) ?_
      exact h.ok.setReturned (mem_of_get? hget) rfl rfl rfl rfl nofun
  | updateReturnQcStatus user orderId qcStatus goesOn =>
    exact updateReturnQcStatus_inv env h user orderId qcStatus goesOn
  | saveReturn orderId fields =>
    rw [releaseStep]
    split
    · exact h
    · rename_i order hget
      split
      · exact h
      · rename_i hstatus
        refine releaseInv_of (payoutsInv_saveOrder h.hold.payouts _) ?_
        exact h.ok.setReturned (mem_of_get? hget) rfl rfl rfl rfl hstatus

end Step

/-! ## The job -/

structure Unchanged (id : ObjectId) (db db' : Db) : Prop where
  order : db'.orders.get? id = db.orders.get? id
  payouts : ∀ payout : Payout, id ∈ payout.relatedOrderIds →
    (payout ∈ db'.payouts.rows ↔ payout ∈ db.payouts.rows)

section Job

variable {db db' : Db} {id other : ObjectId} {order : Order} {payout : Payout}

theorem Unchanged.refl (id : ObjectId) (db : Db) : Unchanged id db db := ⟨rfl, fun _ _ => Iff.rfl⟩

theorem Unchanged.trans {db'' : Db} (h : Unchanged id db db') (h' : Unchanged id db' db'') :
    Unchanged id db db'' :=
  ⟨h'.order.trans h.order, fun payout hid => (h'.payouts payout hid).trans (h.payouts payout hid)⟩

theorem Unchanged.released (h : Unchanged id db db') : Released db' id ↔ Released db id := by
  unfold Released
  rw [h.order]
  apply exists_congr
  intro order
  apply and_congr_right
  intro _
  apply and_congr_right
  intro _
  constructor
  · rintro ⟨payout, hmem, htype, hid, hstatus⟩
    exact ⟨payout, (h.payouts payout hid).mp hmem, htype, hid, hstatus⟩
  · rintro ⟨payout, hmem, htype, hid, hstatus⟩
    exact ⟨payout, (h.payouts payout hid).mpr hmem, htype, hid, hstatus⟩

theorem findLivePayout_ne_none {payoutType : PayoutType} :
    findLivePayout db id payoutType ≠ none ↔ ∃ payout ∈ db.payouts.rows,
      id ∈ payout.relatedOrderIds ∧ payout.payoutType = payoutType ∧ payout.status.Live := by
  rw [ne_none_iff_isSome]
  simp [findLivePayout]

theorem Unchanged.findLivePayout (h : Unchanged id db db') :
    Finance.findLivePayout db' id .seller ≠ none ↔ Finance.findLivePayout db id .seller ≠ none := by
  rw [findLivePayout_ne_none, findLivePayout_ne_none]
  constructor
  · rintro ⟨payout, hmem, hid, hrest⟩
    exact ⟨payout, (h.payouts payout hid).mp hmem, hid, hrest⟩
  · rintro ⟨payout, hmem, hid, hrest⟩
    exact ⟨payout, (h.payouts payout hid).mpr hmem, hid, hrest⟩

theorem unchanged_saveOrder (hne : order.id ≠ id) : Unchanged id db (db.saveOrder order) :=
  ⟨get?_set_ne hne, fun _ _ => Iff.rfl⟩

theorem related_of_find (h : PayoutsInv db) {payoutType : PayoutType}
    (hfind : findLivePayout db id payoutType = some payout) :
    payout ∈ db.payouts.rows ∧ payout.relatedOrderIds = [id] ∧ payout.payoutType = payoutType ∧
      payout.status.Live := by
  have hrow := mem_of_find?_eq_some hfind
  have hfound := find?_some hfind
  rw [decide_eq_true_eq] at hfound
  obtain ⟨hmem, htype, hlive⟩ := hfound
  obtain ⟨only, honly⟩ := h.related payout hrow
  rw [honly, mem_singleton] at hmem
  rw [hmem]
  exact ⟨hrow, honly, htype, hlive⟩

theorem process_found (h : PayoutsInv db) (hmem : payout ∈ db.payouts.rows)
    (hlive : payout.status.Live) (now : Date) :
    commit db (processPayout db payout.id now) = db.releasePayout payout now := by
  have hok : processPayout db payout.id now
      = .ok (db.releasePayout payout now, payout.completedAt now) :=
    processPayout_eq_ok.mpr ⟨payout, get?_of_mem hmem, hlive, h.amounts payout hmem,
      h.key_free hmem hlive, rfl, rfl⟩
  rw [hok, commit_ok]

theorem releasePayout_orders (hrelated : payout.relatedOrderIds = [other]) (now : Date) :
    (db.releasePayout payout now).orders = match db.orders.get? other with
      | none => db.orders
      | some order => db.orders.set (markOrderPaid payout.payoutType now order) := by
  show markOrdersPaid db.orders payout.payoutType now payout.relatedOrderIds = _
  rw [hrelated]
  rfl

theorem markOrderPaid_id (payoutType : PayoutType) (now : Date) (order : Order) :
    (markOrderPaid payoutType now order).id = order.id := by
  cases payoutType <;> rfl

theorem releaseSellerHold_other (env : Env) (h : PayoutsInv db) (hne : other ≠ id) (now : Date) :
    Unchanged id db (releaseSellerHold env db other now) := by
  unfold releaseSellerHold
  split
  · exact Unchanged.refl id db
  · rename_i payout hfind
    split
    · obtain ⟨hmem, hrelated, -, hlive⟩ := related_of_find h hfind
      rw [process_found h hmem hlive]
      constructor
      · rw [releasePayout_orders hrelated]
        split
        · rfl
        · rename_i order hget
          apply get?_set_ne
          rw [markOrderPaid_id, key_of_get? hget]
          exact hne
      · intro p hid
        -- the row that is written is for the other order
        have hp : p ≠ payout.completedAt now := by
          rintro rfl
          rw [show (payout.completedAt now).relatedOrderIds = payout.relatedOrderIds from rfl,
            hrelated, mem_singleton] at hid
          exact hne hid.symm
        have hkey : p ∈ db.payouts.rows → p.id ≠ payout.id := by
          intro hrow heq
          rw [db.payouts.eq_of_key_eq hrow hmem heq, hrelated, mem_singleton] at hid
          exact hne hid.symm
        constructor
        · intro hafter
          rcases mem_set.mp hafter with ⟨hrow, -⟩ | ⟨heq, -⟩
          · exact hrow
          · exact absurd heq hp
        · intro hrow
          exact mem_set.mpr (.inl ⟨hrow, hkey hrow⟩)
    · split
      · exact Unchanged.refl id db
      · rename_i order hget
        apply unchanged_saveOrder
        rw [show order.holdLifted.id = order.id from rfl, key_of_get? hget]
        exact hne

theorem payoutsInv_releaseSellerHold (h : PayoutsInv db) (env : Env) (id : ObjectId) (now : Date) :
    PayoutsInv (releaseSellerHold env db id now) := by
  unfold releaseSellerHold
  split
  · exact h
  · split
    · exact h.process _ now
    · split
      · exact h
      · exact payoutsInv_saveOrder h _

theorem releaseSellerHold_self (env : Env) (h : PayoutsInv db) (hget : db.orders.get? id = some order)
    (hfind : findLivePayout db id .seller ≠ none) (now : Date) :
    Released (releaseSellerHold env db id now) id ∧
      (releaseSellerHold env db id now).orders.get? id
        = some (if env.autoReleaseSellerPayout then markOrderPaid .seller now order
            else order.holdLifted) := by
  obtain ⟨payout, hsome⟩ := ne_none_iff_exists'.mp hfind
  obtain ⟨hmem, hrelated, htype, hlive⟩ := related_of_find h hsome
  have hid : order.id = id := key_of_get? hget
  have hself : id ∈ payout.relatedOrderIds := by
    rw [hrelated]
    exact mem_singleton_self id
  have hrow : db.orders.get? order.id = some order := by
    rw [hid]
    exact hget
  unfold releaseSellerHold
  rw [hsome]
  dsimp only
  split
  · rw [process_found h hmem hlive]
    have hafter : (db.releasePayout payout now).orders.get? id
        = some (markOrderPaid .seller now order) := by
      rw [releasePayout_orders hrelated, hget, htype, ← hid]
      exact get?_set_self (r := markOrderPaid .seller now order) hrow
    refine ⟨⟨_, hafter, .inl ?_, payout.completedAt now, ?_, htype, hself, .inl rfl⟩, hafter⟩
    · rw [markOrderPaid, computeOverallSettlement_sellerPayout]
    · exact mem_set.mpr (.inr ⟨rfl, payout, hmem, rfl⟩)
  · rw [hget]
    dsimp only
    have hafter : (db.saveOrder order.holdLifted).orders.get? id = some order.holdLifted := by
      rw [← hid]
      exact get?_set_self (r := order.holdLifted) hrow
    exact ⟨⟨_, hafter, .inr rfl, payout, hmem, htype, hself, .inr hlive⟩, hafter⟩

theorem release_others (env : Env) (now : Date) {ids : List ObjectId} (h : PayoutsInv db) (hid : id ∉ ids) :
    PayoutsInv (ids.foldl (fun db orderId => releaseSellerHold env db orderId now) db) ∧
      Unchanged id db (ids.foldl (fun db orderId => releaseSellerHold env db orderId now) db) := by
  induction ids generalizing db with
  | nil => exact ⟨h, Unchanged.refl id db⟩
  | cons other ids ih =>
    obtain ⟨hne, hrest⟩ := not_or.mp (mt mem_cons.mpr hid)
    obtain ⟨hinv, hsame⟩ := ih (payoutsInv_releaseSellerHold h env other now) hrest
    exact ⟨hinv, (releaseSellerHold_other env h (Ne.symm hne) now).trans hsame⟩

theorem nodup_findExpiredHolds (db : Db) (now : Date) : (findExpiredHolds db now).Nodup :=
  db.orders.nodup.sublist (filter_sublist.map Order.id)

theorem mem_findExpiredHolds (hget : db.orders.get? id = some order) (now : Date) :
    id ∈ findExpiredHolds db now ↔ HoldExpired now order := by
  constructor
  · intro hmem
    obtain ⟨row, hrow, hid⟩ := mem_map.mp hmem
    obtain ⟨hin, hexpired⟩ := mem_filter.mp hrow
    have hsame : row = order :=
      db.orders.eq_of_key_eq hin (mem_of_get? hget) (hid.trans (key_of_get? hget).symm)
    rw [← hsame]
    exact of_decide_eq_true hexpired
  · intro hexpired
    refine mem_map.mpr ⟨order, ?_, key_of_get? hget⟩
    exact mem_filter.mpr ⟨mem_of_get? hget, decide_eq_true hexpired⟩

/-- What the job does to an order: nothing, unless it is selected and its payout waits. -/
theorem releaseExpired_cases (env : Env) (h : PayoutsInv db) (hget : db.orders.get? id = some order)
    (now : Date) :
    (¬ (HoldExpired now order ∧ findLivePayout db id .seller ≠ none) ∧
        Unchanged id db (releaseExpiredSellerHolds env db now)) ∨
      (HoldExpired now order ∧ findLivePayout db id .seller ≠ none ∧
        Released (releaseExpiredSellerHolds env db now) id ∧
        (releaseExpiredSellerHolds env db now).orders.get? id
          = some (if env.autoReleaseSellerPayout then markOrderPaid .seller now order
              else order.holdLifted)) := by
  unfold releaseExpiredSellerHolds
  by_cases hselected : id ∈ findExpiredHolds db now
  · have hexpired := (mem_findExpiredHolds hget now).mp hselected
    have hnodup := nodup_findExpiredHolds db now
    -- the rounds before its own, its own, and those after
    obtain ⟨before, after, hsplit⟩ := append_of_mem hselected
    rw [hsplit] at hnodup ⊢
    obtain ⟨hbefore, hafter⟩ : id ∉ before ∧ id ∉ after := by
      simp only [nodup_append, nodup_cons] at hnodup
      exact ⟨fun hmem => hnodup.2.2 id hmem id mem_cons_self rfl, hnodup.2.1.1⟩
    rw [foldl_append, foldl_cons]
    obtain ⟨h₁, hsame₁⟩ := release_others env now h hbefore
    generalize before.foldl (fun db orderId => releaseSellerHold env db orderId now) db = db₁ at *
    obtain ⟨-, hsame₂⟩ :=
      release_others env now (payoutsInv_releaseSellerHold h₁ env id now) hafter
    by_cases hwaiting : findLivePayout db id .seller ≠ none
    · right
      obtain ⟨hreleased, horder⟩ := releaseSellerHold_self env h₁ (hsame₁.order.trans hget)
        (hsame₁.findLivePayout.mpr hwaiting) now
      exact ⟨hexpired, hwaiting, hsame₂.released.mpr hreleased, hsame₂.order.trans horder⟩
    · left
      refine ⟨fun hcond => hwaiting hcond.2, ?_⟩
      have hnone : findLivePayout db₁ id .seller = none := by
        by_contra hfound
        exact hwaiting (hsame₁.findLivePayout.mp hfound)
      have hround : releaseSellerHold env db₁ id now = db₁ := by
        rw [releaseSellerHold, hnone]
      rw [hround] at hsame₂ ⊢
      exact hsame₁.trans hsame₂
  · left
    refine ⟨fun hcond => hselected ((mem_findExpiredHolds hget now).mpr hcond.1), ?_⟩
    exact (release_others env now h hselected).2

end Job

/-! ## Main result -/

/-- In every state that settlements, payouts, returns and jobs lead to, a run of the job releases
an order on hold exactly when no return was ever requested for it and its payout is waiting. The
second mark of the hold goes with it only where payouts are not released automatically. -/
theorem held_payout_released_iff (env : Env) {orders : Table Order.id}
    (hplaced : ∀ order ∈ orders.rows, order.settlementStatus.sellerPayout ≠ .hold) (now : Date)
    (ops : List ReleaseOp) {s : HoldState}
    (hrun : exec (releaseStep env) ⟨Db.fresh orders, now, []⟩ ops = s) {orderId : ObjectId}
    {order : Order} (hget : s.db.orders.get? orderId = some order) (hdue : Due s.now order) :
    (Released (releaseExpiredSellerHolds env s.db s.now) orderId ↔ Releasable s.db order) ∧
      (Released (releaseExpiredSellerHolds env s.db s.now) orderId ∧
          FlagCleared (releaseExpiredSellerHolds env s.db s.now) orderId ↔
        Releasable s.db order ∧ env.autoReleaseSellerPayout = false) := by
  have hinv : ReleaseInv s := by
    rw [← hrun]
    exact exec_induction (releaseInv_step env) (releaseInv_fresh hplaced now) ops
  have hmem := mem_of_get? hget
  obtain ⟨hflag, hwindow⟩ := hinv.marked order hmem hdue.hold
  -- the query selects the order exactly where it has no return
  have hselected : HoldExpired s.now order ↔ order.returnStatus = .none := by
    constructor
    · intro hexpired
      exact hexpired.2.1
    · intro hnone
      obtain ⟨expiresAt, hdate⟩ := ne_none_iff_exists'.mp (hwindow hnone)
      exact ⟨hdue.delivered, hnone, ⟨expiresAt, hdate, hdue.passed expiresAt hdate⟩, hdue.hold⟩
  have hid : order.id = orderId := key_of_get? hget
  unfold Releasable
  rw [← hselected, hid]
  rcases releaseExpired_cases env hinv.hold.payouts hget s.now with
    ⟨hnot, hsame⟩ | ⟨hexpired, hwaiting, hreleased, hafter⟩
  · have hstays : ¬ Released (releaseExpiredSellerHolds env s.db s.now) orderId := by
      rw [hsame.released]
      rintro ⟨found, hfound, hstatus, -⟩
      cases hget.symm.trans hfound
      rw [hdue.hold] at hstatus
      rcases hstatus with h | h <;> cases h
    exact ⟨iff_of_false hstays hnot, iff_of_false (fun h => hstays h.1) (fun h => hnot h.1)⟩
  · refine ⟨iff_of_true hreleased ⟨hexpired, hwaiting⟩, ?_⟩
    have hcleared : FlagCleared (releaseExpiredSellerHolds env s.db s.now) orderId ↔
        env.autoReleaseSellerPayout = false := by
      unfold FlagCleared
      rw [hafter]
      cases hauto : env.autoReleaseSellerPayout with
      | true =>
        refine iff_of_false ?_ nofun
        rintro ⟨found, hfound, hoff⟩
        cases hfound
        exact Bool.noConfusion (hflag.symm.trans hoff)
      | false => exact iff_of_true ⟨_, rfl, rfl⟩ rfl
    rw [hcleared]
    exact ⟨fun h => ⟨⟨hexpired, hwaiting⟩, h.2⟩, fun h => ⟨hreleased, h.2⟩⟩

/-- Two shirts of 200 rupees, sold with a return policy of a week. -/
def soldShirts : Order :=
  { placed 1 7 (some 3) none .cod (PaymentBreakdown.placed 40000 36000 0 4000 0) with
    items := [{ id := 11, product := 21, name := "Shirt", quantity := 2, price := 20000
                returnPolicy := { isReturnable := true, returnWindowDays := 7 } }] }

def shirtStore : Table Order.id := ⟨[soldShirts], nodup_singleton 1⟩

theorem shirtStore_placed (order : Order) (hmem : order ∈ shirtStore.rows) :
    order.settlementStatus.sellerPayout ≠ .hold := by
  rw [mem_singleton.mp hmem]
  decide

/-- The order is delivered, and its window is over with no return requested. -/
def keptShirts : HoldState :=
  exec (releaseStep {}) ⟨Db.fresh shirtStore, 0, []⟩
    [.hold (.settleDeliveredOrder 1 none), .hold (.tick 600000)]

def rejectedShirts : HoldState :=
  exec (releaseStep {}) ⟨Db.fresh shirtStore, 0, []⟩
    [.hold (.settleDeliveredOrder 1 none),
      .hold (.createReturnRequest 7 1 ⟨[{ itemIndex := some 0 }], "Too small"⟩ 0),
      .rejectReturn ⟨3, .seller⟩ 1 "Worn", .hold (.tick 600000)]

/-- What the two states say about the order. -/
def isDue (s : HoldState) (order : Order) : Bool :=
  decide (order.status = .delivered ∧ order.settlementStatus.sellerPayout = .hold ∧
      (order.returnStatus = .none ∨ order.returnStatus = .returnRejected ∨
        order.returnStatus = .qcFailed)) &&
    order.returnWindowExpiresAt.all (fun expiresAt => decide (expiresAt ≤ s.now))

theorem due_of_isDue {s : HoldState} {order : Order} (h : isDue s order = true) :
    Due s.now order := by
  unfold isDue at h
  rw [Bool.and_eq_true, decide_eq_true_eq] at h
  obtain ⟨⟨hdelivered, hhold, hstatus⟩, hwindow⟩ := h
  refine ⟨hdelivered, hhold, ?_, hstatus⟩
  intro expiresAt hexpires
  rw [mem_def.mp hexpires] at hwindow
  exact of_decide_eq_true hwindow

/-- The shirts are kept, and the seller is paid by the job. -/
theorem held_payout_released_iff_kept :
    Released (releaseExpiredSellerHolds {} keptShirts.db keptShirts.now) 1 := by
  have hfound : (keptShirts.db.orders.get? 1).any (fun order => isDue keptShirts order &&
      decide (order.returnStatus = .none ∧ findLivePayout keptShirts.db order.id .seller ≠ none))
        = true := by decide +kernel
  obtain ⟨order, hget, hfound⟩ := any_eq_true _ _ |>.mp hfound
  rw [Bool.and_eq_true, decide_eq_true_eq] at hfound
  have hiff := held_payout_released_iff {} shirtStore_placed 0
    [.hold (.settleDeliveredOrder 1 none), .hold (.tick 600000)] rfl hget (due_of_isDue hfound.1)
  exact hiff.1.mpr hfound.2

/-- After the rejection the job does not select the order any more: it stays on hold for good. -/
theorem rejected_return_keeps_hold :
    ¬ ∀ (env : Env) (orders : Table Order.id) (now : Date) (ops : List ReleaseOp) (s : HoldState)
      (orderId : ObjectId) (order : Order),
      (∀ order ∈ orders.rows, order.settlementStatus.sellerPayout ≠ .hold) →
      exec (releaseStep env) ⟨Db.fresh orders, now, []⟩ ops = s →
      s.db.orders.get? orderId = some order → Due s.now order →
        Released (releaseExpiredSellerHolds env s.db s.now) orderId := by
  intro hall
  have hfound : (rejectedShirts.db.orders.get? 1).any (fun order => isDue rejectedShirts order)
      = true := by decide +kernel
  have hstays : ((releaseExpiredSellerHolds {} rejectedShirts.db rejectedShirts.now).orders.get?
      1).all (fun order => decide (order.settlementStatus.sellerPayout = .hold)) = true := by
    decide +kernel
  obtain ⟨order, hget, hdue⟩ := any_eq_true _ _ |>.mp hfound
  obtain ⟨after, hafter, hstatus, -⟩ := hall {} shirtStore 0 _ rejectedShirts 1 order
    shirtStore_placed rfl hget (due_of_isDue hdue)
  rw [hafter] at hstays
  have hhold : after.settlementStatus.sellerPayout = .hold := of_decide_eq_true hstays
  rw [hhold] at hstatus
  rcases hstatus with h | h <;> cases h

end DiscountBazar.Returns.Holds
