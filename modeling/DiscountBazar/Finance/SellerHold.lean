/-
Seller payouts on hold (`payoutService.js`, `payoutBatchJob.js`, `returnWindowReleaseJob.js`).

A settlement puts the seller's payout on hold while the return window is open. The hold is
a field of the order; processing works on payout rows. The release job looks at the hold
when it selects its orders, and pays each of them later, so a return request can come in
between. Single and bulk processing do not look at it at all. The main result says that
these are the only two ways a held payout is paid.
-/
import DiscountBazar.Finance.ReturnRequest
import DiscountBazar.Finance.Settlement
import DiscountBazar.Lib.Run

namespace DiscountBazar.Finance

open Transaction Runs Table
open List (mem_append mem_singleton not_mem_nil)
open Option

/-! ## The release job -/

/-- The query of `releaseExpiredSellerHolds`. -/
def HoldExpired (now : Date) (order : Order) : Prop :=
  order.status = .delivered ∧ order.returnStatus = .none ∧
    (∃ expiresAt ∈ order.returnWindowExpiresAt, expiresAt ≤ now) ∧
    order.settlementStatus.sellerPayout = .hold

instance (now : Date) : DecidablePred (HoldExpired now) := fun _ =>
  inferInstanceAs (Decidable (_ ∧ _ ∧ _ ∧ _))

/-- The orders `releaseExpiredSellerHolds` selects. -/
def findExpiredHolds (db : Db) (now : Date) : List ObjectId :=
  (db.orders.rows.filter (fun order => decide (HoldExpired now order))).map Order.id

def Order.holdLifted (order : Order) : Order :=
  { order with
    settlementStatus := { order.settlementStatus with sellerPayout := .pending }
    financeFlags := { order.financeFlags with sellerPayoutHeld := false } }

/-- One round of the loop of `releaseExpiredSellerHolds`. -/
def releaseSellerHold (env : Env) (db : Db) (orderId : ObjectId) (now : Date) : Db :=
  match findLivePayout db orderId .seller with
  | none => db
  | some payout =>
    if env.autoReleaseSellerPayout then commit db (processPayout db payout.id now)
    else
      match db.orders.get? orderId with
      | none => db
      | some order => db.saveOrder order.holdLifted

/-- `releaseExpiredSellerHolds`, undisturbed. -/
def releaseExpiredSellerHolds (env : Env) (db : Db) (now : Date) : Db :=
  (findExpiredHolds db now).foldl (fun db orderId => releaseSellerHold env db orderId now) db

/-! ## The system -/

/-- The store, the clock, and the orders that runs of the release job have selected and
not come to yet. -/
structure HoldState where
  db : Db
  now : Date
  candidates : List ObjectId

/-- What can happen next. The batch job is a bulk call without ids or type. -/
inductive HoldOp where
  | tick (elapsed : ℕ)
  | settleDeliveredOrder (orderId : ObjectId) (failsAt : Option SettleCall)
  | processPayout (payoutId : ObjectId)
  | bulkProcessPayouts (payoutIds : List ObjectId) (payoutType : Option PayoutType) (limit : ℤ)
  | createReturnRequest (customerId orderId : ObjectId) (payload : ReturnPayload)
      (updatedAt : Date)
  | findExpiredHolds
  | releaseHold (orderId : ObjectId)

/-- The payouts a bulk call goes through. -/
def bulkTargets (db : Db) (payoutIds : List ObjectId) (payoutType : Option PayoutType)
    (limit : ℤ) : List ObjectId :=
  if payoutIds = [] then selectPayouts db payoutType limit else payoutIds

def holdStep (env : Env) (s : HoldState) : HoldOp → HoldState
  | .tick elapsed => { s with now := s.now + elapsed }
  | .settleDeliveredOrder orderId failsAt =>
    { s with
      db := (DiscountBazar.Finance.settleDeliveredOrder env s.db orderId s.now failsAt).2 }
  | .processPayout payoutId =>
    { s with db := commit s.db (DiscountBazar.Finance.processPayout s.db payoutId s.now) }
  | .bulkProcessPayouts payoutIds payoutType limit =>
    { s with
      db := (DiscountBazar.Finance.bulkProcessPayouts s.db payoutIds payoutType limit s.now).1 }
  | .createReturnRequest customerId orderId payload updatedAt =>
    { s with
      db := commit s.db
        (DiscountBazar.Finance.createReturnRequest s.db customerId orderId payload updatedAt
          s.now) }
  | .findExpiredHolds =>
    { s with candidates := s.candidates ++ DiscountBazar.Finance.findExpiredHolds s.db s.now }
  | .releaseHold orderId =>
    if orderId ∈ s.candidates then
      { s with
        db := releaseSellerHold env s.db orderId s.now
        candidates := s.candidates.erase orderId }
    else s

/-- The undisturbed job is the run that selects and then releases one candidate after the
other. -/
theorem releaseExpiredSellerHolds_run (env : Env) (db : Db) (now : Date) :
    releaseExpiredSellerHolds env db now
      = (exec (holdStep env) ⟨db, now, []⟩
          (.findExpiredHolds :: (findExpiredHolds db now).map .releaseHold)).db := by
  have hloop : ∀ (ids : List ObjectId) (db : Db),
      ids.foldl (fun db orderId => releaseSellerHold env db orderId now) db
        = (exec (holdStep env) ⟨db, now, ids⟩ (ids.map .releaseHold)).db := by
    intro ids
    induction ids with
    | nil =>
      intro db
      rfl
    | cons id ids ih =>
      intro db
      have hhead : holdStep env ⟨db, now, id :: ids⟩ (.releaseHold id)
          = ⟨releaseSellerHold env db id now, now, ids⟩ := by
        rw [holdStep, if_pos List.mem_cons_self, List.erase_cons_head]
      rw [List.foldl_cons, List.map_cons, exec_cons, hhead]
      exact ih (releaseSellerHold env db id now)
  exact hloop (findExpiredHolds db now) db

/-! ## The property and the condition -/

/-- A return has been requested and is not settled yet: neither rejected, nor failed in
quality control, nor refunded. -/
def ReturnStatus.InProgress (returnStatus : ReturnStatus) : Prop :=
  returnStatus ≠ .none ∧ returnStatus ≠ .returnRejected ∧ returnStatus ≠ .qcFailed ∧
    returnStatus ≠ .refundCompleted

instance : DecidablePred ReturnStatus.InProgress := fun _ =>
  inferInstanceAs (Decidable (_ ∧ _ ∧ _ ∧ _))

/-- The order's settlement is on hold, with its return window open or a return in
progress. -/
def OnHold (now : Date) (order : Order) : Prop :=
  order.settlementStatus.sellerPayout = .hold ∧
    (holdSellerPayout order now ∨ order.returnStatus.InProgress)

def Held (s : HoldState) (payout : Payout) : Prop :=
  payout.payoutType = .seller ∧ ∃ orderId ∈ payout.relatedOrderIds, ∃ order,
    s.db.orders.get? orderId = some order ∧ OnHold s.now order

/-- Every held payout that is pending stays as it is. -/
def KeepsHeld (env : Env) (s : HoldState) (op : HoldOp) : Prop :=
  ∀ payout ∈ s.db.payouts.rows, payout.status.Live → Held s payout →
    payout ∈ (holdStep env s op).db.payouts.rows

/-- Single and bulk processing take no held payout, and the release job comes to no order
for which a return was requested after it was selected. -/
def RespectsHold (env : Env) (s : HoldState) : HoldOp → Prop
  | .processPayout payoutId => ∀ payout, s.db.payouts.get? payoutId = some payout →
      payout.status.Live → ¬ Held s payout
  | .bulkProcessPayouts payoutIds payoutType limit =>
    ∀ payoutId ∈ bulkTargets s.db payoutIds payoutType limit,
      ∀ payout, s.db.payouts.get? payoutId = some payout → payout.status.Live → ¬ Held s payout
  | .releaseHold orderId => env.autoReleaseSellerPayout = true → orderId ∈ s.candidates →
      ∀ order, s.db.orders.get? orderId = some order →
        order.settlementStatus.sellerPayout = .hold →
        findLivePayout s.db orderId .seller ≠ none → ¬ order.returnStatus.InProgress
  | _ => True

/-! ## Payout rows -/

/-- Every payout is for one order and not negative, and the ledger has processed only
payouts that are no longer live. -/
structure PayoutsInv (db : Db) : Prop where
  related : ∀ payout ∈ db.payouts.rows, ∃ orderId, payout.relatedOrderIds = [orderId]
  amounts : ∀ payout ∈ db.payouts.rows, 0 ≤ payout.amount
  processed : ∀ row ∈ db.ledger, ∀ id, row.idempotencyKey = some (.payoutProcessed id) →
    ∃ payout ∈ db.payouts.rows, payout.id = id ∧ ¬ payout.status.Live

section Payouts

variable {db db' : Db} {payout : Payout}

theorem payoutsInv_fresh (orders : Table Order.id) : PayoutsInv (Db.fresh orders) := by
  constructor
  · intro payout hmem
    exact absurd hmem not_mem_nil
  · intro payout hmem
    exact absurd hmem not_mem_nil
  · intro row hmem
    exact absurd hmem not_mem_nil

theorem PayoutsInv.key_free (h : PayoutsInv db) (hmem : payout ∈ db.payouts.rows)
    (hlive : payout.status.Live) : keyFree db (some (.payoutProcessed payout.id)) := by
  intro row hrow hkey
  obtain ⟨other, hother, hid, hclosed⟩ := h.processed row hrow payout.id hkey
  rw [db.payouts.eq_of_key_eq hother hmem hid] at hclosed
  exact hclosed hlive

theorem PayoutsInv.congr (h : PayoutsInv db) (hp : db'.payouts = db.payouts)
    (hl : ∀ row ∈ db'.ledger, row ∈ db.ledger ∨ row.idempotencyKey = none) :
    PayoutsInv db' := by
  constructor
  · rw [hp]
    exact h.related
  · rw [hp]
    exact h.amounts
  · intro row hrow id hkey
    rw [hp]
    rcases hl row hrow with hold | hnone
    · exact h.processed row hold id hkey
    · rw [hnone] at hkey
      cases hkey

theorem PayoutsInv.settlePayout (h : PayoutsInv db) (order : Order) (payoutType : PayoutType) :
    PayoutsInv (db.settlePayout order payoutType) := by
  unfold Db.settlePayout
  split
  · exact h
  · rename_i id hid
    split
    · rename_i hqueues
      have hfresh := Db.newPayout_id_notMem db order.id payoutType id (payoutType.total order)
      constructor
      · intro payout hmem
        rw [Db.queuePayout_payouts, mem_insert hfresh] at hmem
        rcases hmem with hmem | rfl
        · exact h.related payout hmem
        · exact ⟨order.id, rfl⟩
      · intro payout hmem
        rw [Db.queuePayout_payouts, mem_insert hfresh] at hmem
        rcases hmem with hmem | rfl
        · exact h.amounts payout hmem
        · exact le_of_lt hqueues.1.2.2
      · intro row hrow key hkey
        rw [Db.queuePayout_ledger] at hrow
        rw [Db.queuePayout_payouts]
        rcases mem_append.mp hrow with hrow | hrow
        · obtain ⟨payout, hmem, hpayout⟩ := h.processed row hrow key hkey
          exact ⟨payout, (mem_insert hfresh).mpr (.inl hmem), hpayout⟩
        · rw [mem_singleton.mp hrow] at hkey
          cases hkey
    · exact h

theorem mem_settlePayout (order : Order) (payoutType : PayoutType)
    (hmem : payout ∈ db.payouts.rows) :
    payout ∈ (db.settlePayout order payoutType).payouts.rows := by
  unfold Db.settlePayout
  split
  · exact hmem
  · split
    · rw [Db.queuePayout_payouts, mem_insert (Db.newPayout_id_notMem db _ _ _ _)]
      exact .inl hmem
    · exact hmem

theorem PayoutsInv.release (h : PayoutsInv db) (hmem : payout ∈ db.payouts.rows) (now : Date) :
    PayoutsInv (db.releasePayout payout now) := by
  -- The row that is written is the payout's own, completed.
  have hrows : ∀ p, p ∈ (db.payouts.set (payout.completedAt now)).rows ↔
      (p ∈ db.payouts.rows ∧ p.id ≠ payout.id) ∨ p = payout.completedAt now := by
    intro p
    rw [mem_set]
    apply or_congr Iff.rfl
    exact and_iff_left ⟨payout, hmem, rfl⟩
  constructor
  · intro p hp
    rcases (hrows p).mp hp with ⟨hp, -⟩ | rfl
    · exact h.related p hp
    · exact h.related payout hmem
  · intro p hp
    rcases (hrows p).mp hp with ⟨hp, -⟩ | rfl
    · exact h.amounts p hp
    · exact h.amounts payout hmem
  · intro row hrow id hkey
    have hcompleted : ¬ (payout.completedAt now).status.Live := by
      simp [Payout.completedAt, PayoutStatus.Live]
    have hself : payout.completedAt now ∈ (db.releasePayout payout now).payouts.rows :=
      (hrows _).mpr (.inr rfl)
    rcases mem_append.mp hrow with hrow | hrow
    · obtain ⟨other, hother, hid, hclosed⟩ := h.processed row hrow id hkey
      by_cases hne : other.id = payout.id
      · exact ⟨payout.completedAt now, hself, hne.symm.trans hid, hcompleted⟩
      · exact ⟨other, (hrows other).mpr (.inl ⟨hother, hne⟩), hid, hclosed⟩
    · rw [mem_singleton.mp hrow] at hkey
      have hid : payout.id = id := by
        injection hkey with hkey
        injection hkey
      exact ⟨payout.completedAt now, hself, hid, hcompleted⟩

theorem process_cases (db : Db) (id : ObjectId) (now : Date) :
    commit db (processPayout db id now) = db ∨
      ∃ payout ∈ db.payouts.rows, payout.id = id ∧ payout.status.Live ∧
        commit db (processPayout db id now) = db.releasePayout payout now := by
  cases hr : processPayout db id now with
  | error e => exact .inl rfl
  | ok r =>
    obtain ⟨db', result⟩ := r
    obtain ⟨payout, hget, hlive, -, -, rfl, -⟩ := processPayout_eq_ok.mp hr
    exact .inr ⟨payout, mem_of_get? hget, key_of_get? hget, hlive, rfl⟩

theorem PayoutsInv.process (h : PayoutsInv db) (id : ObjectId) (now : Date) :
    PayoutsInv (commit db (processPayout db id now)) := by
  rcases process_cases db id now with heq | ⟨payout, hmem, -, -, heq⟩
  · rw [heq]
    exact h
  · rw [heq]
    exact h.release hmem now

theorem mem_of_mem_process (id : ObjectId) (now : Date) (hlive : payout.status.Live)
    (hmem : payout ∈ (commit db (processPayout db id now)).payouts.rows) :
    payout ∈ db.payouts.rows := by
  rcases process_cases db id now with heq | ⟨other, -, -, -, heq⟩
  · rw [heq] at hmem
    exact hmem
  · rw [heq] at hmem
    rcases mem_set.mp hmem with ⟨hmem, -⟩ | ⟨rfl, -⟩
    · exact hmem
    · simp [Payout.completedAt, PayoutStatus.Live] at hlive

theorem PayoutsInv.mem_process_iff (h : PayoutsInv db) (id : ObjectId) (now : Date)
    (hmem : payout ∈ db.payouts.rows) (hlive : payout.status.Live) :
    payout ∈ (commit db (processPayout db id now)).payouts.rows ↔ payout.id ≠ id := by
  constructor
  · rintro hafter rfl
    have hok : processPayout db payout.id now
        = .ok (db.releasePayout payout now, payout.completedAt now) :=
      processPayout_eq_ok.mpr ⟨payout, get?_of_mem hmem, hlive, h.amounts payout hmem,
        h.key_free hmem hlive, rfl, rfl⟩
    rw [hok, commit_ok] at hafter
    rcases mem_set.mp hafter with ⟨-, hne⟩ | ⟨heq, -⟩
    · exact hne rfl
    · rw [heq] at hlive
      simp [Payout.completedAt, PayoutStatus.Live] at hlive
  · intro hne
    rcases process_cases db id now with heq | ⟨other, -, hid, -, heq⟩
    · rw [heq]
      exact hmem
    · rw [heq]
      apply mem_set.mpr
      left
      refine ⟨hmem, ?_⟩
      rw [← hid] at hne
      exact hne

theorem PayoutsInv.mem_processAll_iff (now : Date) (ids : List ObjectId) :
    ∀ {db : Db}, PayoutsInv db → ∀ {payout : Payout}, payout ∈ db.payouts.rows →
      payout.status.Live → (payout ∈ (processAll now db ids).1.payouts.rows ↔ payout.id ∉ ids) := by
  -- A live row that is gone does not come back.
  have hgone : ∀ (ids : List ObjectId) (db : Db) {payout : Payout}, payout.status.Live →
      payout ∈ (ids.foldl (fun db id => commit db (processPayout db id now)) db).payouts.rows →
      payout ∈ db.payouts.rows := by
    intro ids
    induction ids with
    | nil =>
      intro db payout _ hmem
      exact hmem
    | cons id ids ih =>
      intro db payout hlive hmem
      exact mem_of_mem_process id now hlive (ih _ hlive hmem)
  induction ids with
  | nil =>
    intro db _ payout hmem _
    exact iff_of_true hmem not_mem_nil
  | cons id ids ih =>
    intro db h payout hmem hlive
    have hone := h.mem_process_iff id now hmem hlive
    rw [processAll_fst, List.foldl_cons, List.mem_cons, not_or]
    by_cases hid : payout.id = id
    · constructor
      · intro hafter
        exact absurd hid (hone.mp (hgone ids _ hlive hafter))
      · intro hnot
        exact absurd hid hnot.1
    · rw [← processAll_fst, ih (h.process id now) (hone.mpr hid) hlive]
      exact (and_iff_right hid).symm

theorem PayoutsInv.processAll (h : PayoutsInv db) (ids : List ObjectId) (now : Date) :
    PayoutsInv (processAll now db ids).1 := by
  rw [processAll_fst]
  have hround : ∀ db id, PayoutsInv db → PayoutsInv (commit db (processPayout db id now)) := by
    intro db id hdb
    exact hdb.process id now
  exact exec_induction hround h ids

end Payouts

/-! ## Orders and candidates -/

/-- A hold is put on by the settlement that marks the order settled, and a candidate is a
settled order whose window is over (or has been cleared by a return request). -/
structure OrdersInv (orders : Table Order.id) (now : Date) (candidates : List ObjectId) :
    Prop where
  settled : ∀ order ∈ orders.rows, order.settlementStatus.sellerPayout = .hold →
    order.financeFlags.deliveredSettlementApplied = true
  expired : ∀ orderId ∈ candidates, ∀ order, orders.get? orderId = some order →
    order.financeFlags.deliveredSettlementApplied = true ∧
      ∀ expiresAt ∈ order.returnWindowExpiresAt, expiresAt ≤ now

/-- A rewrite of an order that the invariant survives: a settled order stays settled with
its window kept or cleared, and only a settled one is on hold. -/
structure Order.Keeps (order order' : Order) : Prop where
  id : order'.id = order.id
  hold : order'.settlementStatus.sellerPayout = .hold →
    order'.financeFlags.deliveredSettlementApplied = true
  applied : order.financeFlags.deliveredSettlementApplied = true →
    order'.financeFlags.deliveredSettlementApplied = true
  window : order.financeFlags.deliveredSettlementApplied = true →
    ∀ expiresAt ∈ order'.returnWindowExpiresAt, expiresAt ∈ order.returnWindowExpiresAt

section Orders

variable {orders : Table Order.id} {now : Date} {candidates : List ObjectId} {order order' : Order}

theorem OrdersInv.set (h : OrdersInv orders now candidates) (hmem : order ∈ orders.rows)
    (hkeeps : order.Keeps order') : OrdersInv (orders.set order') now candidates := by
  constructor
  · intro o ho hhold
    rcases mem_set.mp ho with ⟨ho, -⟩ | ⟨rfl, -⟩
    · exact h.settled o ho hhold
    · exact hkeeps.hold hhold
  · intro orderId hcandidate o hget
    have hid : o.id = orderId := key_of_get? hget
    rcases mem_set.mp (mem_of_get? hget) with ⟨ho, -⟩ | ⟨rfl, -⟩
    · exact h.expired orderId hcandidate o (by rw [← hid]; exact get?_of_mem ho)
    · have hold : orders.get? orderId = some order := by
        rw [← hid, hkeeps.id]
        exact get?_of_mem hmem
      obtain ⟨happlied, hwindow⟩ := h.expired orderId hcandidate order hold
      refine ⟨hkeeps.applied happlied, ?_⟩
      intro expiresAt hexpires
      exact hwindow expiresAt (hkeeps.window happlied expiresAt hexpires)

theorem keeps_settled (env : Env) (hs : Settleable order) (now : Date) :
    order.Keeps (order.settled env now) := by
  have hnot : order.financeFlags.deliveredSettlementApplied = false := hs.2.2
  have happlied : (order.settled env now).financeFlags.deliveredSettlementApplied = true := rfl
  constructor
  · exact (sameDues_settled order env now).id
  · intro _
    exact happlied
  · intro _
    exact happlied
  · intro h
    rw [hnot] at h
    cases h

theorem computeOverallSettlement_sellerPayout (settlement : SettlementStatus) (now : Date) :
    (computeOverallSettlement settlement now).sellerPayout = settlement.sellerPayout := by
  unfold computeOverallSettlement
  dsimp only
  split
  · rfl
  · split
    · rfl
    · rfl

/-- Processing completes the seller's part or leaves it alone. -/
theorem keeps_markOrderPaid (payoutType : PayoutType) (now : Date)
    (hhold : order.settlementStatus.sellerPayout = .hold →
      order.financeFlags.deliveredSettlementApplied = true) :
    order.Keeps (markOrderPaid payoutType now order) := by
  cases payoutType with
  | seller =>
    constructor
    · rfl
    · intro h
      rw [markOrderPaid, computeOverallSettlement_sellerPayout] at h
      cases h
    · exact id
    · intro _ _ hexpires
      exact hexpires
  | deliveryPartner =>
    constructor
    · rfl
    · intro h
      rw [markOrderPaid, computeOverallSettlement_sellerPayout] at h
      exact hhold h
    · exact id
    · intro _ _ hexpires
      exact hexpires

theorem keeps_returnRequested (payload : ReturnPayload) (items : List OrderItem)
    (selectedItems : List ReturnItem) (now : Date)
    (hhold : order.settlementStatus.sellerPayout = .hold →
      order.financeFlags.deliveredSettlementApplied = true) :
    order.Keeps (order.returnRequested payload items selectedItems now) := by
  constructor
  · rfl
  · exact hhold
  · exact id
  · intro _ expiresAt hexpires
    cases hexpires

theorem keeps_holdLifted : order.Keeps order.holdLifted := by
  constructor
  · rfl
  · rintro ⟨⟩
  · exact id
  · intro _ _ hexpires
    exact hexpires

theorem OrdersInv.markOrdersPaid (h : OrdersInv orders now candidates) (payoutType : PayoutType)
    (at' : Date) (orderIds : List ObjectId) :
    OrdersInv (markOrdersPaid orders payoutType at' orderIds) now candidates := by
  have hround : ∀ (orders : Table Order.id) (orderId : ObjectId),
      OrdersInv orders now candidates →
      OrdersInv (match orders.get? orderId with
        | none => orders
        | some order => orders.set (markOrderPaid payoutType at' order)) now candidates := by
    intro orders orderId h
    split
    · exact h
    · rename_i order hget
      have hmem := mem_of_get? hget
      exact h.set hmem (keeps_markOrderPaid payoutType at' (h.settled order hmem))
  exact exec_induction hround h orderIds

end Orders

/-! ## The invariant of the system -/

structure HoldInv (s : HoldState) : Prop where
  payouts : PayoutsInv s.db
  orders : OrdersInv s.db.orders s.now s.candidates

theorem holdInv_fresh {orders : Table Order.id}
    (h : ∀ order ∈ orders.rows, order.settlementStatus.sellerPayout = .hold →
      order.financeFlags.deliveredSettlementApplied = true) (now : Date) :
    HoldInv ⟨Db.fresh orders, now, []⟩ :=
  ⟨payoutsInv_fresh orders, h, fun _ hmem => absurd hmem not_mem_nil⟩

section Invariant

variable {db : Db} {now : Date} {candidates : List ObjectId}

theorem OrdersInv.process (h : OrdersInv db.orders now candidates) (id : ObjectId) (at' : Date) :
    OrdersInv (commit db (processPayout db id at')).orders now candidates := by
  rcases process_cases db id at' with heq | ⟨payout, -, -, -, heq⟩
  · rw [heq]
    exact h
  · rw [heq]
    exact h.markOrdersPaid payout.payoutType at' payout.relatedOrderIds

theorem OrdersInv.processAll (h : OrdersInv db.orders now candidates) (ids : List ObjectId)
    (at' : Date) : OrdersInv (processAll at' db ids).1.orders now candidates := by
  rw [processAll_fst]
  have hround : ∀ (db : Db) (id : ObjectId), OrdersInv db.orders now candidates →
      OrdersInv (commit db (processPayout db id at')).orders now candidates := by
    intro db id hdb
    exact hdb.process id at'
  exact exec_induction hround h ids

theorem settlePayout_orders (db : Db) (order : Order) (payoutType : PayoutType) :
    (db.settlePayout order payoutType).orders = db.orders := by
  unfold Db.settlePayout
  split
  · rfl
  · split
    · exact Db.queuePayout_orders db _ _ _ _
    · rfl

theorem OrdersInv.mono (h : OrdersInv db.orders now candidates) {now' : Date} (hnow : now ≤ now')
    {candidates' : List ObjectId} (hsub : ∀ id ∈ candidates', id ∈ candidates) :
    OrdersInv db.orders now' candidates' := by
  refine ⟨h.settled, ?_⟩
  intro orderId hmem order hget
  obtain ⟨happlied, hwindow⟩ := h.expired orderId (hsub orderId hmem) order hget
  exact ⟨happlied, fun expiresAt hexpires => le_trans (hwindow expiresAt hexpires) hnow⟩

theorem OrdersInv.select (h : OrdersInv db.orders now candidates) :
    OrdersInv db.orders now (candidates ++ findExpiredHolds db now) := by
  refine ⟨h.settled, ?_⟩
  intro orderId hmem order hget
  rcases mem_append.mp hmem with hmem | hmem
  · exact h.expired orderId hmem order hget
  · obtain ⟨found, hfound, hid⟩ := List.mem_map.mp hmem
    obtain ⟨hrow, hexpired⟩ := List.mem_filter.mp hfound
    obtain ⟨-, -, ⟨e, he, hle⟩, hhold⟩ := of_decide_eq_true hexpired
    have hsame : order = found :=
      db.orders.eq_of_key_eq (mem_of_get? hget) hrow ((key_of_get? hget).trans hid.symm)
    rw [hsame]
    refine ⟨h.settled found hrow hhold, ?_⟩
    intro expiresAt hexpires
    rw [mem_unique hexpires he]
    exact hle

theorem PayoutsInv.leftBy (h : PayoutsInv db) (order : Order) (call : SettleCall) :
    PayoutsInv (db.leftBy order call) := by
  have hseller : PayoutsInv (db.settlePayout order .seller) := h.settlePayout order .seller
  have hboth : PayoutsInv (db.settlePayouts order) := hseller.settlePayout order .deliveryPartner
  cases call with
  | findOrder | sellerPayout => exact h
  | riderPayout c => exact hseller
  | getAdminWallet | createLedgerEntry | createAuditLog | saveOrder
  | commitTransaction => exact hboth

theorem leftBy_orders (db : Db) (order : Order) (call : SettleCall) :
    (db.leftBy order call).orders = db.orders := by
  have hseller : (db.settlePayout order .seller).orders = db.orders :=
    settlePayout_orders db order .seller
  have hboth : (db.settlePayouts order).orders = db.orders :=
    (settlePayout_orders _ order .deliveryPartner).trans hseller
  cases call with
  | findOrder | sellerPayout => rfl
  | riderPayout c => exact hseller
  | getAdminWallet | createLedgerEntry | createAuditLog | saveOrder
  | commitTransaction => exact hboth

theorem mem_leftBy {payout : Payout} (hmem : payout ∈ db.payouts.rows) (order : Order)
    (call : SettleCall) : payout ∈ (db.leftBy order call).payouts.rows := by
  have hseller := mem_settlePayout order .seller hmem
  have hboth : payout ∈ (db.settlePayouts order).payouts.rows :=
    mem_settlePayout order .deliveryPartner hseller
  cases call with
  | findOrder | sellerPayout => exact hmem
  | riderPayout c => exact hseller
  | getAdminWallet | createLedgerEntry | createAuditLog | saveOrder
  | commitTransaction => exact hboth

theorem creditEarning_orders (db : Db) (order : Order) :
    (db.creditEarning order).orders = db.orders := by
  unfold Db.creditEarning
  split
  · rfl
  · rfl

theorem creditEarning_payouts (db : Db) (order : Order) :
    (db.creditEarning order).payouts = db.payouts := by
  unfold Db.creditEarning
  split
  · rfl
  · rfl

theorem PayoutsInv.creditEarning (h : PayoutsInv db) (order : Order) :
    PayoutsInv (db.creditEarning order) := by
  apply h.congr (creditEarning_payouts db order)
  intro row hrow
  unfold Db.creditEarning at hrow
  split at hrow
  · rcases mem_append.mp hrow with hrow | hrow
    · exact .inl hrow
    · right
      rw [mem_singleton.mp hrow]
      rfl
  · exact .inl hrow

theorem settledBy_orders (db : Db) (order : Order) (env : Env) (at' : Date) :
    (db.settledBy order env at').orders = db.orders.set (order.settled env at') := by
  have horders : ((db.settlePayouts order).creditEarning order).orders = db.orders := by
    rw [creditEarning_orders, Db.settlePayouts, settlePayout_orders, settlePayout_orders]
  rw [Db.settledBy, Db.saveOrder_orders, horders]

theorem holdInv_step (env : Env) (s : HoldState) (op : HoldOp) (h : HoldInv s) :
    HoldInv (holdStep env s op) := by
  cases op with
  | tick elapsed =>
    have hlater : s.now ≤ s.now + elapsed := le_add_of_nonneg_right (Int.natCast_nonneg elapsed)
    exact ⟨h.payouts, h.orders.mono hlater (fun _ hmem => hmem)⟩
  | settleDeliveredOrder orderId failsAt =>
    show HoldInv { s with db := (settleDeliveredOrder env s.db orderId s.now failsAt).2 }
    rcases settleDeliveredOrder_cases env s.db orderId s.now failsAt with
      ⟨heq, -⟩ | ⟨order, hget, hs, ⟨call, -, -, heq⟩ | ⟨-, heq⟩⟩
    · rw [heq]
      exact h
    · rw [heq]
      refine ⟨h.payouts.leftBy order call, ?_⟩
      show OrdersInv (s.db.leftBy order call).orders s.now s.candidates
      rw [leftBy_orders]
      exact h.orders
    · rw [heq]
      have hboth : PayoutsInv (s.db.settlePayouts order) :=
        (h.payouts.settlePayout order .seller).settlePayout order .deliveryPartner
      refine ⟨(hboth.creditEarning order).congr rfl (fun row hrow => .inl hrow), ?_⟩
      show OrdersInv (s.db.settledBy order env s.now).orders s.now s.candidates
      rw [settledBy_orders]
      exact h.orders.set (mem_of_get? hget) (keeps_settled env hs s.now)
  | processPayout payoutId =>
    exact ⟨h.payouts.process payoutId s.now, h.orders.process payoutId s.now⟩
  | bulkProcessPayouts payoutIds payoutType limit =>
    exact ⟨h.payouts.processAll (bulkTargets s.db payoutIds payoutType limit) s.now,
      h.orders.processAll (bulkTargets s.db payoutIds payoutType limit) s.now⟩
  | createReturnRequest customerId orderId payload updatedAt =>
    show HoldInv { s with
      db := commit s.db (createReturnRequest s.db customerId orderId payload updatedAt s.now) }
    cases hr : createReturnRequest s.db customerId orderId payload updatedAt s.now with
    | error e => exact h
    | ok r =>
      obtain ⟨db', result⟩ := r
      obtain ⟨-, -, order, items, selectedItems, hget, -, -, -, rfl, rfl⟩ :=
        createReturnRequest_eq_ok.mp hr
      have hmem := mem_of_get? hget
      refine ⟨h.payouts.congr rfl (fun row hrow => .inl hrow), ?_⟩
      exact h.orders.set hmem
        (keeps_returnRequested payload items selectedItems s.now (h.orders.settled order hmem))
  | findExpiredHolds => exact ⟨h.payouts, h.orders.select⟩
  | releaseHold orderId =>
    rw [holdStep]
    split
    · have hsub : ∀ id ∈ s.candidates.erase orderId, id ∈ s.candidates :=
        fun id hmem => List.mem_of_mem_erase hmem
      unfold releaseSellerHold
      split
      · exact ⟨h.payouts, h.orders.mono le_rfl hsub⟩
      · rename_i payout hfind
        split
        · exact ⟨h.payouts.process payout.id s.now,
            (h.orders.process payout.id s.now).mono le_rfl hsub⟩
        · split
          · exact ⟨h.payouts, h.orders.mono le_rfl hsub⟩
          · rename_i order hget
            refine ⟨h.payouts.congr rfl (fun row hrow => .inl hrow), ?_⟩
            have hset := h.orders.set (mem_of_get? hget) keeps_holdLifted
            exact OrdersInv.mono (show OrdersInv (s.db.saveOrder order.holdLifted).orders
              s.now s.candidates from hset) le_rfl hsub
    · exact h

end Invariant

/-! ## One step -/

section Step

variable {env : Env} {s : HoldState}

theorem keepsHeld_of_mem {op : HoldOp}
    (h : ∀ payout ∈ s.db.payouts.rows, payout ∈ (holdStep env s op).db.payouts.rows) :
    KeepsHeld env s op := fun payout hmem _ _ => h payout hmem

theorem keepsHeld_settle (orderId : ObjectId) (failsAt : Option SettleCall) :
    KeepsHeld env s (.settleDeliveredOrder orderId failsAt) := by
  apply keepsHeld_of_mem
  intro payout hmem
  show payout ∈ (settleDeliveredOrder env s.db orderId s.now failsAt).2.payouts.rows
  rcases settleDeliveredOrder_cases env s.db orderId s.now failsAt with
    ⟨heq, -⟩ | ⟨order, -, -, ⟨call, -, -, heq⟩ | ⟨-, heq⟩⟩
  · rw [heq]
    exact hmem
  · rw [heq]
    exact mem_leftBy hmem order call
  · rw [heq, Db.settledBy, Db.saveOrder_payouts, creditEarning_payouts]
    exact mem_settlePayout order .deliveryPartner (mem_settlePayout order .seller hmem)

theorem keepsHeld_process (h : HoldInv s) (payoutId : ObjectId) :
    KeepsHeld env s (.processPayout payoutId) ↔ RespectsHold env s (.processPayout payoutId) := by
  constructor
  · intro hkeeps payout hget hlive hheld
    have hmem := mem_of_get? hget
    have hid : payout.id = payoutId := key_of_get? hget
    exact (h.payouts.mem_process_iff payoutId s.now hmem hlive).mp (hkeeps payout hmem hlive hheld)
      hid
  · intro hrespects payout hmem hlive hheld
    apply (h.payouts.mem_process_iff payoutId s.now hmem hlive).mpr
    rintro rfl
    exact hrespects payout (get?_of_mem hmem) hlive hheld

theorem keepsHeld_bulk (h : HoldInv s) (payoutIds : List ObjectId)
    (payoutType : Option PayoutType) (limit : ℤ) :
    KeepsHeld env s (.bulkProcessPayouts payoutIds payoutType limit)
      ↔ RespectsHold env s (.bulkProcessPayouts payoutIds payoutType limit) := by
  have hrows : ∀ payout ∈ s.db.payouts.rows, payout.status.Live →
      (payout ∈ (holdStep env s (.bulkProcessPayouts payoutIds payoutType limit)).db.payouts.rows
        ↔ payout.id ∉ bulkTargets s.db payoutIds payoutType limit) := by
    intro payout hmem hlive
    exact PayoutsInv.mem_processAll_iff s.now (bulkTargets s.db payoutIds payoutType limit)
      h.payouts hmem hlive
  constructor
  · intro hkeeps payoutId htarget payout hget hlive hheld
    have hmem := mem_of_get? hget
    have hid : payout.id = payoutId := key_of_get? hget
    rw [← hid] at htarget
    exact (hrows payout hmem hlive).mp (hkeeps payout hmem hlive hheld) htarget
  · intro hrespects payout hmem hlive hheld
    apply (hrows payout hmem hlive).mpr
    intro htarget
    exact hrespects payout.id htarget payout (get?_of_mem hmem) hlive hheld

theorem held_candidate_iff (h : HoldInv s) {orderId : ObjectId} (hcandidate : orderId ∈ s.candidates)
    {payout : Payout} (hfind : findLivePayout s.db orderId .seller = some payout) :
    Held s payout ↔ ∃ order, s.db.orders.get? orderId = some order ∧
      order.settlementStatus.sellerPayout = .hold ∧ order.returnStatus.InProgress := by
  have hsome := List.find?_some hfind
  simp only [decide_eq_true_eq] at hsome
  obtain ⟨hrelated, htype, -⟩ := hsome
  obtain ⟨only, honly⟩ := h.payouts.related payout (List.mem_of_find?_eq_some hfind)
  rw [honly, mem_singleton] at hrelated
  constructor
  · rintro ⟨-, id, hid, order, hget, hhold, hwhy⟩
    rw [honly, mem_singleton, ← hrelated] at hid
    rw [hid] at hget
    rcases hwhy with ⟨expiresAt, hexpires, hlt⟩ | hprogress
    · -- The window of a candidate is not open any more.
      have hle := (h.orders.expired orderId hcandidate order hget).2 expiresAt hexpires
      exact absurd hle (not_le.mpr hlt)
    · exact ⟨order, hget, hhold, hprogress⟩
  · rintro ⟨order, hget, hhold, hprogress⟩
    refine ⟨htype, orderId, ?_, order, hget, hhold, .inr hprogress⟩
    rw [honly, hrelated]
    exact List.mem_singleton_self only

theorem keepsHeld_release (h : HoldInv s) (orderId : ObjectId) :
    KeepsHeld env s (.releaseHold orderId) ↔ RespectsHold env s (.releaseHold orderId) := by
  by_cases hcandidate : orderId ∈ s.candidates
  swap
  · refine iff_of_true ?_ (fun _ hmem => absurd hmem hcandidate)
    apply keepsHeld_of_mem
    intro payout hmem
    rw [holdStep, if_neg hcandidate]
    exact hmem
  have hstep : (holdStep env s (.releaseHold orderId)).db
      = releaseSellerHold env s.db orderId s.now := by
    rw [holdStep, if_pos hcandidate]
  cases hfind : findLivePayout s.db orderId .seller with
  | none =>
    refine iff_of_true ?_ (fun _ _ _ _ _ hlive => absurd hfind hlive)
    apply keepsHeld_of_mem
    intro payout hmem
    rw [hstep, releaseSellerHold, hfind]
    exact hmem
  | some payout =>
    by_cases hauto : env.autoReleaseSellerPayout = true
    · have hrow := List.mem_of_find?_eq_some hfind
      have hsome := List.find?_some hfind
      simp only [decide_eq_true_eq] at hsome
      have hlive := hsome.2.2
      have hdb : (holdStep env s (.releaseHold orderId)).db
          = commit s.db (processPayout s.db payout.id s.now) := by
        rw [hstep, releaseSellerHold, hfind]
        exact if_pos hauto
      have hheld := held_candidate_iff h hcandidate hfind
      constructor
      · intro hkeeps _ _ order hget hhold _ hprogress
        have hafter := hkeeps payout hrow hlive (hheld.mpr ⟨order, hget, hhold, hprogress⟩)
        rw [hdb] at hafter
        exact (h.payouts.mem_process_iff payout.id s.now hrow hlive).mp hafter rfl
      · intro hrespects other hmem hother hotherHeld
        rw [hdb]
        apply (h.payouts.mem_process_iff payout.id s.now hmem hother).mpr
        intro hid
        rw [s.db.payouts.eq_of_key_eq hmem hrow hid] at hotherHeld
        obtain ⟨order, hget, hhold, hprogress⟩ := hheld.mp hotherHeld
        exact hrespects hauto hcandidate order hget hhold (by rw [hfind]; exact some_ne_none _)
          hprogress
    · refine iff_of_true ?_ (fun h' => absurd h' hauto)
      apply keepsHeld_of_mem
      intro other hmem
      rw [hstep, releaseSellerHold, hfind]
      dsimp only
      rw [if_neg hauto]
      split
      · exact hmem
      · exact hmem

theorem keepsHeld_iff (h : HoldInv s) (op : HoldOp) : KeepsHeld env s op ↔ RespectsHold env s op := by
  cases op with
  | tick | findExpiredHolds => exact iff_of_true (keepsHeld_of_mem fun _ hmem => hmem) trivial
  | settleDeliveredOrder orderId failsAt => exact iff_of_true (keepsHeld_settle orderId failsAt) trivial
  | processPayout payoutId => exact keepsHeld_process h payoutId
  | bulkProcessPayouts payoutIds payoutType limit => exact keepsHeld_bulk h payoutIds payoutType limit
  | createReturnRequest customerId orderId payload updatedAt =>
    refine iff_of_true ?_ trivial
    apply keepsHeld_of_mem
    intro payout hmem
    show payout ∈ (commit s.db
      (createReturnRequest s.db customerId orderId payload updatedAt s.now)).payouts.rows
    cases hr : createReturnRequest s.db customerId orderId payload updatedAt s.now with
    | error e => exact hmem
    | ok r =>
      obtain ⟨db', result⟩ := r
      obtain ⟨-, -, order, items, selectedItems, -, -, -, -, rfl, rfl⟩ :=
        createReturnRequest_eq_ok.mp hr
      exact hmem
  | releaseHold orderId => exact keepsHeld_release h orderId

end Step

/-! ## Main result -/

/-- Along a run that starts without payouts, held payouts stay as they are exactly when
every step respects the hold. -/
theorem held_payouts_iff (env : Env) (orders : Table Order.id)
    (hsettled : ∀ order ∈ orders.rows, order.settlementStatus.sellerPayout = .hold →
      order.financeFlags.deliveredSettlementApplied = true) (now : Date) (ops : List HoldOp) :
    Guarded (holdStep env) (KeepsHeld env) ⟨Db.fresh orders, now, []⟩ ops
      ↔ Guarded (holdStep env) (RespectsHold env) ⟨Db.fresh orders, now, []⟩ ops := by
  have hstep : ∀ s op, HoldInv s → (KeepsHeld env s op ↔ RespectsHold env s op) := by
    intro s op h
    exact keepsHeld_iff h op
  exact guarded_congr (holdInv_step env) hstep (holdInv_fresh hsettled now) ops

/-- The release job, run after the window with no return request: the condition is met. -/
theorem held_payouts_released :
    Guarded (holdStep {}) (KeepsHeld {}) ⟨codStore, 0, []⟩
      [.settleDeliveredOrder 1 none, .tick 120000, .findExpiredHolds, .releaseHold 1] := by
  have hstatus : ((exec (holdStep {}) ⟨codStore, 0, []⟩
      [.settleDeliveredOrder 1 none, .tick 120000, .findExpiredHolds]).db.orders.get? 1).map
        Order.returnStatus = some .none := by decide +kernel
  refine (held_payouts_iff {} ⟨[codOrder], by decide⟩ (by decide) 0 _).mpr
    ⟨trivial, trivial, trivial, ?_, trivial⟩
  intro _ _ order hget _ _ hprogress
  have hnone : some order.returnStatus = some .none := by
    rw [← hstatus]
    exact (congrArg (Option.map Order.returnStatus) hget).symm
  exact hprogress.1 (some.inj hnone)

/-- The batch job right after the settlement pays the seller within the return window. -/
theorem held_payout_paid_by_batch :
    ¬ Guarded (holdStep {}) (KeepsHeld {}) ⟨codStore, 0, []⟩
      [.settleDeliveredOrder 1 none, .bulkProcessPayouts [] none 25] := by
  rintro ⟨-, hkeeps, -⟩
  let s := holdStep {} ⟨codStore, 0, []⟩ (.settleDeliveredOrder 1 none)
  let payout : Payout := ⟨0, .seller, 7, 8000, .pending, [1], none⟩
  have hget : s.db.payouts.get? 0 = some payout := by decide +kernel
  have horder : (s.db.orders.get? 1).map (fun order => decide (order.settlementStatus.sellerPayout
      = .hold ∧ holdSellerPayout order s.now)) = some true := by decide +kernel
  have hafter : ((holdStep {} s (.bulkProcessPayouts [] none 25)).db.payouts.get? 0).map
      Payout.status = some .completed := by decide +kernel
  obtain ⟨order, horder, hhold⟩ := map_eq_some_iff.mp horder
  obtain ⟨hhold, hopen⟩ := of_decide_eq_true hhold
  have hmem := hkeeps payout (mem_of_get? hget) (.inl rfl)
    ⟨rfl, 1, List.mem_singleton_self 1, order, horder, hhold, .inl hopen⟩
  rw [show (0 : ObjectId) = payout.id from rfl, get?_of_mem hmem] at hafter
  cases hafter

/-- Along every run a payout is for one order and not negative, and none that the ledger has processed
is live. -/
theorem processed_payouts_not_live (env : Env) (orders : Table Order.id)
    (hsettled : ∀ order ∈ orders.rows, order.settlementStatus.sellerPayout = .hold →
      order.financeFlags.deliveredSettlementApplied = true) (now : Date) (ops : List HoldOp) :
    Along (holdStep env) (fun s => PayoutsInv s.db) ⟨Db.fresh orders, now, []⟩ ops :=
  (along_of_step (holdInv_step env) (holdInv_fresh hsettled now) ops).mono (fun _ h => h.payouts)

theorem processed_payouts_not_live_batch :
    Along (holdStep {}) (fun s => PayoutsInv s.db) ⟨codStore, 0, []⟩
      [.settleDeliveredOrder 1 none, .bulkProcessPayouts [] none 25] :=
  processed_payouts_not_live {} ⟨[codOrder], by decide⟩ (by decide) 0 _

end DiscountBazar.Finance
