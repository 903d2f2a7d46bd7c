/-
What a rider gains on a delivered COD order.

The rider's commission is kept back from the remittable cash when the cash is collected,
and it is queued as a payout when the delivery is settled. Each operation is right on its
own; the main result says when a whole run pays the rider once: exactly when the cash
handed over covers the commission and no settlement queues the payout.
-/
import DiscountBazar.Finance.Settlement
import DiscountBazar.Finance.CodCash

namespace DiscountBazar.Finance

open Transaction Runs Table List Option

/-! ## Operations -/

inductive DeliveryOp where
  | settleDeliveredOrder (orderId : ObjectId) (now : Date) (failsAt : Option SettleCall)
  | cod (op : CodOp)

def deliveryStep (env : Env) (db : Db) : DeliveryOp → Db
  | .settleDeliveredOrder orderId now failsAt =>
    (DiscountBazar.Finance.settleDeliveredOrder env db orderId now failsAt).2
  | .cod op => codStep db op

@[simp] theorem deliveryStep_settle (env : Env) (db : Db) (orderId : ObjectId) (now : Date)
    (failsAt : Option SettleCall) :
    deliveryStep env db (.settleDeliveredOrder orderId now failsAt)
      = (settleDeliveredOrder env db orderId now failsAt).2 := rfl

/-! ## The gain and the condition -/

def grossCollected (db : Db) (orderId : ObjectId) : List ℤ :=
  db.auditLog.filterMap (fun row =>
    match row with
    | .codMarkedCollected id amountGross _ _ _ => if id = orderId then some amountGross else none
    | _ => none)

def riderPayouts (db : Db) (orderId : ObjectId) : List Payout :=
  db.payouts.rows.filter (fun payout =>
    decide (orderId ∈ payout.relatedOrderIds ∧ payout.payoutType = .deliveryPartner ∧
      payout.status ≠ .cancelled))

/-- What the rider has gained on an order: the cash collected from the customer less the
cash remitted, and the payouts queued. -/
def riderGain (db : Db) (order : Order) : ℤ :=
  (grossCollected db order.id).sum - order.paymentBreakdown.codRemittedAmount
    + ((riderPayouts db order.id).map Payout.amount).sum

def SettleCall.AfterPayouts : SettleCall → Prop
  | .findOrder | .sellerPayout _ | .riderPayout _ => False
  | _ => True

/-- The operation does not pay the rider of this order a second way: a collection brings
in at least the commission, and a settlement queues no rider payout (none is due, or a
call fails before it is committed). -/
def PaysOnce (orderId : ObjectId) (db : Db) : DeliveryOp → Prop
  | .settleDeliveredOrder id _ failsAt => id = orderId →
      ∀ order, db.orders.get? id = some order → Settleable order →
        QueuesPayout db order .deliveryPartner →
        ∃ call, failsAt = some call ∧ SettleReached db order call ∧ ¬ call.AfterPayouts
  | .cod (.handleCodOrderFinance id amount deliveryPartnerId) => id = orderId →
      ∀ order partnerId, db.orders.get? id = some order →
        Collects order amount deliveryPartnerId partnerId →
        order.paymentBreakdown.riderPayoutTotal ≤ codAmountGross order amount
  | .cod (.reconcileCodCash _ _ _ _) => True

/-! ## Invariant -/

/-- The COD side of an order and what has been recorded for it: nothing yet, or one
collection whose remittable part is what the order tracks. -/
def CodRecord (order : Order) (gross : List ℤ) : Prop :=
  (FreshCod order ∧ gross = []) ∨
    (order.financeFlags.codMarkedCollected = true ∧ ∃ g, gross = [g] ∧ 0 < g ∧
      order.paymentBreakdown.codCollectedAmount = codNet order g ∧
      order.paymentBreakdown.codPendingAmount
        = order.paymentBreakdown.codCollectedAmount - order.paymentBreakdown.codRemittedAmount)

/-- At most one rider payout, of the commission. -/
def RiderRecord (order : Order) (payouts : List Payout) : Prop :=
  payouts = [] ∨ ∃ payout, payouts = [payout] ∧ 0 < order.paymentBreakdown.riderPayoutTotal ∧
    payout.amount = order.paymentBreakdown.riderPayoutTotal

structure RiderInv (db : Db) : Prop where
  cod : ∀ order ∈ db.orders.rows, CodRecord order (grossCollected db order.id)
  rider : ∀ order ∈ db.orders.rows, RiderRecord order (riderPayouts db order.id)

/-- Nothing has paid the rider of the order a second way so far. -/
def PaidOnce (orderId : ObjectId) (db : Db) : Prop :=
  ∀ order, db.orders.get? orderId = some order →
    (∀ g ∈ grossCollected db orderId, order.paymentBreakdown.riderPayoutTotal ≤ g) ∧
      riderPayouts db orderId = []

variable {orderId : ObjectId}

theorem riderGain_eq_iff {db : Db} (h : RiderInv db) {order : Order}
    (hget : db.orders.get? orderId = some order)
    (hcollected : order.financeFlags.codMarkedCollected = true)
    (hremitted : order.paymentBreakdown.codPendingAmount = 0) :
    riderGain db order = order.paymentBreakdown.riderPayoutTotal ↔ PaidOnce orderId db := by
  have hmem := mem_of_get? hget
  have hid : order.id = orderId := key_of_get? hget
  have hrider := h.rider order hmem
  unfold riderGain
  rw [hid] at hrider ⊢
  rcases h.cod order hmem with ⟨hfresh, -⟩ | ⟨-, g, hgross, hpos, hcod, hpending⟩
  · rw [hfresh.1] at hcollected
    cases hcollected
  · rw [hid] at hgross
    have hpaid : PaidOnce orderId db ↔
        order.paymentBreakdown.riderPayoutTotal ≤ g ∧ riderPayouts db orderId = [] := by
      unfold PaidOnce
      rw [hget, hgross]
      simp
    rw [hpaid, hgross]
    unfold codNet at hcod
    -- fully remitted: what was remitted is the whole net amount
    rcases hrider with hnone | ⟨payout, hone, htotal, hamount⟩
    · rw [hnone]
      simp only [sum_cons, sum_nil, map_nil, and_true]
      omega
    · rw [hone]
      simp only [sum_cons, sum_nil, map_cons, map_nil, hamount,
        cons_ne_nil, and_false, iff_false]
      omega

/-! ## What each part of a step records -/

variable {db db' : Db}

theorem grossCollected_congr (h : db'.auditLog = db.auditLog) (orderId : ObjectId) :
    grossCollected db' orderId = grossCollected db orderId := by
  unfold grossCollected
  rw [h]

theorem riderPayouts_congr (h : db'.payouts = db.payouts) (orderId : ObjectId) :
    riderPayouts db' orderId = riderPayouts db orderId := by
  unfold riderPayouts
  rw [h]

section Parts

variable (db : Db) (order : Order)

theorem grossCollected_collect (partnerId : ObjectId) (gross : ℤ) (orderId : ObjectId) :
    grossCollected (db.collectCod order partnerId gross) orderId
      = grossCollected db orderId ++ if order.id = orderId then [gross] else [] := by
  unfold grossCollected
  simp only [Db.collectCod, Db.saveOrder_auditLog, Db.audit_auditLog, Db.appendLedger_auditLog,
    Db.saveWallet_auditLog, filterMap_append]
  congr 1
  by_cases h : order.id = orderId
  · simp [h]
  · simp [h]

theorem grossCollected_remit (partnerId : ObjectId) (requested : ℤ) (now : Date)
    (orderId : ObjectId) :
    grossCollected (db.remitCod order partnerId requested now) orderId
      = grossCollected db orderId := by
  unfold grossCollected
  simp only [Db.remitCod, Db.remitWallets, Db.saveOrder_auditLog, Db.audit_auditLog,
    Db.appendLedger_auditLog, Db.saveWallet_auditLog, filterMap_append]
  simp

theorem grossCollected_earning (orderId : ObjectId) :
    grossCollected (db.creditEarning order) orderId = grossCollected db orderId := by
  unfold Db.creditEarning
  split
  · unfold grossCollected
    simp only [Db.audit_auditLog, Db.appendLedger_auditLog, filterMap_append]
    simp
  · rfl

theorem settlePayout_frame (payoutType : PayoutType) :
    (db.settlePayout order payoutType).orders = db.orders ∧
      (db.settlePayout order payoutType).auditLog = db.auditLog := by
  unfold Db.settlePayout
  split
  · exact ⟨rfl, rfl⟩
  · split <;> exact ⟨rfl, rfl⟩

theorem creditEarning_frame :
    (db.creditEarning order).orders = db.orders ∧
      (db.creditEarning order).payouts = db.payouts := by
  unfold Db.creditEarning
  split <;> exact ⟨rfl, rfl⟩

def queuedRiderPayout : List Payout :=
  match order.deliveryBoy with
  | none => []
  | some id =>
    if QueuesPayout db order .deliveryPartner then
      [db.newPayout order.id .deliveryPartner id order.paymentBreakdown.riderPayoutTotal]
    else []

theorem riderPayouts_settleRider (orderId : ObjectId) :
    riderPayouts (db.settlePayout order .deliveryPartner) orderId
      = riderPayouts db orderId
        ++ if order.id = orderId then queuedRiderPayout db order else [] := by
  have hb : PayoutType.deliveryPartner.beneficiary order = order.deliveryBoy := rfl
  unfold Db.settlePayout queuedRiderPayout
  rw [hb]
  cases order.deliveryBoy with
  | none => simp
  | some id =>
    by_cases hq : QueuesPayout db order .deliveryPartner
    · have hfresh := Db.newPayout_id_notMem db order.id .deliveryPartner id
        (PayoutType.deliveryPartner.total order)
      simp only [if_pos hq]
      unfold riderPayouts
      rw [Db.queuePayout_payouts, rows_insert hfresh, filter_append]
      congr 1
      by_cases h : order.id = orderId
      · simp [Db.newPayout, h, PayoutType.total]
      · have h' : ¬ orderId = order.id := fun he => h he.symm
        simp [Db.newPayout, h, h']
    · simp [if_neg hq]

theorem riderPayouts_settleSeller (orderId : ObjectId) :
    riderPayouts (db.settlePayout order .seller) orderId = riderPayouts db orderId := by
  unfold Db.settlePayout
  split
  · rfl
  · rename_i id hid
    split
    · have hfresh := Db.newPayout_id_notMem db order.id .seller id (PayoutType.seller.total order)
      unfold riderPayouts
      rw [Db.queuePayout_payouts, rows_insert hfresh, filter_append]
      simp [Db.newPayout]
    · rfl

theorem hasPayout_rider :
    hasPayout db order .deliveryPartner = false ↔ riderPayouts db order.id = [] := by
  unfold hasPayout findExistingPayout riderPayouts
  rw [isSome_eq_false_iff, isNone_iff_eq_none, find?_eq_none,
    filter_eq_nil_iff]

theorem queuedRiderPayout_ne_nil :
    queuedRiderPayout db order ≠ [] ↔ QueuesPayout db order .deliveryPartner := by
  unfold queuedRiderPayout
  cases hrider : order.deliveryBoy with
  | none =>
    have hnot : ¬ QueuesPayout db order .deliveryPartner := fun hq => hq.1.1 hrider
    simp [hnot]
  | some id =>
    by_cases hq : QueuesPayout db order .deliveryPartner
    · simp [hq]
    · simp [hq]

end Parts

/-! ## Steps -/

/-- Saving one order's new row, with both its records in shape and every other record
untouched, keeps the invariant. -/
theorem RiderInv.save (h : RiderInv db) (order order' : Order) (hid : order'.id = order.id)
    (horders : db'.orders = db.orders.set order')
    (hgross : ∀ id, id ≠ order.id → grossCollected db' id = grossCollected db id)
    (hpayouts : ∀ id, id ≠ order.id → riderPayouts db' id = riderPayouts db id)
    (hcod : CodRecord order' (grossCollected db' order.id))
    (hrider : RiderRecord order' (riderPayouts db' order.id)) : RiderInv db' := by
  have hrow : ∀ o ∈ db'.orders.rows, (o ∈ db.orders.rows ∧ o.id ≠ order.id) ∨ o = order' := by
    intro o ho
    rw [horders] at ho
    rcases mem_set.mp ho with ⟨ho, hne⟩ | ⟨rfl, -⟩
    · rw [hid] at hne
      exact .inl ⟨ho, hne⟩
    · exact .inr rfl
  constructor
  · intro o ho
    rcases hrow o ho with ⟨ho, hne⟩ | rfl
    · rw [hgross o.id hne]
      exact h.cod o ho
    · rw [hid]
      exact hcod
  · intro o ho
    rcases hrow o ho with ⟨ho, hne⟩ | rfl
    · rw [hpayouts o.id hne]
      exact h.rider o ho
    · rw [hid]
      exact hrider

theorem CodRecord.congr {order order' : Order} {gross : List ℤ} (h : CodRecord order gross)
    (hb : order'.paymentBreakdown = order.paymentBreakdown)
    (hf : order'.financeFlags.codMarkedCollected = order.financeFlags.codMarkedCollected) :
    CodRecord order' gross := by
  unfold CodRecord FreshCod codNet at *
  rw [hb, hf]
  exact h

theorem RiderRecord.congr {order order' : Order} {payouts : List Payout}
    (h : RiderRecord order payouts)
    (hb : order'.paymentBreakdown.riderPayoutTotal = order.paymentBreakdown.riderPayoutTotal) :
    RiderRecord order' payouts := by
  unfold RiderRecord at *
  rw [hb]
  exact h

section Steps

variable {db : Db} {orderId : ObjectId} {order : Order}

theorem riderRecord_settleRider (h : RiderInv db) (hmem : order ∈ db.orders.rows) :
    RiderRecord order (riderPayouts (db.settlePayout order .deliveryPartner) order.id) := by
  rw [riderPayouts_settleRider, if_pos rfl]
  by_cases hq : QueuesPayout db order .deliveryPartner
  · have hnone := (hasPayout_rider db order).mp hq.2
    rw [hnone, nil_append]
    unfold queuedRiderPayout
    cases order.deliveryBoy with
    | none => exact .inl rfl
    | some id => exact .inr ⟨_, if_pos hq, hq.1.2.2, rfl⟩
  · have hnil : queuedRiderPayout db order = [] := by
      by_contra hne
      exact hq ((queuedRiderPayout_ne_nil db order).mp hne)
    rw [hnil, append_nil]
    exact h.rider order hmem

theorem RiderInv.settleSeller (h : RiderInv db) : RiderInv (db.settlePayout order .seller) := by
  obtain ⟨horders, haudit⟩ := settlePayout_frame db order .seller
  constructor
  · rw [horders]
    intro o ho
    rw [grossCollected_congr haudit]
    exact h.cod o ho
  · rw [horders]
    intro o ho
    rw [riderPayouts_settleSeller]
    exact h.rider o ho

theorem RiderInv.settleRider (h : RiderInv db) (hmem : order ∈ db.orders.rows) :
    RiderInv (db.settlePayout order .deliveryPartner) := by
  obtain ⟨horders, haudit⟩ := settlePayout_frame db order .deliveryPartner
  constructor
  · rw [horders]
    intro o ho
    rw [grossCollected_congr haudit]
    exact h.cod o ho
  · rw [horders]
    intro o ho
    by_cases hid : order.id = o.id
    · obtain rfl := db.orders.eq_of_key_eq hmem ho hid
      exact riderRecord_settleRider h hmem
    · rw [riderPayouts_settleRider, if_neg hid, append_nil]
      exact h.rider o ho

theorem RiderInv.settlePayouts (h : RiderInv db) (hmem : order ∈ db.orders.rows) :
    RiderInv (db.settlePayouts order) := by
  refine RiderInv.settleRider (RiderInv.settleSeller h) ?_
  rw [(settlePayout_frame db order .seller).1]
  exact hmem

theorem RiderInv.leftBy (h : RiderInv db) (hmem : order ∈ db.orders.rows) (call : SettleCall) :
    RiderInv (db.leftBy order call) := by
  cases call with
  | findOrder | sellerPayout => exact h
  | riderPayout c => exact RiderInv.settleSeller h
  | getAdminWallet | createLedgerEntry | createAuditLog | saveOrder
  | commitTransaction => exact RiderInv.settlePayouts h hmem

theorem RiderInv.settledBy (h : RiderInv db) (hget : db.orders.get? orderId = some order)
    (env : Env) (now : Date) : RiderInv (db.settledBy order env now) := by
  have hmem := mem_of_get? hget
  have hpay := RiderInv.settlePayouts h hmem
  have horders : (db.settlePayouts order).orders = db.orders := by
    rw [Db.settlePayouts, (settlePayout_frame _ _ _).1, (settlePayout_frame _ _ _).1]
  have hsame := sameDues_settled order env now
  have hcod := hsame.codMarkedCollected
  have hframe := creditEarning_frame (db.settlePayouts order) order
  have hgross : ∀ id, grossCollected (db.settledBy order env now) id
      = grossCollected (db.settlePayouts order) id := fun id =>
    grossCollected_earning (db.settlePayouts order) order id
  have hpayouts : ∀ id, riderPayouts (db.settledBy order env now) id
      = riderPayouts (db.settlePayouts order) id := fun id =>
    riderPayouts_congr hframe.2 id
  refine hpay.save order (order.settled env now) hsame.id ?_ (fun id _ => hgross id) (fun id _ => hpayouts id)
    ?_ ?_
  · show ((db.settlePayouts order).creditEarning order).orders.set _ = _
    rw [hframe.1]
  · rw [hgross]
    exact (hpay.cod order (by rw [horders]; exact hmem)).congr hsame.paymentBreakdown hcod
  · rw [hpayouts]
    exact (hpay.rider order (by rw [horders]; exact hmem)).congr
      (by rw [hsame.paymentBreakdown])

theorem RiderInv.collect (h : RiderInv db) (hget : db.orders.get? orderId = some order)
    {amount : Option ℚ} {dp : Option ObjectId} {partnerId : ObjectId}
    (hc : Collects order amount dp partnerId) :
    RiderInv (db.collectCod order partnerId (codAmountGross order amount)) := by
  have hmem := mem_of_get? hget
  refine h.save order (order.cashCollected partnerId (codAmountGross order amount)) rfl rfl
    (fun id hne => ?_) (fun id _ => rfl) ?_ ((h.rider order hmem).congr rfl)
  · rw [grossCollected_collect, if_neg (fun he => hne he.symm), append_nil]
  · rw [grossCollected_collect, if_pos rfl]
    rcases h.cod order hmem with ⟨hfresh, hnil⟩ | ⟨hflag, -⟩
    · rw [hnil, nil_append]
      refine .inr ⟨rfl, codAmountGross order amount, rfl, hc.2.2.2.2, ?_, rfl⟩
      simp only [Order.cashCollected, hfresh.2.1, zero_add]
      rfl
    · rw [hc.2.2.1] at hflag
      cases hflag

theorem RiderInv.remit (h : RiderInv db) (hget : db.orders.get? orderId = some order)
    {amount : ℚ} {dp : Option ObjectId} {partnerId : ObjectId}
    (hr : Remits db order amount dp partnerId) (now : Date) :
    RiderInv (db.remitCod order partnerId (roundCurrency amount) now) := by
  have hmem := mem_of_get? hget
  refine h.save order (order.cashRemitted (roundCurrency amount) now) rfl rfl
    (fun id _ => grossCollected_remit _ _ _ _ _ id) (fun id _ => rfl) ?_ ((h.rider order hmem).congr rfl)
  rw [grossCollected_remit]
  rcases h.cod order hmem with ⟨hfresh, -⟩ | ⟨hflag, g, hgross, hpos, hcod, -⟩
  · obtain ⟨-, -, hpos, hle, -⟩ := hr
    rw [hfresh.2.1, hfresh.2.2] at hle
    omega
  · exact .inr ⟨hflag, g, hgross, hpos, hcod, rfl⟩

end Steps

theorem riderInv_step (env : Env) (db : Db) (op : DeliveryOp) (h : RiderInv db) :
    RiderInv (deliveryStep env db op) := by
  cases op with
  | settleDeliveredOrder orderId now failsAt =>
    rcases settleDeliveredOrder_cases env db orderId now failsAt with
      ⟨heq, -⟩ | ⟨order, hget, -, ⟨call, -, -, heq⟩ | ⟨-, heq⟩⟩
    · rw [deliveryStep_settle, heq]
      exact h
    · rw [deliveryStep_settle, heq]
      exact RiderInv.leftBy h (mem_of_get? hget) call
    · rw [deliveryStep_settle, heq]
      exact RiderInv.settledBy h hget env now
  | cod op =>
    show RiderInv (codStep db op)
    rcases codStep_cases db op with heq | ⟨_, _, _, order, partnerId, -, hget, hc, heq⟩ |
      ⟨_, _, _, now, order, partnerId, -, hget, hr, heq⟩
    · rw [heq]
      exact h
    · rw [heq]
      exact RiderInv.collect h hget hc
    · rw [heq]
      exact RiderInv.remit h hget hr now

/-! ## What a step records for one order -/

/-- From `db` to `db'` the collections `gs` and the rider payouts `ps` are added for the
order, and its commission is the same. -/
structure Records (orderId : ObjectId) (db db' : Db) (gs : List ℤ) (ps : List Payout) : Prop where
  total : (db'.orders.get? orderId).map (fun o => o.paymentBreakdown.riderPayoutTotal)
    = (db.orders.get? orderId).map (fun o => o.paymentBreakdown.riderPayoutTotal)
  gross : grossCollected db' orderId = grossCollected db orderId ++ gs
  payouts : riderPayouts db' orderId = riderPayouts db orderId ++ ps

theorem Records.refl (orderId : ObjectId) (db : Db) : Records orderId db db [] [] :=
  ⟨rfl, (append_nil _).symm, (append_nil _).symm⟩

theorem Records.trans {db₁ db₂ db₃ : Db} {gs gs' : List ℤ} {ps ps' : List Payout}
    (h : Records orderId db₁ db₂ gs ps) (h' : Records orderId db₂ db₃ gs' ps') :
    Records orderId db₁ db₃ (gs ++ gs') (ps ++ ps') := by
  refine ⟨h'.total.trans h.total, ?_, ?_⟩
  · rw [h'.gross, h.gross, append_assoc]
  · rw [h'.payouts, h.payouts, append_assoc]

theorem Records.paidOnce_iff {gs : List ℤ} {ps : List Payout} (h : Records orderId db db' gs ps) :
    PaidOnce orderId db' ↔ PaidOnce orderId db ∧ ∀ order, db.orders.get? orderId = some order →
      (∀ g ∈ gs, order.paymentBreakdown.riderPayoutTotal ≤ g) ∧ ps = [] := by
  have htotal := h.total
  unfold PaidOnce
  rw [h.gross, h.payouts]
  cases hget : db.orders.get? orderId with
  | none =>
    rw [hget] at htotal
    have hget' : db'.orders.get? orderId = none := map_eq_none_iff.mp htotal
    simp [hget']
  | some order =>
    rw [hget] at htotal
    obtain ⟨order', hget', hsame⟩ := map_eq_some_iff.mp htotal
    rw [hget']
    simp only [some.injEq, forall_eq', hsame, mem_append, append_eq_nil_iff]
    constructor
    · rintro ⟨hg, hp⟩
      exact ⟨⟨fun g hm => hg g (.inl hm), hp.1⟩, fun g hm => hg g (.inr hm), hp.2⟩
    · rintro ⟨⟨hg, hp⟩, hg', hp'⟩
      exact ⟨fun g hm => hm.elim (hg g) (hg' g), hp, hp'⟩

section Records

variable {db : Db} {order : Order} (orderId : ObjectId)

variable {id : ObjectId}

/-- Saving a row with the same commission adds nothing. -/
theorem records_save (hget : db.orders.get? id = some order) {db' : Db} (order' : Order)
    (hid : order'.id = order.id) (horders : db'.orders = db.orders.set order')
    (htotal : order'.paymentBreakdown.riderPayoutTotal = order.paymentBreakdown.riderPayoutTotal) :
    (db'.orders.get? orderId).map (fun o => o.paymentBreakdown.riderPayoutTotal)
      = (db.orders.get? orderId).map (fun o => o.paymentBreakdown.riderPayoutTotal) := by
  have hself := (mem_of_getOrder hget).2
  rw [horders]
  by_cases h : order'.id = orderId
  · rw [← h, get?_set_self (by rw [hid]; exact hself), hid, hself, map_some,
      map_some, htotal]
  · rw [get?_set_ne h]

theorem records_collect (hget : db.orders.get? id = some order) (partnerId : ObjectId) (gross : ℤ) :
    Records orderId db (db.collectCod order partnerId gross)
      (if order.id = orderId then [gross] else []) [] := by
  refine ⟨records_save orderId hget (order.cashCollected partnerId gross) rfl rfl rfl,
    grossCollected_collect db order partnerId gross orderId, ?_⟩
  rw [append_nil]
  rfl

theorem records_remit (hget : db.orders.get? id = some order) (partnerId : ObjectId) (requested : ℤ)
    (now : Date) :
    Records orderId db (db.remitCod order partnerId requested now) [] [] := by
  refine ⟨records_save orderId hget (order.cashRemitted requested now) rfl rfl rfl,
    ?_, ?_⟩
  · rw [append_nil, grossCollected_remit]
  · rw [append_nil]
    rfl

theorem records_settleSeller : Records orderId db (db.settlePayout order .seller) [] [] := by
  obtain ⟨horders, haudit⟩ := settlePayout_frame db order .seller
  refine ⟨by rw [horders], ?_, ?_⟩
  · rw [append_nil, grossCollected_congr haudit]
  · rw [append_nil, riderPayouts_settleSeller]

theorem records_settleRider :
    Records orderId db (db.settlePayout order .deliveryPartner) []
      (if order.id = orderId then queuedRiderPayout db order else []) := by
  obtain ⟨horders, haudit⟩ := settlePayout_frame db order .deliveryPartner
  refine ⟨by rw [horders], ?_, riderPayouts_settleRider db order orderId⟩
  rw [append_nil, grossCollected_congr haudit]

theorem records_settlePayouts (db : Db) (order : Order) :
    ∃ ps, Records orderId db (db.settlePayouts order) [] ps ∧
      (ps ≠ [] ↔ order.id = orderId ∧ QueuesPayout db order .deliveryPartner) := by
  refine ⟨_, (records_settleSeller orderId).trans
    (records_settleRider orderId), ?_⟩
  rw [nil_append]
  by_cases h : order.id = orderId
  · rw [if_pos h, queuedRiderPayout_ne_nil, queuesPayout_settleSeller]
    exact (and_iff_right h).symm
  · rw [if_neg h]
    exact iff_of_false (fun hne => hne rfl) (fun hq => h hq.1)

theorem records_settledBy (hget : db.orders.get? id = some order) (env : Env) (now : Date) :
    ∃ ps, Records orderId db (db.settledBy order env now) [] ps ∧
      (ps ≠ [] ↔ order.id = orderId ∧ QueuesPayout db order .deliveryPartner) := by
  obtain ⟨ps, hrec, hps⟩ := records_settlePayouts orderId db order
  have hframe := creditEarning_frame (db.settlePayouts order) order
  have hget' : (db.settlePayouts order).orders.get? id = some order := by
    rw [Db.settlePayouts, (settlePayout_frame _ _ _).1, (settlePayout_frame _ _ _).1]
    exact hget
  have hsame := sameDues_settled order env now
  have hclose : Records orderId (db.settlePayouts order) (db.settledBy order env now) [] [] := by
    refine ⟨records_save orderId hget' (order.settled env now) hsame.id ?_ (by rw [hsame.paymentBreakdown]), ?_, ?_⟩
    · show ((db.settlePayouts order).creditEarning order).orders.set _ = _
      rw [hframe.1]
    · rw [append_nil]
      exact grossCollected_earning (db.settlePayouts order) order orderId
    · rw [append_nil]
      exact riderPayouts_congr hframe.2 orderId
  have hboth := hrec.trans hclose
  simp only [append_nil] at hboth
  exact ⟨ps, hboth, hps⟩

theorem records_leftBy (db : Db) (order : Order) (call : SettleCall) :
    ∃ ps, Records orderId db (db.leftBy order call) [] ps ∧
      (ps ≠ [] ↔ call.AfterPayouts ∧ order.id = orderId ∧
        QueuesPayout db order .deliveryPartner) := by
  have hafter : call.AfterPayouts → db.leftBy order call = db.settlePayouts order := by
    intro h
    cases call <;> first | rfl | exact absurd h id
  by_cases h : call.AfterPayouts
  · obtain ⟨ps, hrec, hps⟩ := records_settlePayouts orderId db order
    rw [hafter h]
    exact ⟨ps, hrec, hps.trans (and_iff_right h).symm⟩
  · refine ⟨[], ?_, iff_of_false (fun hne => hne rfl) (fun hq => h hq.1)⟩
    cases call with
    | findOrder | sellerPayout => exact Records.refl orderId db
    | riderPayout c => exact records_settleSeller orderId
    | getAdminWallet | createLedgerEntry | createAuditLog | saveOrder
    | commitTransaction => exact absurd trivial h

end Records

/-- A settlement keeps the rider paid once exactly when it queues no payout for it. -/
theorem paidOnce_settle (env : Env) (orderId : ObjectId) (db : Db) (id : ObjectId) (now : Date)
    (failsAt : Option SettleCall) (h : PaidOnce orderId db) :
    PaidOnce orderId (deliveryStep env db (.settleDeliveredOrder id now failsAt)) ↔
      PaysOnce orderId db (.settleDeliveredOrder id now failsAt) := by
  rcases settleDeliveredOrder_cases env db id now failsAt with
    ⟨heq, hnone⟩ | ⟨order, hget, hs, hcase⟩
  · rw [deliveryStep_settle, heq]
    exact iff_of_true h (fun _ order hget hs => absurd hs (hnone order hget))
  · have hid : order.id = id := key_of_get? hget
    -- the payouts this settlement adds for the order, if any
    have hrec : ∃ ps, Records orderId db
        (deliveryStep env db (.settleDeliveredOrder id now failsAt)) [] ps ∧
        (ps ≠ [] ↔ (∀ call, failsAt = some call → SettleReached db order call →
          call.AfterPayouts) ∧ order.id = orderId ∧ QueuesPayout db order .deliveryPartner) := by
      rcases hcase with ⟨call, rfl, hr, heq⟩ | ⟨hok, heq⟩
      · obtain ⟨ps, hrec, hps⟩ := records_leftBy orderId db order call
        refine ⟨ps, by rw [deliveryStep_settle, heq]; exact hrec, hps.trans (and_congr_left (fun _ => ?_))⟩
        constructor
        · rintro hafter c ⟨⟩ -
          exact hafter
        · intro hall
          exact hall call rfl hr
      · obtain ⟨ps, hrec, hps⟩ := records_settledBy orderId hget env now
        refine ⟨ps, by rw [deliveryStep_settle, heq]; exact hrec, hps.trans (and_iff_right ?_).symm⟩
        exact fun call hc hr => absurd hr (hok call hc)
    obtain ⟨ps, hrec, hps⟩ := hrec
    rw [hrec.paidOnce_iff]
    constructor
    · rintro ⟨-, hadded⟩ rfl order' hget' hs' hq
      obtain rfl : order = order' := some.inj (hget.symm.trans hget')
      by_contra hnot
      refine (hps.mpr ⟨fun call hc hr => ?_, hid, hq⟩) (hadded order hget).2
      by_contra hbefore
      exact hnot ⟨call, hc, hr, hbefore⟩
    · intro hop
      refine ⟨h, fun order' hget' => ⟨by simp, ?_⟩⟩
      by_contra hne
      obtain ⟨hall, hid', hq⟩ := hps.mp hne
      obtain ⟨call, hc, hr, hbefore⟩ := hop (hid.symm.trans hid') order hget hs hq
      exact hbefore (hall call hc hr)

theorem paidOnce_cod (orderId : ObjectId) (db : Db) (op : CodOp) (h : PaidOnce orderId db) :
    PaidOnce orderId (codStep db op) ↔ PaysOnce orderId db (.cod op) := by
  cases op with
  | handleCodOrderFinance id amount dp =>
    by_cases hcollect : ∃ order partnerId, db.orders.get? id = some order ∧
        Collects order amount dp partnerId
    · obtain ⟨order, partnerId, hget, hc⟩ := hcollect
      have hid : order.id = id := key_of_get? hget
      rw [codStep_collects hget hc, (records_collect orderId hget partnerId _).paidOnce_iff]
      constructor
      · rintro ⟨-, hadded⟩ rfl order' partnerId' hget' -
        obtain rfl : order = order' := some.inj (hget.symm.trans hget')
        refine (hadded order hget).1 _ ?_
        rw [if_pos hid]
        exact mem_singleton_self _
      · intro hop
        refine ⟨h, fun order' hget' => ⟨fun g hg => ?_, rfl⟩⟩
        by_cases hne : order.id = orderId
        · rw [if_pos hne, mem_singleton] at hg
          have hsame : id = orderId := hid.symm.trans hne
          rw [← hsame] at hget'
          obtain rfl : order = order' := some.inj (hget.symm.trans hget')
          rw [hg]
          exact hop hsame order partnerId hget hc
        · rw [if_neg hne] at hg
          exact absurd hg not_mem_nil
    · have hstay : codStep db (.handleCodOrderFinance id amount dp) = db := by
        rcases codStep_cases db (.handleCodOrderFinance id amount dp) with
          heq | ⟨_, _, _, order, partnerId, ⟨⟩, hget, hc, -⟩ | ⟨_, _, _, _, _, _, ⟨⟩, -⟩
        · exact heq
        · exact absurd ⟨order, partnerId, hget, hc⟩ hcollect
      rw [hstay]
      refine iff_of_true h (fun _ order partnerId hget hc => ?_)
      exact absurd ⟨order, partnerId, hget, hc⟩ hcollect
  | reconcileCodCash id amount dp now =>
    refine iff_of_true ?_ trivial
    rcases codStep_cases db (.reconcileCodCash id amount dp now) with
      heq | ⟨_, _, _, _, _, ⟨⟩, -⟩ | ⟨_, _, _, _, order, partnerId, -, hget, -, heq⟩
    · rw [heq]
      exact h
    · rw [heq, (records_remit orderId hget partnerId _ _).paidOnce_iff]
      exact ⟨h, fun _ _ => ⟨by simp, rfl⟩⟩

theorem records_step (env : Env) (orderId : ObjectId) (db : Db) (op : DeliveryOp) :
    ∃ gs ps, Records orderId db (deliveryStep env db op) gs ps := by
  cases op with
  | settleDeliveredOrder id now failsAt =>
    rcases settleDeliveredOrder_cases env db id now failsAt with
      ⟨heq, -⟩ | ⟨order, hget, -, ⟨call, -, -, heq⟩ | ⟨-, heq⟩⟩
    · rw [deliveryStep_settle, heq]
      exact ⟨[], [], Records.refl orderId db⟩
    · obtain ⟨ps, hrec, -⟩ := records_leftBy orderId db order call
      rw [deliveryStep_settle, heq]
      exact ⟨[], ps, hrec⟩
    · obtain ⟨ps, hrec, -⟩ := records_settledBy orderId hget env now
      rw [deliveryStep_settle, heq]
      exact ⟨[], ps, hrec⟩
  | cod op =>
    show ∃ gs ps, Records orderId db (codStep db op) gs ps
    rcases codStep_cases db op with heq | ⟨_, _, _, order, partnerId, -, hget, -, heq⟩ |
      ⟨_, _, _, now, order, partnerId, -, hget, -, heq⟩
    · rw [heq]
      exact ⟨[], [], Records.refl orderId db⟩
    · rw [heq]
      exact ⟨_, _, records_collect orderId hget partnerId _⟩
    · rw [heq]
      exact ⟨_, _, records_remit orderId hget partnerId _ now⟩

/-! ## Main result -/

theorem riderInv_fresh {orders : Table Order.id} (h : ∀ order ∈ orders.rows, FreshCod order) :
    RiderInv (Db.fresh orders) :=
  ⟨fun order hmem => .inl ⟨h order hmem, rfl⟩, fun _ _ => .inl rfl⟩

/-- A run of settlements, collections and remittances that ends with the cash of an order
collected and fully remitted has paid its rider the commission, no more and no less,
exactly when every step of it pays the rider once. -/
theorem cod_rider_paid_once_iff (env : Env) (orders : Table Order.id)
    (hfresh : ∀ order ∈ orders.rows, FreshCod order) (ops : List DeliveryOp) (orderId : ObjectId)
    (order : Order)
    (hget : (exec (deliveryStep env) (Db.fresh orders) ops).orders.get? orderId = some order)
    (hcollected : order.financeFlags.codMarkedCollected = true)
    (hremitted : order.paymentBreakdown.codPendingAmount = 0) :
    riderGain (exec (deliveryStep env) (Db.fresh orders) ops) order
        = order.paymentBreakdown.riderPayoutTotal ↔
      Guarded (deliveryStep env) (PaysOnce orderId) (Db.fresh orders) ops := by
  have hinv0 := riderInv_fresh hfresh
  have hinv : RiderInv (exec (deliveryStep env) (Db.fresh orders) ops) :=
    exec_induction (riderInv_step env) hinv0 ops
  have hstart : PaidOnce orderId (Db.fresh orders) := fun _ _ => ⟨by simp [grossCollected], rfl⟩
  have hback : ∀ db op, RiderInv db → PaidOnce orderId (deliveryStep env db op) →
      PaidOnce orderId db := by
    intro db op _ h
    obtain ⟨gs, ps, hrec⟩ := records_step env orderId db op
    exact (hrec.paidOnce_iff.mp h).1
  have hstep : ∀ db op, RiderInv db → PaidOnce orderId db →
      (PaidOnce orderId (deliveryStep env db op) ↔ PaysOnce orderId db op) := by
    intro db op _ h
    cases op with
    | settleDeliveredOrder id now failsAt => exact paidOnce_settle env orderId db id now failsAt h
    | cod op => exact paidOnce_cod orderId db op h
  rw [riderGain_eq_iff hinv hget hcollected hremitted,
    ← along_iff_exec (riderInv_step env) hback hinv0 ops]
  exact along_iff_guarded (fun db op h _ _ => riderInv_step env db op h) hstep hinv0 hstart ops

/-- Along every run an order is collected at most once, its pending cash is what was collected but for
what was remitted, and it has at most one rider payout, of its commission. -/
theorem cod_orders_recorded_once (env : Env) (orders : Table Order.id)
    (hfresh : ∀ order ∈ orders.rows, FreshCod order) (ops : List DeliveryOp) :
    Along (deliveryStep env) (fun db => ∀ order ∈ db.orders.rows,
        CodRecord order (grossCollected db order.id) ∧ RiderRecord order (riderPayouts db order.id))
      (Db.fresh orders) ops :=
  (along_of_step (riderInv_step env) (riderInv_fresh hfresh) ops).mono
    (fun _ h order hmem => ⟨h.cod order hmem, h.rider order hmem⟩)

theorem cod_orders_recorded_once_settled :
    Along (deliveryStep {}) (fun db => ∀ order ∈ db.orders.rows,
        CodRecord order (grossCollected db order.id) ∧ RiderRecord order (riderPayouts db order.id))
      (Db.fresh twoCodOrders)
      [.settleDeliveredOrder 1 0 none, .cod (.handleCodOrderFinance 1 none none)] :=
  cod_orders_recorded_once {} twoCodOrders twoCodOrders_fresh _

private theorem exists_order (db : Db) (orderId : ObjectId) (figures : Bool × ℤ × ℤ × ℤ)
    (h : (db.orders.get? orderId).map (fun order =>
      (order.financeFlags.codMarkedCollected, order.paymentBreakdown.codPendingAmount,
        riderGain db order, order.paymentBreakdown.riderPayoutTotal)) = some figures) :
    ∃ order, db.orders.get? orderId = some order ∧
      order.financeFlags.codMarkedCollected = figures.1 ∧
      order.paymentBreakdown.codPendingAmount = figures.2.1 ∧
      riderGain db order = figures.2.2.1 ∧
      order.paymentBreakdown.riderPayoutTotal = figures.2.2.2 := by
  obtain ⟨order, hget, rfl⟩ := map_eq_some_iff.mp h
  exact ⟨order, hget, rfl, rfl, rfl, rfl⟩

/-- A delivered order of 100 rupees, 10 of them the rider's, collected and remitted
without a settlement: the rider keeps the 10 rupees, so the run meets the condition. -/
theorem cod_rider_paid_once_unsettled :
    Guarded (deliveryStep {}) (PaysOnce 1) (Db.fresh twoCodOrders)
      [.cod (.handleCodOrderFinance 1 none none), .cod (.reconcileCodCash 1 90 none 0)] := by
  obtain ⟨order, hget, hflag, hpending, hgain, htotal⟩ := exists_order
    (exec (deliveryStep {}) (Db.fresh twoCodOrders)
      [.cod (.handleCodOrderFinance 1 none none), .cod (.reconcileCodCash 1 90 none 0)])
    1 (true, 0, 1000, 1000) (by decide +kernel)
  exact (cod_rider_paid_once_iff {} twoCodOrders twoCodOrders_fresh _ 1 order hget hflag
    hpending).mp (hgain.trans htotal.symm)

/-- The same order settled first: the rider keeps 10 rupees of the cash and has a payout of
10 rupees queued. -/
theorem cod_rider_paid_twice :
    ∃ order, (exec (deliveryStep {}) (Db.fresh twoCodOrders)
        [.settleDeliveredOrder 1 0 none, .cod (.handleCodOrderFinance 1 none none),
          .cod (.reconcileCodCash 1 90 none 0)]).orders.get? 1 = some order ∧
      order.financeFlags.codMarkedCollected = true ∧
      order.paymentBreakdown.codPendingAmount = 0 ∧
      riderGain (exec (deliveryStep {}) (Db.fresh twoCodOrders)
        [.settleDeliveredOrder 1 0 none, .cod (.handleCodOrderFinance 1 none none),
          .cod (.reconcileCodCash 1 90 none 0)]) order = 2000 ∧
      order.paymentBreakdown.riderPayoutTotal = 1000 :=
  exists_order _ 1 (true, 0, 2000, 1000) (by decide +kernel)

end DiscountBazar.Finance
