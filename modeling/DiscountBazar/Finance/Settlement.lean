/-
What a settlement writes, call by call.

`settleDeliveredOrder` is read here as five phases: open, the seller's payout, the rider's
payout, the earning, and the save. Each phase gets the lemma that says what it leaves when
no call of it fails, and that it leaves nothing when one does; `settleDeliveredOrder_ok`
and `settleDeliveredOrder_fails` put them together. The last section says exactly which
failures leave something behind.
-/
import DiscountBazar.Finance.OrderFinance

namespace DiscountBazar.Finance

open Transaction Option PayoutType SettleCall

/-! ## Payouts due at delivery -/

def PayoutType.beneficiary : PayoutType → Order → Option ObjectId
  | .seller, order => order.seller
  | .deliveryPartner, order => order.deliveryBoy

def PayoutType.total : PayoutType → Order → ℤ
  | .seller, order => order.paymentBreakdown.sellerPayoutTotal
  | .deliveryPartner, order => order.paymentBreakdown.riderPayoutTotal

def PayoutType.isQueued : PayoutType → Order → Bool
  | .seller, order => order.financeFlags.sellerPayoutQueued
  | .deliveryPartner, order => order.financeFlags.riderPayoutQueued

/-- The settlement calls the payout service for this type. -/
def PayoutDue (payoutType : PayoutType) (order : Order) : Prop :=
  payoutType.beneficiary order ≠ none ∧ payoutType.isQueued order = false ∧
    0 < payoutType.total order

instance (payoutType : PayoutType) : DecidablePred (PayoutDue payoutType) := fun order =>
  inferInstanceAs (Decidable (payoutType.beneficiary order ≠ none ∧
    payoutType.isQueued order = false ∧ 0 < payoutType.total order))

def hasPayout (db : Db) (order : Order) (payoutType : PayoutType) : Bool :=
  (findExistingPayout db order.id payoutType).isSome

def QueuesPayout (db : Db) (order : Order) (payoutType : PayoutType) : Prop :=
  PayoutDue payoutType order ∧ hasPayout db order payoutType = false

instance (db : Db) (order : Order) : DecidablePred (QueuesPayout db order) := fun payoutType =>
  inferInstanceAs (Decidable (PayoutDue payoutType order ∧ hasPayout db order payoutType = false))

def Db.settlePayout (db : Db) (order : Order) (payoutType : PayoutType) : Db :=
  match payoutType.beneficiary order with
  | none => db
  | some id =>
    if QueuesPayout db order payoutType then
      db.queuePayout order.id payoutType id (payoutType.total order)
    else db

def PayoutReached (db : Db) (order : Order) (payoutType : PayoutType) (call : PayoutCall) : Prop :=
  PayoutDue payoutType order ∧ call.Reached (hasPayout db order payoutType)

instance (db : Db) (order : Order) (payoutType : PayoutType) :
    DecidablePred (PayoutReached db order payoutType) := fun call =>
  inferInstanceAs (Decidable (PayoutDue payoutType order ∧
    call.Reached (hasPayout db order payoutType)))

def Order.sellerMarked (order : Order) : Order :=
  if PayoutDue .seller order then
    { order with
      financeFlags := { order.financeFlags with sellerPayoutQueued := true }
      settlementStatus := { order.settlementStatus with sellerPayout := .pending } }
  else if order.seller = none ∨ order.financeFlags.sellerPayoutQueued = true then order
  else
    { order with
      settlementStatus := { order.settlementStatus with sellerPayout := .notApplicable } }

def Order.riderMarked (order : Order) : Order :=
  if PayoutDue .deliveryPartner order then
    { order with
      financeFlags := { order.financeFlags with riderPayoutQueued := true }
      settlementStatus := { order.settlementStatus with riderPayout := .pending } }
  else if order.deliveryBoy ≠ none ∧ order.financeFlags.riderPayoutQueued = true then order
  else
    { order with
      settlementStatus := { order.settlementStatus with riderPayout := .notApplicable } }

variable {db : Db} {order : Order} {payoutType : PayoutType}

variable {failsAt : Option PayoutCall}

theorem createPending_due_ok {id : ObjectId} (hid : payoutType.beneficiary order = some id)
    (hdue : PayoutDue payoutType order)
    (hok : ∀ call, failsAt = some call → ¬ PayoutReached db order payoutType call) :
    ∃ result, createPendingPayoutForOrder db order payoutType (some id)
      (fromPaise (payoutType.total order)) failsAt
        = .ok (db.settlePayout order payoutType, result) := by
  have hpos : 0 < fromPaise (payoutType.total order) := by
    rw [← fromPaise_zero]
    exact fromPaise_lt.mpr hdue.2.2
  have ha : 0 ≤ payoutRoundCurrency (fromPaise (payoutType.total order)) :=
    payoutRoundCurrency_nonneg (le_of_lt hpos)
  have hcalls : ∀ call, failsAt = some call → ¬ call.Reached (hasPayout db order payoutType) :=
    fun call hcall hr => hok call hcall ⟨hdue, hr⟩
  cases hfind : findExistingPayout db order.id payoutType with
  | some existing =>
    have hhas : hasPayout db order payoutType = true := by rw [hasPayout, hfind]; rfl
    have hstay : db.settlePayout order payoutType = db := by
      rw [Db.settlePayout, hid]
      exact if_neg (fun h => Bool.false_ne_true (h.2.symm.trans hhas))
    refine ⟨some existing, (createPendingPayoutForOrder_eq_ok ha).mpr (.inr ⟨id, rfl, hpos,
      .inl ⟨existing, hfind, ?_, hstay, rfl⟩⟩)⟩
    rw [hhas] at hcalls
    exact hcalls
  | none =>
    have hhas : hasPayout db order payoutType = false := by rw [hasPayout, hfind]; rfl
    have hqueue : db.settlePayout order payoutType
        = db.queuePayout order.id payoutType id (payoutType.total order) := by
      rw [Db.settlePayout, hid]
      exact if_pos ⟨hdue, hhas⟩
    refine ⟨some _, (createPendingPayoutForOrder_eq_ok ha).mpr (.inr ⟨id, rfl, hpos,
      .inr ⟨hfind, ?_, ?_, rfl⟩⟩)⟩
    · rw [hhas] at hcalls
      exact hcalls
    · rw [hqueue, payoutRoundCurrency_fromPaise]

variable {call : PayoutCall}

theorem createPending_due_fails (id : ObjectId) (hr : PayoutReached db order payoutType call) :
    ∃ e, createPendingPayoutForOrder db order payoutType (some id)
      (fromPaise (payoutType.total order)) (some call) = .error e := by
  have hpos : 0 < fromPaise (payoutType.total order) := by
    rw [← fromPaise_zero]
    exact fromPaise_lt.mpr hr.1.2.2
  have ha : 0 ≤ payoutRoundCurrency (fromPaise (payoutType.total order)) :=
    payoutRoundCurrency_nonneg (le_of_lt hpos)
  cases hres : createPendingPayoutForOrder db order payoutType (some id)
      (fromPaise (payoutType.total order)) (some call) with
  | error e => exact ⟨e, rfl⟩
  | ok r =>
    exfalso
    have hreach := hr.2
    rcases (createPendingPayoutForOrder_eq_ok ha).mp hres with
      ⟨h | h, -⟩ | ⟨_, -, -, ⟨_, hfind, hok, -⟩ | ⟨hfind, hok, -⟩⟩
    · cases h
    · exact absurd hpos (not_lt.mpr h)
    · rw [hasPayout, hfind] at hreach
      exact hok call rfl hreach
    · rw [hasPayout, hfind] at hreach
      exact hok call rfl hreach

/-! ## The phases -/

theorem settlePayout_notDue (h : ¬ PayoutDue payoutType order) :
    db.settlePayout order payoutType = db := by
  unfold Db.settlePayout
  split
  · rfl
  · exact if_neg (fun hq => h hq.1)

theorem createPendingSellerPayout_ok
    (hok : ∀ call, failsAt = some call → ¬ PayoutReached db order .seller call) :
    createPendingSellerPayout db order failsAt
      = .ok (db.settlePayout order .seller, order.sellerMarked) := by
  unfold createPendingSellerPayout Order.sellerMarked
  by_cases hdue : PayoutDue .seller order
  · obtain ⟨id, hid⟩ := ne_none_iff_exists'.mp hdue.1
    have hid' : order.seller = some id := hid
    have hflag : order.financeFlags.sellerPayoutQueued = false := hdue.2.1
    have htotal : ¬ order.paymentBreakdown.sellerPayoutTotal ≤ 0 := not_le.mpr hdue.2.2
    obtain ⟨result, hcall⟩ := createPending_due_ok hid hdue hok
    rw [total] at hcall
    simp only [hid', hflag, roundCurrency_fromPaise, if_neg htotal, if_pos hdue, hcall]
    rfl
  · rw [if_neg hdue, settlePayout_notDue hdue]
    cases hseller : order.seller with
    | none => simp [pure, Except.pure]
    | some id =>
      cases hflag : order.financeFlags.sellerPayoutQueued with
      | true => simp [pure, Except.pure]
      | false =>
        have htotal : order.paymentBreakdown.sellerPayoutTotal ≤ 0 := by
          by_contra hpos
          exact hdue ⟨by simp [beneficiary, hseller], hflag, not_le.mp hpos⟩
        simp [htotal, pure, Except.pure]

theorem createPendingRiderPayout_ok
    (hok : ∀ call, failsAt = some call → ¬ PayoutReached db order .deliveryPartner call) :
    createPendingRiderPayout db order failsAt
      = .ok (db.settlePayout order .deliveryPartner, order.riderMarked) := by
  unfold createPendingRiderPayout Order.riderMarked
  by_cases hdue : PayoutDue .deliveryPartner order
  · obtain ⟨id, hid⟩ := ne_none_iff_exists'.mp hdue.1
    have hid' : order.deliveryBoy = some id := hid
    have hflag : order.financeFlags.riderPayoutQueued = false := hdue.2.1
    have htotal : ¬ order.paymentBreakdown.riderPayoutTotal ≤ 0 := not_le.mpr hdue.2.2
    obtain ⟨result, hcall⟩ := createPending_due_ok hid hdue hok
    rw [total] at hcall
    simp only [hid', hflag, roundCurrency_fromPaise, if_neg htotal, if_pos hdue, hcall]
    rfl
  · rw [if_neg hdue, settlePayout_notDue hdue]
    cases hrider : order.deliveryBoy with
    | none => simp [pure, Except.pure]
    | some id =>
      cases hflag : order.financeFlags.riderPayoutQueued with
      | true => simp [pure, Except.pure]
      | false =>
        have htotal : order.paymentBreakdown.riderPayoutTotal ≤ 0 := by
          by_contra hpos
          exact hdue ⟨by simp [beneficiary, hrider], hflag, not_le.mp hpos⟩
        simp [htotal, pure, Except.pure]

theorem createPendingSellerPayout_fails (hr : PayoutReached db order .seller call) :
    ∃ e, createPendingSellerPayout db order (some call) = .error e := by
  obtain ⟨id, hid⟩ := ne_none_iff_exists'.mp hr.1.1
  have hid' : order.seller = some id := hid
  have hflag : order.financeFlags.sellerPayoutQueued = false := hr.1.2.1
  have htotal : ¬ order.paymentBreakdown.sellerPayoutTotal ≤ 0 := not_le.mpr hr.1.2.2
  obtain ⟨e, he⟩ := createPending_due_fails id hr
  rw [total] at he
  refine ⟨e, ?_⟩
  unfold createPendingSellerPayout
  simp only [hid', hflag, roundCurrency_fromPaise, if_neg htotal, he]
  rfl

theorem createPendingRiderPayout_fails (hr : PayoutReached db order .deliveryPartner call) :
    ∃ e, createPendingRiderPayout db order (some call) = .error e := by
  obtain ⟨id, hid⟩ := ne_none_iff_exists'.mp hr.1.1
  have hid' : order.deliveryBoy = some id := hid
  have hflag : order.financeFlags.riderPayoutQueued = false := hr.1.2.1
  have htotal : ¬ order.paymentBreakdown.riderPayoutTotal ≤ 0 := not_le.mpr hr.1.2.2
  obtain ⟨e, he⟩ := createPending_due_fails id hr
  rw [total] at he
  refine ⟨e, ?_⟩
  unfold createPendingRiderPayout
  simp only [hid', hflag, roundCurrency_fromPaise, if_neg htotal, he]
  rfl

/-- The platform earning is recognized with a ledger row. -/
def EarningDue (order : Order) : Prop :=
  order.financeFlags.adminEarningCredited = false ∧ order.paymentMode ≠ .cod ∧
    0 < order.paymentBreakdown.platformTotalEarning

instance : DecidablePred EarningDue := fun order =>
  inferInstanceAs (Decidable (order.financeFlags.adminEarningCredited = false ∧
    order.paymentMode ≠ .cod ∧ 0 < order.paymentBreakdown.platformTotalEarning))

def earningRow (order : Order) : LedgerEntry where
  actor := .admin
  type := .adminEarningCredited
  direction := .credit
  amount := order.paymentBreakdown.platformTotalEarning
  orderId := some order.id
  paymentMode := some order.paymentMode

def Db.creditEarning (db : Db) (order : Order) : Db :=
  if EarningDue order then
    (db.appendLedger (earningRow order)).audit
      (.orderDeliveredSettled order.id order.paymentBreakdown.platformTotalEarning)
  else db

def Order.earningMarked (order : Order) : Order :=
  if order.financeFlags.adminEarningCredited then order else order.withAdminEarning

def Order.closed (order : Order) (now : Date) : Order :=
  { order.earningMarked with
    financeFlags := { order.earningMarked.financeFlags with deliveredSettlementApplied := true }
    settlementStatus := computeOverallSettlement order.earningMarked.settlementStatus now }

/-- The calls of the last part of a settlement that are made. -/
def CloseReached (order : Order) : SettleCall → Prop
  | .getAdminWallet | .createLedgerEntry | .createAuditLog => EarningDue order
  | .saveOrder | .commitTransaction => True
  | _ => False

variable {failsAt : Option SettleCall}

theorem creditAdminEarning_notDue (h : ¬ EarningDue order) :
    creditAdminEarning db order failsAt = .ok (db, order.earningMarked) := by
  unfold creditAdminEarning Order.earningMarked
  cases hflag : order.financeFlags.adminEarningCredited with
  | true => rfl
  | false =>
    by_cases hcod : order.paymentMode = .cod
    · simp [hcod, pure, Except.pure]
    · have hle : order.paymentBreakdown.platformTotalEarning ≤ 0 := by
        by_contra hpos
        exact h ⟨hflag, hcod, not_le.mp hpos⟩
      simp [hcod, hle, pure, Except.pure]

/-- And when it does write one. -/
theorem creditAdminEarning_due {db db' : Db} {order order' : Order} (h : EarningDue order) :
    creditAdminEarning db order failsAt = .ok (db', order') ↔
      failsAt ≠ some .getAdminWallet ∧ failsAt ≠ some .createLedgerEntry ∧
        failsAt ≠ some .createAuditLog ∧ db' = db.creditEarning order ∧
        order' = order.earningMarked := by
  obtain ⟨hflag, hcod, hpos⟩ := h
  have hearning : EarningDue order := ⟨hflag, hcod, hpos⟩
  unfold creditAdminEarning Order.earningMarked Db.creditEarning
  simp only [hflag, hcod, roundCurrency_fromPaise, if_neg (not_le.mpr hpos), if_pos hearning,
    attempt_bind_eq_ok, Bool.false_eq_true, if_false]
  simp only [bind_eq_ok, createLedgerEntry_eq_ok, attempt_eq_ok, pure_eq_ok, Prod.mk.injEq]
  constructor
  · rintro ⟨h1, h2, _, ⟨-, -, rfl⟩, -, h3, rfl, rfl⟩
    exact ⟨h1, h2, h3, rfl, rfl⟩
  · rintro ⟨h1, h2, h3, rfl, rfl⟩
    exact ⟨h1, h2, _, ⟨le_of_lt hpos, trivial, rfl⟩, ⟨⟩, h3, rfl, rfl⟩

theorem closeSettlement_eq_ok {db db' : Db} {order order' : Order} {now : Date} :
    closeSettlement db order now failsAt = .ok (db', order') ↔
      (∀ call, failsAt = some call → ¬ CloseReached order call) ∧
        db' = (db.creditEarning order).saveOrder (order.closed now) ∧
        order' = order.closed now := by
  have hcalls : (∀ call, failsAt = some call → ¬ CloseReached order call) ↔
      (EarningDue order → failsAt ≠ some .getAdminWallet ∧ failsAt ≠ some .createLedgerEntry ∧
        failsAt ≠ some .createAuditLog) ∧
      failsAt ≠ some .saveOrder ∧ failsAt ≠ some .commitTransaction := by
    constructor
    · intro h
      exact ⟨fun hdue => ⟨fun hf => h _ hf hdue, fun hf => h _ hf hdue, fun hf => h _ hf hdue⟩,
        fun hf => h _ hf trivial, fun hf => h _ hf trivial⟩
    · rintro ⟨hdue, hsave, hcommit⟩ call hf hr
      cases call with
      | getAdminWallet => exact (hdue hr).1 hf
      | createLedgerEntry => exact (hdue hr).2.1 hf
      | createAuditLog => exact (hdue hr).2.2 hf
      | saveOrder => exact hsave hf
      | commitTransaction => exact hcommit hf
      | findOrder | sellerPayout | riderPayout => exact hr
  rw [hcalls]
  unfold closeSettlement
  rw [bind_eq_ok]
  simp only [attempt_bind_eq_ok, pure_eq_ok, Prod.mk.injEq]
  by_cases hdue : EarningDue order
  · constructor
    · rintro ⟨⟨db₁, order₁⟩, hcredit, hsave, hcommit, rfl, rfl⟩
      obtain ⟨h1, h2, h3, rfl, rfl⟩ := (creditAdminEarning_due hdue).mp hcredit
      exact ⟨⟨fun _ => ⟨h1, h2, h3⟩, hsave, hcommit⟩, rfl, rfl⟩
    · rintro ⟨⟨hearning, hsave, hcommit⟩, rfl, rfl⟩
      obtain ⟨h1, h2, h3⟩ := hearning hdue
      exact ⟨(_, _), (creditAdminEarning_due hdue).mpr ⟨h1, h2, h3, rfl, rfl⟩, hsave, hcommit,
        rfl, rfl⟩
  · have hstay : db.creditEarning order = db := if_neg hdue
    rw [hstay]
    constructor
    · rintro ⟨⟨db₁, order₁⟩, hcredit, hsave, hcommit, rfl, rfl⟩
      rw [creditAdminEarning_notDue hdue] at hcredit
      cases hcredit
      exact ⟨⟨fun h => absurd h hdue, hsave, hcommit⟩, rfl, rfl⟩
    · rintro ⟨⟨-, hsave, hcommit⟩, rfl, rfl⟩
      exact ⟨(_, _), creditAdminEarning_notDue hdue, hsave, hcommit, rfl, rfl⟩

/-! ## The whole call -/

/-- The order passes the settlement's checks and has not been settled yet. -/
def Settleable (order : Order) : Prop :=
  ¬ (order.status = .cancelled ∨ order.workflowStatus = some .cancelled) ∧
    ¬ (order.paymentMode = .online ∧ order.financeFlags.onlinePaymentCaptured = false) ∧
    order.financeFlags.deliveredSettlementApplied = false

instance : DecidablePred Settleable := fun order =>
  inferInstanceAs (Decidable (¬ (order.status = .cancelled ∨
      order.workflowStatus = some .cancelled) ∧
    ¬ (order.paymentMode = .online ∧ order.financeFlags.onlinePaymentCaptured = false) ∧
    order.financeFlags.deliveredSettlementApplied = false))

section MarkDelivered

variable (env : Env) (now : Date) (order : Order)

@[simp] theorem markDelivered_financeFlags :
    (markDelivered env now order).financeFlags = order.financeFlags := by
  unfold markDelivered
  dsimp only
  split <;> rfl

@[simp] theorem markDelivered_paymentMode :
    (markDelivered env now order).paymentMode = order.paymentMode := by
  unfold markDelivered
  dsimp only
  split <;> rfl

@[simp] theorem markDelivered_status : (markDelivered env now order).status = .delivered := by
  unfold markDelivered
  dsimp only
  split <;> rfl

@[simp] theorem markDelivered_deliveryBoy :
    (markDelivered env now order).deliveryBoy = order.deliveryBoy := by
  unfold markDelivered
  dsimp only
  split <;> rfl

@[simp] theorem markDelivered_workflowVersion :
    (markDelivered env now order).workflowVersion = order.workflowVersion := by
  unfold markDelivered
  dsimp only
  split <;> rfl

@[simp] theorem markDelivered_workflowStatus :
    (markDelivered env now order).workflowStatus
      = if 2 ≤ order.workflowVersion then some .delivered else order.workflowStatus := by
  unfold markDelivered
  dsimp only
  split <;> rfl

@[simp] theorem markDelivered_deliveredAt :
    (markDelivered env now order).deliveredAt = some (order.deliveredAt.getD now) := by
  unfold markDelivered
  dsimp only
  split <;> rfl

end MarkDelivered

/-- The fields the payout and earning phases read are the same on both orders. -/
structure SameDues (order order' : Order) : Prop where
  id : order'.id = order.id
  seller : order'.seller = order.seller
  deliveryBoy : order'.deliveryBoy = order.deliveryBoy
  paymentMode : order'.paymentMode = order.paymentMode
  paymentBreakdown : order'.paymentBreakdown = order.paymentBreakdown
  codMarkedCollected :
    order'.financeFlags.codMarkedCollected = order.financeFlags.codMarkedCollected

/-- And so are the flags of what comes after the seller's phase. -/
structure SameLater (order order' : Order) : Prop extends SameDues order order' where
  riderPayoutQueued :
    order'.financeFlags.riderPayoutQueued = order.financeFlags.riderPayoutQueued
  adminEarningCredited :
    order'.financeFlags.adminEarningCredited = order.financeFlags.adminEarningCredited

theorem SameDues.trans {o₁ o₂ o₃ : Order} (h : SameDues o₁ o₂) (h' : SameDues o₂ o₃) :
    SameDues o₁ o₃ :=
  ⟨h'.id.trans h.id, h'.seller.trans h.seller, h'.deliveryBoy.trans h.deliveryBoy,
    h'.paymentMode.trans h.paymentMode, h'.paymentBreakdown.trans h.paymentBreakdown,
    h'.codMarkedCollected.trans h.codMarkedCollected⟩

theorem SameLater.trans {o₁ o₂ o₃ : Order} (h : SameLater o₁ o₂) (h' : SameLater o₂ o₃) :
    SameLater o₁ o₃ :=
  ⟨h.toSameDues.trans h'.toSameDues, h'.riderPayoutQueued.trans h.riderPayoutQueued,
    h'.adminEarningCredited.trans h.adminEarningCredited⟩

theorem sameLater_markDelivered (env : Env) (now : Date) (order : Order) :
    SameLater order (markDelivered env now order) := by
  unfold markDelivered
  dsimp only
  split <;> exact ⟨⟨rfl, rfl, rfl, rfl, rfl, rfl⟩, rfl, rfl⟩

theorem sameLater_sellerMarked (order : Order) : SameLater order order.sellerMarked := by
  unfold Order.sellerMarked
  split
  · exact ⟨⟨rfl, rfl, rfl, rfl, rfl, rfl⟩, rfl, rfl⟩
  · split <;> exact ⟨⟨rfl, rfl, rfl, rfl, rfl, rfl⟩, rfl, rfl⟩

theorem sameLater_holdIfOpen (order : Order) (now : Date) :
    SameLater order (holdIfOpen order now) := by
  unfold holdIfOpen
  split <;> exact ⟨⟨rfl, rfl, rfl, rfl, rfl, rfl⟩, rfl, rfl⟩

theorem sameDues_riderMarked (order : Order) : SameDues order order.riderMarked := by
  unfold Order.riderMarked
  split
  · exact ⟨rfl, rfl, rfl, rfl, rfl, rfl⟩
  · split <;> exact ⟨rfl, rfl, rfl, rfl, rfl, rfl⟩

section SameDues

variable {db : Db} {order order' : Order} {payoutType : PayoutType}

theorem SameDues.beneficiary (h : SameDues order order') :
    payoutType.beneficiary order' = payoutType.beneficiary order := by
  cases payoutType with
  | seller => exact h.seller
  | deliveryPartner => exact h.deliveryBoy

theorem SameDues.total (h : SameDues order order') :
    payoutType.total order' = payoutType.total order := by
  cases payoutType with
  | seller => exact congrArg PaymentBreakdown.sellerPayoutTotal h.paymentBreakdown
  | deliveryPartner => exact congrArg PaymentBreakdown.riderPayoutTotal h.paymentBreakdown

theorem SameDues.payoutDue (h : SameDues order order')
    (hq : payoutType.isQueued order' = payoutType.isQueued order) :
    PayoutDue payoutType order' ↔ PayoutDue payoutType order := by
  unfold PayoutDue
  rw [h.beneficiary, h.total, hq]

theorem SameDues.payoutReached (h : SameDues order order')
    (hq : payoutType.isQueued order' = payoutType.isQueued order) (call : PayoutCall) :
    PayoutReached db order' payoutType call ↔ PayoutReached db order payoutType call := by
  unfold PayoutReached hasPayout
  rw [h.payoutDue hq, h.id]

theorem SameDues.settlePayout (h : SameDues order order')
    (hq : payoutType.isQueued order' = payoutType.isQueued order) :
    db.settlePayout order' payoutType = db.settlePayout order payoutType := by
  have hiff : QueuesPayout db order' payoutType ↔ QueuesPayout db order payoutType := by
    unfold QueuesPayout hasPayout
    rw [h.payoutDue hq, h.id]
  unfold Db.settlePayout
  rw [h.beneficiary, h.id, h.total]
  cases payoutType.beneficiary order with
  | none => rfl
  | some id =>
    by_cases hqueue : QueuesPayout db order payoutType
    · simp only [if_pos hqueue, if_pos (hiff.mpr hqueue)]
    · simp only [if_neg hqueue, if_neg (fun h => hqueue (hiff.mp h))]

theorem SameDues.earningDue (h : SameDues order order')
    (hq : order'.financeFlags.adminEarningCredited = order.financeFlags.adminEarningCredited) :
    EarningDue order' ↔ EarningDue order := by
  unfold EarningDue
  rw [h.paymentMode, h.paymentBreakdown, hq]

theorem SameDues.creditEarning (h : SameDues order order')
    (hq : order'.financeFlags.adminEarningCredited = order.financeFlags.adminEarningCredited) :
    db.creditEarning order' = db.creditEarning order := by
  unfold Db.creditEarning earningRow
  simp only [h.earningDue hq, h.paymentMode, h.paymentBreakdown, h.id]

theorem SameDues.closeReached (h : SameDues order order')
    (hq : order'.financeFlags.adminEarningCredited = order.financeFlags.adminEarningCredited)
    (call : SettleCall) : CloseReached order' call ↔ CloseReached order call := by
  cases call <;> simp only [CloseReached, h.earningDue hq]

end SameDues

def Order.beforeRider (order : Order) (env : Env) (now : Date) : Order :=
  holdIfOpen (markDelivered env now order).sellerMarked now

def Order.settled (order : Order) (env : Env) (now : Date) : Order :=
  ((order.beforeRider env now).riderMarked).closed now

theorem sameLater_beforeRider (order : Order) (env : Env) (now : Date) :
    SameLater order (order.beforeRider env now) :=
  ((sameLater_markDelivered env now order).trans (sameLater_sellerMarked _)).trans
    (sameLater_holdIfOpen _ now)

theorem riderMarked_flags (order : Order) :
    order.riderMarked.financeFlags.adminEarningCredited
      = order.financeFlags.adminEarningCredited := by
  unfold Order.riderMarked
  split
  · rfl
  · split <;> rfl

theorem sameDues_closed (order : Order) (now : Date) : SameDues order (order.closed now) := by
  unfold Order.closed Order.earningMarked
  split <;> exact ⟨rfl, rfl, rfl, rfl, rfl, rfl⟩

theorem sameDues_settled (order : Order) (env : Env) (now : Date) :
    SameDues order (order.settled env now) :=
  ((sameLater_beforeRider order env now).toSameDues.trans (sameDues_riderMarked _)).trans
    (sameDues_closed _ now)

theorem hasPayout_settleSeller (db : Db) (order : Order) :
    hasPayout (db.settlePayout order .seller) order .deliveryPartner
      = hasPayout db order .deliveryPartner := by
  unfold Db.settlePayout
  split
  · rfl
  · rename_i id hid
    split
    · have hfresh := Db.newPayout_id_notMem db order.id .seller id (seller.total order)
      unfold hasPayout findExistingPayout
      rw [Db.queuePayout_payouts, Table.rows_insert hfresh, List.find?_append]
      simp [Db.newPayout]
    · rfl

def SettleReached (db : Db) (order : Order) : SettleCall → Prop
  | .findOrder => True
  | .sellerPayout call => PayoutReached db order .seller call
  | .riderPayout call => PayoutReached db order .deliveryPartner call
  | call => CloseReached order call

def Db.settlePayouts (db : Db) (order : Order) : Db :=
  (db.settlePayout order .seller).settlePayout order .deliveryPartner

/-- The store that is left when a call fails: what the payout phases before it have
committed. -/
def Db.leftBy (db : Db) (order : Order) : SettleCall → Db
  | .findOrder | .sellerPayout _ => db
  | .riderPayout _ => db.settlePayout order .seller
  | _ => db.settlePayouts order

theorem openSettlement_ok {env : Env} {orderId : ObjectId} {now : Date}
    (hget : db.orders.get? orderId = some order) (hs : Settleable order)
    (hf : failsAt ≠ some .findOrder) :
    openSettlement env db orderId now failsAt = .ok (markDelivered env now order) := by
  unfold openSettlement
  rw [attempt_bind_eq_ok]
  refine ⟨hf, ?_⟩
  rw [bind_eq_ok]
  refine ⟨order, by rw [findOrderForUpdate, hget]; rfl, ?_⟩
  rw [ite_throw_eq_ok]
  refine ⟨hs.1, ?_⟩
  dsimp only
  rw [ite_throw_eq_ok, markDelivered_paymentMode, markDelivered_financeFlags]
  exact ⟨hs.2.1, rfl⟩

section Phases

variable (env : Env) (db : Db) (now : Date) (order : Order) (failsAt : Option SettleCall)

theorem sellerPhase_ok
    (hok : ∀ call, failsAt = some (.sellerPayout call) → ¬ PayoutReached db order .seller call) :
    createPendingSellerPayout db (markDelivered env now order)
        (failsAt.bind inSellerPayout)
      = .ok (db.settlePayout order .seller, (markDelivered env now order).sellerMarked) := by
  have hmark := (sameLater_markDelivered env now order).toSameDues
  have hq : seller.isQueued (markDelivered env now order)
      = seller.isQueued order := by simp [isQueued]
  rw [← hmark.settlePayout hq]
  refine createPendingSellerPayout_ok (fun call hcall hr => ?_)
  obtain ⟨c, hc, hin⟩ := bind_eq_some_iff.mp hcall
  cases c <;> cases hin
  exact hok _ hc ((hmark.payoutReached hq _).mp hr)

theorem sellerPhase_fails {call : PayoutCall} (hr : PayoutReached db order .seller call) :
    ∃ e, createPendingSellerPayout db (markDelivered env now order) (some call) = .error e := by
  refine createPendingSellerPayout_fails ?_
  exact ((sameLater_markDelivered env now order).toSameDues.payoutReached
    (by simp [isQueued]) _).mpr hr

theorem riderPhase_ok
    (hok : ∀ call, failsAt = some (.riderPayout call) →
      ¬ PayoutReached db order .deliveryPartner call) :
    createPendingRiderPayout (db.settlePayout order .seller) (order.beforeRider env now)
        (failsAt.bind inRiderPayout)
      = .ok (db.settlePayouts order, (order.beforeRider env now).riderMarked) := by
  have hrider := sameLater_beforeRider order env now
  have hq : deliveryPartner.isQueued (order.beforeRider env now)
      = deliveryPartner.isQueued order := hrider.riderPayoutQueued
  rw [Db.settlePayouts, ← hrider.toSameDues.settlePayout hq]
  refine createPendingRiderPayout_ok (fun call hcall hr => ?_)
  obtain ⟨c, hc, hin⟩ := bind_eq_some_iff.mp hcall
  cases c <;> cases hin
  have hr' := (hrider.toSameDues.payoutReached hq _).mp hr
  rw [PayoutReached, hasPayout_settleSeller] at hr'
  exact hok _ hc hr'

theorem riderPhase_fails {call : PayoutCall}
    (hr : PayoutReached db order .deliveryPartner call) :
    ∃ e, createPendingRiderPayout (db.settlePayout order .seller) (order.beforeRider env now)
      (some call) = .error e := by
  have hrider := sameLater_beforeRider order env now
  have hq : deliveryPartner.isQueued (order.beforeRider env now)
      = deliveryPartner.isQueued order := hrider.riderPayoutQueued
  refine createPendingRiderPayout_fails ?_
  refine (hrider.toSameDues.payoutReached hq _).mpr ?_
  rw [PayoutReached, hasPayout_settleSeller]
  exact hr

theorem closePhase_eq_ok {db' : Db} {order' : Order} :
    closeSettlement db (order.beforeRider env now).riderMarked now failsAt = .ok (db', order') ↔
      (∀ call, failsAt = some call → ¬ CloseReached order call) ∧
        db' = (db.creditEarning order).saveOrder (order.settled env now) ∧
        order' = order.settled env now := by
  have hrider := sameLater_beforeRider order env now
  have hsame := hrider.toSameDues.trans (sameDues_riderMarked _)
  have hq : (order.beforeRider env now).riderMarked.financeFlags.adminEarningCredited
      = order.financeFlags.adminEarningCredited := by
    rw [riderMarked_flags, hrider.adminEarningCredited]
  rw [closeSettlement_eq_ok, hsame.creditEarning hq]
  simp only [hsame.closeReached hq]
  rfl

end Phases

section Whole

variable (env : Env) {db : Db} {orderId : ObjectId} (now : Date) {order : Order}
  {failsAt : Option SettleCall}

/-- The call, once the order has been found and passed the checks. -/
theorem settleDeliveredOrder_opened (hget : db.orders.get? orderId = some order)
    (hs : Settleable order) (hf : failsAt ≠ some .findOrder) :
    settleDeliveredOrder env db orderId now failsAt
      = settleOpened db (markDelivered env now order) now failsAt := by
  unfold settleDeliveredOrder
  simp only [openSettlement_ok hget hs hf, markDelivered_financeFlags, hs.2.2, Bool.false_eq_true,
    if_false]

/-- After two payout phases that went through, only the last part is left. -/
theorem settleOpened_afterPayouts
    (hseller : ∀ call, failsAt = some (.sellerPayout call) →
      ¬ PayoutReached db order .seller call)
    (hrider : ∀ call, failsAt = some (.riderPayout call) →
      ¬ PayoutReached db order .deliveryPartner call) :
    settleOpened db (markDelivered env now order) now failsAt =
      match closeSettlement (db.settlePayouts order) (order.beforeRider env now).riderMarked now
          failsAt with
      | .error e => (.error e, db.settlePayouts order)
      | .ok (db, order) => (.ok order, db) := by
  have hr := riderPhase_ok env db now order failsAt hrider
  rw [Order.beforeRider] at hr
  unfold settleOpened
  rw [sellerPhase_ok env db now order failsAt hseller]
  dsimp only
  rw [hr]
  rfl

theorem settleDeliveredOrder_ok (hget : db.orders.get? orderId = some order)
    (hs : Settleable order)
    (hok : ∀ call, failsAt = some call → ¬ SettleReached db order call) :
    settleDeliveredOrder env db orderId now failsAt
      = (.ok (order.settled env now),
        ((db.settlePayouts order).creditEarning order).saveOrder (order.settled env now)) := by
  have hclose := (closePhase_eq_ok env (db.settlePayouts order) now order failsAt).mpr
    ⟨fun call hc hr => ?_, rfl, rfl⟩
  · rw [settleDeliveredOrder_opened env now hget hs (fun hf => hok _ hf trivial),
      settleOpened_afterPayouts env now (fun call hc => hok _ hc) (fun call hc => hok _ hc), hclose]
  · refine hok call hc ?_
    cases call with
    | findOrder => trivial
    | sellerPayout | riderPayout => exact absurd hr id
    | getAdminWallet | createLedgerEntry | createAuditLog | saveOrder
    | commitTransaction => exact hr

/-- A failure after both payout phases leaves both of them. -/
theorem settleDeliveredOrder_closeFails {call : SettleCall}
    (hget : db.orders.get? orderId = some order) (hs : Settleable order)
    (hr : CloseReached order call) :
    ∃ e, settleDeliveredOrder env db orderId now (some call) = (.error e, db.settlePayouts order) := by
  have hfind : (some call) ≠ some findOrder := by
    rintro ⟨⟩
    exact hr
  have hseller : ∀ c, some call = some (sellerPayout c) →
      ¬ PayoutReached db order .seller c := by
    rintro c ⟨⟩
    exact absurd hr id
  have hrider : ∀ c, some call = some (riderPayout c) →
      ¬ PayoutReached db order .deliveryPartner c := by
    rintro c ⟨⟩
    exact absurd hr id
  rw [settleDeliveredOrder_opened env now hget hs hfind, settleOpened_afterPayouts env now hseller hrider]
  cases hclose : closeSettlement (db.settlePayouts order) (order.beforeRider env now).riderMarked
      now (some call) with
  | error e => exact ⟨e, rfl⟩
  | ok r =>
    exact absurd hr (((closePhase_eq_ok env (db.settlePayouts order) now order (some call)).mp
      hclose).1 call rfl)

/-- A settlement one of whose calls fails throws, and leaves what the payout calls before
it have committed. -/
theorem settleDeliveredOrder_fails {call : SettleCall}
    (hget : db.orders.get? orderId = some order) (hs : Settleable order)
    (hr : SettleReached db order call) :
    ∃ e, settleDeliveredOrder env db orderId now (some call) = (.error e, db.leftBy order call) := by
  cases call with
  | findOrder => exact ⟨databaseError, rfl⟩
  | sellerPayout c =>
    obtain ⟨e, he⟩ := sellerPhase_fails env db now order hr
    refine ⟨e, ?_⟩
    rw [settleDeliveredOrder_opened env now hget hs (by rintro ⟨⟩)]
    unfold settleOpened
    dsimp only [Option.bind, inSellerPayout]
    rw [he]
    rfl
  | riderPayout c =>
    obtain ⟨e, he⟩ := riderPhase_fails env db now order hr
    rw [Order.beforeRider] at he
    refine ⟨e, ?_⟩
    rw [settleDeliveredOrder_opened env now hget hs (by rintro ⟨⟩)]
    unfold settleOpened
    rw [sellerPhase_ok env db now order (some (.riderPayout c)) (by rintro _ ⟨⟩)]
    dsimp only [Option.bind, inRiderPayout]
    rw [he]
    rfl
  | getAdminWallet | createLedgerEntry | createAuditLog | saveOrder
  | commitTransaction => exact settleDeliveredOrder_closeFails env now hget hs hr

theorem settleDeliveredOrder_refused
    (h : ∀ order, db.orders.get? orderId = some order → ¬ Settleable order) :
    (settleDeliveredOrder env db orderId now failsAt).2 = db := by
  unfold settleDeliveredOrder
  cases hopen : openSettlement env db orderId now failsAt with
  | error e => rfl
  | ok order =>
    dsimp only
    unfold openSettlement findOrderForUpdate at hopen
    rw [attempt_bind_eq_ok, bind_eq_ok] at hopen
    obtain ⟨-, stored, hfind, hopen⟩ := hopen
    cases hget : db.orders.get? orderId with
    | none =>
      rw [hget] at hfind
      exact absurd hfind throw_ne_ok
    | some found =>
      rw [hget] at hfind
      obtain rfl := pure_eq_ok.mp hfind
      rw [ite_throw_eq_ok] at hopen
      obtain ⟨hlive, hopen⟩ := hopen
      dsimp only at hopen
      rw [ite_throw_eq_ok, markDelivered_paymentMode, markDelivered_financeFlags] at hopen
      obtain ⟨hcaptured, hopen⟩ := hopen
      obtain rfl := pure_eq_ok.mp hopen
      have happlied : stored.financeFlags.deliveredSettlementApplied = true := by
        by_contra hnot
        exact h stored hget ⟨hlive, hcaptured, Bool.not_eq_true _ ▸ hnot⟩
      rw [markDelivered_financeFlags, happlied, if_pos rfl]

end Whole

def Db.settledBy (db : Db) (order : Order) (env : Env) (now : Date) : Db :=
  ((db.settlePayouts order).creditEarning order).saveOrder (order.settled env now)

theorem settleDeliveredOrder_cases (env : Env) (db : Db) (orderId : ObjectId) (now : Date)
    (failsAt : Option SettleCall) :
    ((settleDeliveredOrder env db orderId now failsAt).2 = db ∧
        ∀ order, db.orders.get? orderId = some order → ¬ Settleable order) ∨
      ∃ order, db.orders.get? orderId = some order ∧ Settleable order ∧
        ((∃ call, failsAt = some call ∧ SettleReached db order call ∧
            (settleDeliveredOrder env db orderId now failsAt).2 = db.leftBy order call) ∨
          ((∀ call, failsAt = some call → ¬ SettleReached db order call) ∧
            (settleDeliveredOrder env db orderId now failsAt).2 = db.settledBy order env now)) := by
  by_cases hfound : ∃ order, db.orders.get? orderId = some order ∧ Settleable order
  · obtain ⟨order, hget, hs⟩ := hfound
    refine .inr ⟨order, hget, hs, ?_⟩
    by_cases hreached : ∃ call, failsAt = some call ∧ SettleReached db order call
    · obtain ⟨call, rfl, hr⟩ := hreached
      obtain ⟨e, he⟩ := settleDeliveredOrder_fails env now hget hs hr
      exact .inl ⟨call, rfl, hr, by rw [he]⟩
    · have hok : ∀ call, failsAt = some call → ¬ SettleReached db order call :=
        fun call hc hr => hreached ⟨call, hc, hr⟩
      refine .inr ⟨hok, ?_⟩
      rw [settleDeliveredOrder_ok env now hget hs hok]
      rfl
  · have hnone : ∀ order, db.orders.get? orderId = some order → ¬ Settleable order :=
      fun order hget hs => hfound ⟨order, hget, hs⟩
    exact .inl ⟨settleDeliveredOrder_refused env now hnone, hnone⟩

/-! ## Which failures leave something behind -/

section Atomicity

variable {db : Db} {order : Order}

theorem settlePayout_count (payoutType : PayoutType) :
    (db.settlePayout order payoutType).payouts.rows.length
      = db.payouts.rows.length + if QueuesPayout db order payoutType then 1 else 0 := by
  unfold Db.settlePayout
  split
  · rename_i hnone
    rw [if_neg (fun hq => hq.1.1 hnone), add_zero]
  · rename_i id hid
    split
    · have hfresh := Db.newPayout_id_notMem db order.id payoutType id (payoutType.total order)
      rw [Db.queuePayout_payouts, Table.rows_insert hfresh, List.length_append,
        List.length_singleton]
    · rw [add_zero]

theorem settlePayout_notQueued {payoutType : PayoutType}
    (h : ¬ QueuesPayout db order payoutType) : db.settlePayout order payoutType = db := by
  unfold Db.settlePayout
  split
  · rfl
  · exact if_neg h

theorem settlePayout_eq_iff (payoutType : PayoutType) :
    db.settlePayout order payoutType = db ↔ ¬ QueuesPayout db order payoutType := by
  constructor
  · intro h hq
    have hcount : (db.settlePayout order payoutType).payouts.rows.length
        = db.payouts.rows.length := by
      rw [h]
    rw [settlePayout_count, if_pos hq] at hcount
    omega
  · exact settlePayout_notQueued

theorem queuesPayout_settleSeller :
    QueuesPayout (db.settlePayout order .seller) order .deliveryPartner
      ↔ QueuesPayout db order .deliveryPartner := by
  unfold QueuesPayout
  rw [hasPayout_settleSeller]

/-- A failing call comes after a payout that was queued in this settlement. -/
def LeavesPayout (db : Db) (order : Order) : SettleCall → Prop
  | .findOrder | .sellerPayout _ => False
  | .riderPayout _ => QueuesPayout db order .seller
  | _ => QueuesPayout db order .seller ∨ QueuesPayout db order .deliveryPartner

theorem settlePayouts_eq_iff :
    db.settlePayouts order = db ↔
      ¬ (QueuesPayout db order .seller ∨ QueuesPayout db order .deliveryPartner) := by
  constructor
  · intro h hq
    have hcount : (db.settlePayouts order).payouts.rows.length = db.payouts.rows.length := by
      rw [h]
    rw [Db.settlePayouts, settlePayout_count, settlePayout_count] at hcount
    rcases hq with hq | hq
    · rw [if_pos hq] at hcount
      omega
    · rw [if_pos (queuesPayout_settleSeller.mpr hq)] at hcount
      omega
  · intro h
    obtain ⟨hseller, hrider⟩ := not_or.mp h
    rw [Db.settlePayouts, settlePayout_notQueued hseller, settlePayout_notQueued hrider]

theorem leftBy_eq_iff (call : SettleCall) :
    db.leftBy order call = db ↔ ¬ LeavesPayout db order call := by
  cases call with
  | findOrder | sellerPayout => exact iff_of_true rfl id
  | riderPayout c => exact settlePayout_eq_iff .seller
  | getAdminWallet | createLedgerEntry | createAuditLog | saveOrder
  | commitTransaction => exact settlePayouts_eq_iff

end Atomicity

/-- A settlement that throws leaves the store as it was exactly when no payout it has
queued comes before the call that failed. -/
theorem settleDeliveredOrder_atomic_iff (env : Env) (db : Db) (orderId : ObjectId) (now : Date)
    (failsAt : Option SettleCall) :
    (∀ e, (settleDeliveredOrder env db orderId now failsAt).1 = .error e →
        (settleDeliveredOrder env db orderId now failsAt).2 = db) ↔
      ∀ order call, db.orders.get? orderId = some order → Settleable order →
        failsAt = some call → SettleReached db order call → ¬ LeavesPayout db order call := by
  constructor
  · rintro h order call hget hs rfl hr
    obtain ⟨e, he⟩ := settleDeliveredOrder_fails env now hget hs hr
    have hleft := h e (by rw [he])
    rw [he] at hleft
    exact (leftBy_eq_iff call).mp hleft
  · intro h e herror
    by_cases hfound : ∃ order, db.orders.get? orderId = some order ∧ Settleable order
    · obtain ⟨order, hget, hs⟩ := hfound
      by_cases hreached : ∃ call, failsAt = some call ∧ SettleReached db order call
      · obtain ⟨call, rfl, hr⟩ := hreached
        obtain ⟨e', he⟩ := settleDeliveredOrder_fails env now hget hs hr
        rw [he]
        exact (leftBy_eq_iff call).mpr (h order call hget hs rfl hr)
      · have hok := settleDeliveredOrder_ok env now hget hs
          (fun call hc hr => hreached ⟨call, hc, hr⟩)
        rw [hok] at herror
        cases herror
    · exact settleDeliveredOrder_refused env now (fun order hget hs => hfound ⟨order, hget, hs⟩)

/-- A COD order of 100 rupees, 80 of them the seller's and 10 the rider's. -/
def codOrder : Order :=
  Order.placed 1 5 (some 7) (some 9) .cod (PaymentBreakdown.placed 10000 8000 1000 500 0)

def codStore : Db := Db.fresh ⟨[codOrder], by decide⟩

/-- When saving the order fails, the settlement throws and both payouts stay queued. -/
theorem settleDeliveredOrder_save_fails :
    (settleDeliveredOrder {} codStore 1 0 (some .saveOrder)).1 = .error databaseError ∧
      (settleDeliveredOrder {} codStore 1 0 (some .saveOrder)).2 ≠ codStore ∧
      (settleDeliveredOrder {} codStore 1 0 (some .saveOrder)).2.payouts.rows.map
        (fun payout => (payout.payoutType, payout.amount, payout.status))
        = [(.seller, 8000, .pending), (.deliveryPartner, 1000, .pending)] := by
  have hrows : (settleDeliveredOrder {} codStore 1 0 (some .saveOrder)).2.payouts.rows.map
      (fun payout => (payout.payoutType, payout.amount, payout.status))
      = [(.seller, 8000, .pending), (.deliveryPartner, 1000, .pending)] := by decide +kernel
  refine ⟨by decide +kernel, fun hsame => ?_, hrows⟩
  rw [hsame] at hrows
  cases hrows

end DiscountBazar.Finance
