/-
The payout service (`payoutService.js`, `settlementStatus.js`).

A payout is queued, processed and cancelled by three functions that move the
beneficiary's wallet by hand, each in a transaction of its own. As in the wallet
service, each function here is an `Except` computation and is followed by what it
wrote when it succeeded.
-/
import DiscountBazar.Finance.WalletService

namespace DiscountBazar.Finance

open Transaction Prod

/-- `payoutTypeToOwnerType`, with the beneficiary's id. -/
def payoutTypeToOwnerType (payoutType : PayoutType) (beneficiaryId : ObjectId) : Owner :=
  match payoutType with
  | .seller => .seller beneficiaryId
  | .deliveryPartner => .deliveryPartner beneficiaryId

def Payout.owner (payout : Payout) : Owner :=
  payoutTypeToOwnerType payout.payoutType payout.beneficiaryId

/-- The statuses in which a payout still waits in the pending balance. -/
def PayoutStatus.Live (status : PayoutStatus) : Prop := status = .pending ∨ status = .processing

instance : DecidablePred PayoutStatus.Live :=
  fun status => inferInstanceAs (Decidable (status = .pending ∨ status = .processing))

/-- A status as error texts spell it. -/
def PayoutStatus.name : PayoutStatus → String
  | .pending => "PENDING"
  | .processing => "PROCESSING"
  | .completed => "COMPLETED"
  | .failed => "FAILED"
  | .cancelled => "CANCELLED"

def computeOverallSettlement (settlement : SettlementStatus) (now : Date) : SettlementStatus :=
  let sellerDone := settlement.sellerPayout = .completed
  let riderDone := settlement.riderPayout = .completed ∨ settlement.riderPayout = .notApplicable
  let adminDone := settlement.adminEarningCredited = true
  if sellerDone ∧ riderDone ∧ adminDone then
    { settlement with
      overall := .completed
      reconciledAt := some (settlement.reconciledAt.getD now) }
  else if sellerDone ∨ riderDone ∨ adminDone then
    { settlement with overall := .partiallySettled }
  else
    { settlement with overall := .pending }

/-! ## Queueing a payout -/

/-- The database calls of `createPendingPayoutForOrder`. -/
inductive PayoutCall where
  | findExisting | abortTransaction
  | getOrCreateWallet | createPayout | saveWallet | createLedgerEntry | commitTransaction
  deriving DecidableEq

def databaseError : ServiceError := ⟨"database error", none⟩

/-- The payout `Payout.findOne` looks for before queueing another one: a payout of
this type for this order that is not cancelled. -/
def findExistingPayout (db : Db) (orderId : ObjectId) (payoutType : PayoutType) : Option Payout :=
  db.payouts.rows.find? (fun payout =>
    decide (orderId ∈ payout.relatedOrderIds ∧ payout.payoutType = payoutType ∧
      payout.status ≠ .cancelled))

def PayoutType.pendingType : PayoutType → LedgerTransactionType
  | .seller => .sellerPayoutPending
  | .deliveryPartner => .riderPayoutPending

def PayoutType.processedType : PayoutType → LedgerTransactionType
  | .seller => .sellerPayoutProcessed
  | .deliveryPartner => .riderPayoutProcessed

/-- `createPendingPayoutForOrder`. It takes no session: the transaction is its own,
also when the caller has one open. -/
def createPendingPayoutForOrder (db : Db) (order : Order) (payoutType : PayoutType)
    (beneficiaryId : Option ObjectId) (amount : ℚ) (failsAt : Option PayoutCall := none) :
    Except ServiceError (Db × Option Payout) :=
  match beneficiaryId with
  | none => pure (db, none)
  | some beneficiaryId =>
    if amount ≤ 0 then pure (db, none)
    else do
      attempt failsAt .findExisting databaseError
      match findExistingPayout db order.id payoutType with
      | some existing =>
        attempt failsAt .abortTransaction databaseError
        pure (db, some existing)
      | none =>
        attempt failsAt .getOrCreateWallet databaseError
        let owner := payoutTypeToOwnerType payoutType beneficiaryId
        let wallet := db.getOrCreateWallet owner
        attempt failsAt .createPayout databaseError
        let payout : Payout :=
          { id := db.payouts.freshKey
            payoutType := payoutType
            beneficiaryId := beneficiaryId
            amount := payoutRoundCurrency amount
            status := .pending
            relatedOrderIds := [order.id] }
        let db := { db with payouts := db.payouts.insert payout }
        attempt failsAt .saveWallet databaseError
        let db := db.saveWallet owner
          { wallet with
            pendingBalance := payoutRoundCurrency (fromPaise wallet.pendingBalance + amount)
            totalCredited := payoutRoundCurrency (fromPaise wallet.totalCredited + amount) }
        attempt failsAt .createLedgerEntry databaseError
        let db ← createLedgerEntry db
          { actor := owner
            type := payoutType.pendingType
            direction := .credit
            amount := payoutRoundCurrency amount
            orderId := some order.id
            payoutId := some payout.id }
        attempt failsAt .commitTransaction databaseError
        pure (db, some payout)

/-! ## Processing -/

/-- What processing a payout writes on one of its orders. -/
def markOrderPaid (payoutType : PayoutType) (now : Date) (order : Order) : Order :=
  match payoutType with
  | .seller =>
    { order with
      financeFlags := { order.financeFlags with sellerPayoutQueued := true }
      settlementStatus :=
        computeOverallSettlement { order.settlementStatus with sellerPayout := .completed } now }
  | .deliveryPartner =>
    { order with
      financeFlags := { order.financeFlags with riderPayoutQueued := true }
      settlementStatus :=
        computeOverallSettlement { order.settlementStatus with riderPayout := .completed } now }

/-- The loop over `payout.relatedOrderIds`; an order that is gone is skipped. -/
def markOrdersPaid (orders : Table Order.id) (payoutType : PayoutType) (now : Date)
    (orderIds : List ObjectId) : Table Order.id :=
  orderIds.foldl
    (fun orders orderId =>
      match orders.get? orderId with
      | none => orders
      | some order => orders.set (markOrderPaid payoutType now order))
    orders

/-- `processPayout`. A pending balance below the payout is only warned about. -/
def processPayout (db : Db) (payoutId : ObjectId) (now : Date) :
    Except ServiceError (Db × Payout) :=
  match db.payouts.get? payoutId with
  | none => throw ⟨"Payout not found.", none⟩
  | some payout =>
    if payout.status ≠ .pending ∧ payout.status ≠ .processing then
      throw ⟨"Invalid payout status for processing: " ++ payout.status.name, none⟩
    else do
      let owner := payoutTypeToOwnerType payout.payoutType payout.beneficiaryId
      let wallet := db.getOrCreateWallet owner
      let amount := payoutRoundCurrency (fromPaise payout.amount)
      let db := db.saveWallet owner
        { wallet with
          pendingBalance :=
            payoutRoundCurrency (max 0 (fromPaise wallet.pendingBalance - fromPaise amount))
          availableBalance :=
            payoutRoundCurrency (fromPaise wallet.availableBalance + fromPaise amount) }
      let db ← createLedgerEntry db
        { actor := owner
          type := payout.payoutType.processedType
          direction := .credit
          amount := amount
          orderId :=
            match payout.relatedOrderIds with
            | [orderId] => some orderId
            | _ => none
          payoutId := some payout.id
          idempotencyKey := some (.payoutProcessed payout.id) }
      let payout := { payout with status := .completed, processedAt := some now }
      let db := db.savePayout payout
      let db :=
        { db with
          orders := markOrdersPaid db.orders payout.payoutType now payout.relatedOrderIds }
      let db := db.audit
        (.payoutProcessed payout.id payout.payoutType payout.beneficiaryId payout.amount)
      pure (db, payout)

/-- `bulkProcessPayouts` without an id list: the ids it selects, oldest first. Rows are
inserted in the order of `createdAt`. -/
def selectPayouts (db : Db) (payoutType : Option PayoutType) (limit : ℤ) : List ObjectId :=
  let limit := max (min (if limit = 0 then 50 else limit) 200) 1
  ((db.payouts.rows.filter (fun payout =>
      decide (payout.status.Live ∧ ∀ t ∈ payoutType, payout.payoutType = t))).map
    Payout.id).take limit.toNat

/-- A row of the report `bulkProcessPayouts` returns. -/
inductive BulkRow where
  | completed (payoutId : ObjectId)
  | failed (payoutId : ObjectId) (reason : String)

/-- The loop of `bulkProcessPayouts`: every payout is processed in a transaction of its
own, whose error is only reported. -/
def processAll (now : Date) (db : Db) : List ObjectId → Db × List BulkRow
  | [] => (db, [])
  | payoutId :: rest =>
    match processPayout db payoutId now with
    | .ok (db, payout) =>
      let (db, results) := processAll now db rest
      (db, .completed payout.id :: results)
    | .error error =>
      let (db, results) := processAll now db rest
      (db, .failed payoutId error.message :: results)

def bulkProcessPayouts (db : Db) (payoutIds : List ObjectId) (payoutType : Option PayoutType)
    (limit : ℤ) (now : Date) : Db × List BulkRow :=
  let targets := if payoutIds = [] then selectPayouts db payoutType limit else payoutIds
  processAll now db targets

/-! ## Cancelling -/

def findLivePayout (db : Db) (orderId : ObjectId) (payoutType : PayoutType) : Option Payout :=
  db.payouts.rows.find? (fun payout =>
    decide (orderId ∈ payout.relatedOrderIds ∧ payout.payoutType = payoutType ∧
      payout.status.Live))

def cancelPendingPayoutForOrder (db : Db) (orderId : ObjectId) (payoutType : PayoutType) :
    Except ServiceError (Db × Option Payout) :=
  match findLivePayout db orderId payoutType with
  | none => pure (db, none)
  | some payout => do
      let owner := payoutTypeToOwnerType payout.payoutType payout.beneficiaryId
      let wallet := db.getOrCreateWallet owner
      let amount := payoutRoundCurrency (fromPaise payout.amount)
      let db := db.saveWallet owner
        { wallet with
          pendingBalance :=
            payoutRoundCurrency (max (fromPaise wallet.pendingBalance - fromPaise amount) 0)
          totalCredited :=
            payoutRoundCurrency (max (fromPaise wallet.totalCredited - fromPaise amount) 0) }
      let payout := { payout with status := .cancelled }
      let db := db.savePayout payout
      let db ← createLedgerEntry db
        { actor := owner
          type := .payoutCancelled
          direction := .debit
          amount := amount
          orderId := some orderId
          payoutId := some payout.id }
      pure (db, some payout)

/-! ## What each call writes -/

/-- The wallet after `a` was queued for it. -/
def Wallet.queued (wallet : Wallet) (a : ℤ) : Wallet :=
  { wallet with
    pendingBalance := wallet.pendingBalance + a
    totalCredited := wallet.totalCredited + a }

/-- The wallet after a payout of `a` was processed. -/
def Wallet.released (wallet : Wallet) (a : ℤ) : Wallet :=
  { wallet with
    pendingBalance := max 0 (wallet.pendingBalance - a)
    availableBalance := wallet.availableBalance + a }

/-- The wallet after a payout of `a` was cancelled. -/
def Wallet.unqueued (wallet : Wallet) (a : ℤ) : Wallet :=
  { wallet with
    pendingBalance := max (wallet.pendingBalance - a) 0
    totalCredited := max (wallet.totalCredited - a) 0 }

def Db.newPayout (db : Db) (orderId : ObjectId) (payoutType : PayoutType)
    (beneficiaryId : ObjectId) (a : ℤ) : Payout where
  id := db.payouts.freshKey
  payoutType := payoutType
  beneficiaryId := beneficiaryId
  amount := a
  status := .pending
  relatedOrderIds := [orderId]

def queuedRow (orderId : ObjectId) (payout : Payout) : LedgerEntry where
  actor := payout.owner
  type := payout.payoutType.pendingType
  direction := .credit
  amount := payout.amount
  orderId := some orderId
  payoutId := some payout.id

def Db.queuePayout (db : Db) (orderId : ObjectId) (payoutType : PayoutType)
    (beneficiaryId : ObjectId) (a : ℤ) : Db :=
  let payout := db.newPayout orderId payoutType beneficiaryId a
  ((({ db with payouts := db.payouts.insert payout } : Db).saveWallet payout.owner
    ((db.wallets payout.owner).queued a))).appendLedger (queuedRow orderId payout)

/-- A payout that has been paid out. -/
def Payout.completedAt (payout : Payout) (now : Date) : Payout :=
  { payout with status := .completed, processedAt := some now }

def processedRow (payout : Payout) : LedgerEntry where
  actor := payout.owner
  type := payout.payoutType.processedType
  direction := .credit
  amount := payout.amount
  orderId :=
    match payout.relatedOrderIds with
    | [orderId] => some orderId
    | _ => none
  payoutId := some payout.id
  idempotencyKey := some (.payoutProcessed payout.id)

def Db.releasePayout (db : Db) (payout : Payout) (now : Date) : Db where
  wallets := Function.update db.wallets payout.owner
    ((db.wallets payout.owner).released payout.amount)
  users := db.users
  ledger := db.ledger ++ [processedRow payout]
  payouts := db.payouts.set (payout.completedAt now)
  orders := markOrdersPaid db.orders payout.payoutType now payout.relatedOrderIds
  auditLog := db.auditLog ++
    [.payoutProcessed payout.id payout.payoutType payout.beneficiaryId payout.amount]

def cancelledRow (orderId : ObjectId) (payout : Payout) : LedgerEntry where
  actor := payout.owner
  type := .payoutCancelled
  direction := .debit
  amount := payout.amount
  orderId := some orderId
  payoutId := some payout.id

def Db.unqueuePayout (db : Db) (orderId : ObjectId) (payout : Payout) : Db :=
  (((db.saveWallet payout.owner ((db.wallets payout.owner).unqueued payout.amount)).savePayout
    { payout with status := .cancelled })).appendLedger (cancelledRow orderId payout)

/-- The calls that are made when the order has (or has not) such a payout already. -/
def PayoutCall.Reached (existing : Bool) : PayoutCall → Prop
  | .findExisting => True
  | .abortTransaction => existing = true
  | _ => existing = false

instance (existing : Bool) : DecidablePred (PayoutCall.Reached existing) := fun call => by
  cases call <;> unfold PayoutCall.Reached <;> infer_instance

variable {db db' : Db} {payoutType : PayoutType} {beneficiaryId : Option ObjectId}
  {failsAt : Option PayoutCall} {result : Option Payout}

theorem createPendingPayoutForOrder_eq_ok {order : Order} {amount : ℚ}
    (ha : 0 ≤ payoutRoundCurrency amount) :
    createPendingPayoutForOrder db order payoutType beneficiaryId amount failsAt
        = .ok (db', result) ↔
      ((beneficiaryId = none ∨ amount ≤ 0) ∧ db' = db ∧ result = none) ∨
      ∃ id, beneficiaryId = some id ∧ 0 < amount ∧
        ((∃ existing, findExistingPayout db order.id payoutType = some existing ∧
            (∀ call, failsAt = some call → ¬ call.Reached true) ∧
            db' = db ∧ result = some existing) ∨
          (findExistingPayout db order.id payoutType = none ∧
            (∀ call, failsAt = some call → ¬ call.Reached false) ∧
            db' = db.queuePayout order.id payoutType id (payoutRoundCurrency amount) ∧
            result = some (db.newPayout order.id payoutType id (payoutRoundCurrency amount)))) := by
  unfold createPendingPayoutForOrder
  cases beneficiaryId with
  | none => simp [pure_eq_ok]
  | some id =>
    by_cases hamount : amount ≤ 0
    · simp [hamount, not_lt.mpr hamount, pure_eq_ok]
    · have hpos : 0 < amount := not_le.mp hamount
      simp only [if_neg hamount, attempt_bind_eq_ok]
      cases hfind : findExistingPayout db order.id payoutType with
      | some existing =>
        simp only [attempt_bind_eq_ok, pure_eq_ok, mk.injEq]
        constructor
        · rintro ⟨h1, h2, rfl, rfl⟩
          refine .inr ⟨id, rfl, hpos, .inl ⟨existing, rfl, ?_, rfl, rfl⟩⟩
          rintro call rfl hr
          cases call <;> simp_all [PayoutCall.Reached]
        · rintro (⟨h | h, -⟩ | ⟨_, -, -, ⟨_, ⟨⟩, hf, rfl, rfl⟩ | ⟨⟨⟩, -⟩⟩)
          · cases h
          · exact absurd h hamount
          · exact ⟨fun h => hf _ h trivial, fun h => hf _ h rfl, rfl, rfl⟩
      | none =>
        simp only [attempt_bind_eq_ok]
        simp only [bind_eq_ok, attempt_eq_ok, createLedgerEntry_eq_ok, pure_eq_ok, mk.injEq,
          payoutRoundCurrency_fromPaise_add]
        constructor
        · rintro ⟨h1, h2, h3, h4, h5, _, ⟨-, -, rfl⟩, -, h6, rfl, rfl⟩
          refine .inr ⟨id, rfl, hpos, .inr ⟨trivial, ?_, rfl, rfl⟩⟩
          rintro call rfl hr
          cases call <;> simp_all [PayoutCall.Reached]
        · rintro (⟨h | h, -⟩ | ⟨_, ⟨⟩, -, ⟨_, ⟨⟩, -⟩ | ⟨-, hf, rfl, rfl⟩⟩)
          · cases h
          · exact absurd h hamount
          · exact ⟨fun h => hf _ h trivial, fun h => hf _ h rfl, fun h => hf _ h rfl,
              fun h => hf _ h rfl, fun h => hf _ h rfl, _, ⟨ha, trivial, rfl⟩, ⟨⟩,
              fun h => hf _ h rfl, rfl, rfl⟩

/-- A payout is queued, or the books stay as they are. -/
theorem createPendingPayoutForOrder_cases {order : Order} {amount : ℚ}
    (h : createPendingPayoutForOrder db order payoutType beneficiaryId amount
      failsAt = .ok (db', result)) :
    db' = db ∨ ∃ id, 0 ≤ payoutRoundCurrency amount ∧
      db' = db.queuePayout order.id payoutType id (payoutRoundCurrency amount) := by
  by_cases ha : 0 ≤ payoutRoundCurrency amount
  · rcases (createPendingPayoutForOrder_eq_ok ha).mp h with
      ⟨-, hsame, -⟩ | ⟨id, -, -, ⟨_, -, -, hsame, -⟩ | ⟨-, -, hqueued, -⟩⟩
    · exact .inl hsame
    · exact .inl hsame
    · exact .inr ⟨id, ha, hqueued⟩
  · have hamount : amount ≤ 0 := by
      by_contra hpos
      exact ha (payoutRoundCurrency_nonneg (le_of_lt (not_le.mp hpos)))
    left
    unfold createPendingPayoutForOrder at h
    cases beneficiaryId with
    | none => exact (mk.inj (pure_eq_ok.mp h)).1
    | some id =>
      simp only [if_pos hamount] at h
      exact (mk.inj (pure_eq_ok.mp h)).1

theorem processPayout_eq_ok {payoutId : ObjectId} {now : Date} {result : Payout} :
    processPayout db payoutId now = .ok (db', result) ↔
      ∃ payout, db.payouts.get? payoutId = some payout ∧ payout.status.Live ∧
        0 ≤ payout.amount ∧ keyFree db (some (.payoutProcessed payout.id)) ∧
        db' = db.releasePayout payout now ∧ result = payout.completedAt now := by
  unfold processPayout
  cases hget : db.payouts.get? payoutId with
  | none =>
    constructor
    · rintro ⟨⟩
    · rintro ⟨_, ⟨⟩, -⟩
  | some payout =>
    have hlive : ¬ (payout.status ≠ .pending ∧ payout.status ≠ .processing)
        ↔ payout.status.Live := by
      unfold PayoutStatus.Live
      tauto
    have hkey : ∀ owner wallet, keyFree (db.saveWallet owner wallet)
        (some (.payoutProcessed payout.id)) ↔ keyFree db (some (.payoutProcessed payout.id)) :=
      fun _ _ => Iff.rfl
    simp only [ite_throw_eq_ok, hlive, bind_eq_ok, createLedgerEntry_eq_ok, pure_eq_ok,
      payoutRoundCurrency_fromPaise, payoutRoundCurrency_clamped_sub, payoutRoundCurrency_add,
      Db.getOrCreateWallet, hkey, mk.injEq, Option.some.injEq]
    constructor
    · rintro ⟨h, _, ⟨ha, hk, rfl⟩, rfl, rfl⟩
      exact ⟨payout, rfl, h, ha, hk, rfl, rfl⟩
    · rintro ⟨_, rfl, h, ha, hk, rfl, rfl⟩
      exact ⟨h, _, ⟨ha, hk, rfl⟩, rfl, rfl⟩

theorem cancelPendingPayoutForOrder_eq_ok {orderId : ObjectId} :
    cancelPendingPayoutForOrder db orderId payoutType = .ok (db', result) ↔
      (findLivePayout db orderId payoutType = none ∧ db' = db ∧ result = none) ∨
        ∃ payout, findLivePayout db orderId payoutType = some payout ∧ 0 ≤ payout.amount ∧
          db' = db.unqueuePayout orderId payout ∧
          result = some { payout with status := .cancelled } := by
  unfold cancelPendingPayoutForOrder
  cases hfind : findLivePayout db orderId payoutType with
  | none => simp [pure_eq_ok]
  | some payout =>
    simp only [bind_eq_ok, createLedgerEntry_eq_ok, pure_eq_ok, payoutRoundCurrency_fromPaise,
      payoutRoundCurrency_sub_clamped, Db.getOrCreateWallet, mk.injEq, Option.some.injEq]
    constructor
    · rintro ⟨_, ⟨ha, -, rfl⟩, rfl, rfl⟩
      exact .inr ⟨payout, rfl, ha, rfl, rfl⟩
    · rintro (⟨⟨⟩, -⟩ | ⟨_, rfl, ha, rfl, rfl⟩)
      exact ⟨_, ⟨ha, trivial, rfl⟩, rfl, rfl⟩

theorem processAll_fst (now : Date) (db : Db) (payoutIds : List ObjectId) :
    (processAll now db payoutIds).1
      = payoutIds.foldl (fun db payoutId => commit db (processPayout db payoutId now)) db := by
  induction payoutIds generalizing db with
  | nil => rfl
  | cons payoutId rest ih =>
    unfold processAll
    cases h : processPayout db payoutId now with
    | error e => simp [h, ih]
    | ok r =>
      obtain ⟨db', payout⟩ := r
      simp [h, ih]

section QueuePayout

variable (db : Db) (orderId : ObjectId) (payoutType : PayoutType) (id : ObjectId) (a : ℤ)

@[simp] theorem Db.queuePayout_wallets : (db.queuePayout orderId payoutType id a).wallets
    = Function.update db.wallets (payoutTypeToOwnerType payoutType id)
        ((db.wallets (payoutTypeToOwnerType payoutType id)).queued a) := rfl

@[simp] theorem Db.queuePayout_payouts : (db.queuePayout orderId payoutType id a).payouts
    = db.payouts.insert (db.newPayout orderId payoutType id a) := rfl

@[simp] theorem Db.queuePayout_ledger : (db.queuePayout orderId payoutType id a).ledger
    = db.ledger ++ [queuedRow orderId (db.newPayout orderId payoutType id a)] := rfl

@[simp] theorem Db.queuePayout_orders :
    (db.queuePayout orderId payoutType id a).orders = db.orders := rfl

@[simp] theorem Db.queuePayout_auditLog :
    (db.queuePayout orderId payoutType id a).auditLog = db.auditLog := rfl

theorem Db.newPayout_id_notMem :
    (db.newPayout orderId payoutType id a).id ∉ db.payouts.rows.map Payout.id :=
  Table.freshKey_notMem db.payouts

end QueuePayout

end DiscountBazar.Finance
