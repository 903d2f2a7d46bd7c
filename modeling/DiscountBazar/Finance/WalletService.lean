/-
The wallet and ledger services (`walletService.js`, `ledgerService.js`).

A service call is an `Except` computation that passes the store along: the store it
returns is what its Mongo session wrote, and the error it throws aborts that session.
Each function is followed by the lemma that says what it wrote when it succeeded; the
services built on it use that lemma and never unfold it.
-/
import DiscountBazar.Finance.Types

namespace DiscountBazar.Finance

open Transaction

/-- Which balance of a wallet a movement is about. -/
inductive Bucket where
  | available | pending
  deriving DecidableEq

namespace Bucket

def name : Bucket → String
  | available => "available"
  | pending => "pending"

end Bucket

/-- ``wallet[`${bucket}Balance`]``. -/
def Wallet.balance (wallet : Wallet) : Bucket → ℤ
  | .available => wallet.availableBalance
  | .pending => wallet.pendingBalance

/-- Assign to ``wallet[`${bucket}Balance`]``. -/
def Wallet.setBalance (wallet : Wallet) (bucket : Bucket) (value : ℤ) : Wallet :=
  match bucket with
  | .available => { wallet with availableBalance := value }
  | .pending => { wallet with pendingBalance := value }

/-- The optional arguments the wallet movements share: the ledger row to pair with
the movement, whether to mirror it on the user, and whether a session was given. -/
structure MovementOptions where
  ledgerType : Option LedgerTransactionType := none
  ledgerStatus : Option LedgerStatus := none
  orderId : Option ObjectId := none
  payoutId : Option ObjectId := none
  paymentMode : Option PaymentMode := none
  idempotencyKey : Option IdempotencyKey := none
  syncUserWalletBalance : Bool := true
  session : Bool := true

structure Movement where
  amount : ℤ
  before : ℤ
  after : ℤ

/-! ## The ledger -/

/-- The unique index on `idempotencyKey` has no row for this key; rows without a key
are outside the index. -/
def keyFree (db : Db) : Option IdempotencyKey → Prop
  | none => True
  | some key => ∀ row ∈ db.ledger, row.idempotencyKey ≠ some key

instance (db : Db) : DecidablePred (keyFree db)
  | none => isTrue trivial
  | some key => inferInstanceAs (Decidable (∀ row ∈ db.ledger, row.idempotencyKey ≠ some key))

def Db.appendLedger (db : Db) (entry : LedgerEntry) : Db :=
  { db with ledger := db.ledger ++ [entry] }

def duplicateKeyError : ServiceError := ⟨"E11000 duplicate key error", none⟩

/-- `createLedgerEntry`, with the amounts in the row already rounded. A taken key in a
session aborts it, so the lookup of the existing row fails too; without a session the
existing row is the answer and nothing is written. -/
def createLedgerEntry (db : Db) (entry : LedgerEntry) (session : Bool := true) :
    Except ServiceError Db :=
  if entry.amount < 0 then throw ⟨"Ledger amount cannot be negative", none⟩
  else if keyFree db entry.idempotencyKey then pure (db.appendLedger entry)
  else if session then throw duplicateKeyError
  else pure db

section AppendLedger

variable (db : Db) (entry : LedgerEntry)

@[simp] theorem Db.appendLedger_wallets : (db.appendLedger entry).wallets = db.wallets := rfl

@[simp] theorem Db.appendLedger_ledger :
    (db.appendLedger entry).ledger = db.ledger ++ [entry] := rfl

@[simp] theorem Db.appendLedger_payouts : (db.appendLedger entry).payouts = db.payouts := rfl

@[simp] theorem Db.appendLedger_orders : (db.appendLedger entry).orders = db.orders := rfl

@[simp] theorem Db.appendLedger_auditLog : (db.appendLedger entry).auditLog = db.auditLog := rfl

end AppendLedger

variable {db db' : Db}

/-- A free key appends the row; a taken one leaves the store to a call without a
session and fails a call with one. -/
theorem createLedgerEntry_iff {entry : LedgerEntry} {session : Bool} :
    createLedgerEntry db entry session = .ok db' ↔
      0 ≤ entry.amount ∧
        ((keyFree db entry.idempotencyKey ∧ db' = db.appendLedger entry) ∨
          (¬ keyFree db entry.idempotencyKey ∧ session = false ∧ db' = db)) := by
  unfold createLedgerEntry
  rw [ite_throw_eq_ok, not_lt]
  refine and_congr_right (fun _ => ?_)
  by_cases hk : keyFree db entry.idempotencyKey
  · rw [if_pos hk]
    constructor
    · rintro ⟨⟩
      exact .inl ⟨hk, rfl⟩
    · rintro (⟨-, rfl⟩ | ⟨hk', -⟩)
      · rfl
      · exact absurd hk hk'
  · rw [if_neg hk]
    cases session with
    | true =>
      constructor
      · rintro ⟨⟩
      · rintro (⟨hk', -⟩ | ⟨-, hs, -⟩)
        · exact absurd hk' hk
        · cases hs
    | false =>
      constructor
      · rintro ⟨⟩
        exact .inr ⟨hk, rfl, rfl⟩
      · rintro (⟨hk', -⟩ | ⟨-, -, rfl⟩)
        · exact absurd hk' hk
        · rfl

/-- In a session the call succeeds exactly when the amount is not negative and the key
is free, and then the row is appended. -/
theorem createLedgerEntry_eq_ok {entry : LedgerEntry} :
    createLedgerEntry db entry = .ok db' ↔
      0 ≤ entry.amount ∧ keyFree db entry.idempotencyKey ∧ db' = db.appendLedger entry := by
  rw [createLedgerEntry_iff]
  constructor
  · rintro ⟨ha, ⟨hk, h⟩ | ⟨-, hs, -⟩⟩
    · exact ⟨ha, hk, h⟩
    · cases hs
  · rintro ⟨ha, hk, h⟩
    exact ⟨ha, .inl ⟨hk, h⟩⟩

/-! ## Wallet movements -/

section Balance

variable (wallet : Wallet) (v : ℤ)

@[simp] theorem Wallet.balance_available : wallet.balance .available = wallet.availableBalance := rfl

@[simp] theorem Wallet.balance_pending : wallet.balance .pending = wallet.pendingBalance := rfl

@[simp] theorem Wallet.setBalance_available :
    wallet.setBalance .available v = { wallet with availableBalance := v } := rfl

@[simp] theorem Wallet.setBalance_pending :
    wallet.setBalance .pending v = { wallet with pendingBalance := v } := rfl

end Balance

def assertPositiveAmount (amount : ℚ) : Except ServiceError ℤ :=
  if roundCurrency amount ≤ 0 then throw ⟨"Amount must be greater than 0", none⟩
  else pure (roundCurrency amount)

/-- `maybeSyncUserWalletBalance`: the legacy mirror moves with a customer's wallet. -/
def maybeSyncUserWalletBalance (db : Db) (owner : Owner) (signedDelta : ℤ)
    (syncUserWalletBalance : Bool) : Db :=
  match owner with
  | .customer id =>
    if syncUserWalletBalance then
      { db with users := Function.update db.users id (db.users id + signedDelta) }
    else db
  | _ => db

def MovementOptions.entry (options : MovementOptions) (ledgerType : LedgerTransactionType)
    (owner : Owner) (direction : LedgerDirection) (amount before after : ℤ) : LedgerEntry where
  actor := owner
  type := ledgerType
  direction := direction
  amount := amount
  status := options.ledgerStatus.getD .completed
  orderId := options.orderId
  payoutId := options.payoutId
  paymentMode := options.paymentMode
  balanceBefore := some before
  balanceAfter := some after
  idempotencyKey := options.idempotencyKey

def maybeWriteLedgerEntry (db : Db) (owner : Owner) (direction : LedgerDirection)
    (amount before after : ℤ) (options : MovementOptions) : Except ServiceError Db :=
  match options.ledgerType with
  | none => pure db
  | some ledgerType =>
    createLedgerEntry db (options.entry ledgerType owner direction amount before after)
      options.session

def creditWallet (db : Db) (owner : Owner) (amount : ℚ) (bucket : Bucket := .available)
    (options : MovementOptions := {}) : Except ServiceError (Db × Movement) := do
  let normalizedAmount ← assertPositiveAmount amount
  let wallet := db.getOrCreateWallet owner
  if wallet.status ≠ .active then throw ⟨"Wallet is not active", none⟩
  else
    let before := wallet.balance bucket
    let after := addMoney (fromPaise before) (fromPaise normalizedAmount)
    let db := db.saveWallet owner
      { wallet.setBalance bucket after with
        totalCredited :=
          addMoney (fromPaise wallet.totalCredited) (fromPaise normalizedAmount) }
    let db ← maybeWriteLedgerEntry db owner .credit normalizedAmount before after options
    let db :=
      if bucket = .available then
        maybeSyncUserWalletBalance db owner normalizedAmount options.syncUserWalletBalance
      else db
    pure (db, ⟨normalizedAmount, before, after⟩)

def debitWallet (db : Db) (owner : Owner) (amount : ℚ) (bucket : Bucket := .available)
    (options : MovementOptions := {}) : Except ServiceError (Db × Movement) := do
  let normalizedAmount ← assertPositiveAmount amount
  let wallet := db.getOrCreateWallet owner
  if wallet.status ≠ .active then throw ⟨"Wallet is not active", none⟩
  else
    let before := roundCurrency (fromPaise (wallet.balance bucket))
    if before < normalizedAmount then throw ⟨"Insufficient " ++ bucket.name ++ " balance", none⟩
    else
      let after := roundCurrency (fromPaise before - fromPaise normalizedAmount)
      let db := db.saveWallet owner
        { wallet.setBalance bucket after with
          totalDebited :=
            addMoney (fromPaise wallet.totalDebited) (fromPaise normalizedAmount) }
      let db ← maybeWriteLedgerEntry db owner .debit normalizedAmount before after options
      let db :=
        if bucket = .available then
          maybeSyncUserWalletBalance db owner (-normalizedAmount) options.syncUserWalletBalance
        else db
      pure (db, ⟨normalizedAmount, before, after⟩)

/-- `movePendingToAvailable`. The wallet's status is not looked at here. -/
def movePendingToAvailable (db : Db) (owner : Owner) (amount : ℚ)
    (options : MovementOptions := {}) : Except ServiceError (Db × Movement) := do
  let normalizedAmount ← assertPositiveAmount amount
  let wallet := db.getOrCreateWallet owner
  if wallet.pendingBalance < normalizedAmount then throw ⟨"Insufficient pending balance", none⟩
  else
    let availableBefore := roundCurrency (fromPaise wallet.availableBalance)
    let after :=
      roundCurrency (fromPaise wallet.availableBalance + fromPaise normalizedAmount)
    let db := db.saveWallet owner
      { wallet with
        pendingBalance :=
          roundCurrency (fromPaise wallet.pendingBalance - fromPaise normalizedAmount)
        availableBalance := after }
    let db := maybeSyncUserWalletBalance db owner normalizedAmount options.syncUserWalletBalance
    let db ←
      maybeWriteLedgerEntry db owner .credit normalizedAmount availableBefore after options
    pure (db, ⟨normalizedAmount, availableBefore, after⟩)

def updateCashInHand (db : Db) (owner : Owner) (deltaAmount : ℚ)
    (options : MovementOptions := {}) : Except ServiceError (Db × Movement) := do
  let wallet := db.getOrCreateWallet owner
  let delta := roundCurrency deltaAmount
  let before := roundCurrency (fromPaise wallet.cashInHand)
  if delta = 0 then pure (db, ⟨0, before, before⟩)
  else
    let after := clampMoney (fromPaise before + fromPaise delta) 0
    let db := db.saveWallet owner { wallet with cashInHand := after }
    let direction := if 0 ≤ delta then LedgerDirection.credit else .debit
    let db ← maybeWriteLedgerEntry db owner direction |delta| before after options
    pure (db, ⟨delta, before, after⟩)

/-! ## What a movement writes -/

/-- A wallet with `a` credited to a bucket. -/
def Wallet.credited (wallet : Wallet) (bucket : Bucket) (a : ℤ) : Wallet :=
  { wallet.setBalance bucket (wallet.balance bucket + a) with
    totalCredited := wallet.totalCredited + a }

/-- A wallet with `a` debited from a bucket. -/
def Wallet.debited (wallet : Wallet) (bucket : Bucket) (a : ℤ) : Wallet :=
  { wallet.setBalance bucket (wallet.balance bucket - a) with
    totalDebited := wallet.totalDebited + a }

/-- A wallet with `a` moved from the pending to the available balance. -/
def Wallet.moved (wallet : Wallet) (a : ℤ) : Wallet :=
  { wallet with
    pendingBalance := wallet.pendingBalance - a
    availableBalance := wallet.availableBalance + a }

def MovementOptions.Aborts (options : MovementOptions) (db : Db) : Prop :=
  options.ledgerType ≠ none ∧ ¬ keyFree db options.idempotencyKey ∧ options.session = true

def MovementOptions.Writes (options : MovementOptions) (db : Db) : Prop :=
  options.ledgerType ≠ none ∧ keyFree db options.idempotencyKey

section Frame

variable (db : Db) (owner : Owner) (d : ℤ) (sync : Bool)

@[simp] theorem maybeSyncUserWalletBalance_wallets :
    (maybeSyncUserWalletBalance db owner d sync).wallets = db.wallets := by
  unfold maybeSyncUserWalletBalance
  split
  · split <;> rfl
  · rfl

@[simp] theorem maybeSyncUserWalletBalance_ledger :
    (maybeSyncUserWalletBalance db owner d sync).ledger = db.ledger := by
  unfold maybeSyncUserWalletBalance
  split
  · split <;> rfl
  · rfl

@[simp] theorem maybeSyncUserWalletBalance_payouts :
    (maybeSyncUserWalletBalance db owner d sync).payouts = db.payouts := by
  unfold maybeSyncUserWalletBalance
  split
  · split <;> rfl
  · rfl

@[simp] theorem maybeSyncUserWalletBalance_orders :
    (maybeSyncUserWalletBalance db owner d sync).orders = db.orders := by
  unfold maybeSyncUserWalletBalance
  split
  · split <;> rfl
  · rfl

@[simp] theorem maybeSyncUserWalletBalance_admin :
    maybeSyncUserWalletBalance db .admin d sync = db := rfl

end Frame

variable {owner : Owner} {options : MovementOptions}

theorem maybeWriteLedgerEntry_eq_ok {direction : LedgerDirection} {amount before after : ℤ}
    (ha : 0 ≤ amount) :
    maybeWriteLedgerEntry db owner direction amount before after options = .ok db' ↔
      ¬ options.Aborts db ∧
        ((¬ options.Writes db ∧ db' = db) ∨
          ∃ t, options.ledgerType = some t ∧ keyFree db options.idempotencyKey ∧
            db' = db.appendLedger (options.entry t owner direction amount before after)) := by
  unfold maybeWriteLedgerEntry
  cases ht : options.ledgerType with
  | none =>
    have hno : ¬ options.Aborts db := fun h => h.1 ht
    have hwr : ¬ options.Writes db := fun h => h.1 ht
    constructor
    · rintro ⟨⟩
      exact ⟨hno, .inl ⟨hwr, rfl⟩⟩
    · rintro ⟨-, ⟨-, rfl⟩ | ⟨t, ht', -⟩⟩
      · rfl
      · cases ht'
  | some t =>
    have ht' : options.ledgerType ≠ none := by rw [ht]; exact Option.some_ne_none t
    refine createLedgerEntry_iff.trans ?_
    constructor
    · rintro ⟨-, ⟨hk, rfl⟩ | ⟨hk, hs, rfl⟩⟩
      · exact ⟨fun h => h.2.1 hk, .inr ⟨t, rfl, hk, rfl⟩⟩
      · refine ⟨fun h => ?_, .inl ⟨fun h => hk h.2, rfl⟩⟩
        exact Bool.false_ne_true (hs.symm.trans h.2.2)
    · rintro ⟨hno, ⟨hwr, rfl⟩ | ⟨t', ⟨⟩, hk, rfl⟩⟩
      · have hk : ¬ keyFree db' options.idempotencyKey := fun h => hwr ⟨ht', h⟩
        have hs : options.session = false := by
          rw [← Bool.not_eq_true]
          exact fun h => hno ⟨ht', hk, h⟩
        exact ⟨ha, .inr ⟨hk, hs, rfl⟩⟩
      · exact ⟨ha, .inl ⟨hk, rfl⟩⟩

variable {amount : ℚ}

theorem assertPositiveAmount_eq_ok {a : ℤ} :
    assertPositiveAmount amount = .ok a ↔ 0 < roundCurrency amount ∧ a = roundCurrency amount := by
  unfold assertPositiveAmount
  rw [ite_throw_eq_ok, not_le]
  simp [pure, Except.pure, eq_comm]

variable {m : Movement}

theorem creditWallet_eq_ok {bucket : Bucket} :
    creditWallet db owner amount bucket options = .ok (db', m) ↔
      ∃ db₁, 0 < roundCurrency amount ∧ (db.wallets owner).status = .active ∧
        maybeWriteLedgerEntry
            (db.saveWallet owner ((db.wallets owner).credited bucket (roundCurrency amount)))
            owner .credit (roundCurrency amount) ((db.wallets owner).balance bucket)
            ((db.wallets owner).balance bucket + roundCurrency amount) options = .ok db₁ ∧
        db' = (if bucket = .available then
          maybeSyncUserWalletBalance db₁ owner (roundCurrency amount)
            options.syncUserWalletBalance
          else db₁) ∧
        m = ⟨roundCurrency amount, (db.wallets owner).balance bucket,
          (db.wallets owner).balance bucket + roundCurrency amount⟩ := by
  unfold creditWallet
  simp only [bind_eq_ok, assertPositiveAmount_eq_ok, ite_throw_eq_ok, Db.getOrCreateWallet,
    addMoney_fromPaise, ne_eq, not_not]
  constructor
  · rintro ⟨a, ⟨ha, rfl⟩, hactive, db₁, hwrite, h⟩
    simp only [pure, Except.pure, Except.ok.injEq, Prod.mk.injEq] at h
    exact ⟨db₁, ha, hactive, hwrite, h.1.symm, h.2.symm⟩
  · rintro ⟨db₁, ha, hactive, hwrite, rfl, rfl⟩
    exact ⟨_, ⟨ha, rfl⟩, hactive, db₁, hwrite, rfl⟩

theorem debitWallet_eq_ok {bucket : Bucket} :
    debitWallet db owner amount bucket options = .ok (db', m) ↔
      ∃ db₁, 0 < roundCurrency amount ∧ (db.wallets owner).status = .active ∧
        roundCurrency amount ≤ (db.wallets owner).balance bucket ∧
        maybeWriteLedgerEntry
            (db.saveWallet owner ((db.wallets owner).debited bucket (roundCurrency amount)))
            owner .debit (roundCurrency amount) ((db.wallets owner).balance bucket)
            ((db.wallets owner).balance bucket - roundCurrency amount) options = .ok db₁ ∧
        db' = (if bucket = .available then
          maybeSyncUserWalletBalance db₁ owner (-roundCurrency amount)
            options.syncUserWalletBalance
          else db₁) ∧
        m = ⟨roundCurrency amount, (db.wallets owner).balance bucket,
          (db.wallets owner).balance bucket - roundCurrency amount⟩ := by
  unfold debitWallet
  simp only [bind_eq_ok, assertPositiveAmount_eq_ok, ite_throw_eq_ok, Db.getOrCreateWallet,
    addMoney_fromPaise, roundCurrency_fromPaise, roundCurrency_sub, ne_eq, not_not, not_lt]
  constructor
  · rintro ⟨a, ⟨ha, rfl⟩, hactive, hle, db₁, hwrite, h⟩
    simp only [pure, Except.pure, Except.ok.injEq, Prod.mk.injEq] at h
    exact ⟨db₁, ha, hactive, hle, hwrite, h.1.symm, h.2.symm⟩
  · rintro ⟨db₁, ha, hactive, hle, hwrite, rfl, rfl⟩
    exact ⟨_, ⟨ha, rfl⟩, hactive, hle, db₁, hwrite, rfl⟩

theorem movePendingToAvailable_eq_ok :
    movePendingToAvailable db owner amount options = .ok (db', m) ↔
      0 < roundCurrency amount ∧ roundCurrency amount ≤ (db.wallets owner).pendingBalance ∧
        maybeWriteLedgerEntry
            (maybeSyncUserWalletBalance
              (db.saveWallet owner ((db.wallets owner).moved (roundCurrency amount)))
              owner (roundCurrency amount) options.syncUserWalletBalance)
            owner .credit (roundCurrency amount) (db.wallets owner).availableBalance
            ((db.wallets owner).availableBalance + roundCurrency amount) options
          = .ok db' ∧
        m = ⟨roundCurrency amount, (db.wallets owner).availableBalance,
          (db.wallets owner).availableBalance + roundCurrency amount⟩ := by
  unfold movePendingToAvailable
  simp only [bind_eq_ok, assertPositiveAmount_eq_ok, ite_throw_eq_ok, Db.getOrCreateWallet,
    roundCurrency_fromPaise, roundCurrency_add, roundCurrency_sub, not_lt]
  constructor
  · rintro ⟨a, ⟨ha, rfl⟩, hle, db₁, hwrite, h⟩
    simp only [pure, Except.pure, Except.ok.injEq, Prod.mk.injEq] at h
    obtain ⟨rfl, rfl⟩ := h
    exact ⟨ha, hle, hwrite, rfl⟩
  · rintro ⟨ha, hle, hwrite, rfl⟩
    exact ⟨_, ⟨ha, rfl⟩, hle, db', hwrite, rfl⟩

/-! ## Movements without a ledger row

The order finance services write their own ledger rows and call the movements without
`ledgerType`. -/

@[simp] theorem maybeWriteLedgerEntry_none (db : Db) (owner : Owner) (direction : LedgerDirection)
    (amount before after : ℤ) :
    maybeWriteLedgerEntry db owner direction amount before after {} = .ok db := rfl

/-- The platform's credit, as capture and remittance make it. -/
theorem creditWallet_admin_eq_ok :
    creditWallet db .admin amount = .ok (db', m) ↔
      0 < roundCurrency amount ∧ (db.wallets .admin).status = .active ∧
        db' = db.saveWallet .admin
          ((db.wallets .admin).credited .available (roundCurrency amount)) ∧
        m = ⟨roundCurrency amount, (db.wallets .admin).availableBalance,
          (db.wallets .admin).availableBalance + roundCurrency amount⟩ := by
  rw [creditWallet_eq_ok]
  simp only [maybeWriteLedgerEntry_none, Except.ok.injEq, if_true,
    maybeSyncUserWalletBalance_admin, Wallet.balance_available]
  constructor
  · rintro ⟨db₁, ha, hactive, rfl, rfl, rfl⟩
    exact ⟨ha, hactive, rfl, rfl⟩
  · rintro ⟨ha, hactive, rfl, rfl⟩
    exact ⟨_, ha, hactive, rfl, rfl, rfl⟩

/-- Cash in hand after a movement of `delta` paise: `clampMoney` between zero and
`MAX_SAFE_INTEGER`. -/
def Wallet.withCash (wallet : Wallet) (delta : ℤ) : Wallet :=
  if delta = 0 then wallet
  else { wallet with cashInHand := min (max (wallet.cashInHand + delta) 0) maxPaise }

theorem updateCashInHand_iff {deltaAmount : ℚ} :
    (∃ m, updateCashInHand db owner deltaAmount options = .ok (db', m)) ↔
      (roundCurrency deltaAmount = 0 ∧ db' = db) ∨
        (roundCurrency deltaAmount ≠ 0 ∧
          maybeWriteLedgerEntry
            (db.saveWallet owner ((db.wallets owner).withCash (roundCurrency deltaAmount))) owner
            (if 0 ≤ roundCurrency deltaAmount then .credit else .debit)
            |roundCurrency deltaAmount| (db.wallets owner).cashInHand
            ((db.wallets owner).withCash (roundCurrency deltaAmount)).cashInHand options
            = .ok db') := by
  unfold updateCashInHand
  simp only [Db.getOrCreateWallet, roundCurrency_fromPaise, clampMoney_add]
  by_cases hd : roundCurrency deltaAmount = 0
  · simp [hd, pure_eq_ok]
  · have hcash : (db.wallets owner).withCash (roundCurrency deltaAmount)
        = { db.wallets owner with
            cashInHand :=
              min (max ((db.wallets owner).cashInHand + roundCurrency deltaAmount) 0) maxPaise } :=
      if_neg hd
    simp only [if_neg hd, bind_eq_ok, pure_eq_ok, Prod.mk.injEq, hcash]
    constructor
    · rintro ⟨m, db₁, hwrite, rfl, -⟩
      exact .inr ⟨hd, hwrite⟩
    · rintro (⟨h, -⟩ | ⟨-, hwrite⟩)
      · exact absurd h hd
      · exact ⟨_, db', hwrite, rfl, rfl⟩

theorem updateCashInHand_eq_ok {deltaAmount : ℚ}
    (h : updateCashInHand db owner deltaAmount = .ok (db', m)) :
    db' = db.saveWallet owner ((db.wallets owner).withCash (roundCurrency deltaAmount)) := by
  rcases updateCashInHand_iff.mp ⟨m, h⟩ with ⟨hd, rfl⟩ | ⟨-, hwrite⟩
  · rw [Wallet.withCash, if_pos hd]
    simp [Db.saveWallet]
  · rw [maybeWriteLedgerEntry_none] at hwrite
    injection hwrite with hwrite
    exact hwrite.symm

theorem updateCashInHand_isOk (db : Db) (owner : Owner) (deltaAmount : ℚ) :
    ∃ r, updateCashInHand db owner deltaAmount = .ok r := by
  by_cases hd : roundCurrency deltaAmount = 0
  · obtain ⟨m, h⟩ := updateCashInHand_iff.mpr (.inl ⟨hd, rfl⟩)
    exact ⟨_, h⟩
  · obtain ⟨m, h⟩ := updateCashInHand_iff.mpr (.inr ⟨hd, maybeWriteLedgerEntry_none _ _ _ _ _ _⟩)
    exact ⟨_, h⟩

end DiscountBazar.Finance
