/-
Wallets against the ledger (`jobs/walletLedgerVerifierJob.js`).

The verifier compares an owner's available and pending balances with the credits less the
debits in its ledger rows. What each operation moves on either side is its drift; the main
result says which steps have none, and so for which runs the verifier stays silent.
-/
import DiscountBazar.Finance.CodRiderPay
import DiscountBazar.Finance.PayoutBooks

namespace DiscountBazar.Finance

open Transaction Function Runs Wallet List Option LedgerEntry

/-! ## The verifier -/

/-- The rows the verifier matches: the owner's, but for the failed ones. -/
def verifiedRows (db : Db) (owner : Owner) : List LedgerEntry :=
  db.ledger.filter (fun row => decide (row.actor = owner ∧ row.status ≠ .failed))

def directionTotal (rows : List LedgerEntry) (direction : LedgerDirection) : ℤ :=
  (rows.map (fun row => if row.direction = direction then row.amount else 0)).sum

def ledgerNet (db : Db) (owner : Owner) : ℤ :=
  directionTotal (verifiedRows db owner) .credit - directionTotal (verifiedRows db owner) .debit

/-- The balances the verifier counts; cash in hand is not one of them. -/
def Wallet.net (wallet : Wallet) : ℤ := wallet.availableBalance + wallet.pendingBalance

/-- What `verifyOneWallet` returns. -/
structure Verification where
  drifted : Bool
  drift : ℤ
  deriving DecidableEq

def verifyOneWallet (db : Db) (owner : Owner) (tolerance : ℚ) : Verification :=
  let rows := verifiedRows db owner
  let credit := roundCurrency (fromPaise (directionTotal rows .credit))
  let debit := roundCurrency (fromPaise (directionTotal rows .debit))
  let ledgerNet := roundCurrency (fromPaise credit - fromPaise debit)
  let wallet := db.wallets owner
  let walletNet :=
    roundCurrency (fromPaise wallet.availableBalance + fromPaise wallet.pendingBalance)
  let drift := roundCurrency (fromPaise walletNet - fromPaise ledgerNet)
  ⟨decide (tolerance < |fromPaise drift|), drift⟩

def drift (db : Db) (owner : Owner) : ℤ := (db.wallets owner).net - ledgerNet db owner

theorem verifyOneWallet_drift (db : Db) (owner : Owner) (tolerance : ℚ) :
    (verifyOneWallet db owner tolerance).drift = drift db owner := by
  simp only [verifyOneWallet, roundCurrency_fromPaise, roundCurrency_sub, roundCurrency_add]
  rfl

def Owner.isCustomer : Owner → Bool
  | .customer _ => true
  | _ => false

def Agrees (db : Db) : Prop :=
  ∀ owner : Owner, owner.isCustomer = false → ledgerNet db owner = (db.wallets owner).net

variable {owner : Owner}

theorem verifyOneWallet_silent {db : Db} (h : Agrees db) (howner : owner.isCustomer = false)
    {tolerance : ℚ} (htol : 0 ≤ tolerance) :
    verifyOneWallet db owner tolerance = ⟨false, 0⟩ := by
  have hzero : (verifyOneWallet db owner tolerance).drift = 0 := by
    rw [verifyOneWallet_drift, drift, h owner howner, sub_self]
  have hfalse : (verifyOneWallet db owner tolerance).drifted = false := by
    show decide (tolerance < |fromPaise (verifyOneWallet db owner tolerance).drift|) = false
    rw [hzero, fromPaise_zero, abs_zero]
    exact decide_eq_false (not_lt.mpr htol)
  cases hv : verifyOneWallet db owner tolerance with
  | mk drifted d =>
    rw [hv] at hzero hfalse
    simp only at hzero hfalse
    rw [hzero, hfalse]

/-! ## How drift moves -/

/-- What a row adds to its owner's ledger net. -/
def LedgerEntry.signed (row : LedgerEntry) : ℤ :=
  if row.status = .failed then 0
  else
    match row.direction with
    | .credit => row.amount
    | .debit => -row.amount

variable {db db' : Db}

theorem ledgerNet_append {row : LedgerEntry} (h : db'.ledger = db.ledger ++ [row]) (owner : Owner) :
    ledgerNet db' owner = ledgerNet db owner + if row.actor = owner then row.signed else 0 := by
  unfold ledgerNet verifiedRows
  rw [h, filter_append]
  by_cases hactor : row.actor = owner
  · by_cases hstatus : row.status = .failed
    · simp [hactor, hstatus, signed]
    · cases hd : row.direction with
      | credit | debit =>
        simp only [hactor, hstatus, ne_eq, not_false_eq_true, and_self, decide_true,
          filter_cons_of_pos, filter_nil, directionTotal, map_append,
          sum_append, map_cons, map_nil, sum_cons, sum_nil, hd,
          if_true, reduceCtorEq, if_false, signed]
        omega
  · simp [hactor]

theorem drift_wallet (db db' : Db) {wallet : Wallet}
    (hw : db'.wallets = update db.wallets owner wallet) (hl : db'.ledger = db.ledger)
    (o : Owner) :
    drift db' o = drift db o + if o = owner then wallet.net - (db.wallets owner).net else 0 := by
  have hledger : ledgerNet db' o = ledgerNet db o := by
    unfold ledgerNet verifiedRows
    rw [hl]
  unfold drift
  rw [hledger, hw, update_apply]
  by_cases h : o = owner
  · rw [if_pos h, if_pos h, h]
    omega
  · rw [if_neg h, if_neg h, add_zero]

theorem drift_row (db db' : Db) {row : LedgerEntry} (hw : db'.wallets = db.wallets)
    (hl : db'.ledger = db.ledger ++ [row]) (o : Owner) :
    drift db' o = drift db o - if o = row.actor then row.signed else 0 := by
  have hactor : (row.actor = o) = (o = row.actor) := propext eq_comm
  unfold drift
  rw [hw, ledgerNet_append hl]
  simp only [hactor]
  split <;> omega

theorem drift_congr (hw : db'.wallets = db.wallets) (hl : db'.ledger = db.ledger) (o : Owner) :
    drift db' o = drift db o := by
  unfold drift ledgerNet verifiedRows
  rw [hw, hl]

theorem agrees_iff_drift {db : Db} :
    Agrees db ↔ ∀ owner : Owner, owner.isCustomer = false → drift db owner = 0 := by
  unfold Agrees drift
  refine forall_congr' (fun owner => imp_congr_right (fun _ => ?_))
  constructor
  · intro h
    omega
  · intro h
    omega

theorem agrees_step_iff {d : ℤ} (h : Agrees db)
    (hdrift : ∀ o, drift db' o = drift db o + if o = owner then d else 0) :
    Agrees db' ↔ owner.isCustomer = true ∨ d = 0 := by
  rw [agrees_iff_drift] at h ⊢
  constructor
  · intro h'
    cases hc : owner.isCustomer with
    | true => exact .inl rfl
    | false =>
      have hafter := h' owner hc
      rw [hdrift, h owner hc, if_pos rfl, zero_add] at hafter
      exact .inr hafter
  · intro hd o ho
    rw [hdrift, h o ho, zero_add]
    split
    · rename_i hown
      rcases hd with hc | hd
      · rw [← hown, ho] at hc
        cases hc
      · exact hd
    · rfl

/-! ## The drift of each write -/

section Writes

variable (db : Db)

theorem drift_wallet_row (db db' : Db) {owner : Owner} {wallet : Wallet} {row : LedgerEntry}
    (hw : db'.wallets = update db.wallets owner wallet)
    (hl : db'.ledger = db.ledger ++ [row]) (hactor : row.actor = owner) (o : Owner) :
    drift db' o = drift db o
      + if o = owner then wallet.net - (db.wallets owner).net - row.signed else 0 := by
  have hmid := drift_wallet db (db.saveWallet owner wallet) rfl rfl o
  have hend := drift_row (db.saveWallet owner wallet) db' hw hl o
  rw [hactor] at hend
  rw [hend, hmid]
  split <;> omega

theorem drift_queuePayout (orderId : ObjectId) (payoutType : PayoutType) (id : ObjectId) (a : ℤ)
    (o : Owner) : drift (db.queuePayout orderId payoutType id a) o = drift db o := by
  rw [drift_wallet_row db _ (Db.queuePayout_wallets db orderId payoutType id a)
    (Db.queuePayout_ledger db orderId payoutType id a) rfl]
  have hzero : ((db.wallets (payoutTypeToOwnerType payoutType id)).queued a).net
      - (db.wallets (payoutTypeToOwnerType payoutType id)).net
      - (queuedRow orderId (db.newPayout orderId payoutType id a)).signed = 0 := by
    simp only [net, queued, signed, queuedRow, Db.newPayout, reduceCtorEq, if_false]
    omega
  rw [hzero, ite_self, add_zero]

/-- Processing credits the ledger again while the wallet only moves money between its
balances. -/
theorem drift_releasePayout (payout : Payout) (now : Date) (o : Owner) :
    drift (db.releasePayout payout now) o = drift db o
      + if o = payout.owner then
          max 0 ((db.wallets payout.owner).pendingBalance - payout.amount)
            - (db.wallets payout.owner).pendingBalance
        else 0 := by
  rw [drift_wallet_row db (db.releasePayout payout now) rfl rfl rfl]
  simp only [net, released, signed, processedRow, reduceCtorEq, if_false]
  split <;> omega

theorem drift_unqueuePayout (orderId : ObjectId) (payout : Payout) (o : Owner) :
    drift (db.unqueuePayout orderId payout) o = drift db o
      + if o = payout.owner then
          max ((db.wallets payout.owner).pendingBalance - payout.amount) 0
            - (db.wallets payout.owner).pendingBalance + payout.amount
        else 0 := by
  rw [drift_wallet_row db (db.unqueuePayout orderId payout) rfl rfl rfl]
  simp only [net, unqueued, signed, cancelledRow, reduceCtorEq, if_false]
  split <;> omega

theorem drift_captureOnline (order : Order) (o : Owner) :
    drift (db.captureOnline order) o = drift db o := by
  rw [drift_wallet_row db (db.captureOnline order) rfl rfl rfl]
  simp only [net, credited, setBalance_available, balance_available,
    signed, capturedRow, reduceCtorEq, if_false]
  split <;> omega

theorem drift_collectCod (order : Order) (partnerId : ObjectId) (gross : ℤ) (o : Owner) :
    drift (db.collectCod order partnerId gross) o = drift db o
      + if o = .deliveryPartner partnerId then -codNet order gross else 0 := by
  rw [drift_wallet_row db (db.collectCod order partnerId gross) rfl rfl rfl]
  have hnet : ((db.wallets (.deliveryPartner partnerId)).withCash (codNet order gross)).net
      = (db.wallets (.deliveryPartner partnerId)).net := by
    unfold withCash
    split <;> rfl
  rw [hnet]
  simp only [signed, collectedRow, reduceCtorEq, if_false]
  split <;> omega

theorem drift_remitCod (order : Order) (partnerId : ObjectId) (requested : ℤ) (now : Date)
    (o : Owner) :
    drift (db.remitCod order partnerId requested now) o = drift db o
      + if o = .deliveryPartner partnerId then requested else 0 := by
  have hrider : ∀ o, drift ((db.saveWallet (.deliveryPartner partnerId)
      ((db.wallets (.deliveryPartner partnerId)).withCash (-requested))).appendLedger
      (remittedRow order partnerId requested)) o = drift db o
        + if o = .deliveryPartner partnerId then requested else 0 := by
    intro o
    rw [drift_wallet_row db _ rfl rfl rfl]
    have hnet : ((db.wallets (.deliveryPartner partnerId)).withCash (-requested)).net
        = (db.wallets (.deliveryPartner partnerId)).net := by
      unfold withCash
      split <;> rfl
    rw [hnet]
    simp only [signed, remittedRow, reduceCtorEq, if_false]
    split <;> omega
  have hadmin : ((db.saveWallet (.deliveryPartner partnerId)
      ((db.wallets (.deliveryPartner partnerId)).withCash (-requested))).appendLedger
      (remittedRow order partnerId requested)).wallets .admin = db.wallets .admin := rfl
  have hledger : (db.remitCod order partnerId requested now).ledger
      = ((db.saveWallet (.deliveryPartner partnerId)
        ((db.wallets (.deliveryPartner partnerId)).withCash (-requested))).appendLedger
        (remittedRow order partnerId requested)).ledger
          ++ [remittanceRow order (db.wallets .admin) requested] := rfl
  have hcredit := drift_wallet_row ((db.saveWallet (.deliveryPartner partnerId)
      ((db.wallets (.deliveryPartner partnerId)).withCash (-requested))).appendLedger
      (remittedRow order partnerId requested)) (db.remitCod order partnerId requested now)
    rfl hledger rfl o
  rw [← hrider o, hcredit, hadmin]
  simp only [net, credited, setBalance_available, balance_available,
    signed, remittanceRow, reduceCtorEq, if_false]
  split <;> omega

theorem earningLedger (order : Order) :
    ((db.appendLedger (earningRow order)).audit (.orderDeliveredSettled order.id
      order.paymentBreakdown.platformTotalEarning)).ledger = db.ledger ++ [earningRow order] := rfl

theorem drift_creditEarning (order : Order) (o : Owner) :
    drift (db.creditEarning order) o = drift db o
      + if o = .admin then
          (if EarningDue order then -order.paymentBreakdown.platformTotalEarning else 0)
        else 0 := by
  unfold Db.creditEarning
  by_cases hdue : EarningDue order
  · have hrow := drift_row db ((db.appendLedger (earningRow order)).audit
      (.orderDeliveredSettled order.id order.paymentBreakdown.platformTotalEarning)) rfl
      (earningLedger db order) o
    rw [if_pos hdue, hrow]
    simp only [signed, earningRow, reduceCtorEq, if_false, if_pos hdue]
    split <;> omega
  · rw [if_neg hdue, if_neg hdue, ite_self, add_zero]

theorem drift_settlePayout (order : Order) (payoutType : PayoutType) (o : Owner) :
    drift (db.settlePayout order payoutType) o = drift db o := by
  unfold Db.settlePayout
  split
  · rfl
  · split
    · exact drift_queuePayout db _ _ _ _ o
    · rfl

theorem drift_settlePayouts (order : Order) (o : Owner) :
    drift (db.settlePayouts order) o = drift db o := by
  rw [Db.settlePayouts, drift_settlePayout, drift_settlePayout]

theorem drift_leftBy (order : Order) (call : SettleCall) (o : Owner) :
    drift (db.leftBy order call) o = drift db o := by
  have hboth : drift (db.settlePayouts order) o = drift db o := drift_settlePayouts db order o
  have hseller : drift (db.settlePayout order .seller) o = drift db o :=
    drift_settlePayout db order .seller o
  cases call with
  | findOrder | sellerPayout => rfl
  | riderPayout c => exact hseller
  | getAdminWallet | createLedgerEntry | createAuditLog | saveOrder
  | commitTransaction => exact hboth

theorem drift_settledBy (order : Order) (env : Env) (now : Date) (o : Owner) :
    drift (db.settledBy order env now) o = drift db o
      + if o = .admin then
          (if EarningDue order then -order.paymentBreakdown.platformTotalEarning else 0)
        else 0 := by
  have hsave : drift (db.settledBy order env now) o
      = drift ((db.settlePayouts order).creditEarning order) o := drift_congr rfl rfl o
  rw [hsave, drift_creditEarning, drift_settlePayouts]

end Writes

/-! ## The drift of the wallet movements -/

def MovementOptions.Counts (options : MovementOptions) (db : Db) : Prop :=
  options.Writes db ∧ options.ledgerStatus ≠ some .failed

instance (options : MovementOptions) : DecidablePred options.Counts := fun db =>
  inferInstanceAs (Decidable ((options.ledgerType ≠ none ∧ keyFree db options.idempotencyKey) ∧
    options.ledgerStatus ≠ some .failed))

def LedgerDirection.signed : LedgerDirection → ℤ → ℤ
  | .credit, amount => amount
  | .debit, amount => -amount

theorem drift_maybeWrite {direction : LedgerDirection} {amount before after : ℤ}
    {options : MovementOptions} (ha : 0 ≤ amount)
    (h : maybeWriteLedgerEntry db owner direction amount before after options = .ok db') (o : Owner) :
    drift db' o = drift db o
      - if o = owner then (if options.Counts db then direction.signed amount else 0) else 0 := by
  obtain ⟨-, ⟨hno, rfl⟩ | ⟨t, ht, hkey, rfl⟩⟩ := (maybeWriteLedgerEntry_eq_ok ha).mp h
  · have hnot : ¬ options.Counts db' := fun hc => hno hc.1
    rw [if_neg hnot, ite_self, sub_zero]
  · have hwrites : options.Writes db := ⟨by rw [ht]; exact some_ne_none t, hkey⟩
    rw [drift_row db (db.appendLedger (options.entry t owner direction amount before after)) rfl rfl]
    -- The row's status is completed unless the options say otherwise.
    have hfailed : (options.entry t owner direction amount before after).status = .failed ↔
        options.ledgerStatus = some .failed := by
      unfold MovementOptions.entry
      cases options.ledgerStatus with
      | none | some => simp
    have hsigned : (options.entry t owner direction amount before after).signed
        = if options.Counts db then direction.signed amount else 0 := by
      unfold signed
      by_cases hstatus : options.ledgerStatus = some .failed
      · rw [if_pos (hfailed.mpr hstatus), if_neg (fun hc => hc.2 hstatus)]
      · rw [if_neg (fun h => hstatus (hfailed.mp h)), if_pos ⟨hwrites, hstatus⟩]
        cases direction with
        | credit | debit => rfl
    rw [hsigned]
    rfl

theorem Wallet.net_credited (wallet : Wallet) (bucket : Bucket) (a : ℤ) :
    (wallet.credited bucket a).net = wallet.net + a := by
  cases bucket with
  | available =>
    simp only [net, credited, setBalance_available, balance_available]
    omega
  | pending =>
    simp only [net, credited, setBalance_pending, balance_pending]
    omega

theorem Wallet.net_debited (wallet : Wallet) (bucket : Bucket) (a : ℤ) :
    (wallet.debited bucket a).net = wallet.net - a := by
  cases bucket with
  | available =>
    simp only [net, debited, setBalance_available, balance_available]
    omega
  | pending =>
    simp only [net, debited, setBalance_pending, balance_pending]
    omega

section Movements

variable {db db' : Db} {owner : Owner} {amount : ℚ} {bucket : Bucket} {options : MovementOptions}
  {m : Movement}

theorem keyFree_congr {mid : Db} (hl : mid.ledger = db.ledger) (key : Option IdempotencyKey) :
    keyFree mid key ↔ keyFree db key := by
  unfold keyFree
  rw [hl]

/-- A wallet is saved and then its row is written. -/
theorem drift_written (db : Db) {mid : Db} {wallet : Wallet} {direction : LedgerDirection}
    {a before after : ℤ} (ha : 0 ≤ a)
    (hwrite : maybeWriteLedgerEntry mid owner direction a before after options = .ok db')
    (hw : mid.wallets = update db.wallets owner wallet) (hl : mid.ledger = db.ledger)
    (o : Owner) :
    drift db' o = drift db o
      + if o = owner then wallet.net - (db.wallets owner).net
          - (if options.Counts db then direction.signed a else 0) else 0 := by
  have hcounts : options.Counts mid ↔ options.Counts db :=
    and_congr_left' (and_congr_right' (keyFree_congr hl _))
  rw [drift_maybeWrite ha hwrite o, drift_wallet db mid hw hl o]
  simp only [hcounts]
  split <;> omega

theorem drift_synced (db : Db) (delta : ℤ) (o : Owner) :
    drift (if bucket = .available then
      maybeSyncUserWalletBalance db owner delta options.syncUserWalletBalance else db) o
        = drift db o := by
  split
  · exact drift_congr (by simp) (by simp) o
  · rfl

theorem drift_creditWallet (h : creditWallet db owner amount bucket options = .ok (db', m))
    (o : Owner) :
    drift db' o = drift db o
      + if o = owner then (if options.Counts db then 0 else roundCurrency amount) else 0 := by
  obtain ⟨db₁, hpos, -, hwrite, rfl, -⟩ := creditWallet_eq_ok.mp h
  rw [drift_synced, drift_written db (le_of_lt hpos) hwrite rfl rfl, net_credited]
  simp only [LedgerDirection.signed]
  split
  · split <;> omega
  · rfl

theorem drift_debitWallet (h : debitWallet db owner amount bucket options = .ok (db', m))
    (o : Owner) :
    drift db' o = drift db o
      + if o = owner then (if options.Counts db then 0 else -roundCurrency amount) else 0 := by
  obtain ⟨db₁, hpos, -, -, hwrite, rfl, -⟩ := debitWallet_eq_ok.mp h
  rw [drift_synced, drift_written db (le_of_lt hpos) hwrite rfl rfl, net_debited]
  simp only [LedgerDirection.signed]
  split
  · split <;> omega
  · rfl

/-- Moving within a wallet has no counterpart for its row. -/
theorem drift_movePendingToAvailable
    (h : movePendingToAvailable db owner amount options = .ok (db', m)) (o : Owner) :
    drift db' o = drift db o
      + if o = owner then (if options.Counts db then -roundCurrency amount else 0) else 0 := by
  obtain ⟨hpos, -, hwrite, -⟩ := movePendingToAvailable_eq_ok.mp h
  have hnet : ((db.wallets owner).moved (roundCurrency amount)).net = (db.wallets owner).net := by
    simp only [net, moved]
    omega
  rw [drift_written db (le_of_lt hpos) hwrite (maybeSyncUserWalletBalance_wallets _ _ _ _)
    (maybeSyncUserWalletBalance_ledger _ _ _ _), hnet]
  simp only [LedgerDirection.signed]
  split
  · split <;> omega
  · rfl

theorem drift_updateCashInHand (h : updateCashInHand db owner amount options = .ok (db', m))
    (o : Owner) :
    drift db' o = drift db o
      + if o = owner then (if options.Counts db then -roundCurrency amount else 0) else 0 := by
  rcases updateCashInHand_iff.mp ⟨m, h⟩ with ⟨hzero, rfl⟩ | ⟨-, hwrite⟩
  · rw [hzero, neg_zero, ite_self, ite_self, add_zero]
  · have hnet : ((db.wallets owner).withCash (roundCurrency amount)).net
        = (db.wallets owner).net := by
      unfold withCash
      split <;> rfl
    have hsigned : (if 0 ≤ roundCurrency amount then LedgerDirection.credit else .debit).signed
        |roundCurrency amount| = roundCurrency amount := by
      by_cases hsign : 0 ≤ roundCurrency amount
      · rw [if_pos hsign, LedgerDirection.signed, abs_of_nonneg hsign]
      · rw [if_neg hsign, LedgerDirection.signed, abs_of_neg (not_le.mp hsign), neg_neg]
    rw [drift_written db (abs_nonneg _) hwrite rfl rfl, hnet, hsigned]
    split
    · split <;> omega
    · rfl

end Movements

/-! ## Runs -/

/-- The operations on payouts, captures, deliveries and wallets. A bulk call is a run of
single processings (`financeStep_bulk`). -/
inductive FinanceOp where
  | createPendingPayoutForOrder (order : Order) (payoutType : PayoutType)
      (beneficiaryId : Option ObjectId) (amount : ℚ) (failsAt : Option PayoutCall)
  | processPayout (payoutId : ObjectId) (now : Date)
  | cancelPendingPayoutForOrder (orderId : ObjectId) (payoutType : PayoutType)
  | handleOnlineOrderFinance (orderId : ObjectId)
  | delivery (op : DeliveryOp)
  | creditWallet (owner : Owner) (amount : ℚ) (bucket : Bucket) (options : MovementOptions)
  | debitWallet (owner : Owner) (amount : ℚ) (bucket : Bucket) (options : MovementOptions)
  | movePendingToAvailable (owner : Owner) (amount : ℚ) (options : MovementOptions)
  | updateCashInHand (owner : Owner) (deltaAmount : ℚ) (options : MovementOptions)

/-- The store after an operation; one that throws leaves it as it was, but for what a
settlement has committed before. -/
def financeStep (env : Env) (db : Db) : FinanceOp → Db
  | .createPendingPayoutForOrder order payoutType beneficiaryId amount failsAt =>
    commit db
      (DiscountBazar.Finance.createPendingPayoutForOrder db order payoutType beneficiaryId
        amount failsAt)
  | .processPayout payoutId now => commit db (DiscountBazar.Finance.processPayout db payoutId now)
  | .cancelPendingPayoutForOrder orderId payoutType =>
    commit db (DiscountBazar.Finance.cancelPendingPayoutForOrder db orderId payoutType)
  | .handleOnlineOrderFinance orderId =>
    commit db (DiscountBazar.Finance.handleOnlineOrderFinance db orderId)
  | .delivery op => deliveryStep env db op
  | .creditWallet owner amount bucket options =>
    commit db (DiscountBazar.Finance.creditWallet db owner amount bucket options)
  | .debitWallet owner amount bucket options =>
    commit db (DiscountBazar.Finance.debitWallet db owner amount bucket options)
  | .movePendingToAvailable owner amount options =>
    commit db (DiscountBazar.Finance.movePendingToAvailable db owner amount options)
  | .updateCashInHand owner deltaAmount options =>
    commit db (DiscountBazar.Finance.updateCashInHand db owner deltaAmount options)

theorem financeStep_bulk (env : Env) (db : Db) (payoutIds : List ObjectId)
    (payoutType : Option PayoutType) (limit : ℤ) (now : Date) :
    ∃ targets : List ObjectId, (bulkProcessPayouts db payoutIds payoutType limit now).1
      = exec (financeStep env) db (targets.map (fun id => .processPayout id now)) := by
  refine ⟨if payoutIds = [] then selectPayouts db payoutType limit else payoutIds, ?_⟩
  show (processAll now db _).1 = _
  rw [processAll_fst, exec, foldl_map]
  rfl

/-- An operation that goes through moves the wallets of others than customers exactly as
it moves their ledger. Queueing and capturing always do. -/
def Matched (db : Db) : FinanceOp → Prop
  | .createPendingPayoutForOrder .. | .handleOnlineOrderFinance _ => True
  | .processPayout payoutId _ => ∀ payout, db.payouts.get? payoutId = some payout →
      payout.status.Live → keyFree db (some (.payoutProcessed payout.id)) →
      payout.amount ≤ 0 ∨ (db.wallets payout.owner).pendingBalance = 0
  | .cancelPendingPayoutForOrder orderId payoutType => ∀ payout,
      findLivePayout db orderId payoutType = some payout →
      payout.amount ≤ (db.wallets payout.owner).pendingBalance
  | .delivery (.settleDeliveredOrder orderId _ failsAt) => ∀ order,
      db.orders.get? orderId = some order → Settleable order → EarningDue order →
      ∃ call, failsAt = some call ∧ SettleReached db order call
  | .delivery (.cod (.handleCodOrderFinance orderId amount deliveryPartnerId)) =>
    ∀ order partnerId, db.orders.get? orderId = some order →
    Collects order amount deliveryPartnerId partnerId →
    codNet order (codAmountGross order amount) = 0
  | .delivery (.cod (.reconcileCodCash orderId amount deliveryPartnerId _)) =>
    ∀ order partnerId, db.orders.get? orderId = some order →
    ¬ Remits db order amount deliveryPartnerId partnerId
  | .creditWallet owner amount _ options => 0 < roundCurrency amount →
      (db.wallets owner).status = .active → ¬ options.Aborts db →
      owner.isCustomer = true ∨ options.Counts db
  | .debitWallet owner amount bucket options => 0 < roundCurrency amount →
      (db.wallets owner).status = .active →
      roundCurrency amount ≤ (db.wallets owner).balance bucket → ¬ options.Aborts db →
      owner.isCustomer = true ∨ options.Counts db
  | .movePendingToAvailable owner amount options => 0 < roundCurrency amount →
      roundCurrency amount ≤ (db.wallets owner).pendingBalance →
      owner.isCustomer = true ∨ ¬ options.Counts db
  | .updateCashInHand owner deltaAmount options => roundCurrency deltaAmount ≠ 0 →
      owner.isCustomer = true ∨ ¬ options.Counts db

/-! ## Pending balances -/

def PendingNonneg (db : Db) : Prop := ∀ owner, 0 ≤ (db.wallets owner).pendingBalance

section Pending

variable {db db' : Db}

theorem PendingNonneg.congr (h : PendingNonneg db) (hw : db'.wallets = db.wallets) :
    PendingNonneg db' := by
  intro owner
  rw [hw]
  exact h owner

variable {owner : Owner}

theorem PendingNonneg.update (h : PendingNonneg db) (wallet : Wallet)
    (hw : db'.wallets = update db.wallets owner wallet)
    (hpending : 0 ≤ wallet.pendingBalance) : PendingNonneg db' := by
  intro o
  rw [hw, update_apply]
  by_cases ho : o = owner
  · rw [if_pos ho]
    exact hpending
  · rw [if_neg ho]
    exact h o

theorem PendingNonneg.settlePayout (h : PendingNonneg db) (order : Order)
    (payoutType : PayoutType) : PendingNonneg (db.settlePayout order payoutType) := by
  unfold Db.settlePayout
  split
  · exact h
  · rename_i id hid
    split
    · rename_i hqueues
      have hamount : 0 < payoutType.total order := hqueues.1.2.2
      have hold := h (payoutTypeToOwnerType payoutType id)
      refine h.update _ (Db.queuePayout_wallets db order.id payoutType id _) ?_
      simp only [queued]
      omega
    · exact h

theorem PendingNonneg.settlePayouts (h : PendingNonneg db) (order : Order) :
    PendingNonneg (db.settlePayouts order) :=
  (h.settlePayout order .seller).settlePayout order .deliveryPartner

theorem PendingNonneg.leftBy (h : PendingNonneg db) (order : Order) (call : SettleCall) :
    PendingNonneg (db.leftBy order call) := by
  cases call with
  | findOrder | sellerPayout => exact h
  | riderPayout c => exact h.settlePayout order .seller
  | getAdminWallet | createLedgerEntry | createAuditLog | saveOrder
  | commitTransaction => exact h.settlePayouts order

theorem PendingNonneg.settledBy (h : PendingNonneg db) (order : Order) (env : Env) (now : Date) :
    PendingNonneg (db.settledBy order env now) := by
  refine (h.settlePayouts order).congr ?_
  unfold Db.settledBy Db.creditEarning
  split <;> rfl

theorem withCash_pending (wallet : Wallet) (delta : ℤ) :
    (wallet.withCash delta).pendingBalance = wallet.pendingBalance := by
  unfold withCash
  split <;> rfl

theorem PendingNonneg.deliveryStep (h : PendingNonneg db) (env : Env) (op : DeliveryOp) :
    PendingNonneg (deliveryStep env db op) := by
  cases op with
  | settleDeliveredOrder orderId now failsAt =>
    rcases settleDeliveredOrder_cases env db orderId now failsAt with
      ⟨heq, -⟩ | ⟨order, -, -, ⟨call, -, -, heq⟩ | ⟨-, heq⟩⟩
    · rw [deliveryStep_settle, heq]
      exact h
    · rw [deliveryStep_settle, heq]
      exact h.leftBy order call
    · rw [deliveryStep_settle, heq]
      exact h.settledBy order env now
  | cod op =>
    show PendingNonneg (codStep db op)
    rcases codStep_cases db op with heq | ⟨_, _, _, order, partnerId, -, -, -, heq⟩ |
      ⟨_, requested, _, now, order, partnerId, -, -, -, heq⟩
    · rw [heq]
      exact h
    · rw [heq]
      refine h.update _ rfl ?_
      rw [withCash_pending]
      exact h _
    · rw [heq]
      have hrider : PendingNonneg (db.saveWallet (.deliveryPartner partnerId)
          ((db.wallets (.deliveryPartner partnerId)).withCash (-roundCurrency requested))) := by
        refine h.update _ rfl ?_
        rw [withCash_pending]
        exact h _
      exact hrider.update _ rfl (h .admin)

theorem PendingNonneg.maybeWrite (h : PendingNonneg db) {direction : LedgerDirection}
    {amount before after : ℤ} {options : MovementOptions} (ha : 0 ≤ amount)
    (hwrite : maybeWriteLedgerEntry db owner direction amount before after options = .ok db') :
    PendingNonneg db' :=
  h.congr (maybeWriteLedgerEntry_frame ha hwrite).1

theorem PendingNonneg.synced (h : PendingNonneg db) {p : Prop} [Decidable p] {delta : ℤ}
    {sync : Bool} :
    PendingNonneg (if p then maybeSyncUserWalletBalance db owner delta sync else db) := by
  split
  · exact h.congr (maybeSyncUserWalletBalance_wallets _ _ _ _)
  · exact h

theorem PendingNonneg.financeStep (h : PendingNonneg db) (env : Env) (op : FinanceOp) :
    PendingNonneg (financeStep env db op) := by
  cases op with
  | createPendingPayoutForOrder order payoutType beneficiaryId amount failsAt =>
    refine commit_induction h (fun db' result hok => ?_)
    rcases createPendingPayoutForOrder_cases hok with rfl | ⟨id, ha, rfl⟩
    · exact h
    · have hold := h (payoutTypeToOwnerType payoutType id)
      refine h.update _ (Db.queuePayout_wallets db order.id payoutType id _) ?_
      simp only [queued]
      omega
  | processPayout payoutId now =>
    refine commit_induction h (fun db' result hok => ?_)
    obtain ⟨payout, -, -, -, -, rfl, -⟩ := processPayout_eq_ok.mp hok
    exact h.update ((db.wallets payout.owner).released payout.amount) rfl (le_max_left _ _)
  | cancelPendingPayoutForOrder orderId payoutType =>
    refine commit_induction h (fun db' result hok => ?_)
    rcases cancelPendingPayoutForOrder_eq_ok.mp hok with ⟨-, rfl, -⟩ | ⟨payout, -, -, rfl, -⟩
    · exact h
    · exact h.update ((db.wallets payout.owner).unqueued payout.amount) rfl (le_max_right _ _)
  | handleOnlineOrderFinance orderId =>
    refine commit_induction h (fun db' order' hok => ?_)
    obtain ⟨order, -, ⟨-, rfl⟩ | ⟨-, -, -, rfl⟩⟩ := handleOnlineOrderFinance_eq_ok.mp ⟨order', hok⟩
    · exact h
    · exact h.update ((db.wallets .admin).credited .available (captureAmount order)) rfl (h .admin)
  | delivery op => exact h.deliveryStep env op
  | creditWallet owner amount bucket options =>
    refine commit_induction h (fun db' m hok => ?_)
    obtain ⟨db₁, hpos, -, hwrite, rfl, -⟩ := creditWallet_eq_ok.mp hok
    have hold := h owner
    have hcredited : PendingNonneg (db.saveWallet owner
        ((db.wallets owner).credited bucket (roundCurrency amount))) := by
      refine h.update _ rfl ?_
      cases bucket with
      | available => exact hold
      | pending =>
        simp only [credited, setBalance_pending, balance_pending]
        omega
    exact (hcredited.maybeWrite (le_of_lt hpos) hwrite).synced
  | debitWallet owner amount bucket options =>
    refine commit_induction h (fun db' m hok => ?_)
    obtain ⟨db₁, hpos, -, hle, hwrite, rfl, -⟩ := debitWallet_eq_ok.mp hok
    have hold := h owner
    have hdebited : PendingNonneg (db.saveWallet owner
        ((db.wallets owner).debited bucket (roundCurrency amount))) := by
      refine h.update _ rfl ?_
      cases bucket with
      | available => exact hold
      | pending =>
        simp only [balance_pending] at hle
        simp only [debited, setBalance_pending, balance_pending]
        omega
    exact (hdebited.maybeWrite (le_of_lt hpos) hwrite).synced
  | movePendingToAvailable owner amount options =>
    refine commit_induction h (fun db' m hok => ?_)
    obtain ⟨hpos, hle, hwrite, -⟩ := movePendingToAvailable_eq_ok.mp hok
    have hmoved : PendingNonneg (db.saveWallet owner
        ((db.wallets owner).moved (roundCurrency amount))) := by
      refine h.update _ rfl ?_
      simp only [moved]
      omega
    exact (hmoved.congr (maybeSyncUserWalletBalance_wallets _ _ _ _)).maybeWrite (le_of_lt hpos)
      hwrite
  | updateCashInHand owner deltaAmount options =>
    refine commit_induction h (fun db' m hok => ?_)
    rcases updateCashInHand_iff.mp ⟨m, hok⟩ with ⟨-, rfl⟩ | ⟨-, hwrite⟩
    · exact h
    · have hcash : PendingNonneg (db.saveWallet owner
          ((db.wallets owner).withCash (roundCurrency deltaAmount))) := by
        refine h.update _ rfl ?_
        rw [withCash_pending]
        exact h _
      exact hcash.maybeWrite (abs_nonneg _) hwrite

theorem pendingNonneg_fresh (orders : Table Order.id) : PendingNonneg (Db.fresh orders) :=
  fun _ => le_refl 0

end Pending

/-! ## One step -/

section Step

variable {db : Db}

theorem agrees_same {db' : Db} (h : Agrees db) (hdrift : ∀ o, drift db' o = drift db o) :
    Agrees db' := by
  rw [agrees_iff_drift] at h ⊢
  intro o ho
  rw [hdrift o]
  exact h o ho

theorem agrees_throws {α : Type} (h : Agrees db) {r : Except ServiceError (Db × α)}
    {matched : Prop} (hmatched : (∀ db' a, r ≠ .ok (db', a)) → matched)
    (hok : ∀ db' a, r = .ok (db', a) → (Agrees db' ↔ matched)) :
    Agrees (commit db r) ↔ matched := by
  cases hr : r with
  | error e =>
    rw [commit_error]
    refine iff_of_true h (hmatched ?_)
    intro db' a hne
    rw [hr] at hne
    cases hne
  | ok p =>
    obtain ⟨db', a⟩ := p
    rw [commit_ok]
    exact hok db' a hr

variable {options : MovementOptions}

theorem maybeWriteLedgerEntry_isOk {owner : Owner} {direction : LedgerDirection}
    {amount before after : ℤ} (ha : 0 ≤ amount) (h : ¬ options.Aborts db) :
    ∃ db', maybeWriteLedgerEntry db owner direction amount before after options = .ok db' := by
  by_cases hwrites : options.Writes db
  · obtain ⟨t, ht⟩ := ne_none_iff_exists'.mp hwrites.1
    exact ⟨_, (maybeWriteLedgerEntry_eq_ok ha).mpr ⟨h, .inr ⟨t, ht, hwrites.2, rfl⟩⟩⟩
  · exact ⟨db, (maybeWriteLedgerEntry_eq_ok ha).mpr ⟨h, .inl ⟨hwrites, rfl⟩⟩⟩

theorem agrees_queuePayout (h : Agrees db) (order : Order) (payoutType : PayoutType)
    (beneficiaryId : Option ObjectId) (amount : ℚ) (failsAt : Option PayoutCall) :
    Agrees (commit db
      (createPendingPayoutForOrder db order payoutType beneficiaryId amount failsAt)) := by
  refine commit_induction h (fun db' result hok => ?_)
  rcases createPendingPayoutForOrder_cases hok with rfl | ⟨id, -, rfl⟩
  · exact h
  · exact agrees_same h (drift_queuePayout db order.id payoutType id _)

theorem agrees_capture (h : Agrees db) (orderId : ObjectId) :
    Agrees (commit db (handleOnlineOrderFinance db orderId)) := by
  refine commit_induction h (fun db' order' hok => ?_)
  obtain ⟨order, -, ⟨-, rfl⟩ | ⟨-, -, -, rfl⟩⟩ := handleOnlineOrderFinance_eq_ok.mp ⟨order', hok⟩
  · exact h
  · exact agrees_same h (drift_captureOnline db order)

theorem payoutOwner_notCustomer (payout : Payout) : payout.owner.isCustomer = false := by
  unfold Payout.owner payoutTypeToOwnerType
  cases payout.payoutType with
  | seller | deliveryPartner => rfl

theorem agrees_process (env : Env) (h : Agrees db) (hpending : PendingNonneg db)
    (payoutId : ObjectId) (now : Date) :
    Agrees (financeStep env db (.processPayout payoutId now))
      ↔ Matched db (.processPayout payoutId now) := by
  apply agrees_throws h
  · intro hthrows payout hget hlive hkey
    left
    by_contra hpos
    exact hthrows _ _ (processPayout_eq_ok.mpr
      ⟨payout, hget, hlive, le_of_lt (not_le.mp hpos), hkey, rfl, rfl⟩)
  · intro db' result hok
    obtain ⟨payout, hget, hlive, ha, hkey, rfl, -⟩ := processPayout_eq_ok.mp hok
    have hold := hpending payout.owner
    rw [agrees_step_iff h (drift_releasePayout db payout now), payoutOwner_notCustomer]
    constructor
    · intro hd payout' hget' hlive' hkey'
      obtain rfl : payout = payout' := some.inj (hget.symm.trans hget')
      rcases hd with hd | hd
      · cases hd
      · omega
    · intro hmatched
      right
      rcases hmatched payout hget hlive hkey with hamount | hzero
      · omega
      · omega

/-- Cancelling is matched where the clamp has no effect. -/
theorem agrees_cancel (env : Env) (h : Agrees db) (hpending : PendingNonneg db)
    (orderId : ObjectId) (payoutType : PayoutType) :
    Agrees (financeStep env db (.cancelPendingPayoutForOrder orderId payoutType))
      ↔ Matched db (.cancelPendingPayoutForOrder orderId payoutType) := by
  apply agrees_throws h
  · intro hthrows payout hfind
    have hold := hpending payout.owner
    by_contra hlt
    have ha : 0 ≤ payout.amount := by omega
    exact hthrows _ _ (cancelPendingPayoutForOrder_eq_ok.mpr (.inr ⟨payout, hfind, ha, rfl, rfl⟩))
  · intro db' result hok
    rcases cancelPendingPayoutForOrder_eq_ok.mp hok with
      ⟨hnone, rfl, -⟩ | ⟨payout, hfind, -, rfl, -⟩
    · refine iff_of_true h ?_
      intro payout hfind
      rw [hnone] at hfind
      cases hfind
    · rw [agrees_step_iff h (drift_unqueuePayout db orderId payout), payoutOwner_notCustomer]
      constructor
      · intro hd payout' hfind'
        obtain rfl : payout = payout' := some.inj (hfind.symm.trans hfind')
        rcases hd with hd | hd
        · cases hd
        · omega
      · intro hmatched
        right
        have hle := hmatched payout hfind
        omega

theorem agrees_settle (env : Env) (h : Agrees db) (orderId : ObjectId) (now : Date)
    (failsAt : Option SettleCall) :
    Agrees (financeStep env db (.delivery (.settleDeliveredOrder orderId now failsAt)))
      ↔ Matched db (.delivery (.settleDeliveredOrder orderId now failsAt)) := by
  show Agrees (deliveryStep env db (.settleDeliveredOrder orderId now failsAt)) ↔ _
  rcases settleDeliveredOrder_cases env db orderId now failsAt with
    ⟨heq, hnone⟩ | ⟨order, hget, hs, ⟨call, hcall, hr, heq⟩ | ⟨hok, heq⟩⟩
  · rw [deliveryStep_settle, heq]
    exact iff_of_true h (fun order hget hs => absurd hs (hnone order hget))
  · rw [deliveryStep_settle, heq]
    refine iff_of_true (agrees_same h (drift_leftBy db order call)) ?_
    intro order' hget' _ _
    obtain rfl : order = order' := some.inj (hget.symm.trans hget')
    exact ⟨call, hcall, hr⟩
  · rw [deliveryStep_settle, heq, agrees_step_iff h (drift_settledBy db order env now)]
    constructor
    · intro hd order' hget' _ hdue
      obtain rfl : order = order' := some.inj (hget.symm.trans hget')
      have hearning := hdue.2.2
      rw [if_pos hdue] at hd
      rcases hd with hd | hd
      · cases hd
      · omega
    · intro hmatched
      right
      apply if_neg
      intro hdue
      obtain ⟨call, hcall, hr⟩ := hmatched order hget hs hdue
      exact hok call hcall hr

theorem agrees_cod (env : Env) (h : Agrees db) (op : CodOp) :
    Agrees (financeStep env db (.delivery (.cod op))) ↔ Matched db (.delivery (.cod op)) := by
  show Agrees (codStep db op) ↔ _
  cases op with
  | handleCodOrderFinance orderId amount deliveryPartnerId =>
    by_cases hcollects : ∃ order partnerId, db.orders.get? orderId = some order ∧
        Collects order amount deliveryPartnerId partnerId
    · obtain ⟨order, partnerId, hget, hc⟩ := hcollects
      rw [codStep_collects hget hc,
        agrees_step_iff h (drift_collectCod db order partnerId (codAmountGross order amount))]
      constructor
      · intro hd order' partnerId' hget' _
        obtain rfl : order = order' := some.inj (hget.symm.trans hget')
        rcases hd with hd | hd
        · cases hd
        · omega
      · intro hmatched
        right
        rw [hmatched order partnerId hget hc, neg_zero]
    · have hsame : codStep db (.handleCodOrderFinance orderId amount deliveryPartnerId) = db := by
        rcases codStep_cases db (.handleCodOrderFinance orderId amount deliveryPartnerId) with
          heq | ⟨_, _, _, order, partnerId, ⟨⟩, hget, hc, -⟩ | ⟨_, _, _, _, _, _, ⟨⟩, -⟩
        · exact heq
        · exact absurd ⟨order, partnerId, hget, hc⟩ hcollects
      rw [hsame]
      exact iff_of_true h (fun order partnerId hget hc =>
        absurd ⟨order, partnerId, hget, hc⟩ hcollects)
  | reconcileCodCash orderId amount deliveryPartnerId now =>
    by_cases hremits : ∃ order partnerId, db.orders.get? orderId = some order ∧
        Remits db order amount deliveryPartnerId partnerId
    · obtain ⟨order, partnerId, hget, hr⟩ := hremits
      have hpos : 0 < roundCurrency amount := hr.2.2.1
      rw [codStep_remits hget hr,
        agrees_step_iff h (drift_remitCod db order partnerId (roundCurrency amount) now)]
      constructor
      · intro hd
        rcases hd with hd | hd
        · cases hd
        · omega
      · intro hmatched
        exact absurd hr (hmatched order partnerId hget)
    · have hsame : codStep db (.reconcileCodCash orderId amount deliveryPartnerId now) = db := by
        rcases codStep_cases db (.reconcileCodCash orderId amount deliveryPartnerId now) with
          heq | ⟨_, _, _, _, _, ⟨⟩, -⟩ | ⟨_, _, _, _, order, partnerId, ⟨⟩, hget, hr, -⟩
        · exact heq
        · exact absurd ⟨order, partnerId, hget, hr⟩ hremits
      rw [hsame]
      exact iff_of_true h (fun order partnerId hget hr =>
        absurd ⟨order, partnerId, hget, hr⟩ hremits)

theorem agrees_credit (env : Env) (h : Agrees db) (owner : Owner) (amount : ℚ) (bucket : Bucket)
    (options : MovementOptions) :
    Agrees (financeStep env db (.creditWallet owner amount bucket options))
      ↔ Matched db (.creditWallet owner amount bucket options) := by
  apply agrees_throws h
  · intro hthrows hpos hactive hno
    obtain ⟨db₁, hwrite⟩ := maybeWriteLedgerEntry_isOk (le_of_lt hpos)
      (show ¬ options.Aborts (db.saveWallet owner
        ((db.wallets owner).credited bucket (roundCurrency amount))) from hno)
    exact absurd (creditWallet_eq_ok.mpr ⟨db₁, hpos, hactive, hwrite, rfl, rfl⟩) (hthrows _ _)
  · intro db' m hok
    obtain ⟨db₁, hpos, hactive, hwrite, -, -⟩ := creditWallet_eq_ok.mp hok
    have hno : ¬ options.Aborts db := ((maybeWriteLedgerEntry_eq_ok (le_of_lt hpos)).mp hwrite).1
    rw [agrees_step_iff h (drift_creditWallet hok)]
    constructor
    · rintro (hc | hd) - - -
      · exact .inl hc
      · right
        by_contra hcounts
        rw [if_neg hcounts] at hd
        omega
    · intro hmatched
      exact (hmatched hpos hactive hno).imp id (fun hcounts => if_pos hcounts)

theorem agrees_debit (env : Env) (h : Agrees db) (owner : Owner) (amount : ℚ) (bucket : Bucket)
    (options : MovementOptions) :
    Agrees (financeStep env db (.debitWallet owner amount bucket options))
      ↔ Matched db (.debitWallet owner amount bucket options) := by
  apply agrees_throws h
  · intro hthrows hpos hactive hle hno
    obtain ⟨db₁, hwrite⟩ := maybeWriteLedgerEntry_isOk (le_of_lt hpos)
      (show ¬ options.Aborts (db.saveWallet owner
        ((db.wallets owner).debited bucket (roundCurrency amount))) from hno)
    exact absurd (debitWallet_eq_ok.mpr ⟨db₁, hpos, hactive, hle, hwrite, rfl, rfl⟩) (hthrows _ _)
  · intro db' m hok
    obtain ⟨db₁, hpos, hactive, hle, hwrite, -, -⟩ := debitWallet_eq_ok.mp hok
    have hno : ¬ options.Aborts db := ((maybeWriteLedgerEntry_eq_ok (le_of_lt hpos)).mp hwrite).1
    rw [agrees_step_iff h (drift_debitWallet hok)]
    constructor
    · rintro (hc | hd) - - - -
      · exact .inl hc
      · right
        by_contra hcounts
        rw [if_neg hcounts] at hd
        omega
    · intro hmatched
      exact (hmatched hpos hactive hle hno).imp id (fun hcounts => if_pos hcounts)

theorem MovementOptions.Counts.not_aborts (h : options.Counts db) :
    ¬ options.Aborts db := fun ha => ha.2.1 h.1.2

theorem agrees_move (env : Env) (h : Agrees db) (owner : Owner) (amount : ℚ)
    (options : MovementOptions) :
    Agrees (financeStep env db (.movePendingToAvailable owner amount options))
      ↔ Matched db (.movePendingToAvailable owner amount options) := by
  apply agrees_throws h
  · intro hthrows hpos hle
    right
    intro hcounts
    have hkey : keyFree (maybeSyncUserWalletBalance
        (db.saveWallet owner ((db.wallets owner).moved (roundCurrency amount))) owner
        (roundCurrency amount) options.syncUserWalletBalance) options.idempotencyKey :=
      (keyFree_congr (maybeSyncUserWalletBalance_ledger _ _ _ _) _).mpr hcounts.1.2
    obtain ⟨db', hwrite⟩ := maybeWriteLedgerEntry_isOk (le_of_lt hpos)
      (fun ha : options.Aborts _ => ha.2.1 hkey)
    exact hthrows _ _ (movePendingToAvailable_eq_ok.mpr ⟨hpos, hle, hwrite, rfl⟩)
  · intro db' m hok
    obtain ⟨hpos, hle, -, -⟩ := movePendingToAvailable_eq_ok.mp hok
    rw [agrees_step_iff h (drift_movePendingToAvailable hok)]
    constructor
    · rintro (hc | hd) - -
      · exact .inl hc
      · right
        intro hcounts
        rw [if_pos hcounts] at hd
        omega
    · intro hmatched
      exact (hmatched hpos hle).imp id (fun hcounts => if_neg hcounts)

theorem agrees_cash (env : Env) (h : Agrees db) (owner : Owner) (deltaAmount : ℚ)
    (options : MovementOptions) :
    Agrees (financeStep env db (.updateCashInHand owner deltaAmount options))
      ↔ Matched db (.updateCashInHand owner deltaAmount options) := by
  apply agrees_throws h
  · intro hthrows hdelta
    right
    intro hcounts
    obtain ⟨db', hwrite⟩ := maybeWriteLedgerEntry_isOk (abs_nonneg _)
      (show ¬ options.Aborts (db.saveWallet owner
        ((db.wallets owner).withCash (roundCurrency deltaAmount))) from hcounts.not_aborts)
    obtain ⟨m, hok⟩ := updateCashInHand_iff.mpr (.inr ⟨hdelta, hwrite⟩)
    exact hthrows _ _ hok
  · intro db' m hok
    rw [agrees_step_iff h (drift_updateCashInHand hok)]
    constructor
    · rintro (hc | hd) hdelta
      · exact .inl hc
      · right
        intro hcounts
        rw [if_pos hcounts] at hd
        omega
    · intro hmatched
      by_cases hdelta : roundCurrency deltaAmount = 0
      · right
        rw [hdelta, neg_zero, ite_self]
      · exact (hmatched hdelta).imp id (fun hcounts => if_neg hcounts)

theorem agrees_financeStep (env : Env) (op : FinanceOp) (hpending : PendingNonneg db)
    (h : Agrees db) : Agrees (financeStep env db op) ↔ Matched db op := by
  cases op with
  | createPendingPayoutForOrder order payoutType beneficiaryId amount failsAt =>
    exact iff_of_true (agrees_queuePayout h order payoutType beneficiaryId amount failsAt) trivial
  | processPayout payoutId now => exact agrees_process env h hpending payoutId now
  | cancelPendingPayoutForOrder orderId payoutType =>
    exact agrees_cancel env h hpending orderId payoutType
  | handleOnlineOrderFinance orderId => exact iff_of_true (agrees_capture h orderId) trivial
  | delivery op =>
    cases op with
    | settleDeliveredOrder orderId now failsAt => exact agrees_settle env h orderId now failsAt
    | cod op => exact agrees_cod env h op
  | creditWallet owner amount bucket options => exact agrees_credit env h owner amount bucket options
  | debitWallet owner amount bucket options => exact agrees_debit env h owner amount bucket options
  | movePendingToAvailable owner amount options => exact agrees_move env h owner amount options
  | updateCashInHand owner deltaAmount options => exact agrees_cash env h owner deltaAmount options

end Step

/-! ## Main result -/

theorem agrees_fresh (orders : Table Order.id) : Agrees (Db.fresh orders) := by
  intro owner _
  rfl

/-- Along a run from empty wallets, wallet and ledger agree for every owner that is not a
customer exactly when every operation of the run is matched. -/
theorem wallet_ledger_agree_iff (env : Env) (orders : Table Order.id) (ops : List FinanceOp) :
    Along (financeStep env) Agrees (Db.fresh orders) ops
      ↔ Guarded (financeStep env) Matched (Db.fresh orders) ops := by
  have hinv : ∀ db op, PendingNonneg db → Agrees db → Agrees (financeStep env db op) →
      PendingNonneg (financeStep env db op) := by
    intro db op hpending _ _
    exact hpending.financeStep env op
  have hstep : ∀ db op, PendingNonneg db → Agrees db →
      (Agrees (financeStep env db op) ↔ Matched db op) := by
    intro db op hpending h
    exact agrees_financeStep env op hpending h
  exact along_iff_guarded hinv hstep (pendingNonneg_fresh orders) (agrees_fresh orders) ops

/-- Queueing a payout of 80 rupees to seller 7 and processing it: the wallet holds 80
rupees, the ledger has credited 160, and the verifier reports the difference. -/
theorem payout_credited_twice :
    let db := exec (financeStep {}) codStore
      [.createPendingPayoutForOrder codOrder .seller (some 7) 80 none, .processPayout 0 0]
    (db.wallets (.seller 7)).net = 8000 ∧ ledgerNet db (.seller 7) = 16000 ∧
      verifyOneWallet db (.seller 7) (1 / 100) = ⟨true, -8000⟩ := by
  decide +kernel

end DiscountBazar.Finance
