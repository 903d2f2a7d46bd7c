/-
The payout bookkeeping invariant.

A wallet's pending balance is moved by hand in three places, with two clamps and with a
`totalCredited` that goes down again on cancellation. The invariant `Balanced` ties it to
the payout rows: the pending balance is the sum of the owner's live payouts, and the two
balances are what was credited less what was debited. From it no clamp ever takes effect.
-/
import DiscountBazar.Finance.PayoutService
import DiscountBazar.Lib.Run

namespace DiscountBazar.Finance

open Transaction Runs Table Wallet

/-! ## Operations -/

/-- The operations on payouts, and wallet movements on the available balance. -/
inductive PayoutOp where
  | createPendingPayoutForOrder (order : Order) (payoutType : PayoutType)
      (beneficiaryId : Option ObjectId) (amount : ℚ) (failsAt : Option PayoutCall)
  | processPayout (payoutId : ObjectId) (now : Date)
  | bulkProcessPayouts (payoutIds : List ObjectId) (payoutType : Option PayoutType) (limit : ℤ)
      (now : Date)
  | cancelPendingPayoutForOrder (orderId : ObjectId) (payoutType : PayoutType)
  | creditWallet (owner : Owner) (amount : ℚ) (options : MovementOptions)
  | debitWallet (owner : Owner) (amount : ℚ) (options : MovementOptions)

/-- The store after an operation; one that throws leaves it as it was. -/
def payoutStep (db : Db) : PayoutOp → Db
  | .createPendingPayoutForOrder order payoutType beneficiaryId amount failsAt =>
    commit db
      (DiscountBazar.Finance.createPendingPayoutForOrder db order payoutType beneficiaryId
        amount failsAt)
  | .processPayout payoutId now => commit db (DiscountBazar.Finance.processPayout db payoutId now)
  | .bulkProcessPayouts payoutIds payoutType limit now =>
    (DiscountBazar.Finance.bulkProcessPayouts db payoutIds payoutType limit now).1
  | .cancelPendingPayoutForOrder orderId payoutType =>
    commit db (DiscountBazar.Finance.cancelPendingPayoutForOrder db orderId payoutType)
  | .creditWallet owner amount options =>
    commit db (DiscountBazar.Finance.creditWallet db owner amount .available options)
  | .debitWallet owner amount options =>
    commit db (DiscountBazar.Finance.debitWallet db owner amount .available options)

/-! ## The invariant -/

def pendingPayouts (db : Db) (owner : Owner) : ℤ :=
  db.payouts.sum (fun payout =>
    if payout.owner = owner ∧ payout.status.Live then payout.amount else 0)

structure Balanced (db : Db) : Prop where
  pending : ∀ owner, (db.wallets owner).pendingBalance = pendingPayouts db owner
  net : ∀ owner, (db.wallets owner).availableBalance + (db.wallets owner).pendingBalance
    = (db.wallets owner).totalCredited - (db.wallets owner).totalDebited
  available : ∀ owner, 0 ≤ (db.wallets owner).availableBalance
  debited : ∀ owner, 0 ≤ (db.wallets owner).totalDebited
  amounts : ∀ payout ∈ db.payouts.rows, 0 ≤ payout.amount

theorem balanced_fresh (orders : Table Order.id) : Balanced (Db.fresh orders) := by
  constructor
  · intro owner
    simp [pendingPayouts, Wallet.empty]
  · intro owner
    simp [Wallet.empty]
  · intro owner
    simp [Wallet.empty]
  · intro owner
    simp [Wallet.empty]
  · intro payout h
    simp at h

section Live

variable {db : Db} {payout : Payout}

theorem Balanced.amount_le_pending (h : Balanced db) (hmem : payout ∈ db.payouts.rows)
    (hlive : payout.status.Live) : payout.amount ≤ (db.wallets payout.owner).pendingBalance := by
  have hnonneg : ∀ p ∈ db.payouts.rows,
      0 ≤ (if p.owner = payout.owner ∧ p.status.Live then p.amount else 0) := by
    intro p hp
    split
    · exact h.amounts p hp
    · exact le_refl 0
  have hle := le_sum hnonneg hmem
  rw [if_pos ⟨rfl, hlive⟩] at hle
  rw [h.pending]
  exact hle

theorem Balanced.amount_le_credited (h : Balanced db) (hmem : payout ∈ db.payouts.rows)
    (hlive : payout.status.Live) : payout.amount ≤ (db.wallets payout.owner).totalCredited := by
  have hpending := h.amount_le_pending hmem hlive
  have hnet := h.net payout.owner
  have havail := h.available payout.owner
  have hdebit := h.debited payout.owner
  omega

end Live

/-! ## Steps -/

variable {owner : Owner}

theorem Balanced.update {db db' : Db} (h : Balanced db) {wallet : Wallet}
    (hw : db'.wallets = Function.update db.wallets owner wallet)
    (hpending : ∀ o, pendingPayouts db' o = pendingPayouts db o
      + if o = owner then wallet.pendingBalance - (db.wallets owner).pendingBalance else 0)
    (hnet : wallet.availableBalance + wallet.pendingBalance
      = wallet.totalCredited - wallet.totalDebited) (havail : 0 ≤ wallet.availableBalance)
    (hdebit : 0 ≤ wallet.totalDebited) (hamounts : ∀ payout ∈ db'.payouts.rows, 0 ≤ payout.amount) :
    Balanced db' := by
  have hcase : ∀ o, (o = owner ∧ db'.wallets o = wallet) ∨
      (o ≠ owner ∧ db'.wallets o = db.wallets o) := by
    intro o
    rw [hw, Function.update_apply]
    by_cases ho : o = owner
    · exact .inl ⟨ho, if_pos ho⟩
    · exact .inr ⟨ho, if_neg ho⟩
  constructor
  · intro o
    have hold := h.pending o
    rw [hpending o]
    rcases hcase o with ⟨rfl, ho⟩ | ⟨hne, ho⟩
    · rw [ho, if_pos rfl]
      omega
    · rw [ho, if_neg hne]
      omega
  · intro o
    rcases hcase o with ⟨-, ho⟩ | ⟨-, ho⟩
    · rw [ho]
      exact hnet
    · rw [ho]
      exact h.net o
  · intro o
    rcases hcase o with ⟨-, ho⟩ | ⟨-, ho⟩
    · rw [ho]
      exact havail
    · rw [ho]
      exact h.available o
  · intro o
    rcases hcase o with ⟨-, ho⟩ | ⟨-, ho⟩
    · rw [ho]
      exact hdebit
    · rw [ho]
      exact h.debited o
  · exact hamounts

theorem Balanced.updateAvailable {db db' : Db} (h : Balanced db) (wallet : Wallet)
    (hw : db'.wallets = Function.update db.wallets owner wallet) (hp : db'.payouts = db.payouts)
    (hpending : wallet.pendingBalance = (db.wallets owner).pendingBalance)
    (hnet : wallet.availableBalance + wallet.pendingBalance
      = wallet.totalCredited - wallet.totalDebited) (havail : 0 ≤ wallet.availableBalance)
    (hdebit : 0 ≤ wallet.totalDebited) :
    Balanced db' := by
  refine h.update hw (fun o => ?_) hnet havail hdebit ?_
  · rw [pendingPayouts, hp, hpending, sub_self, ite_self, add_zero, pendingPayouts]
  · rw [hp]
    exact h.amounts

variable {db : Db}

theorem Balanced.queuePayout (h : Balanced db) (orderId : ObjectId) (payoutType : PayoutType)
    (id : ObjectId) {a : ℤ} (ha : 0 ≤ a) :
    Balanced (db.queuePayout orderId payoutType id a) := by
  have hfresh := Db.newPayout_id_notMem db orderId payoutType id a
  have hnet := h.net (payoutTypeToOwnerType payoutType id)
  refine h.update (Db.queuePayout_wallets db orderId payoutType id a) (fun o => ?_) ?_
    (h.available _) (h.debited _) ?_
  · have hsum := sum_insert hfresh
      (fun p => if p.owner = o ∧ p.status.Live then p.amount else 0)
    rw [pendingPayouts, Db.queuePayout_payouts, hsum, pendingPayouts]
    by_cases ho : o = payoutTypeToOwnerType payoutType id
    · simp [Db.newPayout, Payout.owner, PayoutStatus.Live, queued, ho]
    · have ho' : ¬ payoutTypeToOwnerType payoutType id = o := fun h => ho h.symm
      simp [Db.newPayout, Payout.owner, ho, ho']
  · simp only [queued]
    omega
  · intro payout hmem
    rw [Db.queuePayout_payouts, mem_insert hfresh] at hmem
    rcases hmem with hmem | rfl
    · exact h.amounts payout hmem
    · exact ha

section Close

variable {db : Db} {payout : Payout}

theorem pendingPayouts_close (hmem : payout ∈ db.payouts.rows) (hlive : payout.status.Live)
    (closed : Payout) (hid : closed.id = payout.id) (hclosed : ¬ closed.status.Live) {db' : Db}
    (hp : db'.payouts = db.payouts.set closed) (o : Owner) :
    pendingPayouts db' o
      = pendingPayouts db o + if o = payout.owner then -payout.amount else 0 := by
  have hget : db.payouts.get? closed.id = some payout := by
    rw [hid]
    exact get?_of_mem hmem
  have hsum := sum_set hget
    (fun p => if p.owner = o ∧ p.status.Live then p.amount else 0)
  have hzero : (if closed.owner = o ∧ closed.status.Live then closed.amount else 0) = 0 :=
    if_neg (fun h => hclosed h.2)
  rw [hzero] at hsum
  rw [pendingPayouts, hp, pendingPayouts]
  by_cases ho : payout.owner = o
  · have hshare : (if payout.owner = o ∧ payout.status.Live then payout.amount else 0)
        = payout.amount := if_pos ⟨ho, hlive⟩
    rw [hshare] at hsum
    rw [if_pos ho.symm]
    omega
  · have hshare : (if payout.owner = o ∧ payout.status.Live then payout.amount else 0) = 0 :=
      if_neg (fun h => ho h.1)
    rw [hshare] at hsum
    rw [if_neg (fun h => ho h.symm)]
    omega

theorem amounts_close (h : Balanced db) (hmem : payout ∈ db.payouts.rows) (closed : Payout)
    (hamount : closed.amount = payout.amount) :
    ∀ p ∈ (db.payouts.set closed).rows, 0 ≤ p.amount := by
  intro p hp
  rcases mem_set.mp hp with ⟨hp, -⟩ | ⟨rfl, -⟩
  · exact h.amounts p hp
  · rw [hamount]
    exact h.amounts payout hmem

theorem Balanced.releasePayout (h : Balanced db) (hmem : payout ∈ db.payouts.rows)
    (hlive : payout.status.Live) (now : Date) : Balanced (db.releasePayout payout now) := by
  have hamount := h.amounts payout hmem
  have hle := h.amount_le_pending hmem hlive
  have hnet := h.net payout.owner
  have havail := h.available payout.owner
  have hclosed : ¬ (payout.completedAt now).status.Live := by
    simp [Payout.completedAt, PayoutStatus.Live]
  refine h.update rfl (fun o => ?_) ?_ ?_ (h.debited _)
    (amounts_close h hmem (payout.completedAt now) rfl)
  · rw [pendingPayouts_close hmem hlive (payout.completedAt now) rfl hclosed rfl]
    simp only [released, max_eq_right (sub_nonneg.mpr hle)]
    split <;> omega
  · simp only [released, max_eq_right (sub_nonneg.mpr hle)]
    omega
  · simp only [released]
    omega

theorem Balanced.unqueuePayout (h : Balanced db) (hmem : payout ∈ db.payouts.rows)
    (hlive : payout.status.Live) (orderId : ObjectId) :
    Balanced (db.unqueuePayout orderId payout) := by
  have hle := h.amount_le_pending hmem hlive
  have hcredited := h.amount_le_credited hmem hlive
  have hnet := h.net payout.owner
  have hclosed : ¬ ({ payout with status := .cancelled } : Payout).status.Live := by
    simp [PayoutStatus.Live]
  refine h.update rfl (fun o => ?_) ?_ (h.available _) (h.debited _)
    (amounts_close h hmem { payout with status := .cancelled } rfl)
  · rw [pendingPayouts_close hmem hlive { payout with status := .cancelled } rfl hclosed rfl]
    simp only [unqueued, max_eq_left (sub_nonneg.mpr hle)]
    split <;> omega
  · simp only [unqueued, max_eq_left (sub_nonneg.mpr hle),
      max_eq_left (sub_nonneg.mpr hcredited)]
    omega

end Close

/-! ## Calls -/

theorem mem_of_findLivePayout {orderId : ObjectId} {payoutType : PayoutType} {payout : Payout}
    (h : findLivePayout db orderId payoutType = some payout) :
    payout ∈ db.payouts.rows ∧ payout.status.Live := by
  have hsome := List.find?_some h
  simp only [decide_eq_true_eq] at hsome
  exact ⟨List.mem_of_find?_eq_some h, hsome.2.2⟩

theorem Balanced.processPayout (h : Balanced db) (payoutId : ObjectId) (now : Date) :
    Balanced (commit db (processPayout db payoutId now)) := by
  refine commit_induction h (fun db' result hok => ?_)
  obtain ⟨payout, hget, hlive, -, -, rfl, -⟩ := processPayout_eq_ok.mp hok
  exact h.releasePayout (mem_of_get? hget) hlive now

theorem maybeWriteLedgerEntry_frame {db db' : Db} {direction : LedgerDirection}
    {amount before after : ℤ} {options : MovementOptions} (ha : 0 ≤ amount)
    (h : maybeWriteLedgerEntry db owner direction amount before after options = .ok db') :
    db'.wallets = db.wallets ∧ db'.payouts = db.payouts ∧ db'.orders = db.orders := by
  obtain ⟨-, ⟨-, rfl⟩ | ⟨t, -, -, rfl⟩⟩ := (maybeWriteLedgerEntry_eq_ok ha).mp h
  · exact ⟨rfl, rfl, rfl⟩
  · exact ⟨rfl, rfl, rfl⟩

theorem Balanced.creditWallet (h : Balanced db) (owner : Owner) (amount : ℚ)
    (options : MovementOptions) :
    Balanced (commit db (creditWallet db owner amount .available options)) := by
  refine commit_induction h (fun db' m hok => ?_)
  obtain ⟨db₁, hpos, -, hwrite, rfl, -⟩ := creditWallet_eq_ok.mp hok
  obtain ⟨hw, hp, -⟩ := maybeWriteLedgerEntry_frame (le_of_lt hpos) hwrite
  have hnet := h.net owner
  have havail := h.available owner
  rw [if_pos rfl]
  refine h.updateAvailable ((db.wallets owner).credited .available (roundCurrency amount))
    ?_ ?_ rfl ?_ ?_ (h.debited owner)
  · rw [maybeSyncUserWalletBalance_wallets, hw, Db.saveWallet_wallets]
  · rw [maybeSyncUserWalletBalance_payouts, hp, Db.saveWallet_payouts]
  · simp only [credited, setBalance_available, balance_available]
    omega
  · simp only [credited, setBalance_available, balance_available]
    omega

theorem Balanced.debitWallet (h : Balanced db) (owner : Owner) (amount : ℚ)
    (options : MovementOptions) :
    Balanced (commit db (debitWallet db owner amount .available options)) := by
  refine commit_induction h (fun db' m hok => ?_)
  obtain ⟨db₁, hpos, -, hle, hwrite, rfl, -⟩ := debitWallet_eq_ok.mp hok
  obtain ⟨hw, hp, -⟩ := maybeWriteLedgerEntry_frame (le_of_lt hpos) hwrite
  have hnet := h.net owner
  have hdebit := h.debited owner
  rw [balance_available] at hle
  rw [if_pos rfl]
  refine h.updateAvailable ((db.wallets owner).debited .available (roundCurrency amount))
    ?_ ?_ rfl ?_ ?_ ?_
  · rw [maybeSyncUserWalletBalance_wallets, hw, Db.saveWallet_wallets]
  · rw [maybeSyncUserWalletBalance_payouts, hp, Db.saveWallet_payouts]
  · simp only [Wallet.debited, Wallet.setBalance_available, Wallet.balance_available]
    omega
  · simp only [Wallet.debited, Wallet.setBalance_available, Wallet.balance_available]
    omega
  · simp only [Wallet.debited, Wallet.setBalance_available]
    omega

theorem balanced_payoutStep (db : Db) (op : PayoutOp) (h : Balanced db) :
    Balanced (payoutStep db op) := by
  cases op with
  | createPendingPayoutForOrder order payoutType beneficiaryId amount failsAt =>
    refine commit_induction h (fun db' result hok => ?_)
    rcases createPendingPayoutForOrder_cases hok with rfl | ⟨id, ha, rfl⟩
    · exact h
    · exact h.queuePayout order.id payoutType id ha
  | processPayout payoutId now => exact h.processPayout payoutId now
  | bulkProcessPayouts payoutIds payoutType limit now =>
    show Balanced (processAll now db _).1
    rw [processAll_fst]
    have hround : ∀ db id, Balanced db →
        Balanced (commit db (DiscountBazar.Finance.processPayout db id now)) :=
      fun _ id hdb => hdb.processPayout id now
    exact exec_induction hround h _
  | cancelPendingPayoutForOrder orderId payoutType =>
    refine commit_induction h (fun db' result hok => ?_)
    rcases cancelPendingPayoutForOrder_eq_ok.mp hok with
      ⟨-, rfl, -⟩ | ⟨payout, hfind, -, rfl, -⟩
    · exact h
    · obtain ⟨hmem, hlive⟩ := mem_of_findLivePayout hfind
      exact h.unqueuePayout hmem hlive orderId
  | creditWallet owner amount options => exact h.creditWallet owner amount options
  | debitWallet owner amount options => exact h.debitWallet owner amount options

theorem balanced_run (orders : Table Order.id) (ops : List PayoutOp) :
    Balanced (exec payoutStep (Db.fresh orders) ops) :=
  exec_induction balanced_payoutStep (balanced_fresh orders) ops

/-! ## Main result -/

/-- In every state of every run from empty wallets: the pending balance of each owner is
the sum of its live payouts, the two balances are the credits less the debits, processing
a payout keeps their sum, and in processing as in cancelling the clamped differences are
not negative. -/
theorem payout_books (orders : Table Order.id) (ops : List PayoutOp) :
    let db := exec payoutStep (Db.fresh orders) ops
    (∀ owner, (db.wallets owner).pendingBalance = pendingPayouts db owner) ∧
    (∀ owner, (db.wallets owner).availableBalance + (db.wallets owner).pendingBalance
      = (db.wallets owner).totalCredited - (db.wallets owner).totalDebited) ∧
    (∀ payoutId now db' payout, processPayout db payoutId now = .ok (db', payout) →
      ∀ owner, (db'.wallets owner).pendingBalance + (db'.wallets owner).availableBalance
        = (db.wallets owner).pendingBalance + (db.wallets owner).availableBalance) ∧
    (∀ payout ∈ db.payouts.rows, payout.status.Live →
      0 ≤ (db.wallets payout.owner).pendingBalance - payout.amount ∧
      0 ≤ (db.wallets payout.owner).totalCredited - payout.amount) := by
  intro db
  have h : Balanced db := balanced_run orders ops
  refine ⟨h.pending, h.net, ?_, ?_⟩
  · intro payoutId now db' result hok owner
    obtain ⟨payout, hget, hlive, -, -, rfl, -⟩ := processPayout_eq_ok.mp hok
    have hle := h.amount_le_pending (mem_of_get? hget) hlive
    simp only [Db.releasePayout, Function.update_apply]
    split
    · rename_i ho
      simp only [released, max_eq_right (sub_nonneg.mpr hle), ho]
      omega
    · rfl
  · intro payout hmem hlive
    exact ⟨sub_nonneg.mpr (h.amount_le_pending hmem hlive),
      sub_nonneg.mpr (h.amount_le_credited hmem hlive)⟩

end DiscountBazar.Finance
