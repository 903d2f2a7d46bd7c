/-
What a seller can withdraw, and what the earnings screen says (`sellerController.js`,
`sellerStatsController.js`).

The screen starts from the seller's wallet, if there is one; a request for a withdrawal starts
from the seller's settled rows of the old `Transaction` collection. The rows carry what the
customers paid and the wallet what the seller is due, so the two agree only where both come to
the same.
-/
import DiscountBazar.Finance.RiderWithdrawals
import DiscountBazar.Finance.SellerHold

namespace DiscountBazar.Finance.SellerEarnings

open Transaction Withdrawals Runs

/-! ## The rows of a seller -/

def isSellers (sellerId : ObjectId) (row : TransactionRow) : Bool :=
  decide (row.user = sellerId ∧ row.userModel = .seller)

def isSettled (sellerId : ObjectId) (row : TransactionRow) : Bool :=
  isSellers sellerId row && decide (row.status = .settled)

def isUnderWay (sellerId : ObjectId) (row : TransactionRow) : Bool :=
  isSellers sellerId row && decide (row.type = .withdrawal) &&
    decide (row.status = .pending ∨ row.status = .processing)

def settledBalance (sellerId : ObjectId) (rows : Transactions) : ℚ :=
  rows.sum (fun row => if isSettled sellerId row then row.amount else 0)

def pendingPayouts (sellerId : ObjectId) (rows : Transactions) : ℚ :=
  rows.sum (fun row => if isUnderWay sellerId row then |row.amount| else 0)

def totalWithdrawn (sellerId : ObjectId) (rows : Transactions) : ℚ :=
  rows.sum (fun row => if isSettled sellerId row && decide (row.type = .withdrawal) then |row.amount|
    else 0)

/-! ## Requests -/

inductive WithdrawalRefusal where
  /-- "Please provide a valid withdrawal amount" -/
  | invalidAmount
  /-- "Insufficient balance. Available: ₹…" -/
  | insufficientBalance (available : ℚ)
  | failed (e : ServiceError)

/-- The checks of `requestWithdrawal`. -/
def checkAmount (rows : Transactions) (sellerId : ObjectId) (amount : ℚ) :
    Except WithdrawalRefusal Unit :=
  if amount = 0 ∨ amount ≤ 0 then .error .invalidAmount
  else
    let availableBalance := settledBalance sellerId rows - pendingPayouts sellerId rows
    if availableBalance < amount then .error (.insufficientBalance availableBalance) else .ok ()

def withdrawal (sellerId : ObjectId) (amount : ℚ) (stamp : ℕ) : TransactionRow where
  reference := .withdrawal stamp
  user := sellerId
  userModel := .seller
  type := .withdrawal
  amount := -|amount|

def requestWithdrawal (rows : Transactions) (sellerId : ObjectId) (amount : ℚ) (stamp : ℕ) :
    Except WithdrawalRefusal Unit × Transactions :=
  match checkAmount rows sellerId amount with
  | .error refusal => (.error refusal, rows)
  | .ok () =>
    match rows.create (withdrawal sellerId amount stamp) with
    | (.ok (), rows) => (.ok (), rows)
    | (.error e, rows) => (.error (.failed e), rows)

/-! ## The screen -/

/-- The stores that both handlers read; which wallets were opened is known for those that are
still empty. -/
structure Books where
  hold : HoldState
  rows : Transactions
  opened : ObjectId → Bool := fun _ => false

def Books.wallet? (s : Books) (sellerId : ObjectId) : Option Wallet :=
  if s.opened sellerId = true ∨ s.hold.db.wallets (.seller sellerId) ≠ Wallet.empty then
    some (s.hold.db.wallets (.seller sellerId))
  else none

structure Balances where
  settledBalance : ℚ
  pendingPayouts : ℚ
  onHoldBalance : ℚ
  availableBalance : ℚ
  totalWithdrawn : ℚ

/-- The balances that `getSellerEarnings` answers with. -/
def getSellerEarnings (s : Books) (sellerId : ObjectId) : Balances :=
  let settled := SellerEarnings.settledBalance sellerId s.rows
  let pending := SellerEarnings.pendingPayouts sellerId s.rows
  let onHoldBalance := ((s.wallet? sellerId).map (fun w => fromPaise w.pendingBalance)).getD 0
  let rawBaseBalance :=
    ((s.wallet? sellerId).map (fun w => fromPaise w.availableBalance)).getD settled
  { settledBalance := settled
    pendingPayouts := pending
    onHoldBalance
    availableBalance := max 0 (rawBaseBalance - pending - onHoldBalance)
    totalWithdrawn := SellerEarnings.totalWithdrawn sellerId s.rows }

/-! ## The system -/

/-- What changes the rows and the wallets of sellers. -/
inductive Op where
  /-- settlements, payouts and releases of holds -/
  | finance (op : HoldOp)
  /-- a wallet that is looked up -/
  | openWallet (sellerId : ObjectId)
  | creditWallet (sellerId : ObjectId) (amount : ℚ) (bucket : Bucket)
  | debitWallet (sellerId : ObjectId) (amount : ℚ) (bucket : Bucket)
  | placed (orderId sellerId : ObjectId) (grandTotal : ℤ)
  /-- the row of an order that was delivered, and of one that was cancelled -/
  | delivered (orderId : ObjectId)
  | cancelled (orderId : ObjectId)
  | refunded (orderId sellerId : ObjectId) (refundAmount : ℚ)
  | requestWithdrawal (sellerId : ObjectId) (amount : ℚ) (stamp : ℕ)
  | updateWithdrawalStatus (reference : Reference) (status : TransactionStatus)

def orderPayment (orderId sellerId : ObjectId) (grandTotal : ℤ) : TransactionRow where
  reference := .order orderId
  user := sellerId
  userModel := .seller
  type := .orderPayment
  amount := fromPaise grandTotal

/-- The row that a completed return writes for the seller. -/
def refund (orderId sellerId : ObjectId) (refundAmount : ℚ) : TransactionRow where
  reference := .sellerRefund orderId
  user := sellerId
  userModel := .seller
  type := .refund
  amount := -max 0 refundAmount
  status := .settled

/-- `findOneAndUpdate({ reference, userModel: "Seller" }, { status: "Settled" })`. -/
def settleOrderRow (rows : Transactions) (orderId : ObjectId) : Transactions :=
  if (rows.get? (.order orderId)).any (fun row => decide (row.userModel = .seller)) then
    setStatus rows (.order orderId) .settled
  else rows

def Books.withDb (s : Books) (db : Db) : Books := { s with hold := { s.hold with db } }

def booksStep (env : Env) (s : Books) : Op → Books
  | .finance op => { s with hold := holdStep env s.hold op }
  | .openWallet sellerId => { s with opened := Function.update s.opened sellerId true }
  | .creditWallet sellerId amount bucket =>
    s.withDb (commit s.hold.db (Finance.creditWallet s.hold.db (.seller sellerId) amount bucket))
  | .debitWallet sellerId amount bucket =>
    s.withDb (commit s.hold.db (Finance.debitWallet s.hold.db (.seller sellerId) amount bucket))
  | .placed orderId sellerId grandTotal =>
    { s with rows := (s.rows.create (orderPayment orderId sellerId grandTotal)).2 }
  | .delivered orderId => { s with rows := settleOrderRow s.rows orderId }
  | .cancelled orderId => { s with rows := setStatus s.rows (.order orderId) .failed }
  | .refunded orderId sellerId refundAmount =>
    { s with rows := (s.rows.create (refund orderId sellerId refundAmount)).2 }
  | .requestWithdrawal sellerId amount stamp =>
    { s with rows := (SellerEarnings.requestWithdrawal s.rows sellerId amount stamp).2 }
  | .updateWithdrawalStatus reference status =>
    if status = .pending then s else { s with rows := setStatus s.rows reference status }

/-! ## When they agree -/

/-- A request is accepted exactly for a positive amount within what the screen shows. -/
def Agrees (sellerId : ObjectId) (s : Books) : Prop :=
  ∀ amount : ℚ, checkAmount s.rows sellerId amount = .ok ()
    ↔ 0 < amount ∧ amount ≤ (getSellerEarnings s sellerId).availableBalance

/-- The seller has no wallet; or the settled rows come to the wallet's money that is not on hold;
or neither is more than the withdrawals under way. -/
def Level (sellerId : ObjectId) (s : Books) : Prop :=
  ∀ w ∈ s.wallet? sellerId,
    settledBalance sellerId s.rows = fromPaise w.availableBalance - fromPaise w.pendingBalance ∨
      (settledBalance sellerId s.rows ≤ pendingPayouts sellerId s.rows ∧
        fromPaise w.availableBalance - fromPaise w.pendingBalance ≤ pendingPayouts sellerId s.rows)

section Agreement

variable {s : Books} {sellerId : ObjectId}

theorem checkAmount_eq_ok {rows : Transactions} {amount : ℚ} :
    checkAmount rows sellerId amount = .ok ()
      ↔ 0 < amount ∧ amount ≤ settledBalance sellerId rows - pendingPayouts sellerId rows := by
  unfold checkAmount
  by_cases hpos : 0 < amount
  · rw [if_neg (not_or.mpr ⟨hpos.ne', not_le.mpr hpos⟩)]
    dsimp only
    by_cases hle : amount ≤ settledBalance sellerId rows - pendingPayouts sellerId rows
    · rw [if_neg (not_lt.mpr hle)]
      exact iff_of_true rfl ⟨hpos, hle⟩
    · rw [if_pos (not_le.mp hle)]
      exact iff_of_false (fun h => by cases h) (fun h => hle h.2)
  · rw [if_pos (.inr (not_lt.mp hpos))]
    exact iff_of_false (fun h => by cases h) (fun h => hpos h.1)

/-- Two limits let the same positive amounts through exactly where they are the same, or let none
through. -/
theorem limits_agree_iff (x y : ℚ) :
    (∀ amount : ℚ, (0 < amount ∧ amount ≤ x) ↔ (0 < amount ∧ amount ≤ max 0 y))
      ↔ x = y ∨ (x ≤ 0 ∧ y ≤ 0) := by
  constructor
  · intro h
    rcases lt_or_ge 0 x with hx | hx
    · have hxy : x ≤ y := ((le_max_iff.mp ((h x).mp ⟨hx, le_refl x⟩).2).resolve_left (not_le.mpr hx))
      have hyx := ((h y).mpr ⟨hx.trans_le hxy, le_max_right ..⟩).2
      exact .inl (le_antisymm hxy hyx)
    · refine .inr ⟨hx, not_lt.mp fun hy => ?_⟩
      exact absurd ((h y).mpr ⟨hy, le_max_right ..⟩).2 (not_le.mpr (hx.trans_lt hy))
  · rintro (rfl | ⟨hx, hy⟩) amount
    · refine and_congr_right fun hpos => ?_
      rw [le_max_iff, or_iff_right (not_le.mpr hpos)]
    · refine and_congr_right fun hpos => ?_
      rw [max_eq_left hy]
      exact iff_of_false (not_le.mpr (hx.trans_lt hpos)) (not_le.mpr hpos)

theorem agrees_iff_level : Agrees sellerId s ↔ Level sellerId s := by
  unfold Agrees Level getSellerEarnings
  dsimp only
  simp only [checkAmount_eq_ok]
  cases s.wallet? sellerId with
  | none =>
    simp only [Option.map_none, Option.getD_none, sub_zero]
    rw [limits_agree_iff]
    exact iff_of_true (.inl rfl) (fun w hw => by cases hw)
  | some w =>
    simp only [Option.map_some, Option.getD_some, Option.mem_some_iff, forall_eq']
    rw [limits_agree_iff]
    refine or_congr ⟨fun h => ?_, fun h => ?_⟩ (and_congr ?_ ?_)
    · linarith
    · linarith
    · rw [sub_nonpos]
    · constructor <;> intro h <;> linarith

end Agreement

def deliveredOnce : List Op :=
  [.placed 1 7 10000, .finance (.settleDeliveredOrder 1 none), .delivered 1]

end DiscountBazar.Finance.SellerEarnings
