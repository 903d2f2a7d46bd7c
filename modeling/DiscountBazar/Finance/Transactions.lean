/-
The legacy `Transaction` collection (`models/transaction.js`), which the dashboards of sellers and
riders and the admin's cash page still read.

A row is known by its `reference`, which is unique in the collection, so the collection is a table
with that key. Amounts are rupees as they were written: nobody rounds them here.
-/
import DiscountBazar.Finance.Types

namespace DiscountBazar.Finance

open Table

inductive TransactionType where
  | orderPayment | deliveryEarning | withdrawal | refund | incentive | bonus | cashCollection
  | cashSettlement | walletPayment | walletRefund
  deriving DecidableEq

inductive TransactionStatus where
  | pending | processing | settled | failed
  deriving DecidableEq

inductive UserModel where
  | seller | delivery | admin | user
  deriving DecidableEq

/-- The references, by their templates; `stamp` is `Date.now()`. -/
inductive Reference where
  /-- the order's own id -/
  | order (orderId : ObjectId)
  /-- `DEL-ERN-…` -/
  | deliveryEarning (orderId : ObjectId)
  /-- `CASH-COL-…` -/
  | cashCollection (orderId : ObjectId)
  /-- `CSH-SET-…` of one settlement -/
  | settlement (stamp : ℕ)
  /-- `CSH-SET-…-…` of the settlement of many riders -/
  | bulkSettlement (stamp random : ℕ)
  /-- `CSH-SET-…-…` of what a rider has submitted -/
  | submission (riderId : ObjectId) (stamp : ℕ)
  /-- `WDR-…` of a seller -/
  | withdrawal (stamp : ℕ)
  /-- `WDR-DL-…` of a rider, without a key and with one -/
  | riderWithdrawal (stamp : ℕ)
  | keyedWithdrawal (riderId : ObjectId) (key : String)
  /-- `REF-SELL-…`, and all others -/
  | sellerRefund (orderId : ObjectId)
  | other (text : String)
  deriving DecidableEq

/-- A `Transaction`. -/
structure TransactionRow where
  reference : Reference
  user : ObjectId
  userModel : UserModel
  type : TransactionType
  amount : ℚ
  status : TransactionStatus := .pending

abbrev Transactions := Table TransactionRow.reference

namespace Transactions

def duplicateReference : ServiceError := ⟨"E11000 duplicate key error", none⟩

/-- `Transaction.create`. -/
def create (row : TransactionRow) (rows : Transactions) : Except ServiceError Unit × Transactions :=
  if row.reference ∈ rows.rows.map TransactionRow.reference then (.error duplicateReference, rows)
  else (.ok (), rows.insert row)

/-- `Transaction.findOneAndUpdate` with `$set` and `$setOnInsert`, and `upsert`. -/
def upsert (row : TransactionRow) (change : TransactionRow → TransactionRow)
    (rows : Transactions) : Transactions :=
  match rows.get? row.reference with
  | some old => rows.set { change old with reference := old.reference }
  | none => rows.insert row

def isFresh (rows : Transactions) (reference : Reference) : Bool :=
  decide (reference ∉ rows.rows.map TransactionRow.reference)

theorem isFresh_of_get? {rows : Transactions} {reference : Reference}
    (h : rows.get? reference = none) : isFresh rows reference = true := by
  refine decide_eq_true (fun hmem => ?_)
  obtain ⟨row, hrow, rfl⟩ := List.mem_map.mp hmem
  rw [get?_of_mem hrow] at h
  cases h

variable {rows : Transactions} {row : TransactionRow}

theorem create_fresh (h : isFresh rows row.reference = true) :
    create row rows = (.ok (), rows.insert row) := if_neg (of_decide_eq_true h)

theorem create_taken (h : isFresh rows row.reference = false) :
    create row rows = (.error duplicateReference, rows) := by
  have hmem : row.reference ∈ rows.rows.map TransactionRow.reference := by
    unfold isFresh at h
    rw [decide_eq_false_iff_not] at h
    exact not_not.mp h
  exact if_pos hmem

theorem sum_create (row : TransactionRow) (h : isFresh rows row.reference = true)
    (f : TransactionRow → ℚ) :
    (create row rows).2.sum f = rows.sum f + f row := by
  rw [create_fresh h]
  exact sum_insert (of_decide_eq_true h) f

theorem sum_upsert_of_change (row : TransactionRow) (change : TransactionRow → TransactionRow)
    (rows : Transactions) (f : TransactionRow → ℚ)
    (hchange : ∀ old, f { change old with reference := old.reference } = f old) :
    (upsert row change rows).sum f = rows.sum f ∨
      (upsert row change rows).sum f = rows.sum f + f row := by
  unfold upsert
  cases hget : rows.get? row.reference with
  | some old =>
    left
    have hkey : rows.get? old.reference = some old := get?_of_mem (mem_of_get? hget)
    have hsum := sum_set (t := rows) (r := { change old with reference := old.reference })
      hkey f
    rw [hchange] at hsum
    exact add_right_cancel hsum
  | none =>
    right
    exact sum_insert (of_decide_eq_true (isFresh_of_get? hget)) f

end Transactions

/-! ## What a rider holds -/

def isCashOf (riderId : ObjectId) (row : TransactionRow) : Bool :=
  decide (row.user = riderId) &&
    decide (row.type ∈ [TransactionType.cashCollection, .cashSettlement])

/-- `currentCash`, and the same sum in `settleRiderCashEntry`. -/
def currentCash (cashTxns : List TransactionRow) : ℚ :=
  cashTxns.foldl
    (fun sum row => if row.type = .cashCollection then sum + row.amount else sum - |row.amount|) 0

def cashOf (riderId : ObjectId) (rows : Transactions) : ℚ :=
  currentCash (rows.rows.filter (isCashOf riderId))

def collectedBy (riderId : ObjectId) (rows : Transactions) : ℚ :=
  rows.sum (fun row =>
    if row.user = riderId ∧ row.type = .cashCollection then row.amount else 0)

def settledBy (riderId : ObjectId) (rows : Transactions) : ℚ :=
  rows.sum (fun row =>
    if row.user = riderId ∧ row.type = .cashSettlement then |row.amount| else 0)

theorem cashOf_eq (riderId : ObjectId) (rows : Transactions) :
    cashOf riderId rows = collectedBy riderId rows - settledBy riderId rows := by
  unfold cashOf currentCash collectedBy settledBy sum
  suffices h : ∀ (list : List TransactionRow) (start : ℚ),
      (list.filter (isCashOf riderId)).foldl
          (fun sum row => if row.type = .cashCollection then sum + row.amount else sum - |row.amount|)
          start
        = start
          + ((list.map (fun row =>
              if row.user = riderId ∧ row.type = .cashCollection then row.amount else 0)).sum
            - (list.map (fun row =>
              if row.user = riderId ∧ row.type = .cashSettlement then |row.amount| else 0)).sum) by
    rw [h rows.rows 0, zero_add]
  intro list
  induction list with
  | nil => intro start; simp
  | cons row list ih =>
    intro start
    rw [List.map_cons, List.map_cons, List.sum_cons, List.sum_cons]
    by_cases huser : row.user = riderId
    · by_cases hcollection : row.type = .cashCollection
      · have hrow : isCashOf riderId row = true := by simp [isCashOf, huser, hcollection]
        rw [List.filter_cons_of_pos hrow, List.foldl_cons, ih, if_pos hcollection,
          if_pos ⟨huser, hcollection⟩, if_neg (by simp [hcollection])]
        abel
      · by_cases hsettlement : row.type = .cashSettlement
        · have hrow : isCashOf riderId row = true := by simp [isCashOf, huser, hsettlement]
          rw [List.filter_cons_of_pos hrow, List.foldl_cons, ih, if_neg hcollection,
            if_neg (by simp [hcollection]), if_pos ⟨huser, hsettlement⟩]
          abel
        · have hrow : ¬ isCashOf riderId row = true := by
            simp [isCashOf, hcollection, hsettlement]
          rw [List.filter_cons_of_neg hrow, ih, if_neg (by simp [hcollection]),
            if_neg (by simp [hsettlement])]
          abel
    · have hrow : ¬ isCashOf riderId row = true := by simp [isCashOf, huser]
      rw [List.filter_cons_of_neg hrow, ih, if_neg (by simp [huser]), if_neg (by simp [huser])]
      abel

end DiscountBazar.Finance
