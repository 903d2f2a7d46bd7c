/-
What riders earn and withdraw (`deliveryController.js`, `deliveryEarningsService.js`,
`walletAdminService.js`), on the transactions.

A request for a withdrawal takes a lease on the rider before it reads the balance, so two requests
do not come between each other. The admin's changes of status take no lease, and no change looks at
what the row was before.
-/
import DiscountBazar.Finance.Transactions
import DiscountBazar.Pricing.Coupon
import DiscountBazar.Lib.Lease
import DiscountBazar.Lib.Tasks

namespace DiscountBazar.Finance.Withdrawals

open Tasks Transaction Function
open Prog (perform)

/-! ## Balances -/

def earningTypes : List TransactionType := [.deliveryEarning, .incentive, .bonus]

/-- `$match: { user, userModel: "Delivery" }`. -/
def isRiders (riderId : ObjectId) (row : TransactionRow) : Bool :=
  decide (row.user = riderId) && decide (row.userModel = .delivery)

def isEarned (riderId : ObjectId) (row : TransactionRow) : Bool :=
  isRiders riderId row && decide (row.status = .settled) && decide (row.type ∈ earningTypes)

def isPaid (riderId : ObjectId) (row : TransactionRow) : Bool :=
  isRiders riderId row && decide (row.status = .settled) && decide (row.type = .withdrawal)

def isInFlight (riderId : ObjectId) (row : TransactionRow) : Bool :=
  isRiders riderId row && decide (row.status ∈ [TransactionStatus.pending, .processing]) &&
    decide (row.type = .withdrawal)

/-- `totalEarnings`, `settledWithdrawals` and `pendingWithdrawals` before they are rounded. -/
def earned (riderId : ObjectId) (rows : Transactions) : ℚ :=
  rows.sum (fun row => if isEarned riderId row then row.amount else 0)

def paid (riderId : ObjectId) (rows : Transactions) : ℚ :=
  rows.sum (fun row => if isPaid riderId row then |row.amount| else 0)

def inFlight (riderId : ObjectId) (rows : Transactions) : ℚ :=
  rows.sum (fun row => if isInFlight riderId row then |row.amount| else 0)

/-- The `availableBalance` of `getRiderWithdrawableBalance`, in paise. -/
def availableBalance (riderId : ObjectId) (rows : Transactions) : ℤ :=
  let totalEarnings := fromPaise (roundCurrency (earned riderId rows))
  let settledWithdrawals := fromPaise (roundCurrency (paid riderId rows))
  let pendingWithdrawals := fromPaise (roundCurrency (inFlight riderId rows))
  max 0 (roundCurrency (totalEarnings - settledWithdrawals - pendingWithdrawals))

def room (riderId : ObjectId) (rows : Transactions) : ℚ :=
  earned riderId rows - (paid riderId rows + inFlight riderId rows)

/-! ## The shared state -/

/-- What a request has read: the rider's room, and what had moved it by then. -/
structure Reading where
  riderId : ObjectId
  room : ℚ
  moved : ℚ

/-- The clock, the transactions, and the leases of the riders (`withdrawalLockedUntil`). The rest is
history: what status changes and earnings have moved each rider's room by, what each task has read,
the references under which withdrawals were created, and whether every one of them was created under
a lease and after a reading. -/
structure Desk where
  clock : Date
  transactions : Transactions
  leases : Leases.Book ℕ ObjectId Date
  moved : ObjectId → ℚ
  readings : ℕ → Option Reading
  created : List Reference
  leased : Bool

def Desk.start (clock : Date) (transactions : Transactions)
    (lockedUntil : ObjectId → Option Date) : Desk where
  clock := clock
  transactions := transactions
  leases := ⟨lockedUntil, fun _ => none⟩
  moved := fun _ => 0
  readings := fun _ => none
  created := []
  leased := true

def Desk.withRows (desk : Desk) (rows : Transactions) : Desk :=
  { desk with
    transactions := rows
    moved := fun riderId =>
      desk.moved riderId + (room riderId rows - room riderId desk.transactions) }

def Desk.holds (desk : Desk) (task : ℕ) (riderId : ObjectId) : Bool :=
  (desk.leases.held task).any (fun hold => decide (hold.resource = riderId))

/-- The task holds the lease of the rider, and has read his balance under it. -/
def Desk.ready (desk : Desk) (task : ℕ) (riderId : ObjectId) : Bool :=
  desk.holds task riderId && (desk.readings task).any (fun reading => decide (reading.riderId = riderId))

/-! ## Calls -/

inductive WithdrawalError where
  /-- "Please enter a valid amount" -/
  | invalidAmount
  /-- "Delivery partner not found" -/
  | riderNotFound
  /-- "A withdrawal request is already being processed. Please wait." -/
  | locked
  /-- "Insufficient balance. Available: …" -/
  | insufficient (availableBalance : ℤ)
  /-- "Add a valid bank account number and IFSC before withdrawing" -/
  | noBankAccount
  /-- "Invalid status" -/
  | invalidStatus
  | duplicateReference
  | unavailable

inductive Kind where
  /-- `findOne({ reference, user })` -/
  | findWithdrawal (reference : Reference) (riderId : ObjectId)
  | findRider (riderId : ObjectId)
  | readClock
  | takeLease (riderId : ObjectId) (now : Date)
  | readBalance (riderId : ObjectId)
  | createWithdrawal (riderId : ObjectId) (reference : Option Reference) (amount : ℤ)
  | removeLease (riderId : ObjectId)
  | findTransaction (reference : Reference)
  | saveStatus (reference : Reference) (loaded status : TransactionStatus)
  /-- `findByIdAndUpdate(id, { status: "Settled" })` -/
  | settleTransaction (reference : Reference)
  | findPending
  | settlePending
  /-- the upsert of `applyDeliveredSettlement` -/
  | settleEarning (orderId riderId : ObjectId) (amount : ℕ)
  /-- the `create` of a return's commission -/
  | createEarning (text : String) (riderId : ObjectId) (amount : ℕ)

@[reducible] def Kind.Reply : Kind → Type
  | .findWithdrawal _ _ | .takeLease _ _ | .settleTransaction _ => Bool
  | .findRider _ => Option Bool
  | .readClock => Date
  | .readBalance _ => ℤ
  | .findTransaction _ => Option TransactionRow
  | _ => Unit

/-- How a call goes, the rider's document with whether its bank account is valid, and the clock of a
reference. -/
structure Choice where
  outcome : Outcome WithdrawalError := .done
  rider : Option Bool := some true
  stamp : ℕ := 0

def withdrawalRow (riderId : ObjectId) (reference : Reference) (amount : ℤ) : TransactionRow where
  reference := reference
  user := riderId
  userModel := .delivery
  type := .withdrawal
  amount := -|fromPaise amount|
  status := .pending

def earningRow (riderId : ObjectId) (reference : Reference) (amount : ℕ) : TransactionRow where
  reference := reference
  user := riderId
  userModel := .delivery
  type := .deliveryEarning
  amount := fromPaise amount
  status := .settled

def TransactionRow.withStatus (row : TransactionRow) (status : TransactionStatus) : TransactionRow :=
  { row with status }

/-- `updateMany({ userModel: "Delivery", status: "Pending" }, { status: "Settled" })`, one row. -/
def settleIfPending (row : TransactionRow) : TransactionRow :=
  if row.userModel = .delivery ∧ row.status = .pending then
    TransactionRow.withStatus row .settled else row

theorem reference_settleIfPending (row : TransactionRow) :
    (settleIfPending row).reference = row.reference := by
  unfold settleIfPending
  split
  · rfl
  · rfl

def setStatus (rows : Transactions) (reference : Reference) (status : TransactionStatus) :
    Transactions :=
  match rows.get? reference with
  | some row => rows.set (TransactionRow.withStatus row status)
  | none => rows

def bookEarning (rows : Transactions) (orderId riderId : ObjectId) (amount : ℕ) : Transactions :=
  rows.upsert (earningRow riderId (.deliveryEarning orderId) amount)
    (fun old => { old with amount := fromPaise amount, status := .settled })

def effect (task : ℕ) (c : Choice) (desk : Desk) :
    (kind : Kind) → Except WithdrawalError kind.Reply × Desk
  | .findWithdrawal reference riderId =>
    (.ok ((desk.transactions.get? reference).any (fun row => decide (row.user = riderId))), desk)
  | .findRider _ => (.ok c.rider, desk)
  | .readClock => (.ok desk.clock, desk)
  | .takeLease riderId now =>
    if c.rider.isSome = true ∧ desk.leases.isFree riderId now = true then
      (.ok true,
        { desk with
          leases := desk.leases.acquire task riderId (now + 15000)
          readings := update desk.readings task none })
    else (.ok false, desk)
  | .readBalance riderId =>
    (.ok (availableBalance riderId desk.transactions),
      { desk with
        readings := update desk.readings task
          (some ⟨riderId, room riderId desk.transactions, desk.moved riderId⟩) })
  | .createWithdrawal riderId reference amount =>
    let row := withdrawalRow riderId (reference.getD (.riderWithdrawal c.stamp)) amount
    if desk.transactions.isFresh row.reference then
      (.ok (),
        { desk with
          transactions := desk.transactions.insert row
          readings := update desk.readings task none
          created := row.reference :: desk.created
          leased := desk.leased && desk.ready task riderId })
    else (.error .duplicateReference, desk)
  | .removeLease riderId => (.ok (), { desk with leases := desk.leases.release task riderId })
  | .findTransaction reference => (.ok (desk.transactions.get? reference), desk)
  | .saveStatus reference loaded status =>
    if loaded = status then (.ok (), desk)
    else (.ok (), desk.withRows (setStatus desk.transactions reference status))
  | .settleTransaction reference =>
    (.ok (desk.transactions.get? reference).isSome,
      desk.withRows (setStatus desk.transactions reference .settled))
  | .findPending => (.ok (), desk)
  | .settlePending =>
    (.ok (), desk.withRows (desk.transactions.map settleIfPending reference_settleIfPending))
  | .settleEarning orderId riderId amount =>
    (.ok (), desk.withRows (bookEarning desk.transactions orderId riderId amount))
  | .createEarning text riderId amount =>
    let row := earningRow riderId (.other text) amount
    if desk.transactions.isFresh row.reference then
      (.ok (), desk.withRows (desk.transactions.insert row))
    else (.error .duplicateReference, desk)

def performOp (task : ℕ) (kind : Kind) (c : Choice) (desk : Desk) :
    Option (Except WithdrawalError kind.Reply × Desk) :=
  some (c.outcome.perform (effect task c desk kind) desk)

/-! ## The handlers -/

abbrev M := Prog Kind Kind.Reply WithdrawalError

/-- A request of a rider; an amount that is no finite number is `none`. -/
structure Request where
  riderId : ObjectId
  amount : Option ℚ
  /-- the header `idempotency-key` -/
  idempotencyKey : String := ""

def Request.idemKey (request : Request) : String :=
  String.ofList ((Pricing.trim request.idempotencyKey).toList.take 100)

/-- The reference of a request with a key. No proof looks into the strings it is made of. -/
@[irreducible] def Request.reference (request : Request) : Option Reference :=
  if request.idemKey = "" then none else some (.keyedWithdrawal request.riderId request.idemKey)

def findExisting (request : Request) : M Bool :=
  match request.reference with
  | some reference => perform (Kind.findWithdrawal reference request.riderId)
  | none => pure false

def withdraw (request : Request) (amount : ℤ) (hasBankAccount : Bool) : M Unit := do
  let existing ← findExisting request
  if existing then pure ()
  else do
    let availableBalance ← perform (Kind.readBalance request.riderId)
    if amount > availableBalance then .throw (.insufficient availableBalance)
    else if hasBankAccount then
      perform (Kind.createWithdrawal request.riderId request.reference amount)
    else .throw .noBankAccount

/-- The `finally` of a request; what it fails with is dropped. -/
def removeLease (riderId : ObjectId) : M Unit :=
  (perform (Kind.removeLease riderId)).tryCatch (fun _ => pure ())

def withLease (request : Request) (amount : ℤ) (hasBankAccount : Bool) : M Unit := do
  let now ← perform Kind.readClock
  let lease ← perform (Kind.takeLease request.riderId now)
  if lease then do
    (withdraw request amount hasBankAccount).tryCatch (fun e => do
      removeLease request.riderId
      .throw e)
    removeLease request.riderId
  else .throw .locked

def lookUp (request : Request) (amount : ℤ) : M Unit := do
  let existing ← findExisting request
  if existing then pure ()
  else do
    let rider ← perform (Kind.findRider request.riderId)
    match rider with
    | none => .throw .riderNotFound
    | some hasBankAccount => withLease request amount hasBankAccount

def requestWithdrawal (request : Request) : M Unit :=
  match request.amount with
  | none => .throw .invalidAmount
  | some amount =>
    if roundCurrency amount ≤ 0 then .throw .invalidAmount
    else lookUp request (roundCurrency amount)

/-- `updateWithdrawalStatusById`; the `_id` of a row is its reference here. -/
def updateWithdrawalStatusById (reference : Reference) (status : TransactionStatus) : M Unit :=
  if status = .pending then .throw .invalidStatus
  else do
    let transaction ← perform (Kind.findTransaction reference)
    match transaction with
    | none => pure ()
    | some row => perform (Kind.saveStatus reference row.status status)

def settleDeliveryTransactionById (reference : Reference) : M Unit := do
  let _ ← perform (Kind.settleTransaction reference)
  pure ()

def bulkSettleDeliveryTransactions : M Unit := do
  perform Kind.findPending
  perform Kind.settlePending

inductive Command where
  | ask (request : Request)
  | updateStatus (reference : Reference) (status : TransactionStatus)
  | settle (reference : Reference)
  | bulkSettle
  | settleEarning (orderId riderId : ObjectId) (amount : ℕ)
  | createEarning (text : String) (riderId : ObjectId) (amount : ℕ)

def Command.program : Command → M Unit
  | .ask request => requestWithdrawal request
  | .updateStatus reference status => updateWithdrawalStatusById reference status
  | .settle reference => settleDeliveryTransactionById reference
  | .bulkSettle => bulkSettleDeliveryTransactions
  | .settleEarning orderId riderId amount => perform (Kind.settleEarning orderId riderId amount)
  | .createEarning text riderId amount => perform (Kind.createEarning text riderId amount)

/-- Requests, earnings and changes of status; outside them, time passes. -/
def withdrawalSystem : System Kind Kind.Reply WithdrawalError Desk Choice ℕ Command where
  perform := performOp
  outside := fun elapsed desk => some { desk with clock := desk.clock + elapsed }
  entry := Command.program
  mayStart := fun _ _ => true

abbrev Act := Action Choice ℕ Command

end DiscountBazar.Finance.Withdrawals
