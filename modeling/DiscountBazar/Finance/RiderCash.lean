/-
The cash that riders hand over, as the admin books it (`cashService.js`).

Both ways of settling read what the rider holds from the transactions, and then write a row without
looking again. The collections come from deliveries (`orderSettlement.js`), at any time.
-/
import DiscountBazar.Finance.Transactions
import DiscountBazar.Lib.Tasks

namespace DiscountBazar.Finance.RiderCash

open Tasks Runs
open Prog (perform)
open Transactions

/-! ## The shared state -/

structure CashDesk where
  transactions : Transactions
  riders : List ObjectId

structure CashCollection where
  orderId : ObjectId
  riderId : ObjectId
  amount : ℚ
  nonneg : 0 ≤ amount

def CashCollection.row (collection : CashCollection) : TransactionRow where
  reference := .cashCollection collection.orderId
  user := collection.riderId
  userModel := .delivery
  type := .cashCollection
  amount := collection.amount
  status := .settled

def settlementRow (reference : Reference) (riderId : ObjectId) (amount : ℚ) : TransactionRow where
  reference := reference
  user := riderId
  userModel := .delivery
  type := .cashSettlement
  amount := -|amount|
  status := .settled

/-! ## Calls -/

inductive CashError where
  /-- "Missing riderId or invalid amount" -/
  | invalid
  /-- "Amount exceeds the rider's cash in hand (…)" -/
  | exceeds (cashInHand : ℚ)
  | duplicateReference
  | unavailable

inductive Kind where
  | findRider (riderId : ObjectId)
  | findCash (riderId : ObjectId)
  /-- `getDeliveryCashBalancesData`, its first page -/
  | findBalances (limit : ℕ)
  | createSettlement (bulk : Bool) (riderId : ObjectId) (amount : ℚ)
  | createNotification (riderId : ObjectId)
  /-- the upsert at the end of `applyDeliveredSettlement` -/
  | collect (collection : CashCollection)

@[reducible] def Kind.Reply : Kind → Type
  | .findRider _ => Bool
  | .findCash _ => List TransactionRow
  | .findBalances _ => List (ObjectId × ℚ)
  | _ => Unit

/-- How a call goes, and the clock and the random number of a reference. -/
structure Choice where
  outcome : Outcome CashError := .done
  now : ℕ := 0
  random : ℕ := 0

/-- `CSH-SET-…` -/
def settlementReference (bulk : Bool) (c : Choice) : Reference :=
  if bulk then .bulkSettlement c.now c.random else .settlement c.now

def effect (c : Choice) (desk : CashDesk) :
    (kind : Kind) → Except CashError kind.Reply × CashDesk
  | .findRider riderId => (.ok (decide (riderId ∈ desk.riders)), desk)
  | .findCash riderId => (.ok (desk.transactions.rows.filter (isCashOf riderId)), desk)
  | .findBalances limit =>
    (.ok ((desk.riders.take limit).map (fun riderId => (riderId, cashOf riderId desk.transactions))),
      desk)
  | .createSettlement bulk riderId amount =>
    match create (settlementRow (settlementReference bulk c) riderId amount)
        desk.transactions with
    | (.ok (), transactions) => (.ok (), { desk with transactions })
    | (.error _, transactions) => (.error .duplicateReference, { desk with transactions })
  | .createNotification _ => (.ok (), desk)
  | .collect collection =>
    (.ok (), { desk with transactions := desk.transactions.upsert collection.row id })

def performOp (_ : ℕ) (kind : Kind) (c : Choice) (desk : CashDesk) :
    Option (Except CashError kind.Reply × CashDesk) :=
  some (c.outcome.perform (effect c desk kind) desk)

/-! ## The handlers -/

abbrev M := Prog Kind Kind.Reply CashError

/-- The request of a settlement; what is missing in it is `none`. -/
structure SettleRequest where
  riderId : Option ObjectId
  amount : Option ℚ

/-- The part of `settleRiderCashEntry` after its checks. -/
def settleCash (riderId : ObjectId) (amount : ℚ) : M Unit := do
  let cashTxns ← perform (Kind.findCash riderId)
  if amount > currentCash cashTxns + 0.001 then .throw (.exceeds (max 0 (currentCash cashTxns)))
  else do
    perform (Kind.createSettlement false riderId amount)
    perform (Kind.createNotification riderId)

def settleRiderCashEntry (request : SettleRequest) : M Unit :=
  match request.riderId, request.amount with
  | some riderId, some amount =>
    if amount ≤ 0 then .throw .invalid
    else do
      let found ← perform (Kind.findRider riderId)
      if found then settleCash riderId amount else pure ()
  | _, _ => .throw .invalid

/-- The riders that a bulk settlement is about. -/
def eligibleRiders (riderIds : List ObjectId) (balances : List (ObjectId × ℚ)) :
    List (ObjectId × ℚ) :=
  let owing := balances.filter (fun balance => decide (0 < balance.2))
  if riderIds = [] then owing else owing.filter (fun balance => decide (balance.1 ∈ riderIds))

/-- One rider of a bulk settlement: a failed notification is only a warning. -/
def settleBalance (balance : ObjectId × ℚ) : M Unit := do
  perform (Kind.createSettlement true balance.1 balance.2)
  (perform (Kind.createNotification balance.1)).tryCatch (fun _ => pure ())

/-- `bulkSettleAllCashData`; no ids stand for all riders. -/
def bulkSettleAllCashData (riderIds : List ObjectId) : M Unit := do
  let balances ← perform (Kind.findBalances 1000)
  Prog.forEach settleBalance (eligibleRiders riderIds balances)

inductive Command where
  | settle (request : SettleRequest)
  | bulkSettle (riderIds : List ObjectId)
  | collect (collection : CashCollection)

def Command.program : Command → M Unit
  | .settle request => settleRiderCashEntry request
  | .bulkSettle riderIds => bulkSettleAllCashData riderIds
  | .collect collection => perform (Kind.collect collection)

/-- Settlements and collections of all riders; new riders register at any time. -/
def cashSystem : System Kind Kind.Reply CashError CashDesk Choice ObjectId Command where
  perform := performOp
  outside := fun riderId desk => some { desk with riders := desk.riders ++ [riderId] }
  entry := Command.program
  mayStart := fun _ _ => true

abbrev Pool := Tasks.Pool Kind Kind.Reply CashError CashDesk

abbrev Act := Action Choice ObjectId Command

/-! ## What is to hold -/

structure Covered (desk : CashDesk) : Prop where
  nonneg : ∀ riderId, 0 ≤ cashOf riderId desk.transactions
  once : ∀ riderId, settledBy riderId desk.transactions ≤ collectedBy riderId desk.transactions

/-- A call that settles finds the rider holding the amount at that moment. -/
def Held (c : Choice) (desk : CashDesk) : Kind → Prop
  | .createSettlement bulk riderId amount =>
    desk.transactions.isFresh (settlementReference bulk c) = true →
      |amount| ≤ cashOf riderId desk.transactions
  | _ => True

def HeldAtWrite (_ : ℕ) (kind : Kind) (c : Choice) (desk : CashDesk) : Prop :=
  c.outcome.takesEffect = true → Held c desk kind

instance (c : Choice) (desk : CashDesk) (kind : Kind) : Decidable (Held c desk kind) := by
  unfold Held
  split
  · infer_instance
  · infer_instance

instance (i : ℕ) (kind : Kind) (c : Choice) (desk : CashDesk) :
    Decidable (HeldAtWrite i kind c desk) := inferInstanceAs (Decidable (_ → _))

/-! ## What one call does -/

theorem covered_iff (desk : CashDesk) :
    Covered desk ↔ ∀ riderId, 0 ≤ cashOf riderId desk.transactions := by
  constructor
  · exact Covered.nonneg
  · intro h
    refine ⟨h, fun riderId => ?_⟩
    have hcash := h riderId
    rw [cashOf_eq, sub_nonneg] at hcash
    exact hcash

theorem cashOf_settlement {reference : Reference} {rows : Transactions}
    (hfresh : rows.isFresh reference = true) (riderId other : ObjectId) (amount : ℚ) :
    cashOf other (rows.create (settlementRow reference riderId amount)).2
      = cashOf other rows - (if riderId = other then |amount| else 0) := by
  have hcollected := sum_create (settlementRow reference riderId amount) hfresh
    (fun row => if row.user = other ∧ row.type = .cashCollection then row.amount else 0)
  have hsettled := sum_create (settlementRow reference riderId amount) hfresh
    (fun row => if row.user = other ∧ row.type = .cashSettlement then |row.amount| else 0)
  rw [cashOf_eq, cashOf_eq, collectedBy, settledBy, hcollected, hsettled]
  simp [settlementRow, collectedBy, settledBy]
  ring

theorem cashOf_collect (collection : CashCollection) (riderId : ObjectId) (rows : Transactions) :
    cashOf riderId rows ≤ cashOf riderId (rows.upsert collection.row id) := by
  have hcollected := sum_upsert_of_change collection.row id rows
    (fun row => if row.user = riderId ∧ row.type = .cashCollection then row.amount else 0)
    (fun _ => rfl)
  have hsettled := sum_upsert_of_change collection.row id rows
    (fun row => if row.user = riderId ∧ row.type = .cashSettlement then |row.amount| else 0)
    (fun _ => rfl)
  have hnonneg := collection.nonneg
  have hshare : 0 ≤ if collection.row.user = riderId ∧ collection.row.type = .cashCollection then
      collection.row.amount else 0 := by
    split
    · exact hnonneg
    · exact le_refl 0
  have hnone : (if collection.row.user = riderId ∧ collection.row.type = .cashSettlement then
      |collection.row.amount| else 0) = 0 := if_neg (by simp [CashCollection.row])
  rw [hnone, add_zero, or_self] at hsettled
  rw [cashOf_eq, cashOf_eq, settledBy, settledBy, hsettled]
  refine sub_le_sub_right ?_ _
  rcases hcollected with hsame | hadd
  · exact hsame.ge
  · unfold collectedBy
    rw [hadd]
    exact le_add_of_nonneg_right hshare

theorem transactions_createSettlement (c : Choice) (desk : CashDesk) (bulk : Bool)
    (riderId : ObjectId) (amount : ℚ) :
    (effect c desk (.createSettlement bulk riderId amount)).2.transactions
      = (desk.transactions.create
          (settlementRow (settlementReference bulk c) riderId amount)).2 := by
  unfold effect
  dsimp only
  split
  next transactions hcreate => rw [hcreate]
  next e transactions hcreate => rw [hcreate]

/-- What a call does keeps every rider's cash from turning negative exactly when the rider it settles for
holds the amount. -/
theorem covered_effect_iff (c : Choice) {desk : CashDesk} (hcovered : Covered desk) (kind : Kind) :
    Covered (effect c desk kind).2 ↔ Held c desk kind := by
  have hcash := (covered_iff desk).mp hcovered
  cases kind with
  | createSettlement bulk riderId amount =>
    rw [covered_iff, transactions_createSettlement]
    cases hfresh : desk.transactions.isFresh (settlementReference bulk c) with
    | true =>
      simp only [Held, hfresh, forall_const, cashOf_settlement hfresh]
      constructor
      · intro h
        have hrider := h riderId
        rw [if_pos rfl, sub_nonneg] at hrider
        exact hrider
      · intro h other
        by_cases hother : riderId = other
        · rw [if_pos hother, sub_nonneg, ← hother]
          exact h
        · rw [if_neg hother, sub_zero]
          exact hcash other
    | false =>
      have hrow : desk.transactions.isFresh
          (settlementRow (settlementReference bulk c) riderId amount).reference = false := hfresh
      rw [create_taken hrow]
      refine iff_of_true hcash (fun h => ?_)
      rw [hfresh] at h
      cases h
  | collect collection =>
    refine iff_of_true ((covered_iff _).mpr (fun riderId => ?_)) trivial
    exact (hcash riderId).trans (cashOf_collect collection riderId desk.transactions)
  | findRider | findCash | findBalances | createNotification => exact iff_of_true hcovered trivial

/-! ## Every interleaving -/

theorem hundred_nonneg : (0 : ℚ) ≤ 100 := by norm_num

/-- Rider 7 has collected 100 rupees for order 1, and two settlements of them are asked for. -/
def twoSettlements : List Act :=
  [.start (.collect ⟨1, 7, 100, hundred_nonneg⟩), .run 0 {},
    .start (.settle ⟨some 7, some 100⟩), .start (.settle ⟨some 7, some 100⟩)]

/-- The second one reads when the first has written: it is refused. -/
def inTurn : List Act :=
  twoSettlements ++ [.run 1 {}, .run 1 {}, .run 1 ⟨.done, 10, 0⟩, .run 1 {}, .run 2 {}, .run 2 {}]

def readTogether : List Act :=
  twoSettlements ++
    [.run 1 {}, .run 1 {}, .run 2 {}, .run 2 {}, .run 1 ⟨.done, 10, 0⟩, .run 2 ⟨.done, 11, 0⟩]

/-- The desk with rider 7, before anything was collected. -/
def emptyDesk : CashDesk := ⟨Table.empty, [7]⟩

theorem emptyDesk_covered : Covered emptyDesk :=
  ⟨fun _ => le_refl 0, fun _ => le_refl 0⟩

end DiscountBazar.Finance.RiderCash
