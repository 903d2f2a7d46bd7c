/-
The commission of a return's rider (`orderWorkflowController.js`, `orderReturnService.js`,
`walletService.js`).

It is paid in two places. `verifyReturnDropOtp` credits it in the background, after its answer: no
session, no key, and the flag on the order last. `completeReturnAndRefund` credits it in its
transaction, unless the flag is set. A credit outside a session reads the wallet and saves the new
balance, whatever the wallet has become in the meantime. Transactions of others move the wallet as
well; one that meets a change of what it has read is run again, so each is one step here.
-/
import DiscountBazar.Returns.Successive

namespace DiscountBazar.Returns.RiderCommission

open Tasks Finance Transaction Successive Runs Function
open Contract (Sound)
open Prog (perform All)
open Option

/-! ## The shared state -/

/-- What movements add up in a wallet: the available balance, and all that was ever credited. -/
structure Totals where
  available : ℤ
  credited : ℤ
  deriving DecidableEq

def totals (wallet : Wallet) : Totals := ⟨wallet.availableBalance, wallet.totalCredited⟩

def Totals.add (a b : Totals) : Totals := ⟨a.available + b.available, a.credited + b.credited⟩

def Totals.sub (a b : Totals) : Totals := ⟨a.available - b.available, a.credited - b.credited⟩

/-- The books, and the history of one return: what the rider's wallet comes to without the
commission, how often the commission was credited, how many credits have not reached the flag, and
the submissions that have recorded the hand-over. -/
structure Desk where
  db : Db
  others : Totals
  credits : ℕ := 0
  unflagged : ℕ := 0
  handed : List ℕ := []

/-! ## Calls -/

inductive Kind where
  | findOrder
  /-- the message of a validation that fails -/
  | validateReturnDropOtp (code : String)
  /-- `order.save()` with a new return status; `handover` is `verifyReturnDropOtp`'s -/
  | saveOrder (handover : Bool) (loaded edited : ReturnStatus)
  | populate
  /-- `getOrCreateWallet` of a credit outside a session; `commission` says what it is for -/
  | findWallet (commission : Bool) (riderId : ObjectId)
  | saveWallet (commission : Bool) (riderId : ObjectId) (loaded edited : Wallet)
  | createTransaction
  | setCommissionPaid
  /-- the transaction of `completeReturnAndRefund` -/
  | completeReturnAndRefund

@[reducible] def Kind.Reply : Kind → Type
  | .findOrder => Option Order
  | .validateReturnDropOtp _ => Option String
  | .findWallet _ _ => Wallet
  | _ => Unit

structure Choice where
  outcome : Tasks.Outcome ServiceError := .done
  invalid : Option String := none

def withStatus (loaded edited : ReturnStatus) (order : Order) : Order :=
  { order with returnStatus := written loaded edited order.returnStatus }

def flagged (order : Order) : Order :=
  { order with financeFlags := { order.financeFlags with returnPickupCommissionPaid := true } }

/-- A save of a wallet writes the fields that a credit has changed. -/
def savedWallet (loaded edited current : Wallet) : Wallet :=
  { current with
    availableBalance := written loaded.availableBalance edited.availableBalance current.availableBalance
    totalCredited := written loaded.totalCredited edited.totalCredited current.totalCredited }

def paysRider (order : Order) : Bool :=
  decide (order.returnStatus = .qcPassed ∧ order.returnDeliveryBoy.isSome ∧ CommissionDue order)

def refund (orderId : ObjectId) (s : Desk) : Except ServiceError Unit × Desk :=
  match completeReturnAndRefund s.db orderId with
  | .error e => (.error e, s)
  | .ok (db, _) =>
    if (s.db.orders.get? orderId).any paysRider then
      (.ok (), { s with db, credits := s.credits + 1 })
    else (.ok (), { s with db })

/-- What a call of task `i` answers and leaves where it is done. -/
def effect (orderId : ObjectId) (i : ℕ) (c : Choice) :
    (kind : Kind) → Desk → Except ServiceError kind.Reply × Desk
  | .findOrder, s => (.ok (s.db.orders.get? orderId), s)
  | .validateReturnDropOtp _, s => (.ok c.invalid, s)
  | .saveOrder handover loaded edited, s =>
    let db := (s.db.orders.get? orderId).elim s.db
      (fun order => s.db.saveOrder (withStatus loaded edited order))
    (.ok (), { s with db, handed := if handover then i :: s.handed else s.handed })
  | .populate, s => (.ok (), s)
  | .findWallet _ riderId, s => (.ok (s.db.getOrCreateWallet (.deliveryPartner riderId)), s)
  | .saveWallet commission riderId loaded edited, s =>
    let db := s.db.saveWallet (.deliveryPartner riderId)
      (savedWallet loaded edited (s.db.wallets (.deliveryPartner riderId)))
    if commission then
      (.ok (), { s with db, credits := s.credits + 1, unflagged := s.unflagged + 1 })
    else (.ok (), { s with db, others := s.others.add ((totals edited).sub (totals loaded)) })
  | .createTransaction, s => (.ok (), s)
  | .setCommissionPaid, s =>
    let db := (s.db.orders.get? orderId).elim s.db (fun order => s.db.saveOrder (flagged order))
    (.ok (), { s with db, unflagged := s.unflagged - 1 })
  | .completeReturnAndRefund, s => refund orderId s

def performOp (orderId : ObjectId) (i : ℕ) (kind : Kind) (c : Choice) (s : Desk) :
    Option (Except ServiceError kind.Reply × Desk) :=
  some (c.outcome.perform (effect orderId i c kind s) s)

/-! ## Handlers -/

abbrev M := Prog Kind Kind.Reply ServiceError

/-- `creditWallet` without a session, into the available balance of a rider. -/
def creditWallet (commission : Bool) (riderId : ObjectId) (amount : ℚ) : M Unit :=
  match assertPositiveAmount amount with
  | .error e => .throw e
  | .ok normalizedAmount => do
      let wallet ← perform (Kind.findWallet commission riderId)
      if wallet.status ≠ .active then .throw ⟨"Wallet is not active", none⟩
      else
        perform (Kind.saveWallet commission riderId wallet
          { wallet with
            availableBalance := addMoney (fromPaise wallet.availableBalance) (fromPaise normalizedAmount)
            totalCredited := addMoney (fromPaise wallet.totalCredited) (fromPaise normalizedAmount) })

/-- The background part of `verifyReturnDropOtp`, on the order it has loaded. -/
def creditCommission (order : Order) : M Unit :=
  match order.returnDeliveryBoy with
  | some riderId =>
    if 0 < order.returnDeliveryCommission ∧
        order.financeFlags.returnPickupCommissionPaid = false then do
      creditWallet true riderId (fromPaise order.returnDeliveryCommission)
      perform Kind.createTransaction
      perform Kind.setCommissionPaid
    else pure ()
  | none => pure ()

def verifyReturnDropOtp (userId : ObjectId) (code : String) : M Unit := do
  match ← perform Kind.findOrder with
  | none => .throw ⟨"Order not found", some 404⟩
  | some order =>
    if order.returnDeliveryBoy ≠ some userId then .throw ⟨"Not assigned to this return", some 403⟩
    else do
      match ← perform (Kind.validateReturnDropOtp code) with
      | some message => .throw ⟨message, some 400⟩
      | none => do
          perform (Kind.saveOrder true order.returnStatus .returned)
          perform Kind.populate
          (creditCommission order).tryCatch (fun _ => pure ())

/-- `updateReturnQcStatus`; what a failed check releases is the seller's. -/
def updateReturnQcStatus (role : Role) (qcStatus : ReturnStatus) : M Unit :=
  if role ≠ .admin then .throw ⟨"Access denied. Admins only.", some 403⟩
  else if qcStatus ∉ [.qcPassed, .qcFailed] then .throw ⟨"Invalid qcStatus value.", some 400⟩
  else do
    match ← perform Kind.findOrder with
    | none => .throw ⟨"Order not found", some 404⟩
    | some order =>
      if order.returnStatus ≠ .returned then
        .throw ⟨"QC can only be completed after the item is returned.", some 400⟩
      else do
        perform (Kind.saveOrder false order.returnStatus qcStatus)
        if qcStatus = .qcPassed then perform Kind.completeReturnAndRefund else pure ()

/-! ## The system -/

/-- What runs on the return, and a credit of another return to the rider's wallet. -/
inductive Request where
  | verifyReturnDropOtp (userId : ObjectId) (code : String)
  | updateReturnQcStatus (role : Role) (qcStatus : ReturnStatus)
  | completeReturnAndRefund
  | creditWallet (amount : ℚ)

def handle (riderId : ObjectId) : Request → M Unit
  | .verifyReturnDropOtp userId code => verifyReturnDropOtp userId code
  | .updateReturnQcStatus role qcStatus => updateReturnQcStatus role qcStatus
  | .completeReturnAndRefund => perform Kind.completeReturnAndRefund
  | .creditWallet amount => creditWallet false riderId amount

/-- What the return's handlers look at in the order. -/
def view (order : Order) : ReturnStatus × Option ObjectId × ℤ × Bool :=
  (order.returnStatus, order.returnDeliveryBoy, order.returnDeliveryCommission,
    order.financeFlags.returnPickupCommissionPaid)

/-- Other transactions leave the return and its row in the ledger alone. -/
def LeavesReturn (orderId : ObjectId) (db db' : Db) : Prop :=
  (db'.orders.get? orderId).map view = (db.orders.get? orderId).map view ∧
    (keyFree db' (some (riderCreditKey orderId)) ↔ keyFree db (some (riderCreditKey orderId)))

instance (orderId : ObjectId) (db db' : Db) : Decidable (LeavesReturn orderId db db') :=
  inferInstanceAs (Decidable (_ ∧ _))

/-- Another transaction is committed; it moves the rider's wallet by what it changes of it. -/
def committed (orderId riderId : ObjectId) (db : Db) (s : Desk) : Option Desk :=
  if LeavesReturn orderId s.db db then
    some { s with
      db
      others := s.others.add ((totals (db.wallets (.deliveryPartner riderId))).sub
        (totals (s.db.wallets (.deliveryPartner riderId)))) }
  else none

/-- Everything that touches the rider's wallet around one return. -/
def commissionSystem (orderId riderId : ObjectId) :
    System Kind Kind.Reply ServiceError Desk Choice Db Request where
  perform := performOp orderId
  outside := committed orderId riderId
  entry := handle riderId
  mayStart := fun _ _ => true

/-- The return before the hand-over: nothing of its commission is paid. -/
def opened (riderId : ObjectId) (db : Db) : Pool Kind Kind.Reply ServiceError Desk :=
  ⟨{ db, others := totals (db.wallets (.deliveryPartner riderId)) }, []⟩

/-! ## The condition -/

/-- Nothing says that the commission is paid: no flag, no row of a refund, and no credit that is
still on its way to the flag. -/
def Unpaid (orderId : ObjectId) (s : Desk) : Prop :=
  (s.db.orders.get? orderId).all (fun order => !order.financeFlags.returnPickupCommissionPaid) = true ∧
    keyFree s.db (some (riderCreditKey orderId)) ∧ s.unflagged = 0

instance (orderId : ObjectId) (s : Desk) : Decidable (Unpaid orderId s) :=
  inferInstanceAs (Decidable (_ ∧ _ ∧ _))

/-- A call is in order: a save of the wallet finds the totals it was computed from, a credit of the
commission finds it unpaid, a refund that pays the rider meets no credit on its way to the flag, and
from the record of the hand-over to the credit nothing fails. -/
def CallInOrder (orderId : ObjectId) (kind : Kind) (c : Choice) (s : Desk) : Prop :=
  match kind with
  | .saveOrder true _ _ => c.outcome.takesEffect = true → c.outcome = .done
  | .populate => c.outcome = .done
  | .findWallet true riderId =>
    c.outcome = .done ∧ (s.db.wallets (.deliveryPartner riderId)).status = .active
  | .saveWallet true riderId loaded _ =>
    c.outcome = .done ∧ totals (s.db.wallets (.deliveryPartner riderId)) = totals loaded ∧
      Unpaid orderId s
  | .saveWallet false riderId loaded _ =>
    c.outcome.takesEffect = true →
      totals (s.db.wallets (.deliveryPartner riderId)) = totals loaded
  | .completeReturnAndRefund =>
    c.outcome.takesEffect = true → (s.db.orders.get? orderId).any paysRider = true → s.unflagged = 0
  | _ => True

instance (orderId : ObjectId) (kind : Kind) (c : Choice) (s : Desk) :
    Decidable (CallInOrder orderId kind c s) := by
  unfold CallInOrder
  split <;> infer_instance

/-! ## What a refund does to the rider -/

section Refund

variable {db db' : Db} {order : Order} {orderId riderId : ObjectId}

theorem get?_elim_saveOrder {f : Order → Order} (hid : ∀ order, (f order).id = order.id) :
    ((db.orders.get? orderId).elim db (fun order => db.saveOrder (f order))).orders.get? orderId
      = (db.orders.get? orderId).map f := by
  cases hget : db.orders.get? orderId with
  | none => exact hget
  | some order =>
    have hkey : (f order).id = orderId := (hid order).trans (Table.key_of_get? hget)
    have hset := Table.get?_set_self (t := db.orders) (r := f order) (by rw [hkey, hget])
    rw [hkey] at hset
    exact hset

theorem elim_saveOrder_ledger (found : Option Order) (f : Order → Order) :
    (found.elim db (fun current => db.saveOrder (f current))).ledger = db.ledger := by
  cases found with
  | none | some => rfl

theorem adjustSeller_view (h : adjustSeller db order = .ok db') :
    (db'.orders.get? order.id).map view = (db.orders.get? order.id).map view := by
  rcases adjustSeller_cases h with rfl | ⟨sellerId, h⟩
  · rfl
  rcases recoverFromSeller_cases h with rfl | ⟨payout, -, rfl⟩ | ⟨m, hdebit⟩
  · rfl
  · rw [get?_elim_saveOrder (f := payoutCancelled) (fun _ => rfl), map_map]
    rfl
  · rw [(debitWallet_writes hdebit).2.2]

theorem totals_credited (wallet : Wallet) (a : ℤ) :
    totals (wallet.credited .available a) = (totals wallet).add ⟨a, a⟩ := rfl

theorem keyTaken_of_creditWallet {owner : Owner} {amount : ℚ} {options : MovementOptions}
    {m : Movement} {t : LedgerTransactionType} {key : IdempotencyKey}
    (htype : options.ledgerType = some t) (hkey : options.idempotencyKey = some key)
    (h : Finance.creditWallet db owner amount .available options = .ok (db', m)) :
    ¬ keyFree db' (some key) := by
  obtain ⟨db₁, hpos, -, hwrite, rfl, -⟩ := creditWallet_eq_ok.mp h
  intro hfree
  unfold keyFree at hfree
  rw [if_pos rfl, maybeSyncUserWalletBalance_ledger] at hfree
  obtain ⟨-, ⟨hno, rfl⟩ | ⟨t', -, -, rfl⟩⟩ := (maybeWriteLedgerEntry_eq_ok hpos.le).mp hwrite
  · refine hno ⟨htype ▸ some_ne_none t, ?_⟩
    rw [hkey]
    exact hfree
  · exact hfree _ (List.mem_append_right _ (List.mem_singleton_self _)) hkey

theorem payReturnPickup_totals (hrider : order.returnDeliveryBoy = some riderId)
    (h : payReturnPickup db order = .ok db') :
    (CommissionDue order →
        totals (db'.wallets (.deliveryPartner riderId))
            = (totals (db.wallets (.deliveryPartner riderId))).add
                ⟨order.returnDeliveryCommission, order.returnDeliveryCommission⟩ ∧
          keyFree db (some (riderCreditKey order.id)) ∧
          ¬ keyFree db' (some (riderCreditKey order.id))) ∧
      (¬ CommissionDue order → db' = db) := by
  unfold payReturnPickup at h
  rw [hrider] at h
  dsimp only at h
  by_cases hdue : 0 < order.returnDeliveryCommission ∧
      order.financeFlags.returnPickupCommissionPaid = false
  · rw [if_pos hdue] at h
    obtain ⟨⟨db₁, m⟩, hcredit, hpure⟩ := bind_eq_ok.mp h
    cases pure_eq_ok.mp hpure
    refine ⟨fun _ => ⟨?_, ?_, ?_⟩, fun hno => absurd hdue hno⟩
    · rw [(creditWallet_writes hcredit).1, update_self, totals_credited, roundCurrency_fromPaise]
    · exact ((creditWallet_isOk (some_ne_none _) rfl).mp ⟨_, hcredit⟩).2.2
    · exact keyTaken_of_creditWallet rfl rfl hcredit
  · rw [if_neg hdue] at h
    cases pure_eq_ok.mp h
    exact ⟨fun hyes => absurd hyes hdue, fun _ => rfl⟩

/-- What a refund leaves of the return: the commission is paid if it is still due, and the order
is closed. -/
structure Refunded (orderId riderId : ObjectId) (order : Order) (db db' : Db) : Prop where
  paid : CommissionDue order →
    totals (db'.wallets (.deliveryPartner riderId))
        = (totals (db.wallets (.deliveryPartner riderId))).add
            ⟨order.returnDeliveryCommission, order.returnDeliveryCommission⟩ ∧
      keyFree db (some (riderCreditKey orderId)) ∧ ¬ keyFree db' (some (riderCreditKey orderId))
  unpaid : ¬ CommissionDue order →
    totals (db'.wallets (.deliveryPartner riderId)) = totals (db.wallets (.deliveryPartner riderId)) ∧
      (keyFree db' (some (riderCreditKey orderId)) ↔ keyFree db (some (riderCreditKey orderId)))
  closed : (db'.orders.get? orderId).map view
    = some (.refundCompleted, order.returnDeliveryBoy, order.returnDeliveryCommission,
        order.financeFlags.returnPickupCommissionPaid)

theorem completeReturnAndRefund_rider {result : Option Order}
    (horder : db.orders.get? orderId = some order) (hchecked : order.returnStatus = .qcPassed)
    (hrider : order.returnDeliveryBoy = some riderId)
    (h : completeReturnAndRefund db orderId = .ok (db', result)) :
    Refunded orderId riderId order db db' := by
  have hid : order.id = orderId := Table.key_of_get? horder
  obtain ⟨db₁, db₂, db₃, hcustomer, hseller, hpickup, rfl⟩ :=
    completeReturnAndRefund_parts horder hchecked h
  -- the customer's and the seller's parts leave the rider's wallet and key alone
  obtain ⟨-, horders, hwallets, -⟩ := creditCustomer_spec hcustomer
  obtain ⟨hsellerKey, hsellerWallet⟩ := adjustSeller_frame hseller
  have hkey₂ : keyFree db₂ (some (riderCreditKey order.id)) ↔ keyFree db (some (riderCreditKey order.id)) :=
    hsellerKey.trans (creditCustomer_frame (customerKey_ne_riderKey _ _) hcustomer)
  have hwallet₂ : db₂.wallets (.deliveryPartner riderId) = db.wallets (.deliveryPartner riderId) :=
    (hsellerWallet riderId).trans (hwallets _ (customer_ne_rider _ _).symm)
  obtain ⟨hdue, hnot⟩ := payReturnPickup_totals hrider hpickup
  have hlast : ∀ key, keyFree ((db₃.orders.get? orderId).elim db₃
      (fun current => db₃.saveOrder (refundCompleted current))) (some key) ↔ keyFree db₃ (some key) := by
    intro key
    unfold keyFree
    rw [elim_saveOrder_ledger]
  have hview : (db₃.orders.get? orderId).map view = some (view order) := by
    rw [payReturnPickup_orders hpickup, ← hid, adjustSeller_view hseller, horders, hid, horder]
    rfl
  refine ⟨fun hcommission => ?_, fun hcommission => ?_, ?_⟩
  · obtain ⟨hpaid, hfree, htaken⟩ := hdue hcommission
    rw [elim_saveOrder_wallets, hpaid, hwallet₂, hlast, ← hid]
    exact ⟨rfl, hkey₂.mp hfree, htaken⟩
  · have hsame : db₃ = db₂ := hnot hcommission
    rw [elim_saveOrder_wallets, hlast, hsame, hwallet₂, ← hid]
    exact ⟨rfl, hkey₂⟩
  · rw [get?_elim_saveOrder (f := refundCompleted) (fun _ => rfl), map_map]
    obtain ⟨current, hcurrent, hcv⟩ := map_eq_some_iff.mp hview
    rw [hcurrent]
    show some (view (refundCompleted current)) = _
    simp only [view, Prod.mk.injEq] at hcv
    simp only [view, refundCompleted, hcv]

end Refund

/-! ## The property -/

/-- The commission in `credits` credits. -/
def credited (commission : ℤ) (credits : ℕ) : Totals := ⟨credits * commission, credits * commission⟩

/-- The commission is credited at most once; no other movement of the wallet is lost; a refund that
is completed leaves it credited, and so does a hand-over whose handlers are all done. -/
structure PaidOnce (orderId riderId : ObjectId) (commission : ℤ)
    (p : Pool Kind Kind.Reply ServiceError Desk) : Prop where
  once : p.shared.credits ≤ 1
  kept : totals (p.shared.db.wallets (.deliveryPartner riderId))
    = p.shared.others.add (credited commission p.shared.credits)
  refunded : ∀ order, p.shared.db.orders.get? orderId = some order →
    order.returnStatus = .refundCompleted → 0 < commission → p.shared.credits = 1
  handedOver : p.Quiet → p.shared.handed ≠ [] → 0 < commission → p.shared.credits = 1

/-! ## The invariant -/

/-- What the order, the ledger and the history say about the commission. -/
def Tracks (orderId riderId : ObjectId) (commission : ℤ) (s : Desk) : Prop :=
  ∃ status paid, (s.db.orders.get? orderId).map view = some (status, some riderId, commission, paid) ∧
    (paid = true → 1 ≤ s.credits) ∧ (status = .refundCompleted → 0 < commission → 1 ≤ s.credits) ∧
    (paid = false → keyFree s.db (some (riderCreditKey orderId)) → s.unflagged = 0 → s.credits = 0)

structure Accounted (orderId riderId : ObjectId) (commission : ℤ) (s : Desk) : Prop where
  tracks : Tracks orderId riderId commission s
  once : s.credits ≤ 1
  kept : totals (s.db.wallets (.deliveryPartner riderId))
    = s.others.add (credited commission s.credits)

/-- What a task knows of a call it makes. -/
def Fits (riderId : ObjectId) (commission : ℤ) (kind : Kind) (s : Desk) : Prop :=
  match kind with
  | .saveOrder _ _ edited => edited ≠ .refundCompleted
  | .saveWallet true id loaded edited =>
    id = riderId ∧ totals edited = (totals loaded).add ⟨commission, commission⟩
  | .saveWallet false id _ _ => id = riderId
  | .setCommissionPaid => 1 ≤ s.credits
  | _ => True

section Effect

variable {orderId riderId : ObjectId} {commission : ℤ} {s : Desk}

theorem credited_succ (n : ℕ) :
    credited commission (n + 1) = (credited commission n).add ⟨commission, commission⟩ := by
  simp only [credited, Totals.add, Totals.mk.injEq]
  push_cast
  constructor <;> ring

theorem Totals.add_assoc (a b c : Totals) : (a.add b).add c = a.add (b.add c) := by
  simp only [Totals.add, Totals.mk.injEq]
  constructor <;> ring

theorem Totals.add_moved (others own before after : Totals) (h : before = others.add own) :
    after = (others.add (after.sub before)).add own := by
  subst h
  have heta : after = ⟨after.available, after.credited⟩ := rfl
  rw [heta]
  simp only [Totals.add, Totals.sub, Totals.mk.injEq]
  constructor <;> ring

theorem totals_savedWallet {loaded edited current : Wallet} (h : totals current = totals loaded) :
    totals (savedWallet loaded edited current) = totals edited := by
  simp only [totals, Totals.mk.injEq] at h
  simp only [totals, savedWallet, written, h]
  congr 1
  · split
    next heq => exact heq.symm
    next => rfl
  · split
    next heq => exact heq.symm
    next => rfl

theorem Accounted.credits_eq_zero (h : Accounted orderId riderId commission s)
    (hunpaid : Unpaid orderId s) : s.credits = 0 := by
  obtain ⟨status, paid, hview, -, -, hnone⟩ := h.tracks
  obtain ⟨hflag, hfree, hall⟩ := hunpaid
  obtain ⟨order, hget, hv⟩ := map_eq_some_iff.mp hview
  refine hnone ?_ hfree hall
  simp only [view, Prod.mk.injEq] at hv
  rw [hget] at hflag
  simpa [hv.2.2.2] using hflag

theorem saveOrder_accounted (h : Accounted orderId riderId commission s) {loaded edited : ReturnStatus}
    (hedited : edited ≠ .refundCompleted) (handed : List ℕ) :
    Accounted orderId riderId commission
      { s with
        db := (s.db.orders.get? orderId).elim s.db
          (fun order => s.db.saveOrder (withStatus loaded edited order))
        handed } := by
  obtain ⟨status, paid, hview, hpaid, hclosed, hnone⟩ := h.tracks
  obtain ⟨order, hget, hv⟩ := map_eq_some_iff.mp hview
  simp only [view, Prod.mk.injEq] at hv
  refine ⟨⟨written loaded edited status, paid, ?_, hpaid, ?_, ?_⟩, h.once, ?_⟩
  · dsimp only
    rw [get?_elim_saveOrder (f := withStatus loaded edited) (fun _ => rfl), hget]
    simp only [map_some, view, withStatus, hv]
  · intro hstatus
    unfold written at hstatus
    split at hstatus
    · exact hclosed hstatus
    · exact absurd hstatus hedited
  · intro hflag hfree hall
    refine hnone hflag ?_ hall
    unfold keyFree at hfree ⊢
    rw [elim_saveOrder_ledger] at hfree
    exact hfree
  · rw [elim_saveOrder_wallets]
    exact h.kept

theorem setCommissionPaid_accounted (h : Accounted orderId riderId commission s)
    (hcredits : 1 ≤ s.credits) (unflagged : ℕ) :
    Accounted orderId riderId commission
      { s with
        db := (s.db.orders.get? orderId).elim s.db (fun order => s.db.saveOrder (flagged order))
        unflagged } := by
  obtain ⟨status, paid, hview, hpaid, hclosed, hnone⟩ := h.tracks
  obtain ⟨order, hget, hv⟩ := map_eq_some_iff.mp hview
  simp only [view, Prod.mk.injEq] at hv
  refine ⟨⟨status, true, ?_, fun _ => hcredits, hclosed, nofun⟩, h.once, ?_⟩
  · dsimp only
    rw [get?_elim_saveOrder (f := flagged) (fun _ => rfl), hget]
    simp only [map_some, view, flagged, hv]
  · rw [elim_saveOrder_wallets]
    exact h.kept

theorem creditCommission_accounted (h : Accounted orderId riderId commission s) {loaded edited : Wallet}
    (hadds : totals edited = (totals loaded).add ⟨commission, commission⟩)
    (hfound : totals (s.db.wallets (.deliveryPartner riderId)) = totals loaded)
    (hunpaid : Unpaid orderId s) :
    Accounted orderId riderId commission
      { s with
        db := s.db.saveWallet (.deliveryPartner riderId)
          (savedWallet loaded edited (s.db.wallets (.deliveryPartner riderId)))
        credits := s.credits + 1
        unflagged := s.unflagged + 1 } := by
  have hzero : s.credits = 0 := h.credits_eq_zero hunpaid
  obtain ⟨status, paid, hview, -, -, -⟩ := h.tracks
  refine ⟨⟨status, paid, hview, fun _ => by simp, fun _ _ => by simp, ?_⟩, ?_, ?_⟩
  · intro _ _ hall
    exact absurd hall (Nat.succ_ne_zero _)
  · dsimp only
    omega
  · dsimp only
    rw [Db.saveWallet_wallets, update_self, totals_savedWallet hfound, hadds, ← hfound, h.kept,
      Totals.add_assoc, credited_succ]

theorem saveWallet_accounted (h : Accounted orderId riderId commission s) {loaded edited : Wallet}
    (hfound : totals (s.db.wallets (.deliveryPartner riderId)) = totals loaded) :
    Accounted orderId riderId commission
      { s with
        db := s.db.saveWallet (.deliveryPartner riderId)
          (savedWallet loaded edited (s.db.wallets (.deliveryPartner riderId)))
        others := s.others.add ((totals edited).sub (totals loaded)) } := by
  refine ⟨h.tracks, h.once, ?_⟩
  dsimp only
  rw [Db.saveWallet_wallets, update_self, totals_savedWallet hfound]
  exact Totals.add_moved _ _ _ _ (hfound ▸ h.kept)

/-- A refund credits the commission where it is still due, and then nothing says that it was
credited before. -/
theorem refund_accounted (h : Accounted orderId riderId commission s)
    (hall : (s.db.orders.get? orderId).any paysRider = true → s.unflagged = 0) :
    Accounted orderId riderId commission (refund orderId s).2 := by
  obtain ⟨status, paid, hview, hpaid, hclosed, hnone⟩ := h.tracks
  obtain ⟨order, hget, hv⟩ := map_eq_some_iff.mp hview
  simp only [view, Prod.mk.injEq] at hv
  obtain ⟨hstatus, hrider, hcommission, hflag⟩ := hv
  unfold refund
  split
  next e hrefund => exact h
  next db result hrefund =>
    by_cases hchecked : order.returnStatus = .qcPassed
    · have hleaves := completeReturnAndRefund_rider hget hchecked hrider hrefund
      by_cases hdue : CommissionDue order
      · have hpays : (s.db.orders.get? orderId).any paysRider = true := by
          rw [hget]
          simp [paysRider, hchecked, hrider, hdue]
        rw [if_pos hpays]
        obtain ⟨htotals, hfree, htaken⟩ := hleaves.paid hdue
        have hzero : s.credits = 0 := hnone (hflag ▸ hdue.2) hfree (hall hpays)
        refine ⟨⟨.refundCompleted, paid, ?_, fun _ => by simp, fun _ _ => by simp, ?_⟩, ?_, ?_⟩
        · rw [hleaves.closed, hrider, hcommission, hflag]
        · intro _ hfree' _
          exact absurd hfree' htaken
        · dsimp only
          omega
        · dsimp only
          rw [htotals, hcommission, h.kept, Totals.add_assoc, credited_succ]
      · have hnot : ¬ (s.db.orders.get? orderId).any paysRider = true := by
          rw [hget]
          simp [paysRider, hdue]
        rw [if_neg hnot]
        obtain ⟨htotals, hkey⟩ := hleaves.unpaid hdue
        -- the flag is what keeps it from being due
        have hset : 0 < commission → paid = true := by
          intro hpos
          rw [← hflag, ← Bool.not_eq_false]
          exact fun hno => hdue ⟨hcommission ▸ hpos, hno⟩
        refine ⟨⟨.refundCompleted, paid, ?_, hpaid, fun _ hpos => hpaid (hset hpos), ?_⟩, h.once, ?_⟩
        · rw [hleaves.closed, hrider, hcommission, hflag]
        · exact fun hno hfree' => hnone hno (hkey.mp hfree')
        · exact htotals.trans h.kept
    · have hnot : ¬ (s.db.orders.get? orderId).any paysRider = true := by
        rw [hget]
        simp [paysRider, hchecked]
      rw [if_neg hnot]
      have hsame : db = s.db := by
        unfold completeReturnAndRefund at hrefund
        rw [hget] at hrefund
        dsimp only at hrefund
        rw [if_pos hchecked] at hrefund
        exact (Prod.mk.inj (pure_eq_ok.mp hrefund)).1
      rw [hsame]
      exact h

end Effect

/-! ## Calls -/

def Kind.handsOver : Kind → Bool
  | .saveOrder handover _ _ => handover
  | _ => false

section Calls

variable {orderId riderId : ObjectId} {commission : ℤ} {s s' : Desk} {i : ℕ} {c : Choice} {kind : Kind}

theorem effect_accounted (h : Accounted orderId riderId commission s)
    (hfits : Fits riderId commission kind s) (hok : CallInOrder orderId kind c s)
    (hdone : c.outcome.takesEffect = true) :
    Accounted orderId riderId commission (effect orderId i c kind s).2 := by
  cases kind with
  | findOrder | validateReturnDropOtp | populate | findWallet | createTransaction => exact h
  | saveOrder handover loaded edited => exact saveOrder_accounted h hfits _
  | saveWallet commission id loaded edited =>
    cases commission with
    | true =>
      obtain ⟨rfl, hadds⟩ := hfits
      obtain ⟨-, hfound, hunpaid⟩ := hok
      exact creditCommission_accounted h hadds hfound hunpaid
    | false =>
      have hid : id = riderId := hfits
      subst hid
      exact saveWallet_accounted h (hok hdone)
  | setCommissionPaid => exact setCommissionPaid_accounted h hfits _
  | completeReturnAndRefund => exact refund_accounted h (hok hdone)

theorem refund_credits : s.credits ≤ (refund orderId s).2.credits ∧
    (refund orderId s).2.handed = s.handed := by
  unfold refund
  split
  · exact ⟨le_rfl, rfl⟩
  · split
    · exact ⟨Nat.le_succ _, rfl⟩
    · exact ⟨le_rfl, rfl⟩

theorem effect_credits : s.credits ≤ (effect orderId i c kind s).2.credits := by
  cases kind with
  | saveWallet commission id loaded edited =>
    cases commission with
    | true => exact Nat.le_succ _
    | false => exact le_rfl
  | completeReturnAndRefund => exact refund_credits.1
  | _ => exact le_rfl

theorem effect_handed {j : ℕ} (hj : j ≠ i ∨ kind.handsOver = false) :
    j ∈ (effect orderId i c kind s).2.handed ↔ j ∈ s.handed := by
  cases kind with
  | saveOrder handover loaded edited =>
    cases handover with
    | true =>
      have hne : j ≠ i := hj.resolve_right (by simp [Kind.handsOver])
      simp [effect, hne]
    | false => exact Iff.rfl
  | saveWallet commission id loaded edited =>
    cases commission with
    | true | false => exact Iff.rfl
  | completeReturnAndRefund =>
    show j ∈ (refund orderId s).2.handed ↔ _
    rw [refund_credits.2]
  | _ => exact Iff.rfl

end Calls

/-! ## The handlers under their contract -/

/-- Nobody else records a hand-over for a task, and credits stay. -/
def onceContract (orderId riderId : ObjectId) (commission : ℤ) :
    Contract (commissionSystem orderId riderId) where
  inv := Accounted orderId riderId commission
  rely := fun i s s' => (i ∈ s'.handed ↔ i ∈ s.handed) ∧ s.credits ≤ s'.credits
  idle := fun i s => i ∉ s.handed
  may := fun _ kind c s => CallInOrder orderId kind c s

/-- A task that has recorded the hand-over leaves the commission credited. -/
def Leaves (commission : ℤ) (i : ℕ) (s : Desk) : Prop := i ∈ s.handed → 0 < commission → 1 ≤ s.credits

section Handlers

variable {orderId riderId : ObjectId} {commission : ℤ} {s : Desk} {i : ℕ}

/-- What a task knows stays true while the others move. -/
def Stable (i : ℕ) (F : Desk → Prop) : Prop :=
  ∀ s s' : Desk, (i ∈ s'.handed ↔ i ∈ s.handed) ∧ s.credits ≤ s'.credits → F s → F s'

theorem stable_leaves : Stable i (Leaves commission i) :=
  fun _ _ hrely h hmem hpos => (h (hrely.1.mp hmem) hpos).trans hrely.2

theorem stable_notHanded : Stable i (fun s => i ∉ s.handed) :=
  fun _ _ hrely h hmem => h (hrely.1.mp hmem)

theorem stable_credited : Stable i (fun s => 1 ≤ s.credits) :=
  fun _ _ hrely h => h.trans hrely.2

variable {kind : Kind}

theorem performOp_keeps {c : Choice} {s' : Desk} {r : Except ServiceError kind.Reply}
    (h : Accounted orderId riderId commission s) (hfits : Fits riderId commission kind s)
    (hok : CallInOrder orderId kind c s) (hperform : performOp orderId i kind c s = some (r, s')) :
    Accounted orderId riderId commission s' ∧ s.credits ≤ s'.credits ∧
      ∀ j, j ≠ i ∨ kind.handsOver = false → (j ∈ s'.handed ↔ j ∈ s.handed) := by
  rcases Outcome.perform_eq (some.inj hperform) with ⟨-, rfl⟩ | ⟨hdone, rfl, -⟩
  · exact ⟨h, le_rfl, fun _ _ => Iff.rfl⟩
  · exact ⟨effect_accounted h hfits hok hdone, effect_credits, fun j hj => effect_handed hj⟩

theorem sound_call {F : Desk → Prop} {Q : kind.Reply → Desk → Prop} {E : ServiceError → Desk → Prop}
    (hquiet : kind.handsOver = false) (hF : Stable i F) (hs : F s)
    (hfits : ∀ s, F s → Fits riderId commission kind s)
    (hQ : ∀ c s a, Accounted orderId riderId commission s → CallInOrder orderId kind c s →
      (effect orderId i c kind s).1 = .ok a → F (effect orderId i c kind s).2 →
        Q a (effect orderId i c kind s).2)
    (hE : ∀ c s s' e, CallInOrder orderId kind c s →
      performOp orderId i kind c s = some (.error e, s') → F s' → E e s') :
    (onceContract orderId riderId commission).Sound i Q E (perform kind) s := by
  refine Sound.perform (fun s₁ hrely hinv c hok r s₂ hperform => ?_)
  have hknown : F s₁ := hF s s₁ hrely hs
  obtain ⟨hinv', hcredits, hhanded⟩ := performOp_keeps hinv (hfits s₁ hknown) hok hperform
  have hstill : F s₂ := hF s₁ s₂ ⟨hhanded i (.inr hquiet), hcredits⟩ hknown
  refine ⟨hinv', fun j hj => ⟨hhanded j (.inl hj), hcredits⟩, ?_, ?_⟩
  · rintro a rfl
    rcases Outcome.perform_eq (some.inj hperform) with ⟨⟨e, he⟩, -⟩ | ⟨-, rfl, heffect⟩
    · cases he
    · rcases heffect with heffect | ⟨e, he⟩
      · exact hQ c s₁ a hinv hok heffect.symm hstill
      · cases he
  · rintro e rfl
    exact hE c s₁ s₂ e hok hperform hstill

theorem perform_done {c : Choice} {s' : Desk} {e : ServiceError} {a : kind.Reply}
    (hdone : c.outcome = .done) (heffect : (effect orderId i c kind s).1 = .ok a) :
    performOp orderId i kind c s ≠ some (.error e, s') := by
  intro hperform
  unfold performOp at hperform
  rw [hdone] at hperform
  have hfst : (effect orderId i c kind s).1 = .error e := congrArg Prod.fst (some.inj hperform)
  rw [heffect] at hfst
  cases hfst

theorem addMoney_fromPaise (a b : ℤ) : addMoney (fromPaise a) (fromPaise b) = a + b := by
  show roundCurrency (fromPaise a) + roundCurrency (fromPaise b) = a + b
  rw [roundCurrency_fromPaise, roundCurrency_fromPaise]

theorem creditWallet_sound (hpos : 0 < commission) :
    (onceContract orderId riderId commission).Leaving i (fun s => 1 ≤ s.credits) (creditWallet true riderId (fromPaise commission)) s := by
  have hamount : assertPositiveAmount (fromPaise commission) = .ok commission := by
    unfold assertPositiveAmount
    rw [roundCurrency_fromPaise, if_neg (not_le.mpr hpos)]
    rfl
  unfold creditWallet
  rw [hamount]
  dsimp only
  refine Sound.bind (R := fun wallet _ => wallet.status = .active)
    (sound_call rfl (F := fun _ => True) (fun _ _ _ _ => trivial) trivial (fun _ _ => trivial) ?_ ?_) ?_
  · intro c s₁ wallet _ hok hanswer _
    cases hanswer
    exact hok.2
  · intro c s₁ s₂ e hok hperform _
    exact absurd hperform (perform_done hok.1 rfl)
  · intro wallet s₁ hactive
    rw [if_neg (not_not.mpr hactive)]
    refine sound_call rfl (F := fun _ => True) (fun _ _ _ _ => trivial) trivial (fun _ _ => ⟨rfl, ?_⟩) ?_ ?_
    · simp only [totals, Totals.add, addMoney_fromPaise]
    · intro c s₂ _ _ _ _ _
      exact Nat.succ_le_succ (Nat.zero_le _)
    · intro c s₂ s₃ e hok hperform _
      exact absurd hperform (perform_done hok.1 rfl)

structure Loaded (riderId : ObjectId) (commission : ℤ) (order : Order) (s : Desk) : Prop where
  rider : order.returnDeliveryBoy = some riderId
  commission : order.returnDeliveryCommission = commission
  paid : order.financeFlags.returnPickupCommissionPaid = true → 1 ≤ s.credits

theorem Loaded.stable (order : Order) : Stable i (Loaded riderId commission order) :=
  fun _ _ hrely h => ⟨h.rider, h.commission, fun hflag => (h.paid hflag).trans hrely.2⟩

theorem creditCommission_sound {order : Order} (h : Loaded riderId commission order s) :
    (onceContract orderId riderId commission).Leaving i (Leaves commission i) (creditCommission order) s := by
  unfold creditCommission
  rw [h.rider]
  dsimp only
  have hleaves : ∀ s : Desk, 1 ≤ s.credits → Leaves commission i s := fun _ hcredits _ _ => hcredits
  split
  next hdue =>
    rw [h.commission]
    have hcredit : (onceContract orderId riderId commission).Sound i (fun _ s => 1 ≤ s.credits)
        (fun _ => Leaves commission i) (creditWallet true riderId (fromPaise commission)) s :=
      (creditWallet_sound (h.commission ▸ hdue.1)).mono (fun _ _ => id) (fun _ s => hleaves s)
    refine Sound.bind hcredit (fun _ s₁ hcredited => ?_)
    refine Sound.bind (R := fun _ s => 1 ≤ s.credits)
      (sound_call rfl stable_credited hcredited (fun _ _ => trivial) (fun _ _ _ _ _ _ => id)
        (fun _ _ s₂ _ _ _ => hleaves s₂)) (fun _ s₂ hcredited₂ => ?_)
    exact sound_call rfl stable_credited hcredited₂ (fun _ => id) (fun c s₃ _ _ _ _ => hleaves _)
      (fun _ _ s₃ _ _ _ => hleaves s₃)
  next hnot =>
    -- not due any more, or nothing to pay
    refine Sound.ret (fun _ hpos => h.paid ?_)
    rw [← Bool.not_eq_false]
    exact fun hno => hnot ⟨h.commission ▸ hpos, hno⟩

theorem leaves_of_notHanded (h : i ∉ s.handed) : Leaves commission i s := fun hmem => absurd hmem h

theorem loaded_of_findOrder {order : Order} (h : Accounted orderId riderId commission s)
    (hget : s.db.orders.get? orderId = some order) : Loaded riderId commission order s := by
  obtain ⟨status, paid, hview, hpaid, -, -⟩ := h.tracks
  rw [hget] at hview
  simp only [map_some, some.injEq, view, Prod.mk.injEq] at hview
  exact ⟨hview.2.1, hview.2.2.1, fun hflag => hpaid (hview.2.2.2.symm.trans hflag)⟩

theorem verifyReturnDropOtp_sound (userId : ObjectId) (code : String) (h : i ∉ s.handed) :
    (onceContract orderId riderId commission).Leaving i (Leaves commission i) (verifyReturnDropOtp userId code) s := by
  refine Sound.bind
    (R := fun found s => i ∉ s.handed ∧ ∀ order, found = some order → Loaded riderId commission order s)
    (sound_call rfl stable_notHanded h (fun _ _ => trivial) ?_ ?_) (fun found s₁ hfound => ?_)
  · intro c s₁ found hinv _ hanswer hnot
    cases hanswer
    exact ⟨hnot, fun order hget => loaded_of_findOrder hinv hget⟩
  · exact fun _ _ s₂ _ _ _ hnot => leaves_of_notHanded hnot
  cases found with
  | none => exact Sound.throw (leaves_of_notHanded hfound.1)
  | some order =>
    dsimp only
    refine Sound.ite (fun _ => Sound.throw (leaves_of_notHanded hfound.1)) (fun _ => ?_)
    have hknown : Stable i (fun s => i ∉ s.handed ∧ Loaded riderId commission order s) :=
      fun s s' hrely hs => ⟨stable_notHanded s s' hrely hs.1, Loaded.stable order s s' hrely hs.2⟩
    refine Sound.bind
      (R := fun _ s => i ∉ s.handed ∧ Loaded riderId commission order s)
      (sound_call rfl hknown ⟨hfound.1, hfound.2 order rfl⟩ (fun _ _ => trivial)
        (fun _ _ _ _ _ _ hs => hs) (fun _ _ _ _ _ _ hs => leaves_of_notHanded hs.1))
      (fun invalid s₂ hs₂ => ?_)
    cases invalid with
    | some message => exact Sound.throw (leaves_of_notHanded hs₂.1)
    | none =>
      dsimp only
      refine Sound.bind (R := fun _ => Loaded riderId commission order)
        (Sound.perform (fun s₃ hrely hinv c hok r s₄ hperform => ?_)) (fun _ s₃ hs₃ => ?_)
      · -- the hand-over is recorded, or the save has failed
        have hs₃ := hknown s₂ s₃ hrely hs₂
        have hfits : Fits riderId commission (.saveOrder true order.returnStatus .returned) s₃ := by
          show ReturnStatus.returned ≠ .refundCompleted
          decide
        obtain ⟨hinv', hcredits, hhanded⟩ := performOp_keeps hinv hfits hok hperform
        refine ⟨hinv', fun j hj => ⟨hhanded j (.inl hj), hcredits⟩, ?_, ?_⟩
        · exact fun _ _ => ⟨hs₃.2.rider, hs₃.2.commission, fun hflag => (hs₃.2.paid hflag).trans hcredits⟩
        · rintro e rfl
          rcases Outcome.perform_eq (some.inj hperform) with ⟨-, rfl⟩ | ⟨hdone, -, -⟩
          · exact leaves_of_notHanded hs₃.1
          · exact absurd hperform (perform_done (hok hdone) rfl)
      · refine Sound.bind (R := fun _ => Loaded riderId commission order)
          (sound_call rfl (Loaded.stable order) hs₃ (fun _ _ => trivial) (fun _ _ _ _ _ _ => id)
            (fun c s₄ s₅ e hok hperform _ => absurd hperform (perform_done hok rfl)))
          (fun _ s₄ hs₄ => ?_)
        exact Sound.tryCatch (creditCommission_sound hs₄)
          (fun _ _ hleaves => Sound.ret hleaves)

/-- The calls of the other handlers: none records a hand-over or credits the commission. -/
def Ordinary (riderId : ObjectId) : Kind → Prop
  | .saveOrder handover _ edited => handover = false ∧ edited ≠ .refundCompleted
  | .saveWallet commission id _ _ => commission = false ∧ id = riderId
  | .setCommissionPaid => False
  | _ => True

theorem ordinary_fits (h : Ordinary riderId kind) (s : Desk) :
    Fits riderId commission kind s := by
  cases kind with
  | saveOrder handover loaded edited => exact h.2
  | saveWallet commission id loaded edited =>
    obtain ⟨rfl, hid⟩ := h
    exact hid
  | setCommissionPaid => exact h.elim
  | _ => trivial

theorem ordinary_quiet (h : Ordinary riderId kind) : kind.handsOver = false := by
  cases kind with
  | saveOrder handover loaded edited => exact h.1
  | _ => rfl

theorem ordinary_sound {α : Type} {p : M α} (hp : p.All (Ordinary riderId)) (h : i ∉ s.handed) :
    (onceContract orderId riderId commission).Leaving i (Leaves commission i) p s := by
  have hsound := Contract.sound_of_all (K := onceContract orderId riderId commission) (i := i)
    (I := fun s => i ∉ s.handed) (fun s s' hrely => stable_notHanded s s' hrely) ?_ hp h
  · exact hsound.mono (fun _ _ => leaves_of_notHanded) (fun _ _ => leaves_of_notHanded)
  · intro kind hkind s₁ hinv hnot c hok r s₂ hperform
    have hfits : Fits riderId commission kind s₁ := ordinary_fits hkind s₁
    have hquiet : kind.handsOver = false := ordinary_quiet hkind
    obtain ⟨hinv', hcredits, hhanded⟩ := performOp_keeps hinv hfits hok hperform
    refine ⟨hinv', fun j hj => ⟨hhanded j (.inl hj), hcredits⟩, fun hmem => hnot ?_⟩
    exact (hhanded i (.inr hquiet)).mp hmem

theorem updateReturnQcStatus_ordinary (role : Role) (qcStatus : ReturnStatus) :
    (updateReturnQcStatus role qcStatus).All (Ordinary riderId) := by
  refine All.ite_of (fun _ => All.throw) (fun _ => All.ite_of (fun _ => All.throw) ?_)
  intro hstatus
  have hne : qcStatus ≠ .refundCompleted := by
    rintro rfl
    exact hstatus (by decide)
  refine All.bind (All.perform trivial) (fun found => ?_)
  cases found with
  | none => exact All.throw
  | some order =>
    refine All.ite All.throw (All.bind (All.perform ⟨rfl, hne⟩) (fun _ => ?_))
    exact All.ite (All.perform trivial) All.ret

theorem creditWallet_ordinary (amount : ℚ) :
    (creditWallet false riderId amount).All (Ordinary riderId) := by
  unfold creditWallet
  split
  · exact All.throw
  · refine All.bind (All.perform trivial) (fun wallet => ?_)
    exact All.ite All.throw (All.perform ⟨rfl, rfl⟩)

theorem handle_sound (request : Request) (h : i ∉ s.handed) :
    (onceContract orderId riderId commission).Leaving i (Leaves commission i) (handle riderId request) s := by
  cases request with
  | verifyReturnDropOtp userId code => exact verifyReturnDropOtp_sound userId code h
  | updateReturnQcStatus role qcStatus =>
    exact ordinary_sound (updateReturnQcStatus_ordinary role qcStatus) h
  | completeReturnAndRefund => exact ordinary_sound (All.perform trivial) h
  | creditWallet amount => exact ordinary_sound (creditWallet_ordinary amount) h

end Handlers

/-! ## Runs -/

section Runs

variable {orderId riderId : ObjectId} {commission : ℤ}

theorem onceContract_leaves :
    (onceContract orderId riderId commission).Leaves (Leaves commission) where
  stable := fun _ s s' hrely h => stable_leaves s s' hrely h
  entry := fun request _ _ _ hidle _ => handle_sound request hidle

theorem committed_accounted {db : Db} {s s' : Desk} (h : Accounted orderId riderId commission s)
    (hout : committed orderId riderId db s = some s') :
    Accounted orderId riderId commission s' ∧ s'.handed = s.handed ∧ s'.credits = s.credits := by
  unfold committed at hout
  split at hout
  next hleaves =>
    cases hout
    obtain ⟨status, paid, hview, hpaid, hclosed, hnone⟩ := h.tracks
    refine ⟨⟨⟨status, paid, hleaves.1.trans hview, hpaid, hclosed, ?_⟩, h.once, ?_⟩, rfl, rfl⟩
    · exact fun hflag hfree => hnone hflag (hleaves.2.mp hfree)
    · exact Totals.add_moved _ _ _ _ h.kept
  next => cases hout

theorem onceContract_lawful : (onceContract orderId riderId commission).Lawful where
  refl := fun _ _ => ⟨Iff.rfl, le_rfl⟩
  trans := fun _ _ _ _ h h' => ⟨h'.1.trans h.1, h.2.trans h'.2⟩
  idle := fun i s s' hrely => stable_notHanded (i := i) s s' hrely
  outside := by
    intro db s s' hinv _ hout
    obtain ⟨hinv', hhanded, hcredits⟩ := committed_accounted hinv hout
    exact ⟨hinv', fun i => ⟨by rw [hhanded], hcredits.ge⟩⟩
  entry := fun request _ _ _ hidle _ =>
    (handle_sound request hidle).mono (fun _ _ _ => trivial) (fun _ _ _ => trivial)

theorem paidOnce_of_ends {p : Pool Kind Kind.Reply ServiceError Desk}
    (h : (onceContract orderId riderId commission).Ends (Leaves commission) p) :
    PaidOnce orderId riderId commission p where
  once := h.inv.once
  kept := h.inv.kept
  refunded := by
    intro order hget hstatus hpos
    obtain ⟨status, paid, hview, -, hclosed, -⟩ := h.inv.tracks
    rw [hget] at hview
    simp only [map_some, some.injEq, view, Prod.mk.injEq] at hview
    exact le_antisymm h.inv.once (hclosed (hview.1.symm.trans hstatus) hpos)
  handedOver := by
    intro hquiet hhanded hpos
    obtain ⟨i, hi⟩ := List.exists_mem_of_ne_nil _ hhanded
    -- the task that recorded the hand-over has started, and is over
    have hlt : i < p.tasks.length := by
      by_contra hge
      exact h.idle i (not_lt.mp hge) hi
    have htask : p.tasks[i]? = some p.tasks[i] := List.getElem?_eq_getElem hlt
    exact le_antisymm h.inv.once
      (h.post_of_isOver htask (hquiet _ (List.getElem_mem hlt)) hi hpos)

/-- Along every run whose calls are in order, the commission of a return that is not paid yet is
credited exactly once, and no other movement of the rider's wallet is lost. -/
theorem commission_paid_once {db : Db} {order : Order} (horder : db.orders.get? orderId = some order)
    (hrider : order.returnDeliveryBoy = some riderId)
    (hunpaid : order.financeFlags.returnPickupCommissionPaid = false)
    (hopen : order.returnStatus ≠ .refundCompleted) (as : List (Action Choice Db Request))
    (hok : Guarded (commissionSystem orderId riderId).step
      (OnOps fun _ kind c s => CallInOrder orderId kind c s) (opened riderId db) as) :
    Along (commissionSystem orderId riderId).step
      (PaidOnce orderId riderId order.returnDeliveryCommission) (opened riderId db) as := by
  have hstart : (onceContract orderId riderId order.returnDeliveryCommission).Ends
      (Leaves order.returnDeliveryCommission) (opened riderId db) := by
    refine ⟨⟨⟨order.returnStatus, false, ?_, nofun, fun h => absurd h hopen, fun _ _ _ => rfl⟩,
      Nat.zero_le _, ?_⟩, fun _ _ h => absurd h (by simp [opened]), fun _ _ h => nomatch h⟩
    · show (db.orders.get? orderId).map view = _
      rw [horder]
      simp only [map_some, view, hrider, hunpaid]
    · simp [opened, credited, Totals.add]
  have hmeets : Guarded (commissionSystem orderId riderId).step
      (onceContract orderId riderId order.returnDeliveryCommission).Meets (opened riderId db) as := by
    refine Contract.guarded_meets (guarded_of_forall (fun p a => ?_) _ _) hok
    cases a with
    | run | outside | start => trivial
  exact (along_of_guarded (fun _ _ h hm => onceContract_lawful.step_ends onceContract_leaves h hm)
    hstart hmeets).mono (fun _ => paidOnce_of_ends)

end Runs

/-- Both shirts are on their way back with rider 4, for a commission of 25 rupees. -/
def carriedShirts : Order :=
  { checkedShirts 2 with
    returnStatus := .returnInTransit
    returnDeliveryBoy := some 4
    returnDeliveryCommission := 2500 }

def carriedBooks : Db := (heldBooks 2).saveOrder carriedShirts

/-- The rider hands the shirts over and is paid; then the check is passed, and they are refunded. -/
def paidThenRefunded : List (Action Choice Db Request) :=
  [.start (.verifyReturnDropOtp 4 "4711"), .run 0 {}, .run 0 {}, .run 0 {}, .run 0 {}, .run 0 {},
    .run 0 {}, .run 0 {}, .run 0 {}, .start (.updateReturnQcStatus .admin .qcPassed), .run 1 {},
    .run 1 {}, .run 1 {}]

theorem commission_paid_once_shirts :
    (exec (commissionSystem 1 4).step (opened 4 carriedBooks) paidThenRefunded).shared.credits = 1 ∧
      Along (commissionSystem 1 4).step
        (PaidOnce 1 4 carriedShirts.returnDeliveryCommission) (opened 4 carriedBooks)
        paidThenRefunded := by
  have horder : carriedBooks.orders.get? 1 = some carriedShirts := by decide +kernel
  refine ⟨by decide +kernel, ?_⟩
  exact commission_paid_once horder rfl rfl (by decide) paidThenRefunded (by decide +kernel)

/-- The check is passed while the background part has credited the rider and not flagged the order
yet. -/
def refundedMeanwhile : List (Action Choice Db Request) :=
  [.start (.verifyReturnDropOtp 4 "4711"), .run 0 {}, .run 0 {}, .run 0 {}, .run 0 {}, .run 0 {},
    .run 0 {}, .start (.updateReturnQcStatus .admin .qcPassed), .run 1 {}, .run 1 {}, .run 1 {}]

/-- The rider is paid twice. -/
theorem commission_paid_twice :
    ¬ ∀ (orderId riderId : ObjectId) (db : Db) (order : Order),
      db.orders.get? orderId = some order → order.returnDeliveryBoy = some riderId →
      order.financeFlags.returnPickupCommissionPaid = false →
      order.returnStatus ≠ .refundCompleted → ∀ as : List (Action Choice Db Request),
        Along (commissionSystem orderId riderId).step
          (PaidOnce orderId riderId order.returnDeliveryCommission) (opened riderId db) as := by
  intro paidOnce
  have hend := (paidOnce 1 4 carriedBooks carriedShirts (by decide +kernel) rfl rfl (by decide)
    refundedMeanwhile).last
  have htwice : (exec (commissionSystem 1 4).step (opened 4 carriedBooks)
      refundedMeanwhile).shared.credits = 2 := by
    decide +kernel
  have honce := hend.once
  rw [htwice] at honce
  exact absurd honce (by decide)

end DiscountBazar.Returns.RiderCommission
