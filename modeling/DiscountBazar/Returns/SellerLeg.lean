/-
Who pays for a return: `completeReturnAndRefund`, on the wallets and payouts.

The customer is credited what the items are refunded with. What the seller loses depends on
whether the order is marked as held: then the order's live payout is cancelled whole, if there is
one; otherwise the refund is debited from the available balance.
-/
import DiscountBazar.Finance.PayoutBooks
import DiscountBazar.Returns.RefundBound

namespace DiscountBazar.Returns

open Finance Transaction Function

/-! ## The transaction -/

/-- The paise a refund is credited with: `Number(walletRefundTotal.toFixed(2))`. -/
def refundRounded (order : Order) : ℤ := mathRound (refundAmount order)

def customerRefundKey (orderId : ObjectId) : IdempotencyKey :=
  .named ("RET-CUST-REFUND-" ++ Nat.repr orderId)

/-- The customer's part: the full refund, for cash orders too. -/
def creditCustomer (db : Db) (order : Order) : Except ServiceError Db :=
  if 0 < refundAmount order then do
    let (db, _) ← creditWallet db (.customer order.customer) (fromPaise (refundRounded order)) .available
      { ledgerType := some .walletRefund
        orderId := some order.id
        idempotencyKey := some (customerRefundKey order.id) }
    pure db
  else pure db

def isHeld (order : Order) : Bool :=
  decide (order.settlementStatus.sellerPayout = .hold ∨ order.financeFlags.sellerPayoutHeld = true)

def payoutCancelled (order : Order) : Order :=
  { order with
    settlementStatus := { order.settlementStatus with sellerPayout := .cancelled }
    financeFlags := { order.financeFlags with sellerPayoutHeld := false } }

/-- The adjustment of a seller: the payout if it is on hold, the available balance otherwise. -/
def recoverFromSeller (db : Db) (order : Order) (sellerId : ObjectId) : Except ServiceError Db :=
  if 0 < refundAmount order then
    if isHeld order then do
      let (db, cancelled) ← cancelPendingPayoutForOrder db order.id .seller
      match cancelled with
      | some _ =>
        -- an update of its own: the document that is saved later does not know of it
        pure ((db.orders.get? order.id).elim db (fun current => db.saveOrder (payoutCancelled current)))
      | none => pure db
    else do
      let (db, _) ← debitWallet db (.seller sellerId) (refundAmount order / 100) .available
        { ledgerType := some .refund
          orderId := some order.id
          idempotencyKey := some (.named ("RET-SELL-DEBIT-" ++ Nat.repr order.id)) }
      pure db
  else pure db

def adjustSeller (db : Db) (order : Order) : Except ServiceError Db :=
  match order.seller with
  | some sellerId => recoverFromSeller db order sellerId
  | none => pure db

/-- The commission for the pickup, unless it was paid when the OTP was checked. -/
def payReturnPickup (db : Db) (order : Order) : Except ServiceError Db :=
  match order.returnDeliveryBoy with
  | some riderId =>
    if 0 < order.returnDeliveryCommission ∧ order.financeFlags.returnPickupCommissionPaid = false then do
      let (db, _) ← creditWallet db (.deliveryPartner riderId)
        (fromPaise order.returnDeliveryCommission) .available
        { ledgerType := some .riderPayoutProcessed
          orderId := some order.id
          idempotencyKey := some (.named ("RET-DEL-CREDIT-" ++ Nat.repr order.id)) }
      pure db
    else pure db
  | none => pure db

def refundCompleted (order : Order) : Order := { order with returnStatus := .refundCompleted }

def completeReturnAndRefund (db : Db) (orderId : ObjectId) : Except ServiceError (Db × Option Order) :=
  match db.orders.get? orderId with
  | none => pure (db, none)
  | some order =>
    if order.returnStatus ≠ .qcPassed then pure (db, some order)
    else do
      let db ← creditCustomer db order
      let db ← adjustSeller db order
      let db ← payReturnPickup db order
      let db := (db.orders.get? orderId).elim db (fun current => db.saveOrder (refundCompleted current))
      pure (db, some (refundCompleted order))

/-! ## The property -/

/-- What an order owes its seller for an item of a return: the part of the line's payout that
the returned quantity is of the line's. -/
def itemShare (order : Order) (item : ReturnItem) : ℚ :=
  match order.paymentBreakdown.lineItems[item.itemIndex]? with
  | some line => line.sellerPayout * item.quantity / line.quantity
  | none => 0

def sellerShare (order : Order) : ℤ := mathRound ((order.returnItems.map (itemShare order)).sum)

def refunded (order : Order) : ℤ := if 0 < refundAmount order then refundRounded order else 0

def balances (wallet : Wallet) : ℤ := wallet.pendingBalance + wallet.availableBalance

structure FundedBySeller (order : Order) (db db' : Db) : Prop where
  customer : (db'.wallets (.customer order.customer)).availableBalance
    = (db.wallets (.customer order.customer)).availableBalance + refunded order
  seller : ∀ sellerId, order.seller = some sellerId →
    balances (db'.wallets (.seller sellerId))
      = balances (db.wallets (.seller sellerId)) - sellerShare order

/-- The condition. Nothing is refunded and nothing is due to the seller for the items; or the
order is marked as held, and the items' share is all of its live payout that the seller's pending
balance holds, and nothing where there is no such payout; or it is not marked, and the share is
the refund, with no commission on the items. -/
def ShareIsTaken (db : Db) (order : Order) (sellerId : ObjectId) : Prop :=
  if refundAmount order ≤ 0 then sellerShare order = 0
  else if isHeld order then
    match findLivePayout db order.id .seller with
    | some payout =>
      if payout.beneficiaryId = sellerId then
        min payout.amount (db.wallets (.seller sellerId)).pendingBalance = sellerShare order
      else sellerShare order = 0
    | none => sellerShare order = 0
  else refundRounded order = sellerShare order

instance (db : Db) (order : Order) (sellerId : ObjectId) :
    Decidable (ShareIsTaken db order sellerId) := by
  unfold ShareIsTaken
  cases findLivePayout db order.id .seller <;> infer_instance

/-! ## What each part writes -/

section Movements

variable {db db' : Db} {owner : Owner} {amount : ℚ} {options : MovementOptions} {m : Movement}

theorem creditWallet_writes (h : creditWallet db owner amount .available options = .ok (db', m)) :
    db'.wallets = update db.wallets owner
        ((db.wallets owner).credited .available (roundCurrency amount)) ∧
      db'.payouts = db.payouts ∧ db'.orders = db.orders := by
  obtain ⟨db₁, hpos, -, hwrite, rfl, -⟩ := creditWallet_eq_ok.mp h
  obtain ⟨hw, hp, ho⟩ := maybeWriteLedgerEntry_frame hpos.le hwrite
  rw [if_pos rfl, maybeSyncUserWalletBalance_wallets, maybeSyncUserWalletBalance_payouts,
    maybeSyncUserWalletBalance_orders, hw, hp, ho]
  exact ⟨rfl, rfl, rfl⟩

theorem debitWallet_writes (h : debitWallet db owner amount .available options = .ok (db', m)) :
    db'.wallets = update db.wallets owner
        ((db.wallets owner).debited .available (roundCurrency amount)) ∧
      db'.payouts = db.payouts ∧ db'.orders = db.orders := by
  obtain ⟨db₁, hpos, -, -, hwrite, rfl, -⟩ := debitWallet_eq_ok.mp h
  obtain ⟨hw, hp, ho⟩ := maybeWriteLedgerEntry_frame hpos.le hwrite
  rw [if_pos rfl, maybeSyncUserWalletBalance_wallets, maybeSyncUserWalletBalance_payouts,
    maybeSyncUserWalletBalance_orders, hw, hp, ho]
  exact ⟨rfl, rfl, rfl⟩

end Movements

theorem roundCurrency_rupees (paise : ℚ) : roundCurrency (paise / 100) = mathRound paise := by
  unfold roundCurrency toPaise
  rw [div_mul_cancel₀ paise (by norm_num)]

section Parts

variable {db db' : Db} {order : Order} {sellerId : ObjectId}

theorem creditCustomer_spec (h : creditCustomer db order = .ok db') :
    db'.payouts = db.payouts ∧ db'.orders = db.orders ∧
      (∀ owner, owner ≠ .customer order.customer → db'.wallets owner = db.wallets owner) ∧
      (db'.wallets (.customer order.customer)).availableBalance
        = (db.wallets (.customer order.customer)).availableBalance + refunded order := by
  unfold creditCustomer at h
  unfold refunded
  split at h
  next hpos =>
    obtain ⟨⟨db₁, m⟩, hcredit, hpure⟩ := bind_eq_ok.mp h
    cases pure_eq_ok.mp hpure
    obtain ⟨hw, hp, ho⟩ := creditWallet_writes hcredit
    refine ⟨hp, ho, fun owner hne => ?_, ?_⟩
    · rw [hw, update_of_ne hne]
    · rw [hw, update_self, if_pos hpos, roundCurrency_fromPaise]
      rfl
  next hpos =>
    cases pure_eq_ok.mp h
    rw [if_neg hpos, add_zero]
    exact ⟨rfl, rfl, fun _ _ => rfl, rfl⟩

theorem payReturnPickup_spec (h : payReturnPickup db order = .ok db') :
    ∀ owner, (∀ riderId, owner ≠ .deliveryPartner riderId) → db'.wallets owner = db.wallets owner := by
  unfold payReturnPickup at h
  split at h
  next riderId _ =>
    split at h
    · obtain ⟨⟨db₁, m⟩, hcredit, hpure⟩ := bind_eq_ok.mp h
      cases pure_eq_ok.mp hpure
      obtain ⟨hw, -, -⟩ := creditWallet_writes hcredit
      intro owner hne
      rw [hw, update_of_ne (hne riderId)]
    · cases pure_eq_ok.mp h
      exact fun _ _ => rfl
  next =>
    cases pure_eq_ok.mp h
    exact fun _ _ => rfl

theorem customer_ne_seller (customer seller : ObjectId) : Owner.customer customer ≠ .seller seller :=
  nofun

theorem owner_of_findLivePayout {payout : Payout} {orderId : ObjectId}
    (h : findLivePayout db orderId .seller = some payout) :
    payout.owner = .seller payout.beneficiaryId := by
  have hfound := List.find?_some h
  rw [decide_eq_true_eq] at hfound
  unfold Payout.owner
  rw [hfound.2.1]
  rfl

theorem sub_max_zero (a b : ℤ) : max (a - b) 0 = a - min b a := by omega

theorem elim_saveOrder_wallets (found : Option Order) (f : Order → Order) :
    (found.elim db (fun current => db.saveOrder (f current))).wallets = db.wallets := by
  cases found with
  | none | some => rfl

/-- What the seller's part does: nothing, the cancellation of the payout on hold, or a debit. -/
theorem recoverFromSeller_cases (h : recoverFromSeller db order sellerId = .ok db') :
    db' = db ∨
      (∃ payout, findLivePayout db order.id .seller = some payout ∧
        db' = ((db.unqueuePayout order.id payout).orders.get? order.id).elim
          (db.unqueuePayout order.id payout)
          (fun current => (db.unqueuePayout order.id payout).saveOrder (payoutCancelled current))) ∨
      ∃ m, debitWallet db (.seller sellerId) (refundAmount order / 100) .available
        { ledgerType := some .refund
          orderId := some order.id
          idempotencyKey := some (.named ("RET-SELL-DEBIT-" ++ Nat.repr order.id)) } = .ok (db', m) := by
  unfold recoverFromSeller at h
  split at h
  · split at h
    · obtain ⟨⟨db₁, cancelled⟩, hcancel, hrest⟩ := bind_eq_ok.mp h
      rcases cancelPendingPayoutForOrder_eq_ok.mp hcancel with
        ⟨-, rfl, rfl⟩ | ⟨payout, hfind, -, rfl, rfl⟩
      · exact .inl (pure_eq_ok.mp hrest)
      · exact .inr (.inl ⟨payout, hfind, pure_eq_ok.mp hrest⟩)
    · obtain ⟨⟨db₁, m⟩, hdebit, hpure⟩ := bind_eq_ok.mp h
      cases pure_eq_ok.mp hpure
      exact .inr (.inr ⟨m, hdebit⟩)
  · exact .inl (pure_eq_ok.mp h)

theorem adjustSeller_cases (h : adjustSeller db order = .ok db') :
    db' = db ∨ ∃ sellerId, recoverFromSeller db order sellerId = .ok db' := by
  unfold adjustSeller at h
  split at h
  next sellerId _ => exact .inr ⟨sellerId, h⟩
  next => exact .inl (pure_eq_ok.mp h)

theorem recoverFromSeller_spec (h : recoverFromSeller db order sellerId = .ok db') :
    (∀ customer, db'.wallets (.customer customer) = db.wallets (.customer customer)) ∧
      (balances (db'.wallets (.seller sellerId))
          = balances (db.wallets (.seller sellerId)) - sellerShare order ↔
        ShareIsTaken db order sellerId) := by
  unfold recoverFromSeller at h
  unfold ShareIsTaken
  split at h
  next hpos =>
    rw [if_neg (not_le.mpr hpos)]
    split at h
    next hheld =>
      rw [if_pos hheld]
      obtain ⟨⟨db₁, cancelled⟩, hcancel, hrest⟩ := bind_eq_ok.mp h
      rcases cancelPendingPayoutForOrder_eq_ok.mp hcancel with
        ⟨hnone, rfl, rfl⟩ | ⟨payout, hfind, -, rfl, rfl⟩
      · cases pure_eq_ok.mp hrest
        rw [hnone]
        dsimp only
        refine ⟨fun _ => rfl, ?_⟩
        omega
      · cases pure_eq_ok.mp hrest
        rw [hfind]
        dsimp only
        have howner := owner_of_findLivePayout hfind
        rw [elim_saveOrder_wallets]
        simp only [Db.unqueuePayout, Db.appendLedger_wallets, Db.savePayout_wallets,
          Db.saveWallet_wallets, howner]
        refine ⟨fun customer => update_of_ne (customer_ne_seller _ _) _ _, ?_⟩
        by_cases hmine : payout.beneficiaryId = sellerId
        · rw [if_pos hmine, hmine, update_self]
          simp only [balances, Wallet.unqueued, sub_max_zero]
          omega
        · have hother : Owner.seller sellerId ≠ .seller payout.beneficiaryId :=
            fun heq => hmine (Owner.seller.inj heq).symm
          rw [if_neg hmine, update_of_ne hother]
          omega
    next hheld =>
      rw [if_neg hheld]
      obtain ⟨⟨db₁, m⟩, hdebit, hpure⟩ := bind_eq_ok.mp h
      cases pure_eq_ok.mp hpure
      obtain ⟨hw, -, -⟩ := debitWallet_writes hdebit
      rw [roundCurrency_rupees] at hw
      refine ⟨fun customer => ?_, ?_⟩
      · rw [hw, update_of_ne (customer_ne_seller _ _)]
      · rw [hw, update_self]
        simp only [balances, Wallet.debited, Wallet.setBalance_available, Wallet.balance_available,
          refundRounded]
        omega
  next hpos =>
    cases pure_eq_ok.mp h
    rw [if_pos (not_lt.mp hpos)]
    refine ⟨fun _ => rfl, ?_⟩
    omega

theorem shareIsTaken_congr (hp : db'.payouts = db.payouts)
    (hw : db'.wallets (.seller sellerId) = db.wallets (.seller sellerId)) :
    ShareIsTaken db' order sellerId ↔ ShareIsTaken db order sellerId := by
  unfold ShareIsTaken findLivePayout
  rw [hp, hw]

theorem completeReturnAndRefund_cases {orderId : ObjectId} {result : Option Order}
    (h : completeReturnAndRefund db orderId = .ok (db', result)) :
    db' = db ∨ ∃ order, db.orders.get? orderId = some order ∧ order.returnStatus = .qcPassed := by
  unfold completeReturnAndRefund at h
  split at h
  · exact .inl (Prod.mk.inj (pure_eq_ok.mp h)).1
  next order horder =>
    split at h
    · exact .inl (Prod.mk.inj (pure_eq_ok.mp h)).1
    next hchecked => exact .inr ⟨order, horder, not_not.mp hchecked⟩

theorem completeReturnAndRefund_parts {orderId : ObjectId} {result : Option Order}
    (horder : db.orders.get? orderId = some order) (hchecked : order.returnStatus = .qcPassed)
    (h : completeReturnAndRefund db orderId = .ok (db', result)) :
    ∃ db₁ db₂ db₃, creditCustomer db order = .ok db₁ ∧
      adjustSeller db₁ order = .ok db₂ ∧ payReturnPickup db₂ order = .ok db₃ ∧
      db' = (db₃.orders.get? orderId).elim db₃
        (fun current => db₃.saveOrder (refundCompleted current)) := by
  unfold completeReturnAndRefund at h
  rw [horder] at h
  dsimp only at h
  rw [if_neg (not_not.mpr hchecked)] at h
  obtain ⟨db₁, hcustomer, h⟩ := bind_eq_ok.mp h
  obtain ⟨db₂, hseller, h⟩ := bind_eq_ok.mp h
  obtain ⟨db₃, hpickup, h⟩ := bind_eq_ok.mp h
  obtain ⟨rfl, -⟩ := Prod.mk.inj (pure_eq_ok.mp h)
  exact ⟨db₁, db₂, db₃, hcustomer, hseller, hpickup, rfl⟩

end Parts

/-! ## Main result -/

/-- A return that is refunded raises the customer's wallet by the refund and lowers the seller's
balances by the share of the items exactly under the condition. -/
theorem return_funded_by_seller {db db' : Db} {orderId : ObjectId} {order : Order}
    {result : Option Order} (horder : db.orders.get? orderId = some order)
    (hchecked : order.returnStatus = .qcPassed)
    (h : completeReturnAndRefund db orderId = .ok (db', result)) :
    FundedBySeller order db db' ↔
      ∀ sellerId, order.seller = some sellerId → ShareIsTaken db order sellerId := by
  obtain ⟨db₁, db₂, db₃, hcustomer, hseller, hpickup, hdone⟩ :=
    completeReturnAndRefund_parts horder hchecked h
  have hlast : db'.wallets = db₃.wallets := by
    rw [hdone]
    exact elim_saveOrder_wallets _ _
  obtain ⟨hp₁, -, hother, hcredit⟩ := creditCustomer_spec hcustomer
  have hpaid := payReturnPickup_spec hpickup
  -- the rider's part touches neither wallet, the customer's part not the seller's
  have hbuyer : db'.wallets (.customer order.customer) = db₂.wallets (.customer order.customer) := by
    rw [hlast]
    exact hpaid _ nofun
  have hvendor : ∀ sellerId, db'.wallets (.seller sellerId) = db₂.wallets (.seller sellerId) := by
    intro sellerId
    rw [hlast]
    exact hpaid _ nofun
  have hstart : ∀ sellerId, db₁.wallets (.seller sellerId) = db.wallets (.seller sellerId) :=
    fun sellerId => hother _ (customer_ne_seller _ _).symm
  unfold adjustSeller at hseller
  cases hof : order.seller with
  | none =>
    rw [hof] at hseller
    cases pure_eq_ok.mp hseller
    constructor
    · rintro - sellerId ⟨⟩
    · intro _
      refine ⟨by rw [hbuyer, hcredit], fun sellerId hsome => ?_⟩
      rw [hof] at hsome
      cases hsome
  | some sellerId =>
    rw [hof] at hseller
    obtain ⟨hcustomers, hshare⟩ := recoverFromSeller_spec hseller
    rw [shareIsTaken_congr hp₁ (hstart sellerId), hstart sellerId] at hshare
    constructor
    · rintro ⟨-, hfunded⟩ s ⟨⟩
      have hfell := hfunded sellerId hof
      rw [hvendor] at hfell
      exact hshare.mp hfell
    · intro htaken
      refine ⟨by rw [hbuyer, hcustomers, hcredit], fun s hsome => ?_⟩
      cases hof.symm.trans hsome
      rw [hvendor]
      exact hshare.mpr (htaken sellerId rfl)

/-- Two shirts of 200 rupees with a commission of a tenth, delivered; some of them are returned,
and the check has passed. -/
def checkedShirts (quantity : ℚ) : Order :=
  let breakdown := PaymentBreakdown.placed 40000 36000 0 4000 0
  { Order.placed 1 7 (some 3) none .cod { breakdown with lineItems := [⟨2, 36000⟩] } with
    status := .delivered
    orderStatus := .delivered
    workflowStatus := some .delivered
    deliveredAt := some 1000
    returnStatus := .qcPassed
    items := [{ id := 11, product := 21, name := "Shirt", quantity := 2, price := 20000
                returnPolicy := { isReturnable := true, returnWindowDays := 7 } }]
    returnItems := [⟨21, "Shirt", quantity, 20000, 0⟩]
    returnRefundAmount := 20000 * quantity
    financeFlags := { deliveredSettlementApplied := true, sellerPayoutQueued := true
                      sellerPayoutHeld := true }
    settlementStatus := { sellerPayout := .hold } }

def heldBooks (quantity : ℚ) : Db :=
  let order := checkedShirts quantity
  let db := Db.fresh (Table.insert Table.empty order)
  commit db (createPendingPayoutForOrder db order .seller order.seller (fromPaise 36000))

/-- Both shirts come back: the whole payout is their share. -/
theorem return_funded_by_seller_shirts :
    ∃ db' result, completeReturnAndRefund (heldBooks 2) 1 = .ok (db', result) ∧
      FundedBySeller (checkedShirts 2) (heldBooks 2) db' := by
  have hgoes : (completeReturnAndRefund (heldBooks 2) 1).toOption.isSome = true := by decide +kernel
  have horder : (heldBooks 2).orders.get? 1 = some (checkedShirts 2) := by decide +kernel
  have htaken : ShareIsTaken (heldBooks 2) (checkedShirts 2) 3 := by decide +kernel
  cases h : completeReturnAndRefund (heldBooks 2) 1 with
  | error e =>
    rw [h] at hgoes
    cases hgoes
  | ok pair =>
    refine ⟨pair.1, pair.2, rfl, ?_⟩
    refine (return_funded_by_seller horder rfl h).mpr ?_
    rintro sellerId ⟨⟩
    exact htaken

/-- One of the shirts comes back, and the seller loses the payout of both. -/
theorem payout_cancelled_for_part :
    ¬ ∀ (db db' : Db) (orderId : ObjectId) (order : Order) (result : Option Order),
      db.orders.get? orderId = some order → order.status = .delivered →
      order.returnStatus = .qcPassed → completeReturnAndRefund db orderId = .ok (db', result) →
        FundedBySeller order db db' := by
  intro hall
  have horder : (heldBooks 1).orders.get? 1 = some (checkedShirts 1) := by decide +kernel
  have hmore : (completeReturnAndRefund (heldBooks 1) 1).toOption.any (fun result =>
      decide (balances (result.1.wallets (.seller 3))
        ≠ balances ((heldBooks 1).wallets (.seller 3)) - sellerShare (checkedShirts 1))) = true := by
    decide +kernel
  cases h : completeReturnAndRefund (heldBooks 1) 1 with
  | error e =>
    rw [h] at hmore
    cases hmore
  | ok pair =>
    rw [h] at hmore
    have hfunded := hall (heldBooks 1) pair.1 1 _ pair.2 horder rfl rfl h
    exact of_decide_eq_true hmore (hfunded.seller 3 rfl)

end DiscountBazar.Returns
