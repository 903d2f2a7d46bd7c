/-
The two refunds of a return: `completeReturnAndRefund` in its transaction, and
`completeReturnAndRefundLegacy`, which a setting turns back on.

The legacy refund adds the money to the customer's document itself, where the other goes through
the wallet service: the mirror is the same and the wallet is not. It logs the errors of the other
two parts and goes on. The rows of the old transaction collection, written by both, are left out.
-/
import DiscountBazar.Returns.SellerLeg

namespace DiscountBazar.Returns

open Finance Transaction Function

/-! ## The legacy refund -/

/-- A step in a `try` block: its error is logged, and what it was to write is not written. -/
def logged (db : Db) (step : Except ServiceError Db) : Db × List ServiceError :=
  match step with
  | .ok db' => (db', [])
  | .error e => (db, [e])

/-- The customer's part; `found` is whether the customer's document is there. -/
def legacyCreditCustomer (found : Bool) (db : Db) (order : Order) : Db :=
  if 0 < refundAmount order ∧ found = true then
    { db with
      users := update db.users order.customer
        (db.users order.customer + refundRounded order) }
  else db

def legacyRecoverFromSeller (db : Db) (order : Order) (sellerId : ObjectId) :
    Except ServiceError Db :=
  if isHeld order then do
    let (db, cancelled) ← cancelPendingPayoutForOrder db order.id .seller
    match cancelled with
    | some _ =>
      pure ((db.orders.get? order.id).elim db
        (fun current => db.saveOrder (payoutCancelled current)))
    | none => pure db
  else do
    let (db, _) ← debitWallet db (.seller sellerId) (max 0 (refundAmount order) / 100) .available {}
    pure db

def legacyAdjustSeller (db : Db) (order : Order) : Db × List ServiceError :=
  match order.seller with
  | some sellerId =>
    if 0 < refundAmount order then logged db (legacyRecoverFromSeller db order sellerId)
    else (db, [])
  | none => (db, [])

def legacyPayReturnPickup (db : Db) (order : Order) : Db × List ServiceError :=
  match order.returnDeliveryBoy with
  | some riderId =>
    if 0 < order.returnDeliveryCommission ∧
        order.financeFlags.returnPickupCommissionPaid = false then
      logged db (do
        let (db, _) ← creditWallet db (.deliveryPartner riderId)
          (fromPaise order.returnDeliveryCommission) .available {}
        pure db)
    else (db, [])
  | none => (db, [])

/-- `completeReturnAndRefundLegacy` of a stored order, with the errors that it logs. -/
def completeReturnAndRefundLegacy (found : Bool) (db : Db) (orderId : ObjectId) :
    Db × List ServiceError × Option Order :=
  match db.orders.get? orderId with
  | none => (db, [], none)
  | some order =>
    if order.returnStatus ≠ .qcPassed then (db, [], some order)
    else
      let seller := legacyAdjustSeller (legacyCreditCustomer found db order) order
      let pickup := legacyPayReturnPickup seller.1 order
      let db := pickup.1
      let db := (db.orders.get? orderId).elim db
        (fun current => db.saveOrder (refundCompleted current))
      (db, seller.2 ++ pickup.2, some (refundCompleted order))

/-! ## Statements -/

/-- The two stores differ at most in the customers' wallets and mirrors, and in the ledger. -/
structure SameElsewhere (db db' : Db) : Prop where
  seller : ∀ sellerId, db.wallets (.seller sellerId) = db'.wallets (.seller sellerId)
  rider : ∀ riderId, db.wallets (.deliveryPartner riderId) = db'.wallets (.deliveryPartner riderId)
  payouts : db.payouts = db'.payouts
  orders : db.orders = db'.orders

/-- The two refunds leave the same wallets, payouts and orders. -/
structure RefundsAgree (found : Bool) (order : Order) (db db' : Db) : Prop where
  customer : db.wallets (.customer order.customer) = db'.wallets (.customer order.customer)
  mirror : found = true → db.users order.customer = db'.users order.customer
  elsewhere : SameElsewhere db db'

def isPartner : Owner → Bool
  | .seller _ => true
  | .deliveryPartner _ => true
  | _ => false

/-- A part of the refund that is not about the customer. -/
structure CustomersKept (db db' : Db) : Prop where
  wallets : ∀ id, db'.wallets (.customer id) = db.wallets (.customer id)
  users : db'.users = db.users

/-! ## What a movement writes -/

section Movements

variable {db db' d d' : Db} {owner : Owner} {amount : ℚ} {options options' : MovementOptions}
  {m m' : Movement}

theorem SameElsewhere.wallet (h : SameElsewhere db db') (howner : isPartner owner = true) :
    db.wallets owner = db'.wallets owner := by
  cases owner with
  | admin | customer => cases howner
  | seller id => exact h.seller id
  | deliveryPartner id => exact h.rider id

theorem SameElsewhere.update (h : SameElsewhere db db') (howner : isPartner owner = true)
    (f : Wallet → Wallet)
    (hw : d.wallets = update db.wallets owner (f (db.wallets owner)))
    (hw' : d'.wallets = update db'.wallets owner (f (db'.wallets owner)))
    (hp : d.payouts = d'.payouts) (ho : d.orders = d'.orders) : SameElsewhere d d' := by
  have hsame := h.wallet howner
  refine ⟨fun sellerId => ?_, fun riderId => ?_, hp, ho⟩
  · rw [hw, hw', hsame]
    by_cases heq : Owner.seller sellerId = owner
    · rw [heq, update_self, update_self]
    · rw [update_of_ne heq, update_of_ne heq]
      exact h.seller sellerId
  · rw [hw, hw', hsame]
    by_cases heq : Owner.deliveryPartner riderId = owner
    · rw [heq, update_self, update_self]
    · rw [update_of_ne heq, update_of_ne heq]
      exact h.rider riderId

theorem CustomersKept.of_update (howner : isPartner owner = true) {wallet : Wallet}
    (hw : db'.wallets = update db.wallets owner wallet) (hu : db'.users = db.users) :
    CustomersKept db db' := by
  refine ⟨fun id => ?_, hu⟩
  have hne : Owner.customer id ≠ owner := by
    rintro rfl
    cases howner
  rw [hw, update_of_ne hne]

theorem maybeWriteLedgerEntry_users {direction : LedgerDirection} {a before after : ℤ} (ha : 0 ≤ a)
    (h : maybeWriteLedgerEntry db owner direction a before after options = .ok db') :
    db'.users = db.users := by
  obtain ⟨-, ⟨-, rfl⟩ | ⟨t, -, -, rfl⟩⟩ := (maybeWriteLedgerEntry_eq_ok ha).mp h
  · rfl
  · rfl

theorem maybeSyncUserWalletBalance_users (howner : isPartner owner = true) (delta : ℤ)
    (sync : Bool) : maybeSyncUserWalletBalance db owner delta sync = db := by
  cases owner with
  | customer id => cases howner
  | admin | seller | deliveryPartner => rfl

theorem creditWallet_kept (howner : isPartner owner = true)
    (h : creditWallet db owner amount .available options = .ok (d, m)) : CustomersKept db d := by
  obtain ⟨hw, -, -⟩ := creditWallet_writes h
  obtain ⟨db₁, hpos, -, hwrite, rfl, -⟩ := creditWallet_eq_ok.mp h
  refine .of_update howner hw ?_
  rw [if_pos rfl, maybeSyncUserWalletBalance_users howner]
  exact (maybeWriteLedgerEntry_users hpos.le hwrite).trans rfl

theorem debitWallet_kept (howner : isPartner owner = true)
    (h : debitWallet db owner amount .available options = .ok (d, m)) : CustomersKept db d := by
  obtain ⟨hw, -, -⟩ := debitWallet_writes h
  obtain ⟨db₁, hpos, -, -, hwrite, rfl, -⟩ := debitWallet_eq_ok.mp h
  refine .of_update howner hw ?_
  rw [if_pos rfl, maybeSyncUserWalletBalance_users howner]
  exact (maybeWriteLedgerEntry_users hpos.le hwrite).trans rfl

theorem SameElsewhere.creditWallet (hsame : SameElsewhere db db')
    (howner : isPartner owner = true)
    (h : creditWallet db owner amount .available options = .ok (d, m))
    (h' : creditWallet db' owner amount .available options' = .ok (d', m')) :
    SameElsewhere d d' := by
  obtain ⟨hw, hp, ho⟩ := creditWallet_writes h
  obtain ⟨hw', hp', ho'⟩ := creditWallet_writes h'
  refine hsame.update howner (·.credited .available (roundCurrency amount)) hw hw' ?_ ?_
  · rw [hp, hp', hsame.payouts]
  · rw [ho, ho', hsame.orders]

theorem SameElsewhere.debitWallet (hsame : SameElsewhere db db')
    (howner : isPartner owner = true)
    (h : debitWallet db owner amount .available options = .ok (d, m))
    (h' : debitWallet db' owner amount .available options' = .ok (d', m')) :
    SameElsewhere d d' := by
  obtain ⟨hw, hp, ho⟩ := debitWallet_writes h
  obtain ⟨hw', hp', ho'⟩ := debitWallet_writes h'
  refine hsame.update howner (·.debited .available (roundCurrency amount)) hw hw' ?_ ?_
  · rw [hp, hp', hsame.payouts]
  · rw [ho, ho', hsame.orders]

theorem SameElsewhere.elim_saveOrder (hsame : SameElsewhere db db') (orderId : ObjectId)
    (f : Order → Order) :
    SameElsewhere ((db.orders.get? orderId).elim db (fun current => db.saveOrder (f current)))
      ((db'.orders.get? orderId).elim db' (fun current => db'.saveOrder (f current))) := by
  rw [← hsame.orders]
  cases db.orders.get? orderId with
  | none => exact hsame
  | some current =>
    refine ⟨hsame.seller, hsame.rider, hsame.payouts, ?_⟩
    change db.orders.set (f current) = db'.orders.set (f current)
    rw [hsame.orders]

theorem CustomersKept.elim_saveOrder (found : Option Order) (f : Order → Order) :
    CustomersKept db (found.elim db (fun current => db.saveOrder (f current))) := by
  cases found with
  | none | some => exact ⟨fun _ => rfl, rfl⟩

theorem CustomersKept.refl (db : Db) : CustomersKept db db := ⟨fun _ => rfl, rfl⟩

theorem CustomersKept.trans (h : CustomersKept db db') (h' : CustomersKept db' d) :
    CustomersKept db d :=
  ⟨fun id => (h'.wallets id).trans (h.wallets id), h'.users.trans h.users⟩

end Movements

/-! ## The parts -/

section Parts

variable {db db' d d' : Db} {order : Order} {sellerId : ObjectId} {found : Bool}

theorem logged_eq_nil {step : Except ServiceError Db} :
    logged db step = (d, []) ↔ step = .ok d := by
  unfold logged
  cases step with
  | ok | error => simp

theorem creditCustomer_elsewhere (h : creditCustomer db order = .ok d) :
    SameElsewhere d (legacyCreditCustomer found db order) := by
  obtain ⟨hp, ho, hother, -⟩ := creditCustomer_spec h
  have hlegacy : ∀ owner,
      (legacyCreditCustomer found db order).wallets owner = db.wallets owner := by
    intro owner
    unfold legacyCreditCustomer
    split <;> rfl
  refine ⟨fun _ => ?_, fun _ => ?_, ?_, ?_⟩
  · rw [hlegacy, hother (.seller _) (fun h => nomatch h)]
  · rw [hlegacy, hother (.deliveryPartner _) (fun h => nomatch h)]
  · rw [hp]
    unfold legacyCreditCustomer
    split <;> rfl
  · rw [ho]
    unfold legacyCreditCustomer
    split <;> rfl

theorem creditCustomer_mirror (h : creditCustomer db order = .ok d) (hfound : found = true) :
    d.users order.customer = (legacyCreditCustomer found db order).users order.customer := by
  unfold creditCustomer at h
  unfold legacyCreditCustomer
  split at h
  next hpos =>
    obtain ⟨⟨db₁, m⟩, hcredit, hpure⟩ := bind_eq_ok.mp h
    cases pure_eq_ok.mp hpure
    obtain ⟨db₂, hamount, -, hwrite, rfl, -⟩ := creditWallet_eq_ok.mp hcredit
    have husers := maybeWriteLedgerEntry_users hamount.le hwrite
    have hboth : 0 < refundAmount order ∧ found = true := ⟨hpos, hfound⟩
    rw [if_pos rfl, if_pos hboth]
    dsimp only
    rw [update_self, maybeSyncUserWalletBalance, if_pos rfl]
    dsimp only
    rw [update_self, husers, roundCurrency_fromPaise]
    rfl
  next hpos =>
    cases pure_eq_ok.mp h
    rw [if_neg (fun h => hpos h.1)]

theorem unqueuePayout_kept {payout : Payout}
    (hfind : findLivePayout db order.id .seller = some payout) :
    CustomersKept db (db.unqueuePayout order.id payout) := by
  have howner := owner_of_findLivePayout hfind
  have hpartner : isPartner payout.owner = true := by
    rw [howner]
    rfl
  exact .of_update hpartner rfl rfl

theorem recoverFromSeller_kept (h : recoverFromSeller db order sellerId = .ok d) :
    CustomersKept db d := by
  rcases recoverFromSeller_cases h with rfl | ⟨payout, hfind, rfl⟩ | ⟨m, hdebit⟩
  · exact .refl _
  · exact (unqueuePayout_kept hfind).trans (.elim_saveOrder _ _)
  · exact debitWallet_kept rfl hdebit

theorem legacyRecoverFromSeller_kept (h : legacyRecoverFromSeller db order sellerId = .ok d) :
    CustomersKept db d := by
  unfold legacyRecoverFromSeller at h
  split at h
  · obtain ⟨⟨db₁, cancelled⟩, hcancel, hrest⟩ := bind_eq_ok.mp h
    rcases cancelPendingPayoutForOrder_eq_ok.mp hcancel with
      ⟨-, rfl, rfl⟩ | ⟨payout, hfind, -, rfl, rfl⟩
    · cases pure_eq_ok.mp hrest
      exact .refl _
    · cases pure_eq_ok.mp hrest
      exact (unqueuePayout_kept hfind).trans (.elim_saveOrder _ _)
  · obtain ⟨⟨db₁, m⟩, hdebit, hpure⟩ := bind_eq_ok.mp h
    cases pure_eq_ok.mp hpure
    exact debitWallet_kept rfl hdebit

theorem recoverFromSeller_same (hsame : SameElsewhere db db') (hpos : 0 < refundAmount order)
    (h : recoverFromSeller db order sellerId = .ok d)
    (h' : legacyRecoverFromSeller db' order sellerId = .ok d') : SameElsewhere d d' := by
  have hlive : findLivePayout db order.id .seller = findLivePayout db' order.id .seller := by
    unfold findLivePayout
    rw [hsame.payouts]
  unfold recoverFromSeller at h
  unfold legacyRecoverFromSeller at h'
  rw [if_pos hpos] at h
  by_cases hheld : isHeld order = true
  · rw [if_pos hheld] at h h'
    obtain ⟨⟨db₁, cancelled⟩, hcancel, hrest⟩ := bind_eq_ok.mp h
    obtain ⟨⟨db₁', cancelled'⟩, hcancel', hrest'⟩ := bind_eq_ok.mp h'
    rcases cancelPendingPayoutForOrder_eq_ok.mp hcancel with
      ⟨hnone, rfl, rfl⟩ | ⟨payout, hfind, -, rfl, rfl⟩ <;>
    rcases cancelPendingPayoutForOrder_eq_ok.mp hcancel' with
      ⟨hnone', rfl, rfl⟩ | ⟨payout', hfind', -, rfl, rfl⟩
    · cases pure_eq_ok.mp hrest
      cases pure_eq_ok.mp hrest'
      exact hsame
    · cases hnone.symm.trans (hlive.trans hfind')
    · cases (hlive.symm.trans hfind).symm.trans hnone'
    · cases Option.some.inj ((hlive.symm.trans hfind).symm.trans hfind')
      cases pure_eq_ok.mp hrest
      cases pure_eq_ok.mp hrest'
      have howner := owner_of_findLivePayout hfind
      refine SameElsewhere.elim_saveOrder ?_ order.id payoutCancelled
      have hpartner : isPartner payout.owner = true := by
        rw [howner]
        rfl
      refine hsame.update hpartner (·.unqueued payout.amount) rfl rfl ?_ hsame.orders
      change db.payouts.set _ = db'.payouts.set _
      rw [hsame.payouts]
  · rw [if_neg hheld] at h h'
    rw [max_eq_right hpos.le] at h'
    obtain ⟨⟨db₁, m⟩, hdebit, hpure⟩ := bind_eq_ok.mp h
    obtain ⟨⟨db₁', m'⟩, hdebit', hpure'⟩ := bind_eq_ok.mp h'
    cases pure_eq_ok.mp hpure
    cases pure_eq_ok.mp hpure'
    exact hsame.debitWallet rfl hdebit hdebit'

theorem adjustSeller_spec (hsame : SameElsewhere db db') (h : adjustSeller db order = .ok d)
    (h' : legacyAdjustSeller db' order = (d', [])) :
    SameElsewhere d d' ∧ CustomersKept db d ∧ CustomersKept db' d' := by
  unfold adjustSeller at h
  unfold legacyAdjustSeller at h'
  cases hof : order.seller with
  | none =>
    rw [hof] at h h'
    cases pure_eq_ok.mp h
    cases h'
    exact ⟨hsame, .refl _, .refl _⟩
  | some sellerId =>
    rw [hof] at h h'
    dsimp only at h h'
    by_cases hpos : 0 < refundAmount order
    · rw [if_pos hpos, logged_eq_nil] at h'
      exact ⟨recoverFromSeller_same hsame hpos h h', recoverFromSeller_kept h,
        legacyRecoverFromSeller_kept h'⟩
    · rw [if_neg hpos] at h'
      unfold recoverFromSeller at h
      rw [if_neg hpos] at h
      cases pure_eq_ok.mp h
      cases h'
      exact ⟨hsame, .refl _, .refl _⟩

theorem payReturnPickup_same (hsame : SameElsewhere db db') (h : payReturnPickup db order = .ok d)
    (h' : legacyPayReturnPickup db' order = (d', [])) :
    SameElsewhere d d' ∧ CustomersKept db d ∧ CustomersKept db' d' := by
  unfold payReturnPickup at h
  unfold legacyPayReturnPickup at h'
  cases hof : order.returnDeliveryBoy with
  | none =>
    rw [hof] at h h'
    cases pure_eq_ok.mp h
    cases h'
    exact ⟨hsame, .refl _, .refl _⟩
  | some riderId =>
    rw [hof] at h h'
    dsimp only at h h'
    by_cases hdue : 0 < order.returnDeliveryCommission ∧
        order.financeFlags.returnPickupCommissionPaid = false
    · rw [if_pos hdue] at h
      rw [if_pos hdue, logged_eq_nil] at h'
      obtain ⟨⟨db₁, m⟩, hcredit, hpure⟩ := bind_eq_ok.mp h
      obtain ⟨⟨db₁', m'⟩, hcredit', hpure'⟩ := bind_eq_ok.mp h'
      cases pure_eq_ok.mp hpure
      cases pure_eq_ok.mp hpure'
      exact ⟨hsame.creditWallet rfl hcredit hcredit', creditWallet_kept rfl hcredit,
        creditWallet_kept rfl hcredit'⟩
    · rw [if_neg hdue] at h h'
      cases pure_eq_ok.mp h
      cases h'
      exact ⟨hsame, .refl _, .refl _⟩

end Parts

/-! ## Main result -/

section Run

variable {found : Bool} {db d d' : Db} {orderId : ObjectId} {order : Order}
  {result result' : Option Order}

theorem completeReturnAndRefundLegacy_parts (horder : db.orders.get? orderId = some order)
    (hchecked : order.returnStatus = .qcPassed)
    (h : completeReturnAndRefundLegacy found db orderId = (d', [], result')) :
    ∃ d₂ d₃, legacyAdjustSeller (legacyCreditCustomer found db order) order = (d₂, []) ∧
      legacyPayReturnPickup d₂ order = (d₃, []) ∧
      d' = (d₃.orders.get? orderId).elim d₃
        (fun current => d₃.saveOrder (refundCompleted current)) := by
  unfold completeReturnAndRefundLegacy at h
  rw [horder] at h
  dsimp only at h
  rw [if_neg (not_not.mpr hchecked)] at h
  obtain ⟨hd, hrest⟩ := Prod.mk.inj h
  obtain ⟨herrors, -⟩ := Prod.mk.inj hrest
  obtain ⟨hseller, hpickup⟩ := List.append_eq_nil_iff.mp herrors
  exact ⟨_, _, Prod.ext rfl hseller, Prod.ext rfl hpickup, hd.symm⟩

/-- The customers' part apart, two refunds in which nothing fails write the same; and neither
of the other parts writes a customer's wallet or mirror. -/
theorem refunds_elsewhere (horder : db.orders.get? orderId = some order)
    (hchecked : order.returnStatus = .qcPassed)
    (h : completeReturnAndRefund db orderId = .ok (d, result))
    (h' : completeReturnAndRefundLegacy found db orderId = (d', [], result')) :
    ∃ d₁, creditCustomer db order = .ok d₁ ∧ SameElsewhere d d' ∧ CustomersKept d₁ d ∧
      CustomersKept (legacyCreditCustomer found db order) d' := by
  obtain ⟨d₁, d₂, d₃, hcustomer, hseller, hpickup, rfl⟩ :=
    completeReturnAndRefund_parts horder hchecked h
  obtain ⟨e₂, e₃, hseller', hpickup', rfl⟩ :=
    completeReturnAndRefundLegacy_parts horder hchecked h'
  obtain ⟨hsame₂, hkept₂, hkept₂'⟩ :=
    adjustSeller_spec (creditCustomer_elsewhere hcustomer) hseller hseller'
  obtain ⟨hsame₃, hkept₃, hkept₃'⟩ := payReturnPickup_same hsame₂ hpickup hpickup'
  exact ⟨d₁, hcustomer, hsame₃.elim_saveOrder orderId refundCompleted,
    (hkept₂.trans hkept₃).trans (.elim_saveOrder _ _),
    (hkept₂'.trans hkept₃').trans (.elim_saveOrder _ _)⟩

theorem legacyCreditCustomer_wallets :
    (legacyCreditCustomer found db order).wallets = db.wallets := by
  unfold legacyCreditCustomer
  split <;> rfl

/-- The two refunds of a return agree, where no step of either fails, if and only if there is
nothing to refund: of what they write, it is the customer's wallet that differs. -/
theorem refunds_agree_iff (horder : db.orders.get? orderId = some order)
    (hchecked : order.returnStatus = .qcPassed)
    (h : completeReturnAndRefund db orderId = .ok (d, result))
    (h' : completeReturnAndRefundLegacy found db orderId = (d', [], result')) :
    RefundsAgree found order d d' ↔ refundAmount order ≤ 0 := by
  obtain ⟨d₁, hcustomer, hsame, hkept, hkept'⟩ := refunds_elsewhere horder hchecked h h'
  constructor
  · intro hagree
    by_contra hpos
    rw [not_le] at hpos
    have hcredit := (creditCustomer_spec hcustomer).2.2.2
    have hlegacy :
        d'.wallets (.customer order.customer) = db.wallets (.customer order.customer) := by
      rw [hkept'.wallets, legacyCreditCustomer_wallets]
    rw [← hkept.wallets, hagree.customer, hlegacy, refunded, if_pos hpos] at hcredit
    unfold creditCustomer at hcustomer
    rw [if_pos hpos] at hcustomer
    obtain ⟨⟨db₁, m⟩, hmoved, -⟩ := bind_eq_ok.mp hcustomer
    obtain ⟨-, hamount, -⟩ := creditWallet_eq_ok.mp hmoved
    rw [roundCurrency_fromPaise] at hamount
    omega
  · intro hzero
    have hmirror : found = true → d.users order.customer = d'.users order.customer := by
      intro hfound
      rw [hkept.users, hkept'.users, creditCustomer_mirror hcustomer hfound]
    unfold creditCustomer at hcustomer
    rw [if_neg (not_lt.mpr hzero)] at hcustomer
    cases pure_eq_ok.mp hcustomer
    refine ⟨?_, hmirror, hsame⟩
    rw [hkept.wallets, hkept'.wallets, legacyCreditCustomer_wallets]

end Run

/-- Nothing to refund: a free sample with its check passed, and a commission for
the pickup. -/
def freeSample : Order :=
  { checkedShirts 1 with
    returnItems := [⟨21, "Sample", 1, 0, 0⟩]
    returnRefundAmount := 0
    returnDeliveryBoy := some 9
    returnDeliveryCommission := 2500 }

def sampleBooks : Db := Db.fresh (Table.insert Table.empty freeSample)

theorem refunds_agree_sample :
    ∃ d result d' result', RefundsAgree true freeSample d d' ∧
      completeReturnAndRefund sampleBooks 1 = .ok (d, result) ∧
      completeReturnAndRefundLegacy true sampleBooks 1
        = (d', [], result') := by
  have hgoes : (completeReturnAndRefund sampleBooks 1).toOption.isSome = true := by
    decide +kernel
  have hclean : (completeReturnAndRefundLegacy true
      sampleBooks 1).2.1 = [] := by decide +kernel
  cases h : completeReturnAndRefund sampleBooks 1 with
  | error e =>
    rw [h] at hgoes
    cases hgoes
  | ok pair =>
    have h' : completeReturnAndRefundLegacy true sampleBooks 1 =
        (_, [], _) := Prod.ext rfl (Prod.ext hclean rfl)
    exact ⟨pair.1, pair.2, _, _,
      (refunds_agree_iff (by decide +kernel) (by decide +kernel) h h').mpr (by decide +kernel),
      rfl, h'⟩

/-- Both shirts come back: the legacy refund leaves the customer's wallet without it. -/
theorem legacy_refund_not_in_wallet :
    ∃ d result d' result', completeReturnAndRefund (heldBooks 2) 1 = .ok (d, result) ∧
      completeReturnAndRefundLegacy true (heldBooks 2) 1 = (d', [], result') ∧
      ¬ RefundsAgree true (checkedShirts 2) d d' := by
  have hcredited : (completeReturnAndRefund (heldBooks 2) 1).toOption.any (fun r =>
      decide ((r.1.wallets (.customer 7)).availableBalance = 40000)) = true := by decide +kernel
  have hlegacy : ((completeReturnAndRefundLegacy true (heldBooks 2) 1).1.wallets
      (.customer 7)).availableBalance = 0 := by decide +kernel
  have hclean : (completeReturnAndRefundLegacy true (heldBooks 2) 1).2.1 = [] := by decide +kernel
  cases h : completeReturnAndRefund (heldBooks 2) 1 with
  | error e =>
    rw [h] at hcredited
    cases hcredited
  | ok pair =>
    rw [h] at hcredited
    refine ⟨pair.1, pair.2, _, _, rfl, Prod.ext rfl (Prod.ext hclean rfl), fun hagree => ?_⟩
    have hsame : (pair.1.wallets (.customer 7)).availableBalance = _ :=
      congrArg Wallet.availableBalance hagree.customer
    cases hlegacy.symm.trans (hsame.symm.trans (of_decide_eq_true hcredited))

end DiscountBazar.Returns
