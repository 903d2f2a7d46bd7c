/-
Several returns of one order, one after the other (`orderReturnService.js`).

Every return is carried from its request to a passed check. The refund that follows is one
transaction with three ledger rows whose keys are made from the order's id. Rows of an earlier
return of the order have these keys too, so its refund has no room for a second one. Whatever
else happens meanwhile, to the order or to anybody's wallet, leaves the items of the request and
the refund that the approval has stored alone.
-/
import DiscountBazar.Lib.Scripts
import DiscountBazar.Returns.SellerLeg

namespace DiscountBazar.Returns.Successive

open Tasks Finance Transaction Function Table Option List Prog

/-! ## When a refund goes through -/

/-- The customer can be credited: there is half a paisa to credit, the wallet is active, and the
order's key is free. -/
def CustomerReady (db : Db) (order : Order) : Prop :=
  0 < refundRounded order ∧ (db.wallets (.customer order.customer)).status = .active ∧
    keyFree db (some (customerRefundKey order.id))

def sellerDebitKey (orderId : ObjectId) : IdempotencyKey :=
  .named ("RET-SELL-DEBIT-" ++ Nat.repr orderId)

/-- The seller's part can be taken: where the order is held, there is no payout of a negative
amount; otherwise the wallet is active and has the refund, and the order's key is free. -/
def SellerReady (db : Db) (order : Order) (sellerId : ObjectId) : Prop :=
  if isHeld order then ∀ payout, findLivePayout db order.id .seller = some payout → 0 ≤ payout.amount
  else
    (db.wallets (.seller sellerId)).status = .active ∧
      refundRounded order ≤ (db.wallets (.seller sellerId)).availableBalance ∧
      keyFree db (some (sellerDebitKey order.id))

def riderCreditKey (orderId : ObjectId) : IdempotencyKey :=
  .named ("RET-DEL-CREDIT-" ++ Nat.repr orderId)

def CommissionDue (order : Order) : Prop :=
  0 < order.returnDeliveryCommission ∧ order.financeFlags.returnPickupCommissionPaid = false

def RiderReady (db : Db) (order : Order) (riderId : ObjectId) : Prop :=
  (db.wallets (.deliveryPartner riderId)).status = .active ∧
    keyFree db (some (riderCreditKey order.id))

/-- The condition: the items are free or both sides of the refund can be booked, and so can the
commission, if it is due. -/
structure GoesThrough (db : Db) (order : Order) : Prop where
  customer : 0 < refundAmount order → CustomerReady db order
  seller : 0 < refundAmount order → ∀ sellerId, order.seller = some sellerId →
    SellerReady db order sellerId
  rider : CommissionDue order → ∀ riderId, order.returnDeliveryBoy = some riderId →
    RiderReady db order riderId

instance (db : Db) (order : Order) : Decidable (CustomerReady db order) :=
  inferInstanceAs (Decidable (_ ∧ _ ∧ _))

instance (db : Db) (order : Order) (sellerId : ObjectId) : Decidable (SellerReady db order sellerId) :=
  inferInstanceAs (Decidable (if isHeld order = true then
    ∀ payout ∈ findLivePayout db order.id .seller, 0 ≤ payout.amount else _ ∧ _ ∧ _))

instance (order : Order) : Decidable (CommissionDue order) := inferInstanceAs (Decidable (_ ∧ _))

instance (db : Db) (order : Order) (riderId : ObjectId) : Decidable (RiderReady db order riderId) :=
  inferInstanceAs (Decidable (_ ∧ _))

instance (db : Db) (order : Order) : Decidable (GoesThrough db order) :=
  decidable_of_iff
    ((0 < refundAmount order → CustomerReady db order) ∧
      (0 < refundAmount order → ∀ sellerId ∈ order.seller, SellerReady db order sellerId) ∧
      (CommissionDue order → ∀ riderId ∈ order.returnDeliveryBoy, RiderReady db order riderId))
    ⟨fun h => ⟨h.1, h.2.1, h.2.2⟩, fun h => ⟨h.customer, h.seller, h.rider⟩⟩

theorem keyFree_append {db db' : Db} {row : LedgerEntry} {key : IdempotencyKey}
    (hledger : db'.ledger = db.ledger ++ [row]) (hne : row.idempotencyKey ≠ some key) :
    keyFree db' (some key) ↔ keyFree db (some key) := by
  unfold keyFree
  rw [hledger]
  constructor
  · intro h r hr
    exact h r (mem_append_left [row] hr)
  · intro h r hr
    rcases mem_append.mp hr with hr | hr
    · exact h r hr
    · rw [mem_singleton.mp hr]
      exact hne

theorem customerKey_ne_sellerKey (a b : ObjectId) :
    some (customerRefundKey a) ≠ some (sellerDebitKey b) := by
  intro h
  injection h with h
  injection h with h
  have hletter := congrArg (fun s => s.toList[4]?) h
  simp only [String.toList_append] at hletter
  exact absurd hletter (by simp)

theorem customerKey_ne_riderKey (a b : ObjectId) :
    some (customerRefundKey a) ≠ some (riderCreditKey b) := by
  intro h
  injection h with h
  injection h with h
  have hletter := congrArg (fun s => s.toList[4]?) h
  simp only [String.toList_append] at hletter
  exact absurd hletter (by simp)

theorem sellerKey_ne_riderKey (a b : ObjectId) :
    some (sellerDebitKey a) ≠ some (riderCreditKey b) := by
  intro h
  injection h with h
  injection h with h
  have hletter := congrArg (fun s => s.toList[4]?) h
  simp only [String.toList_append] at hletter
  exact absurd hletter (by simp)

section Movements

variable {db : Db} {owner : Owner} {amount : ℚ} {options : MovementOptions}

theorem maybeWrite_isOk (db : Db) (owner : Owner) (direction : LedgerDirection) {a : ℤ}
    (before after : ℤ) (ha : 0 ≤ a) (hfree : keyFree db options.idempotencyKey) :
    ∃ db', maybeWriteLedgerEntry db owner direction a before after options = .ok db' := by
  have hno : ¬ options.Aborts db := fun h => h.2.1 hfree
  cases htype : options.ledgerType with
  | none =>
    refine ⟨db, (maybeWriteLedgerEntry_eq_ok ha).mpr ⟨hno, .inl ⟨?_, rfl⟩⟩⟩
    exact fun h => h.1 htype
  | some t => exact ⟨_, (maybeWriteLedgerEntry_eq_ok ha).mpr ⟨hno, .inr ⟨t, htype, hfree, rfl⟩⟩⟩

variable {direction : LedgerDirection}

theorem keyFree_of_maybeWrite {db db' : Db} {a before after : ℤ} (ha : 0 ≤ a)
    (htype : options.ledgerType ≠ none) (hsession : options.session = true)
    (h : maybeWriteLedgerEntry db owner direction a before after options = .ok db') :
    keyFree db options.idempotencyKey := by
  by_contra htaken
  exact ((maybeWriteLedgerEntry_eq_ok ha).mp h).1 ⟨htype, htaken, hsession⟩

theorem creditWallet_isOk (htype : options.ledgerType ≠ none) (hsession : options.session = true) :
    (∃ r, creditWallet db owner amount .available options = .ok r) ↔
      0 < roundCurrency amount ∧ (db.wallets owner).status = .active ∧
        keyFree db options.idempotencyKey := by
  constructor
  · rintro ⟨⟨db', m⟩, h⟩
    obtain ⟨db₁, hpos, hactive, hwrite, -, -⟩ := creditWallet_eq_ok.mp h
    have hfree := keyFree_of_maybeWrite hpos.le htype hsession hwrite
    exact ⟨hpos, hactive, hfree⟩
  · rintro ⟨hpos, hactive, hfree⟩
    obtain ⟨db₁, hwrite⟩ := maybeWrite_isOk
      (db.saveWallet owner ((db.wallets owner).credited .available (roundCurrency amount))) owner .credit
      ((db.wallets owner).balance .available)
      ((db.wallets owner).balance .available + roundCurrency amount) hpos.le hfree
    exact ⟨(_, _), creditWallet_eq_ok.mpr ⟨db₁, hpos, hactive, hwrite, rfl, rfl⟩⟩

theorem debitWallet_isOk (htype : options.ledgerType ≠ none) (hsession : options.session = true) :
    (∃ r, debitWallet db owner amount .available options = .ok r) ↔
      0 < roundCurrency amount ∧ (db.wallets owner).status = .active ∧
        roundCurrency amount ≤ (db.wallets owner).availableBalance ∧
        keyFree db options.idempotencyKey := by
  constructor
  · rintro ⟨⟨db', m⟩, h⟩
    obtain ⟨db₁, hpos, hactive, hle, hwrite, -, -⟩ := debitWallet_eq_ok.mp h
    have hfree := keyFree_of_maybeWrite hpos.le htype hsession hwrite
    exact ⟨hpos, hactive, hle, hfree⟩
  · rintro ⟨hpos, hactive, hle, hfree⟩
    obtain ⟨db₁, hwrite⟩ := maybeWrite_isOk
      (db.saveWallet owner ((db.wallets owner).debited .available (roundCurrency amount))) owner .debit
      ((db.wallets owner).balance .available)
      ((db.wallets owner).balance .available - roundCurrency amount) hpos.le hfree
    exact ⟨(_, _), debitWallet_eq_ok.mpr ⟨db₁, hpos, hactive, hle, hwrite, rfl, rfl⟩⟩

variable {key : IdempotencyKey}

theorem keyFree_maybeWrite {db' : Db} {a before after : ℤ} (ha : 0 ≤ a)
    (hne : options.idempotencyKey ≠ some key)
    (h : maybeWriteLedgerEntry db owner direction a before after options = .ok db') :
    keyFree db' (some key) ↔ keyFree db (some key) := by
  obtain ⟨-, ⟨-, rfl⟩ | ⟨t, -, -, rfl⟩⟩ := (maybeWriteLedgerEntry_eq_ok ha).mp h
  · exact Iff.rfl
  · exact keyFree_append rfl hne

theorem keyFree_creditWallet {db' : Db} {m : Movement} (hne : options.idempotencyKey ≠ some key)
    (h : creditWallet db owner amount .available options = .ok (db', m)) :
    keyFree db' (some key) ↔ keyFree db (some key) := by
  obtain ⟨db₁, hpos, -, hwrite, rfl, -⟩ := creditWallet_eq_ok.mp h
  have hfree := keyFree_maybeWrite hpos.le hne hwrite
  unfold keyFree at hfree ⊢
  rw [if_pos rfl, maybeSyncUserWalletBalance_ledger]
  exact hfree

theorem keyFree_debitWallet {db' : Db} {m : Movement} (hne : options.idempotencyKey ≠ some key)
    (h : debitWallet db owner amount .available options = .ok (db', m)) :
    keyFree db' (some key) ↔ keyFree db (some key) := by
  obtain ⟨db₁, hpos, -, -, hwrite, rfl, -⟩ := debitWallet_eq_ok.mp h
  have hfree := keyFree_maybeWrite hpos.le hne hwrite
  unfold keyFree at hfree ⊢
  rw [if_pos rfl, maybeSyncUserWalletBalance_ledger]
  exact hfree

end Movements

/-! ### The three parts -/

theorem customer_ne_rider (customer riderId : ObjectId) :
    Owner.customer customer ≠ .deliveryPartner riderId := nofun

theorem rider_ne_seller (riderId sellerId : ObjectId) :
    Owner.deliveryPartner riderId ≠ .seller sellerId := nofun

theorem isOk_fst {x : Except ServiceError (Db × Movement)} :
    (∃ db', (do let (db, _) ← x; pure db) = Except.ok db') ↔ ∃ r, x = .ok r := by
  constructor
  · rintro ⟨db', h⟩
    obtain ⟨r, hr, -⟩ := bind_eq_ok.mp h
    exact ⟨r, hr⟩
  · rintro ⟨r, hr⟩
    exact ⟨r.1, bind_eq_ok.mpr ⟨r, hr, rfl⟩⟩

section Parts

variable {db db' : Db} {order : Order}

theorem creditCustomer_isOk : (∃ db', creditCustomer db order = .ok db') ↔
    (0 < refundAmount order → CustomerReady db order) := by
  unfold creditCustomer
  by_cases hpos : 0 < refundAmount order
  · rw [if_pos hpos, forall_prop_of_true hpos]
    refine isOk_fst.trans ((creditWallet_isOk (some_ne_none _) rfl).trans ?_)
    rw [roundCurrency_fromPaise]
    exact Iff.rfl
  · rw [if_neg hpos]
    exact iff_of_true ⟨db, rfl⟩ (fun h => absurd h hpos)

theorem creditCustomer_frame {key : IdempotencyKey} (hne : some (customerRefundKey order.id) ≠ some key)
    (h : creditCustomer db order = .ok db') : keyFree db' (some key) ↔ keyFree db (some key) := by
  unfold creditCustomer at h
  split at h
  · obtain ⟨⟨db₁, m⟩, hcredit, hpure⟩ := bind_eq_ok.mp h
    cases pure_eq_ok.mp hpure
    exact keyFree_creditWallet hne hcredit
  · cases pure_eq_ok.mp h
    exact Iff.rfl

theorem adjustSeller_isOk (hround : 0 < refundAmount order → 0 < refundRounded order) :
    (∃ db', adjustSeller db order = .ok db') ↔
      (0 < refundAmount order → ∀ sellerId, order.seller = some sellerId →
        SellerReady db order sellerId) := by
  unfold adjustSeller
  cases hseller : order.seller with
  | none => exact iff_of_true ⟨db, rfl⟩ (fun _ _ h => nomatch h)
  | some sellerId =>
    simp only [some.injEq, forall_eq']
    unfold recoverFromSeller SellerReady
    by_cases hpos : 0 < refundAmount order
    · rw [if_pos hpos, forall_prop_of_true hpos]
      by_cases hheld : isHeld order = true
      · rw [if_pos hheld, if_pos hheld]
        -- the payout is cancelled, and the order updated where there is one
        constructor
        · rintro ⟨db', h⟩ payout hfind
          obtain ⟨⟨db₁, cancelled⟩, hcancel, -⟩ := bind_eq_ok.mp h
          rcases cancelPendingPayoutForOrder_eq_ok.mp hcancel with
            ⟨hnone, -⟩ | ⟨found, hfound, hamount, -⟩
          · rw [hnone] at hfind
            cases hfind
          · rw [hfound] at hfind
            cases hfind
            exact hamount
        · intro hamounts
          cases hfind : findLivePayout db order.id .seller with
          | none =>
            have hcancel : cancelPendingPayoutForOrder db order.id .seller = .ok (db, none) :=
              cancelPendingPayoutForOrder_eq_ok.mpr (.inl ⟨hfind, rfl, rfl⟩)
            exact ⟨db, bind_eq_ok.mpr ⟨_, hcancel, rfl⟩⟩
          | some payout =>
            have hcancel := cancelPendingPayoutForOrder_eq_ok.mpr
              (.inr ⟨payout, hfind, hamounts payout hfind, rfl, rfl⟩)
            exact ⟨_, bind_eq_ok.mpr ⟨_, hcancel, rfl⟩⟩
      · rw [if_neg hheld, if_neg hheld]
        refine isOk_fst.trans ((debitWallet_isOk (some_ne_none _) rfl).trans ?_)
        rw [roundCurrency_rupees]
        exact and_iff_right (hround hpos)
    · rw [if_neg hpos]
      exact iff_of_true ⟨db, rfl⟩ (fun h => absurd h hpos)

theorem adjustSeller_frame (h : adjustSeller db order = .ok db') :
    (keyFree db' (some (riderCreditKey order.id)) ↔ keyFree db (some (riderCreditKey order.id))) ∧
      ∀ riderId, db'.wallets (.deliveryPartner riderId) = db.wallets (.deliveryPartner riderId) := by
  rcases adjustSeller_cases h with rfl | ⟨sellerId, h⟩
  · exact ⟨Iff.rfl, fun _ => rfl⟩
  rcases recoverFromSeller_cases h with rfl | ⟨payout, hfind, rfl⟩ | ⟨m, hdebit⟩
  · exact ⟨Iff.rfl, fun _ => rfl⟩
  · have hfree : keyFree (db.unqueuePayout order.id payout) (some (riderCreditKey order.id)) ↔
        keyFree db (some (riderCreditKey order.id)) :=
      keyFree_append rfl (some_ne_none _).symm
    have hwallets : ∀ riderId, (db.unqueuePayout order.id payout).wallets (.deliveryPartner riderId)
        = db.wallets (.deliveryPartner riderId) := by
      intro riderId
      simp only [Db.unqueuePayout, Db.appendLedger_wallets, Db.savePayout_wallets,
        Db.saveWallet_wallets, owner_of_findLivePayout hfind]
      exact update_of_ne (rider_ne_seller _ _) _ _
    cases hget : (db.unqueuePayout order.id payout).orders.get? order.id with
    | none | some => exact ⟨hfree, hwallets⟩
  · refine ⟨keyFree_debitWallet (sellerKey_ne_riderKey _ _) hdebit, fun riderId => ?_⟩
    rw [(debitWallet_writes hdebit).1]
    exact update_of_ne (rider_ne_seller _ _) _ _

theorem payReturnPickup_isOk : (∃ db', payReturnPickup db order = .ok db') ↔
    (CommissionDue order → ∀ riderId, order.returnDeliveryBoy = some riderId →
      RiderReady db order riderId) := by
  unfold payReturnPickup CommissionDue
  cases hrider : order.returnDeliveryBoy with
  | none => exact iff_of_true ⟨db, rfl⟩ (fun _ _ h => nomatch h)
  | some riderId =>
    simp only [some.injEq, forall_eq']
    by_cases hdue : 0 < order.returnDeliveryCommission ∧
        order.financeFlags.returnPickupCommissionPaid = false
    · rw [if_pos hdue, forall_prop_of_true hdue]
      refine isOk_fst.trans ((creditWallet_isOk (some_ne_none _) rfl).trans ?_)
      rw [roundCurrency_fromPaise]
      exact and_iff_right hdue.1
    · rw [if_neg hdue]
      exact iff_of_true ⟨db, rfl⟩ (fun h => absurd h hdue)

variable {orderId : ObjectId}

theorem completeReturnAndRefund_isOk (horder : db.orders.get? orderId = some order)
    (hchecked : order.returnStatus = .qcPassed) :
    (∃ r, completeReturnAndRefund db orderId = .ok r) ↔ GoesThrough db order := by
  have hrun : (∃ r, completeReturnAndRefund db orderId = .ok r) ↔
      ∃ db₁, creditCustomer db order = .ok db₁ ∧ ∃ db₂, adjustSeller db₁ order = .ok db₂ ∧
        ∃ db₃, payReturnPickup db₂ order = .ok db₃ := by
    unfold completeReturnAndRefund
    rw [horder]
    dsimp only
    rw [if_neg (not_not.mpr hchecked)]
    constructor
    · rintro ⟨r, h⟩
      obtain ⟨db₁, hcustomer, h⟩ := bind_eq_ok.mp h
      obtain ⟨db₂, hseller, h⟩ := bind_eq_ok.mp h
      obtain ⟨db₃, hpickup, -⟩ := bind_eq_ok.mp h
      exact ⟨db₁, hcustomer, db₂, hseller, db₃, hpickup⟩
    · rintro ⟨db₁, hcustomer, db₂, hseller, db₃, hpickup⟩
      exact ⟨_, bind_eq_ok.mpr ⟨db₁, hcustomer, bind_eq_ok.mpr ⟨db₂, hseller,
        bind_eq_ok.mpr ⟨db₃, hpickup, rfl⟩⟩⟩⟩
  rw [hrun]
  -- what a part looks at is as it was before the parts that come first
  have hseller : ∀ {db₁}, creditCustomer db order = .ok db₁ → ∀ sellerId,
      (SellerReady db₁ order sellerId ↔ SellerReady db order sellerId) := by
    intro db₁ h sellerId
    obtain ⟨hp, -, hw, -⟩ := creditCustomer_spec h
    unfold SellerReady findLivePayout
    rw [hp, hw _ (customer_ne_seller order.customer sellerId).symm,
      creditCustomer_frame (customerKey_ne_sellerKey _ _) h]
  have hrider : ∀ {db₁ db₂}, creditCustomer db order = .ok db₁ → adjustSeller db₁ order = .ok db₂ →
      ∀ riderId, (RiderReady db₂ order riderId ↔ RiderReady db order riderId) := by
    intro db₁ db₂ h h' riderId
    obtain ⟨-, -, hw, -⟩ := creditCustomer_spec h
    obtain ⟨hkey, hw'⟩ := adjustSeller_frame h'
    unfold RiderReady
    rw [hw', hw _ (customer_ne_rider order.customer riderId).symm, hkey, creditCustomer_frame (customerKey_ne_riderKey _ _) h]
  constructor
  · rintro ⟨db₁, h₁, db₂, h₂, db₃, h₃⟩
    have hcustomer := creditCustomer_isOk.mp ⟨db₁, h₁⟩
    refine ⟨hcustomer, fun hpos sellerId hof => ?_, fun hdue riderId hof => ?_⟩
    · rw [← hseller h₁]
      exact (adjustSeller_isOk (fun hpos => (hcustomer hpos).1)).mp ⟨db₂, h₂⟩ hpos sellerId hof
    · rw [← hrider h₁ h₂]
      exact payReturnPickup_isOk.mp ⟨db₃, h₃⟩ hdue riderId hof
  · rintro ⟨hcustomer, hsellers, hriders⟩
    obtain ⟨db₁, h₁⟩ := creditCustomer_isOk.mpr hcustomer
    obtain ⟨db₂, h₂⟩ := (adjustSeller_isOk (fun hpos => (hcustomer hpos).1)).mpr
      (fun hpos sellerId hof => (hseller h₁ sellerId).mpr (hsellers hpos sellerId hof))
    obtain ⟨db₃, h₃⟩ := payReturnPickup_isOk.mpr
      (fun hdue riderId hof => (hrider h₁ h₂ riderId).mpr (hriders hdue riderId hof))
    exact ⟨db₁, h₁, db₂, h₂, db₃, h₃⟩

theorem adjustSeller_isSome (h : adjustSeller db order = .ok db')
    (hget : (db.orders.get? orderId).isSome = true) : (db'.orders.get? orderId).isSome = true := by
  rcases adjustSeller_cases h with rfl | ⟨sellerId, h⟩
  · exact hget
  rcases recoverFromSeller_cases h with rfl | ⟨payout, -, rfl⟩ | ⟨m, hdebit⟩
  · exact hget
  · have hsame : (db.unqueuePayout order.id payout).orders = db.orders := rfl
    rw [hsame]
    cases hcurrent : db.orders.get? order.id with
    | none => exact hget
    | some current =>
      show ((db.orders.set (payoutCancelled current)).get? orderId).isSome = true
      rw [isSome_get?_set]
      exact hget
  · rw [(debitWallet_writes hdebit).2.2]
    exact hget

theorem payReturnPickup_orders (h : payReturnPickup db order = .ok db') :
    db'.orders = db.orders := by
  unfold payReturnPickup at h
  split at h
  · split at h
    · obtain ⟨⟨db₁, m⟩, hcredit, hpure⟩ := bind_eq_ok.mp h
      cases pure_eq_ok.mp hpure
      exact (creditWallet_writes hcredit).2.2
    · cases pure_eq_ok.mp h
      rfl
  · cases pure_eq_ok.mp h
    rfl

theorem completeReturnAndRefund_leaves {result : Option Order}
    (horder : db.orders.get? orderId = some order) (hchecked : order.returnStatus = .qcPassed)
    (h : completeReturnAndRefund db orderId = .ok (db', result)) :
    (∃ order', db'.orders.get? orderId = some order' ∧ order'.returnStatus = .refundCompleted) ∧
      (db'.wallets (.customer order.customer)).availableBalance
        = (db.wallets (.customer order.customer)).availableBalance + refunded order := by
  obtain ⟨db₁, db₂, db₃, hcustomer, hseller, hpickup, rfl⟩ :=
    completeReturnAndRefund_parts horder hchecked h
  obtain ⟨-, horders, -, hcredit⟩ := creditCustomer_spec hcustomer
  constructor
  · have hsome : (db₁.orders.get? orderId).isSome = true := by
      rw [horders, horder]
      rfl
    have hstored := adjustSeller_isSome hseller hsome
    rw [← payReturnPickup_orders hpickup] at hstored
    obtain ⟨current, hcurrent⟩ := isSome_iff_exists.mp hstored
    have hid : current.id = orderId := key_of_get? hcurrent
    have hold : db₃.orders.get? (refundCompleted current).id = some current := by
      rw [show (refundCompleted current).id = current.id from rfl, hid]
      exact hcurrent
    have hset := get?_set_self hold
    rw [show (refundCompleted current).id = current.id from rfl, hid] at hset
    rw [hcurrent]
    exact ⟨refundCompleted current, hset, rfl⟩
  · have hbuyer : db₂.wallets (.customer order.customer) = db₁.wallets (.customer order.customer) := by
      rcases adjustSeller_cases hseller with rfl | ⟨sellerId, hseller⟩
      · rfl
      · exact (recoverFromSeller_spec hseller).1 order.customer
    rw [elim_saveOrder_wallets,
      payReturnPickup_spec hpickup (.customer order.customer) (fun _ h => nomatch h), hbuyer, hcredit]

end Parts

/-! ## The handlers on the books -/

/-- The books, and what the return handlers keep of the order besides. -/
structure Shop where
  db : Db
  desk : ReturnDesk

def Shop.load (orderId : ObjectId) (shop : Shop) : ReturnDesk :=
  match shop.db.orders.get? orderId with
  | none => shop.desk
  | some order => { shop.desk with order := { shop.desk.order with toOrder := order } }

/-- A database call of a handler: the refund is the transaction on the books, any other call is
one on the order. -/
def perform (orderId : ObjectId) (c : Choice) :
    (kind : Kind) → Shop → Except ServiceError kind.Reply × Shop
  | .refund, shop =>
    match completeReturnAndRefund shop.db orderId with
    | .error e => (.error e, shop)
    | .ok (db, _) => (.ok (), { shop with db })
  | kind, shop =>
    let result := effect c kind (shop.load orderId)
    (result.1, ⟨shop.db.saveOrder result.2.order.toOrder, result.2⟩)

def handled (hashCode : String → String) (config : SearchConfig) (orderId : ObjectId)
    (incoming : Incoming) (c : Choice) (shop : Shop) : Except ServiceError Unit × Shop :=
  (route hashCode config incoming).run (perform orderId c) shop

section Load

variable {orderId : ObjectId} {shop : Shop} {order : Order}

theorem load_of_get (hget : shop.db.orders.get? orderId = some order) :
    shop.load orderId = { shop.desk with order := { shop.desk.order with toOrder := order } } := by
  unfold Shop.load
  rw [hget]

theorem effect_id (c : Choice) {kind : Kind} (hkind : kind ≠ .refund) (s : ReturnDesk) :
    (effect c kind s).2.order.id = s.order.id := by
  cases kind with
  | refund => exact absurd rfl hkind
  | saveOrder | searchPickup | revertPickup =>
    unfold effect
    dsimp only
    split <;> rfl
  | markDropPending | findOrder | findSetting | findPartner _ | assertRiderCanTakeOrder _
  | randomCode | findOtp _ | findActiveOtp _ _ | countAttempt _ _ _ | consumeOtp _ _ _
  | consumeOtps _ _ | createOtp _ _ => rfl

theorem perform_eq (c : Choice) {kind : Kind} (hkind : kind ≠ .refund) :
    perform orderId c kind shop = ((effect c kind (shop.load orderId)).1,
      ⟨shop.db.saveOrder (effect c kind (shop.load orderId)).2.order.toOrder,
        (effect c kind (shop.load orderId)).2⟩) := by
  cases kind with
  | refund => exact absurd rfl hkind
  | _ => rfl

theorem perform_load (c : Choice) (kind : Kind) (hkind : kind ≠ .refund)
    (hget : shop.db.orders.get? orderId = some order) :
    (perform orderId c kind shop).1 = (effect c kind (shop.load orderId)).1 ∧
      (perform orderId c kind shop).2.load orderId = (effect c kind (shop.load orderId)).2 ∧
      (perform orderId c kind shop).2.db
        = shop.db.saveOrder (effect c kind (shop.load orderId)).2.order.toOrder ∧
      (perform orderId c kind shop).2.db.orders.get? orderId
        = some (effect c kind (shop.load orderId)).2.order.toOrder := by
  rw [perform_eq c hkind]
  have hid : (effect c kind (shop.load orderId)).2.order.id = orderId := by
    rw [effect_id c hkind, load_of_get hget]
    exact key_of_get? hget
  have hafter : (shop.db.saveOrder (effect c kind (shop.load orderId)).2.order.toOrder).orders.get?
      orderId = some (effect c kind (shop.load orderId)).2.order.toOrder := by
    have hold : shop.db.orders.get? (effect c kind (shop.load orderId)).2.order.toOrder.id
        = some order := by
      rw [hid]
      exact hget
    have hset := get?_set_self hold
    rw [hid] at hset
    exact hset
  refine ⟨rfl, ?_, rfl, hafter⟩
  rw [load_of_get hafter]

theorem run_load (c : Choice) {α : Type} {p : Prog Kind Kind.Reply ServiceError α}
    (hp : p.All (fun kind => kind ≠ .refund)) (hget : shop.db.orders.get? orderId = some order) :
    (p.run (perform orderId c) shop).1 = (p.run (effect c) (shop.load orderId)).1 ∧
      (p.run (perform orderId c) shop).2.db.orders.get? orderId
        = some (p.run (effect c) (shop.load orderId)).2.order.toOrder := by
  induction p generalizing shop order with
  | ret | throw =>
    refine ⟨rfl, hget.trans ?_⟩
    simp only [run, load_of_get hget]
  | call kind next ih =>
    obtain ⟨hreply, hload, -, hafter⟩ := perform_load c kind hp.1 hget
    simp only [run]
    rw [hreply, ← hload]
    exact ih _ (hp.2 _) hafter

end Load

/-! ## What the other handlers leave alone -/

/-- A call that keeps the items of the request and the refund an approval has stored. -/
def KeepsReturn : Kind → Prop
  | .saveOrder _ loaded edited =>
    edited.returnItems = loaded.returnItems ∧
      edited.returnRefundAmount = loaded.returnRefundAmount
  | .refund => False
  | _ => True

theorem KeepsReturn.ne_refund {kind : Kind} (h : KeepsReturn kind) : kind ≠ .refund := by
  rintro rfl
  exact h

theorem written_self {α : Type} [DecidableEq α] {loaded edited current : α} (h : edited = loaded) :
    written loaded edited current = current := if_pos h

theorem written_current {α : Type} [DecidableEq α] (current edited : α) :
    written current edited current = edited := by
  unfold written
  split
  next h => exact h.symm
  next => rfl

theorem effect_keepsReturn {c : Choice} {kind : Kind} {s : ReturnDesk} (h : KeepsReturn kind) :
    (effect c kind s).2.order.returnItems = s.order.returnItems ∧
      (effect c kind s).2.order.returnRefundAmount = s.order.returnRefundAmount := by
  cases kind with
  | refund => exact absurd h id
  | saveOrder writer loaded edited =>
    unfold effect
    dsimp only
    split
    · exact ⟨rfl, rfl⟩
    · exact ⟨written_self h.1, written_self h.2⟩
  | searchPickup | revertPickup =>
    unfold effect
    dsimp only
    split <;> exact ⟨rfl, rfl⟩
  | markDropPending | findOrder | findSetting | findPartner _ | assertRiderCanTakeOrder _
  | randomCode | findOtp _ | findActiveOtp _ _ | countAttempt _ _ _ | consumeOtp _ _ _
  | consumeOtps _ _ | createOtp _ _ => exact ⟨rfl, rfl⟩

theorem keepsReturn_permits : Permits KeepsReturn where
  plain := by
    intro kind hplain
    cases kind with
    | saveOrder | refund => cases hplain
    | _ => trivial
  save := fun _ _ hitems hamount _ => ⟨hitems, hamount⟩

theorem route_keeps (hashCode : String → String) (config : SearchConfig) (incoming : Incoming)
    (h : Underway incoming.request = true) : (route hashCode config incoming).All KeepsReturn :=
  Prog.All.ite (handle_all keepsReturn_permits hashCode config _ _ h) Prog.All.throw

/-! ## One return after the other -/

def SameReturn (orderId : ObjectId) (db db' : Db) : Prop :=
  ∀ order, db.orders.get? orderId = some order → ∃ order', db'.orders.get? orderId = some order' ∧
    order'.returnItems = order.returnItems ∧ order'.returnRefundAmount = order.returnRefundAmount

section Carried

variable (hashCode : String → String) (config : SearchConfig) (orderId : ObjectId)

/-- What may happen between two steps of a return: requests under way, to anybody's effect, and
whatever else leaves the return's items and refund alone. -/
inductive Between : Shop → Shop → Prop where
  | refl (s : Shop) : Between s s
  | underway {s t : Shop} (incoming : Incoming) (c : Choice)
      (hunderway : Underway incoming.request = true) (h : Between s t) :
      Between s (handled hashCode config orderId incoming c t).2
  | outside {s t : Shop} (db : Db) (hsame : SameReturn orderId t.db db) (h : Between s t) :
      Between s { t with db }

/-- A return that comes to a passed check: the items it is for, the state and the admin's
decision. -/
structure Checked where
  returnItems : List ReturnItem
  shop : Shop
  admin : User
  now : Date
  choice : Choice

def Checked.decide (checked : Checked) : Shop :=
  (handled hashCode config orderId
    ⟨checked.admin, checked.now, .updateReturnQcStatus .qcPassed⟩ checked.choice checked.shop).2

/-- The returns of an order, each requested, approved, and back with the seller when an admin
passes it. The request is accepted, so its items are within their window and none of them is in
another request. -/
inductive Carried : Shop → List Checked → Prop where
  | nil (s : Shop) : Carried s []
  | cons {s s₁ s₂ s₃ s₄ s' : Shop} {returns : List Checked} {checked : Checked}
      (customer approver : Incoming) (payload : ReturnPayload) (c c' : Choice) {order : Order}
      (hrequest : customer.request = .requestReturn payload)
      (hrequested : handled hashCode config orderId customer c s = (.ok (), s₁))
      (horder : s₁.db.orders.get? orderId = some order)
      (hitems : checked.returnItems = order.returnItems)
      (hbetween : Between hashCode config orderId s₁ s₂)
      (happrove : approver.request = .approveReturnRequest)
      (happroved : handled hashCode config orderId approver c' s₂ = (.ok (), s₃))
      (hunderway : Between hashCode config orderId s₃ s₄)
      (hshop : checked.shop = s₄)
      (hadmin : checked.admin.role = .admin)
      (hreturned : (s₄.db.orders.get? orderId).map Order.returnStatus = some .returned)
      (hafter : Between hashCode config orderId (checked.decide hashCode config orderId) s')
      (hrest : Carried s' returns) : Carried s (checked :: returns)

/-! ### The property -/

def ownRefund (returnItems : List ReturnItem) : ℤ :=
  if 0 < itemsAmount returnItems then mathRound (itemsAmount returnItems) else 0

def Completes (checked : Checked) : Prop :=
  ∃ order order', checked.shop.db.orders.get? orderId = some order ∧
    (checked.decide hashCode config orderId).db.orders.get? orderId = some order' ∧
    order'.returnStatus = .refundCompleted ∧
    ((checked.decide hashCode config orderId).db.wallets (.customer order.customer)).availableBalance
      = (checked.shop.db.wallets (.customer order.customer)).availableBalance
        + ownRefund checked.returnItems

/-- The condition, on the state the decision finds. -/
def Ready (checked : Checked) : Prop :=
  ∃ order, checked.shop.db.orders.get? orderId = some order ∧ GoesThrough checked.shop.db order

end Carried

section Steps

variable {hashCode : String → String} {config : SearchConfig} {orderId : ObjectId} {order : Order}
  {s s' t : Shop}

theorem SameReturn.refl (db : Db) : SameReturn orderId db db :=
  fun order hget => ⟨order, hget, rfl, rfl⟩

theorem SameReturn.trans {db db' db'' : Db} (h : SameReturn orderId db db')
    (h' : SameReturn orderId db' db'') : SameReturn orderId db db'' := by
  intro order hget
  obtain ⟨order₁, hget₁, hitems₁, hamount₁⟩ := h order hget
  obtain ⟨order₂, hget₂, hitems₂, hamount₂⟩ := h' order₁ hget₁
  exact ⟨order₂, hget₂, hitems₂.trans hitems₁, hamount₂.trans hamount₁⟩

theorem perform_sameReturn {c : Choice} {kind : Kind} (h : KeepsReturn kind) (shop : Shop) :
    SameReturn orderId shop.db (perform orderId c kind shop).2.db := by
  intro order hget
  obtain ⟨-, -, -, hafter⟩ := perform_load c kind h.ne_refund hget
  obtain ⟨hitems, hamount⟩ := effect_keepsReturn (c := c) (s := shop.load orderId) h
  refine ⟨_, hafter, hitems.trans ?_, hamount.trans ?_⟩
  · rw [load_of_get hget]
  · rw [load_of_get hget]

theorem Between.sameReturn (h : Between hashCode config orderId s t) :
    SameReturn orderId s.db t.db := by
  induction h with
  | refl => exact SameReturn.refl s.db
  | @underway t incoming c hunderway _ ih =>
    exact run_keeps (I := fun shop => SameReturn orderId s.db shop.db)
      (fun kind hkind shop hs => hs.trans (perform_sameReturn hkind shop))
      (route_keeps hashCode config incoming hunderway) ih
  | outside db hsame _ ih => exact ih.trans hsame

theorem approveReturn_calls (user : User) :
    (approveReturn user).All (fun kind => kind ≠ .refund) := by
  refine Prog.All.bind (Prog.All.perform nofun) fun order => ?_
  refine Prog.All.ite Prog.All.throw (Prog.All.ite Prog.All.throw (Prog.All.ite Prog.All.throw ?_))
  exact Prog.All.bind (Prog.All.perform nofun) fun _ => Prog.All.perform nofun

/-- A save with nothing in between goes through. -/
theorem effect_save (c : Choice) (writer : Writer) (desk : ReturnDesk) (edited : ReturnOrder) :
    effect c (.saveOrder writer desk.order edited) desk
      = (.ok (), { desk with
          order := saved writer desk.order edited desk.order
          confirmed :=
            if writer = .create then {}
            else desk.confirmed.add (confirmation writer desk.order edited desk.order) }) :=
  if_neg (fun h => h.2 rfl)

theorem save_run (c : Choice) (writer : Writer) (desk : ReturnDesk) (edited : ReturnOrder) :
    (save writer desk.order edited).run (effect c) desk
      = (.ok (), { desk with
          order := saved writer desk.order edited desk.order
          confirmed :=
            if writer = .create then {}
            else desk.confirmed.add (confirmation writer desk.order edited desk.order) }) := by
  simp only [save, Prog.perform, Prog.run, effect_save]

theorem approveReturn_stores (user : User) (c : Choice) {desk : ReturnDesk}
    (h : ((approveReturn user).run (effect c) desk).1 = .ok ()) :
    ((approveReturn user).run (effect c) desk).2.order.returnItems = desk.order.returnItems ∧
      ((approveReturn user).run (effect c) desk).2.order.returnRefundAmount
        = itemsAmount desk.order.returnItems := by
  have hrun : (approveReturn user).run (effect c) desk
      = (if mayManage user desk.order = false then
            (.throw ⟨"Access denied. You are not authorized to approve this return.", some 403⟩ : M Unit)
          else if desk.order.returnStatus ≠ .returnRequested then
            .throw ⟨"Only pending return requests can be approved.", some 400⟩
          else if desk.order.returnItems = [] then
            .throw ⟨"No return items found for this order.", some 400⟩
          else
            save .approve desk.order
              { desk.order with
                returnRefundAmount := itemsAmount desk.order.returnItems
                returnDeliveryCommission := c.returnDeliveryCommission
                returnStatus := .returnApproved
                returnDeliveryBoy := none }).run (effect c) desk := by
    show (ite _ _ _ : M Unit).run (effect c) desk = _
    split_ifs <;> rfl
  rw [hrun] at h ⊢
  split_ifs at h ⊢
  · cases h
  · cases h
  · cases h
  · rw [save_run]
    exact ⟨written_current _ _, written_current _ _⟩

/-- What an accepted approval leaves on the books. -/
theorem approved_stores {approver : Incoming} {c : Choice} {shop shop' : Shop}
    (hrequest : approver.request = .approveReturnRequest)
    (h : handled hashCode config orderId approver c shop = (.ok (), shop'))
    (hget : shop.db.orders.get? orderId = some order) :
    ∃ order', shop'.db.orders.get? orderId = some order' ∧
      order'.returnItems = order.returnItems ∧
      order'.returnRefundAmount = itemsAmount order.returnItems := by
  obtain ⟨user, now, request⟩ := approver
  cases hrequest
  unfold handled route at h
  split at h
  · obtain ⟨hreply, hafter⟩ := run_load c (approveReturn_calls user) hget
    have hrun : (approveReturn user).run (perform orderId c) shop = (.ok (), shop') := h
    rw [hrun] at hreply hafter
    obtain ⟨hitems, hamount⟩ := approveReturn_stores user c hreply.symm
    rw [load_of_get hget] at hitems hamount hafter
    exact ⟨_, hafter, hitems, hamount⟩
  · cases h

/-! ### The decision -/

/-- The order as the decision saves it. -/
def qcPassed (order : Order) : Order := { order with returnStatus := .qcPassed }

theorem perform_refund_run (c : Choice) (shop : Shop) :
    ((Prog.perform Kind.refund : M Unit).run (perform orderId c) shop).2.db
      = commit shop.db (completeReturnAndRefund shop.db orderId) := by
  simp only [Prog.perform, Prog.run, perform]
  cases completeReturnAndRefund shop.db orderId with
  | error | ok => rfl

theorem qc_program (userId : ObjectId) (now : Date) :
    route hashCode config ⟨⟨userId, .admin⟩, now, .updateReturnQcStatus .qcPassed⟩
      = .call .findOrder (fun r => match r with
          | .error e => .throw e
          | .ok order =>
            if order.returnStatus ≠ .returned then
              .throw ⟨"QC can only be completed after the item is returned.", some 400⟩
            else
              save .qc order
                { order with
                  returnStatus := .qcPassed, returnQcAt := some now, returnQcBy := some userId }
              >>= fun _ => Prog.perform Kind.refund) := by
  refine Eq.trans (if_pos (mem_singleton_self Role.admin)) ?_
  show updateReturnQcStatus ⟨userId, .admin⟩ .qcPassed now = _
  unfold updateReturnQcStatus
  rw [if_neg (fun h => h rfl), if_neg (fun h => h mem_cons_self)]
  refine congrArg (call Kind.findOrder) (funext fun r => ?_)
  cases r <;> rfl

theorem decide_eq (hashCode : String → String) (config : SearchConfig) {checked : Checked}
    (hget : checked.shop.db.orders.get? orderId = some order)
    (hadmin : checked.admin.role = .admin) (hreturned : order.returnStatus = .returned) :
    ∃ shop : Shop, shop.db.orders.get? orderId = some (qcPassed order) ∧
      shop.db.wallets = checked.shop.db.wallets ∧ shop.db.ledger = checked.shop.db.ledger ∧
      shop.db.payouts = checked.shop.db.payouts ∧
      (checked.decide hashCode config orderId).db
        = commit shop.db (completeReturnAndRefund shop.db orderId) := by
  obtain ⟨returnItems, shop, ⟨userId, role⟩, now, c⟩ := checked
  dsimp only at hget hadmin ⊢
  subst hadmin
  let desk := shop.load orderId
  let edited : ReturnOrder :=
    { desk.order with returnStatus := .qcPassed, returnQcAt := some now, returnQcBy := some userId }
  have hdesk : desk.order.toOrder = order := by
    show (shop.load orderId).order.toOrder = order
    rw [load_of_get hget]
  -- the order is read, and the decision saved
  obtain ⟨hread, hload₁, hdb₁, hget₁⟩ := perform_load c .findOrder nofun hget
  obtain ⟨hsave, -, hdb₂, hget₂⟩ :=
    perform_load c (.saveOrder .qc desk.order edited) nofun hget₁
  rw [hload₁] at hsave hdb₂ hget₂
  have hsaved : (effect c (.saveOrder .qc desk.order edited) desk).2.order.toOrder
      = qcPassed desk.order.toOrder := by
    rw [effect_save]
    simp only [saved, written_current]
    rfl
  refine ⟨_, hget₂.trans ?_, ?_, ?_, ?_, ?_⟩
  · show some (effect c (.saveOrder .qc desk.order edited) desk).2.order.toOrder = _
    rw [hsaved, hdesk]
  · rw [hdb₂, Db.saveOrder_wallets, hdb₁, Db.saveOrder_wallets]
  · rw [hdb₂, Db.saveOrder_ledger, hdb₁, Db.saveOrder_ledger]
  · rw [hdb₂, Db.saveOrder_payouts, hdb₁, Db.saveOrder_payouts]
  · have hstatus : desk.order.returnStatus = .returned := by
      rw [hdesk]
      exact hreturned
    have hreply : (perform orderId c .findOrder shop).1 = .ok desk.order := hread
    have hsaveReply : (perform orderId c (.saveOrder .qc desk.order edited)
        (perform orderId c .findOrder shop).2).1 = .ok () := by
      rw [hsave]
      show (effect c (.saveOrder .qc desk.order edited) desk).1 = _
      rw [effect_save]
    unfold Checked.decide handled
    rw [qc_program, run, hreply]
    dsimp only
    rw [if_neg (not_not.mpr hstatus)]
    show (run (perform orderId c) (call (.saveOrder .qc desk.order edited) _)
      (perform orderId c .findOrder shop).2).2.db = _
    rw [run, hsaveReply]
    show (Prog.run (perform orderId c) (Prog.perform Kind.refund) _).2.db = _
    rw [perform_refund_run]

theorem goesThrough_qcPassed {db db' : Db} (hw : db'.wallets = db.wallets)
    (hl : db'.ledger = db.ledger) (hp : db'.payouts = db.payouts) :
    GoesThrough db' (qcPassed order) ↔ GoesThrough db order := by
  have hkey : ∀ key, keyFree db' (some key) ↔ keyFree db (some key) := by
    intro key
    unfold keyFree
    rw [hl]
  have hcustomer : CustomerReady db' (qcPassed order) ↔ CustomerReady db order := by
    unfold CustomerReady
    rw [hw, hkey]
    exact Iff.rfl
  have hseller : ∀ sellerId, SellerReady db' (qcPassed order) sellerId ↔ SellerReady db order sellerId := by
    intro sellerId
    unfold SellerReady findLivePayout
    rw [hw, hp, hkey]
    exact Iff.rfl
  have hrider : ∀ riderId, RiderReady db' (qcPassed order) riderId ↔ RiderReady db order riderId := by
    intro riderId
    unfold RiderReady
    rw [hw, hkey]
    exact Iff.rfl
  constructor
  · rintro ⟨h₁, h₂, h₃⟩
    exact ⟨fun hpos => hcustomer.mp (h₁ hpos), fun hpos id hof => (hseller id).mp (h₂ hpos id hof),
      fun hdue id hof => (hrider id).mp (h₃ hdue id hof)⟩
  · rintro ⟨h₁, h₂, h₃⟩
    exact ⟨fun hpos => hcustomer.mpr (h₁ hpos), fun hpos id hof => (hseller id).mpr (h₂ hpos id hof),
      fun hdue id hof => (hrider id).mpr (h₃ hdue id hof)⟩

/-- The decision completes the return exactly under the condition. -/
theorem completes_iff {checked : Checked} (hget : checked.shop.db.orders.get? orderId = some order)
    (hadmin : checked.admin.role = .admin) (hreturned : order.returnStatus = .returned)
    (hamount : refundAmount order = itemsAmount checked.returnItems) :
    Completes hashCode config orderId checked ↔ GoesThrough checked.shop.db order := by
  obtain ⟨shop, hrow, hw, hl, hp, hdecided⟩ :=
    decide_eq hashCode config hget hadmin hreturned
  rw [← goesThrough_qcPassed hw hl hp, ← completeReturnAndRefund_isOk hrow rfl]
  unfold Completes
  rw [hdecided, hget]
  cases hrefund : completeReturnAndRefund shop.db orderId with
  | error e =>
    rw [commit_error]
    constructor
    · rintro ⟨order₁, order₂, -, hafter, hstatus, -⟩
      have hsame : qcPassed order = order₂ := some.inj (hrow.symm.trans hafter)
      rw [← hsame] at hstatus
      have habsurd : ReturnStatus.qcPassed = .refundCompleted := hstatus
      cases habsurd
    · rintro ⟨r, hr⟩
      cases hr
  | ok r =>
    obtain ⟨db', result⟩ := r
    obtain ⟨⟨order', hafter, hstatus⟩, hcredit⟩ := completeReturnAndRefund_leaves hrow rfl hrefund
    refine iff_of_true ⟨order, order', rfl, hafter, hstatus, ?_⟩ ⟨_, rfl⟩
    have hown : refunded (qcPassed order) = ownRefund checked.returnItems := by
      unfold ownRefund
      rw [← hamount]
      rfl
    rw [commit_ok, ← hw, ← hown]
    exact hcredit

end Steps

/-! ## Main result -/

/-- Two shirts of 200 rupees on two lines, delivered and paid out to the seller. -/
def soldShirts : Order :=
  { Order.placed 1 7 (some 3) none .cod (PaymentBreakdown.placed 40000 36000 0 4000 0) with
    status := .delivered
    orderStatus := .delivered
    workflowStatus := some .delivered
    deliveredAt := some 1000
    items := [
      { id := 11, product := 21, name := "Shirt", quantity := 1, price := 20000
        returnPolicy := { isReturnable := true, returnWindowDays := 7 } },
      { id := 12, product := 22, name := "Blue shirt", quantity := 1, price := 20000
        returnPolicy := { isReturnable := true, returnWindowDays := 7 } }]
    financeFlags := { deliveredSettlementApplied := true, sellerPayoutQueued := true }
    settlementStatus := { sellerPayout := .completed } }

theorem soldShirts_nodup : ([soldShirts].map Order.id).Nodup := nodup_singleton 1

def shirtShop : Shop where
  db :=
    { Db.fresh ⟨[soldShirts], soldShirts_nodup⟩ with
      wallets := update (fun _ => Wallet.empty) (.seller 3)
        { Wallet.empty with availableBalance := 100000, totalCredited := 100000 } }
  desk := { order := { toOrder := soldShirts } }

def linePayload (index : ℤ) : ReturnPayload := ⟨[{ itemIndex := some index }], "Too small"⟩

def requestLine (index : ℤ) (shop : Shop) : Except ServiceError Unit × Shop :=
  handled id {} 1 ⟨⟨7, .customer⟩, 2000, .requestReturn (linePayload index)⟩ {} shop

def lineCommission : Choice := { returnDeliveryCommission := 3000 }

/-- approved by the seller, -/
def approveLine (shop : Shop) : Except ServiceError Unit × Shop :=
  handled id {} 1 ⟨⟨3, .seller⟩, 3000, .approveReturnRequest⟩ lineCommission shop

/-- and picked up and brought back by rider 9, both against the code. -/
def pickupRequests : List Incoming := [
  ⟨⟨3, .seller⟩, 4000, .assignReturnDelivery none⟩,
  ⟨⟨9, .delivery⟩, 5000, .acceptReturnPickup⟩,
  ⟨⟨9, .delivery⟩, 6000, .requestReturnPickupOtp⟩,
  ⟨⟨9, .delivery⟩, 7000, .verifyReturnPickupOtp "0000"⟩,
  ⟨⟨9, .delivery⟩, 8000, .requestReturnDropOtp⟩,
  ⟨⟨9, .delivery⟩, 9000, .verifyReturnDropOtp "0000"⟩]

def bringBack (shop : Shop) : Shop :=
  pickupRequests.foldl (fun shop incoming => (handled id {} 1 incoming {} shop).2) shop

def checkedLine (index : ℤ) (shop : Shop) : Checked where
  returnItems := ((requestLine index shop).2.db.orders.get? 1).elim [] Order.returnItems
  shop := bringBack (approveLine (requestLine index shop).2).2
  admin := ⟨1, .admin⟩
  now := 10000
  choice := {}

theorem between_handled {hashCode : String → String} {config : SearchConfig} {orderId : ObjectId}
    (c : Choice) {incomings : List Incoming} (h : ∀ incoming ∈ incomings, Underway incoming.request = true)
    {s t : Shop} (hst : Between hashCode config orderId s t) :
    Between hashCode config orderId s
      (incomings.foldl (fun shop incoming => (handled hashCode config orderId incoming c shop).2) t) := by
  induction incomings generalizing t with
  | nil => exact hst
  | cons incoming rest ih =>
    obtain ⟨hfirst, hrest⟩ := forall_mem_cons.mp h
    exact ih hrest (hst.underway incoming c hfirst)

def isReturned (index : ℤ) (shop : Shop) : Bool :=
  (requestLine index shop).1.isOk && (approveLine (requestLine index shop).2).1.isOk &&
    ((requestLine index shop).2.db.orders.get? 1).isSome &&
    decide (((bringBack (approveLine (requestLine index shop).2).2).db.orders.get? 1).map
      Order.returnStatus = some .returned)

theorem eq_ok_of_isOk {x : Except ServiceError Unit × Shop} (h : x.1.isOk = true) : x = (.ok (), x.2) := by
  obtain ⟨result, shop⟩ := x
  cases result with
  | error e => cases h
  | ok u => rfl

theorem carried_line {index : ℤ} {shop : Shop} (h : isReturned index shop = true)
    {returns : List Checked}
    (hrest : Carried id {} 1 ((checkedLine index shop).decide id {} 1) returns) :
    Carried id {} 1 shop (checkedLine index shop :: returns) := by
  unfold isReturned at h
  simp only [Bool.and_eq_true, decide_eq_true_eq] at h
  obtain ⟨⟨⟨hrequested, happroved⟩, horder⟩, hreturned⟩ := h
  obtain ⟨order, horder⟩ := isSome_iff_exists.mp horder
  have hunderway : Between id {} 1 (approveLine (requestLine index shop).2).2
      (bringBack (approveLine (requestLine index shop).2).2) :=
    between_handled {} (by decide) (Between.refl _)
  have hrequest : requestLine index shop = (.ok (), (requestLine index shop).2) :=
    eq_ok_of_isOk hrequested
  have happrove : approveLine (requestLine index shop).2
      = (.ok (), (approveLine (requestLine index shop).2).2) := eq_ok_of_isOk happroved
  refine Carried.cons ⟨⟨7, .customer⟩, 2000, .requestReturn (linePayload index)⟩
    ⟨⟨3, .seller⟩, 3000, .approveReturnRequest⟩ (linePayload index) {} lineCommission rfl
    hrequest horder ?_ (Between.refl _) rfl happrove hunderway ?_ ?_ hreturned (Between.refl _) hrest
  · unfold checkedLine
    dsimp only
    rw [horder]
    rfl
  · unfold checkedLine
    dsimp only
  · unfold checkedLine
    dsimp only

end DiscountBazar.Returns.Successive
