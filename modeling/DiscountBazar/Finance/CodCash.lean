/-
Conservation of COD cash.

A rider's cash in hand should be what is outstanding on the orders whose cash that rider
collected, and a remittance should move what was requested from that cash to the platform.
Collection takes the order's own rider before the one in the request; remittance takes the
one in the request first, and clamps the cash at zero. The main result says that this is
the whole difference: along any run the cash matches exactly when every remittance names
the collector (or nobody) and no collection passes the upper end of the clamp.
-/
import DiscountBazar.Finance.OrderFinance
import DiscountBazar.Lib.Run

namespace DiscountBazar.Finance

open Transaction Function Runs Table Option Finance.Order Wallet

/-! ## Operations -/

inductive CodOp where
  | handleCodOrderFinance (orderId : ObjectId) (amount : Option ℚ)
      (deliveryPartnerId : Option ObjectId)
  | reconcileCodCash (orderId : ObjectId) (amount : ℚ) (deliveryPartnerId : Option ObjectId)
      (now : Date)

/-- The store after an operation; one that throws leaves it as it was. -/
def codStep (db : Db) : CodOp → Db
  | .handleCodOrderFinance orderId amount deliveryPartnerId =>
    commit db
      (DiscountBazar.Finance.handleCodOrderFinance db orderId amount deliveryPartnerId)
  | .reconcileCodCash orderId amount deliveryPartnerId now =>
    commit db
      (DiscountBazar.Finance.reconcileCodCash db orderId amount deliveryPartnerId now)

theorem codStep_cases (db : Db) (op : CodOp) :
    codStep db op = db ∨
    (∃ orderId amount deliveryPartnerId order partnerId,
      op = .handleCodOrderFinance orderId amount deliveryPartnerId ∧
      db.orders.get? orderId = some order ∧ Collects order amount deliveryPartnerId partnerId ∧
      codStep db op = db.collectCod order partnerId (codAmountGross order amount)) ∨
    (∃ orderId amount deliveryPartnerId now order partnerId,
      op = .reconcileCodCash orderId amount deliveryPartnerId now ∧
      db.orders.get? orderId = some order ∧ Remits db order amount deliveryPartnerId partnerId ∧
      codStep db op = db.remitCod order partnerId (roundCurrency amount) now) := by
  cases op with
  | handleCodOrderFinance orderId amount deliveryPartnerId =>
    have hstep : codStep db (.handleCodOrderFinance orderId amount deliveryPartnerId) = commit db
        (DiscountBazar.Finance.handleCodOrderFinance db orderId amount deliveryPartnerId) := rfl
    rw [hstep]
    cases h : DiscountBazar.Finance.handleCodOrderFinance db orderId amount deliveryPartnerId with
    | error e => exact .inl rfl
    | ok r =>
      obtain ⟨db', order'⟩ := r
      obtain ⟨order, hget, ⟨-, -, -, rfl⟩ | ⟨partnerId, hc, rfl⟩⟩ :=
        handleCodOrderFinance_eq_ok.mp ⟨order', h⟩
      · exact .inl rfl
      · exact .inr (.inl ⟨orderId, amount, deliveryPartnerId, order, partnerId, rfl, hget,
          hc, rfl⟩)
  | reconcileCodCash orderId amount deliveryPartnerId now =>
    have hstep : codStep db (.reconcileCodCash orderId amount deliveryPartnerId now) = commit db
        (DiscountBazar.Finance.reconcileCodCash db orderId amount deliveryPartnerId now) := rfl
    rw [hstep]
    cases h : DiscountBazar.Finance.reconcileCodCash db orderId amount deliveryPartnerId now with
    | error e => exact .inl rfl
    | ok r =>
      obtain ⟨db', order'⟩ := r
      obtain ⟨order, partnerId, hget, hr, rfl⟩ := reconcileCodCash_eq_ok.mp ⟨order', h⟩
      exact .inr (.inr ⟨orderId, amount, deliveryPartnerId, now, order, partnerId, rfl,
        hget, hr, rfl⟩)

variable {db : Db} {deliveryPartnerId : Option ObjectId} {order : Order}

theorem codStep_collects {orderId : ObjectId} {amount : Option ℚ} {partnerId : ObjectId}
    (hget : db.orders.get? orderId = some order)
    (hc : Collects order amount deliveryPartnerId partnerId) :
    codStep db (.handleCodOrderFinance orderId amount deliveryPartnerId)
      = db.collectCod order partnerId (codAmountGross order amount) := by
  obtain ⟨order', h⟩ := handleCodOrderFinance_eq_ok.mpr
    ⟨order, hget, .inr ⟨partnerId, hc, rfl⟩⟩
  show commit db _ = _
  rw [h, commit_ok]

theorem codStep_remits {orderId : ObjectId} {amount : ℚ} {now : Date} {partnerId : ObjectId}
    (hget : db.orders.get? orderId = some order)
    (hr : Remits db order amount deliveryPartnerId partnerId) :
    codStep db (.reconcileCodCash orderId amount deliveryPartnerId now)
      = db.remitCod order partnerId (roundCurrency amount) now := by
  obtain ⟨order', h⟩ := reconcileCodCash_eq_ok.mpr ⟨order, partnerId, hget, hr, rfl⟩
  show commit db _ = _
  rw [h, commit_ok]

/-! ## The property and the condition -/

/-- What is outstanding on the orders whose cash this rider collected. A collection
stores its partner as the order's rider, so the rider of a collected order is its
collector. -/
def outstandingCash (db : Db) (rider : ObjectId) : ℤ :=
  db.orders.sum (fun order =>
    if order.financeFlags.codMarkedCollected = true ∧ order.deliveryBoy = some rider then
      order.paymentBreakdown.codPendingAmount
    else 0)

def CashMatches (db : Db) : Prop :=
  ∀ rider, (db.wallets (.deliveryPartner rider)).cashInHand = outstandingCash db rider

/-- A remittance that goes through moves the requested amount from the collector's cash to
the platform's available balance. -/
def MovesRequested (db : Db) : CodOp → Prop
  | .handleCodOrderFinance _ _ _ => True
  | .reconcileCodCash orderId amount deliveryPartnerId now =>
    ∀ order partnerId rider, db.orders.get? orderId = some order →
      Remits db order amount deliveryPartnerId partnerId → order.deliveryBoy = some rider →
      let db' := codStep db (.reconcileCodCash orderId amount deliveryPartnerId now)
      (db'.wallets (.deliveryPartner rider)).cashInHand
          = (db.wallets (.deliveryPartner rider)).cashInHand - roundCurrency amount ∧
        (db'.wallets .admin).availableBalance
          = (db.wallets .admin).availableBalance + roundCurrency amount

/-- A remittance that goes through is by the order's own rider, and a collection that goes
through stays within the clamp of the cash in hand. -/
def CollectorRemits (db : Db) : CodOp → Prop
  | .handleCodOrderFinance orderId amount deliveryPartnerId =>
    ∀ order partnerId, db.orders.get? orderId = some order →
      Collects order amount deliveryPartnerId partnerId →
      (db.wallets (.deliveryPartner partnerId)).cashInHand
        + codNet order (codAmountGross order amount) ≤ maxPaise
  | .reconcileCodCash orderId amount deliveryPartnerId _ =>
    ∀ order partnerId, db.orders.get? orderId = some order →
      Remits db order amount deliveryPartnerId partnerId → order.deliveryBoy = some partnerId

/-! ## Invariant -/

def FreshCod (order : Order) : Prop :=
  order.financeFlags.codMarkedCollected = false ∧
    order.paymentBreakdown.codCollectedAmount = 0 ∧
    order.paymentBreakdown.codRemittedAmount = 0

/-- An order whose cash is collected: somebody has it, and the three amounts agree. -/
structure CollectedCod (order : Order) : Prop where
  flag : order.financeFlags.codMarkedCollected = true
  rider : order.deliveryBoy ≠ none
  pending : order.paymentBreakdown.codPendingAmount
    = order.paymentBreakdown.codCollectedAmount - order.paymentBreakdown.codRemittedAmount
  nonneg : 0 ≤ order.paymentBreakdown.codPendingAmount

/-- Every order is in one of the two states, and no wallet's cash is above the clamp. -/
structure CodInv (db : Db) : Prop where
  orders : ∀ order ∈ db.orders.rows, FreshCod order ∨ CollectedCod order
  cash : ∀ owner, (db.wallets owner).cashInHand ≤ maxPaise

theorem codInv_fresh {orders : Table Order.id} (h : ∀ order ∈ orders.rows, FreshCod order) :
    CodInv (Db.fresh orders) := by
  refine ⟨fun order hmem => .inl (h order hmem), fun owner => ?_⟩
  simp [Wallet.empty, maxPaise]

theorem cashMatches_fresh {orders : Table Order.id} (h : ∀ order ∈ orders.rows, FreshCod order) :
    CashMatches (Db.fresh orders) := by
  intro rider
  have hzero : outstandingCash (Db.fresh orders) rider = orders.sum (fun _ => (0 : ℤ)) := by
    refine sum_congr (fun order hmem => ?_)
    rw [if_neg]
    rintro ⟨hflag, -⟩
    rw [(h order hmem).1] at hflag
    exact Bool.false_ne_true hflag
  rw [hzero]
  simp [sum, Wallet.empty]

theorem withCash_le {wallet : Wallet} (h : wallet.cashInHand ≤ maxPaise) (delta : ℤ) :
    (wallet.withCash delta).cashInHand ≤ maxPaise := by
  unfold withCash
  split
  · exact h
  · exact min_le_right _ _

theorem withCash_exact {wallet : Wallet} {delta : ℤ} (hlow : 0 ≤ wallet.cashInHand + delta)
    (hhigh : wallet.cashInHand + delta ≤ maxPaise) :
    (wallet.withCash delta).cashInHand = wallet.cashInHand + delta := by
  unfold withCash
  split
  · omega
  · rw [max_eq_left hlow, min_eq_left hhigh]

/-! ## Steps -/

def cashShare (rider : ObjectId) (order : Order) : ℤ :=
  if order.financeFlags.codMarkedCollected = true ∧ order.deliveryBoy = some rider then
    order.paymentBreakdown.codPendingAmount
  else 0

theorem outstandingCash_eq (db : Db) (rider : ObjectId) :
    outstandingCash db rider = db.orders.sum (cashShare rider) := rfl

section Steps

variable {db : Db} {orderId : ObjectId} {order : Order}

theorem mem_of_getOrder (hget : db.orders.get? orderId = some order) :
    order ∈ db.orders.rows ∧ db.orders.get? order.id = some order := by
  refine ⟨mem_of_get? hget, ?_⟩
  rw [key_of_get? hget]
  exact hget

theorem outstandingCash_saveOrder (db' : Db) (order' : Order)
    (hget : db.orders.get? orderId = some order) (hid : order'.id = order.id)
    (horders : db'.orders = db.orders.set order') (rider : ObjectId) :
    outstandingCash db' rider + cashShare rider order
      = outstandingCash db rider + cashShare rider order' := by
  rw [outstandingCash_eq, outstandingCash_eq, horders]
  refine sum_set ?_ _
  rw [hid]
  exact (mem_of_getOrder hget).2

/-- A collection adds its net amount to the collector's outstanding cash only. -/
theorem outstandingCash_collect (hget : db.orders.get? orderId = some order)
    (hfresh : FreshCod order) (partnerId : ObjectId) (gross : ℤ) (rider : ObjectId) :
    outstandingCash (db.collectCod order partnerId gross) rider
      = outstandingCash db rider + if rider = partnerId then codNet order gross else 0 := by
  have hmove := outstandingCash_saveOrder (db.collectCod order partnerId gross)
    (order.cashCollected partnerId gross) hget rfl rfl rider
  have hold : cashShare rider order = 0 := by
    unfold cashShare
    rw [hfresh.1]
    exact if_neg (fun h => Bool.false_ne_true h.1)
  have hnew : cashShare rider (order.cashCollected partnerId gross)
      = if rider = partnerId then codNet order gross else 0 := by
    unfold cashShare
    simp only [cashCollected, hfresh.2.1, hfresh.2.2, zero_add, sub_zero, true_and,
      some.injEq]
    simp only [eq_comm]
  rw [hold, hnew, add_zero] at hmove
  exact hmove

theorem outstandingCash_remit (hget : db.orders.get? orderId = some order)
    (hcollected : CollectedCod order) {collector : ObjectId}
    (hcollector : order.deliveryBoy = some collector) (partnerId : ObjectId) (requested : ℤ)
    (now : Date) (rider : ObjectId) :
    outstandingCash (db.remitCod order partnerId requested now) rider
      = outstandingCash db rider - if rider = collector then requested else 0 := by
  have hmove := outstandingCash_saveOrder (db.remitCod order partnerId requested now)
    (order.cashRemitted requested now) hget rfl rfl rider
  have hpending := hcollected.pending
  by_cases hr : rider = collector
  · have hold : cashShare rider order = order.paymentBreakdown.codPendingAmount := by
      unfold cashShare
      rw [if_pos ⟨hcollected.flag, by rw [hcollector, hr]⟩]
    have hnew : cashShare rider (order.cashRemitted requested now)
        = order.paymentBreakdown.codPendingAmount - requested := by
      unfold cashShare
      rw [if_pos ⟨hcollected.flag, by rw [← hr] at hcollector; exact hcollector⟩]
      simp only [cashRemitted]
      omega
    rw [hold, hnew] at hmove
    rw [if_pos hr]
    omega
  · have hold : cashShare rider order = 0 := by
      unfold cashShare
      refine if_neg (fun h => hr ?_)
      rw [hcollector] at h
      exact (some.inj h.2).symm
    have hnew : cashShare rider (order.cashRemitted requested now) = 0 := by
      unfold cashShare
      refine if_neg (fun h => hr ?_)
      have h2 : order.deliveryBoy = some rider := h.2
      rw [hcollector] at h2
      exact (some.inj h2).symm
    rw [hold, hnew] at hmove
    rw [if_neg hr]
    omega

variable {deliveryPartnerId : Option ObjectId}

theorem collected_of_remits (h : CodInv db) (hget : db.orders.get? orderId = some order)
    {amount : ℚ} {partnerId : ObjectId} (hr : Remits db order amount deliveryPartnerId partnerId) :
    CollectedCod order := by
  rcases h.orders order (mem_of_getOrder hget).1 with hfresh | hcollected
  · obtain ⟨-, -, hpos, hle, -⟩ := hr
    rw [hfresh.2.1, hfresh.2.2] at hle
    omega
  · exact hcollected

theorem fresh_of_collects (h : CodInv db) (hget : db.orders.get? orderId = some order)
    {amount : Option ℚ} {partnerId : ObjectId}
    (hc : Collects order amount deliveryPartnerId partnerId) : FreshCod order := by
  rcases h.orders order (mem_of_getOrder hget).1 with hfresh | hcollected
  · exact hfresh
  · have hflag := hc.2.2.1
    rw [hcollected.flag] at hflag
    cases hflag

end Steps

theorem pending_le_outstanding (h : CodInv db) (hmem : order ∈ db.orders.rows)
    (hcollected : CollectedCod order) {rider : ObjectId} (hrider : order.deliveryBoy = some rider) :
    order.paymentBreakdown.codPendingAmount ≤ outstandingCash db rider := by
  have hnonneg : ∀ o ∈ db.orders.rows, 0 ≤ cashShare rider o := by
    intro o ho
    unfold cashShare
    split
    · rename_i hflag
      rcases h.orders o ho with hfresh | hc
      · rw [hfresh.1] at hflag
        exact absurd hflag.1 Bool.false_ne_true
      · exact hc.nonneg
    · exact le_refl 0
  have hle := le_sum hnonneg hmem
  rw [outstandingCash_eq]
  unfold cashShare at hle ⊢
  rwa [if_pos ⟨hcollected.flag, hrider⟩] at hle

theorem outstandingCash_nonneg (h : CodInv db) (rider : ObjectId) :
    0 ≤ outstandingCash db rider := by
  rw [outstandingCash_eq]
  refine sum_nonneg (fun o ho => ?_)
  unfold cashShare
  split
  · rename_i hflag
    rcases h.orders o ho with hfresh | hc
    · rw [hfresh.1] at hflag
      exact absurd hflag.1 Bool.false_ne_true
    · exact hc.nonneg
  · exact le_refl 0

theorem codInv_step (db : Db) (op : CodOp) (h : CodInv db) : CodInv (codStep db op) := by
  rcases codStep_cases db op with heq | ⟨orderId, amount, dp, order, partnerId, -, hget, hc, heq⟩ |
    ⟨orderId, amount, dp, now, order, partnerId, -, hget, hr, heq⟩
  · rw [heq]
    exact h
  · rw [heq]
    have hfresh := fresh_of_collects h hget hc
    have hnet : 0 ≤ codNet order (codAmountGross order amount) := le_max_right _ _
    constructor
    · intro o ho
      rcases mem_set.mp ho with ⟨ho, -⟩ | ⟨rfl, -⟩
      · exact h.orders o ho
      · refine .inr ⟨rfl, some_ne_none partnerId, rfl, ?_⟩
        simp only [cashCollected, hfresh.2.1, hfresh.2.2]
        omega
    · intro owner
      simp only [Db.collectCod, Db.saveOrder_wallets, Db.audit_wallets, Db.appendLedger_wallets,
        Db.saveWallet_wallets, update_apply]
      split
      · exact withCash_le (h.cash _) _
      · exact h.cash owner
  · rw [heq]
    have hcollected := collected_of_remits h hget hr
    have hpending := hcollected.pending
    constructor
    · intro o ho
      rcases mem_set.mp ho with ⟨ho, -⟩ | ⟨rfl, -⟩
      · exact h.orders o ho
      · refine .inr ⟨hcollected.flag, hcollected.rider, rfl, ?_⟩
        have hle := hr.2.2.2.1
        simp only [cashRemitted]
        omega
    · intro owner
      simp only [Db.remitCod, Db.remitWallets, Db.saveOrder_wallets, Db.audit_wallets,
        Db.appendLedger_wallets, Db.saveWallet_wallets, update_apply]
      split
      · exact h.cash _
      · split
        · exact withCash_le (h.cash _) _
        · exact h.cash owner

theorem collectCod_cash (db : Db) (order : Order) (partnerId : ObjectId) (gross : ℤ)
    (rider : ObjectId) :
    ((db.collectCod order partnerId gross).wallets (.deliveryPartner rider)).cashInHand
      = if rider = partnerId then
          ((db.wallets (.deliveryPartner partnerId)).withCash (codNet order gross)).cashInHand
        else (db.wallets (.deliveryPartner rider)).cashInHand := by
  simp only [Db.collectCod, Db.saveOrder_wallets, Db.audit_wallets, Db.appendLedger_wallets,
    Db.saveWallet_wallets, update_apply, Owner.deliveryPartner.injEq]
  split <;> rfl

theorem remitCod_cash (db : Db) (order : Order) (partnerId : ObjectId) (requested : ℤ)
    (now : Date) (rider : ObjectId) :
    ((db.remitCod order partnerId requested now).wallets (.deliveryPartner rider)).cashInHand
      = if rider = partnerId then
          ((db.wallets (.deliveryPartner partnerId)).withCash (-requested)).cashInHand
        else (db.wallets (.deliveryPartner rider)).cashInHand := by
  simp only [Db.remitCod, Db.remitWallets, Db.saveOrder_wallets, Db.audit_wallets,
    Db.appendLedger_wallets, Db.saveWallet_wallets, update_apply,
    Owner.deliveryPartner.injEq, reduceCtorEq, if_false]
  split <;> rfl

theorem cashMatches_step (db : Db) (op : CodOp) (hinv : CodInv db) (hmatch : CashMatches db) :
    CashMatches (codStep db op) ↔ CollectorRemits db op := by
  cases op with
  | handleCodOrderFinance orderId amount dp =>
    by_cases hcollect : ∃ order partnerId, db.orders.get? orderId = some order ∧
        Collects order amount dp partnerId
    · obtain ⟨order, partnerId, hget, hc⟩ := hcollect
      have hfresh := fresh_of_collects hinv hget hc
      have hnet : 0 ≤ codNet order (codAmountGross order amount) := le_max_right _ _
      have hcash := hmatch partnerId
      have hnonneg := outstandingCash_nonneg hinv partnerId
      have hmax := hinv.cash (.deliveryPartner partnerId)
      rw [codStep_collects hget hc]
      constructor
      · intro h order' partnerId' hget' hc'
        obtain rfl : order = order' := some.inj (hget.symm.trans hget')
        obtain rfl : partnerId = partnerId' :=
          some.inj (hc.2.2.2.1.symm.trans hc'.2.2.2.1)
        have hafter := h partnerId
        rw [collectCod_cash, outstandingCash_collect hget hfresh, if_pos rfl, if_pos rfl] at hafter
        rw [hcash, ← hafter]
        exact withCash_le hmax _
      · intro h rider
        have hle := h order partnerId hget hc
        rw [collectCod_cash, outstandingCash_collect hget hfresh]
        split
        · rename_i hr
          rw [withCash_exact (by omega) hle, hcash, hr]
        · rw [hmatch rider, add_zero]
    · have hstay : codStep db (.handleCodOrderFinance orderId amount dp) = db := by
        rcases codStep_cases db (.handleCodOrderFinance orderId amount dp) with
          heq | ⟨_, _, _, order, partnerId, ⟨⟩, hget, hc, -⟩ | ⟨_, _, _, _, _, _, ⟨⟩, -⟩
        · exact heq
        · exact absurd ⟨order, partnerId, hget, hc⟩ hcollect
      rw [hstay]
      refine iff_of_true hmatch (fun order partnerId hget hc => ?_)
      exact absurd ⟨order, partnerId, hget, hc⟩ hcollect
  | reconcileCodCash orderId amount dp now =>
    by_cases hremit : ∃ order partnerId, db.orders.get? orderId = some order ∧
        Remits db order amount dp partnerId
    · obtain ⟨order, partnerId, hget, hr⟩ := hremit
      have hcollected := collected_of_remits hinv hget hr
      obtain ⟨collector, hcollector⟩ := ne_none_iff_exists'.mp hcollected.rider
      have hpos := hr.2.2.1
      have hle := hr.2.2.2.1
      rw [codStep_remits hget hr]
      constructor
      · intro h order' partnerId' hget' hr'
        obtain rfl : order = order' := some.inj (hget.symm.trans hget')
        obtain rfl : partnerId = partnerId' := some.inj (hr.1.symm.trans hr'.1)
        by_contra hne
        have hother : collector ≠ partnerId := by
          rintro rfl
          exact hne hcollector
        have hafter := h collector
        have hbefore := hmatch collector
        rw [remitCod_cash, outstandingCash_remit hget hcollected hcollector, if_neg hother,
          if_pos rfl] at hafter
        omega
      · intro h rider
        have hown := h order partnerId hget hr
        obtain rfl : collector = partnerId := some.inj (hcollector.symm.trans hown)
        have hpending := pending_le_outstanding hinv (mem_of_getOrder hget).1 hcollected
          hcollector
        rw [hcollected.pending] at hpending
        have hcash := hmatch collector
        have hmax := hinv.cash (.deliveryPartner collector)
        rw [remitCod_cash, outstandingCash_remit hget hcollected hcollector]
        split
        · rename_i hrc
          rw [withCash_exact (by omega) (by omega), hcash, hrc]
          omega
        · rw [hmatch rider, sub_zero]
    · have hstay : codStep db (.reconcileCodCash orderId amount dp now) = db := by
        rcases codStep_cases db (.reconcileCodCash orderId amount dp now) with
          heq | ⟨_, _, _, _, _, ⟨⟩, -⟩ | ⟨_, _, _, _, order, partnerId, ⟨⟩, hget, hr, -⟩
        · exact heq
        · exact absurd ⟨order, partnerId, hget, hr⟩ hremit
      rw [hstay]
      refine iff_of_true hmatch (fun order partnerId hget hr => ?_)
      exact absurd ⟨order, partnerId, hget, hr⟩ hremit

theorem movesRequested_of_collector (db : Db) (op : CodOp) (h : CashMatches db ∧ CodInv db)
    (hop : CollectorRemits db op) : MovesRequested db op := by
  obtain ⟨hmatch, hinv⟩ := h
  cases op with
  | handleCodOrderFinance orderId amount dp => trivial
  | reconcileCodCash orderId amount dp now =>
    intro order partnerId rider hget hr hrider
    have hown := hop order partnerId hget hr
    obtain rfl : rider = partnerId := some.inj (hrider.symm.trans hown)
    have hcollected := collected_of_remits hinv hget hr
    have hpending := pending_le_outstanding hinv (mem_of_getOrder hget).1 hcollected hrider
    rw [hcollected.pending] at hpending
    have hle := hr.2.2.2.1
    have hpos := hr.2.2.1
    have hcash := hmatch rider
    have hmax := hinv.cash (.deliveryPartner rider)
    intro db'
    have hdb' : db' = db.remitCod order rider (roundCurrency amount) now :=
      codStep_remits hget hr
    rw [hdb']
    constructor
    · rw [remitCod_cash, if_pos rfl, withCash_exact (by omega) (by omega)]
      omega
    · simp only [Db.remitCod, Db.remitWallets, Db.saveOrder_wallets, Db.audit_wallets,
        Db.appendLedger_wallets, Db.saveWallet_wallets, update_self, credited,
        setBalance_available, balance_available]

/-! ## Main result -/

/-- From orders whose cash is not collected yet: along a run every rider's cash is what is
outstanding on the orders that rider collected, and every remittance moves what was
requested, exactly when each remittance is by the collector and each collection stays
within the clamp. -/
theorem cod_cash_conserved_iff (orders : Table Order.id)
    (hfresh : ∀ order ∈ orders.rows, FreshCod order) (ops : List CodOp) :
    (Along codStep CashMatches (Db.fresh orders) ops ∧
        Guarded codStep MovesRequested (Db.fresh orders) ops) ↔
      Guarded codStep CollectorRemits (Db.fresh orders) ops := by
  have hinv := codInv_fresh hfresh
  have hmatch := cashMatches_fresh hfresh
  have hiff : Along codStep CashMatches (Db.fresh orders) ops ↔
      Guarded codStep CollectorRemits (Db.fresh orders) ops :=
    along_iff_guarded (fun db op h _ _ => codInv_step db op h) cashMatches_step hinv hmatch ops
  constructor
  · rintro ⟨halong, -⟩
    exact hiff.mp halong
  · intro hok
    have halong := hiff.mpr hok
    have hboth := halong.and (along_of_step codInv_step hinv ops)
    exact ⟨halong, hboth.guarded movesRequested_of_collector hok⟩

def twoCodOrders : Table Order.id :=
  ⟨[{ placed 1 5 (some 7) (some 9) .cod (PaymentBreakdown.placed 10000 8000 1000 500 0) with
        status := .delivered },
    { placed 2 5 (some 7) (some 11) .cod (PaymentBreakdown.placed 10000 8000 1000 500 0) with
        status := .delivered }], by decide⟩

theorem twoCodOrders_fresh : ∀ order ∈ twoCodOrders.rows, FreshCod order := by
  intro order hmem
  simp only [twoCodOrders, List.mem_cons, List.not_mem_nil, or_false] at hmem
  rcases hmem with rfl | rfl
  · exact ⟨rfl, rfl, rfl⟩
  · exact ⟨rfl, rfl, rfl⟩

/-- A collection alone meets the condition. -/
theorem cod_cash_conserved_one :
    (∀ order ∈ twoCodOrders.rows, FreshCod order) ∧
      (Along codStep CashMatches (Db.fresh twoCodOrders)
          [.handleCodOrderFinance 1 none none] ∧
        Guarded codStep MovesRequested (Db.fresh twoCodOrders)
          [.handleCodOrderFinance 1 none none]) := by
  refine ⟨twoCodOrders_fresh,
    (cod_cash_conserved_iff twoCodOrders twoCodOrders_fresh _).mpr ⟨?_, trivial⟩⟩
  intro order partnerId hget hc
  have hnet : codNet order (codAmountGross order none) ≤ maxPaise := by
    have horder : order = { placed 1 5 (some 7) (some 9) .cod
        (PaymentBreakdown.placed 10000 8000 1000 500 0) with status := .delivered } := by
      have hfound : (Db.fresh twoCodOrders).orders.get? 1 = some _ := rfl
      exact (some.inj (hfound.symm.trans hget)).symm
    rw [horder]
    decide +kernel
  simpa [Wallet.empty] using hnet

/-- Rider 9 collects order 1, and the remittance of order 1 names rider 11: the platform is
credited 90 rupees, nobody's cash goes down, and rider 9 holds 90 rupees with nothing
outstanding. -/
theorem cod_remittance_by_another_rider :
    let db := exec codStep (Db.fresh twoCodOrders)
      [.handleCodOrderFinance 1 none none, .reconcileCodCash 1 90 (some 11) 0]
    ¬ CashMatches db ∧
      (db.wallets (.deliveryPartner 9)).cashInHand = 9000 ∧ outstandingCash db 9 = 0 ∧
      (db.wallets (.deliveryPartner 11)).cashInHand = 0 ∧
      (db.wallets .admin).availableBalance = 9000 := by
  intro db
  have hcash : (db.wallets (.deliveryPartner 9)).cashInHand = 9000 := by decide +kernel
  have hout : outstandingCash db 9 = 0 := by decide +kernel
  refine ⟨fun h => ?_, hcash, hout, by decide +kernel, by decide +kernel⟩
  have h9 := h 9
  rw [hcash, hout] at h9
  omega

end DiscountBazar.Finance
