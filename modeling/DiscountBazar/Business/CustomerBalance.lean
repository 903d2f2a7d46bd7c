/-
The balance of a customer of the counter.

The rows of a bill are written for the customer that it has, and an edit voids them and writes them
anew. A bill with returns is not edited any more, so a refund that was adjusted against credit stays
with the customer of its bill.
-/
import DiscountBazar.Business.CreditSales
import DiscountBazar.Business.SupplierBalance

namespace DiscountBazar.Business

open Transaction Pos Table PartyLedgerEntry List

/-! ## The balance -/

def owedBy (customer : ObjectId) (b : CreditBill) : ℚ :=
  if b.posPaymentMethod = .credit ∧ b.bill.posCustomer = some customer then
    fromPaise b.grandTotal - fromPaise b.posAmountPaid
  else 0

def customerOf (t : Till) (r : BillReturn) : Option ObjectId :=
  (t.bills.get? r.order).bind (fun b => b.bill.posCustomer)

/-- What returns have taken off a customer's credit. -/
def creditRefunds (t : Till) (customer : ObjectId) : ℚ :=
  t.returns.sum (fun r =>
    if r.doc.refundMethod = .credit ∧ customerOf t r = some customer then (r.doc.refundTotal : ℚ) else 0)

/-- What a row adds to the balance of one customer. -/
def signedFor (customer : ObjectId) (e : PartyLedgerEntry) : ℚ :=
  if e.isOf .customer customer then e.signed else 0

/-- Every customer's balance is what the bills on credit leave to be paid, less refunds and payments;
and the voided rows of every bill cancel out, as a whole and for every customer. -/
structure Settled (t : Till) : Prop where
  net : ∀ customer, ledgerNet t.shop.ledger .customer customer
    = t.bills.sum (owedBy customer) - creditRefunds t customer
      - recordedPayments t.shop.ledger .customer customer
  voided : ∀ b ∈ t.bills.rows,
    voidedTotal signed t.shop.ledger (.order b.id) = 0 ∧
      ∀ customer, voidedTotal (signedFor customer) t.shop.ledger (.order b.id) = 0

/-! ## The rows of a bill -/

section Rows

variable {b : CreditBill}

theorem mem_creditRows {date : Date} {e : PartyLedgerEntry} (he : e ∈ creditRows b date) :
    e.party = b.bill.posCustomer ∧ e.ref = some (.order b.id) ∧ e.voided = false := by
  unfold creditRows at he
  dsimp only at he
  split at he
  · rcases mem_cons.mp he with rfl | he
    · exact ⟨rfl, rfl, rfl⟩
    · split at he
      · cases mem_singleton.mp he
        exact ⟨rfl, rfl, rfl⟩
      · cases he
  · cases he

theorem ledgerNet_creditRows (hpaid : 0 ≤ b.posAmountPaid) (date : Date) (customer : ObjectId) :
    ledgerNet (creditRows b date) .customer customer = owedBy customer b := by
  by_cases hcustomer : b.bill.posCustomer = some customer
  · unfold creditRows owedBy
    dsimp only
    by_cases hcredit : b.posPaymentMethod = .credit
    · have hboth : b.posPaymentMethod = .credit ∧ b.bill.posCustomer = some customer :=
        ⟨hcredit, hcustomer⟩
      rw [if_pos hcredit, if_pos hboth]
      by_cases hpos : 0 < b.posAmountPaid
      · rw [if_pos hpos]
        simp [ledgerNet_cons, isOf, signed, hcustomer, sub_eq_add_neg]
      · have hzero : b.posAmountPaid = 0 := le_antisymm (not_lt.mp hpos) hpaid
        rw [if_neg hpos, hzero]
        simp [ledgerNet_cons, isOf, signed, hcustomer, fromPaise]
    · rw [if_neg hcredit, if_neg fun h => hcredit h.1]
      rfl
  · have hother : owedBy customer b = 0 := if_neg fun h => hcustomer h.2
    rw [hother]
    refine ledgerNet_of_others fun e he => ?_
    simp [isOf, (mem_creditRows he).1, hcustomer]

theorem liveRows_creditRows_self (b : CreditBill) (date : Date) :
    liveRows (creditRows b date) (.order b.id) = creditRows b date :=
  filter_eq_self.mpr fun _ he => decide_eq_true (mem_creditRows he).2

theorem liveRows_creditRows_other {id : ObjectId} (h : b.id ≠ id) (date : Date) :
    liveRows (creditRows b date) (.order id) = [] := by
  refine liveRows_other fun e he href => h ?_
  rw [(mem_creditRows he).2.1] at href
  exact EntryRef.order.inj (Option.some.inj href)

theorem mem_refundRows {customer : Option ObjectId} {r : BillReturn} {now : Date}
    {e : PartyLedgerEntry} (he : e ∈ refundRows customer r now) :
    e.ref = some (.posReturn r.id) ∧ e.voided = false := by
  unfold refundRows at he
  split at he
  · cases mem_singleton.mp he
    exact ⟨rfl, rfl⟩
  · cases he

theorem ledgerNet_refundRows (customer : Option ObjectId) (r : BillReturn) (now : Date)
    (party : ObjectId) :
    ledgerNet (refundRows customer r now) .customer party
      = -(if r.doc.refundMethod = .credit ∧ customer = some party then (r.doc.refundTotal : ℚ)
          else 0) := by
  unfold refundRows
  by_cases hcredit : r.doc.refundMethod = .credit
  · rw [if_pos hcredit]
    by_cases hcustomer : customer = some party
    · simp [ledgerNet_cons, isOf, signed, hcredit, hcustomer]
    · simp [ledgerNet_cons, isOf, hcustomer]
  · rw [if_neg hcredit, if_neg fun h => hcredit h.1]
    simp

theorem signedFor_void (customer : ObjectId) (ref : EntryRef) (e : PartyLedgerEntry) :
    signedFor customer (e.void ref) = signedFor customer e := by
  unfold signedFor
  rw [isOf_void, signed_void]

theorem signedFor_mirror (customer : ObjectId) (e : PartyLedgerEntry) :
    signedFor customer e.mirror = -signedFor customer e := by
  have hof : e.mirror.isOf .customer customer = e.isOf .customer customer := rfl
  unfold signedFor
  rw [hof, signed_mirror]
  split
  · rfl
  · exact neg_zero.symm

end Rows

/-! ## What is paid -/

theorem resolvePosPayment_nonneg {method : PosMethod} {total : ℤ} {amountPaid : ℚ}
    {payments : List (PosMethod × ℚ)} {cashTendered : Option ℚ} {paid : PosPaid}
    (htotal : 0 ≤ total) (hamount : 0 ≤ amountPaid)
    (h : resolvePosPayment method total amountPaid payments cashTendered = .ok paid) :
    0 ≤ paid.posAmountPaid := by
  unfold resolvePosPayment at h
  split at h
  · split at h
    · rw [ite_throw_eq_ok] at h
      rw [pure_eq_ok.mp h.2]
      exact htotal
    · rw [pure_eq_ok.mp h]
      exact htotal
  · rw [pure_eq_ok.mp h]
    exact le_min (roundCurrency_nonneg hamount) htotal
  · unfold resolveSplit at h
    dsimp only at h
    rw [ite_throw_eq_ok, ite_throw_eq_ok] at h
    rw [pure_eq_ok.mp h.2.2]
    exact htotal
  · rw [pure_eq_ok.mp h]
    exact htotal

/-! ## Operations -/

section Spec

variable {t t' : Till}

variable {others : Except ServiceError Unit}

theorem createPosSale_eq_ok {payload : PosPayload} {p : PaymentPayload} {couponDiscount : ℚ}
    {now : Date} (h : createPosSale t payload p couponDiscount others now = .ok t') :
    ∃ b : CreditBill, b.id ∉ t.bills.rows.map CreditBill.id ∧ Billed b.bill ∧ 0 ≤ b.posAmountPaid ∧
      b.createdAt = now ∧ t' = recordSale t b now := by
  unfold createPosSale at h
  simp only [bind_eq_ok] at h
  obtain ⟨-, -, bill, hbill, -, -, -, -, -, -, paid, hpaid, h⟩ := h
  have hbilled : Billed bill := .sale hbill
  refine ⟨_, freshKey_notMem t.bills, hbilled, ?_, rfl, pure_eq_ok.mp h⟩
  exact resolvePosPayment_nonneg hbilled.grandTotal_nonneg (NNRat.coe_nonneg _) hpaid

theorem editPosSale_eq_ok {id : ObjectId} {payload : PosPayload} {p : PaymentPayload}
    (h : editPosSale t id payload p others = .ok t') :
    ∃ b edited : CreditBill, t.bills.get? edited.id = some b ∧ (∀ r ∈ t.returns.rows, r.order ≠ b.id) ∧
      (Billed b.bill → Billed edited.bill) ∧
      (Billed b.bill → 0 ≤ b.posAmountPaid → 0 ≤ edited.posAmountPaid) ∧ t' = rewriteSale t edited := by
  unfold editPosSale at h
  split at h
  · cases h
  next b hget =>
    have hid : b.id = id := key_of_get? hget
    rw [← hid] at hget
    simp only [bind_eq_ok, ite_throw_eq_ok] at h
    obtain ⟨-, -, hreturns, bill, hbill, -, -, -, -, -, -, paid, hpaid, h⟩ := h
    have hbilled : Billed b.bill → Billed bill := fun hb => .edit hb hbill
    rw [pure_eq_ok] at h
    refine ⟨b, { toPosPaid := paid, id := b.id, bill, createdAt := b.createdAt,
                 posPaymentMethod := p.posPaymentMethod.getD b.posPaymentMethod },
      hget, fun r hr horder => hreturns ?_, hbilled, fun hb hold => ?_, h⟩
    · exact any_eq_true.mpr ⟨r, hr, decide_eq_true horder⟩
    · refine resolvePosPayment_nonneg (hbilled hb).grandTotal_nonneg ?_ hpaid
      cases p.amountPaid with
      | none =>
        have hcast : (0 : ℚ) ≤ b.posAmountPaid := Int.cast_nonneg hold
        exact div_nonneg hcast (by norm_num)
      | some a => exact a.coe_nonneg

theorem createPosReturn_eq_ok {id : ObjectId} {known : ObjectId → Bool} {request : ReturnRequest}
    {now : Date} (h : createPosReturn t id known request now = .ok t') :
    ∃ (b : CreditBill) (r : BillReturn), t.bills.get? r.order = some b ∧
      r.id ∉ t.returns.rows.map BillReturn.id ∧ t' = recordRefund t b.bill.posCustomer r now := by
  unfold createPosReturn at h
  rw [bind_eq_ok] at h
  obtain ⟨-, -, h⟩ := h
  split at h
  · cases h
  next b hget =>
    have hid : b.id = id := key_of_get? hget
    rw [← hid] at hget
    rw [bind_eq_ok] at h
    obtain ⟨doc, -, h⟩ := h
    exact ⟨b, _, hget, freshKey_notMem t.returns, pure_eq_ok.mp h⟩

end Spec

/-! ## The invariant -/

/-- The live rows of the bills are those that the bills have now, every return is of a bill, and the
balances are as the bills say. -/
structure Kept (t : Till) : Prop where
  rows : ∀ id, liveRows t.shop.ledger (.order id)
    = (t.bills.get? id).elim [] (fun b => creditRows b b.createdAt)
  billed : ∀ b ∈ t.bills.rows, Billed b.bill ∧ 0 ≤ b.posAmountPaid
  returns : ∀ r ∈ t.returns.rows, ∃ b, t.bills.get? r.order = some b
  net : ∀ customer, ledgerNet t.shop.ledger .customer customer
    = t.bills.sum (owedBy customer) - creditRefunds t customer
      - recordedPayments t.shop.ledger .customer customer
  voided : ∀ id, voidedTotal signed t.shop.ledger (.order id) = 0 ∧
    ∀ customer, voidedTotal (signedFor customer) t.shop.ledger (.order id) = 0

section Operations

variable {t : Till} {b edited : CreditBill}

theorem creditRefunds_congr {t' : Till} (hreturns : t'.returns = t.returns)
    (h : ∀ r ∈ t.returns.rows, customerOf t' r = customerOf t r) (customer : ObjectId) :
    creditRefunds t' customer = creditRefunds t customer := by
  unfold creditRefunds
  rw [hreturns]
  refine sum_congr fun r hr => ?_
  rw [h r hr]

theorem voided_append (h : ∀ id, voidedTotal signed t.shop.ledger (.order id) = 0 ∧
      ∀ customer, voidedTotal (signedFor customer) t.shop.ledger (.order id) = 0)
    {rows : PartyLedger} (hrows : ∀ e ∈ rows, e.voided = false) (id : ObjectId) :
    voidedTotal signed (t.shop.ledger ++ rows) (.order id) = 0 ∧
      ∀ customer, voidedTotal (signedFor customer) (t.shop.ledger ++ rows) (.order id) = 0 := by
  have hnone : ∀ e ∈ rows, e.isVoided (.order id) = false := fun e he => by
    simp [isVoided, hrows e he]
  constructor
  · rw [voidedTotal_append, voidedTotal_of_none hnone, (h id).1, add_zero]
  · intro customer
    rw [voidedTotal_append, voidedTotal_of_none hnone, (h id).2, add_zero]

theorem Kept.sale (h : Kept t) (hid : b.id ∉ t.bills.rows.map CreditBill.id) (hbilled : Billed b.bill)
    (hpaid : 0 ≤ b.posAmountPaid) : Kept (recordSale t b b.createdAt) := by
  constructor
  · intro id
    show liveRows (t.shop.ledger ++ creditRows b b.createdAt) _ = ((t.bills.insert b).get? id).elim _ _
    rw [liveRows_append, h.rows id]
    by_cases heq : b.id = id
    · rw [← heq, liveRows_creditRows_self, get?_insert_self hid, get?_eq_none_of_notMem hid]
      rfl
    · rw [liveRows_creditRows_other heq, get?_insert_ne hid heq, append_nil]
  · intro x hx
    rcases (mem_insert hid).mp hx with hx | rfl
    · exact h.billed x hx
    · exact ⟨hbilled, hpaid⟩
  · intro r hr
    obtain ⟨x, hx⟩ := h.returns r hr
    have hne : b.id ≠ r.order := fun heq => hid (heq ▸ mem_map.mpr
      ⟨x, mem_of_get? hx, key_of_get? hx⟩)
    exact ⟨x, (get?_insert_ne hid hne).trans hx⟩
  · intro customer
    have hreturns : (recordSale t b b.createdAt).returns = t.returns := rfl
    have hrefunds : creditRefunds (recordSale t b b.createdAt) customer = creditRefunds t customer := by
      refine creditRefunds_congr hreturns (fun r hr => ?_) customer
      obtain ⟨x, hx⟩ := h.returns r hr
      have hne : b.id ≠ r.order := fun heq => hid (heq ▸ mem_map.mpr
        ⟨x, mem_of_get? hx, key_of_get? hx⟩)
      unfold customerOf
      exact congrArg (Option.bind · _) (get?_insert_ne hid hne)
    have hsum : (t.bills.insert b).sum (owedBy customer) = t.bills.sum (owedBy customer)
        + owedBy customer b := sum_insert hid _
    have hpayments : recordedPayments (creditRows b b.createdAt) .customer customer = 0 :=
      recordedPayments_of_refs fun e he => by simp [(mem_creditRows he).2.1]
    rw [hrefunds]
    show ledgerNet (t.shop.ledger ++ creditRows b b.createdAt) _ _ = (t.bills.insert b).sum _
      - _ - recordedPayments (t.shop.ledger ++ creditRows b b.createdAt) _ _
    rw [ledgerNet_append, recordedPayments_append, hpayments, ledgerNet_creditRows hpaid, h.net, hsum]
    ring
  · exact voided_append h.voided fun e he => (mem_creditRows he).2.2

theorem Kept.liveNet (h : Kept t) (hget : t.bills.get? b.id = some b) (customer : ObjectId) :
    liveNet t.shop.ledger (.order b.id) .customer customer = owedBy customer b := by
  have hlive : t.shop.ledger.filter (isLive (.order b.id))
      = creditRows b b.createdAt := by
    have hrows := h.rows b.id
    rw [hget] at hrows
    exact hrows
  unfold DiscountBazar.Business.liveNet
  rw [hlive, ledgerNet_creditRows (h.billed b (mem_of_get? hget)).2]

theorem Kept.edit (h : Kept t) (hget : t.bills.get? edited.id = some b)
    (hreturns : ∀ r ∈ t.returns.rows, r.order ≠ b.id) (hbilled : Billed edited.bill)
    (hpaid : 0 ≤ edited.posAmountPaid) : Kept (rewriteSale t edited) := by
  have hid : b.id = edited.id := key_of_get? hget
  have hgetb : t.bills.get? b.id = some b := by
    rw [hid]
    exact hget
  constructor
  · intro id
    show liveRows (reverseLedgerEntries t.shop.ledger (.order edited.id)
      ++ creditRows edited edited.createdAt) _ = ((t.bills.set edited).get? id).elim _ _
    rw [liveRows_append]
    by_cases heq : edited.id = id
    · rw [← heq, liveRows_reverse_self, liveRows_creditRows_self, get?_set_self hget]
      rfl
    · have href : EntryRef.order edited.id ≠ .order id := fun hr => heq (EntryRef.order.inj hr)
      rw [liveRows_reverse_other href, liveRows_creditRows_other heq, get?_set_ne heq, h.rows id,
        append_nil]
  · intro x hx
    rcases mem_set.mp hx with ⟨hx, -⟩ | ⟨rfl, -⟩
    · exact h.billed x hx
    · exact ⟨hbilled, hpaid⟩
  · intro r hr
    have hne : edited.id ≠ r.order := fun heq => hreturns r hr (heq.symm.trans hid.symm)
    obtain ⟨x, hx⟩ := h.returns r hr
    exact ⟨x, (get?_set_ne hne).trans hx⟩
  · intro customer
    have hsame : (rewriteSale t edited).returns = t.returns := rfl
    have hrefunds : creditRefunds (rewriteSale t edited) customer = creditRefunds t customer := by
      refine creditRefunds_congr hsame (fun r hr => ?_) customer
      have hne : edited.id ≠ r.order := fun heq => hreturns r hr (heq.symm.trans hid.symm)
      unfold customerOf
      exact congrArg (Option.bind · _) (get?_set_ne hne)
    have hsum := sum_set hget (owedBy customer)
    have hpayments : recordedPayments (creditRows edited edited.createdAt) .customer customer = 0 :=
      recordedPayments_of_refs fun e he => by simp [(mem_creditRows he).2.1]
    have hlive := h.liveNet hgetb customer
    rw [hid] at hlive
    rw [hrefunds]
    show ledgerNet (reverseLedgerEntries t.shop.ledger (.order edited.id)
        ++ creditRows edited edited.createdAt) _ _ = (t.bills.set edited).sum _ - _
      - recordedPayments (reverseLedgerEntries t.shop.ledger (.order edited.id)
        ++ creditRows edited edited.createdAt) _ _
    rw [ledgerNet_append, ledgerNet_reverse, recordedPayments_append, recordedPayments_reverse,
      hpayments, hlive, ledgerNet_creditRows hpaid, h.net]
    linarith
  · intro id
    have hnone : ∀ e ∈ creditRows edited edited.createdAt, e.isVoided (.order id) = false := fun e he => by
      simp [isVoided, (mem_creditRows he).2.2]
    constructor
    · show voidedTotal _ (reverseLedgerEntries t.shop.ledger (.order edited.id) ++ _) _ = 0
      rw [voidedTotal_append, voidedTotal_of_none hnone, add_zero,
        voidedTotal_reverse (fun _ e => signed_void e) signed_mirror]
      exact (h.voided id).1
    · intro customer
      show voidedTotal _ (reverseLedgerEntries t.shop.ledger (.order edited.id) ++ _) _ = 0
      rw [voidedTotal_append, voidedTotal_of_none hnone, add_zero,
        voidedTotal_reverse (signedFor_void customer) (signedFor_mirror customer)]
      exact (h.voided id).2 customer

theorem Kept.refund (h : Kept t) {r : BillReturn} {now : Date} (hget : t.bills.get? r.order = some b)
    (hid : r.id ∉ t.returns.rows.map BillReturn.id) :
    Kept (recordRefund t b.bill.posCustomer r now) := by
  constructor
  · intro id
    have hother : liveRows (refundRows b.bill.posCustomer r now) (.order id) = [] :=
      liveRows_other fun e he => by simp [(mem_refundRows he).1]
    show liveRows (t.shop.ledger ++ refundRows b.bill.posCustomer r now) _ = _
    rw [liveRows_append, hother, append_nil]
    exact h.rows id
  · exact h.billed
  · intro x hx
    rcases (mem_insert hid).mp hx with hx | rfl
    · exact h.returns x hx
    · exact ⟨b, hget⟩
  · intro customer
    have hcustomer : customerOf t r = b.bill.posCustomer := by
      unfold customerOf
      rw [hget]
      rfl
    have hrefunds : creditRefunds (recordRefund t b.bill.posCustomer r now) customer
        = creditRefunds t customer
          + if r.doc.refundMethod = .credit ∧ b.bill.posCustomer = some customer then
              (r.doc.refundTotal : ℚ) else 0 := by
      rw [← hcustomer]
      exact sum_insert hid _
    have hpayments : recordedPayments (refundRows b.bill.posCustomer r now) .customer customer = 0 :=
      recordedPayments_of_refs fun e he => by simp [(mem_refundRows he).1]
    rw [hrefunds]
    show ledgerNet (t.shop.ledger ++ refundRows b.bill.posCustomer r now) _ _ = t.bills.sum _
      - _ - recordedPayments (t.shop.ledger ++ refundRows b.bill.posCustomer r now) _ _
    rw [ledgerNet_append, recordedPayments_append, hpayments, ledgerNet_refundRows, h.net]
    ring
  · exact voided_append h.voided fun e he => (mem_refundRows he).2

theorem Kept.pay (h : Kept t) (r : PaymentRequest) (now : Date) :
    Kept { t with shop := { t.shop with ledger := t.shop.ledger ++ [r.entry now] } } := by
  constructor
  · intro id
    have hother : liveRows [r.entry now] (.order id) = [] := by
      refine liveRows_other fun e he => ?_
      rw [mem_singleton.mp he]
      exact fun href => nomatch href
    show liveRows (t.shop.ledger ++ [r.entry now]) _ = _
    rw [liveRows_append, hother, append_nil]
    exact h.rows id
  · exact h.billed
  · exact h.returns
  · intro customer
    show ledgerNet (t.shop.ledger ++ [r.entry now]) _ _ = t.bills.sum _ - creditRefunds t customer
      - recordedPayments (t.shop.ledger ++ [r.entry now]) _ _
    rw [ledgerNet_append, recordedPayments_append, ledgerNet_payment, h.net]
    ring
  · refine voided_append h.voided fun e he => ?_
    rw [mem_singleton.mp he]
    rfl

end Operations

/-! ## Runs -/

theorem kept_step (t : Till) (op : TillOp) (h : Kept t) : Kept (tillStep t op) := by
  unfold tillStep
  split
  next t' hrun =>
    cases op with
    | createPosSale payload p couponDiscount others now =>
      obtain ⟨b, hid, hbilled, hpaid, rfl, rfl⟩ := createPosSale_eq_ok hrun
      exact h.sale hid hbilled hpaid
    | editPosSale id payload p others =>
      obtain ⟨b, edited, hget, hreturns, hbilled, hpaid, rfl⟩ := editPosSale_eq_ok hrun
      obtain ⟨hb, hold⟩ := h.billed b (mem_of_get? hget)
      exact h.edit hget hreturns (hbilled hb) (hpaid hb hold)
    | createPosReturn id known request now =>
      obtain ⟨b, r, hget, hid, rfl⟩ := createPosReturn_eq_ok hrun
      exact h.refund hget hid
    | recordPayment r now =>
      obtain ⟨shop, hpay, hrun⟩ := bind_eq_ok.mp hrun
      rw [pure_eq_ok.mp hrun]
      rcases recordPayment_eq_ok hpay with rfl | rfl
      · exact h
      · exact h.pay r now
    | elsewhere catalog settings isParty zone days =>
      rw [pure_eq_ok.mp hrun]
      exact ⟨h.rows, h.billed, h.returns, h.net, h.voided⟩
  next => exact h

def Till.opened (catalog : List PosProduct) (settings : PosSettings)
    (isParty : PartyType → ObjectId → Bool) (zone : Zone) (days : CashDays) : Till where
  shop := Shop.opened (fun _ => none) (fun _ => "") isParty zone days
  catalog := catalog
  settings := settings
  bills := empty
  returns := empty

/-- Along every run every customer's balance is what the bills on credit leave to be paid, less
refunds and payments, and the voided rows of every bill cancel out. -/
theorem customer_balance (catalog : List PosProduct) (settings : PosSettings)
    (isParty : PartyType → ObjectId → Bool) (zone : Zone) (days : CashDays) (ops : List TillOp) :
    Runs.Along tillStep Settled (Till.opened catalog settings isParty zone days) ops := by
  have hopened : Kept (Till.opened catalog settings isParty zone days) := by
    constructor
    · exact fun _ => rfl
    · exact fun b hb => nomatch hb
    · exact fun r hr => nomatch hr
    · intro customer
      simp [Till.opened, Shop.opened, creditRefunds, recordedPayments]
    · exact fun _ => ⟨rfl, fun _ => rfl⟩
  refine (Runs.along_of_step kept_step hopened ops).mono fun t h => ⟨h.net, fun b _ => h.voided b.id⟩

end DiscountBazar.Business
