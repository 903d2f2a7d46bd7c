/-
The balance of a supplier.

The rows of a bill are written for the supplier it has at that time, and an edit rewrites them. The
row of a return stays with the supplier that the return went to. So the balance of the ledger is
always that of the bills, less what was sent to the supplier, less the payments; and it is what the
bills and the returns against them come to as long as no bill with returns is given to another
supplier.
-/
import DiscountBazar.Business.PurchaseSteps

namespace DiscountBazar.Business

open Transaction Inventory Runs Table PartyLedgerEntry Option

/-! ## The balance -/

def owedOn (supplier : ObjectId) (b : PurchaseBill) : ℚ :=
  if b.status = .confirmed ∧ b.supplier = some supplier then fromPaise b.total - b.amountPaid else 0

def owedOnBills (s : Shop) (supplier : ObjectId) : ℚ := s.bills.sum (owedOn supplier)

def confirmedBill (s : Shop) (id : ObjectId) : Option PurchaseBill :=
  (s.bills.get? id).filter (fun b => decide (b.status = .confirmed))

/-- The supplier that a return counts for: the one its bill has now, or the one that it was made to
directly. -/
def supplierOf (s : Shop) (r : PurchaseReturn) : Option ObjectId :=
  match r.purchaseBill with
  | some id => (confirmedBill s id).bind PurchaseBill.supplier
  | none => r.supplier

def returnedTo (s : Shop) (supplier : ObjectId) : ℚ :=
  s.returns.sum (fun r => if supplierOf s r = some supplier then fromPaise r.total else 0)

/-- Every supplier's balance is what the bills leave to be paid, less returns and payments. -/
def Reconciled (s : Shop) : Prop :=
  ∀ supplier, ledgerNet s.ledger .supplier supplier
    = owedOnBills s supplier - returnedTo s supplier - recordedPayments s.ledger .supplier supplier

/-- The edit, if it goes through, leaves a confirmed bill that has returns of any worth with its
supplier. -/
def KeepsSupplier (s : Shop) : PurchaseOp → Prop
  | .updatePurchaseBill id p =>
    ∀ s', updatePurchaseBill s id p = .ok s' → ∀ bill ∈ confirmedBill s id,
      ∀ supplier, p.supplierId = some supplier → supplier = bill.supplier ∨
        s.returns.sum (fun r => if r.purchaseBill = some id then r.total else 0) = 0
  | _ => True

/-! ## The rows of a bill -/

variable {b : PurchaseBill}

theorem mem_billRows {e : PartyLedgerEntry} (he : e ∈ billRows b) :
    e.party = b.supplier ∧ e.ref = some (.purchaseBill b.id) ∧ e.voided = false := by
  unfold billRows at he
  rcases List.mem_append.mp he with he | he
  · split at he
    · cases List.mem_singleton.mp he
      exact ⟨rfl, rfl, rfl⟩
    · cases he
  · split at he
    · cases List.mem_singleton.mp he
      exact ⟨rfl, rfl, rfl⟩
    · cases he

theorem ledgerNet_billRows (hstatus : b.status = .confirmed) (hpaid : 0 ≤ b.amountPaid)
    (supplier : ObjectId) :
    ledgerNet (billRows b) .supplier supplier = owedOn supplier b := by
  by_cases hsupplier : b.supplier = some supplier
  · have hsome : b.supplier.isSome = true := by rw [hsupplier]; rfl
    have hboth : b.status = .confirmed ∧ b.supplier = some supplier := ⟨hstatus, hsupplier⟩
    unfold billRows owedOn
    rw [ledgerNet_append, if_pos hsome, if_pos hboth]
    by_cases hpos : 0 < b.amountPaid
    · rw [if_pos hpos]
      simp [ledgerNet_cons, isOf, signed, hsupplier, sub_eq_add_neg]
    · have hzero : b.amountPaid = 0 := le_antisymm (not_lt.mp hpos) hpaid
      rw [if_neg hpos, hzero]
      simp [ledgerNet_cons, isOf, signed, hsupplier]
  · have hother : owedOn supplier b = 0 := if_neg fun h => hsupplier h.2
    rw [hother]
    refine ledgerNet_of_others fun e he => ?_
    simp [isOf, (mem_billRows he).1, hsupplier]

theorem liveRows_billRows_self (b : PurchaseBill) :
    liveRows (billRows b) (.purchaseBill b.id) = billRows b :=
  List.filter_eq_self.mpr fun _ he => decide_eq_true (mem_billRows he).2

theorem liveRows_billRows_other {id : ObjectId} (h : b.id ≠ id) :
    liveRows (billRows b) (.purchaseBill id) = [] := by
  refine liveRows_other fun e he href => h ?_
  rw [(mem_billRows he).2.1] at href
  exact EntryRef.purchaseBill.inj (some.inj href)

theorem recordedPayments_billRows (b : PurchaseBill) (partyType : PartyType) (party : ObjectId) :
    recordedPayments (billRows b) partyType party = 0 :=
  recordedPayments_of_refs fun e he => by simp [(mem_billRows he).2.1]

/-! ## The invariant -/

/-- What was sent to a supplier, whoever has the bill now. -/
def sentTo (s : Shop) (supplier : ObjectId) : ℚ :=
  s.returns.sum (fun r => if r.supplier = some supplier then fromPaise r.total else 0)

/-- The live rows of the bills are those of the confirmed ones, a bill with returns is confirmed, and
the balances are as the rows say. -/
structure Booked (s : Shop) : Prop where
  rows : ∀ id, liveRows s.ledger (.purchaseBill id) = (confirmedBill s id).elim [] billRows
  paid : ∀ b ∈ s.bills.rows, 0 ≤ b.amountPaid
  returns : ∀ r ∈ s.returns.rows, ∀ id, r.purchaseBill = some id → (confirmedBill s id).isSome = true
  net : ∀ supplier, ledgerNet s.ledger .supplier supplier
    = owedOnBills s supplier - sentTo s supplier - recordedPayments s.ledger .supplier supplier

section Bills

variable {s : Shop} {bill edited : PurchaseBill}

theorem confirmedBill_eq_some {id : ObjectId} :
    confirmedBill s id = some bill ↔ s.bills.get? id = some bill ∧ bill.status = .confirmed := by
  unfold confirmedBill
  rw [filter_eq_some_iff, decide_eq_true_eq]

theorem confirmedBill_of_not {id : ObjectId} (hget : s.bills.get? id = some bill)
    (h : bill.status ≠ .confirmed) : confirmedBill s id = none := by
  unfold confirmedBill
  rw [hget, filter_some, if_neg (by simpa using h)]

theorem confirmedBill_saved {bills : Table PurchaseBill.id}
    (hget : s.bills.get? edited.id = some bill) (hbills : bills = s.bills.set edited) (id : ObjectId)
    {s' : Shop} (hs' : s'.bills = bills) :
    confirmedBill s' id
      = if id = edited.id then (some edited).filter (fun b => decide (b.status = .confirmed))
        else confirmedBill s id := by
  unfold confirmedBill
  rw [hs', hbills]
  split
  next hid =>
    rw [hid, get?_set_self hget]
  next hid => rw [get?_set_ne (fun h => hid h.symm)]

theorem owedOnBills_saved (hget : s.bills.get? edited.id = some bill) {s' : Shop}
    (hs' : s'.bills = s.bills.set edited) (supplier : ObjectId) :
    owedOnBills s' supplier
      = owedOnBills s supplier - owedOn supplier bill + owedOn supplier edited := by
  have hsum := sum_set hget (owedOn supplier)
  unfold owedOnBills
  rw [hs']
  linarith

theorem paid_saved (edited : PurchaseBill) {s' : Shop} (hs' : s'.bills = s.bills.set edited)
    (h : ∀ b ∈ s.bills.rows, 0 ≤ b.amountPaid) (hedited : 0 ≤ edited.amountPaid) :
    ∀ b ∈ s'.bills.rows, 0 ≤ b.amountPaid := by
  intro b hb
  rw [hs'] at hb
  rcases mem_set.mp hb with ⟨hb, -⟩ | ⟨rfl, -⟩
  · exact h b hb
  · exact hedited

theorem owedOn_of_not {b : PurchaseBill} (h : b.status ≠ .confirmed) (supplier : ObjectId) :
    owedOn supplier b = 0 :=
  if_neg fun hb => h hb.1

end Bills

/-! ## One write -/

section Writes

variable {s s' : Shop} {bill edited : PurchaseBill}

theorem Booked.saveBill (h : Booked s) (hget : s.bills.get? edited.id = some bill)
    (hstatus : bill.status ≠ .confirmed) (hedited : edited.status ≠ .confirmed)
    (hpaid : 0 ≤ edited.amountPaid) : Booked (saveBill s edited) := by
  have hsame : ∀ id, confirmedBill (DiscountBazar.Business.saveBill s edited) id = confirmedBill s id := by
    intro id
    rw [confirmedBill_saved hget rfl id rfl]
    split
    next hid =>
      rw [hid, confirmedBill_of_not hget hstatus, filter_some, if_neg (by simpa using hedited)]
    next => rfl
  constructor
  · intro id
    rw [hsame]
    exact h.rows id
  · exact paid_saved edited rfl h.paid hpaid
  · intro r hr id hid
    rw [hsame]
    exact h.returns r hr id hid
  · intro supplier
    rw [owedOnBills_saved hget rfl, owedOn_of_not hstatus, owedOn_of_not hedited, sub_zero, add_zero]
    exact h.net supplier

theorem Booked.book (h : Booked s) (hget : s.bills.get? bill.id = some bill)
    (hstatus : bill.status = .draft) (products : Products) :
    Booked (DiscountBazar.Business.saveBill (writeBillLedger { s with products } bill)
      { bill with status := .confirmed }) := by
  have hnot : bill.status ≠ .confirmed := by simp [hstatus]
  have hpaid : 0 ≤ bill.amountPaid := h.paid bill (mem_of_get? hget)
  have hget' : s.bills.get? ({ bill with status := .confirmed } : PurchaseBill).id = some bill := hget
  have hconfirmed : ∀ id, confirmedBill (DiscountBazar.Business.saveBill
      (writeBillLedger { s with products } bill) { bill with status := .confirmed }) id
        = if id = bill.id then some { bill with status := .confirmed } else confirmedBill s id :=
    fun id => confirmedBill_saved hget' rfl id rfl
  constructor
  · intro id
    have hrows := h.rows id
    show liveRows (s.ledger ++ billRows bill) _ = _
    rw [liveRows_append, hrows, hconfirmed]
    split
    next hid =>
      subst hid
      rw [confirmedBill_of_not hget hnot, liveRows_billRows_self]
      rfl
    next hid => rw [liveRows_billRows_other (fun h => hid h.symm), List.append_nil]
  · exact paid_saved { bill with status := .confirmed } rfl h.paid hpaid
  · intro r hr id hid
    rw [hconfirmed]
    split
    · rfl
    · exact h.returns r hr id hid
  · intro supplier
    have hnet := h.net supplier
    have hbill : ledgerNet (billRows bill) .supplier supplier
        = owedOn supplier { bill with status := .confirmed } :=
      ledgerNet_billRows (b := { bill with status := .confirmed }) rfl hpaid supplier
    rw [owedOnBills_saved hget' rfl, owedOn_of_not hnot]
    show ledgerNet (s.ledger ++ billRows bill) _ _ = _ - sentTo s supplier
      - recordedPayments (s.ledger ++ billRows bill) _ _
    rw [ledgerNet_append, recordedPayments_append, recordedPayments_billRows, hbill, hnet]
    ring

theorem Booked.liveNet (h : Booked s) (hget : s.bills.get? bill.id = some bill)
    (hstatus : bill.status = .confirmed) (supplier : ObjectId) :
    liveNet s.ledger (.purchaseBill bill.id) .supplier supplier = owedOn supplier bill := by
  have hrows := h.rows bill.id
  rw [confirmedBill_eq_some.mpr ⟨hget, hstatus⟩] at hrows
  have hnet := ledgerNet_billRows hstatus (h.paid bill (mem_of_get? hget)) supplier
  rw [← hnet]
  exact congrArg (fun rows => ledgerNet rows .supplier supplier) hrows

theorem Booked.rebook (h : Booked s) (hid : edited.id = bill.id)
    (hget : s.bills.get? bill.id = some bill) (hstatus : bill.status = .confirmed)
    (hedited : edited.status = .confirmed) (hpaid : 0 ≤ edited.amountPaid) (products : Products) :
    Booked (writeBillLedger (DiscountBazar.Business.saveBill
      (clearBillLedger { s with products } bill) edited) edited) := by
  have hget' : s.bills.get? edited.id = some bill := by rw [hid]; exact hget
  have hconfirmed : ∀ id, confirmedBill (writeBillLedger (DiscountBazar.Business.saveBill
      (clearBillLedger { s with products } bill) edited) edited) id
        = if id = edited.id then some edited else confirmedBill s id := by
    intro id
    rw [confirmedBill_saved hget' rfl id rfl, filter_some, if_pos (decide_eq_true hedited)]
  constructor
  · intro id
    show liveRows (reverseLedgerEntries s.ledger (.purchaseBill bill.id) ++ billRows edited) _ = _
    rw [liveRows_append, hconfirmed]
    by_cases hb : id = edited.id
    · rw [if_pos hb, hb, liveRows_billRows_self, hid, liveRows_reverse_self]
      rfl
    · have hother : EntryRef.purchaseBill bill.id ≠ .purchaseBill id := by
        intro heq
        refine hb ?_
        rw [hid]
        exact (EntryRef.purchaseBill.inj heq).symm
      rw [if_neg hb, liveRows_reverse_other hother, liveRows_billRows_other (fun h => hb h.symm),
        List.append_nil]
      exact h.rows id
  · exact paid_saved edited rfl h.paid hpaid
  · intro r hr id hr'
    rw [hconfirmed]
    split
    · rfl
    · exact h.returns r hr id hr'
  · intro supplier
    have hnet := h.net supplier
    rw [owedOnBills_saved hget' rfl]
    show ledgerNet (reverseLedgerEntries s.ledger (.purchaseBill bill.id) ++ billRows edited) _ _
      = _ - sentTo s supplier
        - recordedPayments (reverseLedgerEntries s.ledger (.purchaseBill bill.id) ++ billRows edited) _ _
    rw [ledgerNet_append, ledgerNet_reverse, h.liveNet hget hstatus, recordedPayments_append,
      recordedPayments_reverse, recordedPayments_billRows, ledgerNet_billRows hedited hpaid, hnet]
    ring

theorem Booked.unbook (h : Booked s) (hget : s.bills.get? bill.id = some bill)
    (hstatus : bill.status = .confirmed)
    (hreturns : ∀ r ∈ s.returns.rows, r.purchaseBill ≠ some bill.id) (products : Products) :
    Booked (DiscountBazar.Business.saveBill (clearBillLedger { s with products } bill)
      { bill with status := .cancelled }) := by
  have hget' : s.bills.get? ({ bill with status := .cancelled } : PurchaseBill).id = some bill := hget
  have hconfirmed : ∀ id, confirmedBill (DiscountBazar.Business.saveBill
      (clearBillLedger { s with products } bill) { bill with status := .cancelled }) id
        = if id = bill.id then none else confirmedBill s id :=
    fun id => confirmedBill_saved hget' rfl id rfl
  constructor
  · intro id
    show liveRows (reverseLedgerEntries s.ledger (.purchaseBill bill.id)) _ = _
    rw [hconfirmed]
    by_cases hb : id = bill.id
    · rw [if_pos hb, hb, liveRows_reverse_self]
      rfl
    · have hother : EntryRef.purchaseBill bill.id ≠ .purchaseBill id := by
        intro heq
        exact hb (EntryRef.purchaseBill.inj heq).symm
      rw [if_neg hb, liveRows_reverse_other hother]
      exact h.rows id
  · exact paid_saved { bill with status := .cancelled } rfl h.paid
      (h.paid bill (mem_of_get? hget))
  · intro r hr id hid
    rw [hconfirmed, if_neg]
    · exact h.returns r hr id hid
    · intro hb
      rw [hb] at hid
      exact hreturns r hr hid
  · intro supplier
    have hnet := h.net supplier
    have hcancelled : owedOn supplier { bill with status := .cancelled } = 0 := owedOn_of_not (by simp) _
    rw [owedOnBills_saved hget' rfl, hcancelled]
    show ledgerNet (reverseLedgerEntries s.ledger (.purchaseBill bill.id)) _ _
      = _ - sentTo s supplier - recordedPayments (reverseLedgerEntries s.ledger (.purchaseBill bill.id)) _ _
    rw [ledgerNet_reverse, h.liveNet hget hstatus, recordedPayments_reverse, hnet]
    ring

theorem ledgerNet_returnRows (r : PurchaseReturn) (supplier : ObjectId) :
    ledgerNet (returnRows r) .supplier supplier
      = -if r.supplier = some supplier then fromPaise r.total else 0 := by
  unfold returnRows
  cases hsupplier : r.supplier with
  | none => simp
  | some x =>
    by_cases hx : x = supplier
    · simp [ledgerNet_cons, isOf, signed, hx]
    · simp [ledgerNet_cons, isOf, hx]

variable {r : PurchaseReturn}

theorem mem_returnRows {e : PartyLedgerEntry} (he : e ∈ returnRows r) :
    e.ref = some (.purchaseReturn r.id) := by
  unfold returnRows at he
  split at he
  · cases he
  · cases List.mem_singleton.mp he
    rfl

theorem Booked.sendBack (h : Booked s) (hid : r.id ∉ s.returns.rows.map PurchaseReturn.id)
    (hbill : ∀ id, r.purchaseBill = some id → (confirmedBill s id).isSome = true)
    (products : Products) : Booked (recordReturn s products r) := by
  have hrows : ∀ e ∈ returnRows r, e.ref ≠ none := fun e he => by simp [mem_returnRows he]
  constructor
  · intro id
    have hother : liveRows (returnRows r) (.purchaseBill id) = [] :=
      liveRows_other fun e he => by simp [mem_returnRows he]
    show liveRows (s.ledger ++ returnRows r) _ = _
    rw [liveRows_append, hother, List.append_nil]
    exact h.rows id
  · exact h.paid
  · intro r' hr' id hid'
    rcases (mem_insert hid).mp hr' with hr' | rfl
    · exact h.returns r' hr' id hid'
    · exact hbill id hid'
  · intro supplier
    have hnet := h.net supplier
    have hsent : sentTo (recordReturn s products r) supplier
        = sentTo s supplier + if r.supplier = some supplier then fromPaise r.total else 0 :=
      sum_insert hid _
    rw [hsent]
    show ledgerNet (s.ledger ++ returnRows r) _ _ = owedOnBills s supplier - _
      - recordedPayments (s.ledger ++ returnRows r) _ _
    rw [ledgerNet_append, recordedPayments_append, recordedPayments_of_refs hrows,
      ledgerNet_returnRows, hnet]
    ring

theorem Booked.pay (h : Booked s) (r : PaymentRequest) (now : Date) :
    Booked { s with ledger := s.ledger ++ [r.entry now] } := by
  constructor
  · intro id
    have hother : liveRows [r.entry now] (.purchaseBill id) = [] := rfl
    show liveRows (s.ledger ++ [r.entry now]) _ = _
    rw [liveRows_append, hother, List.append_nil]
    exact h.rows id
  · exact h.paid
  · exact h.returns
  · intro supplier
    have hnet := h.net supplier
    show ledgerNet (s.ledger ++ [r.entry now]) _ _ = owedOnBills s supplier - sentTo s supplier
      - recordedPayments (s.ledger ++ [r.entry now]) _ _
    rw [ledgerNet_append, recordedPayments_append, ledgerNet_payment, hnet]
    ring

theorem Booked.draft (h : Booked s) (hid : bill.id ∉ s.bills.rows.map PurchaseBill.id)
    (hstatus : bill.status = .draft) (hpaid : 0 ≤ bill.amountPaid) :
    Booked { s with bills := s.bills.insert bill } := by
  have hnot : bill.status ≠ .confirmed := by simp [hstatus]
  have hsame : ∀ id, confirmedBill { s with bills := s.bills.insert bill } id = confirmedBill s id := by
    intro id
    refine ext fun b => ?_
    rw [confirmedBill_eq_some, confirmedBill_eq_some, get?_eq_some_iff, get?_eq_some_iff,
      mem_insert hid]
    constructor
    · rintro ⟨⟨hb | rfl, hkey⟩, hconfirmed⟩
      · exact ⟨⟨hb, hkey⟩, hconfirmed⟩
      · exact absurd hconfirmed hnot
    · rintro ⟨⟨hb, hkey⟩, hconfirmed⟩
      exact ⟨⟨.inl hb, hkey⟩, hconfirmed⟩
  constructor
  · intro id
    rw [hsame]
    exact h.rows id
  · intro b hb
    rcases (mem_insert hid).mp hb with hb | rfl
    · exact h.paid b hb
    · exact hpaid
  · intro r hr id hid
    rw [hsame]
    exact h.returns r hr id hid
  · intro supplier
    have howed : owedOnBills { s with bills := s.bills.insert bill } supplier
        = owedOnBills s supplier + owedOn supplier bill := sum_insert hid _
    rw [howed, owedOn_of_not hnot, add_zero]
    exact h.net supplier

theorem Booked.write (h : Booked s) (hw : Write s s') : Booked s' := by
  cases hw with
  | nothing => exact h
  | elsewhere products productName isParty zone days => exact ⟨h.rows, h.paid, h.returns, h.net⟩
  | pay r now => exact h.pay r now
  | draft hid hstatus hpaid hnamed => exact h.draft hid hstatus hpaid
  | @redraft bill edited hget hstatus hedited hpaid hnamed =>
    have hbill := h.paid bill (mem_of_get? hget)
    exact h.saveBill hget (by simp [hstatus]) (by simp [hedited]) (hpaid hbill)
  | @drop bill hget hstatus =>
    have hbill := h.paid bill (mem_of_get? hget)
    have hget' : s.bills.get? ({ bill with status := .cancelled } : PurchaseBill).id = some bill := hget
    exact h.saveBill hget' (by simp [hstatus]) (by simp) hbill
  | book hget hstatus hstock => exact h.book hget hstatus _
  | unbook hget hstatus hreturns hstock => exact h.unbook hget hstatus hreturns _

theorem Booked.send (h : Booked s) {p : ReturnPayload} (hsend : SendBack s p r s') :
    Booked s' := by
  obtain ⟨products, -, rfl⟩ := hsend.written
  refine h.sendBack hsend.id (fun id hsome => ?_) products
  obtain ⟨bill, hget, hstatus, -⟩ := hsend.left id hsome
  rw [confirmedBill_eq_some.mpr ⟨hget, hstatus⟩]
  rfl

theorem Booked.edit (h : Booked s) (hedit : Rebook s bill edited s') : Booked s' := by
  obtain ⟨products, -, rfl⟩ := hedit.written
  exact h.rebook hedit.id hedit.get hedit.confirmed hedit.still
    (hedit.paid (h.paid bill (mem_of_get? hedit.get))) products

end Writes

/-! ## Whom the returns count for -/

def Attributed (s : Shop) : Prop := ∀ supplier, returnedTo s supplier = sentTo s supplier

theorem reconciled_iff_attributed {s : Shop} (h : Booked s) : Reconciled s ↔ Attributed s := by
  refine forall_congr' fun supplier => ?_
  have hnet := h.net supplier
  constructor
  · intro hrec
    linarith
  · intro hatt
    linarith

def returnsWorth (s : Shop) (id : ObjectId) : ℤ :=
  s.returns.sum (fun r => if r.purchaseBill = some id then r.total else 0)

section Attributed

variable {s s' : Shop} {bill edited : PurchaseBill}

theorem attributed_of_same (h : Attributed s) (hreturns : s'.returns = s.returns)
    (hsame : ∀ r ∈ s.returns.rows, supplierOf s' r = supplierOf s r) : Attributed s' := by
  intro supplier
  have hreturned : returnedTo s' supplier = returnedTo s supplier := by
    unfold returnedTo
    rw [hreturns]
    exact sum_congr fun r hr => by rw [hsame r hr]
  have hsent : sentTo s' supplier = sentTo s supplier := by
    unfold sentTo
    rw [hreturns]
  rw [hreturned, hsent]
  exact h supplier

theorem supplierOf_of_confirmed {r : PurchaseReturn}
    (h : ∀ id, r.purchaseBill = some id → confirmedBill s' id = confirmedBill s id) :
    supplierOf s' r = supplierOf s r := by
  unfold supplierOf
  split
  next id hid => rw [h id hid]
  next => rfl

theorem attributed_saved (h : Attributed s) (hbooked : Booked s)
    (hget : s.bills.get? edited.id = some bill)
    (hnone : bill.status = .confirmed → ∀ r ∈ s.returns.rows, r.purchaseBill ≠ some edited.id)
    (hbills : s'.bills = s.bills.set edited) (hreturns : s'.returns = s.returns) : Attributed s' := by
  refine attributed_of_same h hreturns fun r hr => supplierOf_of_confirmed fun id hid => ?_
  rw [confirmedBill_saved hget rfl id hbills]
  refine if_neg fun hedited => ?_
  rw [hedited] at hid
  have hsome := hbooked.returns r hr edited.id hid
  obtain ⟨b, hb⟩ := isSome_iff_exists.mp hsome
  obtain ⟨hget', hstatus⟩ := confirmedBill_eq_some.mp hb
  cases hget.symm.trans hget'
  exact hnone hstatus r hr hid

theorem Attributed.write (h : Attributed s) (hbooked : Booked s) (hw : Write s s') : Attributed s' := by
  cases hw with
  | nothing | elsewhere | pay => exact h
  | @draft bill hid hstatus hpaid hnamed =>
    refine attributed_of_same h rfl fun r hr => supplierOf_of_confirmed fun id hbill => ?_
    have hsome := hbooked.returns r hr id hbill
    obtain ⟨b, hb⟩ := isSome_iff_exists.mp hsome
    rw [hb]
    obtain ⟨hget, hconfirmed⟩ := confirmedBill_eq_some.mp hb
    refine confirmedBill_eq_some.mpr ⟨?_, hconfirmed⟩
    obtain ⟨hmem, hkey⟩ := get?_eq_some_iff.mp hget
    exact get?_eq_some_iff.mpr ⟨(mem_insert hid).mpr (.inl hmem), hkey⟩
  | redraft hget hstatus hedited hpaid hnamed =>
    exact attributed_saved h hbooked hget (fun hc => by simp [hstatus] at hc) rfl rfl
  | @drop bill hget hstatus =>
    have hget' : s.bills.get? ({ bill with status := .cancelled } : PurchaseBill).id = some bill := hget
    exact attributed_saved h hbooked hget' (fun hc => by simp [hstatus] at hc) rfl rfl
  | @book bill products hget hstatus hstock =>
    have hget' : s.bills.get? ({ bill with status := .confirmed } : PurchaseBill).id = some bill := hget
    exact attributed_saved h hbooked hget' (fun hc => by simp [hstatus] at hc) rfl rfl
  | @unbook bill products hget hstatus hreturns hstock =>
    have hget' : s.bills.get? ({ bill with status := .cancelled } : PurchaseBill).id = some bill := hget
    exact attributed_saved h hbooked hget' (fun _ => hreturns) rfl rfl

theorem Attributed.send (h : Attributed s) {p : ReturnPayload} {r : PurchaseReturn}
    (hsend : SendBack s p r s') : Attributed s' := by
  obtain ⟨products, -, rfl⟩ := hsend.written
  intro supplier
  have hr : supplierOf s r = r.supplier := by
    unfold supplierOf
    split
    next id hsome =>
      obtain ⟨bill, hget, hstatus, hsupplier, -⟩ := hsend.left id hsome
      rw [confirmedBill_eq_some.mpr ⟨hget, hstatus⟩, hsupplier]
      rfl
    next => rfl
  have hsent : sentTo (recordReturn s products r) supplier
      = sentTo s supplier + if r.supplier = some supplier then fromPaise r.total else 0 :=
    sum_insert hsend.id _
  have hreturned : returnedTo (recordReturn s products r) supplier
      = returnedTo s supplier + if supplierOf s r = some supplier then fromPaise r.total else 0 :=
    sum_insert hsend.id
      (fun r => if supplierOf s r = some supplier then fromPaise r.total else 0)
  rw [hsent, hreturned, hr, h supplier]

theorem returnedTo_edit (hedit : Rebook s bill edited s') (supplier : ObjectId) :
    returnedTo s' supplier
      = returnedTo s supplier
        + ((if edited.supplier = some supplier then fromPaise (returnsWorth s bill.id) else 0)
          - if bill.supplier = some supplier then fromPaise (returnsWorth s bill.id) else 0) := by
  obtain ⟨products, -, hs'⟩ := hedit.written
  have hget : s.bills.get? edited.id = some bill := by
    rw [hedit.id]
    exact hedit.get
  have hconfirmed : ∀ id, confirmedBill s' id
      = if id = bill.id then some edited else confirmedBill s id := by
    intro id
    have hstill : (some edited).filter (fun b => decide (b.status = .confirmed)) = some edited := by
      rw [filter_some, if_pos (decide_eq_true hedit.still)]
    rw [hs', confirmedBill_saved hget rfl id rfl, hstill, hedit.id]
  have hold : confirmedBill s bill.id = some bill :=
    confirmedBill_eq_some.mpr ⟨hedit.get, hedit.confirmed⟩
  have hreturns : s'.returns = s.returns := by rw [hs']; rfl
  unfold returnedTo returnsWorth sum
  rw [hreturns]
  induction s.returns.rows with
  | nil => simp
  | cons r rows ih =>
    simp only [List.map_cons, List.sum_cons]
    rw [ih]
    have hrow : (if supplierOf s' r = some supplier then fromPaise r.total else 0)
        = (if supplierOf s r = some supplier then fromPaise r.total else 0)
          + ((if edited.supplier = some supplier then
                fromPaise (if r.purchaseBill = some bill.id then r.total else 0) else 0)
            - if bill.supplier = some supplier then
                fromPaise (if r.purchaseBill = some bill.id then r.total else 0) else 0) := by
      by_cases hr : r.purchaseBill = some bill.id
      · have hafter : supplierOf s' r = edited.supplier := by
          simp only [supplierOf, hr, hconfirmed, if_true, bind_some]
        have hbefore : supplierOf s r = bill.supplier := by
          simp only [supplierOf, hr, hold, bind_some]
        rw [hafter, hbefore, if_pos hr]
        ring
      · have hsame : supplierOf s' r = supplierOf s r := by
          refine supplierOf_of_confirmed fun id hid => ?_
          rw [hconfirmed]
          refine if_neg fun hb => hr ?_
          rw [hid, hb]
        rw [hsame, if_neg hr]
        simp
    rw [hrow]
    simp only [fromPaise_add]
    split_ifs <;> ring

theorem attributed_edit_iff (h : Attributed s) (hedit : Rebook s bill edited s') :
    Attributed s' ↔ edited.supplier = bill.supplier ∨ returnsWorth s bill.id = 0 := by
  have hsent : ∀ supplier, sentTo s' supplier = sentTo s supplier := by
    obtain ⟨products, -, rfl⟩ := hedit.written
    exact fun _ => rfl
  constructor
  · intro hatt
    by_contra hne
    obtain ⟨hsupplier, hworth⟩ := not_or.mp hne
    have hmoved : fromPaise (returnsWorth s bill.id) ≠ 0 := by
      intro hzero
      refine hworth ?_
      have hround := congrArg roundCurrency hzero
      rwa [roundCurrency_fromPaise, roundCurrency_zero] at hround
    -- the bill has left a supplier, or has come to one
    cases hold : bill.supplier with
    | some supplier =>
      have hafter := hatt supplier
      have hother : edited.supplier ≠ some supplier := by
        rw [← hold]
        exact hsupplier
      rw [returnedTo_edit hedit, hsent, h supplier, if_neg hother, if_pos hold] at hafter
      exact hmoved (by linarith)
    | none =>
      cases hnew : edited.supplier with
      | none => exact hsupplier (hnew.trans hold.symm)
      | some supplier =>
        have hafter := hatt supplier
        rw [returnedTo_edit hedit, hsent, h supplier, if_pos hnew, if_neg (by simp [hold])] at hafter
        exact hmoved (by linarith)
  · intro hkeeps supplier
    rw [returnedTo_edit hedit, hsent, h supplier]
    rcases hkeeps with hsame | hworth
    · rw [hsame]
      ring
    · rw [hworth]
      simp

end Attributed

/-! ## Steps and runs -/

theorem booked_step (s : Shop) (op : PurchaseOp) (h : Booked s) : Booked (purchaseStep s op) :=
  purchaseStep_keeps (fun _ _ hw hs => hs.write hw) (fun _ _ _ _ hsend hs => hs.send hsend)
    (fun _ _ _ _ hedit hs => hs.edit hedit) s op h

theorem editedSupplier_cases {s : Shop} {bill : PurchaseBill} {p : BillPayload}
    {supplierId : Option ObjectId} (h : editedSupplier s bill p = .ok supplierId) :
    p.supplierId = some supplierId ∨ p.supplierId = none ∧ supplierId = bill.supplier := by
  unfold editedSupplier at h
  split at h
  next sent hsent =>
    left
    rw [hsent]
    unfold resolveSupplierId at h
    split at h
    · rw [pure_eq_ok.mp h]
    · split at h
      · rw [pure_eq_ok.mp h]
      · cases h
  next hsent => exact .inr ⟨hsent, pure_eq_ok.mp h⟩

theorem attributed_update_iff {s s' : Shop} (hbooked : Booked s) (hatt : Attributed s) {id : ObjectId}
    {p : BillPayload} (hrun : updatePurchaseBill s id p = .ok s') :
    Attributed s' ↔ KeepsSupplier s (.updatePurchaseBill id p) := by
  obtain ⟨bill, supplierId, items, hget, hsupplier, -, hwrites⟩ := updatePurchaseBill_write hrun
  have hid : bill.id = id := key_of_get? hget
  rcases hwrites with hedit | ⟨hnot, hwrite⟩
  · have hbill : confirmedBill s id = some bill := confirmedBill_eq_some.mpr ⟨hget, hedit.confirmed⟩
    have hnew : (editedBill bill p supplierId items).supplier = supplierId := rfl
    have hworth : returnsWorth s bill.id
        = s.returns.sum (fun r => if r.purchaseBill = some id then r.total else 0) := by
      unfold returnsWorth
      rw [hid]
    rw [attributed_edit_iff hatt hedit, hnew, hworth]
    constructor
    · intro hkeeps s'' hrun' b hb supplier hsent
      cases hbill.symm.trans hb
      rcases editedSupplier_cases hsupplier with hsent' | ⟨hsent', -⟩
      · cases hsent.symm.trans hsent'
        exact hkeeps
      · cases hsent.symm.trans hsent'
    · intro hkeeps
      rcases editedSupplier_cases hsupplier with hsent | ⟨-, hsame⟩
      · exact hkeeps s' hrun bill hbill supplierId hsent
      · exact .inl hsame
  · refine iff_of_true (hatt.write hbooked hwrite) fun s'' hrun' b hb => ?_
    obtain ⟨hget', hconfirmed⟩ := confirmedBill_eq_some.mp hb
    cases hget.symm.trans hget'
    exact absurd hconfirmed hnot

theorem reconciled_step_iff {s : Shop} (hbooked : Booked s) (h : Reconciled s) (op : PurchaseOp) :
    Reconciled (purchaseStep s op) ↔ KeepsSupplier s op := by
  have hatt : Attributed s := (reconciled_iff_attributed hbooked).mp h
  rw [reconciled_iff_attributed (booked_step s op hbooked)]
  cases hrun : op.run s with
  | error e =>
    have hstep : purchaseStep s op = s := by
      unfold purchaseStep
      rw [hrun]
    rw [hstep]
    refine iff_of_true hatt ?_
    cases op with
    | updatePurchaseBill id p => exact fun s' hrun' => nomatch hrun.symm.trans hrun'
    | _ => trivial
  | ok s' =>
    have hstep : purchaseStep s op = s' := by
      unfold purchaseStep
      rw [hrun]
    rw [hstep]
    rcases op.run_writes hrun with ⟨s₁, h₁, h₂⟩ | ⟨p, now, r, rfl, hsend⟩ |
      ⟨id, p, bill, supplierId, items, rfl, -, -, -⟩
    · have hkept : Attributed s' := (hatt.write hbooked h₁).write (hbooked.write h₁) h₂
      cases op with
      | updatePurchaseBill id p => exact attributed_update_iff hbooked hatt hrun
      | _ => exact iff_of_true hkept trivial
    · exact iff_of_true (hatt.send hsend) trivial
    · exact attributed_update_iff hbooked hatt hrun

def Shop.opened (products : Products) (productName : ObjectId → String)
    (isParty : PartyType → ObjectId → Bool) (zone : Zone) (days : CashDays) : Shop where
  products := products
  productName := productName
  isParty := isParty
  zone := zone
  days := days
  bills := empty
  returns := empty
  ledger := []

theorem booked_opened (products : Products) (productName : ObjectId → String)
    (isParty : PartyType → ObjectId → Bool) (zone : Zone) (days : CashDays) :
    Booked (Shop.opened products productName isParty zone days) := by
  constructor
  · exact fun _ => rfl
  · exact fun b hb => nomatch hb
  · exact fun r hr => nomatch hr
  · intro supplier
    simp [Shop.opened, owedOnBills, sentTo, recordedPayments]

/-! ## Main result -/

/-- Along a run every supplier's balance is what the bills leave to be paid, less returns and
payments, if and only if no edit that goes through gives a confirmed bill with returns of any worth
to another supplier. -/
theorem supplier_balance_iff (products : Products) (productName : ObjectId → String)
    (isParty : PartyType → ObjectId → Bool) (zone : Zone) (days : CashDays) (ops : List PurchaseOp) :
    Along purchaseStep Reconciled (Shop.opened products productName isParty zone days) ops ↔
      Guarded purchaseStep KeepsSupplier (Shop.opened products productName isParty zone days)
        ops := by
  refine along_iff_guarded (fun s op hbooked _ _ => booked_step s op hbooked)
    (fun s op hbooked h => reconciled_step_iff hbooked h op) (booked_opened ..) ?_ ops
  exact (reconciled_iff_attributed (booked_opened ..)).mpr fun _ => rfl

/-! ## A bill that changes hands -/

def lampShop : Shop :=
  Shop.opened (fun id => if id = 1 then some { stock := 10 } else none) (fun _ => "Lamp")
    (fun partyType id => decide (partyType = .supplier ∧ (id = 7 ∨ id = 8))) defaultZone empty

def fiveLamps : BillPayload where
  supplierId := some (some 7)
  billNo := some "A-1"
  items := [{ productId := 1, quantity := 5, cost := 1 }]
  confirm := true

/-- Two of them go back, and then the bill is given to supplier 8. -/
def billMoved : List PurchaseOp :=
  [.createPurchaseBill fiveLamps 0,
    .createPurchaseReturn
      { purchaseBillId := some 0, items := [{ productId := 1, quantity := 2, cost := 1 }] } 0,
    .updatePurchaseBill 0 { fiveLamps with supplierId := some (some 8) }]

/-- Supplier 7 is owed minus two rupees, and supplier 8 two too many. -/
theorem moved_bill_not_reconciled : ¬ Along purchaseStep Reconciled lampShop billMoved := by
  intro h
  have hlast := h.last 7
  revert hlast
  decide +kernel

end DiscountBazar.Business
