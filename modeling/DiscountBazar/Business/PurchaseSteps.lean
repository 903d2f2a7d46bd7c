/-
What the operations on purchases write.

Each operation that goes through is one of a few writes, or a new bill that is confirmed at once.
The results about purchases are about these writes, and only this file looks into the operations.
-/
import DiscountBazar.Business.Purchases
import Mathlib.Tactic.Positivity

namespace DiscountBazar.Business

open Transaction Inventory Table List

/-! ## Amounts -/

theorem priceItem_total_nonneg (i : PurchaseLine) : 0 ≤ (priceItem i).base + (priceItem i).gst := by
  have hcost : (0 : ℚ) ≤ (i.quantity : ℕ) * (i.cost : ℚ) :=
    mul_nonneg (Nat.cast_nonneg _) i.cost.coe_nonneg
  have hwhole : 0 ≤ roundCurrency ((i.quantity : ℕ) * (i.cost : ℚ)) := roundCurrency_nonneg hcost
  unfold priceItem
  dsimp only
  split
  · rwa [add_sub_cancel]
  · refine add_nonneg hwhole (roundCurrency_nonneg ?_)
    have hgst := i.gstPercent.coe_nonneg
    have hbase := fromPaise_nonneg hwhole
    positivity

theorem priceItems_total_nonneg (items : List PurchaseLine) : 0 ≤ (priceItems items).total := by
  unfold priceItems
  dsimp only
  rw [← sum_map_add]
  refine sum_nonneg fun x hx => ?_
  obtain ⟨i, hi, rfl⟩ := mem_map.mp hx
  obtain ⟨l, -, rfl⟩ := mem_map.mp hi
  exact priceItem_total_nonneg l

theorem draftBill_paid_nonneg (s : Shop) (p : BillPayload) (supplierId : Option ObjectId)
    (items : List PurchaseItem) (now : Date) :
    0 ≤ (draftBill s p supplierId items now).amountPaid :=
  le_min (p.amountPaid.getD 0).coe_nonneg (fromPaise_nonneg (priceItems_total_nonneg p.items))

theorem editedBill_paid_nonneg {bill : PurchaseBill} (h : 0 ≤ bill.amountPaid) (p : BillPayload)
    (supplierId : Option ObjectId) (items : List PurchaseItem) :
    0 ≤ (editedBill bill p supplierId items).amountPaid := by
  refine le_min ?_ (fromPaise_nonneg (priceItems_total_nonneg p.items))
  cases p.amountPaid with
  | none => exact h
  | some a => exact a.coe_nonneg

/-! ## Keys of lines -/

def bookedKey (products : Products) (l : PurchaseLine) : ItemKey :=
  ⟨l.productId, ((products l.productId).map (fun p => bookedSku p l.variantSku)).getD l.variantSku⟩

variable {productName : ObjectId → String}

theorem nameItem_units {products : Products} {l : PurchaseLine} {i : PurchaseItem}
    (h : nameItem products productName (priceItem l).toPurchaseItem = .ok i) :
    i.units = (bookedKey products l, ((l.quantity : ℕ) : ℤ)) := by
  unfold nameItem at h
  split at h
  · cases h
  next product hproduct =>
    rw [ite_throw_eq_ok, ite_throw_eq_ok] at h
    obtain ⟨-, -, h⟩ := h
    rw [pure_eq_ok] at h
    subst h
    have hget : products l.productId = some product := hproduct
    unfold bookedKey
    rw [hget]
    rfl

theorem nameItems_units {products : Products} {lines : List PurchaseLine}
    {items : List PurchaseItem}
    (h : nameItems products productName (priceItems lines).priced = .ok items) :
    items.map PurchaseItem.units
      = lines.map (fun l => (bookedKey products l, ((l.quantity : ℕ) : ℤ))) := by
  unfold nameItems priceItems at h
  simp only [map_map] at h
  induction lines generalizing items with
  | nil =>
    rw [pure_eq_ok.mp h]
    rfl
  | cons l lines ih =>
    rw [map_cons, mapM_cons, bind_eq_ok] at h
    obtain ⟨i, hi, h⟩ := h
    rw [bind_eq_ok] at h
    obtain ⟨rest, hrest, h⟩ := h
    rw [pure_eq_ok.mp h, map_cons, map_cons, ih hrest, nameItem_units hi]

theorem billReturnLine_sent {bill : PurchaseBill} {asked lines : List PurchaseLine}
    (h : asked.mapM (billReturnLine bill) = .ok lines) :
    (∀ l ∈ asked, ∃ i ∈ bill.items, i.key = l.key) ∧
      ∀ {α : Type} (f : ObjectId → String → ℕ+ → α),
        lines.map (fun l => f l.productId l.variantSku l.quantity)
          = asked.map (fun l => f l.productId l.variantSku l.quantity) := by
  induction asked generalizing lines with
  | nil =>
    rw [pure_eq_ok.mp h]
    exact ⟨fun l hl => absurd hl not_mem_nil, fun _ => rfl⟩
  | cons l asked ih =>
    rw [mapM_cons, bind_eq_ok] at h
    obtain ⟨l', hl', h⟩ := h
    rw [bind_eq_ok] at h
    obtain ⟨rest, hrest, h⟩ := h
    obtain ⟨hfound, hsent⟩ := ih hrest
    unfold billReturnLine at hl'
    split at hl'
    · cases hl'
    next i hi =>
      constructor
      · intro x hx
        rcases mem_cons.mp hx with rfl | hx
        · exact ⟨i, mem_of_find?_eq_some hi, by simpa using find?_some hi⟩
        · exact hfound x hx
      · intro α f
        rw [pure_eq_ok.mp h, map_cons, map_cons, hsent, pure_eq_ok.mp hl']

/-! ## The writes -/

def Named (s : Shop) (items : List PurchaseItem) : Prop :=
  ∃ lines, nameItems s.products s.productName (priceItems lines).priced = .ok items

/-- One write of an operation on purchases, unless it is a return or the edit of a confirmed
bill. -/
inductive Write (s : Shop) : Shop → Prop where
  | nothing : Write s s
  | elsewhere (products : Products) (productName : ObjectId → String)
      (isParty : PartyType → ObjectId → Bool) (zone : Zone) (days : CashDays) :
      Write s { s with products, productName, isParty, zone, days }
  | pay (r : PaymentRequest) (now : Date) : Write s { s with ledger := s.ledger ++ [r.entry now] }
  | draft {bill : PurchaseBill} (hid : bill.id ∉ s.bills.rows.map PurchaseBill.id)
      (hstatus : bill.status = .draft) (hpaid : 0 ≤ bill.amountPaid) (hnamed : Named s bill.items) :
      Write s { s with bills := s.bills.insert bill }
  | redraft {bill edited : PurchaseBill} (hget : s.bills.get? edited.id = some bill)
      (hstatus : bill.status = .draft) (hedited : edited.status = .draft)
      (hpaid : 0 ≤ bill.amountPaid → 0 ≤ edited.amountPaid) (hnamed : Named s edited.items) :
      Write s (saveBill s edited)
  | drop {bill : PurchaseBill} (hget : s.bills.get? bill.id = some bill)
      (hstatus : bill.status = .draft) : Write s (saveBill s { bill with status := .cancelled })
  | book {bill : PurchaseBill} {products : Products} (hget : s.bills.get? bill.id = some bill)
      (hstatus : bill.status = .draft)
      (hstock : applyQtyMap 1 s.products (qtyMap bill.items) = .ok products) :
      Write s (saveBill (writeBillLedger { s with products } bill) { bill with status := .confirmed })
  | unbook {bill : PurchaseBill} {products : Products} (hget : s.bills.get? bill.id = some bill)
      (hstatus : bill.status = .confirmed)
      (hreturns : ∀ r ∈ s.returns.rows, r.purchaseBill ≠ some bill.id)
      (hstock : applyQtyMap (-1) s.products (qtyMap bill.items) = .ok products) :
      Write s (saveBill (clearBillLedger { s with products } bill) { bill with status := .cancelled })

/-- A return: one against a bill asks for lines of it, and for no more of them than is left. -/
structure SendBack (s : Shop) (asked : ReturnPayload) (r : PurchaseReturn) (s' : Shop) : Prop where
  id : r.id ∉ s.returns.rows.map PurchaseReturn.id
  bill : r.purchaseBill = asked.purchaseBillId
  left : ∀ billId, r.purchaseBill = some billId → ∃ bill, s.bills.get? billId = some bill ∧
    bill.status = .confirmed ∧ r.supplier = bill.supplier ∧
      (∀ l ∈ asked.items, ∃ i ∈ bill.items, i.key = l.key) ∧
      assertLeft (qtyMap bill.items) (returnedQty s bill.id) (requestedQty asked.items) = .ok ()
  units : r.items.map PurchaseItem.units
    = asked.items.map (fun l => (bookedKey s.products l, ((l.quantity : ℕ) : ℤ)))
  written : ∃ products, applyQtyMap (-1) s.products (qtyMap r.items) = .ok products ∧
    s' = recordReturn s products r

structure Rebook (s : Shop) (bill edited : PurchaseBill) (s' : Shop) : Prop where
  get : s.bills.get? bill.id = some bill
  id : edited.id = bill.id
  confirmed : bill.status = .confirmed
  still : edited.status = .confirmed
  paid : 0 ≤ bill.amountPaid → 0 ≤ edited.amountPaid
  returned : assertNotReturned (qtyMap edited.items) (returnedQty s bill.id) = .ok ()
  named : Named s edited.items
  written : ∃ products, applyDiff s.products (qtyMap bill.items) (qtyMap edited.items) = .ok products ∧
    s' = writeBillLedger (saveBill (clearBillLedger { s with products } bill) edited) edited

/-! ## From operations to writes -/

section Spec

variable {s s' : Shop}

variable {bill : PurchaseBill}

theorem confirmBillTxn_eq_ok (h : confirmBillTxn s bill = .ok s') :
    bill.status = .draft ∧ ∃ products, applyQtyMap 1 s.products (qtyMap bill.items) = .ok products ∧
      s' = saveBill (writeBillLedger { s with products } bill) { bill with status := .confirmed } := by
  unfold confirmBillTxn at h
  rw [ite_throw_eq_ok, bind_eq_ok] at h
  obtain ⟨hstatus, products, hstock, h⟩ := h
  exact ⟨not_not.mp hstatus, products, hstock, pure_eq_ok.mp h⟩

theorem confirmBillTxn_write (hget : s.bills.get? bill.id = some bill)
    (h : confirmBillTxn s bill = .ok s') : Write s s' := by
  obtain ⟨hstatus, products, hstock, rfl⟩ := confirmBillTxn_eq_ok h
  exact .book hget hstatus hstock

variable {p : BillPayload} {now : Date}

theorem createPurchaseBill_eq_ok (h : createPurchaseBill s p now = .ok s') :
    ∃ supplierId items, nameItems s.products s.productName (priceItems p.items).priced = .ok items ∧
      if p.confirm then
        confirmBillTxn { s with bills := s.bills.insert (draftBill s p supplierId items now) }
          (draftBill s p supplierId items now) = .ok s'
      else s' = { s with bills := s.bills.insert (draftBill s p supplierId items now) } := by
  unfold createPurchaseBill at h
  simp only [bind_eq_ok] at h
  obtain ⟨-, -, supplierId, -, -, -, items, hitems, h⟩ := h
  refine ⟨supplierId, items, hitems, ?_⟩
  split at h
  next hconfirm =>
    rw [if_pos hconfirm]
    exact h
  next hconfirm =>
    rw [if_neg hconfirm]
    exact pure_eq_ok.mp h

theorem draftBill_id_notMem (p : BillPayload) (supplierId : Option ObjectId)
    (items : List PurchaseItem) (now : Date) :
    (draftBill s p supplierId items now).id ∉ s.bills.rows.map PurchaseBill.id :=
  freshKey_notMem s.bills

theorem reopenBill_eq_ok {items : List PurchaseItem} (h : reopenBill s bill items = .ok s') :
    if bill.status = .confirmed then
      assertNotReturned (qtyMap items) (returnedQty s bill.id) = .ok () ∧
        ∃ products, applyDiff s.products (qtyMap bill.items) (qtyMap items) = .ok products ∧
          s' = clearBillLedger { s with products } bill
    else s' = s := by
  unfold reopenBill at h
  split at h
  next hstatus =>
    rw [if_pos hstatus]
    simp only [bind_eq_ok] at h
    obtain ⟨⟨⟩, hreturned, products, hstock, h⟩ := h
    exact ⟨hreturned, products, hstock, pure_eq_ok.mp h⟩
  next hstatus =>
    rw [if_neg hstatus]
    exact pure_eq_ok.mp h

variable {id : ObjectId}

theorem updatePurchaseBill_eq_ok (h : updatePurchaseBill s id p = .ok s') :
    ∃ bill supplierId items s₁, s.bills.get? id = some bill ∧ bill.status ≠ .cancelled ∧
      editedSupplier s bill p = .ok supplierId ∧
      nameItems s.products s.productName (priceItems p.items).priced = .ok items ∧
      reopenBill s bill items = .ok s₁ ∧ s' = rewriteBill s₁ (editedBill bill p supplierId items) := by
  unfold updatePurchaseBill at h
  split at h
  · cases h
  next bill hget =>
    rw [ite_throw_eq_ok] at h
    obtain ⟨hstatus, h⟩ := h
    simp only [bind_eq_ok] at h
    obtain ⟨-, -, supplierId, hsupplier, -, -, items, hitems, s₁, hs₁, h⟩ := h
    exact ⟨bill, supplierId, items, s₁, hget, hstatus, hsupplier, hitems, hs₁, pure_eq_ok.mp h⟩

theorem updatePurchaseBill_write (h : updatePurchaseBill s id p = .ok s') :
    ∃ bill supplierId items, s.bills.get? id = some bill ∧ editedSupplier s bill p = .ok supplierId ∧
      nameItems s.products s.productName (priceItems p.items).priced = .ok items ∧
      (Rebook s bill (editedBill bill p supplierId items) s' ∨ bill.status ≠ .confirmed ∧ Write s s') := by
  obtain ⟨bill, supplierId, items, s₁, hget, hstatus, hsupplier, hitems, hs₁, hs'⟩ :=
    updatePurchaseBill_eq_ok h
  refine ⟨bill, supplierId, items, hget, hsupplier, hitems, ?_⟩
  have hid : bill.id = id := key_of_get? hget
  rw [← hid] at hget
  have hpaid : 0 ≤ bill.amountPaid → 0 ≤ (editedBill bill p supplierId items).amountPaid :=
    fun hbill => editedBill_paid_nonneg hbill ..
  have hopen := reopenBill_eq_ok hs₁
  by_cases hconfirmed : bill.status = .confirmed
  · left
    rw [if_pos hconfirmed] at hopen
    obtain ⟨hreturned, products, hstock, rfl⟩ := hopen
    have hstill : (editedBill bill p supplierId items).status = .confirmed := hconfirmed
    rw [rewriteBill, if_pos hstill] at hs'
    exact ⟨hget, rfl, hconfirmed, hstill, hpaid, hreturned, ⟨p.items, hitems⟩, products, hstock, hs'⟩
  · right
    refine ⟨hconfirmed, ?_⟩
    have hdraft : bill.status = .draft := by
      cases hb : bill.status with
      | draft => rfl
      | confirmed => exact absurd hb hconfirmed
      | cancelled => exact absurd hb hstatus
    rw [if_neg hconfirmed] at hopen
    subst hopen
    have hnot : (editedBill bill p supplierId items).status ≠ .confirmed := hconfirmed
    have hget' : s₁.bills.get? (editedBill bill p supplierId items).id = some bill := hget
    rw [hs', rewriteBill, if_neg hnot]
    exact .redraft hget' hdraft hdraft hpaid ⟨p.items, hitems⟩

theorem cancelPurchaseBill_eq_ok (h : cancelPurchaseBill s id = .ok s') :
    ∃ bill, s.bills.get? bill.id = some bill ∧
      (bill.status = .draft ∧ s' = saveBill s { bill with status := .cancelled } ∨
        bill.status = .confirmed ∧ (∀ r ∈ s.returns.rows, r.purchaseBill ≠ some bill.id) ∧
          ∃ products, applyQtyMap (-1) s.products (qtyMap bill.items) = .ok products ∧
            s' = saveBill (clearBillLedger { s with products } bill)
              { bill with status := .cancelled }) := by
  unfold cancelPurchaseBill at h
  split at h
  · cases h
  next bill hget =>
    have hid : bill.id = id := key_of_get? hget
    rw [← hid] at hget
    refine ⟨bill, hget, ?_⟩
    rw [ite_throw_eq_ok] at h
    obtain ⟨hstatus, h⟩ := h
    simp only [bind_eq_ok, ite_throw_eq_ok] at h
    obtain ⟨-, -, hreturns, s₁, hundo, h⟩ := h
    rw [pure_eq_ok] at h
    subst h
    unfold undoBill at hundo
    split at hundo
    next hconfirmed =>
      right
      rw [bind_eq_ok] at hundo
      obtain ⟨products, hstock, hundo⟩ := hundo
      rw [pure_eq_ok] at hundo
      subst hundo
      refine ⟨hconfirmed, fun r hr hbill => hreturns ?_, products, hstock, rfl⟩
      exact any_eq_true.mpr ⟨r, hr, decide_eq_true hbill⟩
    next hconfirmed =>
      left
      rw [pure_eq_ok] at hundo
      subst hundo
      refine ⟨?_, rfl⟩
      cases hb : bill.status with
      | draft => rfl
      | confirmed => exact absurd hb hconfirmed
      | cancelled => exact absurd hb hstatus

theorem cancelPurchaseBill_write (h : cancelPurchaseBill s id = .ok s') :
    Write s s' := by
  obtain ⟨bill, hget, ⟨hstatus, rfl⟩ | ⟨hstatus, hreturns, products, hstock, rfl⟩⟩ :=
    cancelPurchaseBill_eq_ok h
  · exact .drop hget hstatus
  · exact .unbook hget hstatus hreturns hstock

theorem billReturnLines_eq_ok {billId : ObjectId} {items lines : List PurchaseLine}
    {supplier : Option ObjectId} (h : billReturnLines s billId items = .ok (lines, supplier)) :
    ∃ bill, s.bills.get? billId = some bill ∧ bill.status = .confirmed ∧ supplier = bill.supplier ∧
      items.mapM (billReturnLine bill) = .ok lines ∧
      assertLeft (qtyMap bill.items) (returnedQty s bill.id) (requestedQty lines) = .ok () := by
  unfold billReturnLines at h
  split at h
  · cases h
  next bill hget =>
    rw [ite_throw_eq_ok] at h
    obtain ⟨hstatus, h⟩ := h
    simp only [bind_eq_ok] at h
    obtain ⟨lines', hlines, ⟨⟩, hleft, h⟩ := h
    rw [pure_eq_ok] at h
    cases h
    exact ⟨bill, hget, not_not.mp hstatus, rfl, hlines, hleft⟩

theorem createPurchaseReturn_eq_ok {p : ReturnPayload} (h : createPurchaseReturn s p now = .ok s') :
    ∃ r, SendBack s p r s' := by
  unfold createPurchaseReturn at h
  simp only [bind_eq_ok] at h
  obtain ⟨-, -, ⟨lines, supplierId⟩, hlines, items, hitems, products, hstock, h⟩ := h
  have hunits := nameItems_units hitems
  refine ⟨_, freshKey_notMem s.returns, rfl, ?_, ?_, products, hstock, pure_eq_ok.mp h⟩
  · intro billId hbill
    have hbill' : p.purchaseBillId = some billId := hbill
    unfold returnLines at hlines
    rw [hbill'] at hlines
    obtain ⟨bill, hget, hconfirmed, hsupplier, hsent, hleft⟩ := billReturnLines_eq_ok hlines
    obtain ⟨hfound, hsame⟩ := billReturnLine_sent hsent
    refine ⟨bill, hget, hconfirmed, hsupplier, hfound, ?_⟩
    have hasked : requestedQty lines = requestedQty p.items :=
      congrArg qtyMapOf (hsame fun productId variantSku quantity =>
        (ItemKey.mk productId variantSku, ((quantity : ℕ) : ℤ)))
    rwa [hasked] at hleft
  · dsimp only
    rw [hunits]
    unfold returnLines at hlines
    split at hlines
    · obtain ⟨bill, -, -, -, hsent, -⟩ := billReturnLines_eq_ok hlines
      exact (billReturnLine_sent hsent).2 fun productId variantSku quantity =>
        (bookedKey s.products { productId, variantSku, quantity, cost := 0 }, ((quantity : ℕ) : ℤ))
    · rw [bind_eq_ok] at hlines
      obtain ⟨supplier, -, hlines⟩ := hlines
      rw [pure_eq_ok] at hlines
      rw [(Prod.mk.inj hlines).1]

theorem recordPayment_eq_ok {r : PaymentRequest} (h : recordPayment s r now = .ok s') :
    s' = s ∨ s' = { s with ledger := s.ledger ++ [r.entry now] } := by
  unfold recordPayment at h
  rw [ite_throw_eq_ok] at h
  obtain ⟨-, h⟩ := h
  split at h
  · exact .inl (pure_eq_ok.mp h)
  · simp only [bind_eq_ok, ite_throw_eq_ok] at h
    obtain ⟨-, -, -, h⟩ := h
    exact .inr (pure_eq_ok.mp h)

theorem recordPayment_write {r : PaymentRequest} (h : recordPayment s r now = .ok s') :
    Write s s' := by
  rcases recordPayment_eq_ok h with rfl | rfl
  · exact .nothing
  · exact .pay r now

end Spec

theorem PurchaseOp.run_writes {s s' : Shop} {op : PurchaseOp} (h : op.run s = .ok s') :
    (∃ s₁, Write s s₁ ∧ Write s₁ s') ∨
      (∃ p now r, op = .createPurchaseReturn p now ∧ SendBack s p r s') ∨
      ∃ id p bill supplierId items, op = .updatePurchaseBill id p ∧ s.bills.get? id = some bill ∧
        editedSupplier s bill p = .ok supplierId ∧
        Rebook s bill (editedBill bill p supplierId items) s' := by
  cases op with
  | createPurchaseBill p now =>
    obtain ⟨supplierId, items, hitems, hs'⟩ := createPurchaseBill_eq_ok h
    have hid := draftBill_id_notMem (s := s) p supplierId items now
    refine .inl ⟨_, .draft hid rfl (draftBill_paid_nonneg ..) ⟨p.items, hitems⟩, ?_⟩
    split at hs'
    · exact confirmBillTxn_write (get?_insert_self hid) hs'
    · rw [hs']
      exact .nothing
  | confirmPurchaseBill id =>
    refine .inl ⟨s, .nothing, ?_⟩
    change DiscountBazar.Business.confirmPurchaseBill s id = .ok s' at h
    unfold DiscountBazar.Business.confirmPurchaseBill at h
    split at h
    · cases h
    next bill hget =>
      rw [bind_eq_ok] at h
      obtain ⟨-, -, h⟩ := h
      have hid : bill.id = id := key_of_get? hget
      rw [← hid] at hget
      exact confirmBillTxn_write hget h
  | updatePurchaseBill id p =>
    obtain ⟨bill, supplierId, items, hget, hsupplier, -, hrebook | ⟨-, hwrite⟩⟩ :=
      updatePurchaseBill_write h
    · exact .inr (.inr ⟨id, p, bill, supplierId, items, rfl, hget, hsupplier, hrebook⟩)
    · exact .inl ⟨s, .nothing, hwrite⟩
  | cancelPurchaseBill id => exact .inl ⟨s, .nothing, cancelPurchaseBill_write h⟩
  | createPurchaseReturn p now =>
    obtain ⟨r, hsend⟩ := createPurchaseReturn_eq_ok h
    exact .inr (.inl ⟨p, now, r, rfl, hsend⟩)
  | recordPayment r now => exact .inl ⟨s, .nothing, recordPayment_write h⟩
  | elsewhere products productName isParty zone days =>
    have hs' : s' = _ := pure_eq_ok.mp h
    rw [hs']
    exact .inl ⟨s, .nothing, .elsewhere products productName isParty zone days⟩

theorem purchaseStep_keeps {I : Shop → Prop} (hwrite : ∀ s s', Write s s' → I s → I s')
    (hsend : ∀ s p r s', SendBack s p r s' → I s → I s')
    (hrebook : ∀ s bill edited s', Rebook s bill edited s' → I s → I s') (s : Shop) (op : PurchaseOp)
    (hs : I s) : I (purchaseStep s op) := by
  unfold purchaseStep
  split
  next s' h =>
    obtain ⟨s₁, h₁, h₂⟩ | ⟨p, _, r, -, hsent⟩ | ⟨_, _, bill, _, _, -, -, -, hedit⟩ := op.run_writes h
    · exact hwrite s₁ s' h₂ (hwrite s s₁ h₁ hs)
    · exact hsend s p r s' hsent hs
    · exact hrebook s bill _ s' hedit hs
  next => exact hs

end DiscountBazar.Business
