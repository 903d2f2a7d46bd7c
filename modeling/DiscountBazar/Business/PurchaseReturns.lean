/-
Returns against a purchase bill.

A return is checked against its bill under the keys that are sent, and stored under the keys that
the catalogue gives them now. The two differ for a line without a SKU whose product has come to have
exactly one variant: what is returned is then looked up where it is not stored.
-/
import DiscountBazar.Business.PurchaseUnits
import DiscountBazar.Business.SupplierBalance

namespace DiscountBazar.Business

open Transaction Inventory Runs Table Option

/-! ## Statements -/

/-- Of no product and variant has more come back than the bill has. -/
def WithinBill (s : Shop) (b : PurchaseBill) : Prop :=
  ∀ key, (returnedQty s b.id).get key ≤ (qtyMap b.items).get key

def ReturnsWithin (s : Shop) : Prop := ∀ b ∈ s.bills.rows, WithinBill s b

def Drifted (products : Products) (l : PurchaseLine) : Prop :=
  l.variantSku = "" ∧ ∃ product v, products l.productId = some product ∧ product.variants = [v] ∧
    v.sku ≠ ""

/-- A return that goes through against a bill has no line whose key has drifted. -/
def StoredAsAsked (s : Shop) : PurchaseOp → Prop
  | .createPurchaseReturn p now => p.purchaseBillId ≠ none →
      ∀ s', createPurchaseReturn s p now = .ok s' → ∀ l ∈ p.items, ¬ Drifted s.products l
  | _ => True

/-! ## Keys -/

section Keys

variable {products : Products}

theorem bookedSku_of_named {product : Product} {variantSku : String} (h : variantSku ≠ "") :
    bookedSku product variantSku = variantSku := if_pos h

theorem bookedKey_ne_iff {l : PurchaseLine} : bookedKey products l ≠ l.key ↔ Drifted products l := by
  have hkey : bookedKey products l = l.key ↔
      ((products l.productId).map (fun p => bookedSku p l.variantSku)).getD l.variantSku
        = l.variantSku := by
    unfold bookedKey PurchaseLine.key
    simp only [ItemKey.mk.injEq, true_and]
  rw [Ne, hkey]
  unfold Drifted
  cases hproduct : products l.productId with
  | none => simp
  | some product =>
    rw [map_some, getD_some]
    by_cases hsku : l.variantSku = ""
    · rw [hsku, bookedSku, if_neg (by simp)]
      constructor
      · intro h
        refine ⟨rfl, product, ?_⟩
        split at h
        next v hv => exact ⟨v, rfl, hv, h⟩
        next => exact absurd rfl h
      · rintro ⟨-, product', v, hp, hv, hne⟩
        cases hp
        rw [hv]
        exact hne
    · rw [bookedSku_of_named hsku]
      simp [hsku]

theorem nameItem_sku {productName : ObjectId → String} {p i : PurchaseItem}
    (h : nameItem products productName p = .ok i) :
    ∃ product, products i.product = some product ∧
      match product.variants with
      | [] => i.variantSku = ""
      | [v] => i.variantSku = v.sku
      | _ => i.variantSku ≠ "" := by
  unfold nameItem at h
  split at h
  · cases h
  next product hproduct =>
    rw [ite_throw_eq_ok, ite_throw_eq_ok] at h
    obtain ⟨hknown, hchosen, h⟩ := h
    rw [pure_eq_ok] at h
    subst h
    refine ⟨product, hproduct, ?_⟩
    dsimp only
    unfold bookedSku
    split
    next hvariants =>
      rw [hvariants] at hknown
      by_cases hsku : p.variantSku = ""
      · simp [hsku, hvariants]
      · exact absurd ⟨hsku, fun v hv => nomatch hv⟩ hknown
    next v hvariants =>
      rw [hvariants] at hknown
      by_cases hsku : p.variantSku = ""
      · simp [hsku, hvariants]
      · rw [if_pos hsku]
        by_contra hne
        refine hknown ⟨hsku, fun w hw => ?_⟩
        rw [List.mem_singleton.mp hw]
        exact fun heq => hne heq.symm
    next hnone hone =>
      by_cases hsku : p.variantSku = ""
      · refine absurd ⟨hsku, ?_⟩ hchosen
        match product.variants, hnone, hone with
        | [], hnone, _ => exact absurd rfl hnone
        | [v], _, hone => exact absurd rfl (hone v)
        | _ :: _ :: _, _, _ => simp
      · rw [if_pos hsku]
        exact hsku

/-- The lines of a product are all stored without a SKU, or all with one. -/
def OneKind (items : List PurchaseItem) : Prop :=
  ∀ i ∈ items, ∀ j ∈ items, i.product = j.product → i.variantSku = "" → j.variantSku = ""

theorem Named.oneKind {s : Shop} {items : List PurchaseItem} (h : Named s items) : OneKind items := by
  obtain ⟨lines, hlines⟩ := h
  intro i hi j hj hij hsku
  obtain ⟨p, -, hp⟩ := mem_of_mapM hlines hi
  obtain ⟨q, -, hq⟩ := mem_of_mapM hlines hj
  obtain ⟨product, hproduct, hisku⟩ := nameItem_sku hp
  obtain ⟨product', hproduct', hjsku⟩ := nameItem_sku hq
  rw [← hij, hproduct] at hproduct'
  cases hproduct'
  split at hisku
  next hvariants =>
    rw [hvariants] at hjsku
    exact hjsku
  next v hvariants =>
    rw [hvariants] at hjsku
    exact hjsku.trans (hisku.symm.trans hsku)
  next => exact absurd hsku hisku

end Keys

/-! ## Checks -/

section Checks

variable {s : Shop}

theorem le_of_assertLeft {bought done asked : QtyMap} (h : assertLeft bought done asked = .ok ())
    {key : ItemKey} {q : ℤ} (hmem : (key, q) ∈ asked) : done.get key + q ≤ bought.get key := by
  induction asked with
  | nil => exact absurd hmem List.not_mem_nil
  | cons e rest ih =>
    obtain ⟨k, n⟩ := e
    unfold assertLeft at h
    dsimp only at h
    split at h
    · cases h
    next hleft =>
      rcases List.mem_cons.mp hmem with heq | hmem
      · cases heq
        omega
      · exact ih h hmem

theorem le_of_assertNotReturned {newQ returned : QtyMap}
    (h : assertNotReturned newQ returned = .ok ()) {key : ItemKey} {q : ℤ}
    (hmem : (key, q) ∈ returned) : q ≤ newQ.get key := by
  induction returned with
  | nil => exact absurd hmem List.not_mem_nil
  | cons e rest ih =>
    obtain ⟨k, n⟩ := e
    unfold assertNotReturned at h
    split at h
    · cases h
    next hleft =>
      rcases List.mem_cons.mp hmem with heq | hmem
      · cases heq
        omega
      · exact ih h hmem

theorem get_qtyMap_nonneg (items : List PurchaseItem) (key : ItemKey) : 0 ≤ (qtyMap items).get key := by
  rw [get_qtyMap]
  exact unitsOf_nonneg items key.only

theorem get_returnedQty (s : Shop) (billId : ObjectId) (key : ItemKey) :
    (returnedQty s billId).get key
      = s.returns.sum (fun r => if r.purchaseBill = some billId then unitsOf r.items key.only else 0) := by
  unfold returnedQty
  rw [get_qtyMap]
  unfold sum
  induction s.returns.rows with
  | nil => rfl
  | cons r rows ih =>
    rw [List.map_cons, List.sum_cons, ← ih, List.filter_cons]
    by_cases hr : r.purchaseBill = some billId
    · rw [if_pos hr, if_pos (decide_eq_true hr), List.flatMap_cons, unitsOf_append]
    · rw [if_neg hr, if_neg (by simpa using hr), zero_add]

theorem returnedQty_congr {s' : Shop} (h : s'.returns = s.returns) (billId : ObjectId) :
    returnedQty s' billId = returnedQty s billId := by
  unfold returnedQty
  rw [h]

end Checks

/-! ## Writes -/

section Writes

variable {s s' : Shop} {bill edited : PurchaseBill}

theorem returnedQty_eq_zero {billId : ObjectId} (h : ∀ r ∈ s.returns.rows, r.purchaseBill ≠ some billId)
    (key : ItemKey) : (returnedQty s billId).get key = 0 := by
  rw [get_returnedQty]
  refine List.sum_eq_zero fun n hn => ?_
  obtain ⟨r, hr, rfl⟩ := List.mem_map.mp hn
  exact if_neg (h r hr)

theorem Booked.no_returns (h : Booked s) {billId : ObjectId} (hnot : confirmedBill s billId = none) :
    ∀ r ∈ s.returns.rows, r.purchaseBill ≠ some billId := by
  intro r hr hbill
  have hsome := h.returns r hr billId hbill
  rw [hnot] at hsome
  cases hsome

theorem withinBill_of_none (h : ∀ r ∈ s.returns.rows, r.purchaseBill ≠ some bill.id) :
    WithinBill s bill := by
  intro key
  rw [returnedQty_eq_zero h]
  exact get_qtyMap_nonneg bill.items key

theorem ReturnsWithin.saved (h : ReturnsWithin s) (hbills : s'.bills = s.bills.set edited)
    (hreturns : s'.returns = s.returns) (hedited : WithinBill s edited) : ReturnsWithin s' := by
  intro b hb key
  rw [returnedQty_congr hreturns]
  rw [hbills] at hb
  rcases mem_set.mp hb with ⟨hb, -⟩ | ⟨rfl, -⟩
  · exact h b hb key
  · exact hedited key

theorem ReturnsWithin.write (h : ReturnsWithin s) (hbooked : Booked s) (hw : Write s s') :
    ReturnsWithin s' := by
  cases hw with
  | nothing | elsewhere | pay => exact h
  | @draft bill hid hstatus hpaid hnamed =>
    intro b hb
    rcases (mem_insert hid).mp hb with hb | rfl
    · exact h b hb
    · refine withinBill_of_none (hbooked.no_returns ?_)
      rw [eq_none_iff_forall_ne_some]
      intro old hold
      obtain ⟨hget, -⟩ := confirmedBill_eq_some.mp hold
      exact hid (List.mem_map.mpr ⟨old, mem_of_get? hget, key_of_get? hget⟩)
  | @redraft bill edited hget hstatus hedited hpaid hnamed =>
    refine h.saved rfl rfl (withinBill_of_none (hbooked.no_returns ?_))
    exact confirmedBill_of_not hget (by simp [hstatus])
  | @drop bill hget hstatus => exact h.saved rfl rfl (h bill (mem_of_get? hget))
  | @book bill products hget hstatus hstock => exact h.saved rfl rfl (h bill (mem_of_get? hget))
  | @unbook bill products hget hstatus hreturns hstock =>
    exact h.saved rfl rfl (h bill (mem_of_get? hget))

theorem ReturnsWithin.edit (h : ReturnsWithin s) (hedit : Rebook s bill edited s') :
    ReturnsWithin s' := by
  obtain ⟨products, -, hs'⟩ := hedit.written
  have hwithin : WithinBill s edited := by
    intro key
    rw [hedit.id]
    rcases mem_or_get_eq_zero (returnedQty s bill.id) key with hmem | hzero
    · exact le_of_assertNotReturned hedit.returned hmem
    · rw [hzero]
      exact get_qtyMap_nonneg edited.items key
  rw [hs']
  exact h.saved rfl rfl hwithin

/-! ### Returns -/

variable {p : ReturnPayload} {r : PurchaseReturn}

theorem SendBack.returned (h : SendBack s p r s') (billId : ObjectId) (key : ItemKey) :
    (returnedQty s' billId).get key = (returnedQty s billId).get key
      + if r.purchaseBill = some billId then unitsOf r.items key.only else 0 := by
  obtain ⟨products, -, rfl⟩ := h.written
  rw [get_returnedQty, get_returnedQty]
  exact sum_insert h.id _

theorem SendBack.unitsOf_items (h : SendBack s p r s') (key : ItemKey) :
    unitsOf r.items key.only
      = (qtyMapOf (p.items.map (fun l => (bookedKey s.products l, ((l.quantity : ℕ) : ℤ))))).get key := by
  rw [← get_qtyMap, qtyMap, h.units]

theorem ReturnsWithin.send (h : ReturnsWithin s) (hsend : SendBack s p r s')
    (hstored : r.purchaseBill ≠ none → ∀ l ∈ p.items, bookedKey s.products l = l.key) :
    ReturnsWithin s' := by
  intro b hb key
  have hmem : b ∈ s.bills.rows := by
    obtain ⟨products, -, rfl⟩ := hsend.written
    exact hb
  rw [hsend.returned]
  split
  next hbill =>
    obtain ⟨bill, hget, -, -, -, hleft⟩ := hsend.left b.id hbill
    have hsame : bill = b := some.inj (hget.symm.trans (get?_of_mem hmem))
    subst hsame
    have hasked : unitsOf r.items key.only = (requestedQty p.items).get key := by
      rw [hsend.unitsOf_items, requestedQty]
      congr 2
      refine List.map_congr_left fun l hl => ?_
      rw [hstored (by simp [hbill]) l hl]
    rw [hasked]
    rcases mem_or_get_eq_zero (requestedQty p.items) key with hkey | hzero
    · exact le_of_assertLeft hleft hkey
    · rw [hzero, add_zero]
      exact h bill hmem key
  next =>
    rw [add_zero]
    exact h b hmem key

theorem not_within_of_drifted (hkinds : ∀ b ∈ s.bills.rows, OneKind b.items)
    (hsend : SendBack s p r s') (hbill : r.purchaseBill ≠ none) {l : PurchaseLine} (hl : l ∈ p.items)
    (hdrifted : Drifted s.products l) : ¬ ReturnsWithin s' := by
  intro hwithin
  obtain ⟨billId, hbillId⟩ := ne_none_iff_exists'.mp hbill
  obtain ⟨bill, hget, -, -, hfound, -⟩ := hsend.left billId hbillId
  have hid : bill.id = billId := key_of_get? hget
  subst hid
  have hmem : bill ∈ s.bills.rows := mem_of_get? hget
  have hmem' : bill ∈ s'.bills.rows := by
    obtain ⟨products, -, rfl⟩ := hsend.written
    exact hmem
  have hle := hwithin bill hmem' (bookedKey s.products l)
  rw [hsend.returned, if_pos hbillId] at hle
  have hnew : 0 < unitsOf r.items (bookedKey s.products l).only := by
    have hunits : (bookedKey s.products l, ((l.quantity : ℕ) : ℤ)) ∈ r.items.map PurchaseItem.units := by
      rw [hsend.units]
      exact List.mem_map.mpr ⟨l, hl, rfl⟩
    obtain ⟨i, hi, heq⟩ := List.mem_map.mp hunits
    exact unitsOf_pos hi (decide_eq_true (Prod.mk.inj heq).1)
  have hold : 0 ≤ (returnedQty s bill.id).get (bookedKey s.products l) := get_qtyMap_nonneg ..
  -- the bill has the product without a SKU only
  have hnone : (qtyMap bill.items).get (bookedKey s.products l) = 0 := by
    rw [get_qtyMap]
    refine List.sum_eq_zero fun n hn => ?_
    obtain ⟨j, hj, rfl⟩ := List.mem_map.mp hn
    refine if_neg fun hkey => ?_
    have hjkey : j.key = bookedKey s.products l := of_decide_eq_true hkey
    obtain ⟨i, hi, hikey⟩ := hfound l hl
    have hproduct : i.product = j.product :=
      (congrArg ItemKey.product hikey).trans (congrArg ItemKey.product hjkey).symm
    have hisku : i.variantSku = "" := (congrArg ItemKey.variantSku hikey).trans hdrifted.1
    have hjsku := hkinds bill hmem i hi j hj hproduct hisku
    refine bookedKey_ne_iff.mpr hdrifted ?_
    rw [← hjkey, ← hikey]
    exact (congrArg₂ ItemKey.mk hproduct (hisku.trans hjsku.symm)).symm
  omega

/-! ### Kinds of lines -/

theorem oneKind_saved (h : ∀ b ∈ s.bills.rows, OneKind b.items) (hbills : s'.bills = s.bills.set edited)
    (hedited : OneKind edited.items) : ∀ b ∈ s'.bills.rows, OneKind b.items := by
  intro b hb
  rw [hbills] at hb
  rcases mem_set.mp hb with ⟨hb, -⟩ | ⟨rfl, -⟩
  · exact h b hb
  · exact hedited

theorem oneKind_write (h : ∀ b ∈ s.bills.rows, OneKind b.items) (hw : Write s s') :
    ∀ b ∈ s'.bills.rows, OneKind b.items := by
  cases hw with
  | nothing | elsewhere | pay => exact h
  | @draft bill hid hstatus hpaid hnamed =>
    intro b hb
    rcases (mem_insert hid).mp hb with hb | rfl
    · exact h b hb
    · exact hnamed.oneKind
  | redraft hget hstatus hedited hpaid hnamed => exact oneKind_saved h rfl hnamed.oneKind
  | @drop bill hget hstatus => exact oneKind_saved h rfl (h bill (mem_of_get? hget))
  | @book bill products hget hstatus hstock =>
    exact oneKind_saved h rfl (h bill (mem_of_get? hget))
  | @unbook bill products hget hstatus hreturns hstock =>
    exact oneKind_saved h rfl (h bill (mem_of_get? hget))

end Writes

/-! ## Steps and runs -/

structure Sound (s : Shop) : Prop where
  booked : Booked s
  kinds : ∀ b ∈ s.bills.rows, OneKind b.items

theorem sound_step (s : Shop) (op : PurchaseOp) (h : Sound s) : Sound (purchaseStep s op) := by
  refine purchaseStep_keeps (I := Sound) (fun s s' hw hs => ?_) (fun s p r s' hsend hs => ?_)
    (fun s bill edited s' hedit hs => ?_) s op h
  · exact ⟨hs.booked.write hw, oneKind_write hs.kinds hw⟩
  · refine ⟨hs.booked.send hsend, ?_⟩
    obtain ⟨products, -, rfl⟩ := hsend.written
    exact hs.kinds
  · refine ⟨hs.booked.edit hedit, ?_⟩
    obtain ⟨products, -, hs'⟩ := hedit.written
    rw [hs']
    exact oneKind_saved hs.kinds rfl hedit.named.oneKind

theorem returnsWithin_step_iff {s : Shop} (hsound : Sound s) (h : ReturnsWithin s) (op : PurchaseOp) :
    ReturnsWithin (purchaseStep s op) ↔ StoredAsAsked s op := by
  cases hrun : op.run s with
  | error e =>
    have hstep : purchaseStep s op = s := by
      unfold purchaseStep
      rw [hrun]
    rw [hstep]
    refine iff_of_true h ?_
    cases op with
    | createPurchaseReturn p now => exact fun _ s' hrun' => nomatch hrun.symm.trans hrun'
    | _ => trivial
  | ok s' =>
    have hstep : purchaseStep s op = s' := by
      unfold purchaseStep
      rw [hrun]
    rw [hstep]
    cases op with
    | createPurchaseReturn p now =>
      obtain ⟨r, hsend⟩ := createPurchaseReturn_eq_ok hrun
      constructor
      · intro hwithin hbill _ _ l hl hdrifted
        rw [← hsend.bill] at hbill
        exact not_within_of_drifted hsound.kinds hsend hbill hl hdrifted hwithin
      · intro hstored
        refine h.send hsend fun hbill l hl => ?_
        rw [hsend.bill] at hbill
        by_contra hne
        exact hstored hbill s' hrun l hl (bookedKey_ne_iff.mp hne)
    | _ =>
      refine iff_of_true ?_ trivial
      rcases PurchaseOp.run_writes hrun with ⟨s₁, h₁, h₂⟩ | ⟨p, now, r, hop, -⟩ |
        ⟨_, _, _, _, _, -, -, -, hedit⟩
      · exact (h.write hsound.booked h₁).write (hsound.booked.write h₁) h₂
      · cases hop
      · exact h.edit hedit

/-! ## Main result -/

/-- Along a run no more comes back against a bill, of any product and variant, than the bill has, if
and only if no return that goes through against a bill has a line without a SKU whose product has by
then exactly one variant. -/
theorem purchase_returns_iff (products : Products) (productName : ObjectId → String)
    (isParty : PartyType → ObjectId → Bool) (zone : Zone) (days : CashDays) (ops : List PurchaseOp) :
    Along purchaseStep ReturnsWithin (Shop.opened products productName isParty zone days) ops ↔
      Guarded purchaseStep StoredAsAsked (Shop.opened products productName isParty zone days)
        ops := by
  refine along_iff_guarded (I := Sound) (fun s op hsound _ _ => sound_step s op hsound)
    (fun s op hsound h => returnsWithin_step_iff hsound h op) ⟨booked_opened .., ?_⟩ ?_ ops
  · exact fun b hb => nomatch hb
  · exact fun b hb => nomatch hb

/-! ## A product that gets a variant -/

/-- A product with ten pieces and no variants. -/
def plainShop : Shop :=
  Shop.opened (fun id => if id = 1 then some { stock := 10 } else none) (fun _ => "Lamp")
    (fun _ _ => false) defaultZone empty

/-- All five pieces of bill 0, without a SKU. -/
def allFive : ReturnPayload where
  purchaseBillId := some 0
  items := [{ productId := 1, quantity := Nat.succPNat 4, cost := 1 }]

def returnedTwice : List PurchaseOp :=
  [.createPurchaseBill { items := [{ productId := 1, quantity := Nat.succPNat 4, cost := 1 }], confirm := true } 0,
    .elsewhere (fun id => if id = 1 then some { stock := 15, variants := [⟨"V", some 15⟩] } else none)
      (fun _ => "Lamp") (fun _ _ => false) defaultZone empty,
    .createPurchaseReturn allFive 0, .createPurchaseReturn allFive 0]

/-- Ten pieces have come back of a bill of five. -/
theorem five_pieces_returned_twice : ¬ Along purchaseStep ReturnsWithin plainShop returnedTwice ∧
    ((returnedQty (exec purchaseStep plainShop returnedTwice) 0).map Prod.snd).sum = 10 := by
  constructor
  · intro h
    have hlast := h.last
    have hbill := hlast _ (List.mem_of_getElem? (i := 0) rfl) ⟨1, "V"⟩
    revert hbill
    decide +kernel
  · decide +kernel

end DiscountBazar.Business
