/-
The stock that purchases move.

Stock is moved under a key that is written as text and read back: what stands between the first and
the second `::` is taken for the SKU. So an operation moves the stock of the SKU that is read, and
books the units under the SKU that is meant. The two are the same as long as no SKU contains the
separator.
-/
import DiscountBazar.Business.PurchaseUnits
import DiscountBazar.Business.SupplierBalance

namespace DiscountBazar.Business

open Transaction Inventory Runs Table List

/-! ## Counters -/

/-- A stock counter: that of a product, or that of one of its variants. -/
inductive Counter where
  | master (product : ObjectId)
  | variant (product : ObjectId) (variantSku : String) (named : variantSku ≠ "")

def variantStock (variantSku : String) (p : Product) : ℤ :=
  (p.variants.map (fun v => if v.sku = variantSku then v.stock.getD 0 else 0)).sum

def Counter.read (products : Products) : Counter → ℤ
  | .master product => ((products product).map Product.stock).getD 0
  | .variant product variantSku _ => ((products product).map (variantStock variantSku)).getD 0

def Counter.books : Counter → ItemKey → Bool
  | .master product => fun key => decide (key.product = product)
  | .variant product variantSku _ => ItemKey.only ⟨product, variantSku⟩

def Counter.moves : Counter → ItemKey → Bool
  | .master product => fun key => decide (key.product = product)
  | .variant product variantSku _ =>
    fun key => decide (key.product = product ∧ splitSku key = variantSku)

/-! ## Statements -/

/-- The units on the confirmed bills, without those that were sent back. -/
def Shop.booked (s : Shop) (p : ItemKey → Bool) : ℤ :=
  s.bills.sum (fun b => if b.status = .confirmed then unitsOf b.items p else 0)
    - s.returns.sum (fun r => unitsOf r.items p)

structure Tracked where
  shop : Shop
  moved : Counter → ℤ

def PurchaseOp.onPurchases : PurchaseOp → Bool
  | .elsewhere .. => false
  | _ => true

def trackedStep (t : Tracked) (op : PurchaseOp) : Tracked where
  shop := purchaseStep t.shop op
  moved c :=
    if op.onPurchases then
      t.moved c + (c.read (purchaseStep t.shop op).products - c.read t.shop.products)
    else t.moved c

/-- Every counter has changed by the units booked for it. -/
def NetStock (t : Tracked) : Prop := ∀ c, t.moved c = t.shop.booked c.books

/-- The SKU is read back as it was written. -/
def Plain (key : ItemKey) : Prop := splitSku key = key.variantSku

/-- The lines that the operation books are plain: those of a bill that it confirms, or that is
confirmed, and those of a return. -/
def LinesPlain (s : Shop) : PurchaseOp → Prop
  | .createPurchaseBill p _ => p.confirm = true → ∀ l ∈ p.items, Plain (bookedKey s.products l)
  | .confirmPurchaseBill id => ∀ b, s.bills.get? id = some b → ∀ i ∈ b.items, Plain i.key
  | .updatePurchaseBill id p =>
    ∀ b, confirmedBill s id = some b → ∀ l ∈ p.items, Plain (bookedKey s.products l)
  | .createPurchaseReturn p _ => ∀ l ∈ p.items, Plain (bookedKey s.products l)
  | _ => True

/-- An operation that goes through books no line under a SKU that is read otherwise. -/
def BooksPlain (s : Shop) (op : PurchaseOp) : Prop := ∀ s', op.run s = .ok s' → LinesPlain s op

/-! ## Plain keys -/

section Keys

theorem head_of_beforeSeparator {c d : Char} {cs ds : List Char}
    (h : beforeSeparator (c :: cs) = d :: ds) : d = c := by
  cases cs with
  | nil => exact (cons.inj h).1.symm
  | cons e es =>
    rw [beforeSeparator] at h
    split at h
    · cases h
    · exact (cons.inj h).1.symm

theorem beforeSeparator_idem (cs : List Char) :
    beforeSeparator (beforeSeparator cs) = beforeSeparator cs := by
  induction cs using beforeSeparator.induct with
  | case1 | case2 => rfl
  | case3 c d cs hsep =>
    rw [beforeSeparator, if_pos hsep]
    rfl
  | case4 c d cs hsep ih =>
    rw [beforeSeparator, if_neg hsep]
    -- the rest starts with `d`, or is empty
    cases hrest : beforeSeparator (d :: cs) with
    | nil => rfl
    | cons e es =>
      have hhead : e = d := head_of_beforeSeparator hrest
      subst hhead
      rw [hrest] at ih
      rw [beforeSeparator, if_neg hsep, ih]

theorem plain_splitSku (key : ItemKey) : Plain ⟨key.product, splitSku key⟩ := by
  unfold Plain splitSku
  rw [String.toList_ofList, beforeSeparator_idem]

variable {key : ItemKey}

theorem moves_eq_books (h : Plain key) (c : Counter) : c.moves key = c.books key := by
  cases c with
  | master product => rfl
  | variant product variantSku named =>
    unfold Plain at h
    simp only [Counter.moves, Counter.books, ItemKey.only, h]
    refine decide_eq_decide.mpr ?_
    obtain ⟨q, sku⟩ := key
    simp only [ItemKey.mk.injEq]

variable {items : List PurchaseItem}

theorem unitsOf_moves (h : ∀ i ∈ items, Plain i.key) (c : Counter) :
    unitsOf items c.moves = unitsOf items c.books := by
  unfold unitsOf
  refine congrArg List.sum (List.map_congr_left fun i hi => ?_)
  rw [moves_eq_books (h i hi)]

theorem unitsOf_moves_of_not_plain (h : ¬ Plain key) (hnamed : key.variantSku ≠ "")
    (items : List PurchaseItem) :
    unitsOf items (Counter.variant key.product key.variantSku hnamed).moves = 0 := by
  refine sum_eq_zero fun n hn => ?_
  obtain ⟨i, -, rfl⟩ := mem_map.mp hn
  refine if_neg fun hmoves => h ?_
  obtain ⟨hproduct, hsku⟩ := of_decide_eq_true hmoves
  have hplain := plain_splitSku i.key
  rwa [hproduct, hsku] at hplain

theorem plain_of_empty (h : key.variantSku = "") : Plain key := by
  unfold Plain splitSku
  rw [h]
  rfl

theorem plain_iff_unitsOf :
    (∀ i ∈ items, Plain i.key) ↔ ∀ c : Counter, unitsOf items c.moves = unitsOf items c.books := by
  constructor
  · exact fun h c => unitsOf_moves h c
  · intro h i hi
    by_contra hnot
    have hnamed : i.key.variantSku ≠ "" := fun hempty => hnot (plain_of_empty hempty)
    have heq := h (.variant i.key.product i.key.variantSku hnamed)
    rw [unitsOf_moves_of_not_plain hnot hnamed] at heq
    have hpos : 0 < unitsOf items (Counter.variant i.key.product i.key.variantSku hnamed).books :=
      unitsOf_pos hi (decide_eq_true rfl)
    omega

end Keys

/-! ## What moves -/

section Stock

variable {products products' : Products}

variable {delta : ℤ}

theorem variantStock_updateFirst {variantSku sku : String} {vs vs' : List Variant}
    (h : updateFirst (takesStock variantSku delta) (addStock delta) vs = some vs') :
    (vs'.map (fun v => if v.sku = sku then v.stock.getD 0 else 0)).sum
      = (vs.map (fun v => if v.sku = sku then v.stock.getD 0 else 0)).sum
        + if variantSku = sku then delta else 0 := by
  obtain ⟨before, v, rest, rfl, rfl, hv, -⟩ := updateFirst_eq_some h
  have hsku : v.sku = variantSku := (of_decide_eq_true hv).1
  simp only [map_append, map_cons, sum_append, sum_cons, addStock, hsku,
    Option.getD_some]
  split
  · ring
  · ring

/-- What `applyStock` does to the counters. -/
theorem read_stockApplied {p p' : Product} {variantSku : String}
    (h : stockApplied p variantSku delta = some p') :
    p'.stock = p.stock + delta ∧ ∀ sku, sku ≠ "" →
      variantStock sku p' = variantStock sku p + if variantSku = sku then delta else 0 := by
  unfold stockApplied at h
  split at h
  · obtain ⟨vs, hvs, rfl⟩ := Option.map_eq_some_iff.mp h
    exact ⟨rfl, fun sku _ => variantStock_updateFirst hvs⟩
  next hempty =>
    rw [not_not] at hempty
    split at h
    · cases h
    · cases h
      refine ⟨rfl, fun sku hsku => ?_⟩
      have hne : variantSku ≠ sku := fun heq => hsku (heq.symm.trans hempty)
      rw [if_neg hne, add_zero]
      rfl

theorem applyStock_read {productId : ObjectId} {variantSku : String}
    (h : applyStock products productId variantSku delta = .ok products') (c : Counter) :
    c.read products' = c.read products +
      match c with
      | .master product => if productId = product then delta else 0
      | .variant product sku _ => if productId = product ∧ variantSku = sku then delta else 0 := by
  unfold applyStock at h
  split at h
  next hzero =>
    rw [pure_eq_ok.mp h, hzero]
    cases c with
    | master | variant => simp
  next =>
    split at h
    next p' hp' =>
      rw [pure_eq_ok.mp h]
      obtain ⟨p, hp, happlied⟩ := Option.bind_eq_some_iff.mp hp'
      obtain ⟨hstock, hvariants⟩ := read_stockApplied happlied
      cases c with
      | master product =>
        unfold Counter.read
        by_cases hproduct : productId = product
        · subst hproduct
          simp [hp, hstock]
        · have hne : product ≠ productId := Ne.symm hproduct
          simp [hproduct, hne]
      | variant product sku named =>
        unfold Counter.read
        by_cases hproduct : productId = product
        · subst hproduct
          simp [hp, hvariants sku named]
        · have hne : product ≠ productId := Ne.symm hproduct
          simp [hproduct, hne]
    · cases h

theorem applyQtyMap_read {sign : ℤ} {m : QtyMap} (h : applyQtyMap sign products m = .ok products')
    (c : Counter) : c.read products' = c.read products + sign * m.total c.moves := by
  induction m generalizing products with
  | nil =>
    rw [pure_eq_ok.mp h]
    simp [QtyMap.total]
  | cons e m ih =>
    obtain ⟨key, qty⟩ := e
    unfold applyQtyMap at h
    obtain ⟨products₁, hone, hrest⟩ := bind_eq_ok.mp h
    rw [ih hrest, applyStock_read hone c]
    simp only [QtyMap.total, map_cons, sum_cons, mul_add, add_assoc]
    congr 1
    rw [add_left_inj]
    cases c with
    | master | variant => simp [Counter.moves]

theorem total_reductions (m : QtyMap) (p : ItemKey → Bool) :
    QtyMap.total (m.filter (fun e => decide (0 < e.2))) p
      - QtyMap.total ((m.filter (fun e => decide (e.2 < 0))).map (fun e => (e.1, -e.2))) p
      = m.total p := by
  induction m with
  | nil => rfl
  | cons e m ih =>
    obtain ⟨key, qty⟩ := e
    simp only [QtyMap.total, map_cons, sum_cons, filter_cons] at ih ⊢
    rcases lt_trichotomy qty 0 with hneg | rfl | hpos
    · have hnot : ¬ 0 < qty := by omega
      simp only [hneg, hnot, decide_true, decide_false, if_true, map_cons, sum_cons]
      simp only [Bool.false_eq_true, if_false]
      split
      · linarith
      · linarith
    · simpa using ih
    · have hnot : ¬ qty < 0 := by omega
      simp only [hpos, hnot, decide_true, decide_false, if_true, map_cons, sum_cons]
      simp only [Bool.false_eq_true, if_false]
      linarith

theorem applyDiff_read {old new : List PurchaseItem}
    (h : applyDiff products (qtyMap old) (qtyMap new) = .ok products') (c : Counter) :
    c.read products' = c.read products + unitsOf new c.moves - unitsOf old c.moves := by
  unfold applyDiff at h
  obtain ⟨products₁, hless, hmore⟩ := bind_eq_ok.mp h
  have hdiff := total_qtyDiff (p := c.moves) old new
  rw [← total_reductions] at hdiff
  rw [applyQtyMap_read hmore, applyQtyMap_read hless]
  linarith

end Stock

/-! ## What an operation books -/

def countedItems (b : PurchaseBill) : List PurchaseItem :=
  if b.status = .confirmed then b.items else []

theorem unitsOf_countedItems (b : PurchaseBill) (p : ItemKey → Bool) :
    unitsOf (countedItems b) p = if b.status = .confirmed then unitsOf b.items p else 0 := by
  unfold countedItems
  split
  · rfl
  · rfl

/-- An operation books new lines, with a sign, and takes old ones off a confirmed bill; it moves the
counters by the same. -/
structure Booking (s s' : Shop) (sign : ℤ) (new old : List PurchaseItem) : Prop where
  booked : ∀ p, s'.booked p = s.booked p + sign * unitsOf new p - unitsOf old p
  stock : ∀ c : Counter, c.read s'.products
    = c.read s.products + sign * unitsOf new c.moves - unitsOf old c.moves
  taken : old = [] ∨ ∃ b ∈ s.bills.rows, b.status = .confirmed ∧ b.items = old
  given : ∀ b ∈ s'.bills.rows, b.status = .confirmed → b ∈ s.bills.rows ∨ b.items = new

def PlainBills (s : Shop) : Prop :=
  ∀ b ∈ s.bills.rows, b.status = .confirmed → ∀ i ∈ b.items, Plain i.key

section Booking

variable {s s₁ s' : Shop} {sign : ℤ} {new old : List PurchaseItem} {bill edited : PurchaseBill}

theorem Booking.nothing (hbills : s'.bills = s.bills) (hreturns : s'.returns = s.returns)
    (hproducts : s'.products = s.products) : Booking s s' 1 [] [] := by
  constructor
  · intro p
    unfold Shop.booked
    rw [hbills, hreturns]
    simp
  · intro c
    rw [hproducts]
    simp
  · exact .inl rfl
  · intro b hb _
    rw [hbills] at hb
    exact .inl hb

/-- Saving a bill over another state of it. -/
theorem Booking.save (hget : s.bills.get? edited.id = some bill)
    (hbills : s'.bills = s.bills.set edited) (hreturns : s'.returns = s.returns)
    (hnew : countedItems edited = new) (hold : countedItems bill = old)
    (hstock : ∀ c : Counter, c.read s'.products
      = c.read s.products + unitsOf new c.moves - unitsOf old c.moves) :
    Booking s s' 1 new old := by
  subst hnew hold
  constructor
  · intro p
    have hsum := sum_set hget
      (fun b => if b.status = .confirmed then unitsOf b.items p else 0)
    unfold Shop.booked
    rw [hbills, hreturns, unitsOf_countedItems, unitsOf_countedItems]
    linarith
  · intro c
    rw [hstock, one_mul]
  · unfold countedItems
    split
    next hstatus => exact .inr ⟨bill, mem_of_get? hget, hstatus, rfl⟩
    next => exact .inl rfl
  · intro b hb hstatus
    rw [hbills] at hb
    rcases mem_set.mp hb with ⟨hb, -⟩ | ⟨rfl, -⟩
    · exact .inl hb
    · exact .inr (if_pos hstatus).symm

theorem Booking.after_draft (hid : bill.id ∉ s.bills.rows.map PurchaseBill.id)
    (hdraft : bill.status = .draft)
    (h : Booking { s with bills := s.bills.insert bill } s' 1 new []) : Booking s s' 1 new [] := by
  have hnot : bill.status ≠ .confirmed := by
    rw [hdraft]
    exact fun heq => nomatch heq
  constructor
  · intro p
    rw [h.booked]
    unfold Shop.booked
    rw [sum_insert hid, if_neg hnot, add_zero]
  · exact h.stock
  · exact .inl rfl
  · intro b hb hstatus
    rcases h.given b hb hstatus with hold | hnew
    · rcases (mem_insert hid).mp hold with hold | rfl
      · exact .inl hold
      · exact absurd hstatus hnot
    · exact .inr hnew

theorem SendBack.booking {p : ReturnPayload} {r : PurchaseReturn} (h : SendBack s p r s') :
    Booking s s' (-1) r.items [] := by
  obtain ⟨products, hstock, rfl⟩ := h.written
  constructor
  · intro p
    unfold Shop.booked recordReturn
    dsimp only
    rw [sum_insert h.id, unitsOf_nil]
    ring
  · intro c
    have hread := applyQtyMap_read hstock c
    rw [total_qtyMap] at hread
    rw [unitsOf_nil, sub_zero]
    exact hread
  · exact .inl rfl
  · exact fun b hb _ => .inl hb

theorem Booking.net_iff (h : Booking s s' sign new old) (hsign : sign ≠ 0) (hplain : PlainBills s)
    (hnet : ∀ c : Counter, s.booked c.moves = s.booked c.books) :
    (∀ c : Counter, s'.booked c.moves = s'.booked c.books) ↔ ∀ i ∈ new, Plain i.key := by
  have hold : ∀ c : Counter, unitsOf old c.moves = unitsOf old c.books := by
    rcases h.taken with rfl | ⟨b, hb, hstatus, rfl⟩
    · exact fun _ => rfl
    · exact unitsOf_moves (hplain b hb hstatus)
  rw [plain_iff_unitsOf]
  refine forall_congr' fun c => ?_
  rw [h.booked, h.booked, hnet c, hold c, sub_left_inj, add_right_inj]
  exact mul_right_inj' hsign

theorem Booking.plainBills (h : Booking s s' sign new old) (hplain : PlainBills s)
    (hnew : ∀ i ∈ new, Plain i.key) : PlainBills s' := by
  intro b hb hstatus
  rcases h.given b hb hstatus with hold | hitems
  · exact hplain b hold hstatus
  · rw [hitems]
    exact hnew

theorem Booking.moved (h : Booking s s' sign new old) (c : Counter) :
    c.read s'.products - c.read s.products = s'.booked c.moves - s.booked c.moves := by
  rw [h.stock, h.booked]
  ring

end Booking

/-! ## Operations -/

section Operations

variable {s s' : Shop}

theorem countedItems_of_not {b : PurchaseBill} (h : b.status ≠ .confirmed) : countedItems b = [] :=
  if_neg h

theorem booking_confirmed {bill : PurchaseBill} (hget : s.bills.get? bill.id = some bill)
    (h : confirmBillTxn s bill = .ok s') : Booking s s' 1 bill.items [] := by
  obtain ⟨hstatus, products, hstock, rfl⟩ := confirmBillTxn_eq_ok h
  have hnot : bill.status ≠ .confirmed := by simp [hstatus]
  have hget' : s.bills.get? { bill with status := BillStatus.confirmed }.id = some bill := hget
  refine Booking.save hget' rfl rfl (if_pos rfl) (countedItems_of_not hnot) fun c => ?_
  have hread := applyQtyMap_read hstock c
  rw [total_qtyMap, one_mul] at hread
  rw [unitsOf_nil, sub_zero]
  exact hread

theorem booking_cancelled {id : ObjectId} (h : cancelPurchaseBill s id = .ok s') :
    ∃ old, Booking s s' 1 [] old := by
  obtain ⟨bill, hget, ⟨hstatus, rfl⟩ | ⟨hstatus, -, products, hstock, rfl⟩⟩ :=
    cancelPurchaseBill_eq_ok h
  · have hnot : bill.status ≠ .confirmed := by simp [hstatus]
    have hget' : s.bills.get? { bill with status := BillStatus.cancelled }.id = some bill := hget
    refine ⟨[], Booking.save hget' rfl rfl (countedItems_of_not (by simp))
      (countedItems_of_not hnot) fun c => ?_⟩
    simp [saveBill]
  · have hget' : s.bills.get? { bill with status := BillStatus.cancelled }.id = some bill := hget
    refine ⟨bill.items, Booking.save hget' rfl rfl (countedItems_of_not (by simp))
      (if_pos hstatus) fun c => ?_⟩
    have hread := applyQtyMap_read hstock c
    rw [total_qtyMap, neg_one_mul] at hread
    rw [unitsOf_nil, add_zero]
    exact hread

theorem booking_updated {id : ObjectId} {p : BillPayload} (h : updatePurchaseBill s id p = .ok s') :
    ∃ items old, nameItems s.products s.productName (priceItems p.items).priced = .ok items ∧
      Booking s s' 1 (if (confirmedBill s id).isSome then items else []) old := by
  obtain ⟨bill, supplierId, items, s₁, hget, -, -, hitems, hs₁, rfl⟩ := updatePurchaseBill_eq_ok h
  have hid : bill.id = id := key_of_get? hget
  have hopen := reopenBill_eq_ok hs₁
  by_cases hstatus : bill.status = .confirmed
  · rw [if_pos hstatus] at hopen
    obtain ⟨-, products, hstock, rfl⟩ := hopen
    have hstill : (editedBill bill p supplierId items).status = .confirmed := hstatus
    have hsome : (confirmedBill s id).isSome := by
      rw [confirmedBill_eq_some.mpr ⟨hget, hstatus⟩]
      rfl
    refine ⟨items, bill.items, hitems, ?_⟩
    rw [if_pos hsome, rewriteBill, if_pos hstill]
    have hget' : s.bills.get? (editedBill bill p supplierId items).id = some bill := by
      rw [← hid] at hget
      exact hget
    exact Booking.save hget' rfl rfl (if_pos hstill) (if_pos hstatus) (applyDiff_read hstock)
  · rw [if_neg hstatus] at hopen
    subst hopen
    have hstill : (editedBill bill p supplierId items).status ≠ .confirmed := hstatus
    have hget' : s₁.bills.get? (editedBill bill p supplierId items).id = some bill := by
      rw [← hid] at hget
      exact hget
    refine ⟨items, [], hitems, ?_⟩
    rw [confirmedBill_of_not hget hstatus, rewriteBill, if_neg hstill]
    refine Booking.save hget' rfl rfl (countedItems_of_not hstill) (countedItems_of_not hstatus)
      fun c => ?_
    simp [saveBill]

theorem plain_of_units {products : Products} {lines : List PurchaseLine} {items : List PurchaseItem}
    (h : items.map PurchaseItem.units
      = lines.map (fun l => (bookedKey products l, ((l.quantity : ℕ) : ℤ)))) :
    (∀ i ∈ items, Plain i.key) ↔ ∀ l ∈ lines, Plain (bookedKey products l) := by
  have hkeys : items.map PurchaseItem.key = lines.map (bookedKey products) := by
    have hfst := congrArg (map Prod.fst) h
    rwa [map_map, map_map] at hfst
  rw [← forall_mem_map (f := PurchaseItem.key) (P := Plain), hkeys, forall_mem_map]

theorem booksPlain_iff {op : PurchaseOp} (h : op.run s = .ok s') :
    BooksPlain s op ↔ LinesPlain s op :=
  ⟨fun hbooks => hbooks s' h, fun hlines _ _ => hlines⟩

theorem PurchaseOp.booking {op : PurchaseOp} (h : op.run s = .ok s') (hop : op.onPurchases = true) :
    ∃ sign new old, sign ≠ 0 ∧ Booking s s' sign new old ∧
      (BooksPlain s op ↔ ∀ i ∈ new, Plain i.key) := by
  rw [booksPlain_iff h]
  cases op with
  | createPurchaseBill p now =>
    obtain ⟨supplierId, items, hitems, hs'⟩ := createPurchaseBill_eq_ok h
    have hid := draftBill_id_notMem (s := s) p supplierId items now
    by_cases hconfirm : p.confirm = true
    · rw [if_pos hconfirm] at hs'
      refine ⟨1, items, [], one_ne_zero,
        .after_draft hid rfl (booking_confirmed (get?_insert_self hid) hs'), ?_⟩
      rw [plain_of_units (nameItems_units hitems)]
      exact ⟨fun hlines => hlines hconfirm, fun hlines _ => hlines⟩
    · rw [if_neg hconfirm] at hs'
      refine ⟨1, [], [], one_ne_zero, ?_, ?_⟩
      · rw [hs']
        exact .after_draft hid rfl (.nothing rfl rfl rfl)
      · exact iff_of_true (fun hp => absurd hp hconfirm) (fun i hi => nomatch hi)
  | confirmPurchaseBill id =>
    have hrun : DiscountBazar.Business.confirmPurchaseBill s id = .ok s' := h
    unfold DiscountBazar.Business.confirmPurchaseBill at hrun
    split at hrun
    · cases hrun
    next bill hget =>
      rw [bind_eq_ok] at hrun
      obtain ⟨-, -, hrun⟩ := hrun
      have hid : bill.id = id := key_of_get? hget
      subst hid
      refine ⟨1, bill.items, [], one_ne_zero, booking_confirmed hget hrun, ?_⟩
      constructor
      · exact fun hbooks => hbooks bill hget
      · intro hitems b hb
        cases hget.symm.trans hb
        exact hitems
  | updatePurchaseBill id p =>
    obtain ⟨items, old, hitems, hbooking⟩ := booking_updated h
    refine ⟨1, _, old, one_ne_zero, hbooking, ?_⟩
    unfold LinesPlain
    dsimp only
    cases hbill : confirmedBill s id with
    | none =>
      refine iff_of_true (fun b hb => ?_) (fun i hi => nomatch hi)
      cases hb
    | some bill =>
      rw [Option.isSome_some, if_pos rfl, plain_of_units (nameItems_units hitems)]
      exact ⟨fun hbooks => hbooks bill rfl, fun hbooks _ _ => hbooks⟩
  | cancelPurchaseBill id =>
    obtain ⟨old, hbooking⟩ := booking_cancelled h
    refine ⟨1, [], old, one_ne_zero, hbooking, ?_⟩
    exact iff_of_true trivial fun i hi => nomatch hi
  | createPurchaseReturn p now =>
    obtain ⟨r, hsend⟩ := createPurchaseReturn_eq_ok h
    exact ⟨-1, r.items, [], by decide, hsend.booking, (plain_of_units hsend.units).symm⟩
  | recordPayment r now =>
    refine ⟨1, [], [], one_ne_zero, ?_, ?_⟩
    · rcases recordPayment_eq_ok h with rfl | rfl
      · exact .nothing rfl rfl rfl
      · exact .nothing rfl rfl rfl
    · exact iff_of_true trivial fun i hi => nomatch hi
  | elsewhere products productName isParty zone days => exact nomatch hop

end Operations

/-! ## Steps and runs -/

/-- The counters have moved by what is booked, as it is read, and only plain lines are on confirmed
bills. -/
structure Moved (t : Tracked) : Prop where
  moved : ∀ c, t.moved c = t.shop.booked c.moves
  plain : PlainBills t.shop

variable {t : Tracked}

theorem netStock_iff (h : Moved t) :
    NetStock t ↔ ∀ c : Counter, t.shop.booked c.moves = t.shop.booked c.books := by
  unfold NetStock
  refine forall_congr' fun c => ?_
  rw [h.moved]

theorem trackedStep_error {op : PurchaseOp} {e : ServiceError} (h : op.run t.shop = .error e) :
    trackedStep t op = t := by
  have hstep : purchaseStep t.shop op = t.shop := by
    unfold purchaseStep
    rw [h]
  unfold trackedStep
  rw [hstep]
  simp

/-- The step lemma: one step keeps the counters moved by what is read, and they are right after it
exactly when it booked plain lines. -/
theorem trackedStep_spec (h : Moved t) (hnet : NetStock t) (op : PurchaseOp) :
    (NetStock (trackedStep t op) ↔ BooksPlain t.shop op) ∧
      (BooksPlain t.shop op → Moved (trackedStep t op)) := by
  cases hrun : op.run t.shop with
  | error e =>
    rw [trackedStep_error hrun]
    have hbooks : BooksPlain t.shop op := fun s' hrun' => nomatch hrun.symm.trans hrun'
    exact ⟨iff_of_true hnet hbooks, fun _ => h⟩
  | ok s' =>
    have hstep : purchaseStep t.shop op = s' := by
      unfold purchaseStep
      rw [hrun]
    by_cases hop : op.onPurchases = true
    · obtain ⟨sign, new, old, hsign, hbooking, hplain⟩ := op.booking hrun hop
      have hmoved : ∀ c, (trackedStep t op).moved c = s'.booked c.moves := by
        intro c
        have hc := hbooking.moved c
        unfold trackedStep
        dsimp only
        rw [if_pos hop, hstep, h.moved]
        linarith
      have hshop : (trackedStep t op).shop = s' := hstep
      rw [hplain]
      constructor
      · rw [← hbooking.net_iff hsign h.plain ((netStock_iff h).mp hnet)]
        unfold NetStock
        rw [hshop]
        exact forall_congr' fun c => by rw [hmoved]
      · intro hnew
        constructor
        · rw [hshop]
          exact hmoved
        · rw [hshop]
          exact hbooking.plainBills h.plain hnew
    · cases op with
      | elsewhere products productName isParty zone days =>
        rw [← hstep] at hrun
        have hbooks : BooksPlain t.shop (.elsewhere products productName isParty zone days) :=
          fun _ _ => trivial
        exact ⟨iff_of_true hnet hbooks, fun _ => ⟨h.moved, h.plain⟩⟩
      | _ => exact absurd rfl hop

/-- A shop before its first purchase, with nothing moved. -/
def Tracked.opened (products : Products) (productName : ObjectId → String)
    (isParty : PartyType → ObjectId → Bool) (zone : Zone) (days : CashDays) : Tracked where
  shop := Shop.opened products productName isParty zone days
  moved _ := 0

/-! ## Main result -/

/-- Along a run every counter has changed by the units on the confirmed bills less those that were
sent back, if and only if no operation that goes through books a line whose SKU contains `::`; and
an operation that fails changes nothing. -/
theorem purchase_stock_iff (products : Products) (productName : ObjectId → String)
    (isParty : PartyType → ObjectId → Bool) (zone : Zone) (days : CashDays) (ops : List PurchaseOp) :
    (Along trackedStep NetStock (Tracked.opened products productName isParty zone days) ops ↔
      Guarded trackedStep (fun t op => BooksPlain t.shop op)
        (Tracked.opened products productName isParty zone days) ops) ∧
      ∀ (t : Tracked) (op : PurchaseOp) (e : ServiceError),
        op.run t.shop = .error e → trackedStep t op = t := by
  refine ⟨?_, fun t op e => trackedStep_error⟩
  refine along_iff_guarded (I := Moved) (fun t op h hnet hnet' => ?_)
    (fun t op h hnet => (trackedStep_spec h hnet op).1) ?_ (fun _ => rfl) ops
  · have hspec := trackedStep_spec h hnet op
    exact hspec.2 (hspec.1.mp hnet')
  · constructor
    · exact fun _ => rfl
    · exact fun b hb => nomatch hb

/-! ## A SKU with the separator -/

/-- A product with the variants `A` and `A::B`, ten of each. -/
def twoVariantShop : Tracked :=
  Tracked.opened
    (fun id => if id = 1 then some { stock := 20, variants := [⟨"A", some 10⟩, ⟨"A::B", some 10⟩] }
      else none)
    (fun _ => "Lamp") (fun _ _ => false) defaultZone empty

/-- Three of `A::B` are bought. -/
def separatorBill : List PurchaseOp :=
  [.createPurchaseBill
    { items := [{ productId := 1, variantSku := "A::B", quantity := 3, cost := 1 }], confirm := true } 0]

/-- The units come to `A`. -/
theorem separator_moves_other_variant : ¬ Along trackedStep NetStock twoVariantShop separatorBill := by
  intro h
  have hlast := h.last (.variant 1 "A" (by decide))
  revert hlast
  decide +kernel

end DiscountBazar.Business
