/-
Returns and edits of one bill that overlap.

Both run in transactions under snapshot isolation. A return reads the bill and its earlier returns and
writes only the products that it puts back on the shelf; an edit reads the returns and writes the bill
and the products whose units change. So a return of damaged units conflicts with nothing. How many
units are on the shelf is not kept: a transaction that finds too few aborts, as any may.
-/
import DiscountBazar.Pos.Returns
import DiscountBazar.Lib.Snapshot

namespace DiscountBazar.Pos

open Pricing Transaction Snapshot Runs List

/-! ## The counter -/

structure PosShop where
  products : List PosProduct
  bill : PosBill
  returns : List PosReturn := []

/-- A document that two transactions may both write. -/
inductive Document where
  | bill
  | product (id : ObjectId)
  deriving DecidableEq

inductive CounterRequest where
  | giveBack (request : ReturnRequest)
  | edit (payload : PosPayload)

def unitsOf (items : List BillLine) (key : ObjectId × String) : ℤ :=
  (items.map (fun line => if line.key = key then ((line.quantity : ℕ) : ℤ) else 0)).sum

/-- The units that the last line of a product and variant has. -/
def lastQuantity (bill : PosBill) (key : ObjectId × String) : ℤ :=
  match bill.lineWithKey key with
  | some line => (line.quantity : ℕ)
  | none => 0

def unitsAsked (requested : List ReturnLine) (key : ObjectId × String) : ℤ :=
  (requested.map (fun line => if line.key = key then line.quantity else 0)).sum

/-- The products whose stock an edit changes. -/
def restockedByEdit (old new : List BillLine) : List ObjectId :=
  (((old ++ new).map BillLine.key).filter (fun key => decide (unitsOf old key ≠ unitsOf new key))).map
    Prod.fst

/-- What a transaction of the counter changes; none that is refused. -/
def counter : CounterRequest → PosShop → Option (Effect PosShop Document)
  | .giveBack request, shop =>
    match createPosReturn shop.bill (fun id => (findProduct shop.products id).isSome) shop.returns
        request with
    | .error _ => none
    | .ok created => some
        { writes := (created.items.filter PosReturnItem.restocked).map
            (fun item => .product item.product)
          apply := fun now => { now with returns := now.returns ++ [created] } }
  | .edit payload, shop =>
    if shop.returns ≠ [] then none
    else
      match editPosSale shop.products payload shop.bill with
      | .error _ => none
      | .ok edited => some
          { writes := .bill :: (restockedByEdit shop.bill.items edited.items).map Document.product
            apply := fun now => { now with bill := edited } }

/-! ## The property -/

/-- No more units come back than the bill has, and while one has not, it can. -/
structure ReturnsWithinBill (shop : PosShop) : Prop where
  bounded : ∀ key, alreadyReturned shop.returns key ≤ unitsOf shop.bill.items key
  accepted : ∀ key condition, alreadyReturned shop.returns key < unitsOf shop.bill.items key →
    ∀ known, ∃ created, createPosReturn shop.bill known shop.returns
      { items := [⟨key.1, key.2, 1, condition⟩] } = .ok created

/-! ## The condition -/

/-- A variant's sku has no blanks around it. -/
def SlotsTrimmed (items : List BillLine) : Prop := ∀ line ∈ items, trim line.variantSlot = line.variantSlot

/-- What a return found still holds when it commits: of what it takes no more has come back, and no
less is on the bill. And it does not use up the last line of a product and variant that has units on
other lines too. An edit commits before any return, and keeps to skus without blanks. -/
def CommitInOrder (t : Running PosShop CounterRequest) (store : PosShop) : Prop :=
  match t.request with
  | .giveBack request =>
    ∀ line ∈ request.items,
      alreadyReturned store.returns line.key ≤ alreadyReturned t.snapshot.returns line.key ∧
      unitsOf t.snapshot.bill.items line.key ≤ unitsOf store.bill.items line.key ∧
      (alreadyReturned store.returns line.key + unitsAsked request.items line.key
          < lastQuantity store.bill line.key ∨
        lastQuantity store.bill line.key = unitsOf store.bill.items line.key)
  | .edit payload =>
    store.returns = [] ∧
      SlotsTrimmed (((payload.items.mapM (editedLine t.snapshot.products t.snapshot.bill)).toOption).getD [])

instance (items : List BillLine) : Decidable (SlotsTrimmed items) :=
  inferInstanceAs (Decidable (∀ line ∈ items, _ = _))

instance : (t : Running PosShop CounterRequest) → (store : PosShop) → Decidable (CommitInOrder t store)
  | ⟨.giveBack request, _, _⟩, _ =>
    inferInstanceAs (Decidable (∀ line ∈ request.items, _ ≤ _ ∧ _ ≤ _ ∧ (_ < _ ∨ _ = _)))
  | ⟨.edit _, _, _⟩, store =>
    have : Decidable (store.returns = []) :=
      decidable_of_iff (store.returns.isEmpty = true) isEmpty_iff
    inferInstanceAs (Decidable (_ ∧ SlotsTrimmed _))

/-! ## The invariant -/

/-- What holds of the counter: the units that came back are on the bill, and of the last line of a
product and variant some are left, unless it is the only one. -/
structure Returnable (shop : PosShop) : Prop where
  slots : SlotsTrimmed shop.bill.items
  nonneg : ∀ key, 0 ≤ alreadyReturned shop.returns key
  bounded : ∀ key, alreadyReturned shop.returns key ≤ unitsOf shop.bill.items key
  last : ∀ key, alreadyReturned shop.returns key < lastQuantity shop.bill key ∨
    lastQuantity shop.bill key = unitsOf shop.bill.items key

section Units

theorem unitsOf_nonneg (items : List BillLine) (key : ObjectId × String) : 0 ≤ unitsOf items key := by
  refine sum_nonneg fun x hx => ?_
  obtain ⟨line, -, rfl⟩ := mem_map.mp hx
  split
  · exact Int.natCast_nonneg _
  · exact le_refl 0

theorem quantity_le_unitsOf {items : List BillLine} {line : BillLine} (h : line ∈ items) :
    ((line.quantity : ℕ) : ℤ) ≤ unitsOf items line.key := by
  have hnonneg : ∀ x ∈ items.map (fun other => if other.key = line.key then ((other.quantity : ℕ) : ℤ)
      else 0), 0 ≤ x := by
    intro x hx
    obtain ⟨other, -, rfl⟩ := mem_map.mp hx
    split
    · exact Int.natCast_nonneg _
    · exact le_refl 0
  refine single_le_sum hnonneg _ (mem_map.mpr ⟨line, h, if_pos rfl⟩)

theorem lastQuantity_le (bill : PosBill) (key : ObjectId × String) :
    lastQuantity bill key ≤ unitsOf bill.items key := by
  unfold lastQuantity
  split
  next line hline =>
    obtain ⟨hmem, rfl⟩ := lineWithKey_some hline
    exact quantity_le_unitsOf hmem
  next => exact unitsOf_nonneg bill.items key

theorem unitsOf_of_none {bill : PosBill} {key : ObjectId × String} (h : bill.lineWithKey key = none) :
    unitsOf bill.items key = 0 := by
  refine sum_eq_zero fun x hx => ?_
  obtain ⟨line, hline, rfl⟩ := mem_map.mp hx
  have hnot := find?_eq_none.mp h line (mem_reverse.mpr hline)
  exact if_neg fun hkey => hnot (decide_eq_true hkey)

end Units

/-! ## A return -/

section Return

variable {bill : PosBill} {known : ObjectId → Bool}

def unitsBack (items : List PosReturnItem) (key : ObjectId × String) : ℤ :=
  (items.map (fun item => if item.key = key then item.quantity else 0)).sum

variable {returned : ObjectId × String → ℤ} {requested : List ReturnLine}
  {items : List PosReturnItem}

theorem returnLines_units (h : returnLines bill known returned requested = .ok items)
    (key : ObjectId × String) : unitsBack items key = unitsAsked requested key := by
  induction requested generalizing returned items with
  | nil =>
    cases h
    rfl
  | cons line rest ih =>
    obtain ⟨-, orderLine, others, hline, -, hothers, rfl⟩ := returnLines_cons h
    have hkey : (orderLine.product, trim line.variantSlot) = line.key := by
      have hsame := (lineWithKey_some hline).2
      have hid : orderLine.product = line.productId := congrArg Prod.fst hsame
      rw [hid]
      rfl
    have hrest : (others.map (fun item => if item.key = key then item.quantity else 0)).sum
        = (rest.map (fun line => if line.key = key then line.quantity else 0)).sum := ih hothers
    unfold unitsBack unitsAsked
    rw [map_cons, sum_cons, map_cons, sum_cons, hrest]
    unfold PosReturnItem.key
    dsimp only
    rw [hkey]

theorem unitsAsked_cons (line : ReturnLine) (rest : List ReturnLine) (key : ObjectId × String) :
    unitsAsked (line :: rest) key = (if line.key = key then line.quantity else 0) + unitsAsked rest key :=
  sum_cons

variable {key : ObjectId × String}

theorem unitsAsked_of_not_mem (h : ¬ ∃ line ∈ requested, line.key = key) :
    unitsAsked requested key = 0 := by
  refine sum_eq_zero fun x hx => ?_
  obtain ⟨line, hline, rfl⟩ := mem_map.mp hx
  exact if_neg fun hkey => h ⟨line, hline, hkey⟩

theorem returnLines_left (h : returnLines bill known returned requested = .ok items)
    (hkey : ∃ line ∈ requested, line.key = key) :
    returned key + unitsAsked requested key ≤ lastQuantity bill key := by
  induction requested generalizing returned items with
  | nil => simp at hkey
  | cons line rest ih =>
    obtain ⟨-, orderLine, others, hline, hleft, hothers, -⟩ := returnLines_cons h
    rw [unitsAsked_cons]
    by_cases hrest : ∃ line ∈ rest, line.key = key
    · have hbound := ih hothers hrest
      by_cases hsame : line.key = key
      · subst hsame
        rw [Function.update_self] at hbound
        rw [if_pos rfl]
        omega
      · rw [Function.update_of_ne (Ne.symm hsame)] at hbound
        rw [if_neg hsame]
        omega
    · -- only this line asks for it
      rw [unitsAsked_of_not_mem hrest]
      obtain ⟨asked, hasked, rfl⟩ := hkey
      rcases mem_cons.mp hasked with rfl | hasked
      · unfold lastQuantity
        rw [hline, if_pos rfl]
        dsimp only
        omega
      · exact absurd ⟨asked, hasked, rfl⟩ hrest

theorem returnLines_nonneg (h : returnLines bill known returned requested = .ok items)
    (key : ObjectId × String) : 0 ≤ unitsAsked requested key := by
  induction requested generalizing returned items with
  | nil => exact le_refl 0
  | cons line rest ih =>
    obtain ⟨hquantity, orderLine, others, -, -, hothers, -⟩ := returnLines_cons h
    have hrest := ih hothers
    rw [unitsAsked_cons]
    split
    · omega
    · omega

theorem unitsBack_takeOffLast (excess : ℤ) (items : List PosReturnItem) (key : ObjectId × String) :
    unitsBack (takeOffLast excess items) key = unitsBack items key := by
  induction items with
  | nil => rfl
  | cons item rest ih =>
    cases rest with
    | nil => rfl
    | cons next rest =>
      change unitsBack (item :: takeOffLast excess (next :: rest)) key = _
      unfold unitsBack at ih ⊢
      rw [map_cons, sum_cons, ih]
      exact sum_cons.symm

theorem alreadyReturned_append (returns : List PosReturn) (created : PosReturn)
    (key : ObjectId × String) :
    alreadyReturned (returns ++ [created]) key
      = alreadyReturned returns key + unitsBack created.items key := by
  unfold alreadyReturned unitsBack
  rw [flatMap_append, map_append, sum_append, flatMap_singleton]

variable {returns : List PosReturn}

theorem createPosReturn_units {request : ReturnRequest} {created : PosReturn}
    (h : createPosReturn bill known returns request = .ok created) (key : ObjectId × String) :
    unitsBack created.items key = unitsAsked request.items key ∧
      0 ≤ unitsAsked request.items key ∧
      ((∃ line ∈ request.items, line.key = key) →
        alreadyReturned returns key + unitsAsked request.items key ≤ lastQuantity bill key) := by
  obtain ⟨items, -, hlines, hsettled⟩ := createPosReturn_eq_ok h
  refine ⟨?_, returnLines_nonneg hlines key, returnLines_left hlines⟩
  have hunits := returnLines_units hlines key
  have hcreated := settleReturn_eq_ok hsettled
  split at hcreated
  · rw [hcreated, unitsBack_takeOffLast, hunits]
  · rw [hcreated, hunits]

theorem createPosReturn_one {line : BillLine} (hline : bill.lineWithKey key = some line)
    (hslot : trim key.2 = key.2) (hleft : alreadyReturned returns key < (line.quantity : ℕ))
    (condition : Condition) :
    ∃ created, createPosReturn bill known returns { items := [⟨key.1, key.2, 1, condition⟩] }
      = .ok created := by
  have hkey : (⟨key.1, key.2, 1, condition⟩ : ReturnLine).key = key := Prod.ext rfl hslot
  have hlines : ∃ items, returnLines bill known (alreadyReturned returns)
      [⟨key.1, key.2, 1, condition⟩] = .ok items := by
    unfold returnLines
    rw [if_neg (show ¬ (1 : ℤ) ≤ 0 by decide), hkey, hline]
    dsimp only
    rw [if_neg (by omega)]
    exact ⟨_, rfl⟩
  obtain ⟨items, hitems⟩ := hlines
  unfold createPosReturn
  rw [if_neg (by simp), hitems]
  change ∃ created, settleReturn bill returns .cash items = .ok created
  unfold settleReturn
  rw [if_neg (by simp)]
  split
  · exact ⟨_, rfl⟩
  · exact ⟨_, rfl⟩

end Return

/-! ## The counter keeps what it returns within the bill -/

theorem Returnable.returnsWithinBill {shop : PosShop} (h : Returnable shop) : ReturnsWithinBill shop where
  bounded := h.bounded
  accepted := by
    intro key condition hleft known
    cases hline : shop.bill.lineWithKey key with
    | none =>
      have hnonneg := h.nonneg key
      rw [unitsOf_of_none hline] at hleft
      omega
    | some line =>
      obtain ⟨hmem, rfl⟩ := lineWithKey_some hline
      refine createPosReturn_one hline (h.slots line hmem) ?_ condition
      have hlast := h.last line.key
      unfold lastQuantity at hlast
      rw [hline] at hlast
      dsimp only at hlast
      omega

theorem returnable_of_no_returns {shop : PosShop} (hback : ∀ key, alreadyReturned shop.returns key = 0)
    (hslots : SlotsTrimmed shop.bill.items) : Returnable shop where
  slots := hslots
  nonneg := fun key => (hback key).ge
  bounded := by
    intro key
    rw [hback]
    exact unitsOf_nonneg shop.bill.items key
  last := by
    intro key
    rw [hback]
    unfold lastQuantity
    cases hline : shop.bill.lineWithKey key with
    | none => exact .inr (unitsOf_of_none hline).symm
    | some line =>
      left
      change (0 : ℤ) < (line.quantity : ℕ)
      exact_mod_cast line.quantity.pos

/-- A transaction that is in order keeps the units within the bill. -/
theorem Returnable.commit {t : Running PosShop CounterRequest} {store : PosShop}
    {effect : Effect PosShop Document} (hstore : Returnable store)
    (heffect : counter t.request t.snapshot = some effect) (hok : CommitInOrder t store) :
    Returnable (effect.apply store) := by
  unfold counter at heffect
  unfold CommitInOrder at hok
  cases hrequest : t.request with
  | giveBack request =>
    rw [hrequest] at heffect hok
    dsimp only at heffect hok
    split at heffect
    · cases heffect
    next created hcreated =>
      cases heffect
      have hunits : ∀ key, alreadyReturned (store.returns ++ [created]) key
          = alreadyReturned store.returns key + unitsAsked request.items key := by
        intro key
        rw [alreadyReturned_append, (createPosReturn_units hcreated key).1]
      refine ⟨hstore.slots, fun key => ?_, fun key => ?_, fun key => ?_⟩
      · have hold := hstore.nonneg key
        have hasked := (createPosReturn_units hcreated key).2.1
        dsimp only
        rw [hunits]
        omega
      · dsimp only
        rw [hunits]
        by_cases hkey : ∃ line ∈ request.items, line.key = key
        · -- what the return found is still so
          have hleft := (createPosReturn_units hcreated key).2.2 hkey
          have hlast := lastQuantity_le t.snapshot.bill key
          obtain ⟨line, hline, rfl⟩ := hkey
          obtain ⟨hback, hbill, -⟩ := hok line hline
          omega
        · have hold := hstore.bounded key
          rw [unitsAsked_of_not_mem hkey]
          omega
      · dsimp only
        rw [hunits]
        by_cases hkey : ∃ line ∈ request.items, line.key = key
        · obtain ⟨line, hline, rfl⟩ := hkey
          exact (hok line hline).2.2
        · have hold := hstore.last key
          rw [unitsAsked_of_not_mem hkey]
          omega
  | edit payload =>
    rw [hrequest] at heffect hok
    dsimp only at heffect hok
    split at heffect
    · cases heffect
    · split at heffect
      · cases heffect
      next edited hedited =>
        cases heffect
        obtain ⟨hnone, hslots⟩ := hok
        have hback : ∀ key, alreadyReturned store.returns key = 0 := by
          intro key
          rw [hnone]
          rfl
        have hitems : edited.items = ((payload.items.mapM (editedLine t.snapshot.products
            t.snapshot.bill)).toOption).getD [] := by
          unfold editPosSale at hedited
          rw [bind_eq_ok] at hedited
          obtain ⟨newItems, hnewItems, hedited⟩ := hedited
          cases hedited
          rw [hnewItems]
          rfl
        refine returnable_of_no_returns hback ?_
        dsimp only
        rw [hitems]
        exact hslots

/-- Where every transaction that commits is in order, no more units come back than the bill has, and
each that has not can. -/
theorem returns_within_bill (shop : PosShop) (hnone : shop.returns = [])
    (hslots : SlotsTrimmed shop.bill.items) (actions : List (Action CounterRequest))
    (hactions : Guarded (step counter) (CommitsWith counter CommitInOrder) { store := shop }
      actions) :
    Along (step counter) (fun s => ReturnsWithinBill s.store) { store := shop } actions := by
  have hshop : Returnable shop := by
    refine returnable_of_no_returns (fun key => ?_) hslots
    rw [hnone]
    rfl
  have halong := along_of_commits (P := Returnable) (s := { store := shop }) ⟨hshop, by simp⟩
    (fun _ _ _ _ hstore heffect hok => hstore.commit heffect hok) hactions
  exact halong.mono fun s hs => hs.store.returnsWithinBill

/-! ## Two returns of one lamp -/

def lampShop : PosShop where
  products := [{ id := 2, name := "Lamp" }]
  bill :=
    { items := [⟨2, "", "Lamp", ⟨1, Nat.one_pos⟩, (100 : ℕ), 0⟩]
      isTaxInclusive := true
      paymentBreakdown := ⟨10000, 0, 0, true, 10000, 10000, 0, 0⟩ }

def bringLamp (condition : Condition) : CounterRequest :=
  .giveBack { items := [{ productId := 2, quantity := 1, condition }] }

def atTwoTills (condition : Condition) : List (Action CounterRequest) :=
  [.start (bringLamp condition), .start (bringLamp condition), .commit 0, .commit 1]

/-- A good lamp goes back on the shelf, so the second return has no effect. -/
theorem returns_within_bill_lamp :
    Along (step counter) (fun s => ReturnsWithinBill s.store) { store := lampShop }
      (atTwoTills .good) :=
  returns_within_bill lampShop rfl (by decide +kernel) _ (by decide +kernel)

/-- A damaged one comes back twice. -/
theorem damaged_lamp_twice :
    ¬ ∀ (shop : PosShop) (actions : List (Action CounterRequest)), shop.returns = [] →
      Along (step counter) (fun s => ReturnsWithinBill s.store) { store := shop } actions := by
  intro within
  have hlast := (within lampShop (atTwoTills .damaged) rfl).last
  have hbounded := hlast.bounded (2, "")
  revert hbounded
  decide +kernel

end DiscountBazar.Pos
