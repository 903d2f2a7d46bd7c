/-
What a full return leaves of a bill in the profit report.

A sale is costed by what was noted on its lines, and a return by what the products cost now.
-/
import DiscountBazar.Lib.Keys
import DiscountBazar.Pos.Interleavings
import DiscountBazar.Pos.Reports

namespace DiscountBazar.Pos

open Transaction List

/-- All units of a bill came back in good condition, in returns that the counter accepted; a product
of the bill that was gone by then is not in the catalogue later. -/
structure ReturnedInFull (bill : PosBill) (prods : List CostedProduct) (returns : List PosReturn) :
    Prop where
  units : ∀ key, alreadyReturned returns key = unitsOf bill.items key
  good : ∀ r ∈ returns, ∀ i ∈ r.items, i.condition = .good
  made : ∀ r ∈ returns, ∃ known before request,
    createPosReturn bill known before request = .ok r ∧
      ∀ line ∈ bill.items, known line.product = false → ∀ p ∈ prods, p.id ≠ line.product

/-- What the noted costs come to beyond what the products cost now. -/
def costDrift (o : ReportedOrder) (costs : ObjectId → ℤ) : ℤ :=
  (o.items.map (fun i => ((i.quantity : ℕ) : ℤ)
    * (i.costPrice.getD (costs i.product) - costs i.product))).sum

section Returned

variable {bill : PosBill} {prods : List CostedProduct} {returns : List PosReturn}

theorem returnLines_restocked {known : ObjectId → Bool} {returned : ObjectId × String → ℤ}
    {requested : List ReturnLine} {items : List PosReturnItem}
    (h : returnLines bill known returned requested = .ok items) :
    ∀ i ∈ items, i.restocked = (decide (i.condition = .good) && known i.product) ∧
      ∃ line ∈ bill.items, line.product = i.product := by
  induction requested generalizing returned items with
  | nil =>
    cases h
    exact fun i hi => nomatch hi
  | cons line rest ih =>
    obtain ⟨-, orderLine, others, hline, -, hothers, rfl⟩ := returnLines_cons h
    have hmem : orderLine ∈ bill.items := mem_reverse.mp (mem_of_find?_eq_some hline)
    exact forall_mem_cons.mpr ⟨⟨rfl, orderLine, hmem, rfl⟩, ih hothers⟩

theorem mem_takeOffLast {excess : ℤ} {items : List PosReturnItem} {i : PosReturnItem}
    (h : i ∈ takeOffLast excess items) : ∃ i' ∈ items, i.restocked = i'.restocked ∧
      i.condition = i'.condition ∧ i.product = i'.product := by
  fun_induction takeOffLast excess items with
  | case1 => cases h
  | case2 last =>
    cases mem_singleton.mp h
    exact ⟨last, mem_singleton_self last, rfl, rfl, rfl⟩
  | case3 item rest hrest ih =>
    rcases mem_cons.mp h with rfl | h
    · exact ⟨i, mem_cons_self, rfl, rfl, rfl⟩
    · obtain ⟨i', hi', hsame⟩ := ih h
      exact ⟨i', mem_cons_of_mem _ hi', hsame⟩

theorem ReturnedInFull.cost_of_gone (h : ReturnedInFull bill prods returns) {r : PosReturn}
    (hr : r ∈ returns) {i : PosReturnItem} (hi : i ∈ r.items) (hgone : i.restocked = false) :
    costMap prods i.product = 0 := by
  obtain ⟨known, before, request, hcreate, hknown⟩ := h.made r hr
  obtain ⟨items, -, hlines, hsettle⟩ := createPosReturn_eq_ok hcreate
  have hrestocked : i.restocked = (decide (i.condition = .good) && known i.product) ∧
      ∃ line ∈ bill.items, line.product = i.product := by
    have hcreated := settleReturn_eq_ok hsettle
    split at hcreated
    · subst hcreated
      obtain ⟨i', hi', h₁, h₂, h₃⟩ := mem_takeOffLast hi
      rw [h₁, h₂, h₃]
      exact returnLines_restocked hlines i' hi'
    · subst hcreated
      exact returnLines_restocked hlines i hi
  obtain ⟨hrestocked, line, hline, hproduct⟩ := hrestocked
  rw [h.good r hr i hi, hgone, decide_eq_true rfl, Bool.true_and, ← hproduct] at hrestocked
  have hnone : prods.find? (fun p => decide (p.id = i.product)) = none := by
    refine find?_eq_none.mpr (fun p hp hid => ?_)
    exact hknown line hline hrestocked.symm p hp ((of_decide_eq_true hid).trans hproduct.symm)
  rw [costMap, hnone]
  rfl

theorem ReturnedInFull.returnedCost_eq (h : ReturnedInFull bill prods returns) :
    returnedCost returns (costMap prods)
      = (bill.items.map (fun i => ((i.quantity : ℕ) : ℤ) * costMap prods i.product)).sum := by
  have hall : returnedCost returns (costMap prods) = ((returns.flatMap PosReturn.items).map
      (fun i => i.quantity * costMap prods i.product)).sum := by
    have hcost := fun r hr i hi => h.cost_of_gone (r := r) hr (i := i) hi
    clear h
    unfold returnedCost
    induction returns with
    | nil => rfl
    | cons r returns ih =>
      rw [map_cons, sum_cons, flatMap_cons, map_append, sum_append,
        ih (fun r' hr' => hcost r' (mem_cons_of_mem _ hr'))]
      refine congrArg (· + _) ?_
      have hitems := hcost r mem_cons_self
      generalize r.items = items at hitems
      induction items with
      | nil => rfl
      | cons i items ihi =>
        have hrest := ihi (fun i' hi' => hitems i' (mem_cons_of_mem _ hi'))
        cases hback : i.restocked with
        | true => simp [hback, hrest]
        | false =>
          have hzero := hitems i mem_cons_self hback
          simp [hback, hrest, hzero]
  have hkeys := nodup_dedup ((returns.flatMap PosReturn.items).map PosReturnItem.key
    ++ bill.items.map BillLine.key)
  have hback := sum_weighted PosReturnItem.key PosReturnItem.quantity
    (fun key => costMap prods key.1) hkeys
    (fun i (hi : i ∈ returns.flatMap PosReturn.items) =>
      mem_dedup.mpr (mem_append_left _ (mem_map_of_mem hi)))
  have hsold := sum_weighted BillLine.key (fun i => ((i.quantity : ℕ) : ℤ))
    (fun key => costMap prods key.1) hkeys
    (fun i (hi : i ∈ bill.items) =>
      mem_dedup.mpr (mem_append_right _ (mem_map_of_mem hi)))
  have hsame := hback.trans ((congrArg sum (map_congr_left (fun key _ =>
    congrArg (· * costMap prods key.1) (h.units key)))).trans hsold.symm)
  rw [hall]
  exact hsame

theorem orderCost_eq (o : ReportedOrder) (costs : ObjectId → ℤ) :
    orderCost o costs
      = (o.items.map (fun i => ((i.quantity : ℕ) : ℤ) * costs i.product)).sum
        + costDrift o costs := by
  unfold orderCost costDrift
  rw [← sum_map_add]
  refine congrArg sum (map_congr_left (fun i _ => ?_))
  ring

end Returned

/-- A bill that came back leaves no cost exactly where its noted costs come to what the products
cost now. -/
theorem full_return_costs_nothing_iff {bill : PosBill} {prods : List CostedProduct}
    {returns : List PosReturn} {o : ReportedOrder}
    (ho : o.items.map ReportedLine.toBillLine = bill.items)
    (h : ReturnedInFull bill prods returns) (sales : List ReportedOrder) (others : List PosReturn)
    (expenses : ℤ) :
    (pnlReport (o :: sales) (returns ++ others) expenses (costMap prods)).costOfGoodsSold
        = (pnlReport sales others expenses (costMap prods)).costOfGoodsSold ↔
      costDrift o (costMap prods) = 0 := by
  have hreturned := h.returnedCost_eq
  rw [← ho, map_map] at hreturned
  have happend : returnedCost (returns ++ others) (costMap prods)
      = returnedCost returns (costMap prods) + returnedCost others (costMap prods) := by
    unfold returnedCost
    rw [map_append, sum_append]
  have hcost := orderCost_eq o (costMap prods)
  have hsame : (o.items.map ((fun i : BillLine => ((i.quantity : ℕ) : ℤ) * costMap prods i.product)
      ∘ ReportedLine.toBillLine)).sum
      = (o.items.map (fun i => ((i.quantity : ℕ) : ℤ) * costMap prods i.product)).sum := rfl
  unfold pnlReport
  dsimp only
  rw [map_cons, sum_cons, happend, hcost, hreturned, hsame]
  constructor
  · intro heq
    linarith
  · intro hzero
    linarith

/-! ## A lamp that comes back -/

def lamp : ReportedLine where
  product := 1
  variantSlot := ""
  quantity := ⟨1, Nat.one_pos⟩
  price := (150 : ℕ)
  gstPercent := (0 : ℕ)
  costPrice := some 10000

/-- A lamp of 150 rupees, with 100 rupees noted as its cost. -/
def soldLampBill : PosBill where
  items := [lamp.toBillLine]
  isTaxInclusive := true
  paymentBreakdown := ⟨15000, 0, 0, true, 15000, 15000, 0, 0⟩

def lampOrder : ReportedOrder := ⟨[lamp], 0, 15000⟩

def soldLampReturn : PosReturn where
  items := [⟨1, "", "", 1, 150, 150, .good, true⟩]
  refundMethod := .cash
  refundTotal := 150

theorem soldLampReturn_inFull (cost : ℚ) :
    ReturnedInFull soldLampBill [{ id := 1, purchaseCost := cost }] [soldLampReturn] where
  units key := by
    by_cases hkey : ((1 : ObjectId), "") = key
    · subst hkey
      decide +kernel
    · have hback : alreadyReturned [soldLampReturn] key = 0 :=
        congrArg (· + 0) (if_neg hkey : (if ((1 : ObjectId), "") = key then (1 : ℤ) else 0) = 0)
      have hsold : unitsOf soldLampBill.items key = 0 :=
        congrArg (· + 0) (if_neg hkey : (if ((1 : ObjectId), "") = key then (1 : ℤ) else 0) = 0)
      rw [hback, hsold]
  good := by decide
  made r hr := by
    cases mem_singleton.mp hr
    exact ⟨fun _ => true, [], { items := [{ productId := 1, quantity := 1 }] }, by decide +kernel,
      fun _ _ hgone => nomatch hgone⟩

theorem full_return_costs_nothing_unchanged :
    (pnlReport [lampOrder] [soldLampReturn] 0
        (costMap [{ id := 1, purchaseCost := 100 }])).costOfGoodsSold
      = (pnlReport [] [] 0 (costMap [{ id := 1, purchaseCost := 100 }])).costOfGoodsSold :=
  (full_return_costs_nothing_iff rfl (soldLampReturn_inFull 100) [] [] 0).mpr (by decide +kernel)

/-- Where the lamp is bought for 80 rupees later, 20 rupees of cost stay. -/
theorem returned_lamp_costs :
    ReturnedInFull soldLampBill [{ id := 1, purchaseCost := 80 }] [soldLampReturn] ∧
      (pnlReport [lampOrder] [soldLampReturn] 0
        (costMap [{ id := 1, purchaseCost := 80 }])).costOfGoodsSold = 2000 ∧
      (pnlReport [] [] 0 (costMap [{ id := 1, purchaseCost := 80 }])).costOfGoodsSold = 0 :=
  ⟨soldLampReturn_inFull 80, by decide +kernel, by decide +kernel⟩

end DiscountBazar.Pos
