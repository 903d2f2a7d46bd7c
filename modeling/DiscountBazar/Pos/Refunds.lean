/-
What the returns of a bill give back, against what the bill collected.

The cap on the refunds is the amount due to the nearest rupee, which may be more than the amount
due. A return that meets the cap takes the excess off its last line only, which may not have as much.
-/
import DiscountBazar.Pos.Returns

namespace DiscountBazar.Pos

open Pricing Transaction Runs List

/-! ## The property -/

/-- The returns give back no more than the amount due, and each return what its lines give back. -/
structure RefundsBounded (bill : PosBill) (returns : List PosReturn) : Prop where
  total : 100 * alreadyRefunded returns ≤ bill.paymentBreakdown.grandTotal
  items : ∀ posReturn ∈ returns, posReturn.refundTotal = totalOf posReturn.items

/-- A request, with the products that are there when it comes. -/
structure ReturnCall where
  request : ReturnRequest
  known : ObjectId → Bool := fun _ => true

/-- The returns after a call; one that is refused stores nothing. -/
def recordReturn (bill : PosBill) (returns : List PosReturn) (call : ReturnCall) : List PosReturn :=
  match createPosReturn bill call.known returns call.request with
  | .ok created => returns ++ [created]
  | .error _ => returns

/-! ## The condition -/

/-- What a line that is asked for gives back before the cap. -/
def lineRefund (bill : PosBill) (requested : ReturnLine) : ℤ :=
  match bill.lineWithKey requested.key with
  | some orderLine => unitRefund bill orderLine * requested.quantity
  | none => 0

/-- Where a return is accepted: the refund and those before it stay within the amount due, or the
amount due does not round up to the next rupee; and all lines but the last are within the cap. -/
def ReturnInOrder (bill : PosBill) (returns : List PosReturn) (call : ReturnCall) : Prop :=
  (∃ created, createPosReturn bill call.known returns call.request = .ok created) →
    let refund := (call.request.items.map (lineRefund bill)).sum
    (100 * (alreadyRefunded returns + refund) ≤ bill.paymentBreakdown.grandTotal ∨
        bill.paymentBreakdown.grandTotal % 100 < 50) ∧
      ∀ last ∈ call.request.items.getLast?, refund - lineRefund bill last ≤ maxRefundable bill returns

/-! ## The amounts of a return -/

section Amounts

variable {bill : PosBill} {returns : List PosReturn}

theorem paidRatio_nonneg (bill : PosBill) : 0 ≤ paidRatio bill := by
  unfold paidRatio
  dsimp only
  split
  · exact zero_le_one
  · split
    · exact le_min (le_max_right _ _) zero_le_one
    · exact le_max_right _ _

theorem unitRefund_nonneg (bill : PosBill) (line : BillLine) : 0 ≤ unitRefund bill line :=
  mathRound_nonneg (mul_nonneg line.price.coe_nonneg (paidRatio_nonneg bill))

theorem returnLines_amounts {known : ObjectId → Bool} {returned : ObjectId × String → ℤ}
    {requested : List ReturnLine} {items : List PosReturnItem}
    (h : returnLines bill known returned requested = .ok items) :
    items.map PosReturnItem.refundAmount = requested.map (lineRefund bill) ∧
      ∀ item ∈ items, 0 ≤ item.refundAmount := by
  induction requested generalizing returned items with
  | nil =>
    cases h
    exact ⟨rfl, by simp⟩
  | cons line rest ih =>
    obtain ⟨hquantity, orderLine, others, hline, -, hothers, rfl⟩ := returnLines_cons h
    obtain ⟨hamounts, hnonneg⟩ := ih hothers
    constructor
    · rw [map_cons, map_cons, hamounts]
      unfold lineRefund
      rw [hline]
    · intro item hitem
      rcases mem_cons.mp hitem with rfl | hitem
      · exact mul_nonneg (unitRefund_nonneg bill orderLine) hquantity.le
      · exact hnonneg item hitem

theorem totalOf_cons (item : PosReturnItem) (items : List PosReturnItem) :
    totalOf (item :: items) = item.refundAmount + totalOf items := sum_cons

theorem totalOf_takeOffLast (excess : ℤ) {items : List PosReturnItem} {last : PosReturnItem}
    (h : items.getLast? = some last) :
    totalOf (takeOffLast excess items)
      = totalOf items - last.refundAmount + max (last.refundAmount - excess) 0 := by
  induction items with
  | nil => cases h
  | cons item rest ih =>
    cases rest with
    | nil =>
      cases h
      simp [takeOffLast, totalOf]
    | cons next rest =>
      rw [getLast?_cons_cons] at h
      change totalOf (item :: takeOffLast excess (next :: rest)) = _
      rw [totalOf_cons, ih h, totalOf_cons item]
      ring

theorem mathRound_left (grandTotal refunded : ℤ) :
    mathRound (fromPaise grandTotal - refunded) = (grandTotal + 50) / 100 - refunded := by
  have hshift : fromPaise grandTotal - refunded + 1 / 2
      = (((grandTotal + 50 : ℤ) : ℚ) / (100 : ℕ)) - (refunded : ℤ) := by
    unfold fromPaise
    push_cast
    ring
  unfold mathRound
  rw [hshift, Int.floor_sub_intCast, Rat.floor_intCast_div_natCast]
  rfl

theorem maxRefundable_eq (h : RefundsBounded bill returns) :
    maxRefundable bill returns
      = (bill.paymentBreakdown.grandTotal + 50) / 100 - alreadyRefunded returns := by
  have htotal := h.total
  unfold maxRefundable
  rw [mathRound_left]
  omega

theorem refundsBounded_record_iff (h : RefundsBounded bill returns) (call : ReturnCall) :
    RefundsBounded bill (recordReturn bill returns call) ↔ ReturnInOrder bill returns call := by
  unfold recordReturn ReturnInOrder
  cases hcreate : createPosReturn bill call.known returns call.request with
  | error e =>
    refine ⟨fun _ haccepted => ?_, fun _ => h⟩
    obtain ⟨created, hcreated⟩ := haccepted
    cases hcreated
  | ok created =>
    obtain ⟨items, hasked, hlines, hsettled⟩ := createPosReturn_eq_ok hcreate
    obtain ⟨hamounts, hnonneg⟩ := returnLines_amounts hlines
    have hcreated := settleReturn_eq_ok hsettled
    have hitems : items ≠ [] := by
      rintro rfl
      exact hasked (map_eq_nil_iff.mp hamounts.symm)
    obtain ⟨last, hlast⟩ : ∃ last, items.getLast? = some last :=
      ⟨_, getLast?_eq_some_getLast hitems⟩
    -- the last line that is asked for is the one that the excess is taken off
    have hlastasked : call.request.items.getLast?.map (lineRefund bill) = some last.refundAmount := by
      rw [← getLast?_map, ← hamounts, getLast?_map, hlast]
      rfl
    obtain ⟨asked, hasked?, haskedrefund⟩ := Option.map_eq_some_iff.mp hlastasked
    have hrefund : (call.request.items.map (lineRefund bill)).sum = totalOf items :=
      congrArg sum hamounts.symm
    have hlastnonneg : 0 ≤ last.refundAmount := hnonneg last (mem_of_getLast? hlast)
    have hmax := maxRefundable_eq h
    have hbefore := h.total
    have hbounded : RefundsBounded bill (returns ++ [created]) ↔
        100 * (alreadyRefunded returns + created.refundTotal) ≤ bill.paymentBreakdown.grandTotal ∧
          created.refundTotal = totalOf created.items := by
      have hrefunded : alreadyRefunded (returns ++ [created])
          = alreadyRefunded returns + created.refundTotal := by
        unfold alreadyRefunded
        rw [map_append, sum_append, map_singleton, sum_singleton]
      rw [← hrefunded]
      constructor
      · exact fun hall => ⟨hall.total, hall.items created (by simp)⟩
      · refine fun hall => ⟨hall.1, fun posReturn hmem => ?_⟩
        rcases mem_append.mp hmem with hmem | hmem
        · exact h.items posReturn hmem
        · rw [mem_singleton.mp hmem]
          exact hall.2
    rw [hbounded, hrefund, hasked?]
    simp only [Option.mem_def, Option.some.injEq, forall_eq', haskedrefund, Except.ok.injEq,
      exists_eq', forall_const]
    split at hcreated
    next hcapped =>
      rw [hcreated, totalOf_takeOffLast _ hlast]
      dsimp only
      omega
    next hcapped =>
      rw [hcreated]
      dsimp only
      omega

end Amounts

def lampPayload : PosPayload where
  items := [{ productId := 2, quantity := ⟨1, Nat.one_pos⟩, price := 498 / 5 }]

def lampBill : PosBill where
  items := [⟨2, "", "Lamp", ⟨1, Nat.one_pos⟩, 498 / 5, 0⟩]
  isTaxInclusive := true
  paymentBreakdown := ⟨9960, 0, 0, true, 9960, 9960, 0, 0⟩

theorem lampBill_billed : Billed lampBill := by
  have hsold : createPosSale [{ id := 2, name := "Lamp" }] {} lampPayload 0 = .ok lampBill := by
    decide +kernel
  exact Billed.sale hsold

def lampReturn : ReturnCall := { request := { items := [{ productId := 2, quantity := 1 }] } }

end DiscountBazar.Pos
