/-
Returns at the counter (`posReturnService.js`).

A unit is given back at its price times the part of the list price that the customer paid, rounded to
whole rupees. What all returns give back is capped by the amount due, rounded to whole rupees too,
and what is above the cap is taken off the last line of the return.
-/
import DiscountBazar.Pos.Bills
import DiscountBazar.Lib.Run

namespace DiscountBazar.Pos

open Pricing Transaction

/-! ## Documents -/

inductive Condition where
  | good | damaged
  deriving DecidableEq

inductive RefundMethod where
  | cash | card | qr | credit
  deriving DecidableEq

structure ReturnLine where
  productId : ObjectId
  variantSlot : String := ""
  quantity : ℤ
  condition : Condition := .good

structure ReturnRequest where
  items : List ReturnLine
  refundMethod : RefundMethod := .cash

/-- A line of a return; amounts that are given back are whole rupees. -/
structure PosReturnItem where
  product : ObjectId
  productName : String
  variantSlot : String
  quantity : ℤ
  unitPrice : ℚ
  refundAmount : ℤ
  condition : Condition
  restocked : Bool
  deriving DecidableEq

structure PosReturn where
  items : List PosReturnItem
  refundMethod : RefundMethod
  refundTotal : ℤ
  deriving DecidableEq

/-- `lineKey` of what is asked for. -/
def ReturnLine.key (line : ReturnLine) : ObjectId × String := (line.productId, trim line.variantSlot)

def PosReturnItem.key (item : PosReturnItem) : ObjectId × String := (item.product, item.variantSlot)

/-! ## Amounts -/

def paidRatio (bill : PosBill) : ℚ :=
  let pb := bill.paymentBreakdown
  if pb.productSubtotal ≤ 0 then 1
  else
    let ratio := max ((pb.grandTotal : ℚ) / pb.productSubtotal) 0
    if bill.isTaxInclusive then min ratio 1 else ratio

/-- `getAlreadyReturnedMap`: the units of a product and variant that came back. -/
def alreadyReturned (returns : List PosReturn) (key : ObjectId × String) : ℤ :=
  ((returns.flatMap PosReturn.items).map
    (fun item => if item.key = key then item.quantity else 0)).sum

def alreadyRefunded (returns : List PosReturn) : ℤ := (returns.map PosReturn.refundTotal).sum

def unitRefund (bill : PosBill) (line : BillLine) : ℤ := mathRound (line.price * paidRatio bill)

def notInOrder : ServiceError := ⟨"One or more return items were not part of this order", some 400⟩

/-- The lines of a return, one by one; `returned` is what came back before, and `known` says whether
a product is still there to be put back on the shelf. -/
def returnLines (bill : PosBill) (known : ObjectId → Bool) :
    (ObjectId × String → ℤ) → List ReturnLine → Except ServiceError (List PosReturnItem)
  | _, [] => .ok []
  | returned, requested :: rest =>
    if requested.quantity ≤ 0 then .error ⟨"Return quantity must be at least 1", some 400⟩
    else
      match bill.lineWithKey requested.key with
      | none => .error notInOrder
      | some orderLine =>
        let returnable := (orderLine.quantity : ℕ) - returned requested.key
        if returnable < requested.quantity then
          .error ⟨"Cannot return " ++ toString requested.quantity ++ " x " ++
            (if orderLine.name = "" then "item" else orderLine.name) ++ " — only " ++
            toString (max returnable 0) ++ " left to return", some 400⟩
        else do
          let others ← returnLines bill known (Function.update returned requested.key
            (returned requested.key + requested.quantity)) rest
          .ok ({ product := orderLine.product
                 productName := orderLine.name
                 variantSlot := trim requested.variantSlot
                 quantity := requested.quantity
                 unitPrice := orderLine.price
                 refundAmount := unitRefund bill orderLine * requested.quantity
                 condition := requested.condition
                 restocked := decide (requested.condition = .good) && known orderLine.product }
               :: others)

def totalOf (items : List PosReturnItem) : ℤ := (items.map PosReturnItem.refundAmount).sum

/-- What is left of the amount due, in whole rupees. -/
def maxRefundable (bill : PosBill) (returns : List PosReturn) : ℤ :=
  max (mathRound (fromPaise bill.paymentBreakdown.grandTotal - alreadyRefunded returns)) 0

def takeOffLast (excess : ℤ) : List PosReturnItem → List PosReturnItem
  | [] => []
  | [last] => [{ last with refundAmount := max (last.refundAmount - excess) 0 }]
  | item :: rest => item :: takeOffLast excess rest

/-- The return of some lines, with the cap on what all returns give back. -/
def settleReturn (bill : PosBill) (returns : List PosReturn) (refundMethod : RefundMethod)
    (items : List PosReturnItem) : Except ServiceError PosReturn :=
  if refundMethod = .credit ∧ bill.posCustomer = none then
    .error ⟨"This bill has no ledger customer to adjust credit against", some 400⟩
  else if maxRefundable bill returns < totalOf items then
    .ok { items := takeOffLast (totalOf items - maxRefundable bill returns) items
          refundMethod
          refundTotal := maxRefundable bill returns }
  else .ok { items, refundMethod, refundTotal := totalOf items }

/-- `createPosReturn`: the return that is stored. -/
def createPosReturn (bill : PosBill) (known : ObjectId → Bool) (returns : List PosReturn)
    (request : ReturnRequest) : Except ServiceError PosReturn :=
  if request.items = [] then .error ⟨"At least one return line is required", some 400⟩
  else do
    let items ← returnLines bill known (alreadyReturned returns) request.items
    settleReturn bill returns request.refundMethod items

/-! ## What a return is -/

section Spec

variable {bill : PosBill} {known : ObjectId → Bool} {returns : List PosReturn}

theorem returnLines_cons {returned : ObjectId × String → ℤ} {requested : ReturnLine}
    {rest : List ReturnLine} {items : List PosReturnItem}
    (h : returnLines bill known returned (requested :: rest) = .ok items) :
    0 < requested.quantity ∧ ∃ orderLine others, bill.lineWithKey requested.key = some orderLine ∧
      requested.quantity ≤ (orderLine.quantity : ℕ) - returned requested.key ∧
      returnLines bill known (Function.update returned requested.key
        (returned requested.key + requested.quantity)) rest = .ok others ∧
      items = { product := orderLine.product
                productName := orderLine.name
                variantSlot := trim requested.variantSlot
                quantity := requested.quantity
                unitPrice := orderLine.price
                refundAmount := unitRefund bill orderLine * requested.quantity
                condition := requested.condition
                restocked := decide (requested.condition = .good) && known orderLine.product } :: others := by
  unfold returnLines at h
  split at h
  · cases h
  next hquantity =>
    refine ⟨not_le.mp hquantity, ?_⟩
    split at h
    · cases h
    next orderLine hline =>
      dsimp only at h
      split at h
      · cases h
      next hleft =>
        rw [bind_eq_ok] at h
        obtain ⟨others, hothers, h⟩ := h
        cases h
        exact ⟨orderLine, others, hline, not_lt.mp hleft, hothers, rfl⟩

theorem createPosReturn_eq_ok {request : ReturnRequest} {created : PosReturn}
    (h : createPosReturn bill known returns request = .ok created) :
    ∃ items, request.items ≠ [] ∧
      returnLines bill known (alreadyReturned returns) request.items = .ok items ∧
      settleReturn bill returns request.refundMethod items = .ok created := by
  unfold createPosReturn at h
  split at h
  · cases h
  next hitems =>
    rw [bind_eq_ok] at h
    obtain ⟨items, hlines, h⟩ := h
    exact ⟨items, hitems, hlines, h⟩

theorem settleReturn_eq_ok {refundMethod : RefundMethod} {items : List PosReturnItem}
    {created : PosReturn} (h : settleReturn bill returns refundMethod items = .ok created) :
    if maxRefundable bill returns < totalOf items then
      created = ⟨takeOffLast (totalOf items - maxRefundable bill returns) items, refundMethod,
        maxRefundable bill returns⟩
    else created = ⟨items, refundMethod, totalOf items⟩ := by
  unfold settleReturn at h
  split at h
  · cases h
  · split at h
    next hcapped =>
      rw [if_pos hcapped]
      exact (Except.ok.inj h).symm
    next hcapped =>
      rw [if_neg hcapped]
      exact (Except.ok.inj h).symm

end Spec

end DiscountBazar.Pos
