/-
The takings of a bill (`posPayment.js`, `posSalesByTender` in `businessReportService.js`).

The day book counts the tender lines of a bill. They come to the bill, but for a split one: its
lines may be a paisa off the total.
-/
import DiscountBazar.Business.ClosedDays
import DiscountBazar.Lib.Keys

namespace DiscountBazar.Business

open Transaction
open Closing (posOrderOf)
open List

/-- The lines of a split bill that `resolvePosPayment` keeps. -/
def splitLines (payments : List (PosMethod × ℚ)) : List PosTender :=
  (payments.map (fun p => PosTender.mk p.1 (roundCurrency p.2))).filter
    (fun p => decide (0 < p.amount))

def amountOf (lines : List PosTender) : ℤ := (lines.map PosTender.amount).sum

/-- `codCollectedAmount`: the cash received at the counter. -/
def codCollectedAmount (method : PosMethod) (total : ℤ) (amountPaid : ℚ)
    (payments : List (PosMethod × ℚ)) : ℤ :=
  match method with
  | .cash => total
  | .credit => min (roundCurrency amountPaid) total
  | .split => amountOf ((splitLines payments).filter (fun line => decide (line.method = .cash)))
  | _ => 0

/-- What the day book counts for a bill under one tender. -/
def takings (o : PosOrder) (tender : Option PosMethod) : ℚ :=
  posSalesByTender [o] (fun _ => true) tender

def cashTakings (o : PosOrder) : ℚ :=
  takings o (some .cash) + takings o (some .credit) + takings o none

/-- All that it groups lines by. -/
def tenders : List (Option PosMethod) :=
  [none, some .cash, some .card, some .qr, some .credit, some .other, some .split]

structure TakingsAddUp (b : CreditBill) (createdAt : Date) (codCollected : ℤ) : Prop where
  total : (tenders.map (takings (posOrderOf b createdAt))).sum
    = fromPaise (if b.posPaymentMethod = .credit then b.posAmountPaid else b.grandTotal)
  cash : cashTakings (posOrderOf b createdAt) = fromPaise codCollected

theorem takingsAddUp_iff {b : CreditBill} {createdAt : Date} {codCollected : ℤ} :
    TakingsAddUp b createdAt codCollected ↔
      (tenders.map (takings (posOrderOf b createdAt))).sum
        = fromPaise (if b.posPaymentMethod = .credit then b.posAmountPaid else b.grandTotal) ∧
      cashTakings (posOrderOf b createdAt) = fromPaise codCollected :=
  ⟨fun h => ⟨h.total, h.cash⟩, fun h => ⟨h.1, h.2⟩⟩

section Lines

variable {o : PosOrder}

theorem takings_eq (o : PosOrder) (tender : Option PosMethod) :
    takings o tender = sumAt Prod.fst Prod.snd (tenderLines o) tender := by
  simp [takings, posSalesByTender, sumAt]

theorem mem_tenders (tender : Option PosMethod) : tender ∈ tenders := by
  cases tender with
  | none => decide
  | some method =>
    cases method with
    | cash | card | qr | credit | other | split => decide

theorem sum_takings (o : PosOrder) :
    (tenders.map (takings o)).sum = ((tenderLines o).map Prod.snd).sum := by
  rw [sum_eq_sumAt Prod.fst Prod.snd (by decide : tenders.Nodup)
    (fun line _ => mem_tenders line.1)]
  exact congrArg sum (map_congr_left (fun tender _ => takings_eq o tender))

theorem takings_single (ho : o.posPayments = []) (tender : Option PosMethod) :
    takings o tender
      = if o.posPaymentMethod = tender then o.posAmountPaid.getD o.grandTotal else 0 := by
  rw [takings_eq, tenderLines, if_pos ho, sumAt]
  by_cases h : o.posPaymentMethod = tender
  · simp [h]
  · simp [h]

variable {lines : List PosTender}

theorem takings_split (hne : lines ≠ [])
    (ho : o.posPayments = lines.map (fun line => (line.method, fromPaise line.amount)))
    (tender : Option PosMethod) :
    takings o tender
      = fromPaise (amountOf (lines.filter (fun line => decide (some line.method = tender)))) := by
  have hpay : o.posPayments ≠ [] := by
    rw [ho]
    exact fun h => hne (map_eq_nil_iff.mp h)
  rw [takings_eq, tenderLines, if_neg hpay, ho, map_map]
  clear ho hne hpay
  induction lines with
  | nil => simp [sumAt, amountOf]
  | cons line lines ih =>
    rw [map_cons, sumAt_cons, ih]
    by_cases h : some line.method = tender
    · simp [h, amountOf, fromPaise_add]
    · simp [h, Ne.symm h]

theorem sum_split (hne : lines ≠ [])
    (ho : o.posPayments = lines.map (fun line => (line.method, fromPaise line.amount))) :
    ((tenderLines o).map Prod.snd).sum = fromPaise (amountOf lines) := by
  have hpay : o.posPayments ≠ [] := by
    rw [ho]
    exact fun h => hne (map_eq_nil_iff.mp h)
  rw [tenderLines, if_neg hpay, ho, map_map, map_map]
  clear ho hne hpay
  induction lines with
  | nil => simp [amountOf]
  | cons line lines ih =>
    rw [map_cons, sum_cons, ih, ← show line.amount + amountOf lines
      = amountOf (line :: lines) from rfl, fromPaise_add]
    rfl

theorem amountOf_filter_eq_zero (hpos : ∀ line ∈ lines, 0 < line.amount) (keep : PosTender → Bool) :
    amountOf (lines.filter keep) = 0 ↔ ∀ line ∈ lines, keep line = false := by
  induction lines with
  | nil => simp [amountOf]
  | cons line lines ih =>
    obtain ⟨hline, hlines⟩ := forall_mem_cons.mp hpos
    have hrest : 0 ≤ amountOf (lines.filter keep) := by
      refine sum_nonneg (fun x hx => ?_)
      obtain ⟨l, hl, rfl⟩ := mem_map.mp hx
      exact (hlines l (mem_of_mem_filter hl)).le
    rw [forall_mem_cons, ← ih hlines]
    by_cases hkeep : keep line = true
    · have hsum : amountOf ((line :: lines).filter keep)
          = line.amount + amountOf (lines.filter keep) := by simp [hkeep, amountOf]
      rw [hsum, hkeep]
      simp only [Bool.true_eq_false, false_and, iff_false]
      omega
    · simp [hkeep]

theorem add_up_single {b : CreditBill} {createdAt : Date} {codCollected : ℤ}
    (hnone : b.posPayments = none) : TakingsAddUp b createdAt codCollected ↔
      (b.posPaymentMethod = .credit ∨ b.posAmountPaid = b.grandTotal) ∧
      (if b.posPaymentMethod = .cash ∨ b.posPaymentMethod = .credit then b.posAmountPaid else 0)
        = codCollected := by
  have ho : (posOrderOf b createdAt).posPayments = [] := by simp [posOrderOf, hnone]
  have htotal : (tenders.map (takings (posOrderOf b createdAt))).sum
      = fromPaise b.posAmountPaid := by
    rw [sum_takings, tenderLines, if_pos ho]
    simp [posOrderOf]
  have hcash : cashTakings (posOrderOf b createdAt) = fromPaise (if b.posPaymentMethod = .cash
      ∨ b.posPaymentMethod = .credit then b.posAmountPaid else 0) := by
    rw [cashTakings, takings_single ho, takings_single ho, takings_single ho]
    cases hm : b.posPaymentMethod with
    | cash | card | qr | credit | other | split => simp [posOrderOf, hm]
  rw [takingsAddUp_iff, htotal, hcash, fromPaise_inj, fromPaise_inj]
  by_cases hcredit : b.posPaymentMethod = .credit
  · simp [hcredit]
  · simp [hcredit]

theorem add_up_split {b : CreditBill} {createdAt : Date} (hlines : b.posPayments = some lines)
    (hne : lines ≠ []) (hm : b.posPaymentMethod ≠ .credit) (hpos : ∀ line ∈ lines, 0 < line.amount) :
    TakingsAddUp b createdAt (amountOf (lines.filter (fun line => decide (line.method = .cash)))) ↔
      amountOf lines = b.grandTotal ∧ ∀ line ∈ lines, line.method ≠ .credit := by
  have ho : (posOrderOf b createdAt).posPayments
      = lines.map (fun line => (line.method, fromPaise line.amount)) := by simp [posOrderOf, hlines]
  have hnone : lines.filter (fun line => decide (some line.method = none)) = [] := by simp
  rw [takingsAddUp_iff, sum_takings, sum_split hne ho, if_neg hm, cashTakings, takings_split hne ho,
    takings_split hne ho, takings_split hne ho, hnone, ← fromPaise_add, ← fromPaise_add,
    fromPaise_inj, fromPaise_inj]
  have hcredit := amountOf_filter_eq_zero hpos
    (fun line => decide (some line.method = some .credit))
  have hsum : amountOf [] = 0 := rfl
  simp only [Option.some.injEq, decide_eq_false_iff_not] at hcredit ⊢
  rw [← hcredit, hsum, add_zero, add_eq_left]

end Lines

def splitBill (card : ℤ) : CreditBill where
  posAmountPaid := 3332
  posPayments := some [⟨.cash, 2000⟩, ⟨.card, card⟩]
  id := 0
  bill :=
    { items := []
      isTaxInclusive := true
      paymentBreakdown := ⟨3332, 0, 0, true, 3332, 3332, 0, 0⟩ }
  posPaymentMethod := .split
  createdAt := 0

end DiscountBazar.Business
