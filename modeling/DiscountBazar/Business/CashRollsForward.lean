/-
Cash rolls forward from day to day.

The day book sums up a period anew each time. What it shows is the balance rolled forward from the
openings in the rows of the days, as long as every record falls in one day and what a day moves is a
whole number of paise. Closing a day that has no row writes one with an opening of nothing, which is
from then on what the day opens with.
-/
import DiscountBazar.Business.CashBook
import DiscountBazar.Lib.Checkpoints

namespace DiscountBazar.Business

open Transaction Function Runs Table Checkpoints PartyLedgerEntry List

/-! ## Cash lines -/

/-- What a record brings into the drawer, and when. -/
abbrev CashLine := Date × ℚ

def lineSum (between : Date → Bool) (lines : List CashLine) : ℚ :=
  ((lines.filter (fun l => between l.1)).map Prod.snd).sum

def linesOf {ρ : Type} (rows : List ρ) (date : ρ → Date) (keep : ρ → Bool) (value : ρ → ℚ) :
    List CashLine :=
  (rows.filter keep).map (fun r => (date r, value r))

def tenderCash (posOrders : List PosOrder) (method : Option PosMethod) : List CashLine :=
  posOrders.flatMap (fun o =>
    ((tenderLines o).filter (fun line => decide (line.1 = method))).map (fun line =>
      (o.createdAt, line.2)))

def outgoing (lines : List CashLine) : List CashLine := lines.map (fun l => (l.1, -l.2))

def cashLines (records : CashRecords) : List CashLine :=
  tenderCash records.posOrders (some .cash)
    ++ tenderCash records.posOrders (some .credit)
    ++ tenderCash records.posOrders none
    ++ linesOf records.appOrders AppOrder.createdAt
        (fun o => o.delivered && decide (o.paymentMode = .cod)) AppOrder.grandTotal
    ++ linesOf records.ledger date (fun e => isReceipt e && inCash e)
        amount
    ++ linesOf records.cashEntries CashEntry.date (fun e => decide (e.direction = .moneyIn))
        CashEntry.amount
    ++ outgoing
        (linesOf records.posReturns CounterRefund.createdAt
            (fun r => decide (r.refundMethod = .cash)) CounterRefund.refundTotal
          ++ linesOf records.ledger date (fun e => isSupplierPayment e && inCash e)
              amount
          ++ linesOf records.expenses Expense.date (fun e => decide (e.method = .cash)) Expense.amount
          ++ linesOf records.cashEntries CashEntry.date (fun e => decide (e.direction = .moneyOut))
              CashEntry.amount)

section Lines

variable {between : Date → Bool}

theorem lineSum_append (lines lines' : List CashLine) :
    lineSum between (lines ++ lines') = lineSum between lines + lineSum between lines' := by
  unfold lineSum
  rw [filter_append, map_append, sum_append]

theorem lineSum_cons (l : CashLine) (lines : List CashLine) :
    lineSum between (l :: lines) = (if between l.1 then l.2 else 0) + lineSum between lines := by
  unfold lineSum
  by_cases hl : between l.1 = true
  · rw [filter_cons, if_pos hl, map_cons, sum_cons, if_pos hl]
  · rw [filter_cons, if_neg hl, if_neg hl, zero_add]

theorem lineSum_outgoing (lines : List CashLine) :
    lineSum between (outgoing lines) = -lineSum between lines := by
  induction lines with
  | nil => rfl
  | cons l lines ih =>
    have hcons : outgoing (l :: lines) = (l.1, -l.2) :: outgoing lines := rfl
    rw [hcons, lineSum_cons, lineSum_cons, ih]
    split
    · ring
    · ring

theorem sumBy_eq_lineSum {ρ : Type} (rows : List ρ) (date : ρ → Date) (keep : ρ → Bool)
    (value : ρ → ℚ) :
    sumBy rows date between keep value = lineSum between (linesOf rows date keep value) := by
  unfold sumBy lineSum linesOf
  rw [filter_map, map_map, filter_filter]
  rfl

theorem posSalesByTender_eq_lineSum (posOrders : List PosOrder) (method : Option PosMethod) :
    posSalesByTender posOrders between method = lineSum between (tenderCash posOrders method) := by
  induction posOrders with
  | nil => rfl
  | cons o posOrders ih =>
    have hcons : tenderCash (o :: posOrders) method
        = ((tenderLines o).filter (fun line => decide (line.1 = method))).map
            (fun line => (o.createdAt, line.2)) ++ tenderCash posOrders method := rfl
    rw [hcons, lineSum_append, ← ih]
    unfold posSalesByTender lineSum
    by_cases ho : between o.createdAt = true
    · have hall : ∀ l ∈ ((tenderLines o).filter (fun line => decide (line.1 = method))).map
          (fun line => (o.createdAt, line.2)), between l.1 = true := by
        intro l hl
        obtain ⟨line, -, rfl⟩ := mem_map.mp hl
        exact ho
      rw [filter_cons, if_pos ho, flatMap_cons, filter_append, map_append,
        sum_append, filter_eq_self.mpr hall, map_map]
      rfl
    · have hnone : ∀ l ∈ ((tenderLines o).filter (fun line => decide (line.1 = method))).map
          (fun line => (o.createdAt, line.2)), ¬ between l.1 = true := by
        intro l hl
        obtain ⟨line, -, rfl⟩ := mem_map.mp hl
        exact ho
      rw [filter_cons, if_neg ho, filter_eq_nil_iff.mpr hnone, map_nil, sum_nil,
        zero_add]

theorem cashIn_sub_cashOut (records : CashRecords) (between : Date → Bool) :
    cashIn records between - cashOut records between = lineSum between (cashLines records) := by
  unfold cashIn cashOut cashSales appSales customerReceiptsCash supplierPaymentsCash refundsCash
    expensesCash manualCash ledgerCash cashLines
  simp only [posSalesByTender_eq_lineSum, sumBy_eq_lineSum, lineSum_append, lineSum_outgoing]
  ring

theorem net_eq_lineSum (records : CashRecords) (first last : Date) :
    (cashMovements records first last).net
      = roundCurrency (lineSum (within first last) (cashLines records)) := by
  rw [← cashIn_sub_cashOut]
  rfl

/-- Where every line of a period is in one of two others and none in both, the sums add up. -/
theorem lineSum_add {p q r : Date → Bool} {lines : List CashLine}
    (h : ∀ l ∈ lines, (p l.1 = true ↔ q l.1 = true ∨ r l.1 = true) ∧
      ¬ (q l.1 = true ∧ r l.1 = true)) :
    lineSum p lines = lineSum q lines + lineSum r lines := by
  induction lines with
  | nil => exact (add_zero (0 : ℚ)).symm
  | cons l lines ih =>
    obtain ⟨hiff, hdisjoint⟩ := h l mem_cons_self
    have hrest := ih (fun l' hl' => h l' (mem_cons_of_mem l hl'))
    rw [lineSum_cons, lineSum_cons, lineSum_cons, hrest]
    by_cases hq : q l.1 = true
    · have hr : ¬ r l.1 = true := fun hr => hdisjoint ⟨hq, hr⟩
      rw [if_pos (hiff.mpr (.inl hq)), if_pos hq, if_neg hr]
      ring
    · by_cases hr : r l.1 = true
      · rw [if_pos (hiff.mpr (.inr hr)), if_neg hq, if_pos hr]
        ring
      · have hp : ¬ p l.1 = true := fun hp => (hiff.mp hp).elim hq hr
        rw [if_neg hp, if_neg hq, if_neg hr]
        ring

theorem lineSum_of_none {lines : List CashLine} (h : ∀ l ∈ lines, between l.1 = false) :
    lineSum between lines = 0 := by
  have hnil : lines.filter (fun l => between l.1) = [] :=
    filter_eq_nil_iff.mpr fun l hl => by simp [h l hl]
  unfold lineSum
  rw [hnil]
  rfl

end Lines

/-! ## Days -/

def dayMoves (records : CashRecords) (zone : Zone) (key : DateKey) : ℚ :=
  lineSum (within (dayStart zone key) (dayEnd zone key)) (cashLines records)

def dayNet (records : CashRecords) (zone : Zone) (key : DateKey) : ℤ :=
  roundCurrency (dayMoves records zone key)

def WholePaise (records : CashRecords) (zone : Zone) : Prop :=
  ∀ key, fromPaise (dayNet records zone key) = dayMoves records zone key

/-- No record falls where two days overlap or leave a gap. -/
def DaysMeet (records : CashRecords) (zone : Zone) : Prop :=
  ∀ l ∈ cashLines records, ∀ key,
    (l.1 < dayStart zone (key + 1) ↔ l.1 ≤ dayEnd zone key) ∧
      (l.1 < dayStart zone key → l.1 < dayStart zone (key + 1))

theorem daysMeet_of_offset (records : CashRecords) (offset : ℤ) :
    DaysMeet records (fun _ => offset) := by
  intro l _ key
  have hnext : dayStart (fun _ => offset) (key + 1) = dayEnd (fun _ => offset) key + 1 := by
    unfold dayStart dayEnd localToInstant dayLength
    ring
  have hstart : dayStart (fun _ => offset) key ≤ dayStart (fun _ => offset) (key + 1) := by
    unfold dayStart localToInstant dayLength
    linarith
  exact ⟨by rw [hnext, Int.lt_add_one_iff], fun h => h.trans_le hstart⟩

theorem wholePaise_of_lines {records : CashRecords}
    (h : ∀ l ∈ cashLines records, ∃ paise : ℤ, l.2 = fromPaise paise) (zone : Zone) :
    WholePaise records zone := by
  intro key
  have hsum : ∃ paise : ℤ, dayMoves records zone key = fromPaise paise := by
    unfold dayMoves
    generalize cashLines records = lines at h
    induction lines with
    | nil => exact ⟨0, fromPaise_zero.symm⟩
    | cons l lines ih =>
      obtain ⟨rest, hrest⟩ := ih (fun l' hl' => h l' (mem_cons_of_mem l hl'))
      obtain ⟨paise, hpaise⟩ := h l mem_cons_self
      rw [lineSum_cons, hrest, hpaise]
      split
      · exact ⟨paise + rest, (fromPaise_add paise rest).symm⟩
      · exact ⟨rest, zero_add _⟩
  obtain ⟨paise, hpaise⟩ := hsum
  unfold dayNet
  rw [hpaise, roundCurrency_fromPaise]

section Rolled

variable {records : CashRecords} {zone : Zone}

theorem lineSum_days (hmeet : DaysMeet records zone) (hwhole : WholePaise records zone)
    {first key : DateKey} (h : first ≤ key) :
    lineSum (within (dayStart zone first) (dayStart zone key - 1)) (cashLines records)
      = fromPaise (moved (dayNet records zone) first key) := by
  have hstart : ∀ l ∈ cashLines records, ∀ key, first ≤ key → l.1 < dayStart zone first →
      l.1 < dayStart zone key := by
    intro l hl key hkey hlt
    induction key, hkey using Int.leInduction with
    | base => exact hlt
    | succ key hkey ih => exact (hmeet l hl key).2 ih
  induction key, h using Int.leInduction with
  | base =>
    rw [moved_self, fromPaise_zero]
    refine lineSum_of_none fun l _ => decide_eq_false ?_
    rintro ⟨hge, hle⟩
    linarith
  | succ key hkey ih =>
    rw [moved_succ _ hkey, fromPaise_add, ← ih, hwhole key]
    refine lineSum_add fun l hl => ?_
    obtain ⟨hend, hnext⟩ := hmeet l hl key
    have hfirst : dayStart zone key ≤ l.1 → dayStart zone first ≤ l.1 :=
      fun hge => not_lt.mp fun hlt => absurd (hstart l hl key hkey hlt) (not_lt.mpr hge)
    unfold within
    rw [decide_eq_true_iff, decide_eq_true_iff, decide_eq_true_iff, Int.le_sub_one_iff,
      Int.le_sub_one_iff, hend]
    constructor
    · constructor
      · rintro ⟨hge, hle⟩
        rcases lt_or_ge l.1 (dayStart zone key) with hlt | hge'
        · exact .inl ⟨hge, hlt⟩
        · exact .inr ⟨hge', hle⟩
      · rintro (⟨hge, hlt⟩ | ⟨hge, hle⟩)
        · exact ⟨hge, hend.mp (hnext hlt)⟩
        · exact ⟨hfirst hge, hle⟩
    · rintro ⟨⟨-, hlt⟩, ⟨hge, -⟩⟩
      exact absurd hlt (not_lt.mpr hge)

end Rolled

/-! ## Rows as marks -/

def openings (days : CashDays) (key : DateKey) : Option ℚ := (days.get? key).map CashDay.openingCash

def marks (days : CashDays) (key : DateKey) : Option ℤ := (openings days key).map roundCurrency

section Marks

variable {days : CashDays} {key : DateKey}

theorem marks_eq_none : marks days key = none ↔ days.get? key = none := by
  unfold marks openings
  rw [Option.map_eq_none_iff, Option.map_eq_none_iff]

theorem marks_of_row {d : CashDay} (h : days.get? key = some d) :
    marks days key = some (roundCurrency d.openingCash) := by
  unfold marks openings
  rw [h]
  rfl

theorem latestDay_isLatest {base : CashDay} (h : latestDay days key = some base) :
    days.get? base.dateKey = some base ∧
      IsLatest (marks days) key base.dateKey (roundCurrency base.openingCash) := by
  have hmem : base ∈ days.rows.filter (fun d => decide (d.dateKey ≤ key)) := argmax_mem h
  obtain ⟨hrow, hle⟩ := mem_filter.mp hmem
  have hget : days.get? base.dateKey = some base := get?_of_mem hrow
  refine ⟨hget, of_decide_eq_true hle, marks_of_row hget, fun i hlt hik => ?_⟩
  by_contra hne
  obtain ⟨d, hd⟩ := Option.ne_none_iff_exists'.mp (fun hnone => hne (marks_eq_none.mpr hnone))
  have hkey : d.dateKey = i := key_of_get? hd
  have hin : d ∈ days.rows.filter (fun d => decide (d.dateKey ≤ key)) :=
    mem_filter.mpr ⟨mem_of_get? hd, decide_eq_true (hkey.trans_le hik)⟩
  have hmax : d.dateKey ≤ base.dateKey := le_of_mem_argmax hin h
  rw [hkey] at hmax
  exact absurd hlt (not_lt.mpr hmax)

theorem latestDay_unmarked (h : latestDay days key = none) :
    Unmarked (marks days) key := by
  intro j hj
  by_contra hne
  obtain ⟨d, hd⟩ := Option.ne_none_iff_exists'.mp (fun hnone => hne (marks_eq_none.mpr hnone))
  have hkey : d.dateKey = j := key_of_get? hd
  have hin : d ∈ days.rows.filter (fun d => decide (d.dateKey ≤ key)) :=
    mem_filter.mpr ⟨mem_of_get? hd, decide_eq_true (hkey.trans_le hj)⟩
  have hnil : days.rows.filter (fun d => decide (d.dateKey ≤ key)) = [] := argmax_eq_none.mp h
  rw [hnil] at hin
  exact absurd hin not_mem_nil

end Marks

/-! ## The day book as a rolled balance -/

section Refined

variable {records : CashRecords} {zone : Zone} {days : CashDays} {key : DateKey}

theorem openingCash_of_row {d : CashDay} (h : days.get? key = some d) :
    (dayBook records zone days key).openingCash = d.openingCash := by
  have hkey : d.dateKey = key := key_of_get? h
  have hmark : marks days key ≠ none := by
    rw [Ne, marks_eq_none, h]
    exact Option.some_ne_none d
  cases hlatest : latestDay days key with
  | none => exact absurd (latestDay_unmarked hlatest key le_rfl) hmark
  | some base =>
    obtain ⟨hget, hbase⟩ := latestDay_isLatest hlatest
    have hsame : base.dateKey = key := by
      by_contra hne
      exact hmark (hbase.last key (lt_of_le_of_ne hbase.le hne) le_rfl)
    rw [hsame, h] at hget
    cases hget
    have hopening : openingCashFor records zone days key
        = { opening := d.openingCash, counted := d.countedClosingCash, explicit := true } := by
      unfold openingCashFor
      rw [hlatest]
      exact if_pos hkey
    unfold dayBook
    rw [hopening]

variable (hmeet : DaysMeet records zone) (hwhole : WholePaise records zone)

include hmeet hwhole

theorem openingCash_of_no_row (h : days.get? key = none) :
    (dayBook records zone days key).openingCash
      = fromPaise (opening (marks days) (dayNet records zone) key) := by
  cases hlatest : latestDay days key with
  | none =>
    have hopening : openingCashFor records zone days key = { opening := 0 } := by
      unfold openingCashFor
      rw [hlatest]
    rw [opening_of_unmarked (latestDay_unmarked hlatest), fromPaise_zero]
    unfold dayBook
    rw [hopening]
  | some base =>
    obtain ⟨hget, hbase⟩ := latestDay_isLatest hlatest
    have hne : base.dateKey ≠ key := by
      rintro rfl
      exact absurd (hget.symm.trans h) (Option.some_ne_none base)
    have hopening : (openingCashFor records zone days key).opening
        = fromPaise (roundCurrency (base.openingCash + fromPaise
            (cashMovements records (dayStart zone base.dateKey) (dayStart zone key - 1)).net)) := by
      unfold openingCashFor
      rw [hlatest]
      exact congrArg OpeningCash.opening (if_neg hne)
    have hnet : (cashMovements records (dayStart zone base.dateKey) (dayStart zone key - 1)).net
        = moved (dayNet records zone) base.dateKey key := by
      rw [net_eq_lineSum, lineSum_days hmeet hwhole hbase.le, roundCurrency_fromPaise]
    have hsum : roundCurrency (base.openingCash
          + fromPaise (moved (dayNet records zone) base.dateKey key))
        = roundCurrency base.openingCash
            + moved (dayNet records zone) base.dateKey key := by
      rw [add_comm, roundCurrency_fromPaise_add, add_comm]
    rw [opening_of_latest hbase, ← hsum, ← hnet]
    exact hopening

theorem closingCash_eq :
    (dayBook records zone days key).closingCash
      = closing (marks days) (dayNet records zone) key := by
  have hclosing : (dayBook records zone days key).closingCash
      = roundCurrency ((dayBook records zone days key).openingCash
          + fromPaise (dayNet records zone key)) := by
    have hnet : (cashMovements records (dayStart zone key) (dayEnd zone key)).net
        = dayNet records zone key := net_eq_lineSum records _ _
    rw [← hnet]
    rfl
  have hround : ∀ x : ℚ, roundCurrency (x + fromPaise (dayNet records zone key))
      = roundCurrency x + dayNet records zone key := by
    intro x
    rw [add_comm, roundCurrency_fromPaise_add, add_comm]
  rw [hclosing, hround]
  unfold closing
  cases hget : days.get? key with
  | none => rw [openingCash_of_no_row hmeet hwhole hget, roundCurrency_fromPaise]
  | some d =>
    rw [openingCash_of_row hget, opening_of_mark (marks_of_row hget)]

theorem openingCash_eq :
    (dayBook records zone days key).openingCash
      = (openings days key).getD
          (fromPaise (opening (marks days) (dayNet records zone) key)) := by
  unfold openings
  cases hget : days.get? key with
  | none => exact openingCash_of_no_row hmeet hwhole hget
  | some d => exact openingCash_of_row hget

end Refined

/-! ## Calls -/

inductive RegisterOp where
  | setOpeningCash (key : DateKey) (openingCash : ℚ) (counted : Option ℚ)
  | closeDay (key : DateKey) (counted : Option ℚ)
  | reopenDay (key : DateKey) (reason : String)

def RegisterOp.run (days : CashDays) : RegisterOp → Except ServiceError CashDays
  | .setOpeningCash key openingCash counted =>
    DiscountBazar.Business.setOpeningCash days key openingCash counted
  | .closeDay key counted => DiscountBazar.Business.closeDay days key counted
  | .reopenDay key reason => DiscountBazar.Business.reopenDay days key reason

/-- The days whose opening a call sets. -/
def RegisterOp.sets : RegisterOp → List DateKey
  | .setOpeningCash key _ _ => [key]
  | _ => []

/-- The rows, and the days whose opening was set. -/
structure Register where
  days : CashDays := empty
  setOn : List DateKey := []

/-- The register after a call; one that throws leaves it as it was. -/
def registerStep (r : Register) (op : RegisterOp) : Register :=
  match op.run r.days with
  | .ok days => { days, setOn := op.sets ++ r.setOn }
  | .error _ => r

section Steps

variable {r : Register} {op : RegisterOp}

theorem registerStep_of_ok {days : CashDays} (h : op.run r.days = .ok days) :
    registerStep r op = { days, setOn := op.sets ++ r.setOn } := by
  unfold registerStep
  rw [h]

theorem registerStep_of_error {e : ServiceError} (h : op.run r.days = .error e) :
    registerStep r op = r := by
  unfold registerStep
  rw [h]

end Steps

/-! ## The property -/

def SameCash (records : CashRecords) (zone : Zone) (days days' : CashDays) : Prop :=
  ∀ key, (dayBook records zone days' key).openingCash = (dayBook records zone days key).openingCash ∧
    (dayBook records zone days' key).closingCash = (dayBook records zone days key).closingCash

/-- Closing or reopening a day changes no opening and no closing. -/
def KeepsCash (records : CashRecords) (zone : Zone) (r : Register) : RegisterOp → Prop
  | .setOpeningCash _ _ _ => True
  | op => SameCash records zone r.days (registerStep r op).days

def RollsForward (records : CashRecords) (zone : Zone) (r : Register) : Prop :=
  ∀ key, key ∉ r.setOn →
    (dayBook records zone r.days key).openingCash
      = fromPaise (dayBook records zone r.days (key - 1)).closingCash

/-- What is asked of a sequence of calls, from the day the register is new. -/
structure CashRollsForward (records : CashRecords) (zone : Zone) (ops : List RegisterOp) : Prop where
  keeps : Guarded registerStep (KeepsCash records zone) {} ops
  rolls : RollsForward records zone (exec registerStep {} ops)

/-! ## Its condition -/

/-- A day without a row is closed while the opening set down last and the cash moved since come to
nothing; before the first row, while no cash moves from that day on up to the next row. -/
def HarmlessClose (records : CashRecords) (zone : Zone) (r : Register) : RegisterOp → Prop
  | .closeDay key _ => r.days.get? key = none →
      (∀ first m, IsLatest (marks r.days) key first m →
        m + moved (dayNet records zone) first key = 0) ∧
      (Unmarked (marks r.days) key → ∀ last, key ≤ last →
        (∀ d, key < d → d ≤ last → marks r.days d = none) →
        moved (dayNet records zone) key last = 0)
  | _ => True

/-- A day whose opening was never set has no row but an earlier day does, or the day before ends with
nothing. -/
def Carried (records : CashRecords) (zone : Zone) (r : Register) : Prop :=
  ∀ key, key ∉ r.setOn → r.days.get? key ≠ none ∨ Unmarked (marks r.days) key →
    (∀ first m, IsLatest (marks r.days) (key - 1) first m →
      m + moved (dayNet records zone) first key = 0) ∧
    (Unmarked (marks r.days) (key - 1) → dayNet records zone (key - 1) = 0)

/-! ## What a call does to the openings -/

section Openings

variable {days days' : CashDays} {key : DateKey}

theorem openings_set {d old : CashDay} (h : days.get? d.dateKey = some old) :
    openings (days.set d) = update (openings days) d.dateKey (some d.openingCash) := by
  funext k
  unfold openings
  by_cases hk : k = d.dateKey
  · subst hk
    rw [update_self, get?_set_self h]
    rfl
  · rw [update_of_ne hk, get?_set_ne (Ne.symm hk)]

theorem openings_insert {d : CashDay} (h : days.get? d.dateKey = none) :
    openings (days.insert d) = update (openings days) d.dateKey (some d.openingCash) := by
  have hfresh : d.dateKey ∉ days.rows.map CashDay.dateKey := by
    intro hmem
    obtain ⟨old, hold, hkey⟩ := mem_map.mp hmem
    rw [← hkey, get?_of_mem hold] at h
    exact absurd h (Option.some_ne_none old)
  funext k
  unfold openings
  by_cases hk : k = d.dateKey
  · subst hk
    rw [update_self, get?_insert_self hfresh]
    rfl
  · rw [update_of_ne hk, get?_insert_ne hfresh (Ne.symm hk)]

theorem openings_set_same {d old : CashDay} (h : days.get? d.dateKey = some old)
    (hsame : d.openingCash = old.openingCash) : openings (days.set d) = openings days := by
  have hold : openings days d.dateKey = some d.openingCash := by
    unfold openings
    rw [h, hsame]
    rfl
  rw [openings_set h, ← hold, update_eq_self]

theorem openings_upsertOpening (openingCash : ℚ) (counted : Option ℚ) :
    openings (upsertOpening days key openingCash counted)
      = update (openings days) key (some openingCash) := by
  unfold upsertOpening
  cases hget : days.get? key with
  | none => exact openings_insert hget
  | some d =>
    have hkey : d.dateKey = key := key_of_get? hget
    subst hkey
    exact openings_set hget

theorem openings_closeDay {counted : Option ℚ} (h : closeDay days key counted = .ok days') :
    openings days' = (if days.get? key = none then update (openings days) key (some 0)
      else openings days) := by
  unfold closeDay at h
  cases hget : days.get? key with
  | none =>
    rw [hget] at h
    cases h
    rw [if_pos rfl]
    exact openings_insert hget
  | some d =>
    rw [hget] at h
    have hkey : d.dateKey = key := key_of_get? hget
    rw [Transaction.ite_throw_eq_ok] at h
    cases Except.ok.inj h.2
    rw [if_neg (Option.some_ne_none d)]
    subst hkey
    exact openings_set_same hget rfl

theorem openings_reopenDay {reason : String} (h : reopenDay days key reason = .ok days') :
    openings days' = openings days := by
  unfold reopenDay at h
  rw [Transaction.ite_throw_eq_ok] at h
  cases hget : days.get? key with
  | none =>
    rw [hget] at h
    exact absurd h.2 Transaction.throw_ne_ok
  | some d =>
    rw [hget] at h
    have hkey : d.dateKey = key := key_of_get? hget
    by_cases hclosed : d.closed = true
    · simp only [hclosed, if_true] at h
      cases Except.ok.inj h.2
      subst hkey
      exact openings_set_same hget rfl
    · simp only [hclosed] at h
      exact absurd h.2 Transaction.throw_ne_ok

theorem marks_update {value : ℚ}
    (h : openings days' = update (openings days) key (some value)) :
    marks days' = update (marks days) key (some (roundCurrency value)) := by
  funext k
  unfold marks
  rw [h]
  by_cases hk : k = key
  · rw [hk, update_self, update_self]
    rfl
  · rw [update_of_ne hk, update_of_ne hk]

end Openings

/-! ## One call -/

section OneCall

variable {records : CashRecords} {zone : Zone} {days days' : CashDays} {key : DateKey}

variable (hmeet : DaysMeet records zone) (hwhole : WholePaise records zone)

include hmeet hwhole

theorem sameCash_of_openings (h : openings days' = openings days) :
    SameCash records zone days days' := by
  have hmarks : marks days' = marks days := by
    unfold marks
    rw [h]
  intro key
  rw [openingCash_eq hmeet hwhole, openingCash_eq hmeet hwhole, closingCash_eq hmeet hwhole,
    closingCash_eq hmeet hwhole, h, hmarks]
  exact ⟨rfl, rfl⟩

/-- A row with an opening of nothing changes no day exactly when it changes no rolled balance. -/
theorem sameCash_of_new_row (hnone : days.get? key = none)
    (h : openings days' = update (openings days) key (some 0)) :
    SameCash records zone days days' ↔
      ∀ i, opening (update (marks days) key (some 0)) (dayNet records zone) i
        = opening (marks days) (dayNet records zone) i := by
  have hmarks : marks days' = update (marks days) key (some 0) := by
    rw [marks_update h, roundCurrency_zero]
  constructor
  · intro hsame i
    have hclosing := (hsame i).2
    rw [closingCash_eq hmeet hwhole, closingCash_eq hmeet hwhole, hmarks] at hclosing
    exact add_right_cancel hclosing
  · intro hrolled i
    rw [openingCash_eq hmeet hwhole, openingCash_eq hmeet hwhole, closingCash_eq hmeet hwhole,
      closingCash_eq hmeet hwhole, h, hmarks]
    refine ⟨?_, congrArg (· + dayNet records zone i) (hrolled i)⟩
    by_cases hi : i = key
    · have hopening : openings days key = none := by
        unfold openings
        rw [hnone]
        rfl
      have hzero : opening (marks days) (dayNet records zone) key = 0 := by
        rw [← hrolled key, opening_of_mark (update_self ..)]
      rw [hi, update_self, hopening, Option.getD_some, Option.getD_none, hzero, fromPaise_zero]
    · rw [update_of_ne hi, hrolled i]

omit hmeet hwhole in
theorem SameCash.refl : SameCash records zone days days := fun _ => ⟨rfl, rfl⟩

theorem keepsCash_iff (r : Register) (op : RegisterOp) :
    KeepsCash records zone r op ↔ HarmlessClose records zone r op := by
  cases op with
  | setOpeningCash key openingCash counted => exact Iff.rfl
  | reopenDay key reason =>
    refine iff_of_true ?_ trivial
    change SameCash records zone r.days (registerStep r (.reopenDay key reason)).days
    cases hrun : RegisterOp.run r.days (.reopenDay key reason) with
    | ok days =>
      rw [registerStep_of_ok hrun]
      have hreopen : reopenDay r.days key reason = .ok days := hrun
      exact sameCash_of_openings hmeet hwhole (openings_reopenDay hreopen)
    | error e =>
      rw [registerStep_of_error hrun]
      exact SameCash.refl
  | closeDay key counted =>
    change SameCash records zone r.days (registerStep r (.closeDay key counted)).days ↔ _
    cases hrun : RegisterOp.run r.days (.closeDay key counted) with
    | error e =>
      rw [registerStep_of_error hrun]
      refine iff_of_true SameCash.refl fun hnone => ?_
      have hclose : closeDay r.days key counted = .error e := hrun
      unfold closeDay at hclose
      rw [hnone] at hclose
      cases hclose
    | ok days =>
      rw [registerStep_of_ok hrun]
      have hclose : closeDay r.days key counted = .ok days := hrun
      have hopenings := openings_closeDay hclose
      by_cases hnone : r.days.get? key = none
      · rw [if_pos hnone] at hopenings
        rw [sameCash_of_new_row hmeet hwhole hnone hopenings, opening_update_iff,
          eq_comm, opening_eq_zero_iff]
        exact ⟨fun h _ => h, fun h => h hnone⟩
      · rw [if_neg hnone] at hopenings
        exact iff_of_true (sameCash_of_openings hmeet hwhole hopenings)
          fun h => absurd h hnone

def SetRows (r : Register) : Prop :=
  ∀ key, key ∉ r.setOn → ∀ x, openings r.days key = some x → x = 0

omit hmeet hwhole in
theorem SetRows.step {r : Register} (h : SetRows r) (op : RegisterOp) :
    SetRows (registerStep r op) := by
  unfold registerStep
  cases hrun : op.run r.days with
  | error e => exact h
  | ok days =>
    intro k hk x hx
    have hold : k ∉ r.setOn := fun hmem => hk (mem_append_right op.sets hmem)
    cases op with
    | setOpeningCash key openingCash counted =>
      have hne : k ≠ key := fun heq => hk (mem_append_left r.setOn (heq ▸ mem_singleton_self key))
      obtain ⟨_, -, hpure⟩ := Transaction.bind_eq_ok.mp hrun
      cases Except.ok.inj hpure
      dsimp only at hx
      rw [openings_upsertOpening, update_of_ne hne] at hx
      exact h k hold x hx
    | closeDay key counted =>
      dsimp only at hx
      rw [openings_closeDay hrun] at hx
      split at hx
      next hnone =>
        by_cases hkey : k = key
        · rw [hkey, update_self] at hx
          exact (Option.some.inj hx).symm
        · rw [update_of_ne hkey] at hx
          exact h k hold x hx
      next => exact h k hold x hx
    | reopenDay key reason =>
      dsimp only at hx
      rw [openings_reopenDay hrun] at hx
      exact h k hold x hx

theorem rollsForward_iff {r : Register} (hrows : SetRows r) :
    RollsForward records zone r ↔ Carried records zone r := by
  refine forall₂_congr fun key hkey => ?_
  have hback : key - 1 + 1 = key := sub_add_cancel key 1
  have hempty := @closing_eq_zero_iff _ _ (marks r.days) (dayNet records zone) (key - 1)
  rw [hback] at hempty
  rw [openingCash_eq hmeet hwhole, closingCash_eq hmeet hwhole, ← hempty]
  cases hopening : openings r.days key with
  | some x =>
    have hget : r.days.get? key ≠ none := by
      intro hnone
      unfold openings at hopening
      rw [hnone] at hopening
      exact absurd hopening.symm (Option.some_ne_none x)
    have hx : x = fromPaise 0 := (hrows key hkey x hopening).trans fromPaise_zero.symm
    rw [Option.getD_some, hx, fromPaise_inj, eq_comm]
    exact ⟨fun h _ => h, fun h => h (.inl hget)⟩
  | none =>
    have hget : r.days.get? key = none := Option.map_eq_none_iff.mp hopening
    rw [Option.getD_none, fromPaise_inj]
    by_cases hunmarked : Unmarked (marks r.days) key
    · rw [opening_of_unmarked hunmarked, eq_comm]
      exact ⟨fun h _ => h, fun h => h (.inr hunmarked)⟩
    · have hnone : marks r.days (key - 1 + 1) = none := by
        rw [hback, marks_eq_none]
        exact hget
      have hmarked : ¬ Unmarked (marks r.days) (key - 1) := by
        intro hbefore
        refine hunmarked fun j hj => ?_
        rcases eq_or_lt_of_le hj with heq | hlt
        · rw [heq, marks_eq_none]
          exact hget
        · exact hbefore j (Int.le_sub_one_of_lt hlt)
      have hsucc : opening (marks r.days) (dayNet records zone) (key - 1 + 1)
          = closing (marks r.days) (dayNet records zone) (key - 1) :=
        opening_succ hmarked hnone
      rw [hback] at hsucc
      exact iff_of_true hsucc fun h => absurd h (not_or.mpr ⟨not_not.mpr hget, hunmarked⟩)

end OneCall

/-! ## Runs -/

theorem setRows_opened : SetRows {} := by
  intro key _ x hx
  exact absurd hx.symm (Option.some_ne_none x)

/-- Where no record falls between two days and what each day moves is a whole number of paise, cash
rolls forward exactly when no day without a row is closed over cash and every day whose opening was
never set is carried. -/
theorem cash_rolls_forward_exact {records : CashRecords} {zone : Zone}
    (hmeet : DaysMeet records zone) (hwhole : WholePaise records zone) (ops : List RegisterOp) :
    CashRollsForward records zone ops ↔
      Guarded registerStep (HarmlessClose records zone) {} ops ∧
        Carried records zone (exec registerStep {} ops) := by
  have hrows : SetRows (exec registerStep {} ops) :=
    exec_induction (fun _ op h => h.step op) setRows_opened ops
  have hrolls := rollsForward_iff hmeet hwhole hrows
  constructor
  · intro h
    exact ⟨h.keeps.mono fun r op hop => (keepsCash_iff hmeet hwhole r op).mp hop, hrolls.mp h.rolls⟩
  · rintro ⟨hharmless, hcarried⟩
    exact ⟨hharmless.mono fun r op hop => (keepsCash_iff hmeet hwhole r op).mpr hop,
      hrolls.mpr hcarried⟩

def cashBill : CashRecords :=
  { posOrders :=
      [{ id := 1, posPaymentMethod := some .cash, grandTotal := 250, createdAt := 1772270000000 }] }

def recountedDay : List RegisterOp :=
  [.setOpeningCash 20512 500 none, .closeDay 20512 (some 750), .reopenDay 20512 "recount"]

theorem cash_rolls_forward_recounted : CashRollsForward cashBill defaultZone recountedDay := by
  have hwhole : ∀ l ∈ cashLines cashBill, ∃ paise : ℤ, l.2 = fromPaise paise := by
    intro l hl
    have hline : l = (1772270000000, 250) := mem_singleton.mp hl
    exact ⟨25000, by rw [hline]; norm_num [fromPaise]⟩
  refine (cash_rolls_forward_exact (daysMeet_of_offset cashBill 19800000)
    (wholePaise_of_lines hwhole defaultZone) recountedDay).mpr ⟨?_, ?_⟩
  · exact ⟨trivial, fun hnone => absurd hnone (by decide +kernel), trivial, trivial⟩
  · intro key hkey hcase
    have hrow : marks (exec registerStep {} recountedDay).days 20512 ≠ none := by decide +kernel
    have hrows : (exec registerStep {} recountedDay).days.rows.map CashDay.dateKey = [20512] := by
      decide +kernel
    have hset : (exec registerStep {} recountedDay).setOn = [20512] := by decide +kernel
    rw [hset, mem_singleton] at hkey
    have hunmarked : Unmarked (marks (exec registerStep {} recountedDay).days) key := by
      refine hcase.resolve_left (not_not.mpr (get?_eq_none_of_notMem ?_))
      rw [hrows, mem_singleton]
      exact hkey
    have hbefore : key < 20512 := not_le.mp fun hle => hrow (hunmarked 20512 hle)
    refine ⟨fun first m hlatest => ?_, fun _ => ?_⟩
    · have hfirst : first ≤ key := hlatest.le.trans (sub_le_self key one_pos.le)
      exact absurd (hlatest.mark.symm.trans (hunmarked first hfirst)) (Option.some_ne_none m)
    · have hout : dayMoves cashBill defaultZone (key - 1) = 0 := by
        refine lineSum_of_none fun l hl => decide_eq_false ?_
        have hline : l = (1772270000000, 250) := mem_singleton.mp hl
        rintro ⟨-, hend⟩
        rw [hline] at hend
        unfold dayEnd localToInstant dayLength defaultZone at hend
        linarith
      exact (congrArg roundCurrency hout).trans roundCurrency_zero

def closedOverCash : List RegisterOp := [.setOpeningCash 20512 500 none, .closeDay 20513 none]

/-- The next day opened with 750 and opens with nothing once it is closed. -/
theorem close_empties_drawer : ¬ CashRollsForward cashBill defaultZone closedOverCash := by
  intro h
  have hkeeps : SameCash cashBill defaultZone
      (exec registerStep {} [.setOpeningCash 20512 500 none]).days
      (exec registerStep {} closedOverCash).days := h.keeps.2.1
  exact absurd (hkeeps 20513).1 (by decide +kernel)

end DiscountBazar.Business
