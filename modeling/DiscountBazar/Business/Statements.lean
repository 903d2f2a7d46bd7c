/-
A party's statement (`partyLedger`, `partyBalances` in `businessService.js`).

The opening balance, the balance after each row and the balance of today are summed up apart: the
first and the last from the amounts as they are, and the running one is rounded at every row.
-/
import DiscountBazar.Business.PartyLedger
import DiscountBazar.Lib.Keys
import Mathlib.Data.List.Sort

namespace DiscountBazar.Business

open PartyLedgerEntry List Bool

/-! ## Statements -/

structure LedgerRange where
  first : Option Date := none
  last : Option Date := none

def LedgerRange.holds (range : LedgerRange) (date : Date) : Bool :=
  range.first.all (fun first => decide (first ≤ date)) &&
    range.last.all (fun last => decide (date ≤ last))

/-- What `partyLedger` returns, without the goods of the bills. -/
structure PartyStatement where
  entries : List (PartyLedgerEntry × ℤ)
  openingBalance : ℤ
  closingBalance : ℤ
  balance : ℤ

def nextBalance (running : ℤ) (e : PartyLedgerEntry) : ℤ :=
  roundCurrency (fromPaise running + e.signed)

/-- The rows of a statement with the balances after them. -/
def runningRows : ℤ → PartyLedger → List (PartyLedgerEntry × ℤ)
  | _, [] => []
  | running, e :: rest => (e, nextBalance running e) :: runningRows (nextBalance running e) rest

def entriesAt (ledger : PartyLedger) (partyType : PartyType) (party : ObjectId)
    (dates : Date → Bool) : PartyLedger :=
  (ledger.filter (isOf partyType party)).filter (fun e => dates e.date)

/-- The rows of the party in the range, by date; those of one date as they were written. -/
def listedEntries (ledger : PartyLedger) (partyType : PartyType) (party : ObjectId)
    (range : LedgerRange) : PartyLedger :=
  (entriesAt ledger partyType party range.holds).mergeSort (fun a b => decide (a.date ≤ b.date))

/-- `partyNet`, of the rows before a date. -/
def partyNetBefore (ledger : PartyLedger) (partyType : PartyType) (party : ObjectId)
    (first : Date) : ℤ :=
  partyNet (ledger.filter (fun e => decide (e.date < first))) partyType party

def partyLedger (ledger : PartyLedger) (partyType : PartyType) (party : ObjectId)
    (range : LedgerRange) : PartyStatement :=
  let entries := listedEntries ledger partyType party range
  let opening := range.first.elim 0 (partyNetBefore ledger partyType party)
  let closing := entries.foldl nextBalance opening
  { entries := runningRows opening entries
    openingBalance := opening
    closingBalance := closing
    balance := if range.last.isSome then partyNet ledger partyType party else closing }

/-- `partyBalances`, of one party. -/
def partyBalance (ledger : PartyLedger) (partyType : PartyType) (party : ObjectId) : ℤ :=
  roundCurrency (ledgerNet ledger partyType party)

/-- The statements of a party agree with each other. -/
structure Composes (ledger : PartyLedger) (partyType : PartyType) (party : ObjectId) : Prop where
  /-- a part ends where the part after it begins -/
  joined : ∀ first last t, first.all (fun d => decide (d ≤ t)) = true →
    (partyLedger ledger partyType party ⟨first, some t⟩).closingBalance
      = (partyLedger ledger partyType party ⟨some (t + 1), last⟩).openingBalance
  /-- the rows that are listed make up what is between opening and closing -/
  added : ∀ range, fromPaise (partyLedger ledger partyType party range).closingBalance
    = fromPaise (partyLedger ledger partyType party range).openingBalance
      + ((listedEntries ledger partyType party range).map signed).sum
  /-- the balance of today is the same in every statement -/
  header : ∀ range, (partyLedger ledger partyType party range).balance
    = partyBalance ledger partyType party

/-! ## Rests -/

/-- What the rounding to paise takes from a row. -/
def PartyLedgerEntry.rest (e : PartyLedgerEntry) : ℚ :=
  e.signed - fromPaise (roundCurrency e.signed)

/-- The rests of the rows of one date cancel; so they do where all amounts are in whole paise. -/
def RestsCancel (ledger : PartyLedger) (partyType : PartyType) (party : ObjectId) : Prop :=
  ∀ date, ((entriesAt ledger partyType party (fun d => decide (d = date))).map
    rest).sum = 0

theorem sum_dates_eq_zero {f : PartyLedgerEntry → ℚ} (rows : PartyLedger)
    (h : ∀ date, ((rows.filter (fun e => decide (e.date = date))).map f).sum = 0)
    (dates : Date → Bool) : ((rows.filter (fun e => dates e.date)).map f).sum = 0 := by
  apply sum_eq_zero_of_sumAt date
  intro date
  unfold sumAt
  rw [filter_filter]
  by_cases hdates : dates date = true
  · rw [← h date]
    congr 2
    refine filter_congr (fun e _ => ?_)
    by_cases hdate : e.date = date
    · simp [hdate, hdates]
    · simp [hdate]
  · rw [filter_eq_nil_iff.mpr]
    · rfl
    · intro e _ he
      rw [and_eq_true, decide_eq_true_eq] at he
      exact hdates (he.1 ▸ he.2)

/-! ## Whole paise -/

section Paise

variable {ledger : PartyLedger} {partyType : PartyType} {party : ObjectId}

def paiseOf (rows : PartyLedger) : ℤ := (rows.map (fun e => roundCurrency e.signed)).sum

theorem foldl_nextBalance (rows : PartyLedger) (opening : ℤ) :
    rows.foldl nextBalance opening = opening + paiseOf rows := by
  induction rows generalizing opening with
  | nil => simp [paiseOf]
  | cons e rows ih =>
    rw [foldl_cons, ih, nextBalance, roundCurrency_fromPaise_add]
    simp [paiseOf, add_assoc]

theorem paiseOf_perm {rows rows' : PartyLedger} (h : rows.Perm rows') :
    paiseOf rows = paiseOf rows' := (h.map _).sum_eq

theorem listedEntries_perm (range : LedgerRange) : (listedEntries ledger partyType party range).Perm
    (entriesAt ledger partyType party range.holds) := mergeSort_perm _ _

theorem paiseOf_listed (range : LedgerRange) :
    paiseOf (listedEntries ledger partyType party range)
      = paiseOf (entriesAt ledger partyType party range.holds) :=
  paiseOf_perm (listedEntries_perm range)

theorem closingBalance_eq (range : LedgerRange) :
    (partyLedger ledger partyType party range).closingBalance
      = (partyLedger ledger partyType party range).openingBalance
        + paiseOf (listedEntries ledger partyType party range) := foldl_nextBalance _ _

theorem sum_signed_eq (rows : PartyLedger) :
    (rows.map signed).sum
      = fromPaise (paiseOf rows) + (rows.map rest).sum := by
  induction rows with
  | nil => simp [paiseOf]
  | cons e rows ih =>
    have hpaise : paiseOf (e :: rows) = roundCurrency e.signed + paiseOf rows := rfl
    rw [map_cons, sum_cons, ih, hpaise, fromPaise_add, map_cons, sum_cons,
      rest]
    ring

theorem paiseOf_split {dates former latter : Date → Bool}
    (hdates : ∀ d, dates d = (former d || latter d))
    (happart : ∀ d, (former d && latter d) = false) :
    paiseOf (entriesAt ledger partyType party dates)
      = paiseOf (entriesAt ledger partyType party former)
        + paiseOf (entriesAt ledger partyType party latter) := by
  have hrows : ∀ rows : PartyLedger, paiseOf (rows.filter (fun e => dates e.date))
      = paiseOf (rows.filter (fun e => former e.date))
        + paiseOf (rows.filter (fun e => latter e.date)) := by
    intro rows
    induction rows with
    | nil => rfl
    | cons e rows ih =>
      have hd := hdates e.date
      have ha := happart e.date
      unfold paiseOf at ih ⊢
      cases hf : former e.date with
      | true =>
        rw [hf] at hd ha
        simp only [Bool.true_and] at ha
        simp [hd, hf, ha, ih, add_assoc]
      | false =>
        rw [hf, Bool.false_or] at hd
        by_cases hl : latter e.date = true
        · simp [hd, hf, hl, ih, add_left_comm]
        · simp [hd, hf, hl, ih]
  exact hrows _

variable (hcancel : RestsCancel ledger partyType party)

include hcancel

theorem sum_at_of_cancel (dates : Date → Bool) :
    ((entriesAt ledger partyType party dates).map signed).sum
      = fromPaise (paiseOf (entriesAt ledger partyType party dates)) := by
  have hrest : ((entriesAt ledger partyType party dates).map rest).sum = 0 :=
    sum_dates_eq_zero _ hcancel dates
  rw [sum_signed_eq, hrest, add_zero]

theorem partyNetBefore_of_cancel (first : Date) :
    partyNetBefore ledger partyType party first
      = paiseOf (entriesAt ledger partyType party (fun d => decide (d < first))) := by
  have hrows : (ledger.filter (fun e => decide (e.date < first))).filter
        (isOf partyType party)
      = entriesAt ledger partyType party (fun d => decide (d < first)) := by
    rw [entriesAt, filter_filter, filter_filter]
    exact filter_congr (fun e _ => and_comm _ _)
  rw [partyNetBefore, partyNet, ledgerNet, hrows, sum_at_of_cancel hcancel, roundCurrency_fromPaise]

/-- Up to the end of a range, whatever its first day is. -/
theorem closing_of_cancel (range : LedgerRange) {dates : Date → Bool}
    (hdates : ∀ d, dates d = (range.first.any (fun first => decide (d < first)) || range.holds d)) :
    (partyLedger ledger partyType party range).closingBalance
      = paiseOf (entriesAt ledger partyType party dates) := by
  have hclosing : (partyLedger ledger partyType party range).closingBalance
      = range.first.elim 0 (partyNetBefore ledger partyType party)
        + paiseOf (entriesAt ledger partyType party range.holds) := by
    rw [← paiseOf_listed]
    exact closingBalance_eq range
  rw [hclosing]
  cases hfirst : range.first with
  | none =>
    have hall : dates = range.holds := by
      funext d
      rw [hdates, hfirst]
      rfl
    rw [hall]
    exact zero_add _
  | some first =>
    have hopen := partyNetBefore_of_cancel hcancel first
    have happart : ∀ d, (decide (d < first) && range.holds d) = false := by
      intro d
      by_cases hd : d < first
      · have hnot : ¬ first ≤ d := not_le.mpr hd
        simp [LedgerRange.holds, hfirst, hnot]
      · simp [hd]
    rw [hfirst] at hdates
    rw [paiseOf_split hdates happart]
    exact congrArg (· + _) hopen

theorem joined_of_cancel (first last : Option Date) {t : Date}
    (hft : first.all (fun d => decide (d ≤ t)) = true) :
    (partyLedger ledger partyType party ⟨first, some t⟩).closingBalance
      = (partyLedger ledger partyType party ⟨some (t + 1), last⟩).openingBalance := by
  have hopening : (partyLedger ledger partyType party ⟨some (t + 1), last⟩).openingBalance
      = partyNetBefore ledger partyType party (t + 1) := rfl
  rw [hopening, partyNetBefore_of_cancel hcancel]
  refine closing_of_cancel hcancel _ (fun d => ?_)
  have hlt : d < t + 1 ↔ d ≤ t := Int.lt_add_one_iff
  cases first with
  | none => simp [LedgerRange.holds, hlt]
  | some first =>
    have hle : first ≤ t := of_decide_eq_true hft
    have hor : (d < first ∨ (first ≤ d ∧ d ≤ t)) ↔ d ≤ t := by
      constructor
      · rintro (hd | ⟨-, hd⟩)
        · exact hd.le.trans hle
        · exact hd
      · intro hd
        exact (lt_or_ge d first).imp id (fun hge => ⟨hge, hd⟩)
    simp [LedgerRange.holds, hlt, ← decide_and, ← decide_or, hor]

theorem added_of_cancel (range : LedgerRange) :
    fromPaise (partyLedger ledger partyType party range).closingBalance
      = fromPaise (partyLedger ledger partyType party range).openingBalance
        + ((listedEntries ledger partyType party range).map signed).sum := by
  have hsum := sum_at_of_cancel hcancel range.holds
  rw [← ((listedEntries_perm range).map _).sum_eq, ← paiseOf_listed] at hsum
  rw [closingBalance_eq, fromPaise_add, hsum]

theorem header_of_cancel (range : LedgerRange) :
    (partyLedger ledger partyType party range).balance = partyBalance ledger partyType party := by
  by_cases hlast : range.last.isSome = true
  · exact if_pos hlast
  · -- without a last day the closing balance stands for the balance of today
    have hbalance : (partyLedger ledger partyType party range).balance
        = (partyLedger ledger partyType party range).closingBalance := if_neg hlast
    rw [Option.not_isSome_iff_eq_none] at hlast
    have hall : ∀ d, true
        = (range.first.any (fun first => decide (d < first)) || range.holds d) := by
      intro d
      cases hfirst : range.first with
      | none => simp [LedgerRange.holds, hfirst, hlast]
      | some first => simp [LedgerRange.holds, hfirst, hlast, ← decide_or, lt_or_ge]
    have hrows : entriesAt ledger partyType party (fun _ => true)
        = ledger.filter (isOf partyType party) := filter_true _
    have hsum := sum_at_of_cancel hcancel (fun _ => true)
    rw [hbalance, closing_of_cancel hcancel range hall, partyBalance, ledgerNet, ← hrows, hsum,
      roundCurrency_fromPaise]

end Paise

theorem holds_day (date : Date) :
    (LedgerRange.mk (some date) (some date)).holds = fun d => decide (d = date) := by
  funext d
  have hd : (date ≤ d ∧ d ≤ date) ↔ d = date :=
    ⟨fun hd => le_antisymm hd.2 hd.1, fun hd => ⟨hd.ge, hd.le⟩⟩
  simp [LedgerRange.holds, ← decide_and, hd]

/-- A party's statements compose exactly where its rests cancel. -/
theorem statements_compose_iff (ledger : PartyLedger) (partyType : PartyType) (party : ObjectId) :
    Composes ledger partyType party ↔ RestsCancel ledger partyType party := by
  constructor
  · -- the statement of one day adds up only if the rests of that day cancel
    intro h date
    have hadded := h.added ⟨some date, some date⟩
    rw [closingBalance_eq, fromPaise_add, sum_signed_eq, add_right_inj, left_eq_add] at hadded
    rw [← holds_day, ← ((listedEntries_perm _).map _).sum_eq]
    exact hadded
  · intro hcancel
    exact ⟨fun first last _ hft => joined_of_cancel hcancel first last hft,
      added_of_cancel hcancel, header_of_cancel hcancel⟩

def halfPaise : PartyLedger :=
  [{ partyType := .supplier, party := some 1, kind := .payment, effect := -1, amount := 1 / 200 },
    { partyType := .supplier, party := some 1, kind := .payment, effect := -1, amount := 1 / 200 }]

/-- They come to a paisa in the header and to nothing in the rows. -/
theorem halfPaise_not_composed : ¬ Composes halfPaise .supplier 1 := by
  intro h
  have hrows : (partyLedger halfPaise .supplier 1 {}).balance
      = 0 + paiseOf (listedEntries halfPaise .supplier 1 {}) := closingBalance_eq {}
  have hheader := h.header {}
  rw [hrows, paiseOf_listed] at hheader
  revert hheader
  decide +kernel

end DiscountBazar.Business
