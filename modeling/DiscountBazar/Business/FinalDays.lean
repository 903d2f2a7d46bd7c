/-
A closed day is final.

A day that is closed has a row, so it opens with what the row says whatever happens on other days, and
its movements are a sum over the records whose moment falls in it. The day stays what it is as long as
no call writes a record of it, sets its opening, or moves its bounds while it is closed. The checks of
the handlers are earlier than their writes, and some writes are not checked at all.
-/
import DiscountBazar.Business.ClosedDays

namespace DiscountBazar.Business.Closing

open Tasks Transaction Runs Table PartyLedgerEntry List Bool

/-! ## The property -/

structure SameBook (key : DateKey) (s s' : Books) : Prop where
  openingCash : (dayBook s'.records s'.zone s'.days key).openingCash
    = (dayBook s.records s.zone s.days key).openingCash
  movements : (dayBook s'.records s'.zone s'.days key).movements
    = (dayBook s.records s.zone s.days key).movements
  closingCash : (dayBook s'.records s'.zone s'.days key).closingCash
    = (dayBook s.records s.zone s.days key).closingCash

def NotReopening (key : DateKey) (_ : ℕ) (kind : Kind) (_ : Choice) (_ : Books) : Prop :=
  match kind with
  | .reopenDay key' _ => key' ≠ key
  | _ => True

instance (key : DateKey) (i : ℕ) (kind : Kind) (c : Choice) (s : Books) :
    Decidable (NotReopening key i kind c s) := by
  unfold NotReopening
  cases kind <;> infer_instance

def ClosedDaysFinal (p : Books.Pool) (as : List Act) : Prop :=
  ∀ before after key, as = before ++ after →
    isClosed (exec closingSystem.step p before).shared.days key = true →
    Guarded closingSystem.step (OnOps (NotReopening key))
      (exec closingSystem.step p before) after →
    SameBook key (exec closingSystem.step p before).shared
      (exec closingSystem.step p as).shared

/-! ## Its condition -/

/-- The row counts in some day book. -/
def counted (e : PartyLedgerEntry) : Bool := isReceipt e || isSupplierPayment e

def rowDates (rows : PartyLedger) : List Date := (rows.filter counted).map date

/-- When the records of a bill count that are reversed. -/
def clearedDates (ledger : PartyLedger) (bill : PurchaseBill) : List Date :=
  if bill.status = .confirmed then rowDates (liveRows ledger (.purchaseBill bill.id)) else []

/-- When the records count that a call adds, removes or changes. -/
def touched (now : Date) (s : Books) : Kind → List Date
  | .saveSale b => now :: rowDates (creditRows b now)
  -- the order keeps its moment, and so do the rows that are written anew
  | .saveEdit b =>
    (s.records.posOrders.filter (fun o => decide (o.id = b.id))).map PosOrder.createdAt
      ++ rowDates (liveRows s.records.ledger (.order b.id)) ++ rowDates (creditRows b b.createdAt)
  | .saveReturn customer r => now :: rowDates (refundRows customer r now)
  | .createEntry r => rowDates [r.entry now]
  | .createBill bill billDate confirm =>
    rowDates (bookedRows (storedBill s bill (billDate.getD now) confirm))
  | .confirmBill bill => rowDates (billRows bill)
  | .rewriteBill bill edited => clearedDates s.records.ledger bill ++ rowDates (bookedRows edited)
  | .cancelBill bill => clearedDates s.records.ledger bill
  | .createPurchaseReturn r date => rowDates (returnRows { r with date := date.getD now })
  | .createExpense _ date => [date.getD now]
  | .deleteExpense id =>
    (s.records.expenses.filter (fun e => decide (e.id = id))).map Expense.date
  | .createCashEntry _ date => [date.getD now]
  -- an order counts when it was placed, not when it is delivered
  | .deliver id =>
    (s.records.appOrders.filter (fun o => decide (o.id = id) && !o.delivered)).map
      AppOrder.createdAt
  | .setPaymentMode id mode =>
    (s.records.appOrders.filter (fun o => decide (o.id = id ∧ o.paymentMode ≠ mode) &&
      o.delivered)).map AppOrder.createdAt
  | _ => []

/-- When anything counts. -/
def allDates (records : CashRecords) : List Date :=
  records.posOrders.map PosOrder.createdAt
    ++ (records.appOrders.filter AppOrder.delivered).map AppOrder.createdAt
    ++ rowDates records.ledger
    ++ records.posReturns.map CounterRefund.createdAt
    ++ records.expenses.map Expense.date
    ++ records.cashEntries.map CashEntry.date

def inDay (zone : Zone) (d : CashDay) : Date → Bool :=
  within (dayStart zone d.dateKey) (dayEnd zone d.dateKey)

/-- Where the call takes effect, no day that is closed at that moment loses, gains or changes a
record, a new time zone moves no record into or out of one, and no opening of one is set. -/
def SparesClosedDays (_ : ℕ) (kind : Kind) (c : Choice) (s : Books) : Prop :=
  c.outcome.takesEffect = true →
    match kind with
    | .setTimezone zone => ∀ d ∈ s.days.rows, d.closed = true → ∀ date ∈ allDates s.records,
        inDay zone d date = inDay s.zone d date
    | .upsertOpening key _ _ => isClosed s.days key = false
    | kind => ∀ d ∈ s.days.rows, d.closed = true → ∀ date ∈ touched c.now s kind,
        inDay s.zone d date = false

instance (i : ℕ) (kind : Kind) (c : Choice) (s : Books) :
    Decidable (SparesClosedDays i kind c s) := by
  unfold SparesClosedDays
  cases kind <;> infer_instance

/-! ## The records of a period -/

section Filters

variable {α : Type} {p : α → Bool} {as bs : List α}

theorem filter_append_none (h : ∀ b ∈ bs, p b = false) : (as ++ bs).filter p = as.filter p := by
  have hnil : bs.filter p = [] := filter_eq_nil_iff.mpr fun b hb => by simp [h b hb]
  rw [filter_append, hnil, append_nil]

theorem filter_map_untouched {f : α → α}
    (h : ∀ a ∈ as, f a = a ∨ p a = false ∧ p (f a) = false) :
    (as.map f).filter p = as.filter p := by
  induction as with
  | nil => rfl
  | cons a as ih =>
    have hrest := ih (fun a' ha' => h a' (mem_cons_of_mem a ha'))
    rw [map_cons, filter_cons, filter_cons, hrest]
    rcases h a mem_cons_self with heq | ⟨hbefore, hafter⟩
    · rw [heq]
    · rw [hbefore, hafter]
      rfl

end Filters

/-- What counts in a period. -/
def during (records : CashRecords) (between : Date → Bool) : CashRecords where
  posOrders := records.posOrders.filter (fun o => between o.createdAt)
  appOrders := records.appOrders.filter (fun o => between o.createdAt && o.delivered)
  ledger := records.ledger.filter (fun e => between e.date && counted e)
  posReturns := records.posReturns.filter (fun r => between r.createdAt)
  expenses := records.expenses.filter (fun e => between e.date)
  cashEntries := records.cashEntries.filter (fun e => between e.date)

def always (_ : Date) : Bool := true

section During

variable {records records' : CashRecords} {between between' : Date → Bool}

theorem sumBy_filter {ρ : Type} {rows : List ρ} {date : ρ → Date} {keep q : ρ → Bool}
    {value : ρ → ℚ} (h : ∀ r, keep r = true → q r = true) :
    sumBy (rows.filter (fun r => between (date r) && q r)) date always keep value
      = sumBy rows date between keep value := by
  have hsame : ∀ r, ((always (date r) && keep r) && (between (date r) && q r))
      = (between (date r) && keep r) := by
    intro r
    cases hkeep : keep r with
    | false => rw [Bool.and_false, Bool.false_and, Bool.and_false]
    | true =>
      rw [h r hkeep, Bool.and_true, Bool.and_true]
      exact true_and _
  unfold sumBy
  rw [filter_filter]
  simp only [hsame]

theorem sumBy_filter_all {ρ : Type} {rows : List ρ} {date : ρ → Date} {keep : ρ → Bool}
    {value : ρ → ℚ} :
    sumBy (rows.filter (fun r => between (date r))) date always keep value
      = sumBy rows date between keep value := by
  have htrue : sumBy (rows.filter (fun r => between (date r) && true)) date always keep value
      = sumBy rows date between keep value := sumBy_filter (fun _ _ => rfl)
  simp only [Bool.and_true] at htrue
  exact htrue

theorem posSalesByTender_filter (posOrders : List PosOrder) (method : Option PosMethod) :
    posSalesByTender (posOrders.filter (fun o => between o.createdAt)) always method
      = posSalesByTender posOrders between method := by
  have hall : ∀ o ∈ posOrders.filter (fun o => between o.createdAt), always o.createdAt = true :=
    fun _ _ => rfl
  unfold posSalesByTender
  rw [filter_eq_self.mpr hall]

theorem movementsBetween_during :
    movementsBetween (during records between) always = movementsBetween records between := by
  have hcod : ∀ o : AppOrder, ∀ mode, (o.delivered && decide (o.paymentMode = mode)) = true →
      o.delivered = true := fun o mode h => (and_eq_true_iff.mp h).1
  have hreceipt : ∀ e, isReceipt e = true → counted e = true := fun e h => by simp [counted, h]
  have hreceiptCash : ∀ e, (isReceipt e && inCash e) = true → counted e = true :=
    fun e h => hreceipt e (and_eq_true_iff.mp h).1
  have hsupplier : ∀ e, (isSupplierPayment e && inCash e) = true → counted e = true :=
    fun e h => by simp [counted, (and_eq_true_iff.mp h).1]
  unfold movementsBetween cashIn cashOut cashSales customerReceiptsCash supplierPaymentsCash
    refundsCash expensesCash manualCash ledgerCash appSales during
  simp only [posSalesByTender_filter, sumBy_filter_all, sumBy_filter (fun o => hcod o _),
    sumBy_filter hreceipt, sumBy_filter hreceiptCash, sumBy_filter hsupplier]

theorem movementsBetween_congr (h : during records' between' = during records between) :
    movementsBetween records' between' = movementsBetween records between := by
  rw [← movementsBetween_during, h, movementsBetween_during]

theorem during_congr (h : ∀ date ∈ allDates records, between' date = between date) :
    during records between' = during records between := by
  unfold allDates rowDates at h
  simp only [forall_mem_append, forall_mem_map] at h
  obtain ⟨⟨⟨⟨⟨hpos, happ⟩, hrows⟩, hreturns⟩, hexpenses⟩, hentries⟩ := h
  have happOrders : records.appOrders.filter (fun o => between' o.createdAt && o.delivered)
      = records.appOrders.filter (fun o => between o.createdAt && o.delivered) := by
    refine filter_congr fun o ho => ?_
    cases hdelivered : o.delivered with
    | false => rw [Bool.and_false, Bool.and_false]
    | true => rw [happ o (mem_filter.mpr ⟨ho, hdelivered⟩)]
  have hledger : records.ledger.filter (fun e => between' e.date && counted e)
      = records.ledger.filter (fun e => between e.date && counted e) := by
    refine filter_congr fun e he => ?_
    cases hcounted : counted e with
    | false => rw [Bool.and_false, Bool.and_false]
    | true => rw [hrows e (mem_filter.mpr ⟨he, hcounted⟩)]
  unfold during
  rw [happOrders, hledger, filter_congr hpos, filter_congr hreturns,
    filter_congr hexpenses, filter_congr hentries]

end During

/-! ## What a call leaves of a period -/

section Written

variable {between : Date → Bool} {now : Date} {s : Books} {kind : Kind}

theorem counted_of_voided {e : PartyLedgerEntry} (h : e.voided = true) : counted e = false := by
  simp [counted, isReceipt, isSupplierPayment, h]

theorem rows_untouched {rows : PartyLedger} (h : ∀ date ∈ rowDates rows, between date = false) :
    ∀ e ∈ rows, (between e.date && counted e) = false := by
  intro e he
  cases hcounted : counted e with
  | false => exact and_false _
  | true =>
    have hdate : e.date ∈ rowDates rows :=
      mem_map.mpr ⟨e, mem_filter.mpr ⟨he, hcounted⟩, rfl⟩
    rw [h e.date hdate, Bool.false_and]

theorem filter_reverse {ledger : PartyLedger} {ref : EntryRef}
    (h : ∀ date ∈ rowDates (liveRows ledger ref), between date = false) :
    (reverseLedgerEntries ledger ref).filter (fun e => between e.date && counted e)
      = ledger.filter (fun e => between e.date && counted e) := by
  unfold reverseLedgerEntries
  rw [filter_append_none]
  · refine filter_map_untouched fun e he => ?_
    unfold void
    by_cases hlive : e.isLive ref = true
    · -- the row counted before only if it is one of the dates, and is voided now
      have hmem : e ∈ liveRows ledger ref := mem_filter.mpr ⟨he, hlive⟩
      refine .inr ⟨rows_untouched h e hmem, ?_⟩
      rw [if_pos hlive, counted_of_voided rfl, Bool.and_false]
    · exact .inl (if_neg hlive)
  · intro e he
    obtain ⟨row, -, rfl⟩ := mem_map.mp he
    rw [counted_of_voided rfl, Bool.and_false]

theorem filter_cleared {ledger : PartyLedger} {bill : PurchaseBill}
    (h : ∀ date ∈ clearedDates ledger bill, between date = false) :
    (clearedLedger ledger bill).filter (fun e => between e.date && counted e)
      = ledger.filter (fun e => between e.date && counted e) := by
  unfold clearedLedger
  unfold clearedDates at h
  split
  next hconfirmed =>
    rw [if_pos hconfirmed] at h
    exact filter_reverse h
  next => rfl

theorem during_writtenRecords (h : ∀ date ∈ touched now s kind, between date = false) :
    during (writtenRecords now s kind) between = during s.records between := by
  cases kind with
  | saveSale b =>
    have hrows := rows_untouched fun date hdate => h date (mem_cons_of_mem now hdate)
    have horder : ∀ o ∈ [posOrderOf b now], between o.createdAt = false := by
      intro o ho
      cases mem_singleton.mp ho
      exact h now mem_cons_self
    unfold during writtenRecords
    rw [filter_append_none horder, filter_append_none hrows]
  | saveEdit b =>
    have hlive : ∀ date ∈ rowDates (liveRows s.records.ledger (.order b.id)),
        between date = false := fun date hdate =>
      h date (mem_append_left _ (mem_append_right _ hdate))
    have hrows := rows_untouched fun date hdate => h date (mem_append_right _ hdate)
    have horders : (s.records.posOrders.map (editedOrder b)).filter (fun o => between o.createdAt)
        = s.records.posOrders.filter (fun o => between o.createdAt) := by
      refine filter_map_untouched fun o ho => ?_
      unfold editedOrder
      by_cases hid : o.id = b.id
      · have hdate : between o.createdAt = false :=
          h o.createdAt (mem_append_left _ (mem_append_left _
            (mem_map.mpr ⟨o, mem_filter.mpr ⟨ho, decide_eq_true hid⟩, rfl⟩)))
        rw [if_pos hid]
        exact .inr ⟨hdate, hdate⟩
      · exact .inl (if_neg hid)
    unfold during writtenRecords
    rw [filter_append_none hrows, filter_reverse hlive, horders]
  | saveReturn customer r =>
    have hrows := rows_untouched fun date hdate => h date (mem_cons_of_mem now hdate)
    unfold during writtenRecords
    rw [filter_append_none hrows, filter_append_none]
    intro refund hrefund
    cases mem_singleton.mp hrefund
    exact h now mem_cons_self
  | createEntry | createBill | confirmBill | createPurchaseReturn =>
    unfold during writtenRecords
    rw [filter_append_none (rows_untouched h)]
  | rewriteBill bill edited =>
    have hcleared := filter_cleared fun date hdate => h date (mem_append_left _ hdate)
    have hrows := rows_untouched fun date hdate => h date (mem_append_right _ hdate)
    unfold during writtenRecords
    rw [filter_append_none hrows, hcleared]
  | cancelBill bill =>
    unfold during writtenRecords
    rw [filter_cleared h]
  | createExpense e date =>
    unfold during writtenRecords
    rw [filter_append_none]
    intro expense hexpense
    cases mem_singleton.mp hexpense
    exact h _ (mem_singleton_self _)
  | deleteExpense id =>
    have hkept : (s.records.expenses.filter (fun e => decide (e.id ≠ id))).filter
          (fun e => between e.date) = s.records.expenses.filter (fun e => between e.date) := by
      rw [filter_filter]
      refine filter_congr fun e he => ?_
      by_cases hid : e.id = id
      · have hdate : between e.date = false := h e.date
          (mem_map.mpr ⟨e, mem_filter.mpr ⟨he, decide_eq_true hid⟩, rfl⟩)
        rw [hdate, Bool.false_and]
      · rw [decide_eq_true hid, Bool.and_true]
    unfold during writtenRecords
    rw [hkept]
  | createCashEntry e date =>
    unfold during writtenRecords
    rw [filter_append_none]
    intro entry hentry
    cases mem_singleton.mp hentry
    exact h _ (mem_singleton_self _)
  | deliver id =>
    have horders : (s.records.appOrders.map (deliveredOrder id)).filter
          (fun o => between o.createdAt && o.delivered)
        = s.records.appOrders.filter (fun o => between o.createdAt && o.delivered) := by
      refine filter_map_untouched fun o ho => ?_
      unfold deliveredOrder
      by_cases hid : o.id = id
      · rw [if_pos hid]
        cases hdelivered : o.delivered with
        | true =>
          left
          rw [← hdelivered]
        | false =>
          have hdate : between o.createdAt = false := h o.createdAt
            (mem_map.mpr ⟨o, mem_filter.mpr ⟨ho, by simp [hid, hdelivered]⟩, rfl⟩)
          right
          exact ⟨Bool.and_false _, by rw [hdate, Bool.false_and]⟩
      · exact .inl (if_neg hid)
    unfold during writtenRecords
    rw [horders]
  | setPaymentMode id mode =>
    have horders : (s.records.appOrders.map (paidOrder id mode)).filter
          (fun o => between o.createdAt && o.delivered)
        = s.records.appOrders.filter (fun o => between o.createdAt && o.delivered) := by
      refine filter_map_untouched fun o ho => ?_
      unfold paidOrder
      by_cases hid : o.id = id
      · rw [if_pos hid]
        by_cases hmode : o.paymentMode = mode
        · left
          rw [← hmode]
        · right
          dsimp only
          cases hdelivered : o.delivered with
          | false => exact ⟨and_false _, and_false _⟩
          | true =>
            have hdate : between o.createdAt = false := h o.createdAt
              (mem_map.mpr ⟨o, mem_filter.mpr
                ⟨ho, by simp [hid, hmode, hdelivered]⟩, rfl⟩)
            rw [hdate]
            exact ⟨rfl, rfl⟩
      · exact .inl (if_neg hid)
    unfold during writtenRecords
    rw [horders]
  | _ => rfl

end Written

/-! ## What a call leaves of a closed day -/

section Days

variable {days days' : CashDays} {key key' : DateKey}

theorem isClosed_iff : isClosed days key = true ↔ ∃ d, days.get? key = some d ∧ d.closed = true := by
  unfold isClosed
  exact Option.any_eq_true _ _

theorem get?_set_other {d old : CashDay} (hold : days.get? key' = some old)
    (hkey : d.dateKey = old.dateKey) (hne : key' ≠ key) :
    (days.set d).get? key = days.get? key := by
  have hd : d.dateKey = key' := hkey.trans (key_of_get? hold)
  exact get?_set_ne (hd ▸ hne)

theorem get?_insert_other {d : CashDay} (hfresh : days.get? d.dateKey = none) (hne : d.dateKey ≠ key) :
    (days.insert d).get? key = days.get? key := by
  refine get?_insert_ne (fun hmem => ?_) hne
  obtain ⟨old, hold, hkey⟩ := mem_map.mp hmem
  rw [← hkey, get?_of_mem hold] at hfresh
  exact absurd hfresh (Option.some_ne_none old)

theorem get?_upsertOpening (hne : key' ≠ key) (openingCash : ℚ) (counted : Option ℚ) :
    (upsertOpening days key' openingCash counted).get? key = days.get? key := by
  unfold upsertOpening
  cases hget : days.get? key' with
  | none => exact get?_insert_other hget hne
  | some d => exact get?_set_other hget rfl hne

theorem get?_closeDay (hclosed : isClosed days key = true) (counted : Option ℚ) :
    (daysAfter days (closeDay days key' counted)).get? key = days.get? key := by
  unfold closeDay
  cases hget : days.get? key' with
  | none =>
    refine get?_insert_other hget ?_
    rintro rfl
    obtain ⟨d, hd, -⟩ := isClosed_iff.mp hclosed
    exact absurd (hd.symm.trans hget) (Option.some_ne_none d)
  | some d =>
    dsimp only
    by_cases hd : d.closed = true
    · rw [if_pos hd]
      rfl
    · rw [if_neg hd]
      refine get?_set_other hget rfl ?_
      rintro rfl
      obtain ⟨d', hd', hclosed'⟩ := isClosed_iff.mp hclosed
      cases hd'.symm.trans hget
      exact hd hclosed'

theorem get?_reopenDay (hne : key' ≠ key) (reason : String) :
    (daysAfter days (reopenDay days key' reason)).get? key = days.get? key := by
  unfold reopenDay
  split
  next => rfl
  next =>
    cases hget : days.get? key' with
    | none => rfl
    | some d =>
      dsimp only
      split
      · exact get?_set_other hget rfl hne
      · rfl

end Days

section OneCall

variable {s : Books} {kind : Kind} {c : Choice} {key : DateKey} {i : ℕ}

theorem get?_writtenDays (hclosed : isClosed s.days key = true)
    (hspares : ∀ openingCash counted, kind ≠ .upsertOpening key openingCash counted)
    (hnot : NotReopening key i kind c s) : (writtenDays s kind).get? key = s.days.get? key := by
  unfold writtenDays
  cases kind with
  | upsertOpening key' openingCash counted =>
    have hne : key' ≠ key := by
      rintro rfl
      exact hspares openingCash counted rfl
    exact get?_upsertOpening hne openingCash counted
  | closeDay key' counted => exact get?_closeDay hclosed counted
  | reopenDay key' reason => exact get?_reopenDay hnot reason
  | _ => rfl

theorem SameBook.of_row {s' : Books} {d : CashDay} (hget : s.days.get? key = some d)
    (hget' : s'.days.get? key = some d)
    (hmoves : cashMovements s'.records (dayStart s'.zone key) (dayEnd s'.zone key)
      = cashMovements s.records (dayStart s.zone key) (dayEnd s.zone key)) : SameBook key s s' := by
  have hopening : (dayBook s'.records s'.zone s'.days key).openingCash
      = (dayBook s.records s.zone s.days key).openingCash := by
    rw [openingCash_of_row hget, openingCash_of_row hget']
  refine ⟨hopening, hmoves, ?_⟩
  change roundCurrency ((dayBook s'.records s'.zone s'.days key).openingCash + fromPaise _)
    = roundCurrency ((dayBook s.records s.zone s.days key).openingCash + fromPaise _)
  rw [hopening, hmoves]

theorem SameBook.trans {s' s'' : Books} (h : SameBook key s s') (h' : SameBook key s' s'') :
    SameBook key s s'' :=
  ⟨h'.openingCash.trans h.openingCash, h'.movements.trans h.movements,
    h'.closingCash.trans h.closingCash⟩

theorem movements_written (hspares : SparesClosedDays i kind c s)
    (heffect : c.outcome.takesEffect = true) {d : CashDay} (hd : d ∈ s.days.rows)
    (hclosed : d.closed = true) :
    movementsBetween (written c.now kind s).records (inDay (written c.now kind s).zone d)
      = movementsBetween s.records (inDay s.zone d) := by
  have hspares' := hspares heffect
  refine movementsBetween_congr ?_
  unfold written
  dsimp only
  cases kind with
  | setTimezone zone => exact during_congr (hspares' d hd hclosed)
  | upsertOpening key openingCash counted => rfl
  | _ => exact during_writtenRecords (hspares' d hd hclosed)

theorem written_keeps (hclosed : isClosed s.days key = true) (hspares : SparesClosedDays i kind c s)
    (hnot : NotReopening key i kind c s) (heffect : c.outcome.takesEffect = true) :
    isClosed (written c.now kind s).days key = true ∧ SameBook key s (written c.now kind s) := by
  obtain ⟨d, hget, hd⟩ := isClosed_iff.mp hclosed
  have hkey : d.dateKey = key := key_of_get? hget
  have hopening : ∀ openingCash counted, kind ≠ .upsertOpening key openingCash counted := by
    rintro openingCash counted rfl
    have hopen : isClosed s.days key = false := hspares heffect
    exact absurd (hclosed.symm.trans hopen) (by decide)
  have hget' : (written c.now kind s).days.get? key = some d :=
    (get?_writtenDays hclosed hopening hnot).trans hget
  refine ⟨isClosed_iff.mpr ⟨d, hget', hd⟩, SameBook.of_row hget hget' ?_⟩
  subst hkey
  exact movements_written hspares heffect (mem_of_get? hget) hd

end OneCall

/-! ## Runs -/

section Runs

variable {p : Books.Pool} {key : DateKey}

def StillClosed (key : DateKey) (s s' : Books) : Prop :=
  isClosed s'.days key = true ∧ SameBook key s s'

theorem StillClosed.refl {s : Books} (h : isClosed s.days key = true) : StillClosed key s s :=
  ⟨h, rfl, rfl, rfl⟩

theorem step_keeps {a : Act} (hclosed : isClosed p.shared.days key = true)
    (hspares : OnOps SparesClosedDays p a) (hnot : OnOps (NotReopening key) p a) :
    StillClosed key p.shared (closingSystem.step p a).shared := by
  refine System.step_relates (P := fun _ => True) (fun task _ => Prog.all_of_forall (fun _ => trivial) task)
    (hspares.and hnot) (StillClosed.refl hclosed) ?_ ?_
  · rintro i kind c r s' - ⟨hspares, hnot⟩ hperform
    have heq : c.outcome.perform (answer c.now p.shared kind, written c.now kind p.shared) p.shared
        = (r, s') := Option.some.inj hperform
    rcases Outcome.perform_eq heq with ⟨-, rfl⟩ | ⟨heffect, rfl, -⟩
    · exact StillClosed.refl hclosed
    · exact written_keeps hclosed hspares hnot heffect
  · intro o s' hplaced
    cases hplaced
    -- an order that is placed is not delivered
    obtain ⟨d, hget, hd⟩ := isClosed_iff.mp hclosed
    refine ⟨hclosed, SameBook.of_row hget hget (movementsBetween_congr ?_)⟩
    unfold during
    dsimp only
    rw [filter_append_none]
    intro order horder
    cases mem_singleton.mp horder
    exact and_false _

/-- An expense of 28 February is added and the day is closed; then one of 1 March is. -/
def expensesAroundClosing : List Act :=
  [.start (.addExpense { id := 1, amount := 40, date := 0 } none)]
    ++ replicate 4 (.run 0 { now := 1772270000000 })
    ++ [.start (.closeDay 20512 (some 460)), .run 1 {},
        .start (.addExpense { id := 2, amount := 25, date := 0 } (some 1772350000000))]
    ++ replicate 4 (.run 2 { now := 1772360000000 })

/-- An order of 300 to be paid in cash is placed on 28 February, and the day is closed. -/
def placedAndClosed : List Act :=
  [.outside
      { id := 1, paymentMode := .cod, grandTotal := 300, delivered := false
        createdAt := 1772270000000 },
    .start (.closeDay 20512 none), .run 0 {}]

end Runs

end DiscountBazar.Business.Closing
