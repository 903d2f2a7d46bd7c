/-
The ledger of a seller's customers and suppliers (`partyLedgerEntry.js`, `businessService.js`).

Rows are never deleted. Where a bill is edited or cancelled its rows are voided and each gets a
voided mirror row with the opposite effect. A seller's services never touch another seller's rows,
so everything here is one seller's.
-/
import DiscountBazar.Business.Days

namespace DiscountBazar.Business

open Transaction List

/-! ## Rows -/

inductive PartyType where
  | customer | supplier
  deriving DecidableEq

inductive EntryKind where
  | sale | saleReturn | purchase | purchaseReturn | payment
  deriving DecidableEq

inductive PaymentMethod where
  | cash | card | upi | other
  deriving DecidableEq

/-- `refModel` with `refId`: the document that a row belongs to. -/
inductive EntryRef where
  | order (id : ObjectId)
  | posReturn (id : ObjectId)
  | purchaseBill (id : ObjectId)
  | purchaseReturn (id : ObjectId)
  deriving DecidableEq

/-- `PartyLedgerEntry`. The effect is 1 where the row raises what the party owes or is owed, and -1
where it lowers it. -/
structure PartyLedgerEntry where
  partyType : PartyType
  party : Option ObjectId
  kind : EntryKind
  effect : ℤ
  amount : ℚ
  method : Option PaymentMethod := none
  ref : Option EntryRef := none
  date : Date := 0
  clientRef : Option String := none
  voided : Bool := false

abbrev PartyLedger := List PartyLedgerEntry

/-- `$multiply: ["$amount", "$effect"]`. -/
def PartyLedgerEntry.signed (e : PartyLedgerEntry) : ℚ := e.amount * e.effect

def PartyLedgerEntry.isOf (partyType : PartyType) (party : ObjectId) (e : PartyLedgerEntry) : Bool :=
  decide (e.partyType = partyType ∧ e.party = some party)

/-- The row belongs to the document and describes it as it is now. -/
def PartyLedgerEntry.isLive (ref : EntryRef) (e : PartyLedgerEntry) : Bool :=
  decide (e.ref = some ref ∧ e.voided = false)

def ledgerNet (ledger : PartyLedger) (partyType : PartyType) (party : ObjectId) : ℚ :=
  ((ledger.filter (PartyLedgerEntry.isOf partyType party)).map PartyLedgerEntry.signed).sum

/-- `partyNet`, of all rows of the party. -/
def partyNet (ledger : PartyLedger) (partyType : PartyType) (party : ObjectId) : ℤ :=
  roundCurrency (ledgerNet ledger partyType party)

/-! ## Reversal -/

/-- A row with the opposite effect, voided from the start. -/
def PartyLedgerEntry.mirror (e : PartyLedgerEntry) : PartyLedgerEntry :=
  { e with effect := -e.effect, clientRef := none, voided := true }

def PartyLedgerEntry.void (ref : EntryRef) (e : PartyLedgerEntry) : PartyLedgerEntry :=
  if e.isLive ref then { e with voided := true } else e

def reverseLedgerEntries (ledger : PartyLedger) (ref : EntryRef) : PartyLedger :=
  ledger.map (PartyLedgerEntry.void ref)
    ++ (ledger.filter (PartyLedgerEntry.isLive ref)).map PartyLedgerEntry.mirror

/-! ## Sums over the rows -/

open PartyLedgerEntry

section Sums

variable {ref : EntryRef} {partyType : PartyType} {party : ObjectId}

/-- What the live rows of a document come to for a party. -/
def liveNet (ledger : PartyLedger) (ref : EntryRef) (partyType : PartyType) (party : ObjectId) : ℚ :=
  ledgerNet (ledger.filter (isLive ref)) partyType party

@[simp] theorem ledgerNet_nil : ledgerNet [] partyType party = 0 := rfl

theorem ledgerNet_append (ledger rows : PartyLedger) :
    ledgerNet (ledger ++ rows) partyType party
      = ledgerNet ledger partyType party + ledgerNet rows partyType party := by
  unfold ledgerNet
  rw [filter_append, map_append, sum_append]

theorem ledgerNet_cons (e : PartyLedgerEntry) (ledger : PartyLedger) :
    ledgerNet (e :: ledger) partyType party
      = (if e.isOf partyType party then e.signed else 0) + ledgerNet ledger partyType party := by
  unfold ledgerNet
  by_cases he : e.isOf partyType party = true
  · rw [filter_cons_of_pos he, map_cons, sum_cons, if_pos he]
  · rw [filter_cons_of_neg he, if_neg he, zero_add]

theorem ledgerNet_of_others {rows : PartyLedger} (h : ∀ e ∈ rows, e.isOf partyType party = false) :
    ledgerNet rows partyType party = 0 := by
  have hnil : rows.filter (isOf partyType party) = [] :=
    filter_eq_nil_iff.mpr fun e he => by simp [h e he]
  unfold ledgerNet
  rw [hnil]
  rfl

theorem signed_void (e : PartyLedgerEntry) : (e.void ref).signed = e.signed := by
  unfold void
  split
  · rfl
  · rfl

theorem isOf_void (e : PartyLedgerEntry) :
    (e.void ref).isOf partyType party = e.isOf partyType party := by
  unfold void
  split
  · rfl
  · rfl

theorem ledgerNet_void (ledger : PartyLedger) :
    ledgerNet (ledger.map (void ref)) partyType party
      = ledgerNet ledger partyType party := by
  induction ledger with
  | nil => rfl
  | cons e ledger ih =>
    rw [map_cons, ledgerNet_cons, ledgerNet_cons, ih, isOf_void, signed_void]

theorem signed_mirror (e : PartyLedgerEntry) : e.mirror.signed = -e.signed := by
  unfold signed mirror
  push_cast
  ring

theorem ledgerNet_mirror (ledger : PartyLedger) :
    ledgerNet (ledger.map mirror) partyType party
      = -ledgerNet ledger partyType party := by
  induction ledger with
  | nil => rfl
  | cons e ledger ih =>
    have hof : e.mirror.isOf partyType party = e.isOf partyType party := rfl
    rw [map_cons, ledgerNet_cons, ledgerNet_cons, ih, hof, signed_mirror]
    split
    · ring
    · ring

theorem ledgerNet_reverse (ledger : PartyLedger) :
    ledgerNet (reverseLedgerEntries ledger ref) partyType party
      = ledgerNet ledger partyType party - liveNet ledger ref partyType party := by
  unfold reverseLedgerEntries liveNet
  rw [ledgerNet_append, ledgerNet_void, ledgerNet_mirror]
  ring

end Sums

/-! ## The rows of one document -/

section Live

variable {ref : EntryRef}

/-- The live rows of a document, in the order in which they were written. -/
def liveRows (ledger : PartyLedger) (ref : EntryRef) : PartyLedger :=
  ledger.filter (isLive ref)

theorem liveRows_append (ledger rows : PartyLedger) :
    liveRows (ledger ++ rows) ref = liveRows ledger ref ++ liveRows rows ref :=
  filter_append ..

theorem liveRows_other {rows : PartyLedger} (h : ∀ e ∈ rows, e.ref ≠ some ref) :
    liveRows rows ref = [] := by
  refine filter_eq_nil_iff.mpr fun e he => ?_
  simp [isLive, h e he]

theorem isLive_void_self (e : PartyLedgerEntry) : (e.void ref).isLive ref = false := by
  unfold void
  by_cases he : e.isLive ref = true
  · rw [if_pos he]
    simp [isLive]
  · rw [if_neg he]
    exact Bool.eq_false_iff.mpr he

theorem liveRows_reverse_self (ledger : PartyLedger) :
    liveRows (reverseLedgerEntries ledger ref) ref = [] := by
  refine filter_eq_nil_iff.mpr fun e he => ?_
  rcases mem_append.mp he with he | he
  · obtain ⟨e, -, rfl⟩ := mem_map.mp he
    rw [isLive_void_self]
    exact Bool.false_ne_true
  · obtain ⟨e, -, rfl⟩ := mem_map.mp he
    simp [isLive, mirror]

theorem liveRows_map_void {ref' : EntryRef} (h : ref' ≠ ref) (ledger : PartyLedger) :
    liveRows (ledger.map (void ref')) ref = liveRows ledger ref := by
  induction ledger with
  | nil => rfl
  | cons e ledger ih =>
    have hvoid : (e.void ref').isLive ref = e.isLive ref := by
      unfold void
      split
      next he =>
        have href : e.ref = some ref' := (of_decide_eq_true he).1
        simp [isLive, href, h]
      next => rfl
    rw [map_cons, liveRows, filter_cons, hvoid, liveRows, filter_cons]
    split
    next he =>
      have hsame : e.void ref' = e := by
        refine if_neg fun he' => h ?_
        have href : e.ref = some ref := (of_decide_eq_true he).1
        have href' : e.ref = some ref' := (of_decide_eq_true he').1
        rw [href] at href'
        exact (Option.some.inj href').symm
      rw [hsame]
      exact congrArg (e :: ·) ih
    next => exact ih

theorem liveRows_reverse_other {ref' : EntryRef} (h : ref' ≠ ref) (ledger : PartyLedger) :
    liveRows (reverseLedgerEntries ledger ref') ref = liveRows ledger ref := by
  have hmirror : liveRows ((ledger.filter (isLive ref')).map
      mirror) ref = [] := by
    refine filter_eq_nil_iff.mpr fun e he => ?_
    obtain ⟨e, -, rfl⟩ := mem_map.mp he
    simp [isLive, mirror]
  unfold reverseLedgerEntries
  rw [liveRows_append, liveRows_map_void h, hmirror, append_nil]

end Live

/-! ## Voided rows -/

section Voided

variable {ref : EntryRef} {f : PartyLedgerEntry → ℚ}

/-- The row belongs to the document and describes it no more. -/
def PartyLedgerEntry.isVoided (ref : EntryRef) (e : PartyLedgerEntry) : Bool :=
  decide (e.ref = some ref ∧ e.voided = true)

def voidedTotal (f : PartyLedgerEntry → ℚ) (ledger : PartyLedger) (ref : EntryRef) : ℚ :=
  ((ledger.filter (isVoided ref)).map f).sum

theorem voidedTotal_append (ledger rows : PartyLedger) :
    voidedTotal f (ledger ++ rows) ref = voidedTotal f ledger ref + voidedTotal f rows ref := by
  unfold voidedTotal
  rw [filter_append, map_append, sum_append]

theorem voidedTotal_cons (e : PartyLedgerEntry) (ledger : PartyLedger) :
    voidedTotal f (e :: ledger) ref = (if e.isVoided ref then f e else 0) + voidedTotal f ledger ref := by
  unfold voidedTotal
  by_cases he : e.isVoided ref = true
  · rw [filter_cons_of_pos he, map_cons, sum_cons, if_pos he]
  · rw [filter_cons_of_neg he, if_neg he, zero_add]

theorem voidedTotal_of_none {rows : PartyLedger} (h : ∀ e ∈ rows, e.isVoided ref = false) :
    voidedTotal f rows ref = 0 := by
  have hnil : rows.filter (isVoided ref) = [] :=
    filter_eq_nil_iff.mpr fun e he => by simp [h e he]
  unfold voidedTotal
  rw [hnil]
  rfl

/-- The rows that a reversal voids, and their mirrors, cancel: the voided rows of every document come
to what they came to before. -/
theorem voidedTotal_reverse (hvoid : ∀ ref e, f (void ref e) = f e)
    (hmirror : ∀ e, f e.mirror = -f e) (ledger : PartyLedger) (ref' : EntryRef) :
    voidedTotal f (reverseLedgerEntries ledger ref') ref = voidedTotal f ledger ref := by
  unfold reverseLedgerEntries
  rw [voidedTotal_append]
  induction ledger with
  | nil => exact add_zero _
  | cons e ledger ih =>
    rw [map_cons, voidedTotal_cons, voidedTotal_cons, hvoid, filter_cons]
    by_cases hlive : e.isLive ref' = true
    · obtain ⟨href, hvoided⟩ := of_decide_eq_true hlive
      have hbefore : ¬ e.isVoided ref = true := by simp [isVoided, hvoided]
      have hsame : (e.void ref').isVoided ref = e.mirror.isVoided ref := by
        unfold void
        rw [if_pos hlive]
        rfl
      rw [if_pos hlive, map_cons, voidedTotal_cons, if_neg hbefore, hsame, hmirror]
      split
      · linarith
      · linarith
    · have hsame : e.void ref' = e := if_neg hlive
      rw [if_neg hlive, hsame]
      linarith

end Voided

/-! ## Payments (`recordPayment`) -/

/-- A rupee amount as JavaScript writes a number with at most two decimals. -/
def rupeesText (paise : ℕ) : String :=
  let rupees := toString (paise / 100)
  let rest := paise % 100
  if rest = 0 then rupees
  else if rest % 10 = 0 then rupees ++ "." ++ toString (rest / 10)
  else rupees ++ "." ++ padded 2 rest

/-- What is sent to `recordPayment`; `clientRef` is trimmed and not empty. -/
structure PaymentRequest where
  partyType : PartyType
  partyId : ObjectId
  amount : ℚ
  method : PaymentMethod := .cash
  date : Option Date := none
  clientRef : Option String := none

def PaymentRequest.entry (r : PaymentRequest) (now : Date) : PartyLedgerEntry where
  partyType := r.partyType
  party := some r.partyId
  kind := .payment
  effect := -1
  amount := r.amount
  method := some r.method
  date := r.date.getD now
  clientRef := r.clientRef

/-- `findDuplicate`: a submission with the same `clientRef`, of whatever party. -/
def findDuplicate (ledger : PartyLedger) (clientRef : Option String) : Option PartyLedgerEntry :=
  match clientRef with
  | none => none
  | some ref => ledger.find? (fun e => decide (e.clientRef = some ref))

/-- What a customer may not pay, with the text that says so. -/
def dueExceeded (due : ℤ) : ServiceError :=
  ⟨if 0 < due then "Only ₹" ++ rupeesText due.toNat ++ " is due from this customer"
    else "This customer has no udhaar due", some 409⟩

/-- `roundCurrency(amount) > due + 0.001`. -/
def exceedsDue (amount : ℚ) (due : ℤ) : Prop :=
  fromPaise due + 1 / 1000 < fromPaise (roundCurrency amount)

instance (amount : ℚ) (due : ℤ) : Decidable (exceedsDue amount due) :=
  inferInstanceAs (Decidable (_ < _))

def partyNotFound : ServiceError := ⟨"Party not found", some 404⟩

/-! ### Recorded payments -/

def PartyLedgerEntry.isRecorded (e : PartyLedgerEntry) : Bool :=
  decide (e.kind = .payment ∧ e.ref = none)

def recordedPayments (ledger : PartyLedger) (partyType : PartyType) (party : ObjectId) : ℚ :=
  ((ledger.filter (fun e => e.isOf partyType party && e.isRecorded)).map amount).sum

section Recorded

variable {partyType : PartyType} {party : ObjectId}

theorem recordedPayments_append (ledger rows : PartyLedger) :
    recordedPayments (ledger ++ rows) partyType party
      = recordedPayments ledger partyType party + recordedPayments rows partyType party := by
  unfold recordedPayments
  rw [filter_append, map_append, sum_append]

theorem recordedPayments_of_refs {rows : PartyLedger} (h : ∀ e ∈ rows, e.ref ≠ none) :
    recordedPayments rows partyType party = 0 := by
  have hnil : rows.filter (fun e => e.isOf partyType party && e.isRecorded) = [] := by
    refine filter_eq_nil_iff.mpr fun e he => ?_
    simp [isRecorded, h e he]
  unfold recordedPayments
  rw [hnil]
  rfl

theorem recordedPayments_void (ledger : PartyLedger) (ref : EntryRef) :
    recordedPayments (ledger.map (void ref)) partyType party
      = recordedPayments ledger partyType party := by
  induction ledger with
  | nil => rfl
  | cons e ledger ih =>
    have hsame : ∀ e : PartyLedgerEntry, (e.void ref).amount = e.amount ∧
        (e.void ref).isRecorded = e.isRecorded := by
      intro e
      unfold void
      split
      · exact ⟨rfl, rfl⟩
      · exact ⟨rfl, rfl⟩
    unfold recordedPayments at ih ⊢
    rw [map_cons, filter_cons, filter_cons, isOf_void, (hsame e).2]
    split
    · rw [map_cons, sum_cons, map_cons, sum_cons, ih, (hsame e).1]
    · exact ih

theorem recordedPayments_reverse (ledger : PartyLedger) (ref : EntryRef) :
    recordedPayments (reverseLedgerEntries ledger ref) partyType party
      = recordedPayments ledger partyType party := by
  have hmirror : recordedPayments ((ledger.filter (isLive ref)).map
      mirror) partyType party = 0 := by
    refine recordedPayments_of_refs fun e he => ?_
    obtain ⟨row, hrow, rfl⟩ := mem_map.mp he
    have hlive : row.isLive ref = true := (mem_filter.mp hrow).2
    have href : row.ref = some ref := (of_decide_eq_true hlive).1
    simp [mirror, href]
  unfold reverseLedgerEntries
  rw [recordedPayments_append, recordedPayments_void, hmirror, add_zero]

theorem ledgerNet_payment (r : PaymentRequest) (now : Date) :
    ledgerNet [r.entry now] partyType party = -recordedPayments [r.entry now] partyType party := by
  have hrecorded : (r.entry now).isRecorded = true := rfl
  have hsigned : (r.entry now).signed = -(r.entry now).amount := by
    simp [signed, PaymentRequest.entry]
  unfold recordedPayments
  rw [ledgerNet_cons, ledgerNet_nil, add_zero, filter_cons, hrecorded, Bool.and_true, hsigned]
  split
  · simp
  · simp

end Recorded

end DiscountBazar.Business
