/-
Payments of customers that are recorded at once (`recordPayment` of `businessService.js`).

A submission looks for an earlier one with its `clientRef`, reads what is due, compares, and writes a
row; nothing holds the due amount in between. The rows of one `clientRef` are kept apart by an index.
Sales on credit, edits and returns write their rows in transactions of their own, so each of them is
one step here.
-/
import DiscountBazar.Business.CreditSales
import DiscountBazar.Lib.Tasks

namespace DiscountBazar.Business.Payments

open Tasks Transaction Function Runs PartyLedgerEntry
open Contract (Sound)
open Prog (perform)
open List

/-! ## The shared state -/

/-- A customer's payment that was written, with what was due at that moment. -/
structure Paid where
  amount : ℚ
  due : ℚ
  deriving DecidableEq

/-- The ledger with what the checks read. Beside it, what is due as each task has read it last, the
payments of customers that were written, and the submissions that were answered with success. -/
structure Books where
  ledger : PartyLedger := []
  isParty : PartyType → ObjectId → Bool
  zone : Zone
  days : CashDays
  read : ℕ → ℚ := fun _ => 0
  paid : List Paid := []
  answered : List String := []

/-! ## Calls -/

/-- What a call throws: an error of the service, or the collision with the index. -/
inductive Failure where
  | service (e : ServiceError)
  | duplicateKey
  deriving DecidableEq

inductive Kind where
  | partyExists (partyType : PartyType) (partyId : ObjectId)
  | findDuplicate (clientRef : String)
  | assertDayOpen (date : Option Date)
  | partyNet (partyId : ObjectId)
  | create (r : PaymentRequest)
  /-- the answer that the payment is recorded -/
  | respond (clientRef : Option String)

@[reducible] def Kind.Reply : Kind → Type
  | .partyExists .. | .findDuplicate _ => Bool
  | .partyNet _ => ℤ
  | _ => Unit

structure Choice where
  outcome : Tasks.Outcome ServiceError := .done
  now : Date := 0

/-- How many rows have the `clientRef`. -/
def rowsWith (ledger : PartyLedger) (ref : String) : ℕ :=
  (ledger.filter (fun e => decide (e.clientRef = some ref))).length

/-- The index of `clientRef` has the row's already. -/
def collides (ledger : PartyLedger) (clientRef : Option String) : Bool :=
  clientRef.any (fun ref => decide (0 < rowsWith ledger ref))

def write (r : PaymentRequest) (now : Date) (s : Books) : Books :=
  { s with
    ledger := s.ledger ++ [r.entry now]
    paid :=
      if r.partyType = .customer then ⟨r.amount, ledgerNet s.ledger .customer r.partyId⟩ :: s.paid
      else s.paid }

/-- What a call of task `i` answers and leaves where it is done. -/
def effect (i : ℕ) (now : Date) : (kind : Kind) → Books → Except Failure kind.Reply × Books
  | .partyExists partyType partyId, s => (.ok (s.isParty partyType partyId), s)
  | .findDuplicate ref, s => (.ok (decide (0 < rowsWith s.ledger ref)), s)
  | .assertDayOpen date, s =>
    match DiscountBazar.Business.assertDayOpen s.zone s.days (date.getD now) with
    | .ok _ => (.ok (), s)
    | .error e => (.error (.service e), s)
  | .partyNet partyId, s =>
    (.ok (DiscountBazar.Business.partyNet s.ledger .customer partyId),
      { s with read := update s.read i (ledgerNet s.ledger .customer partyId) })
  | .create r, s =>
    if collides s.ledger r.clientRef then (.error .duplicateKey, s) else (.ok (), write r now s)
  | .respond clientRef, s => (.ok (), { s with answered := clientRef.toList ++ s.answered })

def performOp (i : ℕ) (kind : Kind) (c : Choice) (s : Books) :
    Option (Except Failure kind.Reply × Books) :=
  match c.outcome with
  | .done => some (effect i c.now kind s)
  | .refused e => some (.error (.service e), s)
  | .lost e => some (.error (.service e), (effect i c.now kind s).2)

/-! ## The handler -/

abbrev M := Prog Kind Kind.Reply Failure

/-- `findDuplicate`; a submission without a `clientRef` has none. -/
def findDuplicate (clientRef : Option String) : M Bool :=
  match clientRef with
  | none => pure false
  | some ref => perform (Kind.findDuplicate ref)

/-- A customer cannot pay more than what is due. -/
def assertWithinDue (r : PaymentRequest) : M Unit :=
  if r.partyType = .customer then do
    let due ← perform (Kind.partyNet r.partyId)
    if exceedsDue r.amount due then .throw (.service (dueExceeded due)) else pure ()
  else pure ()

/-- Of two copies of a submission that have both passed the lookup, the later one finds the row of
the first. -/
def createEntry (r : PaymentRequest) : M Unit :=
  (perform (Kind.create r)).tryCatch (fun e =>
    if e = .duplicateKey then do
      let _ ← findDuplicate r.clientRef
      pure ()
    else .throw e)

def recordPayment (r : PaymentRequest) : M Unit := do
  let known ← perform (Kind.partyExists r.partyType r.partyId)
  if known = false then .throw (.service partyNotFound)
  else do
    let duplicate ← findDuplicate r.clientRef
    if duplicate then perform (Kind.respond r.clientRef)
    else do
      perform (Kind.assertDayOpen r.date)
      assertWithinDue r
      createEntry r
      perform (Kind.respond r.clientRef)

/-! ## The system -/

/-- What the others do: a sale on credit, the edit of a bill, a return, and anything with parties,
the time zone and the days. -/
inductive Event where
  | sale (b : CreditBill) (date : Date)
  | edit (b : CreditBill)
  | refund (customer : Option ObjectId) (r : BillReturn) (date : Date)
  | elsewhere (isParty : PartyType → ObjectId → Bool) (zone : Zone) (days : CashDays)

def happens (event : Event) (s : Books) : Option Books :=
  match event with
  | .sale b date => some { s with ledger := s.ledger ++ creditRows b date }
  | .edit b =>
    some { s with
           ledger := reverseLedgerEntries s.ledger (.order b.id) ++ creditRows b b.createdAt }
  | .refund customer r date => some { s with ledger := s.ledger ++ refundRows customer r date }
  | .elsewhere isParty zone days => some { s with isParty, zone, days }

def paymentSystem : System Kind Kind.Reply Failure Books Choice Event PaymentRequest where
  perform := performOp
  outside := happens
  entry := recordPayment
  mayStart := fun _ _ => true

def opened (isParty : PartyType → ObjectId → Bool) (zone : Zone) (days : CashDays) :
    Pool Kind Kind.Reply Failure Books :=
  ⟨{ isParty, zone, days }, []⟩

/-! ## The property -/

/-- No customer has paid more than was due when the payment was recorded. -/
def WithinDue (s : Books) : Prop := ∀ p ∈ s.paid, p.amount ≤ p.due

/-- No `clientRef` has two rows, and each that was answered with success has one. -/
structure RecordedOnce (s : Books) : Prop where
  once : ∀ ref, rowsWith s.ledger ref ≤ 1
  answered : ∀ ref ∈ s.answered, rowsWith s.ledger ref = 1

/-- A row of a customer is written while no less is due than the task has read, and the amount is
within what it has read without rounding too. -/
def DueStands (i : ℕ) (kind : Kind) (c : Choice) (s : Books) : Prop :=
  match kind with
  | .create r => c.outcome.takesEffect = true → r.partyType = .customer →
      s.read i ≤ ledgerNet s.ledger .customer r.partyId ∧
        (exceedsDue r.amount (roundCurrency (s.read i)) ∨ r.amount ≤ s.read i)
  | _ => True

instance (i : ℕ) (kind : Kind) (c : Choice) (s : Books) : Decidable (DueStands i kind c s) := by
  unfold DueStands
  split <;> infer_instance

/-! ## Rows of one reference -/

section Rows

variable {ref : String}

theorem rowsWith_append (ledger rows : PartyLedger) :
    rowsWith (ledger ++ rows) ref = rowsWith ledger ref + rowsWith rows ref := by
  unfold rowsWith
  rw [filter_append, length_append]

theorem rowsWith_of_none {rows : PartyLedger} (h : ∀ e ∈ rows, e.clientRef = none) :
    rowsWith rows ref = 0 := by
  refine length_eq_zero_iff.mpr (filter_eq_nil_iff.mpr fun e he => ?_)
  simp [h e he]

theorem rowsWith_reverse (ledger : PartyLedger) (doc : EntryRef) :
    rowsWith (reverseLedgerEntries ledger doc) ref = rowsWith ledger ref := by
  have hvoid : rowsWith (ledger.map (void doc)) ref = rowsWith ledger ref := by
    have hsame : (fun e : PartyLedgerEntry => decide ((e.void doc).clientRef = some ref))
        = fun e => decide (e.clientRef = some ref) := by
      funext e
      unfold void
      split
      · rfl
      · rfl
    unfold rowsWith
    rw [filter_map, length_map]
    exact congrArg (fun f => (ledger.filter f).length) hsame
  have hmirror : rowsWith ((ledger.filter (isLive doc)).map
      mirror) ref = 0 := by
    refine rowsWith_of_none fun e he => ?_
    obtain ⟨row, -, rfl⟩ := mem_map.mp he
    rfl
  unfold reverseLedgerEntries
  rw [rowsWith_append, hvoid, hmirror, add_zero]

theorem rowsWith_creditRows (b : CreditBill) (date : Date) : rowsWith (creditRows b date) ref = 0 := by
  refine rowsWith_of_none fun e he => ?_
  unfold creditRows at he
  dsimp only at he
  split at he
  · rcases mem_cons.mp he with rfl | he
    · rfl
    · split at he
      · cases mem_singleton.mp he
        rfl
      · cases he
  · cases he

theorem rowsWith_refundRows (customer : Option ObjectId) (r : BillReturn) (date : Date) :
    rowsWith (refundRows customer r date) ref = 0 := by
  refine rowsWith_of_none fun e he => ?_
  unfold refundRows at he
  split at he
  · cases mem_singleton.mp he
    rfl
  · cases he

theorem happens_keeps {event : Event} {s s' : Books} (h : happens event s = some s') :
    (∀ ref, rowsWith s'.ledger ref = rowsWith s.ledger ref) ∧ s'.answered = s.answered ∧
      s'.read = s.read ∧ s'.paid = s.paid := by
  cases event with
  | sale b date =>
    cases h
    exact ⟨fun ref => by rw [rowsWith_append, rowsWith_creditRows, add_zero], rfl, rfl, rfl⟩
  | edit b =>
    cases h
    refine ⟨fun ref => ?_, rfl, rfl, rfl⟩
    rw [rowsWith_append, rowsWith_creditRows, rowsWith_reverse, add_zero]
  | refund customer r date =>
    cases h
    exact ⟨fun ref => by rw [rowsWith_append, rowsWith_refundRows, add_zero], rfl, rfl, rfl⟩
  | elsewhere isParty zone days =>
    cases h
    exact ⟨fun _ => rfl, rfl, rfl, rfl⟩

end Rows

/-! ## Calls under the contract -/

/-- What a task relies on: references keep their rows, and nobody else writes down what it has
read. -/
def Keeps (i : ℕ) (s s' : Books) : Prop :=
  (∀ ref, rowsWith s.ledger ref ≤ rowsWith s'.ledger ref) ∧ s'.read i = s.read i

def HasRow (r : PaymentRequest) (s : Books) : Prop :=
  ∀ ref, r.clientRef = some ref → 0 < rowsWith s.ledger ref

/-- The amount has passed the comparison with what the task has read. -/
def Checked (i : ℕ) (r : PaymentRequest) (s : Books) : Prop :=
  r.partyType = .customer → ¬ exceedsDue r.amount (roundCurrency (s.read i))

def Fits (i : ℕ) (kind : Kind) (s : Books) : Prop :=
  match kind with
  | .create r => Checked i r s
  | .respond clientRef => ∀ ref, clientRef = some ref → 0 < rowsWith s.ledger ref
  | _ => True

section Calls

variable {s s' : Books} {i : ℕ} {kind : Kind} {c : Choice} {r : Except Failure kind.Reply}

theorem Keeps.refl (i : ℕ) (s : Books) : Keeps i s s := ⟨fun _ => le_rfl, rfl⟩

theorem Keeps.trans {s'' : Books} (h : Keeps i s s') (h' : Keeps i s' s'') : Keeps i s s'' :=
  ⟨fun ref => (h.1 ref).trans (h'.1 ref), h'.2.trans h.2⟩

theorem HasRow.stable (r : PaymentRequest) (s s' : Books) (h : Keeps i s s') (hs : HasRow r s) :
    HasRow r s' := fun ref href => (hs ref href).trans_le (h.1 ref)

theorem Checked.stable (r : PaymentRequest) (s s' : Books) (h : Keeps i s s') (hs : Checked i r s) :
    Checked i r s' := by
  unfold Checked
  rw [h.2]
  exact hs

/-- A call leaves what it leaves where it is done, or nothing. -/
theorem performOp_cases (h : performOp i kind c s = some (r, s')) :
    c.outcome = .done ∧ r = (effect i c.now kind s).1 ∧ s' = (effect i c.now kind s).2 ∨
      (∃ e, r = .error (.service e)) ∧
        (s' = s ∨ c.outcome.takesEffect = true ∧ s' = (effect i c.now kind s).2) := by
  unfold performOp at h
  cases hout : c.outcome with
  | done =>
    rw [hout] at h
    obtain ⟨rfl, rfl⟩ := Prod.mk.inj (Option.some.inj h)
    exact .inl ⟨rfl, rfl, rfl⟩
  | refused e =>
    rw [hout] at h
    cases h
    exact .inr ⟨⟨e, rfl⟩, .inl rfl⟩
  | lost e =>
    rw [hout] at h
    cases h
    exact .inr ⟨⟨e, rfl⟩, .inr ⟨rfl, rfl⟩⟩

theorem rowsWith_entry (p : PaymentRequest) (now : Date) (ref : String) :
    rowsWith [p.entry now] ref = if p.clientRef = some ref then 1 else 0 := by
  unfold rowsWith
  rw [filter_singleton]
  by_cases href : p.clientRef = some ref
  · simp [PaymentRequest.entry, href]
  · simp [PaymentRequest.entry, href]

theorem RecordedOnce.write (h : RecordedOnce s) {p : PaymentRequest}
    (hfree : collides s.ledger p.clientRef = false) (now : Date) : RecordedOnce (write p now s) := by
  have hrows : ∀ ref, rowsWith (DiscountBazar.Business.Payments.write p now s).ledger ref
      = rowsWith s.ledger ref + if p.clientRef = some ref then 1 else 0 := by
    intro ref
    rw [← rowsWith_entry p now ref]
    exact rowsWith_append _ _
  have hnone : ∀ ref, p.clientRef = some ref → rowsWith s.ledger ref = 0 := by
    intro ref href
    unfold collides at hfree
    rw [href, Option.any_some, decide_eq_false_iff_not, not_lt, Nat.le_zero] at hfree
    exact hfree
  constructor
  · intro ref
    rw [hrows]
    split
    next href => rw [hnone ref href]
    next => exact h.once ref
  · intro ref href
    rw [hrows, h.answered ref href]
    rw [if_neg fun heq => ?_]
    have hzero := hnone ref heq
    rw [h.answered ref href] at hzero
    cases hzero

/-- What every call keeps: references, the others' readings, and payments within what is due as long
as the due amount stands. -/
theorem effect_keeps (h : RecordedOnce s) (hfits : Fits i kind s) (now : Date) :
    RecordedOnce (effect i now kind s).2 ∧
      (∀ ref, rowsWith s.ledger ref ≤ rowsWith (effect i now kind s).2.ledger ref) ∧
      (∀ j, j ≠ i → Keeps j s (effect i now kind s).2) := by
  have hsame : ∀ t : Books, t = s → RecordedOnce t ∧
      (∀ ref, rowsWith s.ledger ref ≤ rowsWith t.ledger ref) ∧ ∀ j, j ≠ i → Keeps j s t := by
    rintro t rfl
    exact ⟨h, fun _ => le_rfl, fun j _ => Keeps.refl j t⟩
  cases kind with
  | partyExists | findDuplicate => exact hsame _ rfl
  | assertDayOpen date =>
    refine hsame _ ?_
    unfold effect
    dsimp only
    split
    · rfl
    · rfl
  | partyNet partyId =>
    refine ⟨⟨h.once, h.answered⟩, fun _ => le_rfl, fun j hj => ⟨fun _ => le_rfl, ?_⟩⟩
    exact update_of_ne hj _ _
  | create p =>
    unfold effect
    dsimp only
    split
    · exact hsame _ rfl
    next hfree =>
      have hgrows : ∀ ref, rowsWith s.ledger ref ≤ rowsWith (write p now s).ledger ref := by
        intro ref
        show _ ≤ rowsWith (s.ledger ++ [p.entry now]) ref
        rw [rowsWith_append]
        exact Nat.le_add_right _ _
      exact ⟨h.write (Bool.not_eq_true _ ▸ hfree) now, hgrows, fun j _ => ⟨hgrows, rfl⟩⟩
  | respond clientRef =>
    refine ⟨⟨h.once, fun ref href => ?_⟩, fun _ => le_rfl, fun j _ => ⟨fun _ => le_rfl, rfl⟩⟩
    rcases mem_append.mp href with hnew | hold
    · have hpos := hfits ref (Option.mem_toList.mp hnew)
      have hle := h.once ref
      show rowsWith s.ledger ref = 1
      omega
    · exact h.answered ref hold

theorem effect_withinDue (h : WithinDue s) (hfits : Fits i kind s)
    (hstands : DueStands i kind c s) (htakes : c.outcome.takesEffect = true) (now : Date) :
    WithinDue (effect i now kind s).2 := by
  cases kind with
  | create p =>
    unfold effect
    dsimp only
    split
    · exact h
    · intro q hq
      unfold write at hq
      dsimp only at hq
      split at hq
      next hcustomer =>
        rcases mem_cons.mp hq with rfl | hq
        · obtain ⟨hfall, hround⟩ := hstands htakes hcustomer
          rcases hround with hexceeds | hle
          · exact absurd hexceeds (hfits hcustomer)
          · exact hle.trans hfall
        · exact h q hq
      next => exact h q hq
  | assertDayOpen date =>
    unfold effect
    dsimp only
    split
    · exact h
    · exact h
  | _ => exact h

end Calls

/-! ## The handler under its contract -/

/-- References have one row; and, where the due amounts stand, payments are within them. -/
def paymentContract (careful : Prop) : Contract paymentSystem where
  inv s := RecordedOnce s ∧ (careful → WithinDue s)
  rely := Keeps
  may i kind c s := careful → DueStands i kind c s

section Handler

variable {careful : Prop} {s : Books} {i : ℕ}

/-- The rule for one call, with what its answer tells the task. -/
theorem sound_call {kind : Kind} {F : Books → Prop} {Q : kind.Reply → Books → Prop}
    {E : Failure → Books → Prop} (hF : ∀ s s', Keeps i s s' → F s → F s') (hs : F s)
    (hfits : ∀ s, F s → Fits i kind s)
    (hQ : ∀ s a now, F s → (effect i now kind s).1 = .ok a → Q a (effect i now kind s).2)
    (hE : ∀ s e now, F s → (effect i now kind s).1 = .error e → E e (effect i now kind s).2)
    (hfailed : ∀ s e, E (.service e) s) :
    (paymentContract careful).Sound i Q E (perform kind) s := by
  refine Sound.perform fun s₁ hrely hinv c hmay r s₂ hperform => ?_
  have hknown : F s₁ := hF s s₁ hrely hs
  obtain ⟨hrecorded, -, hkeeps⟩ := effect_keeps hinv.1 (hfits s₁ hknown) c.now
  have hdue : c.outcome.takesEffect = true → careful → WithinDue (effect i c.now kind s₁).2 :=
    fun htakes hcareful =>
      effect_withinDue (hinv.2 hcareful) (hfits s₁ hknown) (hmay hcareful) htakes c.now
  rcases performOp_cases hperform with ⟨hdone, rfl, rfl⟩ | ⟨⟨e, rfl⟩, rfl | ⟨htakes, rfl⟩⟩
  · refine ⟨⟨hrecorded, hdue (by rw [hdone]; rfl)⟩, hkeeps, ?_, ?_⟩
    · exact fun a ha => hQ s₁ a c.now hknown ha
    · exact fun e he => hE s₁ e c.now hknown he
  · refine ⟨hinv, fun j _ => Keeps.refl j _, fun a ha => (nomatch ha), ?_⟩
    intro e' he
    cases he
    exact hfailed _ e
  · refine ⟨⟨hrecorded, hdue htakes⟩, hkeeps, fun a ha => (nomatch ha), ?_⟩
    intro e' he
    cases he
    exact hfailed _ e

theorem sound_plain {kind : Kind} (hfits : ∀ s, Fits i kind s) :
    (paymentContract careful).Keeps i (perform kind) s :=
  sound_call (F := fun _ => True) (fun _ _ _ => id) trivial (fun s _ => hfits s)
    (fun _ _ _ _ _ => trivial) (fun _ _ _ _ _ => trivial) (fun _ _ => trivial)

theorem findDuplicate_sound (r : PaymentRequest) :
    (paymentContract careful).Sound i (fun found s => found = true → HasRow r s) (fun _ _ => True)
      (findDuplicate r.clientRef) s := by
  unfold findDuplicate
  split
  next hnone => exact Sound.ret (fun hfound => nomatch hfound)
  next ref href =>
    refine sound_call (F := fun _ => True) (fun _ _ _ => id) trivial (fun _ _ => trivial) ?_
      (fun _ _ _ _ _ => trivial) (fun _ _ => trivial)
    intro s a now _ ha hfound ref' href'
    cases href.symm.trans href'
    cases ha
    exact of_decide_eq_true hfound

theorem assertWithinDue_sound (r : PaymentRequest) :
    (paymentContract careful).Sound i (fun _ => Checked i r) (fun _ _ => True) (assertWithinDue r) s := by
  unfold assertWithinDue
  refine Sound.ite (fun hcustomer => ?_) (fun hcustomer => ?_)
  · refine Sound.bind (R := fun due s => due = roundCurrency (s.read i)) ?_ ?_
    · refine sound_call (F := fun _ => True) (fun _ _ _ => id) trivial (fun _ _ => trivial) ?_
        (fun _ _ _ _ _ => trivial) (fun _ _ => trivial)
      intro s a now _ ha
      cases ha
      show _ = roundCurrency (update s.read i _ i)
      rw [update_self]
      rfl
    · intro due s hdue
      refine Sound.ite_throw (fun hnot => ?_)
      refine Sound.ret fun _ => ?_
      rw [← hdue]
      exact hnot
  · exact Sound.ret fun h => absurd h hcustomer

theorem createEntry_sound {r : PaymentRequest} (h : Checked i r s) :
    (paymentContract careful).Sound i (fun _ => HasRow r) (fun _ _ => True) (createEntry r) s := by
  refine Sound.tryCatch (D := fun e s => e = .duplicateKey → HasRow r s) ?_ ?_
  · refine sound_call (F := Checked i r) (fun s s' => Checked.stable r s s') h (fun _ hs => hs)
      ?_ ?_ (fun _ _ he => nomatch he)
    · intro s a now _ ha ref href
      unfold effect at ha ⊢
      dsimp only at ha ⊢
      split at ha
      · cases ha
      next hfree =>
        rw [if_neg hfree]
        show 0 < rowsWith (s.ledger ++ [r.entry now]) ref
        rw [rowsWith_append, rowsWith_entry, if_pos href]
        exact Nat.succ_pos _
    · intro s e now _ he _ ref href
      unfold effect at he ⊢
      dsimp only at he ⊢
      split at he
      next hcollides =>
        rw [if_pos hcollides]
        unfold collides at hcollides
        rw [href, Option.any_some] at hcollides
        exact of_decide_eq_true hcollides
      · cases he
  · intro e s hrow
    refine Sound.ite (fun hduplicate => ?_) (fun _ => Sound.throw trivial)
    have hfound : (paymentContract careful).Sound i (fun found s => found = true → HasRow r s)
        (fun _ _ => True) (findDuplicate r.clientRef) s := findDuplicate_sound r
    have hframed := hfound.frame (F := HasRow r) (fun j s s' => HasRow.stable r s s') (hrow hduplicate)
    refine Sound.bind (hframed.mono (fun _ _ h => h) (fun _ _ _ => trivial)) ?_
    exact fun _ s hs => Sound.ret hs.2

theorem respond_sound {r : PaymentRequest} (h : HasRow r s) :
    (paymentContract careful).Keeps i (perform (Kind.respond r.clientRef)) s :=
  sound_call (F := HasRow r) (fun s s' => HasRow.stable r s s') h (fun _ hs => hs)
    (fun _ _ _ _ _ => trivial) (fun _ _ _ _ _ => trivial) (fun _ _ => trivial)

theorem recordPayment_sound (r : PaymentRequest) :
    (paymentContract careful).Keeps i (recordPayment r) s := by
  unfold recordPayment
  refine Sound.bind (sound_plain fun _ => trivial) fun known s₁ _ => ?_
  refine Sound.ite_throw fun _ => ?_
  refine Sound.bind (findDuplicate_sound r) fun duplicate s₂ hfound => ?_
  refine Sound.ite (fun hduplicate => respond_sound (hfound hduplicate)) fun _ => ?_
  refine Sound.bind (sound_plain fun _ => trivial) fun _ s₃ _ => ?_
  refine Sound.bind (assertWithinDue_sound r) fun _ s₄ hchecked => ?_
  refine Sound.bind (createEntry_sound hchecked) fun _ s₅ hrow => ?_
  exact respond_sound hrow

theorem paymentContract_lawful : (paymentContract careful).Lawful where
  refl := Keeps.refl
  trans _ _ _ _ := Keeps.trans
  idle _ _ _ _ _ := trivial
  outside event s s' hinv _ hout := by
    obtain ⟨hrows, hanswered, hread, hpaid⟩ := happens_keeps hout
    refine ⟨⟨⟨fun ref => ?_, fun ref href => ?_⟩, fun hcareful p hp => ?_⟩, fun i => ⟨fun ref => ?_, ?_⟩⟩
    · rw [hrows]
      exact hinv.1.once ref
    · rw [hanswered] at href
      rw [hrows]
      exact hinv.1.answered ref href
    · rw [hpaid] at hp
      exact hinv.2 hcareful p hp
    · exact (hrows ref).ge
    · rw [hread]
  entry r i s _ _ _ := recordPayment_sound r

end Handler

/-! ## Main result -/

/-- Along every run each reference that was answered with success has one row and none has two; and
no customer pays more than is due, as long as no due amount falls between the moment it is read and
the moment the payment is written, and rounding hides no excess. -/
theorem payments_within_due (isParty : PartyType → ObjectId → Bool) (zone : Zone) (days : CashDays)
    (as : List (Action Choice Event PaymentRequest)) :
    Along paymentSystem.step (fun p => RecordedOnce p.shared) (opened isParty zone days) as ∧
      (Guarded paymentSystem.step (OnOps DueStands) (opened isParty zone days) as →
        Along paymentSystem.step (fun p => WithinDue p.shared) (opened isParty zone days) as) := by
  have hrun : ∀ careful : Prop, (careful → Guarded paymentSystem.step (OnOps DueStands)
      (opened isParty zone days) as) → Along paymentSystem.step (paymentContract careful).Holds
        (opened isParty zone days) as := by
    intro careful hguard
    have hstart : (paymentContract careful).Holds (opened isParty zone days) := by
      refine Contract.holds_start ⟨⟨fun _ => Nat.zero_le _, fun ref href => ?_⟩, fun _ p hp => ?_⟩
        (fun _ => trivial)
      · cases href
      · cases hp
    refine paymentContract_lawful.along hstart (Contract.guarded_meets ?_ ?_)
    · refine guarded_of_forall (fun p a => ?_) _ _
      cases a with
      | outside | _ => trivial
    · by_cases hcareful : careful
      · refine (hguard hcareful).mono fun p a h => ?_
        cases a with
        | run i c => exact fun op next htask _ => h op next htask
        | _ => trivial
      · refine guarded_of_forall (fun p a => ?_) _ _
        cases a with
        | run i c => exact fun _ _ _ h => absurd h hcareful
        | _ => trivial
  refine ⟨(hrun False False.elim).mono fun p h => h.inv.1, fun hguard => ?_⟩
  exact (hrun True fun _ => hguard).mono fun p h => h.inv.2 trivial

/-! ## Two payments of one debt -/

/-- A bill of 100 rupees that customer 7 has on credit. -/
def unpaidBill : CreditBill where
  posAmountPaid := 0
  id := 0
  bill :=
    { items := []
      isTaxInclusive := true
      paymentBreakdown := ⟨10000, 0, 0, true, 10000, 10000, 0, 0⟩
      posCustomer := some 7 }
  posPaymentMethod := .credit
  createdAt := 0

def allOfIt (clientRef : String) : PaymentRequest where
  partyType := .customer
  partyId := 7
  amount := 100
  clientRef := some clientRef

def counterBooks : Pool Kind Kind.Reply Failure Books :=
  opened (fun _ id => decide (id = 7)) defaultZone Table.empty

def sentTwice : List (Action Choice Event PaymentRequest) :=
  .outside (.sale unpaidBill 0) :: .start (allOfIt "a") :: .start (allOfIt "a") ::
    (replicate 6 (.run 0 {}) ++ replicate 3 (.run 1 {}))

theorem payments_within_due_once :
    ((exec paymentSystem.step counterBooks sentTwice).shared.paid = [⟨100, 100⟩] ∧
      (exec paymentSystem.step counterBooks sentTwice).shared.answered = ["a", "a"]) ∧
      Along paymentSystem.step (fun p => WithinDue p.shared) counterBooks sentTwice := by
  refine ⟨by decide +kernel, ?_⟩
  exact (payments_within_due _ _ _ sentTwice).2 (by decide +kernel)

/-- Two payments, and each reads what is due before the other one is written. -/
def paidAtOnce : List (Action Choice Event PaymentRequest) :=
  .outside (.sale unpaidBill 0) :: .start (allOfIt "a") :: .start (allOfIt "b") ::
    (replicate 4 (.run 0 {}) ++ replicate 4 (.run 1 {}) ++ [.run 0 {}, .run 1 {}])

/-- Both are written: the customer has paid 200 rupees of 100. -/
theorem debt_paid_twice :
    (exec paymentSystem.step counterBooks paidAtOnce).shared.paid = [⟨100, 0⟩, ⟨100, 100⟩] ∧
      ¬ Along paymentSystem.step (fun p => WithinDue p.shared) counterBooks paidAtOnce := by
  have hpaid : (exec paymentSystem.step counterBooks paidAtOnce).shared.paid
      = [⟨100, 0⟩, ⟨100, 100⟩] := by decide +kernel
  refine ⟨hpaid, fun h => ?_⟩
  have hlast := h.last ⟨100, 0⟩ (by simp [hpaid])
  exact absurd hlast (by norm_num)

end DiscountBazar.Business.Payments
