/-
What riders have withdrawn is covered by what they have earned, in every interleaving of requests with
earnings and with the admin's changes of status, exactly as long as those changes leave each rider
what he has withdrawn, and each request in progress what it has read.

The lease does the rest: between the reading of a request and its withdrawal no other request of the
rider withdraws anything.
-/
import DiscountBazar.Finance.RiderWithdrawals

namespace DiscountBazar.Finance.Withdrawals

open Tasks Function Runs Table
open Contract (Sound)
open Prog (perform All)
open Option Withdrawals.TransactionRow Desk

/-! ## What one row adds to a rider's room -/

def margin (riderId : ObjectId) (row : TransactionRow) : ℚ :=
  (if isEarned riderId row then row.amount else 0)
    - ((if isPaid riderId row then |row.amount| else 0)
      + (if isInFlight riderId row then |row.amount| else 0))

theorem room_eq_sum (riderId : ObjectId) (rows : Transactions) :
    room riderId rows = rows.sum (margin riderId) := by
  unfold room earned paid inFlight margin
  rw [sum_sub, sum_add]

variable {rows : Transactions} {row old : TransactionRow}

theorem room_insert (h : rows.isFresh row.reference = true) (riderId : ObjectId) :
    room riderId (rows.insert row) = room riderId rows + margin riderId row := by
  rw [room_eq_sum, room_eq_sum]
  exact sum_insert (of_decide_eq_true h) _

theorem room_set (h : rows.get? row.reference = some old) (riderId : ObjectId) :
    room riderId (rows.set row) = room riderId rows + (margin riderId row - margin riderId old) := by
  have hsum := sum_set h (margin riderId)
  rw [room_eq_sum, room_eq_sum]
  linarith

variable {riderId : ObjectId}

theorem margin_of_not_isRiders (h : isRiders riderId row = false) :
    margin riderId row = 0 := by
  simp [margin, isEarned, isPaid, isInFlight, h]

theorem margin_of_ne (h : row.user ≠ riderId) : margin riderId row = 0 :=
  margin_of_not_isRiders (by simp [isRiders, h])

theorem margin_withdrawalRow (riderId : ObjectId) (reference : Reference) (amount : ℤ) :
    margin riderId (withdrawalRow riderId reference amount) = -|fromPaise amount| := by
  simp [margin, isEarned, isPaid, isInFlight, isRiders, withdrawalRow, earningTypes]

theorem margin_earningRow (riderId : ObjectId) (reference : Reference) (amount : ℕ) :
    margin riderId (earningRow riderId reference amount) = fromPaise amount := by
  simp [margin, isEarned, isPaid, isInFlight, isRiders, earningRow, earningTypes]

structure WellFormed (row : TransactionRow) : Prop where
  whole : ∃ paise : ℤ, row.amount = fromPaise paise
  nonneg : row.type ∈ earningTypes → 0 ≤ row.amount

theorem margin_le_settleIfPending (h : WellFormed row) (riderId : ObjectId) :
    margin riderId row ≤ margin riderId (settleIfPending row) := by
  unfold settleIfPending
  split
  next hpending =>
    by_cases hriders : isRiders riderId row = true
    · have hnonneg := h.nonneg
      have hsettled : isRiders riderId (withStatus row .settled) = true := hriders
      by_cases hearning : row.type ∈ earningTypes
      · have hwithdrawal : row.type ≠ .withdrawal := by
          intro htype
          rw [htype] at hearning
          exact absurd hearning (by decide)
        simp only [margin, isEarned, isPaid, isInFlight, hriders, hsettled, hpending.2]
        simp [withStatus, hearning, hwithdrawal, hnonneg hearning]
      · simp only [margin, isEarned, isPaid, isInFlight, hriders, hsettled, hpending.2]
        by_cases hwithdrawal : row.type = .withdrawal
        · simp [withStatus, hwithdrawal, earningTypes]
        · simp [withStatus, hearning, hwithdrawal]
    · rw [Bool.not_eq_true] at hriders
      have hsettled : isRiders riderId (withStatus row .settled) = false := hriders
      rw [margin_of_not_isRiders hriders, margin_of_not_isRiders hsettled]
  next => exact le_refl _

/-! ## Well-formed rows -/

def AllWellFormed (rows : Transactions) : Prop := ∀ row ∈ rows.rows, WellFormed row

theorem AllWellFormed.set (h : AllWellFormed rows) (hrow : WellFormed row) :
    AllWellFormed (rows.set row) := by
  intro other hother
  rcases mem_set.mp hother with ⟨hmem, -⟩ | ⟨rfl, -⟩
  · exact h other hmem
  · exact hrow

theorem AllWellFormed.insert (h : AllWellFormed rows) (hfresh : rows.isFresh row.reference = true)
    (hrow : WellFormed row) : AllWellFormed (rows.insert row) := by
  intro other hother
  rcases (mem_insert (of_decide_eq_true hfresh)).mp hother with hmem | rfl
  · exact h other hmem
  · exact hrow

theorem AllWellFormed.map {f : TransactionRow → TransactionRow}
    {hf : ∀ row, (f row).reference = row.reference} (h : AllWellFormed rows)
    (hrow : ∀ row, WellFormed row → WellFormed (f row)) : AllWellFormed (rows.map f hf) := by
  intro other hother
  obtain ⟨row, hmem, rfl⟩ := mem_map.mp hother
  exact hrow row (h row hmem)

theorem WellFormed.withStatus (h : WellFormed row) (status : TransactionStatus) :
    WellFormed (withStatus row status) := ⟨h.whole, h.nonneg⟩

theorem WellFormed.settleIfPending (h : WellFormed row) : WellFormed (settleIfPending row) := by
  unfold Withdrawals.settleIfPending
  split
  · exact h.withStatus .settled
  · exact h

theorem wellFormed_withdrawalRow (riderId : ObjectId) (reference : Reference) (amount : ℤ) :
    WellFormed (withdrawalRow riderId reference amount) := by
  constructor
  · rcases abs_choice (fromPaise amount) with h | h
    · exact ⟨-amount, by rw [fromPaise_neg, withdrawalRow, h]⟩
    · exact ⟨amount, by rw [withdrawalRow, h, neg_neg]⟩
  · intro hearning
    exact absurd hearning (by simp [withdrawalRow, earningTypes])

theorem wellFormed_earningRow (riderId : ObjectId) (reference : Reference) (amount : ℕ) :
    WellFormed (earningRow riderId reference amount) :=
  ⟨⟨amount, rfl⟩, fun _ => fromPaise_nonneg (Int.natCast_nonneg amount)⟩

/-- An earning that is booked again: its amount and its status are written. -/
def rebooked (amount : ℕ) (old : TransactionRow) : TransactionRow :=
  { old with amount := fromPaise amount, status := .settled }

theorem wellFormed_rebooked (amount : ℕ) (old : TransactionRow) : WellFormed (rebooked amount old) :=
  ⟨⟨amount, rfl⟩, fun _ => fromPaise_nonneg (Int.natCast_nonneg amount)⟩

/-! ## The invariant -/

/-- The rows are well-formed; leases that have not expired are exclusive; a request under its lease knows
its rider's room up to what has moved it since; every withdrawal was created under a lease and after a
reading, and no two of them under one reference. -/
structure Inv (desk : Desk) : Prop where
  wellFormed : AllWellFormed desk.transactions
  exclusive : desk.leases.Exclusive desk.clock
  reading : ∀ i hold reading, desk.leases.held i = some hold → desk.clock ≤ hold.expiry →
    desk.readings i = some reading →
      reading.riderId = hold.resource ∧
        room reading.riderId desk.transactions
          = reading.room + (desk.moved reading.riderId - reading.moved)
  leased : desk.leased = true
  nodup : desk.created.Nodup
  kept : ∀ reference ∈ desk.created,
    reference ∈ desk.transactions.rows.map TransactionRow.reference

def InLease (task : ℕ) (_ : Kind) (_ : Choice) (desk : Desk) : Prop :=
  (desk.leases.held task).all (fun hold => decide (desk.clock ≤ hold.expiry)) = true

instance (task : ℕ) (kind : Kind) (c : Choice) (desk : Desk) : Decidable (InLease task kind c desk) :=
  inferInstanceAs (Decidable (_ = true))

variable {task : ℕ} {c : Choice} {desk : Desk}

variable {kind : Kind}

theorem InLease.le (h : InLease task kind c desk) {hold : Leases.Hold ObjectId Date}
    (hheld : desk.leases.held task = some hold) : desk.clock ≤ hold.expiry := by
  unfold InLease at h
  rw [hheld, all_some] at h
  exact of_decide_eq_true h

theorem holds_iff :
    desk.holds task riderId = true ↔
      ∃ hold, desk.leases.held task = some hold ∧ hold.resource = riderId := by
  simp [holds, any_eq_true]

theorem ready_iff :
    desk.ready task riderId = true ↔
      desk.holds task riderId = true ∧
        ∃ reading, desk.readings task = some reading ∧ reading.riderId = riderId := by
  simp [ready, any_eq_true]

/-- Other rows, with the references that were there: what they move is written down. -/
theorem Inv.withRows (h : Inv desk) {rows : Transactions} (hwell : AllWellFormed rows)
    (hkeys : ∀ reference ∈ desk.transactions.rows.map TransactionRow.reference,
      reference ∈ rows.rows.map TransactionRow.reference) : Inv (desk.withRows rows) where
  wellFormed := hwell
  exclusive := h.exclusive
  reading := by
    intro i hold reading hheld hin hreading
    obtain ⟨hrider, hroom⟩ := h.reading i hold reading hheld hin hreading
    refine ⟨hrider, ?_⟩
    unfold Desk.withRows
    dsimp only
    linarith
  leased := h.leased
  nodup := h.nodup
  kept := fun reference hmem => hkeys reference (h.kept reference hmem)

/-! ## What a call keeps -/

/-- What a task has to know before a call: a moment it has read is over, and it holds the lease. -/
def Known (task : ℕ) (desk : Desk) : Kind → Prop
  | .takeLease _ now => now ≤ desk.clock
  | .readBalance riderId | .removeLease riderId => desk.holds task riderId = true
  | .createWithdrawal riderId _ _ => desk.ready task riderId = true
  | _ => True

theorem setStatus_eq (rows : Transactions) (reference : Reference) (status : TransactionStatus) :
    setStatus rows reference status = rows ∨
      ∃ row, rows.get? reference = some row ∧
        setStatus rows reference status = rows.set (withStatus row status) := by
  unfold setStatus
  cases hget : rows.get? reference with
  | none => exact .inl rfl
  | some row => exact .inr ⟨row, rfl, rfl⟩

theorem inv_setStatus (h : Inv desk) (reference : Reference) (status : TransactionStatus) :
    Inv (desk.withRows (setStatus desk.transactions reference status)) := by
  rcases setStatus_eq desk.transactions reference status with hsame | ⟨row, hget, hset⟩
  · rw [hsame]
    exact h.withRows h.wellFormed (fun _ => id)
  · rw [hset]
    have hrow := h.wellFormed row (mem_of_get? hget)
    refine h.withRows (h.wellFormed.set (hrow.withStatus status)) (fun other hother => ?_)
    rw [map_key_set]
    exact hother

theorem bookEarning_eq (rows : Transactions) (orderId riderId : ObjectId) (amount : ℕ) :
    (∃ old, rows.get? (.deliveryEarning orderId) = some old ∧
        bookEarning rows orderId riderId amount = rows.set (rebooked amount old)) ∨
      rows.get? (.deliveryEarning orderId) = none ∧
        rows.isFresh (.deliveryEarning orderId) = true ∧
        bookEarning rows orderId riderId amount
          = rows.insert (earningRow riderId (.deliveryEarning orderId) amount) := by
  unfold bookEarning Transactions.upsert
  have hreference : (earningRow riderId (.deliveryEarning orderId) amount).reference
      = .deliveryEarning orderId := rfl
  rw [hreference]
  cases hget : rows.get? (.deliveryEarning orderId) with
  | some old => exact .inl ⟨old, rfl, rfl⟩
  | none => exact .inr ⟨rfl, Transactions.isFresh_of_get? hget, rfl⟩

theorem inv_bookEarning (h : Inv desk) (orderId riderId : ObjectId) (amount : ℕ) :
    Inv (desk.withRows (bookEarning desk.transactions orderId riderId amount)) := by
  rcases bookEarning_eq desk.transactions orderId riderId amount with
    ⟨old, hget, hset⟩ | ⟨hget, hfresh, hinsert⟩
  · rw [hset]
    refine h.withRows (h.wellFormed.set (wellFormed_rebooked amount old)) (fun other hother => ?_)
    rw [map_key_set]
    exact hother
  · rw [hinsert]
    exact h.withRows (h.wellFormed.insert hfresh (wellFormed_earningRow _ _ _))
      (fun other hother => mem_map_key_insert hother _)

theorem inv_takeLease (h : Inv desk) {now : Date} (hnow : now ≤ desk.clock)
    (hfree : desk.leases.isFree riderId now = true) (task : ℕ) (expiry : Date) :
    Inv { desk with
      leases := desk.leases.acquire task riderId expiry
      readings := update desk.readings task none } where
  wellFormed := h.wellFormed
  exclusive := h.exclusive.acquire hnow hfree task expiry
  reading := by
    intro i hold reading hheld hin hreading
    dsimp only at hheld hin hreading ⊢
    by_cases hi : i = task
    · subst hi
      rw [update_self] at hreading
      cases hreading
    · rw [Leases.Book.held_acquire_ne _ hi] at hheld
      rw [update_of_ne hi] at hreading
      exact h.reading i hold reading hheld hin hreading
  leased := h.leased
  nodup := h.nodup
  kept := h.kept

theorem inv_readBalance (h : Inv desk) (hholds : desk.holds task riderId = true) :
    Inv { desk with
      readings := update desk.readings task
        (some ⟨riderId, room riderId desk.transactions, desk.moved riderId⟩) } where
  wellFormed := h.wellFormed
  exclusive := h.exclusive
  reading := by
    intro i hold reading hheld hin hreading
    dsimp only at hheld hin hreading ⊢
    by_cases hi : i = task
    · subst hi
      rw [update_self] at hreading
      cases hreading
      obtain ⟨hold', hheld', hresource⟩ := holds_iff.mp hholds
      cases hheld.symm.trans hheld'
      exact ⟨hresource.symm, by simp⟩
    · rw [update_of_ne hi] at hreading
      exact h.reading i hold reading hheld hin hreading
  leased := h.leased
  nodup := h.nodup
  kept := h.kept

theorem inv_createWithdrawal (h : Inv desk) {reference : Reference}
    (hready : desk.ready task riderId = true)
    (hin : ∀ hold, desk.leases.held task = some hold → desk.clock ≤ hold.expiry) (amount : ℤ)
    (hfresh : desk.transactions.isFresh reference = true) :
    Inv { desk with
      transactions := desk.transactions.insert (withdrawalRow riderId reference amount)
      readings := update desk.readings task none
      created := reference :: desk.created
      leased := desk.leased && desk.ready task riderId } where
  wellFormed := h.wellFormed.insert hfresh (wellFormed_withdrawalRow riderId reference amount)
  exclusive := h.exclusive
  reading := by
    intro i hold reading hheld hin' hreading
    dsimp only at hheld hin' hreading ⊢
    by_cases hi : i = task
    · subst hi
      rw [update_self] at hreading
      cases hreading
    · rw [update_of_ne hi] at hreading
      obtain ⟨hrider, hroom⟩ := h.reading i hold reading hheld hin' hreading
      obtain ⟨hold', hheld', hresource⟩ := holds_iff.mp (ready_iff.mp hready).1
      have hother : riderId ≠ reading.riderId := by
        intro hsame
        have hresources : hold.resource = hold'.resource :=
          hrider.symm.trans (hsame.symm.trans hresource.symm)
        exact hi (h.exclusive.unique i task hold hold' hheld hheld' hin' (hin hold' hheld') hresources)
      refine ⟨hrider, ?_⟩
      rw [room_insert hfresh, margin_of_ne hother, add_zero]
      exact hroom
  leased := by
    dsimp only
    rw [h.leased, hready]
    rfl
  nodup := by
    refine List.nodup_cons.mpr ⟨fun hmem => ?_, h.nodup⟩
    exact absurd (h.kept reference hmem) (of_decide_eq_true hfresh)
  kept := by
    intro other hother
    rcases List.mem_cons.mp hother with rfl | hother
    · have hwritten := (mem_insert (r := withdrawalRow riderId other amount)
        (of_decide_eq_true hfresh)).mpr (.inr rfl)
      exact List.mem_map.mpr ⟨_, hwritten, rfl⟩
    · exact mem_map_key_insert (h.kept other hother) _

theorem inv_removeLease (h : Inv desk) (hholds : desk.holds task riderId = true)
    (hin : ∀ hold, desk.leases.held task = some hold → desk.clock ≤ hold.expiry) :
    Inv { desk with leases := desk.leases.release task riderId } where
  wellFormed := h.wellFormed
  exclusive := by
    obtain ⟨hold, hheld, hresource⟩ := holds_iff.mp hholds
    rw [← hresource]
    exact h.exclusive.release hheld (hin hold hheld)
  reading := by
    intro i hold reading hheld hin' hreading
    dsimp only at hheld hin' hreading ⊢
    by_cases hi : i = task
    · subst hi
      rw [Leases.Book.held_release_self] at hheld
      cases hheld
    · rw [Leases.Book.held_release_ne _ hi] at hheld
      exact h.reading i hold reading hheld hin' hreading
  leased := h.leased
  nodup := h.nodup
  kept := h.kept

theorem effect_inv (h : Inv desk) (hin : InLease task kind c desk) (hknown : Known task desk kind) :
    Inv (effect task c desk kind).2 := by
  cases kind with
  | takeLease riderId now =>
    unfold effect
    dsimp only
    split
    next hfree => exact inv_takeLease h hknown hfree.2 task _
    next => exact h
  | readBalance riderId => exact inv_readBalance h hknown
  | createWithdrawal riderId reference amount =>
    unfold effect
    dsimp only
    split
    next hfresh => exact inv_createWithdrawal h hknown (fun _ => hin.le) amount hfresh
    next => exact h
  | removeLease riderId => exact inv_removeLease h hknown (fun _ => hin.le)
  | saveStatus reference loaded status =>
    unfold effect
    dsimp only
    split
    · exact h
    · exact inv_setStatus h reference status
  | settleTransaction reference => exact inv_setStatus h reference .settled
  | settlePending =>
    refine h.withRows (h.wellFormed.map (fun _ => WellFormed.settleIfPending)) (fun other hother => ?_)
    rw [map_key_map]
    exact hother
  | settleEarning orderId riderId amount => exact inv_bookEarning h orderId riderId amount
  | createEarning text riderId amount =>
    unfold effect
    dsimp only
    split
    next hfresh =>
      exact h.withRows (h.wellFormed.insert hfresh (wellFormed_earningRow _ _ _))
        (fun other hother => mem_map_key_insert hother _)
    next => exact h
  | findWithdrawal | findRider | readClock | findTransaction | findPending => exact h

/-! ## When a call keeps the cover -/

/-- No rider has more withdrawals settled, pending or processing than settled earnings. -/
def Covered (rows : Transactions) : Prop :=
  ∀ riderId, paid riderId rows + inFlight riderId rows ≤ earned riderId rows

theorem covered_iff_room : Covered rows ↔ ∀ riderId, 0 ≤ room riderId rows :=
  forall_congr' (fun _ => sub_nonneg.symm)

def promised (task : ℕ) (desk : Desk) (riderId : ObjectId) : ℚ :=
  match desk.readings task with
  | some reading => reading.room + (desk.moved riderId - reading.moved)
  | none => 0

/-- What a change takes from the room of the row's user, there is room for. -/
def Bears (rows : Transactions) (old new : TransactionRow) : Prop :=
  margin old.user old - margin old.user new ≤ room old.user rows

instance (rows : Transactions) (old new : TransactionRow) : Decidable (Bears rows old new) :=
  inferInstanceAs (Decidable (_ ≤ _))

def BearsChange (rows : Transactions) (reference : Reference)
    (change : TransactionRow → TransactionRow) : Prop :=
  match rows.get? reference with
  | some old => Bears rows old (change old)
  | none => True

instance (rows : Transactions) (reference : Reference) (change : TransactionRow → TransactionRow) :
    Decidable (BearsChange rows reference change) := by
  unfold BearsChange
  split
  · infer_instance
  · infer_instance

/-- The condition on what a call does: a withdrawal is within what its request has read, as status changes
and earnings have moved it since, and a change of a row's status or amount takes from its user no
more than he has room for. -/
def Affordable (task : ℕ) (c : Choice) (desk : Desk) : Kind → Prop
  | .createWithdrawal riderId reference amount =>
    desk.transactions.isFresh (reference.getD (.riderWithdrawal c.stamp)) = true →
      |fromPaise amount| ≤ promised task desk riderId
  | .saveStatus reference loaded status =>
    loaded ≠ status → BearsChange desk.transactions reference (withStatus · status)
  | .settleTransaction reference =>
    BearsChange desk.transactions reference (withStatus · .settled)
  | .settleEarning orderId _ amount =>
    BearsChange desk.transactions (.deliveryEarning orderId) (rebooked amount)
  | _ => True

instance (task : ℕ) (c : Choice) (desk : Desk) (kind : Kind) :
    Decidable (Affordable task c desk kind) := by
  unfold Affordable
  split
  · infer_instance
  · infer_instance
  · infer_instance
  · infer_instance
  · infer_instance

def AffordableAtWrite (task : ℕ) (kind : Kind) (c : Choice) (desk : Desk) : Prop :=
  c.outcome.takesEffect = true → Affordable task c desk kind

instance (task : ℕ) (kind : Kind) (c : Choice) (desk : Desk) :
    Decidable (AffordableAtWrite task kind c desk) := inferInstanceAs (Decidable (_ → _))

theorem covered_insert_iff (hcovered : Covered rows) (hfresh : rows.isFresh row.reference = true) :
    Covered (rows.insert row) ↔ 0 ≤ room row.user rows + margin row.user row := by
  rw [covered_iff_room] at hcovered ⊢
  constructor
  · intro h
    have huser := h row.user
    rw [room_insert hfresh] at huser
    exact huser
  · intro h riderId
    rw [room_insert hfresh]
    by_cases huser : row.user = riderId
    · rw [← huser]
      exact h
    · rw [margin_of_ne huser, add_zero]
      exact hcovered riderId

theorem covered_set_iff (hcovered : Covered rows) (hget : rows.get? row.reference = some old)
    (huser : row.user = old.user) : Covered (rows.set row) ↔ Bears rows old row := by
  rw [covered_iff_room] at hcovered ⊢
  unfold Bears
  constructor
  · intro h
    have hold := h old.user
    rw [room_set hget] at hold
    linarith
  · intro h riderId
    rw [room_set hget]
    by_cases hold : old.user = riderId
    · rw [← hold]
      linarith
    · rw [margin_of_ne hold, margin_of_ne (huser.trans_ne hold)]
      have hroom := hcovered riderId
      linarith

theorem covered_setStatus_iff (hcovered : Covered rows) (reference : Reference)
    (status : TransactionStatus) :
    Covered (setStatus rows reference status) ↔
      BearsChange rows reference (withStatus · status) := by
  unfold setStatus BearsChange
  cases hget : rows.get? reference with
  | none => exact iff_of_true hcovered trivial
  | some old =>
    have hold : rows.get? (withStatus old status).reference = some old :=
      get?_of_mem (mem_of_get? hget)
    exact covered_set_iff hcovered hold rfl

theorem covered_bookEarning_iff (hcovered : Covered rows) (orderId riderId : ObjectId) (amount : ℕ) :
    Covered (bookEarning rows orderId riderId amount) ↔
      BearsChange rows (.deliveryEarning orderId) (rebooked amount) := by
  unfold BearsChange
  rcases bookEarning_eq rows orderId riderId amount with
    ⟨old, hget, hset⟩ | ⟨hget, hfresh, hinsert⟩
  · rw [hset, hget]
    have hold : rows.get? (rebooked amount old).reference = some old :=
      get?_of_mem (mem_of_get? hget)
    exact covered_set_iff hcovered hold rfl
  · rw [hinsert, hget]
    refine iff_of_true ((covered_insert_iff hcovered hfresh).mpr ?_) trivial
    exact add_nonneg (covered_iff_room.mp hcovered riderId)
      ((margin_earningRow riderId _ amount).symm ▸ fromPaise_nonneg (Int.natCast_nonneg amount))

theorem covered_settlePending (hcovered : Covered rows) (hwell : AllWellFormed rows) :
    Covered (rows.map settleIfPending reference_settleIfPending) := by
  rw [covered_iff_room] at hcovered ⊢
  intro riderId
  refine (hcovered riderId).trans ?_
  rw [room_eq_sum, room_eq_sum, sum_map]
  exact sum_le_sum (fun row hrow => margin_le_settleIfPending (hwell row hrow) riderId)

theorem promised_eq_room (h : Inv desk) (hready : desk.ready task riderId = true)
    (hin : ∀ hold, desk.leases.held task = some hold → desk.clock ≤ hold.expiry) :
    promised task desk riderId = room riderId desk.transactions := by
  obtain ⟨hholds, reading, hreading, rfl⟩ := ready_iff.mp hready
  obtain ⟨hold, hheld, -⟩ := holds_iff.mp hholds
  unfold promised
  rw [hreading]
  exact (h.reading task hold reading hheld (hin hold hheld) hreading).2.symm

/-- A withdrawal that was created under a lease keeps the cover exactly when its request has read enough. -/
theorem covered_createWithdrawal_iff (h : Inv desk) (hcovered : Covered desk.transactions)
    {reference : Reference} (amount : ℤ) (hready : desk.ready task riderId = true)
    (hin : ∀ hold, desk.leases.held task = some hold → desk.clock ≤ hold.expiry)
    (hfresh : desk.transactions.isFresh reference = true) :
    Covered (desk.transactions.insert (withdrawalRow riderId reference amount)) ↔
      |fromPaise amount| ≤ promised task desk riderId := by
  rw [covered_insert_iff hcovered hfresh, promised_eq_room h hready hin]
  have huser : (withdrawalRow riderId reference amount).user = riderId := rfl
  rw [huser, margin_withdrawalRow, ← sub_eq_add_neg, sub_nonneg]

theorem covered_effect_iff (h : Inv desk) (hin : InLease task kind c desk)
    (hcovered : Covered desk.transactions) (hnext : Inv (effect task c desk kind).2) :
    Covered (effect task c desk kind).2.transactions ↔ Affordable task c desk kind := by
  cases kind with
  | createWithdrawal riderId reference amount =>
    unfold effect at hnext ⊢
    unfold Affordable
    dsimp only at hnext ⊢
    split
    next hfresh =>
      rw [if_pos hfresh] at hnext
      have hready : desk.ready task riderId = true := by
        have hleased := hnext.leased
        dsimp only at hleased
        rw [h.leased, Bool.true_and] at hleased
        exact hleased
      have hiff := covered_createWithdrawal_iff h hcovered amount hready (fun _ => hin.le) hfresh
      exact hiff.trans (imp_iff_right hfresh).symm
    next hfresh => exact iff_of_true hcovered (fun hfresh' => absurd hfresh' hfresh)
  | saveStatus reference loaded status =>
    unfold effect Affordable
    dsimp only
    split
    next hsame => exact iff_of_true hcovered (fun hne => absurd hsame hne)
    next hne => exact (covered_setStatus_iff hcovered reference status).trans (imp_iff_right hne).symm
  | settleTransaction reference => exact covered_setStatus_iff hcovered reference .settled
  | settlePending => exact iff_of_true (covered_settlePending hcovered h.wellFormed) trivial
  | settleEarning orderId riderId amount => exact covered_bookEarning_iff hcovered orderId riderId amount
  | createEarning text riderId amount =>
    unfold effect Affordable
    dsimp only
    split
    next hfresh =>
      refine iff_of_true ((covered_insert_iff hcovered hfresh).mpr ?_) trivial
      exact add_nonneg (covered_iff_room.mp hcovered riderId)
        ((margin_earningRow riderId _ amount).symm ▸ fromPaise_nonneg (Int.natCast_nonneg amount))
    next => exact iff_of_true hcovered trivial
  | takeLease riderId now =>
    unfold effect
    dsimp only
    split
    · exact iff_of_true hcovered trivial
    · exact iff_of_true hcovered trivial
  | readBalance | removeLease | findWithdrawal | findRider | readClock | findTransaction
  | findPending => exact iff_of_true hcovered trivial

/-- All riders' withdrawals are covered at the desk. -/
def AllCovered (desk : Desk) : Prop := Covered desk.transactions

theorem covered_performOp_iff (task : ℕ) (kind : Kind) (c : Choice) (h : Inv desk)
    (hin : InLease task kind c desk) (hcovered : AllCovered desk) :
    ∃ r desk', performOp task kind c desk = some (r, desk') ∧
      (Inv desk' → (AllCovered desk' ↔ AffordableAtWrite task kind c desk)) := by
  refine ⟨_, _, rfl, fun hnext => Outcome.perform_iff hcovered (fun htakes => ?_)⟩
  have hdone : Inv (c.outcome.perform (effect task c desk kind) desk).2 := hnext
  rw [Outcome.perform_takesEffect htakes] at hdone
  exact covered_effect_iff h hin hcovered hdone

theorem covered_elapsed {elapsed : ℕ} {desk' : Desk} (hcovered : AllCovered desk)
    (hout : withdrawalSystem.outside elapsed desk = some desk') : AllCovered desk' := by
  cases hout
  exact hcovered

/-! ## The requests -/

/-- What the others do to a task: time passes, and its lease and its reading stay. -/
structure Others (task : ℕ) (desk desk' : Desk) : Prop where
  clock : desk.clock ≤ desk'.clock
  held : desk'.leases.held task = desk.leases.held task
  readings : desk'.readings task = desk.readings task

theorem Others.refl (task : ℕ) (desk : Desk) : Others task desk desk := ⟨le_refl _, rfl, rfl⟩

theorem Others.trans {desk desk' desk'' : Desk} (h : Others task desk desk')
    (h' : Others task desk' desk'') : Others task desk desk'' :=
  ⟨h.clock.trans h'.clock, h'.held.trans h.held, h'.readings.trans h.readings⟩

theorem Others.holds {desk desk' : Desk} (h : Others task desk desk') (riderId : ObjectId) :
    desk'.holds task riderId = desk.holds task riderId := by
  unfold Desk.holds
  rw [h.held]

theorem Others.ready {desk desk' : Desk} (h : Others task desk desk') (riderId : ObjectId) :
    desk'.ready task riderId = desk.ready task riderId := by
  unfold Desk.ready
  rw [h.holds, h.readings]

theorem effect_others {other : ℕ} (hne : other ≠ task) (c : Choice) (desk : Desk) (kind : Kind) :
    Others other desk (effect task c desk kind).2 := by
  cases kind with
  | takeLease riderId now =>
    unfold effect
    dsimp only
    split
    · exact ⟨le_refl _, Leases.Book.held_acquire_ne _ hne _ _, update_of_ne hne _ _⟩
    · exact Others.refl other desk
  | readBalance riderId => exact ⟨le_refl _, rfl, update_of_ne hne _ _⟩
  | createWithdrawal riderId reference amount =>
    unfold effect
    dsimp only
    split
    · exact ⟨le_refl _, rfl, update_of_ne hne _ _⟩
    · exact Others.refl other desk
  | removeLease riderId => exact ⟨le_refl _, Leases.Book.held_release_ne _ hne _, rfl⟩
  | saveStatus reference loaded status =>
    unfold effect
    dsimp only
    split
    · exact Others.refl other desk
    · exact ⟨le_refl _, rfl, rfl⟩
  | createEarning text riderId amount =>
    unfold effect
    dsimp only
    split
    · exact ⟨le_refl _, rfl, rfl⟩
    · exact Others.refl other desk
  | settleTransaction | settlePending | settleEarning => exact ⟨le_refl _, rfl, rfl⟩
  | findWithdrawal | findRider | readClock | findTransaction
  | findPending => exact Others.refl other desk

/-- Requests in their leases keep the invariant, and leave each other alone. -/
def leaseContract : Contract withdrawalSystem where
  inv := Inv
  rely := Others
  may := InLease

variable {i : ℕ}

/-- A call whose task knows what it has to keeps the contract. -/
theorem performOp_keeps {s s' : Desk} {r : Except WithdrawalError kind.Reply} (hinv : Inv s)
    (hin : InLease i kind c s) (hknown : Known i s kind)
    (hstep : performOp i kind c s = some (r, s')) :
    Inv s' ∧ (∀ j, j ≠ i → Others j s s') ∧
      (s' = s ∧ (∃ e, r = .error e) ∨
        s' = (effect i c s kind).2 ∧ (r = (effect i c s kind).1 ∨ ∃ e, r = .error e)) := by
  rcases Outcome.perform_eq (some.inj hstep) with ⟨hr, rfl⟩ | ⟨-, rfl, hr⟩
  · exact ⟨hinv, fun j _ => Others.refl j _, .inl ⟨rfl, hr⟩⟩
  · exact ⟨effect_inv hinv hin hknown, fun j hj => effect_others hj c s kind, .inr ⟨rfl, hr⟩⟩

variable {s : Desk}

/-- The rule for one call: what the task knows before it, and what its answer tells. -/
theorem sound_perform {Q : kind.Reply → Desk → Prop} {E : WithdrawalError → Desk → Prop}
    (hknown : ∀ s', Others i s s' → Known i s' kind)
    (hQ : ∀ s' c a, Others i s s' → Inv s' → (effect i c s' kind).1 = .ok a →
      Q a (effect i c s' kind).2) (hE : ∀ s' e, Others i s s' → E e s')
    (hE' : ∀ s' c e, Others i s s' → E e (effect i c s' kind).2) :
    leaseContract.Sound i Q E (perform kind) s := by
  refine Sound.perform (fun s' hrely hinv c hmay r s'' hstep => ?_)
  obtain ⟨hinv', hothers, hcases⟩ := performOp_keeps hinv hmay (hknown s' hrely) hstep
  refine ⟨hinv', hothers, ?_, ?_⟩
  · intro a ha
    rcases hcases with ⟨-, e, he⟩ | ⟨rfl, heq | ⟨e, he⟩⟩
    · rw [ha] at he
      cases he
    · exact hQ s' c a hrely hinv (heq.symm.trans ha)
    · rw [ha] at he
      cases he
  · intro e _
    rcases hcases with ⟨rfl, -⟩ | ⟨rfl, -⟩
    · exact hE _ e hrely
    · exact hE' s' c e hrely

abbrev HoldsLease (i : ℕ) (riderId : ObjectId) (desk : Desk) : Prop := desk.holds i riderId = true

theorem HoldsLease.others {s s' : Desk} (hs : HoldsLease i riderId s) (h : Others i s s') :
    HoldsLease i riderId s' := (h.holds riderId).trans hs

theorem findExisting_sound {F : Desk → Prop} (hF : ∀ s s', Others i s s' → F s → F s')
    (request : Request) (hs : F s) :
    leaseContract.Leaving i F (findExisting request) s := by
  unfold findExisting
  split
  next reference _ =>
    exact sound_perform (fun _ _ => trivial) (fun s' _ _ h _ _ => hF s s' h hs)
      (fun s' _ h => hF s s' h hs) (fun s' _ _ h => hF s s' h hs)
  next => exact Sound.ret hs

theorem holds_effect (hleases : (effect i c s kind).2.leases = s.leases)
    (hs : HoldsLease i riderId s) :
    HoldsLease i riderId (effect i c s kind).2 := by
  unfold HoldsLease holds
  rw [hleases]
  exact hs

theorem leases_createWithdrawal (c : Choice) (s : Desk) (riderId : ObjectId)
    (reference : Option Reference) (amount : ℤ) :
    (effect i c s (.createWithdrawal riderId reference amount)).2.leases = s.leases := by
  unfold effect
  dsimp only
  split
  · rfl
  · rfl

theorem withdraw_sound (request : Request) (amount : ℤ) (hasBankAccount : Bool)
    (hs : HoldsLease i request.riderId s) :
    leaseContract.Leaving i (HoldsLease i request.riderId) (withdraw request amount hasBankAccount) s := by
  unfold withdraw
  refine Sound.bind (R := fun _ => HoldsLease i request.riderId)
    (findExisting_sound (fun _ _ h hs => hs.others h) request hs) (fun existing s hs => ?_)
  refine Sound.ite (fun _ => Sound.ret hs) (fun _ => ?_)
  refine Sound.bind (R := fun _ s => s.ready i request.riderId = true) ?_
    (fun balance s hready => ?_)
  · refine sound_perform (fun _ h => hs.others h) (fun s' c a h _ _ => ?_)
      (fun _ _ h => hs.others h) (fun _ _ _ h => holds_effect rfl (hs.others h))
    refine ready_iff.mpr ⟨holds_effect rfl (hs.others h), _, update_self _ _ _, rfl⟩
  · have hholds : HoldsLease i request.riderId s := (ready_iff.mp hready).1
    refine Sound.ite (fun _ => Sound.throw hholds) (fun _ => ?_)
    refine Sound.ite (fun _ => ?_) (fun _ => Sound.throw hholds)
    exact sound_perform (fun _ h => (h.ready request.riderId).trans hready)
      (fun s' c _ h _ _ => holds_effect (leases_createWithdrawal c s' _ _ _) (hholds.others h))
      (fun _ _ h => hholds.others h)
      (fun s' c _ h => holds_effect (leases_createWithdrawal c s' _ _ _) (hholds.others h))

theorem removeLease_sound (hs : HoldsLease i riderId s) :
    leaseContract.Keeps i (removeLease riderId) s :=
  Sound.tryCatch (D := fun _ _ => True)
    (sound_perform (fun _ h => hs.others h) (fun _ _ _ _ _ _ => trivial) (fun _ _ _ => trivial)
      (fun _ _ _ _ => trivial))
    (fun _ _ _ => Sound.ret trivial)

theorem withLease_sound (request : Request) (amount : ℤ) (hasBankAccount : Bool) :
    leaseContract.Keeps i (withLease request amount hasBankAccount) s := by
  unfold withLease
  refine Sound.bind (R := fun now s => now ≤ s.clock) ?_ (fun now s hnow => ?_)
  · refine sound_perform (fun _ _ => trivial) (fun s' c a _ _ ha => ?_) (fun _ _ _ => trivial)
      (fun _ _ _ _ => trivial)
    cases ha
    exact le_refl _
  refine Sound.bind (R := fun lease s => lease = true → HoldsLease i request.riderId s) ?_
    (fun lease s hlease => ?_)
  · refine sound_perform (fun _ h => hnow.trans h.clock) (fun s' c a _ _ ha => ?_)
      (fun _ _ _ => trivial) (fun _ _ _ _ => trivial)
    unfold effect at ha ⊢
    dsimp only at ha ⊢
    split at ha
    next hfree =>
      intro _
      rw [if_pos hfree]
      exact holds_iff.mpr ⟨_, Leases.Book.held_acquire_self _ _ _ _, rfl⟩
    next =>
      intro htrue
      cases ha
      cases htrue
  · refine Sound.ite (fun hget => ?_) (fun _ => Sound.throw trivial)
    refine Sound.bind (R := fun _ => HoldsLease i request.riderId) ?_
      (fun _ s hs => removeLease_sound hs)
    refine Sound.tryCatch (D := fun _ => HoldsLease i request.riderId)
      (withdraw_sound request amount hasBankAccount (hlease hget))
      (fun e s hs => ?_)
    exact Sound.bind (removeLease_sound hs) (fun _ _ _ => Sound.throw trivial)

theorem requestWithdrawal_sound (request : Request) :
    leaseContract.Keeps i (requestWithdrawal request) s := by
  have hlookUp : ∀ amount, leaseContract.Keeps i (lookUp request amount) s := by
    intro amount
    unfold lookUp
    refine Sound.bind (R := fun _ _ => True)
      (findExisting_sound (fun _ _ _ _ => trivial) request trivial)
      (fun existing s _ => ?_)
    refine Sound.ite (fun _ => Sound.ret trivial) (fun _ => ?_)
    refine Sound.bind (R := fun _ _ => True)
      (sound_perform (fun _ _ => trivial) (fun _ _ _ _ _ _ => trivial) (fun _ _ _ => trivial)
        (fun _ _ _ _ => trivial)) (fun rider s _ => ?_)
    cases rider with
    | none => exact Sound.throw trivial
    | some hasBankAccount => exact withLease_sound request amount hasBankAccount
  unfold requestWithdrawal
  split
  · exact Sound.throw trivial
  · exact Sound.ite_throw (fun _ => hlookUp _)

/-! ## Everything else -/

/-- A call that no lease is asked for. -/
def Leaseless : Kind → Prop
  | .takeLease _ _ | .readBalance _ | .removeLease _ | .createWithdrawal _ _ _ => False
  | _ => True

theorem known_of_leaseless (h : Leaseless kind) (s : Desk) : Known i s kind := by
  cases kind with
  | takeLease | readBalance | removeLease | createWithdrawal => exact h.elim
  | _ => trivial

theorem sound_of_leaseless {p : M Unit} (hp : p.All Leaseless) (s : Desk) :
    leaseContract.Keeps i p s := by
  refine Contract.sound_of_all (I := fun _ => True) (fun _ _ _ _ => trivial)
    (fun kind hkind s hinv _ c hmay r s' hstep => ?_) hp trivial
  obtain ⟨hinv', hothers, -⟩ := performOp_keeps hinv hmay (known_of_leaseless hkind s) hstep
  exact ⟨hinv', hothers, trivial⟩

theorem updateWithdrawalStatusById_leaseless (reference : Reference) (status : TransactionStatus) :
    (updateWithdrawalStatusById reference status).All Leaseless := by
  unfold updateWithdrawalStatusById
  refine All.ite All.throw (All.bind (All.perform trivial) (fun transaction => ?_))
  cases transaction with
  | none => exact All.ret
  | some row => exact All.perform trivial

theorem leaseContract_lawful : leaseContract.Lawful where
  refl := Others.refl
  trans := fun _ _ _ _ => Others.trans
  idle := fun _ _ _ _ _ => trivial
  outside := by
    intro elapsed s s' hinv _ hout
    cases hout
    have hclock : s.clock ≤ s.clock + (elapsed : ℤ) := Int.le_add_of_nonneg_right (Int.natCast_nonneg elapsed)
    refine ⟨⟨hinv.wellFormed, hinv.exclusive.advance hclock, ?_, hinv.leased, hinv.nodup, hinv.kept⟩,
      fun i => ⟨hclock, rfl, rfl⟩⟩
    intro i hold reading hheld hin hreading
    exact hinv.reading i hold reading hheld (hclock.trans hin) hreading
  entry := by
    intro command i s _ _ _
    cases command with
    | ask request => exact requestWithdrawal_sound request
    | updateStatus reference status =>
      exact sound_of_leaseless (updateWithdrawalStatusById_leaseless reference status) s
    | settle reference =>
      have hcall : (perform (Kind.settleTransaction reference) : M Bool).All Leaseless :=
        All.perform trivial
      exact sound_of_leaseless (All.bind hcall (fun _ => All.ret)) s
    | bulkSettle =>
      have hcall : (perform Kind.findPending : M Unit).All Leaseless := All.perform trivial
      exact sound_of_leaseless (All.bind hcall (fun _ => All.perform trivial)) s
    | settleEarning | createEarning => exact sound_of_leaseless (All.perform trivial) s

/-! ## Every interleaving -/

def KeysOnce (desk : Desk) : Prop :=
  ∀ riderId key, desk.created.count (.keyedWithdrawal riderId key) ≤ 1

theorem Inv.keysOnce (h : Inv desk) : KeysOnce desk :=
  fun _ _ => List.nodup_iff_count_le_one.mp h.nodup _

theorem inv_start (clock : Date) (hwell : AllWellFormed rows) (lockedUntil : ObjectId → Option Date) :
    Inv (start clock rows lockedUntil) where
  wellFormed := hwell
  exclusive :=
    { locked := fun _ _ hheld => by cases hheld
      unique := fun _ _ _ _ hheld => by cases hheld }
  reading := fun _ _ _ hheld => by cases hheld
  leased := rfl
  nodup := List.nodup_nil
  kept := fun _ hmem => absurd hmem List.not_mem_nil

theorem allWellFormed_empty : AllWellFormed empty := fun _ hmem => absurd hmem List.not_mem_nil

theorem covered_empty : Covered empty := fun _ => by simp [paid, inFlight, earned]

def steps (task : ℕ) : List Act := List.replicate 8 (.run task {})

/-- Rider 7 earns 100 rupees and withdraws them, the withdrawal fails, and he asks again. -/
def askedAgain : List Act :=
  [.start (.settleEarning 1 7 10000), .run 0 {}, .start (.ask ⟨7, some 100, "a"⟩)] ++ steps 1 ++
    [.start (.updateStatus (.keyedWithdrawal 7 "a") .failed), .run 2 {}, .run 2 {},
      .start (.ask ⟨7, some 100, "b"⟩)] ++ steps 3

/-- Then the second withdrawal is paid. -/
def paidOnce : List Act := askedAgain ++ [.start .bulkSettle, .run 4 {}, .run 4 {}]

/-- Then the one that had failed is settled after all. -/
def settledAfterAll : List Act :=
  askedAgain ++ [.start (.updateStatus (.keyedWithdrawal 7 "a") .settled), .run 4 {}, .run 4 {}]

end DiscountBazar.Finance.Withdrawals
