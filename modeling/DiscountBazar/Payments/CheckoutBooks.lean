/-
The books of the checkouts: what was captured, and what was credited for it.

Of the desk only the attempts, the credits and four fields of each order matter here. `Sane` is
what holds all the time, also in the middle of a handler: whatever is credited is credited once and
was captured. What can be missing for a while is the other half, that everything the gateway has
captured is recorded and credited; `RecordedBut` and `CreditedBut` say what is still missing.
-/
import DiscountBazar.Payments.Redelivery

namespace DiscountBazar.Payments

open Finance Tasks Workflow List

/-! ## Books -/

structure OrderRow where
  id : ObjectId
  checkoutGroupId : Option String
  captured : Bool
  amount : ℤ

def CheckoutOrder.row (order : CheckoutOrder) : OrderRow where
  id := order.id
  checkoutGroupId := order.checkoutGroupId
  captured := order.financeFlags.onlinePaymentCaptured
  amount := captureAmount order.toOrder

def OrderRow.scope (row : OrderRow) : PaymentScope :=
  match row.checkoutGroupId with
  | some checkoutGroupId => .group checkoutGroupId
  | none => .order row.id

/-- What is paid by the attempt. -/
def Payment.scope (payment : Payment) : PaymentScope :=
  match payment.checkoutGroupId with
  | some checkoutGroupId => .group checkoutGroupId
  | none => .order payment.order

def Payment.recorded (payment : Payment) : Bool :=
  decide (payment.status ∈ [PaymentStatus.captured, .refunded])

structure Books where
  rows : List OrderRow
  attempts : List Payment
  credits : List (ObjectId × ℤ)

def PaymentDesk.books {ρ : Type} (s : PaymentDesk ρ) : Books where
  rows := s.orders.map CheckoutOrder.row
  attempts := s.payments
  credits := s.credits

namespace Books

def rowsOf (b : Books) (scope : PaymentScope) : List OrderRow :=
  b.rows.filter (fun row => decide (row.scope = scope))

def creditsOf (b : Books) (orderId : ObjectId) : List (ObjectId × ℤ) :=
  b.credits.filter (fun credit => decide (credit.1 = orderId))

/-- Everything credited for the orders of a checkout. -/
def creditedFor (b : Books) (scope : PaymentScope) : ℤ :=
  ((b.rowsOf scope).map (fun row => ((b.creditsOf row.id).map Prod.snd).sum)).sum

/-- The attempts of a checkout that the gateway has captured, as far as it was `reported`. -/
def capturedOf (b : Books) (reported : List ℕ) (scope : PaymentScope) : List (ℕ × Payment) :=
  (b.attempts.zipIdx.map Prod.swap).filter
    (fun attempt => decide (attempt.1 ∈ reported ∧ attempt.2.scope = scope))

/-- Everything the gateway has captured for a checkout. -/
def capturedFor (b : Books) (reported : List ℕ) (scope : PaymentScope) : ℤ :=
  ((b.capturedOf reported scope).map (fun attempt => attempt.2.amount)).sum

/-! ## What holds of them -/

section Invariant

variable (reported : List ℕ)

/-- What is credited is credited once, in full, and was captured; an attempt was made for all
orders of its checkout, and no two attempts of one checkout were captured. -/
structure Sane (b : Books) : Prop where
  distinct : (b.rows.map OrderRow.id).Nodup
  covers : ∀ payment ∈ b.attempts,
    payment.orderIds = (b.rowsOf payment.scope).map OrderRow.id ∧ b.rowsOf payment.scope ≠ []
  primary : ∀ payment ∈ b.attempts, payment.order ∈ payment.orderIds
  status : ∀ payment ∈ b.attempts, payment.status ≠ .authorized
  credited : ∀ row ∈ b.rows, b.creditsOf row.id = if row.captured then [(row.id, row.amount)] else []
  known : ∀ credit ∈ b.credits, ∃ row ∈ b.rows, row.id = credit.1
  backed : ∀ row ∈ b.rows, row.captured = true →
    ∃ i ∈ reported, ∃ payment, b.attempts[i]? = some payment ∧ payment.scope = row.scope
  recorded : ∀ (i : ℕ) (payment : Payment), b.attempts[i]? = some payment →
    payment.recorded = true → i ∈ reported
  present : ∀ i ∈ reported, i < b.attempts.length
  single : ∀ i ∈ reported, ∀ j ∈ reported, ∀ payment payment' : Payment,
    b.attempts[i]? = some payment → b.attempts[j]? = some payment' →
      payment.scope = payment'.scope → i = j
  amounts : ∀ i ∈ reported, ∀ payment : Payment, b.attempts[i]? = some payment →
    payment.amount = ((b.rowsOf payment.scope).map OrderRow.amount).sum ∧
      ∀ row ∈ b.rowsOf payment.scope, 0 < row.amount

def RecordedBut (missing : List ℕ) (b : Books) : Prop :=
  ∀ i ∈ reported, ∀ payment : Payment, b.attempts[i]? = some payment →
    payment.recorded = false → i ∈ missing

def CreditedBut (missing : List ObjectId) (b : Books) : Prop :=
  ∀ i ∈ reported, ∀ payment : Payment, b.attempts[i]? = some payment → payment.recorded = true →
    ∀ row ∈ b.rowsOf payment.scope, row.captured = false → row.id ∈ missing

structure Settled (b : Books) : Prop where
  sane : b.Sane reported
  recorded : b.RecordedBut reported []
  credited : b.CreditedBut reported []

end Invariant

/-! ## What the balance follows from -/

section Balance

variable {reported : List ℕ} {b : Books}

variable {row : OrderRow}

theorem mem_rowsOf {scope : PaymentScope} :
    row ∈ b.rowsOf scope ↔ row ∈ b.rows ∧ row.scope = scope := by
  simp [rowsOf]

theorem Sane.row_ext (h : b.Sane reported) {row row' : OrderRow} (hrow : row ∈ b.rows)
    (hrow' : row' ∈ b.rows) (hid : row.id = row'.id) : row = row' :=
  inj_on_of_nodup_map h.distinct hrow hrow' hid

theorem Sane.mem_orderIds (h : b.Sane reported) {payment : Payment}
    (hpayment : payment ∈ b.attempts) (hrow : row ∈ b.rows) :
    row.id ∈ payment.orderIds ↔ row.scope = payment.scope := by
  rw [(h.covers payment hpayment).1, mem_map]
  constructor
  · rintro ⟨row', hrow', hid⟩
    obtain ⟨hmem, hscope⟩ := mem_rowsOf.mp hrow'
    rw [← h.row_ext hmem hrow hid]
    exact hscope
  · intro hscope
    exact ⟨row, mem_rowsOf.mpr ⟨hrow, hscope⟩, rfl⟩

theorem Sane.orderIds_ne_nil (h : b.Sane reported) {payment : Payment}
    (hpayment : payment ∈ b.attempts) : payment.orderIds ≠ [] := by
  obtain ⟨hids, hne⟩ := h.covers payment hpayment
  rw [hids]
  simpa using hne

theorem Sane.once (h : b.Sane reported) (orderId : ObjectId) : (b.creditsOf orderId).length ≤ 1 := by
  by_cases hrow : ∃ row ∈ b.rows, row.id = orderId
  · obtain ⟨row, hmem, rfl⟩ := hrow
    rw [h.credited row hmem]
    split
    · exact le_refl 1
    · exact Nat.zero_le 1
  · have hnone : b.creditsOf orderId = [] := by
      refine filter_eq_nil_iff.mpr fun credit hmem hid => hrow ?_
      obtain ⟨row, hrow', hrowid⟩ := h.known credit hmem
      exact ⟨row, hrow', hrowid.trans (of_decide_eq_true hid)⟩
    rw [hnone]
    exact Nat.zero_le 1

/-- Where nothing is missing, an order is credited exactly when an attempt of its checkout was
captured. -/
theorem Settled.captured_iff (h : b.Settled reported) (hrow : row ∈ b.rows) :
    row.captured = true ↔
      ∃ i ∈ reported, ∃ payment, b.attempts[i]? = some payment ∧ payment.scope = row.scope := by
  refine ⟨h.sane.backed row hrow, ?_⟩
  rintro ⟨i, hi, payment, hpayment, hscope⟩
  have hrecorded : payment.recorded = true := by
    by_contra hnot
    exact absurd (h.recorded i hi payment hpayment (eq_false_of_ne_true hnot)) (by simp)
  by_contra hnot
  exact absurd (h.credited i hi payment hpayment hrecorded row
    (mem_rowsOf.mpr ⟨hrow, hscope.symm⟩) (eq_false_of_ne_true hnot)) (by simp)

theorem creditsOf_ne_nil_iff (h : b.Sane reported) (hrow : row ∈ b.rows) :
    (∃ credit ∈ b.credits, credit.1 = row.id) ↔ row.captured = true := by
  have hcredits := h.credited row hrow
  constructor
  · rintro ⟨credit, hmem, hid⟩
    by_contra hnot
    rw [if_neg hnot] at hcredits
    exact filter_eq_nil_iff.mp hcredits credit hmem (decide_eq_true hid)
  · intro hcaptured
    rw [if_pos hcaptured] at hcredits
    have hmem : (row.id, row.amount) ∈ b.creditsOf row.id := hcredits ▸ mem_singleton_self _
    exact ⟨_, (mem_filter.mp hmem).1, rfl⟩

theorem filter_eq_singleton {α : Type} {P : α → Bool} {a : α} {l : List α} (hl : l.Nodup)
    (ha : a ∈ l) (hP : P a = true) (huniq : ∀ x ∈ l, P x = true → x = a) : l.filter P = [a] := by
  induction l with
  | nil => cases ha
  | cons x l ih =>
    obtain ⟨hx, hl⟩ := nodup_cons.mp hl
    rcases mem_cons.mp ha with rfl | ha
    · have hrest : l.filter P = [] := filter_eq_nil_iff.mpr fun y hy hPy =>
        hx (huniq y (mem_cons_of_mem a hy) hPy ▸ hy)
      rw [filter_cons_of_pos hP, hrest]
    · have hPx : ¬ P x = true := fun hPx => hx (huniq x (by simp) hPx ▸ ha)
      rw [filter_cons_of_neg hPx]
      exact ih hl ha fun y hy => huniq y (mem_cons_of_mem x hy)

theorem mem_indexed {l : List Payment} {attempt : ℕ × Payment} :
    attempt ∈ l.zipIdx.map Prod.swap ↔ l[attempt.1]? = some attempt.2 := by
  rw [mem_map]
  constructor
  · rintro ⟨entry, hmem, rfl⟩
    exact mem_zipIdx_iff_getElem?.mp hmem
  · intro hget
    exact ⟨attempt.swap, mem_zipIdx_iff_getElem?.mpr hget, Prod.swap_swap attempt⟩

theorem nodup_indexed (l : List Payment) : (l.zipIdx.map Prod.swap).Nodup := by
  refine List.Nodup.map Prod.swap_injective (List.Nodup.of_map Prod.snd ?_)
  rw [zipIdx_map_snd]
  exact nodup_range' ..

theorem Settled.creditedFor_eq (h : b.Settled reported) (scope : PaymentScope) :
    b.creditedFor scope = b.capturedFor reported scope := by
  have hcredits : ∀ row ∈ b.rowsOf scope,
      ((b.creditsOf row.id).map Prod.snd).sum = if row.captured then row.amount else 0 := by
    intro row hrow
    rw [h.sane.credited row (mem_rowsOf.mp hrow).1]
    split
    · simp
    · simp
  unfold creditedFor capturedFor
  rw [map_congr_left hcredits]
  by_cases hattempt : ∃ i ∈ reported, ∃ payment, b.attempts[i]? = some payment ∧ payment.scope = scope
  · obtain ⟨i, hi, payment, hpayment, rfl⟩ := hattempt
    have hcaptured : ∀ row ∈ b.rowsOf payment.scope,
        (if row.captured then row.amount else 0) = row.amount := by
      intro row hrow
      obtain ⟨hmem, hscope⟩ := mem_rowsOf.mp hrow
      exact if_pos ((h.captured_iff hmem).mpr ⟨i, hi, payment, hpayment, hscope.symm⟩)
    have hsingle : b.capturedOf reported payment.scope = [(i, payment)] := by
      refine filter_eq_singleton (nodup_indexed b.attempts) (mem_indexed.mpr hpayment) (by simp [hi]) ?_
      rintro ⟨j, payment'⟩ hmem hP
      have hget := mem_indexed.mp hmem
      obtain ⟨hj, hscope⟩ := of_decide_eq_true hP
      have hij : j = i := h.sane.single j hj i hi payment' payment hget hpayment hscope
      subst hij
      cases hget.symm.trans hpayment
      rfl
    rw [map_congr_left hcaptured, hsingle, ← (h.sane.amounts i hi payment hpayment).1]
    simp
  · have huncaptured : ∀ row ∈ b.rowsOf scope, (if row.captured then row.amount else 0) = 0 := by
      intro row hrow
      obtain ⟨hmem, hscope⟩ := mem_rowsOf.mp hrow
      refine if_neg fun hcaptured => hattempt ?_
      obtain ⟨i, hi, payment, hpayment, hsame⟩ := h.sane.backed row hmem hcaptured
      exact ⟨i, hi, payment, hpayment, hsame.trans hscope⟩
    have hnone : b.capturedOf reported scope = [] := by
      refine filter_eq_nil_iff.mpr ?_
      rintro ⟨j, payment⟩ hmem hP
      obtain ⟨hj, hscope⟩ := of_decide_eq_true hP
      exact hattempt ⟨j, hj, payment, mem_indexed.mp hmem, hscope⟩
    rw [map_congr_left huncaptured, hnone]
    simp

end Balance

/-! ## Changes -/

section Changes

variable {reported : List ℕ} {b : Books}

def save (b : Books) (index : ℕ) (edited : Payment) : Books :=
  { b with attempts := b.attempts.set index edited }

def credit (b : Books) (orderId : ObjectId) (amount : ℤ) : Books :=
  { b with
    rows := b.rows.map (fun row => if row.id = orderId then { row with captured := true } else row)
    credits := b.credits ++ [(orderId, amount)] }

def add (b : Books) (payment : Payment) : Books := { b with attempts := b.attempts ++ [payment] }

structure SameAttempt (payment payment' : Payment) : Prop where
  order : payment'.order = payment.order
  orderIds : payment'.orderIds = payment.orderIds
  checkoutGroupId : payment'.checkoutGroupId = payment.checkoutGroupId
  amount : payment'.amount = payment.amount

theorem SameAttempt.scope {payment payment' : Payment} (h : SameAttempt payment payment') :
    payment'.scope = payment.scope := by
  unfold Payment.scope
  rw [h.checkoutGroupId, h.order]

theorem SameAttempt.refl (payment : Payment) : SameAttempt payment payment := ⟨rfl, rfl, rfl, rfl⟩

section Save

variable {index : ℕ} {loaded edited : Payment} (hloaded : b.attempts[index]? = some loaded)

variable {payment : Payment}

theorem attempt_of_save {i : ℕ} (h : (b.save index edited).attempts[i]? = some payment) :
    i = index ∧ payment = edited ∨ i ≠ index ∧ b.attempts[i]? = some payment := by
  unfold save at h
  rw [getElem?_set] at h
  split at h
  next hi =>
    split at h
    · exact .inl ⟨hi.symm, (Option.some.inj h).symm⟩
    · cases h
  next hi => exact .inr ⟨Ne.symm hi, h⟩

theorem mem_attempts_of_save (h : payment ∈ (b.save index edited).attempts) :
    payment = edited ∨ payment ∈ b.attempts := by
  obtain ⟨i, hi⟩ := getElem?_of_mem h
  rcases attempt_of_save hi with ⟨-, heq⟩ | ⟨-, hget⟩
  · exact .inl heq
  · exact .inr (mem_of_getElem? hget)

variable (hsame : SameAttempt loaded edited)

include hloaded hsame

theorem attempt_before_save {i : ℕ} (h : (b.save index edited).attempts[i]? = some payment) :
    ∃ before, b.attempts[i]? = some before ∧ SameAttempt before payment := by
  rcases attempt_of_save h with ⟨rfl, rfl⟩ | ⟨-, hget⟩
  · exact ⟨loaded, hloaded, hsame⟩
  · exact ⟨payment, hget, SameAttempt.refl payment⟩

theorem attempt_after_save {i : ℕ} (h : b.attempts[i]? = some payment) :
    ∃ after, (b.save index edited).attempts[i]? = some after ∧ SameAttempt payment after := by
  unfold save
  rw [getElem?_set]
  by_cases hi : index = i
  · subst hi
    cases hloaded.symm.trans h
    rw [if_pos rfl, if_pos (List.getElem?_eq_some_iff.mp h).1]
    exact ⟨edited, rfl, hsame⟩
  · rw [if_neg hi]
    exact ⟨payment, h, SameAttempt.refl payment⟩

theorem Sane.save (h : b.Sane reported) (hstatus : edited.status ≠ .authorized)
    (hrecorded : edited.recorded = true → index ∈ reported) :
    (b.save index edited).Sane reported where
  distinct := h.distinct
  covers := by
    intro payment hmem
    rcases mem_attempts_of_save hmem with rfl | hmem
    · have hcovers := h.covers loaded (mem_of_getElem? hloaded)
      rw [hsame.orderIds, hsame.scope]
      exact hcovers
    · exact h.covers payment hmem
  primary := by
    intro payment hmem
    rcases mem_attempts_of_save hmem with rfl | hmem
    · have hprimary := h.primary loaded (mem_of_getElem? hloaded)
      rw [hsame.order, hsame.orderIds]
      exact hprimary
    · exact h.primary payment hmem
  status := by
    intro payment hmem
    rcases mem_attempts_of_save hmem with rfl | hmem
    · exact hstatus
    · exact h.status payment hmem
  credited := h.credited
  known := h.known
  backed := by
    intro row hrow hcaptured
    obtain ⟨i, hi, payment, hget, hscope⟩ := h.backed row hrow hcaptured
    obtain ⟨after, hafter, hsame'⟩ := attempt_after_save hloaded hsame hget
    exact ⟨i, hi, after, hafter, hsame'.scope.trans hscope⟩
  recorded := by
    intro i payment hget hpayment
    rcases attempt_of_save hget with ⟨rfl, rfl⟩ | ⟨-, hget⟩
    · exact hrecorded hpayment
    · exact h.recorded i payment hget hpayment
  present := by
    intro i hi
    have hlength := h.present i hi
    unfold Books.save
    rwa [length_set]
  single := by
    intro i hi j hj payment payment' hget hget' hscope
    obtain ⟨before, hbefore, hsame₁⟩ := attempt_before_save hloaded hsame hget
    obtain ⟨before', hbefore', hsame₂⟩ := attempt_before_save hloaded hsame hget'
    refine h.single i hi j hj before before' hbefore hbefore' ?_
    rw [← hsame₁.scope, ← hsame₂.scope]
    exact hscope
  amounts := by
    intro i hi payment hget
    obtain ⟨before, hbefore, hsame'⟩ := attempt_before_save hloaded hsame hget
    have hamounts := h.amounts i hi before hbefore
    rw [hsame'.amount, hsame'.scope]
    exact hamounts

omit hloaded hsame in
theorem RecordedBut.save {missing missing' : List ℕ} (h : b.RecordedBut reported missing)
    (hedited : edited.recorded = false → index ∈ reported → index ∈ missing')
    (hrest : ∀ i ∈ missing, i ≠ index → i ∈ missing') :
    (b.save index edited).RecordedBut reported missing' := by
  intro i hi payment hget hpayment
  rcases attempt_of_save hget with ⟨rfl, rfl⟩ | ⟨hne, hget⟩
  · exact hedited hpayment hi
  · exact hrest i (h i hi payment hget hpayment) hne

theorem CreditedBut.save {missing : List ObjectId} (h : b.CreditedBut reported missing)
    (hedited : edited.recorded = true →
      loaded.recorded = true ∨ ∀ row ∈ b.rowsOf loaded.scope, row.id ∈ missing) :
    (b.save index edited).CreditedBut reported missing := by
  intro i hi payment hget hpayment row hrow hcaptured
  rcases attempt_of_save hget with ⟨rfl, rfl⟩ | ⟨-, hget⟩
  · rw [hsame.scope] at hrow
    rcases hedited hpayment with hloaded' | hall
    · exact h i hi loaded hloaded hloaded' row hrow hcaptured
    · exact hall row hrow
  · exact h i hi payment hget hpayment row hrow hcaptured

end Save

section Credit

variable {row : OrderRow}

theorem rowsOf_credit (orderId : ObjectId) (amount : ℤ) (scope : PaymentScope) :
    (b.credit orderId amount).rowsOf scope = (b.rowsOf scope).map
      (fun row => if row.id = orderId then { row with captured := true } else row) := by
  unfold rowsOf credit
  rw [filter_map]
  congr 1
  refine filter_congr fun row _ => ?_
  simp only [Function.comp]
  split
  · rfl
  · rfl

theorem credit_map_eq {α : Type} (f : OrderRow → α)
    (hf : ∀ row : OrderRow, f { row with captured := true } = f row) (rows : List OrderRow)
    (orderId : ObjectId) :
    (rows.map (fun row => if row.id = orderId then { row with captured := true } else row)).map f
      = rows.map f := by
  refine (map_map ..).trans (map_congr_left fun row _ => ?_)
  simp only [Function.comp]
  split
  · exact hf row
  · rfl

theorem Sane.credit (h : b.Sane reported) (hrow : row ∈ b.rows) (huncaptured : row.captured = false)
    {i : ℕ} (hi : i ∈ reported) {payment : Payment} (hget : b.attempts[i]? = some payment)
    (hscope : payment.scope = row.scope) : (b.credit row.id row.amount).Sane reported where
  distinct := by
    change ((b.rows.map _).map OrderRow.id).Nodup
    rw [credit_map_eq OrderRow.id (fun _ => rfl)]
    exact h.distinct
  covers := by
    intro payment' hmem
    obtain ⟨hids, hne⟩ := h.covers payment' hmem
    rw [rowsOf_credit, credit_map_eq OrderRow.id (fun _ => rfl)]
    exact ⟨hids, by simpa using hne⟩
  primary := h.primary
  status := h.status
  credited := by
    intro row' hrow'
    obtain ⟨before, hbefore, rfl⟩ := mem_map.mp hrow'
    have hcredits := h.credited before hbefore
    unfold creditsOf Books.credit
    dsimp only
    rw [filter_append]
    by_cases hid : before.id = row.id
    · rw [h.row_ext hbefore hrow hid, huncaptured] at hcredits
      unfold creditsOf at hcredits
      rw [if_pos hid]
      simp only [hid, hcredits, if_true]
      rw [h.row_ext hbefore hrow hid]
      simp
    · unfold creditsOf at hcredits
      rw [if_neg hid, hcredits]
      simp [Ne.symm hid]
  known := by
    intro credit hmem
    rcases mem_append.mp hmem with hmem | hmem
    · obtain ⟨row', hrow', hid⟩ := h.known credit hmem
      refine ⟨_, mem_map_of_mem hrow', ?_⟩
      split
      · exact hid
      · exact hid
    · rw [mem_singleton.mp hmem]
      refine ⟨_, mem_map_of_mem hrow, ?_⟩
      rw [if_pos rfl]
  backed := by
    intro row' hrow' hcaptured
    obtain ⟨before, hbefore, rfl⟩ := mem_map.mp hrow'
    by_cases hid : before.id = row.id
    · rw [if_pos hid, h.row_ext hbefore hrow hid]
      exact ⟨i, hi, payment, hget, hscope⟩
    · rw [if_neg hid] at hcaptured ⊢
      exact h.backed before hbefore hcaptured
  recorded := h.recorded
  present := h.present
  single := h.single
  amounts := by
    intro j hj payment' hget'
    obtain ⟨hamount, hpositive⟩ := h.amounts j hj payment' hget'
    rw [rowsOf_credit, credit_map_eq OrderRow.amount (fun _ => rfl)]
    refine ⟨hamount, fun row' hrow' => ?_⟩
    obtain ⟨before, hbefore, rfl⟩ := mem_map.mp hrow'
    have hpos := hpositive before hbefore
    split
    · exact hpos
    · exact hpos

theorem CreditedBut.credit {missing : List ObjectId} {orderId : ObjectId} {amount : ℤ}
    (h : b.CreditedBut reported (orderId :: missing)) :
    (b.credit orderId amount).CreditedBut reported missing := by
  intro i hi payment hget hpayment row' hrow' hcaptured
  rw [rowsOf_credit] at hrow'
  obtain ⟨before, hbefore, rfl⟩ := mem_map.mp hrow'
  by_cases hid : before.id = orderId
  · rw [if_pos hid] at hcaptured
    cases hcaptured
  · rw [if_neg hid] at hcaptured ⊢
    have hmem := h i hi payment hget hpayment before hbefore hcaptured
    exact (mem_cons.mp hmem).resolve_left hid

theorem CreditedBut.drop {missing : List ObjectId} (hb : b.Sane reported) (hrow : row ∈ b.rows)
    (hcaptured : row.captured = true) (h : b.CreditedBut reported (row.id :: missing)) :
    b.CreditedBut reported missing := by
  intro i hi payment hget hpayment row' hrow' huncaptured
  have hmem := h i hi payment hget hpayment row' hrow' huncaptured
  refine (mem_cons.mp hmem).resolve_left fun hid => ?_
  rw [hb.row_ext (mem_rowsOf.mp hrow').1 hrow hid, hcaptured] at huncaptured
  cases huncaptured

end Credit

section Add

variable {payment : Payment}

theorem attempt_of_add (hb : b.Sane reported) {i : ℕ} (hi : i ∈ reported) {payment' : Payment}
    (h : (b.add payment).attempts[i]? = some payment') : b.attempts[i]? = some payment' := by
  unfold add at h
  rwa [getElem?_append_left (hb.present i hi)] at h

theorem Sane.add (h : b.Sane reported)
    (hcovers : payment.orderIds = (b.rowsOf payment.scope).map OrderRow.id ∧
      b.rowsOf payment.scope ≠ []) (hprimary : payment.order ∈ payment.orderIds)
    (hstatus : payment.status = .pending) : (b.add payment).Sane reported where
  distinct := h.distinct
  covers := by
    intro payment' hmem
    rcases mem_append.mp hmem with hmem | hmem
    · exact h.covers payment' hmem
    · rw [mem_singleton.mp hmem]
      exact hcovers
  primary := by
    intro payment' hmem
    rcases mem_append.mp hmem with hmem | hmem
    · exact h.primary payment' hmem
    · rw [mem_singleton.mp hmem]
      exact hprimary
  status := by
    intro payment' hmem
    rcases mem_append.mp hmem with hmem | hmem
    · exact h.status payment' hmem
    · rw [mem_singleton.mp hmem, hstatus]
      decide
  credited := h.credited
  known := h.known
  backed := by
    intro row hrow hcaptured
    obtain ⟨i, hi, payment', hget, hscope⟩ := h.backed row hrow hcaptured
    refine ⟨i, hi, payment', ?_, hscope⟩
    unfold Books.add
    rwa [getElem?_append_left (h.present i hi)]
  recorded := by
    intro i payment' hget hrecorded
    unfold Books.add at hget
    by_cases hi : i < b.attempts.length
    · rw [getElem?_append_left hi] at hget
      exact h.recorded i payment' hget hrecorded
    · rw [getElem?_append_right (by omega), getElem?_singleton] at hget
      split at hget
      · rw [← Option.some.inj hget, Payment.recorded, hstatus] at hrecorded
        exact absurd hrecorded (by decide)
      · cases hget
  present := by
    intro i hi
    have hlength := h.present i hi
    unfold Books.add
    rw [length_append]
    omega
  single := fun i hi j hj payment' payment'' hget hget' =>
    h.single i hi j hj payment' payment'' (attempt_of_add h hi hget) (attempt_of_add h hj hget')
  amounts := fun i hi payment' hget => h.amounts i hi payment' (attempt_of_add h hi hget)

theorem Settled.add (h : b.Settled reported)
    (hcovers : payment.orderIds = (b.rowsOf payment.scope).map OrderRow.id ∧
      b.rowsOf payment.scope ≠ []) (hprimary : payment.order ∈ payment.orderIds)
    (hstatus : payment.status = .pending) : (b.add payment).Settled reported where
  sane := h.sane.add hcovers hprimary hstatus
  recorded := fun i hi payment' hget => h.recorded i hi payment' (attempt_of_add h.sane hi hget)
  credited := fun i hi payment' hget => h.credited i hi payment' (attempt_of_add h.sane hi hget)

end Add

section Report

variable {captures : List ℕ}

theorem Sane.report (h : b.Sane reported) (hpresent : ∀ i ∈ captures, i < b.attempts.length)
    (hsingle : ∀ i ∈ captures, ∀ j ∈ reported ++ captures, ∀ payment payment' : Payment,
      b.attempts[i]? = some payment → b.attempts[j]? = some payment' →
        payment.scope = payment'.scope → i = j)
    (hamounts : ∀ i ∈ captures, ∀ payment : Payment, b.attempts[i]? = some payment →
      payment.amount = ((b.rowsOf payment.scope).map OrderRow.amount).sum ∧
        ∀ row ∈ b.rowsOf payment.scope, 0 < row.amount) : b.Sane (reported ++ captures) where
  distinct := h.distinct
  covers := h.covers
  primary := h.primary
  status := h.status
  credited := h.credited
  known := h.known
  backed := by
    intro row hrow hcaptured
    obtain ⟨i, hi, hrest⟩ := h.backed row hrow hcaptured
    exact ⟨i, mem_append_left _ hi, hrest⟩
  recorded := fun i payment hget hrecorded =>
    mem_append_left _ (h.recorded i payment hget hrecorded)
  present := by
    intro i hi
    rcases mem_append.mp hi with hi | hi
    · exact h.present i hi
    · exact hpresent i hi
  single := by
    intro i hi j hj payment payment' hget hget' hscope
    rcases mem_append.mp hi with hi' | hi'
    · rcases mem_append.mp hj with hj' | hj'
      · exact h.single i hi' j hj' payment payment' hget hget' hscope
      · exact (hsingle j hj' i hi payment' payment hget' hget hscope.symm).symm
    · exact hsingle i hi' j hj payment payment' hget hget' hscope
  amounts := by
    intro i hi payment hget
    rcases mem_append.mp hi with hi | hi
    · exact h.amounts i hi payment hget
    · exact hamounts i hi payment hget

theorem Settled.recordedBut (h : b.Settled reported) :
    b.RecordedBut (reported ++ captures) captures := by
  intro i hi payment hget hunrecorded
  rcases mem_append.mp hi with hi | hi
  · exact absurd (h.recorded i hi payment hget hunrecorded) (by simp)
  · exact hi

theorem Settled.creditedBut (h : b.Settled reported) :
    b.CreditedBut (reported ++ captures) [] := fun i _ payment hget hrecorded =>
  h.credited i (h.sane.recorded i payment hget hrecorded) payment hget hrecorded

end Report

end Changes

end Books

end DiscountBazar.Payments
