/-
One refund at the gateway for each allocation.

A gateway attempt claims its allocation, looks for an earlier refund and asks for a new one
only when there is none. While the attempt is under way the claim keeps others out: the
allocation is neither PENDING nor FAILED, and it is not stale as long as the provider
answers in time. What breaks this is a write of PENDING or FAILED that comes in between.
The attempts cap parks an allocation whose last attempt is still under way in
MANUAL_REVIEW, and the reset an admin then asks for writes such a PENDING; late error
paths of other workers write such a FAILED.
-/
import DiscountBazar.Cancellation.RefundMoney

namespace DiscountBazar.Cancellation

open Finance Tasks Runs Table
open Contract (Sound)
open Prog (All)
open List Option Allocation World

/-! ## Calls and the allocations they hold -/

/-- The allocation is claimed for the call: it is not open for another claim, and it was
claimed no earlier than the call says. -/
def Held (w : World) (call : GatewayCall) : Prop :=
  ∃ a t, w.allocation? call.allocationId = some a ∧ a.status ≠ .pending ∧ a.status ≠ .failed ∧
    a.initiatedAt = some t ∧ call.claimedAt ≤ t

/-- The invariant of the calls and the refunds they leave at the gateway. -/
structure CallsInv (w : World) : Prop where
  held : ∀ c ∈ w.gatewayCalls, Held w c
  inTime : ∀ c ∈ w.gatewayCalls, w.now ≤ c.claimedAt + staleGatewayAttemptMs
  one : ∀ c ∈ w.gatewayCalls, ∀ c' ∈ w.gatewayCalls, c.allocationId = c'.allocationId → c = c'
  tasks : ∀ c ∈ w.gatewayCalls, ∀ c' ∈ w.gatewayCalls, c.task = c'.task → c = c'
  accepted : ∀ r ∈ w.gatewayRefunds.rows, ∀ i, r.call = some i →
    ∃ c ∈ w.gatewayCalls, c.task = i ∧ c.allocationId = r.allocationId ∧ c.stage = .accepted
  clear : ∀ c ∈ w.gatewayCalls, c.stage = .clear →
    ∀ r ∈ w.gatewayRefunds.rows, r.allocationId = c.allocationId → r.live = false
  single : ∀ r ∈ w.gatewayRefunds.rows, ∀ r' ∈ w.gatewayRefunds.rows, r.live = true →
    r'.live = true → r.allocationId = r'.allocationId → r = r'

section Frame

variable {w w' : World}

variable {i : ℕ} {c : GatewayCall}

theorem mem_of_callOf (h : w.callOf i = some c) :
    c ∈ w.gatewayCalls ∧ c.task = i :=
  ⟨mem_of_find?_eq_some h, by simpa using find?_some h⟩

theorem CallsInv.not_canClaim (h : CallsInv w) (hc : c ∈ w.gatewayCalls) (reclaimStale : Bool) :
    w.canClaim c.allocationId [.pending, .failed] reclaimStale = false := by
  obtain ⟨a, t, hget, hpending, hfailed, hstart, hle⟩ := h.held c hc
  have htime := h.inTime c hc
  unfold canClaim
  rw [hget, any_some]
  unfold claimable
  rw [hstart, any_some]
  have hstatus : decide (a.status ∈ [RefundStatus.pending, .failed]) = false := by
    simp [hpending, hfailed]
  -- the claim is no older than the window, so it is not stale
  have hfresh : decide (t < w.now - staleGatewayAttemptMs) = false := by
    rw [decide_eq_false_iff_not]
    exact not_lt.mpr (by linarith)
  rw [hstatus, hfresh, Bool.and_false, Bool.or_false]

variable {id : ObjectId}

theorem CallsInv.ne_of_canClaim (h : CallsInv w) {reclaimStale : Bool}
    (hcan : w.canClaim id [.pending, .failed] reclaimStale = true) :
    ∀ c ∈ w.gatewayCalls, c.allocationId ≠ id := by
  rintro c hc rfl
  rw [h.not_canClaim hc reclaimStale] at hcan
  cases hcan

theorem Held.of_allocation? (h : Held w c)
    (hrow : w'.allocation? c.allocationId = w.allocation? c.allocationId) : Held w' c := by
  obtain ⟨a, t, hget, hrest⟩ := h
  exact ⟨a, t, hrow.trans hget, hrest⟩

/-- What a write of the database leaves alone: the gateway, the clock and the calls. -/
def World.gateway (w : World) : Table GatewayRefund.id × Date × List GatewayCall :=
  (w.gatewayRefunds, w.now, w.gatewayCalls)

theorem CallsInv.of_held (h : CallsInv w) (hgateway : w'.gateway = w.gateway)
    (hheld : ∀ c ∈ w.gatewayCalls, Held w c → Held w' c) : CallsInv w' := by
  unfold gateway at hgateway
  simp only [Prod.mk.injEq] at hgateway
  obtain ⟨hrefunds, hnow, hcalls⟩ := hgateway
  constructor
  · rw [hcalls]
    exact fun c hc => hheld c hc (h.held c hc)
  · rw [hcalls, hnow]
    exact h.inTime
  · rw [hcalls]
    exact h.one
  · rw [hcalls]
    exact h.tasks
  · rw [hcalls, hrefunds]
    exact h.accepted
  · rw [hcalls, hrefunds]
    exact h.clear
  · rw [hrefunds]
    exact h.single

theorem gateway_of_books (h : w'.books = w.books) : w'.gateway = w.gateway := by
  unfold books at h
  simp only [Prod.mk.injEq] at h
  obtain ⟨-, hrefunds, hnow, hcalls, -⟩ := h
  rw [gateway, hrefunds, hnow, hcalls, gateway]

/-! ## Writes of the database -/

def DbOp.reopens : DbOp → ObjectId → Bool
  | .setAllocation id fields, x =>
    decide (x = id ∧ (fields.status = some .pending ∨ fields.status = some .failed))
  | .saveReset seen, x =>
    (seen.allocations.get? x).any (fun s => decide
      ((s.status = .failed ∨ s.status = .manualReview) ∧ s.gatewayRefundId = none))
  | _, _ => false

theorem Held.updateAllocation (h : Held w c) {f : Allocation → Allocation}
    (hf : ∀ a, (f a).id = a.id)
    (hopen : c.allocationId = id → ∀ a, a.status ≠ .pending → a.status ≠ .failed →
      (f a).status ≠ .pending ∧ (f a).status ≠ .failed)
    (hstart : ∀ a, (f a).initiatedAt = a.initiatedAt) : Held (w.updateAllocation id f hf) c := by
  obtain ⟨a, t, hget, hpending, hfailed, ht, hle⟩ := h
  have hrow := allocation?_updateAllocation w id f hf c.allocationId
  rw [hget, map_some] at hrow
  by_cases hid : c.allocationId = id
  · rw [if_pos hid] at hrow
    obtain ⟨hpending', hfailed'⟩ := hopen hid a hpending hfailed
    exact ⟨f a, t, hrow, hpending', hfailed', (hstart a).trans ht, hle⟩
  · rw [if_neg hid] at hrow
    exact ⟨a, t, hrow, hpending, hfailed, ht, hle⟩

theorem Held.mapSeen (h : Held w c) (seen : Refund) {f : Allocation → Allocation → Allocation}
    (hf : ∀ a s, (f a s).id = a.id) {refund : Refund}
    (hr : refund.allocations = (w.record.refund.mapSeen seen f hf).allocations)
    (hopen : ∀ s, seen.allocations.get? c.allocationId = some s →
      ∀ a, a.status ≠ .pending → a.status ≠ .failed →
        (f a s).status ≠ .pending ∧ (f a s).status ≠ .failed)
    (hstart : ∀ a s, (f a s).initiatedAt = a.initiatedAt) : Held (w.withRefund refund) c := by
  obtain ⟨a, t, hget, hpending, hfailed, ht, hle⟩ := h
  have hrow : (w.withRefund refund).allocation? c.allocationId
      = some ((seen.allocations.get? a.id).elim a (f a)) := by
    rw [allocation?, withRefund, hr, Refund.mapSeen, Refund.mapAllocations,
      get?_map, ← allocation?, hget, map_some]
  have hkey : a.id = c.allocationId := key_of_get? hget
  rw [hkey] at hrow
  cases hseen : seen.allocations.get? c.allocationId with
  | none =>
    rw [hseen] at hrow
    exact ⟨a, t, hrow, hpending, hfailed, ht, hle⟩
  | some s =>
    rw [hseen] at hrow
    obtain ⟨hpending', hfailed'⟩ := hopen s hseen a hpending hfailed
    exact ⟨f a s, t, hrow, hpending', hfailed', (hstart a s).trans ht, hle⟩

theorem gateway_commit {r : Except ServiceError World}
    (hok : ∀ w', r = .ok w' → w'.gateway = w.gateway) : (commit w r).2.gateway = w.gateway := by
  cases r with
  | ok w' => exact hok w' rfl
  | error e => rfl

theorem gateway_runDb (w : World) (op : DbOp) : (op.run w).2.gateway = w.gateway := by
  cases op with
  | markCancellationReversalApplied => exact gateway_of_books (books_updateOrder w _)
  | walletTransaction order allocation =>
    exact gateway_commit (fun _ h => gateway_of_books (books_walletTransaction h))
  | completeTransaction order allocation =>
    exact gateway_commit (fun _ h => gateway_of_books (books_completeTransaction h))
  | freezePlan plan =>
    change (w.freezePlan plan).2.gateway = w.gateway
    unfold freezePlan
    split <;> rfl
  | setRefundStatus previous next lastError =>
    change (w.setRefundStatus previous next lastError).2.gateway = w.gateway
    unfold World.setRefundStatus
    split <;> rfl
  | pushLateCapture gateway paidGateway seenAmount =>
    change (w.pushLateCapture gateway paidGateway seenAmount).2.gateway = w.gateway
    unfold World.pushLateCapture
    split <;> rfl
  | handleOnlineOrderFinance =>
    refine gateway_commit (fun w' h => ?_)
    cases hfin : Finance.handleOnlineOrderFinance w.db w.record.order with
    | error e =>
      rw [hfin] at h
      cases h
    | ok r =>
      rw [hfin] at h
      cases h
      rfl
  | _ => rfl

theorem CallsInv.held_runDb (h : CallsInv w) (hc : c ∈ w.gatewayCalls) (op : DbOp)
    (hop : op.reopens c.allocationId = false) : Held (op.run w).2 c := by
  have hheld := h.held c hc
  have hsame : ∀ {v : World}, v.record.refund.allocations = w.record.refund.allocations →
      Held v c := by
    intro v hrows
    refine hheld.of_allocation? ?_
    rw [allocation?, hrows, allocation?]
  cases op with
  | setAllocation id fields =>
    refine hheld.updateAllocation (fun a => a.set_id fields) (fun hid a hpending hfailed => ?_)
      (fun a => rfl)
    simp only [DbOp.reopens, decide_eq_false_iff_not] at hop
    unfold Allocation.set
    cases hstatus : fields.status with
    | none => exact ⟨hpending, hfailed⟩
    | some s =>
      constructor
      · rintro rfl
        exact hop ⟨hid, .inl hstatus⟩
      · rintro rfl
        exact hop ⟨hid, .inr hstatus⟩
  | saveReset seen =>
    refine hheld.mapSeen seen resetFrom_id rfl (fun s hs a hpending hfailed => ?_)
      (fun a s => ?_)
    · simp only [DbOp.reopens, hs, any_some, decide_eq_false_iff_not] at hop
      unfold resetFrom
      split
      next hseen =>
        have hrefund : s.gatewayRefundId.isSome = true := by
          rw [← ne_none_iff_isSome]
          exact fun hnone => hop ⟨hseen, hnone⟩
        simp [hrefund]
      next => exact ⟨hpending, hfailed⟩
    · unfold resetFrom
      split <;> rfl
  | saveResolved seen note =>
    have hresolved : Held (w.withRefund
        { w.record.refund.mapSeen seen (fun a s => a.resolvedFrom s note w.now)
            (fun a s => a.resolvedFrom_id s note w.now) with
          status := .successful
          completedAt := some w.now }) c := by
      refine hheld.mapSeen seen (fun a s => a.resolvedFrom_id s note w.now) rfl
        (fun s hs a hpending hfailed => ?_) (fun a s => ?_)
      · unfold resolvedFrom
        split
        next => exact ⟨hpending, hfailed⟩
        next => simp
      · unfold resolvedFrom
        split <;> rfl
    exact hresolved.of_allocation? rfl
  | walletTransaction order allocation =>
    change Held (commit w (w.walletTransaction order allocation)).2 c
    cases htx : w.walletTransaction order allocation with
    | error e => exact hheld
    | ok w' =>
      rcases allocation?_walletTransaction htx c.allocationId with hrow | ⟨-, hcan, -⟩
      · exact hheld.of_allocation? hrow
      · -- an allocation that is held is not claimed again
        rw [h.not_canClaim hc false] at hcan
        cases hcan
  | completeTransaction order allocation =>
    change Held (commit w (w.completeTransaction order allocation)).2 c
    cases htx : w.completeTransaction order allocation with
    | error e => exact hheld
    | ok w' =>
      rcases allocation?_completeTransaction htx c.allocationId with hrow | ⟨-, hrow⟩
      · exact hheld.of_allocation? hrow
      · obtain ⟨a, t, hget, -, -, ht, hle⟩ := hheld
        rw [hget, map_some] at hrow
        exact ⟨a.completed w.now, t, hrow, by simp [completed],
          by simp [completed], ht, hle⟩
  | freezePlan plan =>
    change Held (w.freezePlan plan).2 c
    unfold freezePlan
    split
    next hfree =>
      -- a record with no allocation has none that is held
      obtain ⟨a, t, hget, -⟩ := hheld
      have hmem := (get?_eq_some_iff.mp hget).1
      rw [hfree.1] at hmem
      exact absurd hmem not_mem_nil
    next => exact hheld
  | pushLateCapture gateway paidGateway seenAmount =>
    change Held (w.pushLateCapture gateway paidGateway seenAmount).2 c
    unfold World.pushLateCapture
    split
    · obtain ⟨a, t, hget, hrest⟩ := hheld
      exact ⟨a, t, get?_addAllocations hget [gateway], hrest⟩
    · exact hheld
  | setRefundStatus previous next lastError =>
    change Held (w.setRefundStatus previous next lastError).2 c
    unfold World.setRefundStatus
    split
    · exact hsame rfl
    · exact hheld
  | markCancellationReversalApplied =>
    exact hheld.of_allocation? (allocation?_of_record (record_updateOrder w _) _)
  | handleOnlineOrderFinance =>
    change Held (commit w ((Finance.handleOnlineOrderFinance w.db w.record.order).map _)).2 c
    cases Finance.handleOnlineOrderFinance w.db w.record.order with
    | error e => exact hheld
    | ok r => exact hsame rfl
  | _ => exact hsame rfl

theorem CallsInv.runDb (h : CallsInv w) (op : DbOp)
    (hop : ∀ c ∈ w.gatewayCalls, op.reopens c.allocationId = false) : CallsInv (op.run w).2 :=
  h.of_held (gateway_runDb w op) (fun c hc _ => h.held_runDb hc op (hop c hc))

/-! ## Steps of a gateway attempt -/

theorem CallsInv.claim (h : CallsInv w) (hidle : ∀ c ∈ w.gatewayCalls, c.task ≠ i)
    (hcan : w.canClaim id [.pending, .failed] true = true) :
    CallsInv ((w.markClaimed id).openCall i id) := by
  have hother := h.ne_of_canClaim hcan
  have hrows : ∀ k, ((w.markClaimed id).openCall i id).allocation? k
      = (w.allocation? k).map (fun a => if k = id then a.claimed w.now else a) :=
    allocation?_markClaimed w id
  constructor
  · intro c hc
    rcases mem_cons.mp hc with rfl | hc
    · unfold canClaim at hcan
      obtain ⟨a, hget, -⟩ := (any_eq_true _ _).mp hcan
      refine ⟨a.claimed w.now, w.now, ?_, by simp [claimed], by simp [claimed],
        rfl, le_refl _⟩
      rw [hrows, hget, map_some, if_pos rfl]
    · refine (h.held c hc).of_allocation? ?_
      rw [hrows]
      simp only [if_neg (hother c hc), Option.map_id']
  · intro c hc
    rcases mem_cons.mp hc with rfl | hc
    · exact le_add_of_nonneg_right (by decide)
    · exact h.inTime c hc
  · intro c hc c' hc' heq
    rcases mem_cons.mp hc with rfl | hc <;> rcases mem_cons.mp hc' with rfl | hc'
    · rfl
    · exact absurd heq.symm (hother c' hc')
    · exact absurd heq (hother c hc)
    · exact h.one c hc c' hc' heq
  · intro c hc c' hc' heq
    rcases mem_cons.mp hc with rfl | hc <;> rcases mem_cons.mp hc' with rfl | hc'
    · rfl
    · exact absurd heq.symm (hidle c' hc')
    · exact absurd heq (hidle c hc)
    · exact h.tasks c hc c' hc' heq
  · intro r hr j hj
    obtain ⟨c, hc, hrest⟩ := h.accepted r hr j hj
    exact ⟨c, mem_cons_of_mem _ hc, hrest⟩
  · intro c hc hstage
    rcases mem_cons.mp hc with rfl | hc
    · cases hstage
    · exact h.clear c hc hstage
  · exact h.single

theorem CallsInv.markClaimed (h : CallsInv w) (hcan : w.canClaim id [.pending, .failed] true = true)
    : CallsInv (w.markClaimed id) := by
  refine h.of_held rfl (fun c hc hheld => hheld.of_allocation? ?_)
  rw [allocation?_markClaimed]
  simp only [if_neg (h.ne_of_canClaim hcan c hc), Option.map_id']

theorem CallsInv.hangUp (h : CallsInv w) (i : ℕ) : CallsInv (w.hangUp i) := by
  have hcalls : ∀ c ∈ (w.hangUp i).gatewayCalls, c ∈ w.gatewayCalls :=
    fun c hc => mem_of_mem_filter hc
  have hrefunds : ∀ r ∈ (w.hangUp i).gatewayRefunds.rows, ∃ r₀ ∈ w.gatewayRefunds.rows,
      r = if r₀.call = some i then { r₀ with call := none } else r₀ := by
    intro r hr
    obtain ⟨r₀, hr₀, rfl⟩ := List.mem_map.mp hr
    exact ⟨r₀, hr₀, rfl⟩
  -- what the invariant reads of a refund is left alone, but for the call
  have hsame : ∀ r₀ : GatewayRefund, ∀ r,
      (r = if r₀.call = some i then { r₀ with call := none } else r₀) →
        r.allocationId = r₀.allocationId ∧ r.live = r₀.live := by
    rintro r₀ r rfl
    split <;> exact ⟨rfl, rfl⟩
  constructor
  · exact fun c hc => (h.held c (hcalls c hc)).of_allocation? rfl
  · exact fun c hc => h.inTime c (hcalls c hc)
  · exact fun c hc c' hc' => h.one c (hcalls c hc) c' (hcalls c' hc')
  · exact fun c hc c' hc' => h.tasks c (hcalls c hc) c' (hcalls c' hc')
  · intro r hr j hj
    obtain ⟨r₀, hr₀, rfl⟩ := hrefunds r hr
    by_cases hi : r₀.call = some i
    · rw [if_pos hi] at hj
      cases hj
    · rw [if_neg hi] at hj ⊢
      obtain ⟨c, hc, rfl, hrest⟩ := h.accepted r₀ hr₀ j hj
      have hne : c.task ≠ i := fun heq => hi (heq ▸ hj)
      exact ⟨c, mem_filter.mpr ⟨hc, decide_eq_true hne⟩, rfl, hrest⟩
  · intro c hc hstage r hr hid
    obtain ⟨r₀, hr₀, hr₀'⟩ := hrefunds r hr
    obtain ⟨hid₀, hlive⟩ := hsame r₀ r hr₀'
    rw [hlive]
    exact h.clear c (hcalls c hc) hstage r₀ hr₀ (hid₀ ▸ hid)
  · intro r hr r' hr' hl hl' hid
    obtain ⟨r₀, hr₀, hr₀'⟩ := hrefunds r hr
    obtain ⟨r₁, hr₁, hr₁'⟩ := hrefunds r' hr'
    obtain ⟨hid₀, hlive₀⟩ := hsame r₀ r hr₀'
    obtain ⟨hid₁, hlive₁⟩ := hsame r₁ r' hr₁'
    have heq : r₀ = r₁ := h.single r₀ hr₀ r₁ hr₁ (hlive₀ ▸ hl) (hlive₁ ▸ hl')
      (hid₀.symm.trans (hid.trans hid₁))
    rw [hr₀', hr₁', heq]

theorem CallsInv.restage (h : CallsInv w) {stage : CallStage} (hrecord : w'.record = w.record)
    (hnow : w'.now = w.now) (hcalls : w'.gatewayCalls = (w.advanceCall i stage).gatewayCalls)
    (haccepted : ∀ r ∈ w'.gatewayRefunds.rows, ∀ j, r.call = some j →
      ∃ c ∈ w'.gatewayCalls, c.task = j ∧ c.allocationId = r.allocationId ∧ c.stage = .accepted)
    (hclear : ∀ c ∈ w'.gatewayCalls, c.stage = .clear →
      ∀ r ∈ w'.gatewayRefunds.rows, r.allocationId = c.allocationId → r.live = false)
    (hsingle : ∀ r ∈ w'.gatewayRefunds.rows, ∀ r' ∈ w'.gatewayRefunds.rows, r.live = true →
      r'.live = true → r.allocationId = r'.allocationId → r = r') : CallsInv w' := by
  have hmem : ∀ c ∈ w'.gatewayCalls, ∃ c₀ ∈ w.gatewayCalls,
      c = if c₀.task = i then { c₀ with stage := stage } else c₀ := by
    intro c hc
    rw [hcalls] at hc
    obtain ⟨c₀, hc₀, rfl⟩ := mem_map.mp hc
    exact ⟨c₀, hc₀, rfl⟩
  have hsame : ∀ c₀ c : GatewayCall, (c = if c₀.task = i then { c₀ with stage := stage } else c₀) →
      c.task = c₀.task ∧ c.allocationId = c₀.allocationId ∧ c.claimedAt = c₀.claimedAt := by
    rintro c₀ c rfl
    split <;> exact ⟨rfl, rfl, rfl⟩
  refine ⟨fun c hc => ?_, fun c hc => ?_, fun c hc c' hc' heq => ?_, fun c hc c' hc' heq => ?_,
    haccepted, hclear, hsingle⟩
  · obtain ⟨c₀, hc₀, hc₀'⟩ := hmem c hc
    obtain ⟨-, hid, hclaimed⟩ := hsame c₀ c hc₀'
    obtain ⟨a, t, hget, hpending, hfailed, ht, hle⟩ := h.held c₀ hc₀
    refine ⟨a, t, ?_, hpending, hfailed, ht, hclaimed.trans_le hle⟩
    rw [hid, allocation?_of_record hrecord]
    exact hget
  · obtain ⟨c₀, hc₀, hc₀'⟩ := hmem c hc
    obtain ⟨-, -, hclaimed⟩ := hsame c₀ c hc₀'
    rw [hclaimed, hnow]
    exact h.inTime c₀ hc₀
  · obtain ⟨c₀, hc₀, hc₀'⟩ := hmem c hc
    obtain ⟨c₁, hc₁, hc₁'⟩ := hmem c' hc'
    obtain ⟨-, hid₀, -⟩ := hsame c₀ c hc₀'
    obtain ⟨-, hid₁, -⟩ := hsame c₁ c' hc₁'
    rw [hc₀', hc₁', h.one c₀ hc₀ c₁ hc₁ (hid₀.symm.trans (heq.trans hid₁))]
  · obtain ⟨c₀, hc₀, hc₀'⟩ := hmem c hc
    obtain ⟨c₁, hc₁, hc₁'⟩ := hmem c' hc'
    obtain ⟨htask₀, -, -⟩ := hsame c₀ c hc₀'
    obtain ⟨htask₁, -, -⟩ := hsame c₁ c' hc₁'
    rw [hc₀', hc₁', h.tasks c₀ hc₀ c₁ hc₁ (htask₀.symm.trans (heq.trans htask₁))]

/-- What task `i` knows of its call. -/
def Mine (i : ℕ) (id : ObjectId) (stage : CallStage) (w : World) : Prop :=
  ∀ c ∈ w.gatewayCalls, c.task = i → c.allocationId = id ∧ c.stage = stage

/-- Task `i` is in no call. -/
def NoCall (i : ℕ) (w : World) : Prop := ∀ c ∈ w.gatewayCalls, c.task ≠ i

theorem noCall_hangUp (i : ℕ) (w : World) : NoCall i (w.hangUp i) :=
  fun _ hc => by simpa using (mem_filter.mp hc).2

theorem CallsInv.lookClear (h : CallsInv w) {p : ObjectId} {ids : List ObjectId}
    (hc : w.callOf i = some c) (hmine : Mine i c.allocationId .looking w)
    (hreports : ∀ r ∈ w.gatewayRefunds.rows, r.call = none → r.id ∈ ids)
    (hpayment : ∀ r ∈ w.gatewayRefunds.rows, r.allocationId = c.allocationId → r.live = true →
      r.gatewayPaymentId = p) (hnone : existingRefund c.allocationId (w.listedRefunds p ids) = none) :
    CallsInv (w.advanceCall i .clear) := by
  obtain ⟨hmem, htask⟩ := mem_of_callOf hc
  have hlooking : c.stage = .looking := (hmine c hmem htask).2
  have hlive : ∀ r ∈ w.gatewayRefunds.rows, r.allocationId = c.allocationId → r.live = false := by
    intro r hr hid
    by_contra hl
    rw [Bool.not_eq_false] at hl
    have hreturned : r.call = none := by
      by_contra hcall
      obtain ⟨j, hj⟩ := ne_none_iff_exists'.mp hcall
      obtain ⟨c', hc', -, hid', hstage'⟩ := h.accepted r hr j hj
      rw [h.one c' hc' c hmem (hid'.trans hid), hlooking] at hstage'
      cases hstage'
    have hlisted : r ∈ w.listedRefunds p ids :=
      mem_filter.mpr ⟨hr, decide_eq_true ⟨hpayment r hr hid hl, hreports r hr hreturned⟩⟩
    have hmiss := find?_eq_none.mp hnone r hlisted
    exact hmiss (by rw [decide_eq_true hid, hl, Bool.and_self])
  refine h.restage rfl rfl rfl ?_ ?_ h.single
  · intro r hr j hj
    obtain ⟨c', hc', rfl, hid', hstage'⟩ := h.accepted r hr j hj
    by_cases hi : c'.task = i
    · rw [h.tasks c' hc' c hmem (hi.trans htask.symm), hlooking] at hstage'
      cases hstage'
    · exact ⟨c', mem_map.mpr ⟨c', hc', if_neg hi⟩, rfl, hid', hstage'⟩
  · intro c' hc' hstage' r hr hid'
    obtain ⟨c₀, hc₀, rfl⟩ := mem_map.mp hc'
    by_cases hi : c₀.task = i
    · rw [if_pos hi] at hid'
      rw [h.tasks c₀ hc₀ c hmem (hi.trans htask.symm)] at hid'
      exact hlive r hr hid'
    · rw [if_neg hi] at hstage' hid'
      exact h.clear c₀ hc₀ hstage' r hr hid'

theorem CallsInv.accept (h : CallsInv w) {p : ObjectId} {allocation : Allocation}
    {status : GatewayRefundStatus} (hc : w.callOf i = some c)
    (hmine : Mine i allocation.id .clear w) :
    CallsInv (w.acceptRefund i p allocation status).2 := by
  obtain ⟨hmem, htask⟩ := mem_of_callOf hc
  obtain ⟨hid, hstage⟩ := hmine c hmem htask
  let refund := (w.acceptRefund i p allocation status).1
  have hnew : ∀ r, r ∈ (w.acceptRefund i p allocation status).2.gatewayRefunds.rows ↔
      r ∈ w.gatewayRefunds.rows ∨ r = refund :=
    fun r => mem_insert w.gatewayRefunds.freshKey_notMem
  have hdead : ∀ r ∈ w.gatewayRefunds.rows, r.allocationId = allocation.id → r.live = false :=
    fun r hr hr' => h.clear c hmem hstage r hr (hr'.trans hid.symm)
  refine h.restage rfl rfl rfl ?_ ?_ ?_
  · intro r hr j hj
    rcases (hnew r).mp hr with hr | rfl
    · obtain ⟨c', hc', rfl, hid', hstage'⟩ := h.accepted r hr j hj
      by_cases hi : c'.task = i
      · rw [h.tasks c' hc' c hmem (hi.trans htask.symm), hstage] at hstage'
        cases hstage'
      · exact ⟨c', mem_map.mpr ⟨c', hc', if_neg hi⟩, rfl, hid', hstage'⟩
    · cases hj
      exact ⟨{ c with stage := .accepted }, mem_map.mpr ⟨c, hmem, if_pos htask⟩, htask, hid,
        rfl⟩
  · intro c' hc' hstage' r hr hid'
    obtain ⟨c₀, hc₀, rfl⟩ := mem_map.mp hc'
    by_cases hi : c₀.task = i
    · rw [if_pos hi] at hstage'
      cases hstage'
    · rw [if_neg hi] at hstage' hid'
      rcases (hnew r).mp hr with hr | rfl
      · exact h.clear c₀ hc₀ hstage' r hr hid'
      · -- no other call is about this allocation
        exact absurd (h.one c₀ hc₀ c hmem (hid'.symm.trans hid.symm) ▸ htask) hi
  · intro r hr r' hr' hl hl' heq
    rcases (hnew r).mp hr with hr | rfl <;> rcases (hnew r').mp hr' with hr' | rfl
    · exact h.single r hr r' hr' hl hl' heq
    · rw [hdead r hr heq] at hl
      cases hl
    · rw [hdead r' hr' heq.symm] at hl'
      cases hl'
    · rfl

theorem CallsInv.settle (h : CallsInv w) (id : ObjectId) (status : GatewayRefundStatus) :
    CallsInv (w.settleRefund id status) := by
  have hrefunds : ∀ r ∈ (w.settleRefund id status).gatewayRefunds.rows,
      ∃ r₀ ∈ w.gatewayRefunds.rows, (r = if r₀.id = id ∧ r₀.status = .processing
        then { r₀ with status := status } else r₀) := by
    intro r hr
    obtain ⟨r₀, hr₀, rfl⟩ := List.mem_map.mp hr
    exact ⟨r₀, hr₀, rfl⟩
  have hsame : ∀ r₀ r : GatewayRefund, (r = if r₀.id = id ∧ r₀.status = .processing
      then { r₀ with status := status } else r₀) →
      r.allocationId = r₀.allocationId ∧ r.call = r₀.call ∧ (r.live = true → r₀.live = true) := by
    rintro r₀ r rfl
    split
    next hp => exact ⟨rfl, rfl, fun _ => by simp [GatewayRefund.live, hp.2]⟩
    next => exact ⟨rfl, rfl, fun hl => hl⟩
  refine ⟨fun c hc => (h.held c hc).of_allocation? rfl, h.inTime, h.one, h.tasks, ?_, ?_, ?_⟩
  · intro r hr j hj
    obtain ⟨r₀, hr₀, hr₀'⟩ := hrefunds r hr
    obtain ⟨hid, hcall, -⟩ := hsame r₀ r hr₀'
    rw [hid]
    exact h.accepted r₀ hr₀ j (hcall ▸ hj)
  · intro c hc hstage r hr hid'
    obtain ⟨r₀, hr₀, hr₀'⟩ := hrefunds r hr
    obtain ⟨hid, -, hlive⟩ := hsame r₀ r hr₀'
    by_contra hl
    have hdead := h.clear c hc hstage r₀ hr₀ (hid ▸ hid')
    rw [hlive (by simpa using hl)] at hdead
    cases hdead
  · intro r hr r' hr' hl hl' heq
    obtain ⟨r₀, hr₀, hr₀'⟩ := hrefunds r hr
    obtain ⟨r₁, hr₁, hr₁'⟩ := hrefunds r' hr'
    obtain ⟨hid₀, -, hlive₀⟩ := hsame r₀ r hr₀'
    obtain ⟨hid₁, -, hlive₁⟩ := hsame r₁ r' hr₁'
    rw [hr₀', hr₁', h.single r₀ hr₀ r₁ hr₁ (hlive₀ hl) (hlive₁ hl')
      (hid₀.symm.trans (heq.trans hid₁))]

end Frame

/-! ## The programs -/

/-- A look at the gateway reports every refund whose `refundPayment` call has returned. -/
def ReportsReturned (_ : ℕ) : Op → Outcome → World → Prop
  | .findRefunds _, .listed ids, w => ∀ r ∈ w.gatewayRefunds.rows, r.call = none → r.id ∈ ids
  | _, _, _ => True

/-- Every provider call returns within the window of the claim that started it: time does
not pass the end of the window while the call is under way. -/
def RepliesInTime : Event → World → Prop
  | .tick later, w => ∀ c ∈ w.gatewayCalls, w.now + later ≤ c.claimedAt + staleGatewayAttemptMs
  | _, _ => True

def Outcome.takesEffect : Outcome → Bool
  | .refused _ => false
  | _ => true

/-- The operation leaves the gateway attempts under way in peace: it does not open the
allocation of one, and a look for an earlier refund is made at the payment that the
allocation's live refund is from. -/
def SparesCalls (i : ℕ) : Op → Outcome → World → Prop
  | .db op, outcome, w =>
    outcome.takesEffect = true → ∀ c ∈ w.gatewayCalls, op.reopens c.allocationId = false
  | .findRefunds p, _, w =>
    ∀ c ∈ w.gatewayCalls, c.task = i → ∀ r ∈ w.gatewayRefunds.rows,
      r.allocationId = c.allocationId → r.live = true → r.gatewayPaymentId = p
  | _, _, _ => True

instance (i : ℕ) (op : Op) (outcome : Outcome) (w : World) :
    Decidable (ReportsReturned i op outcome w) := by
  unfold ReportsReturned
  split <;> infer_instance

instance (e : Event) (w : World) : Decidable (RepliesInTime e w) := by
  unfold RepliesInTime
  split <;> infer_instance

instance (i : ℕ) (op : Op) (outcome : Outcome) (w : World) :
    Decidable (SparesCalls i op outcome w) := by
  unfold SparesCalls
  split <;> infer_instance

/-- The contract of the gateway attempts. A task relies on the others not to be in its
calls. -/
def callsContract (maxGatewayAttempts : ℕ) : Contract (engine maxGatewayAttempts) where
  inv := CallsInv
  rely i w w' := ∀ c ∈ w'.gatewayCalls, c.task = i → c ∈ w.gatewayCalls
  idle := NoCall
  may i op outcome w := ReportsReturned i op outcome w ∧ SparesCalls i op outcome w
  mayOutside := RepliesInTime

section Programs

variable {maxGatewayAttempts : ℕ} {i : ℕ}

/-- What other tasks may do to the calls of task `j`. -/
def Apart (j : ℕ) (w w' : World) : Prop := ∀ c ∈ w'.gatewayCalls, c.task = j → c ∈ w.gatewayCalls

theorem NoCall.apart {w w' : World} (h : NoCall i w) (hapart : Apart i w w') : NoCall i w' :=
  fun c hc hi => h c (hapart c hc hi) hi

theorem Mine.apart {id : ObjectId} {stage : CallStage} {w w' : World} (h : Mine i id stage w)
    (hapart : Apart i w w') : Mine i id stage w' :=
  fun c hc hi => h c (hapart c hc hi) hi

theorem apart_of_calls {w w' : World} (h : w'.gatewayCalls = w.gatewayCalls) (j : ℕ) :
    Apart j w w' := fun _ hc _ => h ▸ hc

theorem apart_hangUp (i j : ℕ) (w : World) : Apart j w (w.hangUp i) :=
  fun _ hc _ => mem_of_mem_filter hc

theorem apart_advanceCall {j : ℕ} (hj : j ≠ i) (w : World) (stage : CallStage) :
    Apart j w (w.advanceCall i stage) := by
  intro c hc htask
  obtain ⟨c₀, hc₀, rfl⟩ := mem_map.mp hc
  by_cases hi : c₀.task = i
  · rw [if_pos hi] at htask
    exact absurd (htask.symm.trans hi) hj
  · rw [if_neg hi]
    exact hc₀

/-- An operation on the database or a question leaves every call alone. -/
theorem calls_offGateway {op : Op} (hop : offGateway op) {w w' : World} {outcome : Outcome}
    {r : Except RefundError op.Reply} (hinv : CallsInv w) (hspares : SparesCalls i op outcome w)
    (hstep : performOp i op outcome w = some (r, w')) :
    CallsInv w' ∧ w'.gatewayCalls = w.gatewayCalls := by
  rcases offGateway_cases hop with ⟨op, rfl⟩ | hasks
  · have hran : w' = (op.run w).2 → outcome.takesEffect = true →
        CallsInv w' ∧ w'.gatewayCalls = w.gatewayCalls := by
      rintro rfl heffect
      exact ⟨hinv.runDb op (hspares heffect), congrArg (fun g => g.2.2) (gateway_runDb w op)⟩
    cases outcome with
    | done | lost => exact hran (congrArg Prod.snd (some.inj hstep)).symm rfl
    | refused e =>
      cases hstep
      exact ⟨hinv, rfl⟩
    | _ => cases hstep
  · rw [performOp_asks hasks hstep]
    exact ⟨hinv, rfl⟩

variable {w : World}

theorem sound_offGateway {α : Type} {p : Engine α} (hp : p.All offGateway) (hw : NoCall i w) :
    (callsContract maxGatewayAttempts).Leaving i (NoCall i) p w := by
  refine Contract.sound_of_all (fun w w' hrely hidle => NoCall.apart hidle hrely)
    (fun op hop w hinv hidle outcome hmay r w' hstep => ?_) hp hw
  obtain ⟨hinv', hcalls⟩ := calls_offGateway hop hinv hmay.2 hstep
  exact ⟨hinv', fun j _ => apart_of_calls hcalls j, hidle.apart (apart_of_calls hcalls i)⟩

theorem sound_claimAllocation (id : ObjectId) (hw : NoCall i w) :
    (callsContract maxGatewayAttempts).Sound i
      (fun claimed w => if claimed = true then Mine i id .looking w else NoCall i w)
      (fun _ => NoCall i) (claimAllocation id) w := by
  refine Sound.perform (fun w' hrely hinv outcome _ r w'' hstep => ?_)
  have hidle : NoCall i w' := hw.apart hrely
  rcases performOp_claimAllocation hstep with ⟨rfl, hcan, rfl⟩ | ⟨hne, hw''⟩
  · refine ⟨hinv.claim hidle hcan, fun j hj c hc htask => ?_, fun a ha => ?_, fun e he => ?_⟩
    · rcases mem_cons.mp hc with rfl | hc
      · exact absurd htask.symm hj
      · exact hc
    · cases ha
      intro c hc htask
      rcases mem_cons.mp hc with rfl | hc
      · exact ⟨rfl, rfl⟩
      · exact absurd htask (hidle c hc)
    · cases he
  · have hsame : CallsInv w'' ∧ w''.gatewayCalls = w'.gatewayCalls := by
      rcases hw'' with rfl | ⟨hcan, rfl⟩
      · exact ⟨hinv, rfl⟩
      · exact ⟨hinv.markClaimed hcan, rfl⟩
    have hidle'' : NoCall i w'' := hidle.apart (apart_of_calls hsame.2 i)
    refine ⟨hsame.1, fun j _ => apart_of_calls hsame.2 j, fun a ha => ?_, fun _ _ => hidle''⟩
    cases a with
    | true => exact absurd ha hne
    | false => exact hidle''

theorem sound_findRefunds (id p : ObjectId) (hw : Mine i id .looking w) :
    (callsContract maxGatewayAttempts).Sound i
      (fun refunds w => match existingRefund id refunds with
        | some _ => NoCall i w
        | none => Mine i id .clear w)
      (fun _ => NoCall i) (findRefunds p) w := by
  refine Sound.perform (fun w' hrely hinv outcome hmay r w'' hstep => ?_)
  have hmine : Mine i id .looking w' := hw.apart hrely
  obtain ⟨c, hc, hcase⟩ := performOp_findRefunds hstep
  obtain ⟨hmem, htask⟩ := mem_of_callOf hc
  obtain ⟨hid, -⟩ := hmine c hmem htask
  subst hid
  rcases hcase with ⟨ids, rfl, rfl, ⟨hfound, rfl⟩ | ⟨hnone, rfl⟩⟩ | ⟨e, rfl, rfl⟩
  · refine ⟨hinv.hangUp i, fun j _ => apart_hangUp i j w', fun a ha => ?_, fun e he => ?_⟩
    · cases ha
      obtain ⟨r, hr⟩ := ne_none_iff_exists'.mp hfound
      rw [hr]
      exact noCall_hangUp i w'
    · cases he
  · refine ⟨hinv.lookClear hc hmine hmay.1 (hmay.2 c hmem htask) hnone,
      fun j hj => apart_advanceCall hj w' .clear, fun a ha => ?_, fun e he => ?_⟩
    · cases ha
      rw [hnone]
      intro c' hc' htask'
      obtain ⟨c₀, hc₀, rfl⟩ := mem_map.mp hc'
      by_cases hi : c₀.task = i
      · rw [if_pos hi]
        exact ⟨(hmine c₀ hc₀ hi).1, rfl⟩
      · rw [if_neg hi] at htask'
        exact absurd htask' hi
    · cases he
  · refine ⟨hinv.hangUp i, fun j _ => apart_hangUp i j w', fun a ha => ?_,
      fun _ _ => noCall_hangUp i w'⟩
    cases ha

theorem sound_refundPayment (p : ObjectId) (allocation : Allocation)
    (hw : Mine i allocation.id .clear w) :
    (callsContract maxGatewayAttempts).Leaving i (NoCall i) (refundPayment p allocation) w := by
  have hsend : (callsContract maxGatewayAttempts).Sound i (fun _ _ => True) (fun _ => NoCall i)
      (sendRefund p allocation) w := by
    refine Sound.perform (fun w' hrely hinv outcome _ r w'' hstep => ?_)
    obtain ⟨c, hc, ⟨status, refund, rfl, hsent⟩ | ⟨e, rfl, rfl⟩⟩ := performOp_sendRefund hstep
    · obtain rfl : w'' = (w'.acceptRefund i p allocation status).2 := congrArg Prod.snd hsent
      refine ⟨hinv.accept hc (hw.apart hrely), fun j hj => apart_advanceCall hj w' .accepted,
        fun _ _ => trivial, fun e he => ?_⟩
      cases he
    · refine ⟨hinv.hangUp i, fun j _ => apart_hangUp i j w', fun a ha => ?_,
        fun _ _ => noCall_hangUp i w'⟩
      cases ha
  have hawait : ∀ w, (callsContract maxGatewayAttempts).Leaving i (NoCall i) awaitRefund w := by
    intro w
    refine Sound.perform (fun w' hrely hinv outcome _ r w'' hstep => ?_)
    obtain ⟨-, rfl⟩ := performOp_awaitRefund hstep
    exact ⟨hinv.hangUp i, fun j _ => apart_hangUp i j w', fun _ _ => noCall_hangUp i w',
      fun _ _ => noCall_hangUp i w'⟩
  refine Sound.bind hsend (fun refund w _ => ?_)
  exact Sound.bind (hawait w) (fun _ _ hw => hw)

theorem sound_claimAndRefund (order : Order) (allocation : Allocation) (p : ObjectId)
    (hw : NoCall i w) :
    (callsContract maxGatewayAttempts).Leaving i (NoCall i)
      (claimAndRefund order allocation p) w := by
  refine Sound.bind (sound_claimAllocation allocation.id hw) (fun claimed w hw => ?_)
  cases claimed with
  | false => exact hw
  | true =>
    have hfind : (callsContract maxGatewayAttempts).Leaving i (NoCall i) (findOrRefund p allocation) w := by
      refine Sound.bind
        (Sound.tryCatch (sound_findRefunds allocation.id p hw) (fun e w hw => ?_))
        (fun refunds w hw => ?_)
      · split
        · exact hw
        · exact hw
      · split
        next r hr =>
          rw [hr] at hw
          exact hw
        next hr =>
          rw [hr] at hw
          exact sound_refundPayment p allocation hw
    refine Sound.tryCatch
      (Sound.bind hfind (fun result w hw => ?_)) (fun e w hw => ?_)
    · refine sound_offGateway
        (All.bind (All.perform (offGateway_db _)) (fun _ => ?_)) hw
      exact All.ite (All.perform (offGateway_db _)) All.ret
    · refine sound_offGateway
        (All.bind (All.perform (offGateway_db _)) (fun _ => ?_)) hw
      exact All.ite All.ret All.throw

theorem handles_calls :
    Handles (callsContract maxGatewayAttempts) i (NoCall i) (fun _ _ => True) where
  stable := fun _ _ hrely hidle => NoCall.apart hidle hrely
  known := fun _ _ _ _ _ _ => trivial
  read := fun _ _ _ _ => trivial
  routine := fun op hop w hinv hidle outcome hmay r w' hstep => by
    obtain ⟨hinv', hcalls⟩ := calls_offGateway (offGateway_of_routine hop) hinv hmay.2 hstep
    exact ⟨hinv', fun j _ => apart_of_calls hcalls j, hidle.apart (apart_of_calls hcalls i)⟩
  wallet := fun order allocation w hw _ _ => sound_offGateway (All.perform (offGateway_db _)) hw
  attempt := fun order allocation p w hw _ _ => sound_claimAndRefund order allocation p hw
  plan := fun record w hw => sound_offGateway (offGateway_planRefund record) hw
  late := fun w hw => sound_offGateway offGateway_addLateCaptureAllocation hw
  capture := fun p w _ hw _ => sound_offGateway (offGateway_captureOrderPayment p) hw

theorem lawful_calls : (callsContract maxGatewayAttempts).Lawful where
  refl := fun _ _ _ hc _ => hc
  trans := fun _ _ _ _ h h' c hc hi => h c (h' c hc hi) hi
  idle := fun _ _ _ hrely hidle => NoCall.apart hidle hrely
  outside := fun e w w' hinv hmay hstep => by
    cases e with
    | elsewhere db =>
      simp only [engine, outside] at hstep
      split at hstep
      · cases hstep
        exact ⟨CallsInv.of_held hinv rfl (fun _ _ hheld => hheld.of_allocation? rfl),
          apart_of_calls rfl⟩
      · cases hstep
    | inspected =>
      cases hstep
      exact ⟨CallsInv.of_held hinv rfl (fun _ _ hheld => hheld.of_allocation? rfl),
        apart_of_calls rfl⟩
    | settled id successful =>
      cases hstep
      exact ⟨CallsInv.settle hinv id _, apart_of_calls rfl⟩
    | tick later =>
      cases hstep
      have h : CallsInv w := hinv
      exact ⟨⟨fun c hc => (h.held c hc).of_allocation? rfl, hmay, h.one, h.tasks, h.accepted,
        h.clear, h.single⟩, apart_of_calls rfl⟩
    | crash task =>
      cases hstep
      exact ⟨CallsInv.hangUp hinv task, fun j => apart_hangUp task j w⟩
  entry := fun k i w hinv hidle hstart => handles_calls.entry k hinv hidle hstart

end Programs

/-! ## One live refund -/

/-- The gateway holds at most one refund of each allocation that has not failed. -/
def OneLiveRefund (w : World) : Prop :=
  ∀ r ∈ w.gatewayRefunds.rows, ∀ r' ∈ w.gatewayRefunds.rows, r.live = true → r'.live = true →
    r.allocationId = r'.allocationId → r = r'

instance : DecidablePred OneLiveRefund := fun w =>
  inferInstanceAs (Decidable (∀ r ∈ w.gatewayRefunds.rows, ∀ r' ∈ w.gatewayRefunds.rows, _))

/-- Along every run in which provider calls return in time, looks report what has returned
and no step disturbs an attempt under way, each allocation has at most one live refund. -/
theorem one_live_refund (maxGatewayAttempts : ℕ) {w : World} (hcalls : w.gatewayCalls = [])
    (hrefunds : w.gatewayRefunds.rows = []) (actions : List (Action Outcome Event Entry))
    (htime : Guarded (engine maxGatewayAttempts).step (OnEvents RepliesInTime) ⟨w, []⟩ actions)
    (hreports : Guarded (engine maxGatewayAttempts).step (OnOps ReportsReturned) ⟨w, []⟩ actions)
    (hspares : Guarded (engine maxGatewayAttempts).step (OnOps SparesCalls) ⟨w, []⟩ actions) :
    Along (engine maxGatewayAttempts).step (fun p => OneLiveRefund p.shared) ⟨w, []⟩ actions := by
  have hinv : CallsInv w := by
    constructor <;> simp [hcalls, hrefunds]
  have hidle : ∀ i, NoCall i w := by
    intro i
    simp [NoCall, hcalls]
  have hmeets : Guarded (engine maxGatewayAttempts).step
      (callsContract maxGatewayAttempts).Meets ⟨w, []⟩ actions :=
    Contract.guarded_meets htime ((hreports.and hspares).mono (fun p a h => h.1.and h.2))
  exact (lawful_calls.along (Contract.holds_start hinv hidle) hmeets).mono (fun p hp => hp.inv.single)

/-- The admin's policy sends gateway money back to where it came from. -/
def toOriginalSource : CancellationPolicy := { onlineRefundDestination := .originalSource }

/-- The next `n` operations of a task go through. -/
def goesThrough (task n : ℕ) : List (Action Outcome Event Entry) :=
  replicate n (.run task .done)

/-- A worker plans the refund of an order and refunds it at the gateway; the gateway
accepts, the worker waits for the answer and another one looks in at the same time. -/
def refundedOnce : List (Action Outcome Event Entry) :=
  [.start .processCancellationRefund, .start .processCancellationRefund] ++
    goesThrough 0 1 ++ [.run 0 (.policy toOriginalSource)] ++ goesThrough 0 7 ++
    [.run 0 (.listed []), .run 0 (.accepted .processing)] ++ goesThrough 1 4 ++ [.outside (.tick 1000)] ++
    goesThrough 0 4

theorem one_live_refund_refundedOnce :
    Along (engine 5).step (fun p => OneLiveRefund p.shared) ⟨paidOnlineWorld, []⟩
      refundedOnce :=
  one_live_refund 5 rfl rfl refundedOnce (by decide +kernel) (by decide +kernel) (by decide +kernel)

/-- A gateway attempt of a worker that fails before it has asked for a refund. -/
def failedAttempt (task : ℕ) : List (Action Outcome Event Entry) :=
  .start .processCancellationRefund :: goesThrough task 4 ++
    [.run task (.refused { message := "gateway is down" })] ++ goesThrough task 2

/-- Four attempts fail; the fifth is under way, its refund is accepted and its answer still
to come, when a worker finds the retries exhausted and an admin resets the refund. -/
def cappedWhileInFlight : List (Action Outcome Event Entry) :=
  [.start .processCancellationRefund] ++ goesThrough 0 1 ++ [.run 0 (.policy toOriginalSource)] ++
    goesThrough 0 7 ++ [.run 0 (.refused { message := "gateway is down" })] ++ goesThrough 0 3 ++
    failedAttempt 1 ++ failedAttempt 2 ++ failedAttempt 3 ++
    [.start .processCancellationRefund] ++ goesThrough 4 4 ++
    [.run 4 (.listed []), .run 4 (.accepted .processing)] ++
    [.start .processCancellationRefund] ++ goesThrough 5 5 ++
    [.start .resetFailedRefund] ++ goesThrough 6 6 ++
    [.run 6 (.listed []), .run 6 (.accepted .processing)]

/-- Then the gateway holds two live refunds of one allocation, although every call returns
in time and every look reports what has returned. -/
theorem two_live_refunds :
    Guarded (engine 5).step (OnEvents RepliesInTime) ⟨paidOnlineWorld, []⟩
        cappedWhileInFlight ∧
      Guarded (engine 5).step (OnOps ReportsReturned) ⟨paidOnlineWorld, []⟩
        cappedWhileInFlight ∧
      ¬ OneLiveRefund (exec (engine 5).step ⟨paidOnlineWorld, []⟩ cappedWhileInFlight).shared :=
  ⟨by decide +kernel, by decide +kernel, by decide +kernel⟩

end DiscountBazar.Cancellation
