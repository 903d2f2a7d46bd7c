/-
Competing events on one order have one winner.

Each of the ten steps sends an update with a filter of its own. What makes them exclude each
other is one invariant: the marks of the order (the legacy status, the pickup, the delivery, the
OTP) say the same as its workflow status. From it every filter, whichever marks it looks at,
comes down to a list of workflow states.
-/
import DiscountBazar.Workflow.Handlers
import DiscountBazar.Finance.Settlement

namespace DiscountBazar.Workflow

open Finance Cancellation Tasks Runs
open Contract (Sound)
open Prog (perform All)
open Option Update

/-! ## The invariant -/

/-- The order is in a state of the workflow, and its marks agree with it. -/
structure InState (order : WorkflowOrder) (ws : WorkflowStatus) : Prop where
  v2 : 2 ≤ order.workflowVersion
  workflow : order.workflowStatus = some ws
  status : order.status = legacyStatusFromWorkflow ws
  pickedUp : order.pickupConfirmedAt.isSome = true →
    ws = .outForDelivery ∨ ws = .delivered ∨ ws = .cancelled
  confirmed : ws = .outForDelivery ∨ ws = .delivered → order.pickupConfirmedAt.isSome = true
  delivered : order.deliveredAt.isSome = true ↔ ws = .delivered
  validated : order.otpValidatedAt.isSome = true ↔ ws = .delivered

def Consistent (order : WorkflowOrder) : Prop := ∃ ws, InState order ws

variable {order : WorkflowOrder}

theorem Placed.consistent (h : Placed order) : Consistent order := by
  obtain hws | hws := h.workflow
  · exact ⟨.created, h.v2, hws, h.status, by simp [h.pickup], by simp, by simp [h.delivered],
      by simp [h.validated]⟩
  · exact ⟨.sellerPending, h.v2, hws, h.status, by simp [h.pickup], by simp, by simp [h.delivered],
      by simp [h.validated]⟩

/-! ## The properties -/

/-- What no step undoes: the end of an order, and its rider. -/
structure Moves (order order' : WorkflowOrder) : Prop where
  cancelled : order.workflowStatus = some .cancelled → order'.workflowStatus = some .cancelled
  delivered : order.workflowStatus = some .delivered → order'.workflowStatus = some .delivered
  rider : ∀ riderId, order.deliveryBoy = some riderId → order'.deliveryBoy = some riderId

theorem Moves.refl (order : WorkflowOrder) : Moves order order :=
  ⟨fun h => h, fun h => h, fun _ h => h⟩

theorem Moves.trans {a b c : WorkflowOrder} (hab : Moves a b) (hbc : Moves b c) : Moves a c where
  cancelled := fun h => hbc.cancelled (hab.cancelled h)
  delivered := fun h => hbc.delivered (hab.delivered h)
  rider := fun riderId h => hbc.rider riderId (hab.rider riderId h)

/-- An order is not both cancelled and delivered, whichever marks one goes by, and is picked up
before it is out or delivered. -/
structure OneOutcome (order : WorkflowOrder) : Prop where
  exclusive : ¬ ((order.workflowStatus = some .cancelled ∨ order.status = .cancelled) ∧
    (order.workflowStatus = some .delivered ∨ order.status = .delivered ∨
      order.deliveredAt.isSome = true))
  pickedUp : order.workflowStatus = some .outForDelivery ∨ order.workflowStatus = some .delivered ∨
    order.deliveredAt.isSome = true → order.pickupConfirmedAt.isSome = true

def Update.sources : Update → List WorkflowStatus
  | .sellerAccept _ _ _ => [.created, .sellerPending]
  | .sellerReject _ _ | .sellerTimeout => [.sellerPending]
  | .extendSearch _ _ | .deliveryTimeout | .deliveryAccept _ _ => [.deliverySearch]
  | .arrivedAtStore _ _ => [.deliveryAssigned]
  | .confirmPickup _ _ => [.deliveryAssigned, .pickupReady]
  | .deliver _ _ _ | .cancelAfterPickup _ _ _ _ => [.outForDelivery]
  | .cancelDirectly _ _ _ _ _ _ =>
    [.created, .sellerPending, .sellerAccepted, .deliverySearch, .deliveryAssigned, .pickupReady]
  | .sellerPending _ | .paymentTimeout => [.created]
  | .markReady _ | .markPacked => sellerReadyAllowed

/-- The states a call writes the order in: the settlement after a delivery finds it delivered. -/
def Kind.sources : Kind → List WorkflowStatus
  | .findOneAndUpdate update => update.sources
  | .settle _ _ => [.delivered]
  | _ => []

/-- A call that takes effect changes nothing of the order, or finds it in a state it may be in. -/
def Applies (kind : Kind) (c : Choice) (s : OrderDesk) : Prop :=
  c.outcome.takesEffect = true →
    (effect c kind s).2.order = s.order ∨ ∃ ws ∈ kind.sources, s.order.workflowStatus = some ws

/-! ## Updates -/

section Updates

variable {order : WorkflowOrder} {ws : WorkflowStatus} {update : Update}

theorem InState.oneOutcome (h : InState order ws) : OneOutcome order where
  exclusive := by
    rintro ⟨hcancelled, hdelivered⟩
    rw [h.workflow, h.status] at hcancelled hdelivered
    have hws : ws = .delivered := by
      cases ws <;> simp_all [legacyStatusFromWorkflow, h.delivered]
    subst hws
    simp [legacyStatusFromWorkflow] at hcancelled
  pickedUp := by
    intro hout
    rw [h.workflow, h.delivered] at hout
    apply h.confirmed
    simpa using hout

theorem pickedUpOrderFilter_state (h : InState order ws) (hfilter : pickedUpOrderFilter order = true) :
    ws = .outForDelivery := by
  unfold pickedUpOrderFilter at hfilter
  rw [h.workflow, h.status] at hfilter
  have hpicked := h.pickedUp
  simp only [Bool.and_eq_true, Bool.or_eq_true, decide_eq_true_eq] at hfilter
  obtain ⟨⟨-, hopen⟩, hmark⟩ := hfilter
  cases ws <;> simp_all [legacyStatusFromWorkflow]

theorem directFilter_state {customer : Option ObjectId} {clauses : List StateClause}
    (h : InState order ws) (hfilter : directFilter order.toOrderDocument customer clauses = true) :
    ws ≠ .outForDelivery ∧ ws ≠ .delivered ∧ ws ≠ .cancelled := by
  unfold directFilter at hfilter
  rw [h.status] at hfilter
  simp only [Bool.and_eq_true, decide_eq_true_eq] at hfilter
  obtain ⟨⟨-, hopen⟩, -⟩ := hfilter
  cases ws <;> simp_all [legacyStatusFromWorkflow]

theorem filter_sources (h : InState order ws) (hfilter : update.filter order = true) :
    ws ∈ update.sources := by
  have hworkflow := h.workflow
  have hstatus := h.status
  cases update with
  | cancelDirectly workflowVersion customer clauses cancelledBy reason now =>
    have hstate := directFilter_state h hfilter
    cases ws <;> simp_all [sources]
  | cancelAfterPickup workflowVersion cancelledBy reason now =>
    simp [sources, pickedUpOrderFilter_state h hfilter]
  | deliver deliveryId isV2Out now =>
    simp only [filter, Bool.and_eq_true] at hfilter
    obtain ⟨hout, -⟩ := hfilter
    cases isV2Out <;> cases ws <;> simp_all [sources, legacyStatusFromWorkflow]
  | deliveryAccept deliveryId now =>
    have hv2 : isV2 order = true := decide_eq_true h.v2
    simp_all [filter, sources]
  | sellerAccept sellerId now deliveryMs =>
    simp only [filter, Bool.and_eq_true, decide_eq_true_eq] at hfilter
    obtain ⟨⟨-, hmem⟩, -⟩ := hfilter
    cases ws <;> simp_all [sources]
  | markPacked =>
    simp only [filter, decide_eq_true_eq] at hfilter
    cases ws <;> simp_all [sources, legacyStatusFromWorkflow, sellerReadyAllowed]
  | _ => simp_all [filter, sources]

/-- An update a step sends on an order of the newer workflow. -/
def Update.Fine : Update → Prop
  | .cancelDirectly workflowVersion _ _ _ _ _ | .cancelAfterPickup workflowVersion _ _ _ =>
    2 ≤ workflowVersion
  | .deliver _ isV2Out _ => isV2Out = true
  | .sellerPending _ | .paymentTimeout | .markReady _ | .markPacked => False
  | _ => True

/-- The state an update leads to, if it leads to another. -/
def Update.target : Update → Option WorkflowStatus
  | .sellerAccept _ _ _ => some .deliverySearch
  | .sellerPending _ => some .sellerPending
  | .deliveryAccept _ _ => some .deliveryAssigned
  | .arrivedAtStore _ _ => some .pickupReady
  | .confirmPickup _ _ => some .outForDelivery
  | .deliver _ isV2Out _ => if isV2Out then some .delivered else none
  | .extendSearch _ _ | .markReady _ | .markPacked => none
  | .cancelDirectly workflowVersion _ _ _ _ _ | .cancelAfterPickup workflowVersion _ _ _ =>
    if 2 ≤ workflowVersion then some .cancelled else none
  | .sellerReject _ _ | .sellerTimeout | .deliveryTimeout | .paymentTimeout => some .cancelled

theorem set_workflowStatus (order : WorkflowOrder) (update : Update) :
    (update.set order).workflowStatus = update.target.or order.workflowStatus := by
  cases update with
  | deliver deliveryId isV2Out now => cases isV2Out <;> rfl
  | cancelDirectly | cancelAfterPickup =>
    unfold Update.set Update.target cancelledOrderSet
    dsimp only
    split <;> rfl
  | _ => rfl

theorem InState.move {order' : WorkflowOrder} {ws' : WorkflowStatus} (h : InState order ws)
    (hws : ws ≠ .outForDelivery ∧ ws ≠ .delivered ∧ ws ≠ .cancelled)
    (hws' : ws' ≠ .outForDelivery ∧ ws' ≠ .delivered)
    (hversion : order'.workflowVersion = order.workflowVersion)
    (hworkflow : order'.workflowStatus = some ws')
    (hstatus : order'.status = legacyStatusFromWorkflow ws')
    (hpickup : order'.pickupConfirmedAt = order.pickupConfirmedAt)
    (hdelivered : order'.deliveredAt = order.deliveredAt)
    (hvalidated : order'.otpValidatedAt = order.otpValidatedAt) : InState order' ws' where
  v2 := hversion ▸ h.v2
  workflow := hworkflow
  status := hstatus
  pickedUp := by
    rw [hpickup]
    intro hmark
    have := h.pickedUp hmark
    simp_all
  confirmed := by simp [hws']
  delivered := by simp [hdelivered, h.delivered, hws, hws']
  validated := by simp [hvalidated, h.validated, hws, hws']

theorem set_inState (h : InState order ws) (hfine : update.Fine)
    (hfilter : update.filter order = true) : InState (update.set order) (update.target.getD ws) := by
  have hsource := filter_sources h hfilter
  cases update with
  | sellerPending | paymentTimeout | markReady | markPacked => cases hfine
  | extendSearch expiresAt attempt =>
    exact ⟨h.v2, h.workflow, h.status, h.pickedUp, h.confirmed, h.delivered, h.validated⟩
  | confirmPickup deliveryId now =>
    have hws : ws ≠ .delivered := by
      rintro rfl
      simp [sources] at hsource
    exact ⟨h.v2, rfl, rfl, fun _ => .inl rfl, fun _ => rfl,
      by simp [Update.set, WorkflowOrder.withStatus, Update.target, h.delivered, hws],
      by simp [Update.set, WorkflowOrder.withStatus, Update.target, h.validated, hws]⟩
  | deliver deliveryId isV2Out now =>
    cases hfine
    cases List.mem_singleton.mp hsource
    exact ⟨h.v2, rfl, rfl, fun _ => .inr (.inl rfl), fun _ => h.confirmed (.inl rfl),
      ⟨fun _ => rfl, fun _ => rfl⟩, ⟨fun _ => rfl, fun _ => rfl⟩⟩
  | cancelAfterPickup workflowVersion cancelledBy reason now =>
    cases List.mem_singleton.mp hsource
    have hver : 2 ≤ workflowVersion := hfine
    have htarget : (cancelAfterPickup workflowVersion cancelledBy reason now).target.getD
        .outForDelivery = .cancelled := by
      rw [target, if_pos hver]
      rfl
    rw [htarget]
    exact ⟨h.v2, by simp [Update.set, cancelledOrderSet, hver], rfl, fun _ => .inr (.inr rfl),
      by simp, by simp [Update.set, cancelledOrderSet, h.delivered],
      by simp [Update.set, cancelledOrderSet, h.validated]⟩
  | cancelDirectly workflowVersion customer clauses cancelledBy reason now =>
    have hver : 2 ≤ workflowVersion := hfine
    have htarget : (cancelDirectly workflowVersion customer clauses cancelledBy reason
        now).target.getD ws = .cancelled := by
      rw [target, if_pos hver]
      rfl
    rw [htarget]
    refine h.move (directFilter_state h hfilter) (by simp) rfl ?_ rfl rfl rfl rfl
    simp [Update.set, cancelledOrderSet, hver]
  | _ =>
    refine h.move ?_ ?_ rfl rfl rfl rfl rfl rfl
    · cases ws <;> simp_all [sources]
    · simp [target]

theorem set_moves (h : InState order ws) (hfine : update.Fine)
    (hfilter : update.filter order = true) : Moves order (update.set order) := by
  have hsource := filter_sources h hfilter
  have hopen : ws ≠ .cancelled ∧ ws ≠ .delivered := by
    cases update <;> cases ws <;> simp_all [sources, sellerReadyAllowed]
  refine ⟨fun hws => ?_, fun hws => ?_, fun riderId hrider => ?_⟩
  · exact absurd (some.inj (h.workflow.symm.trans hws)) hopen.1
  · exact absurd (some.inj (h.workflow.symm.trans hws)) hopen.2
  · cases update with
    | deliveryAccept deliveryId now =>
      rw [filter, hrider] at hfilter
      simp at hfilter
    | _ => exact hrider

end Updates

/-! ## Calls -/

/-- A call that keeps the invariant whatever the task knows. -/
def Fine : Kind → Prop
  | .findOneAndUpdate update => update.Fine
  | .settle _ _ | .saveOrder _ _ | .capture | .cancelUnpaid _ => False
  | _ => True

theorem effect_fine {kind : Kind} (hkind : Fine kind) (c : Choice) {s : OrderDesk}
    (hs : Consistent s.order) :
    Consistent (effect c kind s).2.order ∧ Moves s.order (effect c kind s).2.order := by
  cases kind with
  | findOneAndUpdate update =>
    obtain ⟨ws, h⟩ := hs
    rw [effect_update]
    by_cases hfilter : update.filter s.order = true
    · rw [if_pos hfilter]
      exact ⟨⟨_, set_inState h hkind hfilter⟩, set_moves h hkind hfilter⟩
    · rw [if_neg hfilter]
      exact ⟨⟨ws, h⟩, Moves.refl _⟩
  | consumeOtp index now =>
    unfold effect
    dsimp only
    split
    · exact ⟨hs, Moves.refl _⟩
    · exact ⟨hs, Moves.refl _⟩
  | settle | saveOrder | capture | cancelUnpaid => cases hkind
  | _ => exact ⟨hs, Moves.refl _⟩

theorem settled_inState (h : InState order .delivered) (env : Env) (now : Date) :
    InState (settled env now order).2 .delivered ∧ Moves order (settled env now order).2 := by
  have hkeep : InState order .delivered ∧ Moves order order := ⟨h, Moves.refl _⟩
  unfold settled
  dsimp only
  split
  · exact hkeep
  split
  · exact hkeep
  split
  · exact hkeep
  · refine ⟨⟨?_, ?_, ?_, h.pickedUp, h.confirmed, ?_, h.validated⟩, ⟨?_, ?_, ?_⟩⟩
    · simpa using h.v2
    · simp [h.v2]
    · simp [legacyStatusFromWorkflow]
    · simp
    · simp [h.workflow]
    · simp [h.v2]
    · simp

theorem settled_of_ne {env : Env} {now : Date} (h : (settled env now order).2 ≠ order) :
    (settled env now order).2.status = .delivered ∧
      (settled env now order).2.otpValidatedAt = order.otpValidatedAt := by
  unfold settled at h ⊢
  dsimp only at h ⊢
  split at h
  · exact absurd rfl h
  next hcancelled =>
    rw [if_neg hcancelled]
    split at h
    · exact absurd rfl h
    next hcapture =>
      rw [if_neg hcapture]
      split at h
      · exact absurd rfl h
      next hsettled =>
        rw [if_neg hsettled]
        exact ⟨markDelivered_status env now order.toOrder, rfl⟩

theorem happens_consistent (event : Event) {s : OrderDesk} (hs : Consistent s.order) :
    Consistent (happens event s).order ∧ Moves s.order (happens event s).order := by
  cases event with
  | otpSent codeHash expiresAt now => exact ⟨hs, Moves.refl _⟩
  | captured =>
    obtain ⟨ws, h⟩ := hs
    unfold happens captured
    dsimp only
    split
    · exact ⟨⟨ws, h⟩, Moves.refl _⟩
    · refine ⟨⟨ws, ?_⟩, ⟨fun h => h, fun h => h, fun _ h => h⟩⟩
      exact ⟨h.v2, h.workflow, h.status, h.pickedUp, h.confirmed, h.delivered, h.validated⟩
  | ready | skipped =>
    obtain ⟨ws, h⟩ := hs
    refine ⟨⟨ws, ?_⟩, ⟨fun h => h, fun h => h, fun _ h => h⟩⟩
    exact ⟨h.v2, h.workflow, h.status, h.pickedUp, h.confirmed, h.delivered, h.validated⟩

/-! ## Programs -/

section Programs

open Prog

theorem updateOr_fine {update : Update} {e : ServiceError} (h : update.Fine) :
    (updateOr update e).All Fine := by
  refine All.bind (All.perform h) fun found => ?_
  cases found with
  | some order => exact All.ret
  | none => exact All.throw

theorem deliveryAcceptAtomic_fine (deliveryId : ObjectId) (idempotent : Bool) (now : Date) :
    (deliveryAcceptAtomic deliveryId idempotent now).All Fine := by
  refine All.bind (All.ite (All.perform trivial) All.ret) fun duplicate => All.ite All.ret ?_
  refine All.bind (All.perform trivial) fun _ => All.bind (All.perform trivial) fun found => ?_
  cases found with
  | some order => exact All.ret
  | none =>
    refine All.bind (All.perform trivial) fun order => ?_
    unfold acceptanceRefused
    cases order.deliveryBoy with
    | some riderId => exact All.ite All.ret All.throw
    | none => exact All.ite All.throw (All.ite All.throw (All.ite All.throw All.throw))

theorem processSellerTimeoutJob_fine (now : Date) : (processSellerTimeoutJob now).All Fine :=
  All.bind (All.perform trivial) fun _ =>
    All.ite All.ret (All.ite All.ret (All.discard (All.perform trivial)))

theorem processDeliveryTimeoutJob_fine (timeouts : Timeouts) (attempt : ℕ) (now : Date) :
    (processDeliveryTimeoutJob timeouts attempt now).All Fine :=
  All.bind (All.perform trivial) fun _ => All.ite All.ret (All.ite All.ret
    (All.ite (All.discard (All.perform trivial)) (All.discard (All.perform trivial))))

theorem markArrivedAtStoreAtomic_fine (deliveryId : ObjectId) (now : Date) :
    (markArrivedAtStoreAtomic deliveryId now).All Fine := by
  refine All.bind (All.perform trivial) fun order => All.ite All.throw (All.ite All.throw ?_)
  exact All.bind (All.perform trivial) fun located => All.ite All.throw (updateOr_fine trivial)

theorem confirmPickupAtomic_fine (deliveryId : ObjectId) (now : Date) :
    (confirmPickupAtomic deliveryId now).All Fine := by
  refine All.bind (All.perform trivial) fun order => All.ite All.ret (All.ite All.throw ?_)
  exact All.bind (All.perform trivial) fun located => All.ite All.throw (updateOr_fine trivial)

theorem checkHandoffOtp_fine (hashCode : String → String) (code : String) (now : Date) :
    (checkHandoffOtp hashCode code now).All Fine := by
  refine All.bind (All.perform trivial) fun found => ?_
  match found with
  | none => exact All.throw
  | some (index, otp) =>
    refine All.ite All.throw (All.ite All.throw (All.ite All.throw (All.ite ?_ ?_)))
    · exact All.bind (All.perform trivial) fun _ => All.throw
    · exact All.bind (All.perform trivial) fun consumed => All.ite All.ret All.throw

theorem executeDirectCancellation_fine {order : WorkflowOrder} (h : 2 ≤ order.workflowVersion)
    (policy : CustomerPolicy) (ignorePolicy : Bool) (customer : Option ObjectId)
    (cancelledBy : CancelledBy) (reason : String) (now : Date) :
    (executeDirectCancellation order policy ignorePolicy customer cancelledBy reason now).All Fine := by
  refine All.ite All.throw (All.bind (All.perform h) fun found => ?_)
  cases found with
  | some order => exact All.ret
  | none =>
    refine All.bind (All.perform trivial) fun fresh => All.bind (All.perform trivial) fun record => ?_
    exact All.ite All.ret All.throw

theorem approvePostPickupCancellation_fine {order : WorkflowOrder} (h : 2 ≤ order.workflowVersion)
    (isRequest : Bool) (reason : String) (now : Date) :
    (approvePostPickupCancellation order isRequest reason now).All Fine :=
  updateOr_fine h

/-! The steps make no other writes than these. -/

def StepCall : Kind → Prop
  | .saveOrder _ _ | .capture | .cancelUnpaid _ => False
  | _ => True

theorem Fine.stepCall (kind : Kind) (h : Fine kind) : StepCall kind := by
  cases kind <;> trivial

theorem updateOr_calls (update : Update) (e : ServiceError) : (updateOr update e).All StepCall := by
  refine All.bind (All.perform trivial) fun found => ?_
  cases found with
  | some order => exact All.ret
  | none => exact All.throw

theorem executeDirectCancellation_calls (order : WorkflowOrder) (policy : CustomerPolicy)
    (ignorePolicy : Bool) (customer : Option ObjectId) (cancelledBy : CancelledBy) (reason : String)
    (now : Date) :
    (executeDirectCancellation order policy ignorePolicy customer cancelledBy reason now).All
      StepCall := by
  refine All.ite All.throw (All.bind (All.perform trivial) fun found => ?_)
  cases found with
  | some order => exact All.ret
  | none =>
    refine All.bind (All.perform trivial) fun fresh => All.bind (All.perform trivial) fun record => ?_
    exact All.ite All.ret All.throw

theorem takeStep_calls (hashCode : String → String) (env : Env) (timeouts : Timeouts) (step : Step)
    (now : Date) : (takeStep hashCode env timeouts now step).All StepCall := by
  cases step with
  | sellerAccept | sellerReject => exact updateOr_calls _ _
  | sellerTimeout => exact (processSellerTimeoutJob_fine now).mono Fine.stepCall
  | deliveryTimeout attempt =>
    exact (processDeliveryTimeoutJob_fine timeouts attempt now).mono Fine.stepCall
  | deliveryAccept deliveryId idempotent =>
    exact (deliveryAcceptAtomic_fine deliveryId idempotent now).mono Fine.stepCall
  | arrivedAtStore deliveryId =>
    exact (markArrivedAtStoreAtomic_fine deliveryId now).mono Fine.stepCall
  | confirmPickup deliveryId => exact (confirmPickupAtomic_fine deliveryId now).mono Fine.stepCall
  | verifyHandoff deliveryId code =>
    refine All.bind (All.perform trivial) fun order => All.ite All.throw (All.ite All.ret ?_)
    refine All.ite All.throw (All.bind ?_ fun _ => All.bind (updateOr_calls _ _) fun _ => ?_)
    · exact (checkHandoffOtp_fine hashCode code now).mono Fine.stepCall
    · exact All.tryCatch (All.perform trivial) fun _ => All.ret
  | customerCancel customerId reason =>
    refine All.bind (All.perform trivial) fun order => All.ite All.throw ?_
    refine All.bind (All.perform trivial) fun policy => All.bind (All.perform trivial) fun record => ?_
    exact All.ite All.ret (All.ite All.throw (executeDirectCancellation_calls _ _ _ _ _ _ _))
  | approveRequest reason =>
    refine All.bind (All.perform trivial) fun record => All.ite All.throw ?_
    refine All.bind (All.perform trivial) fun order => All.ite All.throw (All.ite All.throw ?_)
    exact updateOr_calls _ _
  | adminCancel reason =>
    refine All.ite All.throw (All.bind (All.perform trivial) fun order => ?_)
    refine All.bind (All.perform trivial) fun policy => All.bind (All.perform trivial) fun record => ?_
    refine All.ite All.throw (All.ite All.throw (All.ite All.throw (All.ite ?_ ?_)))
    · exact updateOr_calls _ _
    · exact executeDirectCancellation_calls _ _ _ _ _ _ _

end Programs

section Sound

variable {hashCode : String → String} {env : Env} {timeouts : Timeouts} {i : ℕ} {s : OrderDesk}

/-- Every task keeps the invariant, and moves the order as the others rely on. -/
def oneWinner (hashCode : String → String) (env : Env) (timeouts : Timeouts) :
    Contract (stepSystem hashCode env timeouts) where
  inv := fun s => Consistent s.order
  rely := fun _ s s' => Moves s.order s'.order

theorem call_sound {kind : Kind} {c : Choice} {s s' : OrderDesk} {r : Except ServiceError kind.Reply}
    (hs : Consistent s.order)
    (heffect : Consistent (effect c kind s).2.order ∧ Moves s.order (effect c kind s).2.order)
    (h : performOp i kind c s = some (r, s')) : Consistent s'.order ∧ Moves s.order s'.order := by
  obtain ⟨-, rfl⟩ | ⟨-, rfl, -⟩ := performOp_eq_some h
  · exact ⟨hs, Moves.refl _⟩
  · exact heffect

theorem fine_sound {α : Type} {p : M α} (hp : p.All Fine) :
    (oneWinner hashCode env timeouts).Keeps i p s := by
  refine Contract.sound_of_all (fun _ _ _ h => h) ?_ hp trivial
  intro kind hkind s hs _ c _ r s' hcall
  obtain ⟨hs', hmoves⟩ := call_sound (i := i) hs (effect_fine hkind c hs) hcall
  exact ⟨hs', fun _ _ => hmoves, trivial⟩

theorem read_sound {f : WorkflowOrder → M Unit}
    (hf : ∀ order s, 2 ≤ order.workflowVersion →
      (oneWinner hashCode env timeouts).Keeps i (f order) s) :
    (oneWinner hashCode env timeouts).Keeps i (perform Kind.findOrder >>= f) s := by
  have hread : (oneWinner hashCode env timeouts).Sound i
      (fun order _ => 2 ≤ order.workflowVersion) (fun _ _ => True) (perform Kind.findOrder) s := by
    refine Sound.perform fun s hrely hs c _ r s' hcall => ?_
    obtain ⟨⟨e, rfl⟩, rfl⟩ | ⟨-, rfl, hreply⟩ := performOp_eq_some (i := i) hcall
    · refine ⟨hs, fun _ _ => Moves.refl _, fun order h => ?_, fun _ _ => trivial⟩
      cases h
    · refine ⟨hs, fun _ _ => Moves.refl _, ?_, fun _ _ => trivial⟩
      rintro order rfl
      obtain hreply | ⟨e, hreply⟩ := hreply
      · cases hreply
        exact hs.choose_spec.v2
      · cases hreply
  exact Sound.bind hread hf

theorem deliver_sound (deliveryId : ObjectId) (now : Date) (e : ServiceError) :
    (oneWinner hashCode env timeouts).Sound i
      (fun _ s => s.order.workflowStatus = some .delivered) (fun _ _ => True)
      (updateOr (.deliver deliveryId true now) e) s := by
  have hupdate : (oneWinner hashCode env timeouts).Sound i
      (fun found s => found.isSome = true → s.order.workflowStatus = some .delivered)
      (fun _ _ => True) (perform (Kind.findOneAndUpdate (.deliver deliveryId true now))) s := by
    refine Sound.perform fun s hrely hs c _ r s' hcall => ?_
    have hfine : Fine (.findOneAndUpdate (.deliver deliveryId true now)) := rfl
    obtain ⟨hs', hmoves⟩ := call_sound (i := i) hs (effect_fine hfine c hs) hcall
    refine ⟨hs', fun _ _ => hmoves, ?_, fun _ _ => trivial⟩
    rintro found rfl hfound
    obtain ⟨⟨e, he⟩, -⟩ | ⟨-, rfl, hreply | ⟨e, hreply⟩⟩ := performOp_eq_some (i := i) hcall
    · cases he
    · rw [effect_update] at hreply ⊢
      split at hreply
      next hfilter =>
        rw [if_pos hfilter]
        rfl
      next =>
        cases hreply
        cases hfound
    · cases hreply
  refine Sound.bind hupdate fun found s hfound => ?_
  cases found with
  | some order => exact hfound rfl
  | none => trivial

theorem settle_sound (now : Date) (h : s.order.workflowStatus = some .delivered) :
    (oneWinner hashCode env timeouts).Keeps i (perform (Kind.settle env now)) s := by
  refine Sound.perform fun s' hrely hs' c _ r s'' hcall => ?_
  obtain ⟨ws, hws⟩ := hs'
  obtain rfl : ws = .delivered := some.inj (hws.workflow.symm.trans (hrely.delivered h))
  obtain ⟨hin, hmoves⟩ := settled_inState hws env now
  have heffect : Consistent (effect c (.settle env now) s').2.order ∧
      Moves s'.order (effect c (.settle env now) s').2.order := ⟨⟨_, hin⟩, hmoves⟩
  obtain ⟨hs'', hmoves⟩ := call_sound (i := i) ⟨_, hws⟩ heffect hcall
  exact ⟨hs'', fun _ _ => hmoves, fun _ _ => trivial, fun _ _ => trivial⟩

theorem verifyHandoff_sound (deliveryId : ObjectId) (code : String) (now : Date) :
    (oneWinner hashCode env timeouts).Keeps i
      (verifyHandoffOtpAndDeliver hashCode env deliveryId code now) s := by
  refine read_sound fun order s hv2 => Sound.ite (fun _ => trivial) fun _ => ?_
  refine Sound.ite (fun _ => trivial) fun _ => Sound.ite (fun _ => trivial) ?_
  intro hout
  -- an order of the newer workflow is not out by its legacy status alone
  have hv1 : isV2 order = true := decide_eq_true hv2
  have hisV2Out : decide (order.workflowStatus = some .outForDelivery) = true := by
    simpa [hv1] using hout
  rw [hisV2Out]
  refine Sound.bind (fine_sound (checkHandoffOtp_fine hashCode code now)) fun _ s _ => ?_
  refine Sound.bind (deliver_sound deliveryId now _) fun _ s hdelivered => ?_
  exact Sound.tryCatch (settle_sound now hdelivered) fun _ _ _ => trivial

theorem submitCustomerCancellation_sound (customerId : ObjectId) (reason : String) (now : Date) :
    (oneWinner hashCode env timeouts).Keeps i
      (submitCustomerCancellation customerId reason now) s := by
  refine read_sound fun order s hv2 => fine_sound (All.ite All.throw ?_)
  refine All.bind (All.perform trivial) fun policy => ?_
  refine All.bind (All.perform trivial) fun existing => ?_
  refine All.ite All.ret (All.ite All.throw ?_)
  exact executeDirectCancellation_fine hv2 policy false (some customerId) .customer reason now

theorem approveCancellationRequest_sound (reason : String) (now : Date) :
    (oneWinner hashCode env timeouts).Keeps i (approveCancellationRequest reason now) s := by
  have hrecord : (oneWinner hashCode env timeouts).Keeps i
      (perform Kind.findRecord) s := fine_sound (All.perform trivial)
  refine Sound.bind hrecord fun record s _ => ?_
  refine Sound.ite (fun _ => trivial) fun _ => read_sound fun order s hv2 => fine_sound ?_
  refine All.ite All.throw (All.ite All.throw ?_)
  exact approvePostPickupCancellation_fine hv2 true reason now

theorem adminCancelOrder_sound (reason : String) (now : Date) :
    (oneWinner hashCode env timeouts).Keeps i (adminCancelOrder reason now) s := by
  refine Sound.ite (fun _ => trivial) fun _ => read_sound fun order s hv2 => fine_sound ?_
  refine All.bind (All.perform trivial) fun policy => ?_
  refine All.bind (All.perform trivial) fun record => ?_
  refine All.ite All.throw (All.ite All.throw (All.ite All.throw ?_))
  refine All.ite ?_ ?_
  · exact approvePostPickupCancellation_fine hv2 _ reason now
  · exact executeDirectCancellation_fine hv2 policy true none .admin reason now

theorem takeStep_sound (step : Step) (now : Date) :
    (oneWinner hashCode env timeouts).Keeps i (takeStep hashCode env timeouts now step) s := by
  cases step with
  | sellerAccept | sellerReject => exact fine_sound (updateOr_fine trivial)
  | sellerTimeout => exact fine_sound (processSellerTimeoutJob_fine now)
  | deliveryTimeout attempt => exact fine_sound (processDeliveryTimeoutJob_fine timeouts attempt now)
  | deliveryAccept deliveryId idempotent =>
    exact fine_sound (deliveryAcceptAtomic_fine deliveryId idempotent now)
  | arrivedAtStore deliveryId => exact fine_sound (markArrivedAtStoreAtomic_fine deliveryId now)
  | confirmPickup deliveryId => exact fine_sound (confirmPickupAtomic_fine deliveryId now)
  | verifyHandoff deliveryId code => exact verifyHandoff_sound deliveryId code now
  | customerCancel customerId reason => exact submitCustomerCancellation_sound customerId reason now
  | approveRequest reason => exact approveCancellationRequest_sound reason now
  | adminCancel reason => exact adminCancelOrder_sound reason now

theorem oneWinner_lawful : (oneWinner hashCode env timeouts).Lawful where
  refl := fun _ s => Moves.refl s.order
  trans := fun _ _ _ _ h h' => h.trans h'
  idle := fun _ _ _ _ _ => trivial
  outside := by
    rintro event s s' hs - hevent
    obtain rfl := some.inj hevent
    obtain ⟨hs', hmoves⟩ := happens_consistent event hs
    exact ⟨hs', fun _ => hmoves⟩
  entry := fun (step, now) _ _ _ _ _ => takeStep_sound step now

theorem applies_of_consistent {kind : Kind} {c : Choice} (hkind : StepCall kind)
    (hs : Consistent s.order)
    (hs' : c.outcome.takesEffect = true → Consistent (effect c kind s).2.order) :
    Applies kind c s := by
  intro htakes
  specialize hs' htakes
  obtain ⟨ws, h⟩ := hs
  cases kind with
  | findOneAndUpdate update =>
    rw [effect_update]
    by_cases hfilter : update.filter s.order = true
    · exact .inr ⟨ws, filter_sources h hfilter, h.workflow⟩
    · rw [if_neg hfilter]
      exact .inl rfl
  | settle env now =>
    by_cases hsettled : (settled env now s.order).2 = s.order
    · exact .inl hsettled
    -- the OTP was validated before, so the order was delivered before
    · obtain ⟨ws', h'⟩ := hs'
      obtain ⟨hstatus, hotp⟩ := settled_of_ne hsettled
      have hws' : ws' = .delivered := by
        have := h'.status.symm.trans hstatus
        cases ws' <;> simp_all [legacyStatusFromWorkflow]
      have hvalidated := h'.validated.mpr hws'
      have hws : ws = .delivered := h.validated.mp (hotp ▸ hvalidated)
      exact .inr ⟨ws, List.mem_singleton.mpr hws, h.workflow⟩
  | consumeOtp index now =>
    unfold effect
    dsimp only
    split
    · exact .inl rfl
    · exact .inl rfl
  | saveOrder | capture | cancelUnpaid => cases hkind
  | _ => exact .inl rfl

variable {p : Pool Kind Kind.Reply ServiceError OrderDesk}

theorem meets_all (a : Action Choice Event (Step × Date)) :
    (oneWinner hashCode env timeouts).Meets p a := by
  cases a with
  | run i c => exact fun _ _ _ => trivial
  | outside | start => trivial

theorem step_applies (hp : (oneWinner hashCode env timeouts).Holds p) (hall : p.All StepCall)
    (a : Action Choice Event (Step × Date)) : OnOps (fun _ kind c s => Applies kind c s) p a := by
  cases a with
  | run i c =>
    intro kind next htask
    have hkind : StepCall kind := (hall _ (List.mem_of_getElem? htask)).1
    refine applies_of_consistent hkind hp.inv fun htakes => ?_
    obtain ⟨r, hcall⟩ :
        ∃ r, performOp i kind c p.shared = some (r, (effect c kind p.shared).2) :=
      performOp_takesEffect htakes i
    exact (hp.sound i _ htask p.shared (Moves.refl _) hp.inv c trivial r _ hcall).1
  | outside | start => trivial

end Sound

/-! ## Runs -/

section Runs

variable (hashCode : String → String) (env : Env) (timeouts : Timeouts) {order : WorkflowOrder}

/-- In every run of the steps on an order, each call that writes it finds it in a state the step
is allowed in; the order has one outcome; and its end and its rider stay. -/
theorem events_have_one_winner (h : Placed order) (otps : List HandoffOtp)
    (as : List (Action Choice Event (Step × Date))) :
    Guarded (stepSystem hashCode env timeouts).step (OnOps fun _ kind c s => Applies kind c s)
        ⟨{ order, otps }, []⟩ as ∧
      Along (stepSystem hashCode env timeouts).step (fun p => OneOutcome p.shared.order)
        ⟨{ order, otps }, []⟩ as ∧
      Steps (stepSystem hashCode env timeouts).step
        (fun p p' => Moves p.shared.order p'.shared.order) ⟨{ order, otps }, []⟩ as := by
  have hlaw : (oneWinner hashCode env timeouts).Lawful := oneWinner_lawful
  have hstart : (oneWinner hashCode env timeouts).Holds ⟨{ order, otps }, []⟩ :=
    Contract.holds_start h.consistent fun _ => trivial
  have hmeets : Guarded (stepSystem hashCode env timeouts).step
      (oneWinner hashCode env timeouts).Meets ⟨{ order, otps }, []⟩ as :=
    guarded_of_forall (fun _ a => meets_all a) _ as
  have hholds := hlaw.along hstart hmeets
  have hcalls : Along (stepSystem hashCode env timeouts).step (Pool.All StepCall)
      ⟨{ order, otps }, []⟩ as :=
    along_of_step (fun _ a hp => System.step_all (fun _ => takeStep_calls ..) a hp)
      Pool.all_nil as
  refine ⟨(hholds.and hcalls).guarded ?_ hmeets, hholds.mono ?_, ?_⟩
  · rintro p a ⟨hp, hall⟩ -
    exact step_applies hp hall a
  · intro p hp
    obtain ⟨ws, hws⟩ := hp.inv
    exact hws.oneOutcome
  · exact steps_of_guarded (fun _ _ hp ha => hlaw.step hp ha)
      (fun _ _ hp ha => hlaw.step_rely (fun _ _ _ hmoves => hmoves) hp ha) hstart hmeets

end Runs

def waitingOrder : WorkflowOrder where
  toOrder := { Order.placed 1 7 (some 3) none .cod (PaymentBreakdown.placed 50000 40000 3000 7000 0) with
    workflowStatus := some .sellerPending }

/-- The customer cancels while rider 4 accepts the order and picks it up. -/
def pickupRace : List (Action Choice Event (Step × Date)) :=
  [.start (.sellerAccept 3, 10), .start (.customerCancel 7 "too late", 20),
    .start (.deliveryAccept 4 false, 30), .start (.confirmPickup 4, 40),
    .run 0 {}, .run 1 {}, .run 1 {}, .run 1 {}, .run 2 {}, .run 2 {}, .run 3 {}, .run 3 {},
    .run 3 {}, .run 1 {}]

/-- The pickup wins. -/
theorem events_have_one_winner_pickup :
    (exec (stepSystem id {} {}).step ⟨{ order := waitingOrder }, []⟩
        pickupRace).shared.order.workflowStatus = some .outForDelivery ∧
      Guarded (stepSystem id {} {}).step (OnOps fun _ kind c s => Applies kind c s)
        ⟨{ order := waitingOrder }, []⟩ pickupRace ∧
      Along (stepSystem id {} {}).step (fun p => OneOutcome p.shared.order)
        ⟨{ order := waitingOrder }, []⟩ pickupRace ∧
      Steps (stepSystem id {} {}).step (fun p p' => Moves p.shared.order p'.shared.order)
        ⟨{ order := waitingOrder }, []⟩ pickupRace := by
  refine ⟨by decide, ?_⟩
  exact events_have_one_winner id {} {} ⟨by decide, .inr rfl, rfl, rfl, rfl, rfl, rfl⟩ [] pickupRace

end DiscountBazar.Workflow
