/-
Self-cancellation before pickup: what the preview offers and what the commit accepts.

The preview (`evaluateCancellationEligibility`) goes by the stage of the order; the commit
(`executeDirectCancellation`) goes by the stage and then by a database filter that says the
policy again over the raw fields. Both are functions of one order document here, so that they
can be compared. The notes a preview lists beside its message are left out.
-/
import DiscountBazar.Cancellation.Eligibility

namespace DiscountBazar.Cancellation

open Finance Option

/-! ## Documents -/

inductive OrderSource where
  | app | pos
  deriving DecidableEq

/-- The order with the marks a cancellation looks at; a mark that is not set is `none`. -/
structure OrderDocument extends Order where
  orderSource : OrderSource := .app
  sellerReadyAt : Option Date := none
  pickupConfirmedAt : Option Date := none

inductive CancellationStatus where
  | requested | underReview | approved | rejected | withdrawn | cancelled | transferred
  deriving DecidableEq

/-- `OPEN_REQUEST_STATUSES`. -/
def CancellationStatus.isOpen (status : CancellationStatus) : Bool :=
  decide (status = .requested ∨ status = .underReview)

inductive CancellationAction where
  | selfCancel | request | contactSupport | postDelivery | none
  deriving DecidableEq

/-- `selfCancelStages`: a normalized policy has a switch for each stage before pickup. -/
structure SelfCancelStages where
  awaitingPayment : Bool := true
  pendingAcceptance : Bool := true
  accepted : Bool := true
  packed : Bool := true
  riderAssigned : Bool := true
  riderAtStore : Bool := true

def SelfCancelStages.get (stages : SelfCancelStages) : CancellationStage → Bool
  | .awaitingPayment => stages.awaitingPayment
  | .pendingAcceptance => stages.pendingAcceptance
  | .accepted => stages.accepted
  | .packed => stages.packed
  | .riderAssigned => stages.riderAssigned
  | .riderAtStore => stages.riderAtStore
  | _ => false

structure CustomerPolicy extends CancellationPolicy where
  selfCancelEnabled : Bool := true
  selfCancelStages : SelfCancelStages := {}
  allowRequestAfterPickup : Bool := true
  allowWithdrawal : Bool := true

def CustomerPolicy.allows (policy : CustomerPolicy) (stage : CancellationStage) : Bool :=
  policy.selfCancelEnabled && policy.selfCancelStages.get stage

/-! ## The stage -/

def workflowFromLegacyStatus : LegacyStatus → WorkflowStatus
  | .pending => .sellerPending
  | .confirmed => .deliverySearch
  | .packed => .deliveryAssigned
  | .outForDelivery => .outForDelivery
  | .delivered => .delivered
  | .cancelled => .cancelled

def orderWorkflowStatus (order : OrderDocument) : WorkflowStatus :=
  if 2 ≤ order.workflowVersion then
    order.workflowStatus.getD (workflowFromLegacyStatus order.status)
  else workflowFromLegacyStatus order.status

def isPrePickupStage : CancellationStage → Bool
  | .awaitingPayment | .pendingAcceptance | .accepted | .packed | .riderAssigned
  | .riderAtStore => true
  | _ => false

/-- The stage of an order that is neither over nor picked up. -/
def stageOfWorkflow (ws : WorkflowStatus) (ready : Bool) : CancellationStage :=
  match ws with
  | .created => .awaitingPayment
  | .sellerPending => .pendingAcceptance
  | .sellerAccepted | .deliverySearch => if ready then .packed else .accepted
  | .deliveryAssigned => .riderAssigned
  | .pickupReady => .riderAtStore
  | _ => .notApplicable

def resolveCancellationStage (order : OrderDocument) : CancellationStage :=
  let ws := orderWorkflowStatus order
  if order.orderSource = .pos then .notApplicable
  else if order.status = .cancelled ∨ ws = .cancelled then .cancelled
  else if order.status = .delivered ∨ ws = .delivered ∨ order.deliveredAt.isSome then .delivered
  -- the parcel is with the rider from here on, whatever the status label says
  else if order.pickupConfirmedAt.isSome ∨ ws = .outForDelivery ∨ order.status = .outForDelivery then
    .pickedUp
  else stageOfWorkflow ws order.sellerReadyAt.isSome

/-! ## The preview -/

/-- What `evaluateCancellationEligibility` returns. -/
structure CancellationEligibility where
  stage : CancellationStage
  action : CancellationAction := .none
  canSelfCancel : Bool := false
  canRequest : Bool := false
  canWithdraw : Bool := false
  message : String := ""
  refundPreview : Option RefundPlan := none

/-- The refund a preview shows: a payment that is not confirmed yet counts as captured. -/
def previewRefund (order : OrderDocument) (policy : CustomerPolicy) (stage : CancellationStage) :
    RefundPlan :=
  let financeFlags := { order.financeFlags with onlinePaymentCaptured := true }
  let previewed :=
    if isGatewayPaymentUnconfirmed order.toOrder then { order.toOrder with financeFlags }
    else order.toOrder
  computeRefundPlan previewed policy.toCancellationPolicy (some stage) false

/-- `evaluateCancellationEligibility`; `record` is the status of the order's record. -/
def evaluateCancellationEligibility (order : OrderDocument) (policy : CustomerPolicy)
    (record : Option CancellationStatus) : CancellationEligibility :=
  let stage := resolveCancellationStage order
  if record.any CancellationStatus.isOpen then
    { stage
      message := "Your cancellation request is being reviewed by our support team."
      canWithdraw := policy.allowWithdrawal && decide (stage = .pickedUp) }
  else if stage = .cancelled then { stage, message := "This order has been cancelled." }
  else if stage = .delivered ∨ order.returnStatus ≠ .none then
    { stage
      action := .postDelivery
      message := "This order has been delivered. For a problem with it, use Return, Exchange, " ++
        "Missing Item, Damaged Product or Refund Request from Help." }
  else if stage = .notApplicable then
    { stage, message := "This order cannot be cancelled online." }
  else if record = some .transferred then
    { stage
      action := .postDelivery
      message := "Your request was moved to our returns and disputes team." }
  else
    let withPreview : CancellationEligibility :=
      { stage, refundPreview := some (previewRefund order policy stage) }
    if stage = .pickedUp then
      if record = some .rejected then
        { withPreview with
          action := .contactSupport
          message := "Your cancellation request was not approved. Please contact support if you " ++
            "still need help." }
      else if policy.allowRequestAfterPickup = false then
        { withPreview with
          action := .contactSupport
          message := "Your order has been picked up and can no longer be cancelled online. " ++
            "Please contact support." }
      else
        { withPreview with
          action := .request
          canRequest := true
          message := "Your order has been picked up. You can request a cancellation for review." }
    else if policy.allows stage then
      { withPreview with
        action := .selfCancel
        canSelfCancel := true
        message := "You can cancel this order." }
    else
      { withPreview with
        action := .contactSupport
        message := "This order can no longer be cancelled online at its current stage. " ++
          "Please contact support." }

/-! ## The commit -/

/-- A clause of the database filter; a field that is `none` is not looked at. -/
structure StateClause where
  status : Option LegacyStatus := none
  workflowStatus : Option (List WorkflowStatus) := none
  sellerReady : Option Bool := none

/-- The document matches the clause; a field that is missing matches no value. -/
def StateClause.matches (clause : StateClause) (order : OrderDocument) : Bool :=
  clause.status.all (fun status => decide (order.status = status)) &&
    clause.workflowStatus.all (fun allowed => order.workflowStatus.any (fun ws => decide (ws ∈ allowed))) &&
    clause.sellerReady.all (fun ready => decide (order.sellerReadyAt.isSome = ready))

def acceptedStates : List WorkflowStatus := [.sellerAccepted, .deliverySearch]

def selfCancelStateClauses (order : OrderDocument) (policy : CustomerPolicy) (ignorePolicy : Bool) :
    List StateClause :=
  let allowed := fun stage => ignorePolicy || policy.allows stage
  if order.workflowVersion < 2 then
    -- legacy orders only carry the coarse status
    (if allowed .pendingAcceptance then [{ status := some .pending }] else []) ++
    (if allowed .accepted then [{ status := some .confirmed }] else []) ++
    (if allowed .riderAssigned then [{ status := some .packed }] else [])
  else
    (if allowed .awaitingPayment then [{ workflowStatus := some [.created] }] else []) ++
    (if allowed .pendingAcceptance then [{ workflowStatus := some [.sellerPending] }] else []) ++
    (if allowed .accepted && allowed .packed then [{ workflowStatus := some acceptedStates }]
      else if allowed .accepted then
        [{ workflowStatus := some acceptedStates, sellerReady := some false }]
      else if allowed .packed then
        [{ workflowStatus := some acceptedStates, sellerReady := some true }]
      else []) ++
    (if allowed .riderAssigned then [{ workflowStatus := some [.deliveryAssigned] }] else []) ++
    (if allowed .riderAtStore then [{ workflowStatus := some [.pickupReady] }] else [])

/-- The filter of the update that cancels; `customer` is the customer who cancels. -/
def directFilter (order : OrderDocument) (customer : Option ObjectId) (clauses : List StateClause) :
    Bool :=
  customer.all (fun id => decide (order.customer = id)) &&
    order.pickupConfirmedAt.isNone && order.deliveredAt.isNone &&
    decide (order.status ∉ [LegacyStatus.cancelled, .delivered, .outForDelivery]) &&
    clauses.any (fun clause => clause.matches order)

inductive DirectOutcome where
  | notCancellable | lostRace | committed
  deriving DecidableEq

/-- `executeDirectCancellation` for an order that was read as `order` and is `current` when the
update comes. -/
def executeDirectCancellation (order current : OrderDocument) (policy : CustomerPolicy)
    (ignorePolicy : Bool) (customer : Option ObjectId) : DirectOutcome :=
  let clauses := selfCancelStateClauses order policy ignorePolicy
  if isPrePickupStage (resolveCancellationStage order) = false ∨ clauses = [] then .notCancellable
  else if directFilter current customer clauses then .committed
  else .lostRace

/-! ## Both as conditions on the order -/

section Compare

variable {order : OrderDocument} {policy : CustomerPolicy} {record : Option CancellationStatus}

/-- The stage whose switch the database filter goes by, if the order is in one of its states. -/
def filterStage (order : OrderDocument) : Option CancellationStage :=
  if order.workflowVersion < 2 then
    some (stageOfWorkflow (workflowFromLegacyStatus order.status) false)
  else order.workflowStatus.map (fun ws => stageOfWorkflow ws order.sellerReadyAt.isSome)

theorem prePickup_marks (h : isPrePickupStage (resolveCancellationStage order) = true) :
    order.pickupConfirmedAt = none ∧ order.deliveredAt = none ∧ order.status ≠ .cancelled ∧
      order.status ≠ .delivered ∧ order.status ≠ .outForDelivery ∧
      resolveCancellationStage order
        = stageOfWorkflow (orderWorkflowStatus order) order.sellerReadyAt.isSome := by
  unfold resolveCancellationStage at h ⊢
  dsimp only at h ⊢
  split at h
  · cases h
  split at h
  · cases h
  split at h
  · cases h
  split at h
  · cases h
  next hpos hcancelled hdelivered hpicked =>
    rw [if_neg hpos, if_neg hcancelled, if_neg hdelivered, if_neg hpicked]
    simp only [not_or, Bool.not_eq_true, isSome_eq_false_iff, isNone_iff_eq_none]
      at hcancelled hdelivered hpicked
    exact ⟨hpicked.1, hdelivered.2.2, hcancelled.1, hdelivered.1, hpicked.2.2, rfl⟩

theorem prePickup_stage {stage : CancellationStage} (h : isPrePickupStage stage = true) :
    stage ≠ .cancelled ∧ stage ≠ .delivered ∧ stage ≠ .notApplicable ∧ stage ≠ .pickedUp := by
  refine ⟨?_, ?_, ?_, ?_⟩
  · rintro rfl
    cases h
  · rintro rfl
    cases h
  · rintro rfl
    cases h
  · rintro rfl
    cases h

theorem not_allows_notApplicable : policy.allows .notApplicable = false := Bool.and_false _

theorem prePickup_of_allows {stage : CancellationStage} (h : policy.allows stage = true) :
    isPrePickupStage stage = true := by
  have hget := (Bool.and_eq_true_iff.mp h).2
  cases stage with
  | pickedUp | delivered | cancelled | notApplicable => cases hget
  | _ => rfl

theorem any_guarded {α : Type} (guard : Bool) (clause : α) (p : α → Bool) :
    (if guard then [clause] else []).any p = (guard && p clause) := by
  cases guard with
  | true | false => simp

theorem any_acceptedStates (accepted packed : Bool) :
    (if accepted && packed then [({ workflowStatus := some acceptedStates } : StateClause)]
      else if accepted then [{ workflowStatus := some acceptedStates, sellerReady := some false }]
      else if packed then [{ workflowStatus := some acceptedStates, sellerReady := some true }]
      else []).any (fun c => c.matches order)
    = (order.workflowStatus.any (fun ws => decide (ws ∈ acceptedStates)) &&
        (if order.sellerReadyAt.isSome then packed else accepted)) := by
  cases accepted with
  | true =>
    cases packed with
    | true => simp [StateClause.matches]
    | false => cases hready : order.sellerReadyAt.isSome <;> simp [StateClause.matches, hready]
  | false =>
    cases packed with
    | true => cases hready : order.sellerReadyAt.isSome <;> simp [StateClause.matches, hready]
    | false => simp

theorem clauses_any : (selfCancelStateClauses order policy false).any (fun c => c.matches order)
    = (filterStage order).any policy.allows := by
  unfold selfCancelStateClauses filterStage
  simp only [Bool.false_or]
  by_cases hversion : order.workflowVersion < 2
  · rw [if_pos hversion, if_pos hversion, any_some]
    simp only [List.any_append, any_guarded]
    cases hstatus : order.status <;>
      simp [StateClause.matches, hstatus, stageOfWorkflow, workflowFromLegacyStatus,
        not_allows_notApplicable]
  · rw [if_neg hversion, if_neg hversion]
    simp only [List.any_append, any_guarded, any_acceptedStates]
    cases hws : order.workflowStatus with
    | none => simp [StateClause.matches, hws]
    | some ws =>
      cases ws <;> simp [StateClause.matches, hws, stageOfWorkflow, acceptedStates,
        not_allows_notApplicable]
      all_goals split <;> rfl

theorem committed_iff :
    executeDirectCancellation order order policy false (some order.customer) = .committed ↔
      isPrePickupStage (resolveCancellationStage order) = true ∧
        (filterStage order).any policy.allows = true := by
  rw [← clauses_any]
  unfold executeDirectCancellation
  dsimp only
  by_cases hpre : isPrePickupStage (resolveCancellationStage order) = true
  · obtain ⟨hpickup, hdelivered, hcancelled, hover, hout, -⟩ := prePickup_marks hpre
    have hfilter : directFilter order (some order.customer) (selfCancelStateClauses order policy false)
        = (selfCancelStateClauses order policy false).any (fun c => c.matches order) := by
      unfold directFilter
      simp [hpickup, hdelivered, hcancelled, hover, hout]
    by_cases hclauses : selfCancelStateClauses order policy false = []
    · rw [if_pos (.inr hclauses), hclauses]
      simp
    · rw [if_neg (by simp [hpre, hclauses]), hfilter]
      by_cases hany : (selfCancelStateClauses order policy false).any (fun c => c.matches order) = true
      · rw [if_pos hany]
        simp [hpre, hany]
      · rw [if_neg hany]
        simp [hany]
  · rw [if_pos (.inl (by simpa using hpre))]
    simp [hpre]

/-- Nothing but the stage stands against a preview: no return, and no record that was moved to
the disputes team. -/
def Unhindered (order : OrderDocument) (record : Option CancellationStatus) : Prop :=
  order.returnStatus = .none ∧ record ≠ some .transferred

instance (order : OrderDocument) (record : Option CancellationStatus) :
    Decidable (Unhindered order record) := inferInstanceAs (Decidable (_ ∧ _))

/-- The preview: the stage's switch is on and nothing stands against it. -/
theorem canSelfCancel_iff (hopen : record.any CancellationStatus.isOpen = false) :
    (evaluateCancellationEligibility order policy record).canSelfCancel = true ↔
      isPrePickupStage (resolveCancellationStage order) = true ∧ Unhindered order record ∧
        policy.allows (resolveCancellationStage order) = true := by
  unfold evaluateCancellationEligibility Unhindered
  dsimp only
  rw [if_neg (by simp [hopen])]
  by_cases hpre : isPrePickupStage (resolveCancellationStage order) = true
  · obtain ⟨hcancelled, hdelivered, hnone, hpicked⟩ := prePickup_stage hpre
    rw [if_neg hcancelled]
    by_cases hreturn : order.returnStatus = .none
    · rw [if_neg (by simp [hdelivered, hreturn]), if_neg hnone]
      by_cases htransferred : record = some .transferred
      · rw [if_pos htransferred]
        exact iff_of_false Bool.false_ne_true (fun h => h.2.1.2 htransferred)
      · rw [if_neg htransferred, if_neg hpicked]
        split
        next hallows => exact iff_of_true rfl ⟨hpre, ⟨hreturn, htransferred⟩, hallows⟩
        next hallows => exact iff_of_false Bool.false_ne_true (fun h => hallows h.2.2)
    · rw [if_pos (.inr hreturn)]
      simp [hreturn]
  · -- past pickup, over or not an order of the app: no branch offers a cancellation
    have hallows : policy.allows (resolveCancellationStage order) = false := by
      by_contra hallows
      exact hpre (prePickup_of_allows (by simpa using hallows))
    rw [hallows, if_neg Bool.false_ne_true]
    refine iff_of_false ?_ (fun h => hpre h.1)
    repeat' split
    all_goals exact Bool.false_ne_true

/-! ## Where they agree -/

/-- The order is not before pickup; or nothing stands against a preview and the filter has the
stage's switch (a workflow order has its workflow status, or its stage's switch is off; the two
switches of a legacy order that is confirmed and packed are alike); or something stands against
a preview and the filter's switch is off. -/
def PreviewAgrees (order : OrderDocument) (policy : CustomerPolicy)
    (record : Option CancellationStatus) : Prop :=
  isPrePickupStage (resolveCancellationStage order) = true →
    if Unhindered order record then
      (2 ≤ order.workflowVersion → order.workflowStatus = none →
        policy.allows (resolveCancellationStage order) = false) ∧
      (order.workflowVersion < 2 → order.status = .confirmed → order.sellerReadyAt.isSome = true →
        policy.allows .accepted = policy.allows .packed)
    else (filterStage order).any policy.allows = false

theorem filterStage_allows (hpre : isPrePickupStage (resolveCancellationStage order) = true) :
    ((filterStage order).any policy.allows = policy.allows (resolveCancellationStage order)) ↔
      (2 ≤ order.workflowVersion → order.workflowStatus = none →
        policy.allows (resolveCancellationStage order) = false) ∧
      (order.workflowVersion < 2 → order.status = .confirmed → order.sellerReadyAt.isSome = true →
        policy.allows .accepted = policy.allows .packed) := by
  obtain ⟨-, -, -, -, -, hstage⟩ := prePickup_marks hpre
  by_cases hversion : order.workflowVersion < 2
  · have hws : orderWorkflowStatus order = workflowFromLegacyStatus order.status :=
      if_neg (by omega)
    have hfilter : filterStage order
        = some (stageOfWorkflow (workflowFromLegacyStatus order.status) false) := if_pos hversion
    rw [hfilter, hstage, hws, any_some]
    -- the seller's mark is looked at for a confirmed order only
    cases hstatus : order.status <;> cases hready : order.sellerReadyAt.isSome <;>
      simp [workflowFromLegacyStatus, stageOfWorkflow, hversion, Nat.not_le.mpr hversion]
  · have hle : 2 ≤ order.workflowVersion := by omega
    have hfilter : filterStage order
        = order.workflowStatus.map (fun ws => stageOfWorkflow ws order.sellerReadyAt.isSome) :=
      if_neg hversion
    rw [hfilter]
    cases hws : order.workflowStatus with
    | none =>
      rw [map_none, any_none]
      exact ⟨fun h => ⟨fun _ _ => h.symm, fun hlt => absurd hlt hversion⟩,
        fun h => (h.1 hle rfl).symm⟩
    | some ws =>
      have hcurrent : orderWorkflowStatus order = ws := by
        unfold orderWorkflowStatus
        rw [if_pos hle, hws, getD_some]
      rw [hstage, hcurrent]
      simp [hversion]

/-- Without an open record the preview offers a cancellation exactly when the commit accepts it,
for the orders on which the stage and the filter go by the same switch. -/
theorem preview_iff_commit (order : OrderDocument) (policy : CustomerPolicy)
    (record : Option CancellationStatus) (hopen : record.any CancellationStatus.isOpen = false) :
    ((evaluateCancellationEligibility order policy record).canSelfCancel = true ↔
      executeDirectCancellation order order policy false (some order.customer) = .committed) ↔
    PreviewAgrees order policy record := by
  rw [canSelfCancel_iff hopen, committed_iff]
  unfold PreviewAgrees
  by_cases hpre : isPrePickupStage (resolveCancellationStage order) = true
  · by_cases hfree : Unhindered order record
    · rw [if_pos hfree, ← filterStage_allows hpre, Bool.eq_iff_iff]
      simp only [hpre, hfree, true_and, forall_const]
      rw [← Bool.eq_iff_iff]
      exact eq_comm
    · rw [if_neg hfree]
      simp [hpre, hfree]
  · simp [hpre]

end Compare

/-- A legacy order, accepted and marked ready by the seller. -/
def confirmedReady : OrderDocument where
  toOrder := { Order.placed 1 7 (some 3) none .cod (PaymentBreakdown.placed 50000 40000 3000 7000 0) with
    status := .confirmed, workflowVersion := 1, workflowStatus := none }
  sellerReadyAt := some 60

theorem preview_iff_commit_confirmedReady :
    ((evaluateCancellationEligibility confirmedReady {} none).canSelfCancel = true ↔
      executeDirectCancellation confirmedReady confirmedReady {} false (some 7) = .committed) ↔
    PreviewAgrees confirmedReady {} none :=
  preview_iff_commit confirmedReady {} none rfl

/-- The shop lets customers cancel what is packed but not what is only accepted: the preview
offers the cancellation of a packed legacy order, and the filter refuses it. -/
theorem preview_refused :
    ¬ ∀ (order : OrderDocument) (policy : CustomerPolicy) (record : Option CancellationStatus),
      record.any CancellationStatus.isOpen = false →
      ((evaluateCancellationEligibility order policy record).canSelfCancel = true ↔
        executeDirectCancellation order order policy false (some order.customer) = .committed) := by
  intro agree
  have hoffered : (evaluateCancellationEligibility confirmedReady
      { selfCancelStages := { accepted := false } } none).canSelfCancel = true := by decide
  have hrefused : executeDirectCancellation confirmedReady confirmedReady
      { selfCancelStages := { accepted := false } } false (some confirmedReady.customer)
        = .lostRace := by decide
  have hcommitted := (agree confirmedReady _ none rfl).mp hoffered
  rw [hrefused] at hcommitted
  cases hcommitted

end DiscountBazar.Cancellation
