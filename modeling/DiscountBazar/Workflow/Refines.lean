/-
The writers of the workflow status and the state machine.

None of the writers asks `canTransition`. Most of them send an update whose filter names the
states it is for; `updateOrderStatus` saves the state of whatever status it was asked for, and a
settlement writes DELIVERED over any state that is not cancelled. The condition says, call by
call, what has to hold where the database applies it for the run to follow the state machine.
-/
import DiscountBazar.Workflow.Exclusive

namespace DiscountBazar.Workflow

open Finance Cancellation Tasks Returns Runs
open Contract (Sound)
open Prog (All)
open Option Update

/-! ## The property -/

def needsRider : WorkflowStatus → Bool
  | .deliveryAssigned | .pickupReady | .outForDelivery | .delivered => true
  | _ => false

def HasRider (order : WorkflowOrder) : Prop :=
  order.workflowStatus.any needsRider = true → order.deliveryBoy.isSome = true

instance (order : WorkflowOrder) : Decidable (HasRider order) := inferInstanceAs (Decidable (_ → _))

/-- The state machine allows the change, and there is a rider where one is needed. -/
def Follows (order order' : WorkflowOrder) : Prop :=
  canTransition order.workflowStatus order'.workflowStatus = true ∧ HasRider order'

instance (order order' : WorkflowOrder) : Decidable (Follows order order') :=
  inferInstanceAs (Decidable (_ ∧ _))

/-! ## The condition -/

def settles (order : WorkflowOrder) : Bool :=
  decide (order.status ≠ .cancelled) && decide (order.workflowStatus ≠ some .cancelled) &&
    (decide (order.paymentMode ≠ .online) || order.financeFlags.onlinePaymentCaptured) &&
    !order.financeFlags.deliveredSettlementApplied

/-- The condition on a call that takes effect. An order that waits for its payment only moves on
to the seller; a settlement that goes through finds the order out or delivered; a saved status is
one the state machine allows from the state the order is in by then, and finds or brings the rider
it needs. -/
def EffectInOrder : Kind → OrderDesk → Prop
  | .findOneAndUpdate update, s =>
    update.filter s.order = true → s.order.workflowStatus = some .created →
      ∀ ws ∈ update.target, ws = .sellerPending
  | .settle _ _, s =>
    settles s.order = true → s.order.workflowStatus = some .outForDelivery ∨
      s.order.workflowStatus = some .delivered
  | .saveOrder loaded edited, s =>
    edited.workflowStatus ≠ loaded.workflowStatus →
      canTransition s.order.workflowStatus edited.workflowStatus = true ∧
        (edited.workflowStatus.any needsRider = true →
          edited.deliveryBoy ≠ loaded.deliveryBoy ∨ s.order.deliveryBoy.isSome = true)
  | .cancelUnpaid _, s => s.order.workflowStatus = some .created → s.order.status = .cancelled
  | _, _ => True

def CallInOrder (kind : Kind) (c : Choice) (s : OrderDesk) : Prop :=
  c.outcome.takesEffect = true → EffectInOrder kind s

/-! ## The invariant -/

/-- An order of the newer workflow with a state, the rider it needs and the time of delivery. -/
structure Tracked (order : WorkflowOrder) : Prop where
  v2 : 2 ≤ order.workflowVersion
  workflow : order.workflowStatus.isSome = true
  rider : HasRider order
  deliveredAt : order.workflowStatus = some .delivered ∨ order.status = .delivered →
    order.deliveredAt.isSome = true

theorem Placed.tracked {order : WorkflowOrder} (h : Placed order) : Tracked order where
  v2 := h.v2
  workflow := by
    obtain hws | hws := h.workflow
    · simp [hws]
    · simp [hws]
  rider := by
    unfold HasRider
    obtain hws | hws := h.workflow
    · simp [hws, needsRider]
    · simp [hws, needsRider]
  deliveredAt := by
    obtain hws | hws := h.workflow
    · simp [hws, h.status]
    · simp [hws, h.status]

@[simp] theorem canTransition_self (ws : WorkflowStatus) :
    canTransition (some ws) (some ws) = true := by
  simp [canTransition]

variable {order order' : WorkflowOrder}

theorem Tracked.stays (h : Tracked order) (hws : order'.workflowStatus = order.workflowStatus) :
    canTransition order.workflowStatus order'.workflowStatus = true := by
  rw [hws]
  obtain ⟨ws, hsome⟩ := isSome_iff_exists.mp h.workflow
  rw [hsome]
  exact canTransition_self ws

/-! ## Updates -/

theorem canTransition_cancelled {ws : WorkflowStatus} (hcreated : ws ≠ .created)
    (hdelivered : ws ≠ .delivered) : canTransition (some ws) (some .cancelled) = true := by
  cases ws with
  | created => exact absurd rfl hcreated
  | delivered => exact absurd rfl hdelivered
  | _ => rfl

section Updates

variable {order : WorkflowOrder} {update : Update} {ws target : WorkflowStatus}

/-- Every update leads to a state the state machine allows, except from CREATED. -/
theorem filter_transition (h : Tracked order) (hws : order.workflowStatus = some ws)
    (hfilter : update.filter order = true) (htarget : update.target = some target)
    (hcreated : ws = .created → target = .sellerPending) :
    canTransition (some ws) (some target) = true := by
  have hopen : order.deliveredAt = none → ws ≠ .delivered := by
    rintro hnone rfl
    have hsome := h.deliveredAt (.inl hws)
    rw [hnone] at hsome
    cases hsome
  cases update with
  | extendSearch | markReady | markPacked => cases htarget
  | cancelDirectly workflowVersion customer clauses cancelledBy reason now =>
    have hcancelled : target = .cancelled := by
      simp only [Update.target] at htarget
      split at htarget
      · exact (some.inj htarget).symm
      · cases htarget
    subst hcancelled
    simp only [filter, directFilter, Bool.and_eq_true, isNone_iff_eq_none] at hfilter
    refine canTransition_cancelled (fun h => ?_) (hopen hfilter.1.1.2)
    cases hcreated h
  | cancelAfterPickup workflowVersion cancelledBy reason now =>
    have hcancelled : target = .cancelled := by
      simp only [Update.target] at htarget
      split at htarget
      · exact (some.inj htarget).symm
      · cases htarget
    subst hcancelled
    simp only [filter, pickedUpOrderFilter, Bool.and_eq_true,
      isNone_iff_eq_none] at hfilter
    refine canTransition_cancelled (fun h => ?_) (hopen hfilter.1.1)
    cases hcreated h
  | deliver deliveryId isV2Out now =>
    cases isV2Out with
    | false => cases htarget
    | true =>
      cases htarget
      simp [filter, hws] at hfilter
      simp [hfilter, canTransition, TRANSITIONS]
  | deliveryAccept deliveryId now =>
    cases htarget
    have hv2 : isV2 order = true := decide_eq_true h.v2
    simp [filter, hws, hv2] at hfilter
    simp [hfilter, canTransition, TRANSITIONS]
  | sellerAccept sellerId now deliveryMs =>
    cases htarget
    simp only [filter, hws, Bool.and_eq_true, decide_eq_true_eq] at hfilter
    obtain ⟨⟨-, hmem⟩, -⟩ := hfilter
    simp only [List.mem_cons, some.injEq, List.not_mem_nil, or_false] at hmem
    obtain rfl | rfl := hmem
    · rfl
    · cases hcreated rfl
  | confirmPickup deliveryId now =>
    cases htarget
    simp only [filter, hws, Bool.and_eq_true, decide_eq_true_eq] at hfilter
    obtain ⟨hmem, -⟩ := hfilter
    simp only [List.mem_cons, some.injEq, List.not_mem_nil, or_false] at hmem
    obtain rfl | rfl := hmem
    · rfl
    · rfl
  | paymentTimeout =>
    cases htarget
    simp only [filter, hws, Bool.and_eq_true, decide_eq_true_eq, some.injEq]
      at hfilter
    cases hcreated hfilter.1
  | _ =>
    cases htarget
    simp_all [filter, canTransition, TRANSITIONS]

theorem set_hasRider (h : HasRider order) (hfilter : update.filter order = true) :
    HasRider (update.set order) := by
  cases update with
  | deliveryAccept deliveryId now => exact fun _ => rfl
  | arrivedAtStore | confirmPickup | deliver =>
    simp only [filter, Bool.and_eq_true, decide_eq_true_eq] at hfilter
    exact fun _ => isSome_of_eq_some hfilter.2
  | extendSearch | markReady | markPacked => exact h
  | cancelDirectly | cancelAfterPickup =>
    unfold HasRider Update.set cancelledOrderSet
    dsimp only
    split
    · exact fun hneeds => absurd hneeds Bool.false_ne_true
    · exact h
  | _ => exact fun hneeds => absurd hneeds Bool.false_ne_true

theorem set_deliveredAt (h : Tracked order) :
    (update.set order).workflowStatus = some .delivered ∨ (update.set order).status = .delivered →
      (update.set order).deliveredAt.isSome = true := by
  have hmarks := h.deliveredAt
  cases update with
  | deliver deliveryId isV2Out now => exact fun _ => rfl
  | extendSearch | markReady => exact hmarks
  | markPacked => exact fun hd => hmarks (hd.imp_right nofun)
  | sellerPending expiresAt => exact fun hd => hmarks (hd.imp_left nofun)
  | cancelDirectly | cancelAfterPickup =>
    unfold Update.set cancelledOrderSet
    dsimp only
    split
    · simp
    · exact fun hd => hmarks (hd.imp_right nofun)
  | _ => simp [Update.set, WorkflowOrder.withStatus, legacyStatusFromWorkflow]

theorem set_tracked (h : Tracked order) (hfilter : update.filter order = true) :
    Tracked (update.set order) where
  v2 := by
    have hversion : (update.set order).workflowVersion = order.workflowVersion := by
      cases update <;> rfl
    rw [hversion]
    exact h.v2
  workflow := by
    rw [set_workflowStatus]
    cases update.target with
    | none => exact h.workflow
    | some target => rfl
  rider := set_hasRider h.rider hfilter
  deliveredAt := set_deliveredAt h

theorem set_deliveredAt_isSome (h : order.deliveredAt.isSome = true) :
    (update.set order).deliveredAt.isSome = true := by
  cases update with
  | deliver deliveryId isV2Out now => rfl
  | _ => exact h

end Updates

/-! ## The other writers -/

theorem Tracked.congr (h : Tracked order)
    (hversion : order'.workflowVersion = order.workflowVersion)
    (hws : order'.workflowStatus = order.workflowStatus) (hstatus : order'.status = order.status)
    (hrider : order'.deliveryBoy = order.deliveryBoy)
    (hdeliveredAt : order'.deliveredAt = order.deliveredAt) : Tracked order' where
  v2 := hversion ▸ h.v2
  workflow := hws ▸ h.workflow
  rider := by
    unfold HasRider
    rw [hws, hrider]
    exact h.rider
  deliveredAt := by
    rw [hws, hstatus, hdeliveredAt]
    exact h.deliveredAt

theorem settled_order (env : Env) (now : Date) (order : WorkflowOrder) :
    (settled env now order).2
      = if settles order = true then
          { order with toOrder := { markDelivered env now order.toOrder with
            financeFlags := { order.financeFlags with deliveredSettlementApplied := true } } }
        else order := by
  unfold settled settles
  by_cases hcancelled : order.status = .cancelled ∨ order.workflowStatus = some .cancelled
  · rw [if_pos hcancelled]
    obtain h | h := hcancelled
    · simp [h]
    · simp [h]
  · rw [if_neg hcancelled]
    rw [not_or] at hcancelled
    simp only [hcancelled, markDelivered_paymentMode, markDelivered_financeFlags, ne_eq,
      not_false_eq_true, decide_true, Bool.true_and]
    by_cases hcapture :
        order.paymentMode = .online ∧ order.financeFlags.onlinePaymentCaptured = false
    · simp [hcapture]
    · rw [if_neg hcapture]
      have hpaid : (!decide (order.paymentMode = .online) ||
          order.financeFlags.onlinePaymentCaptured) = true := by
        by_contra hunpaid
        simp_all
      simp only [decide_not, hpaid, Bool.true_and]
      cases order.financeFlags.deliveredSettlementApplied with
      | true | false => rfl

structure Edit (loaded edited : WorkflowOrder) : Prop where
  workflow : edited.workflowStatus = loaded.workflowStatus ∨ edited.workflowStatus.isSome = true
  rider : edited.deliveryBoy = loaded.deliveryBoy ∨ edited.deliveryBoy.isSome = true
  time : edited.deliveredAt = loaded.deliveredAt ∨ edited.deliveredAt.isSome = true
  delivered : edited.workflowStatus = some .delivered ∨ edited.status = .delivered →
    edited.deliveredAt.isSome = true

theorem withUpdate_edit {order : WorkflowOrder} (h : Tracked order) (status : Option LegacyStatus)
    (deliveryBoyId : Option ObjectId) (now : Date) :
    Edit order (withUpdate order status deliveryBoyId now) := by
  have hv2 : isV2 order = true := decide_eq_true h.v2
  have hassign : ∀ edited : WorkflowOrder, edited.deliveryBoy = order.deliveryBoy →
      Edit order edited → Edit order (withUpdate edited none deliveryBoyId now) := by
    intro edited hboy hedit
    cases deliveryBoyId with
    | none => exact hedit
    | some riderId =>
      unfold withUpdate
      dsimp only
      split
      · exact hedit
      · exact ⟨hedit.workflow, .inr rfl, hedit.time, hedit.delivered⟩
  unfold withUpdate
  cases status with
  | none => exact hassign order rfl ⟨.inl rfl, .inl rfl, .inl rfl, h.deliveredAt⟩
  | some status =>
    refine hassign _ rfl ⟨.inr ?_, .inl rfl, ?_, ?_⟩
    · rw [hv2]
      rfl
    · dsimp only
      split
      · exact .inr rfl
      · exact .inl rfl
    · rw [hv2]
      dsimp only
      intro hdelivered
      have hstatus : status = .delivered := by
        cases status <;> simp_all [workflowFromLegacyStatus]
      by_cases hbefore : order.status = .delivered
      · rw [if_neg (fun hnew => hnew.2 hbefore)]
        exact h.deliveredAt (.inr hbefore)
      · rw [if_pos ⟨hstatus, hbefore⟩]
        rfl

section Save

variable {loaded edited order : WorkflowOrder}

/-- A time of delivery that is stored, or that the document brings, is there after the save. -/
theorem saved_deliveredAt (hedit : Edit loaded edited)
    (hstable : loaded.deliveredAt.isSome = true → order.deliveredAt.isSome = true)
    (h : order.deliveredAt.isSome = true ∨ edited.deliveredAt.isSome = true) :
    (saved loaded edited order).deliveredAt.isSome = true := by
  unfold saved written
  dsimp only
  by_cases hsame : edited.deliveredAt = loaded.deliveredAt
  · rw [if_pos hsame]
    obtain h | h := h
    · exact h
    · exact hstable (hsame ▸ h)
  · rw [if_neg hsame]
    exact hedit.time.resolve_left hsame

theorem saved_tracked (h : Tracked order) (hedit : Edit loaded edited)
    (hstable : loaded.deliveredAt.isSome = true → order.deliveredAt.isSome = true)
    (hrider : edited.workflowStatus ≠ loaded.workflowStatus →
      edited.workflowStatus.any needsRider = true →
        edited.deliveryBoy ≠ loaded.deliveryBoy ∨ order.deliveryBoy.isSome = true) :
    Tracked (saved loaded edited order) where
  v2 := h.v2
  workflow := by
    unfold saved written
    dsimp only
    split
    · exact h.workflow
    next hne => exact hedit.workflow.resolve_left hne
  rider := by
    unfold HasRider saved written
    dsimp only
    by_cases hboy : edited.deliveryBoy = loaded.deliveryBoy
    · rw [if_pos hboy]
      split
      · exact h.rider
      next hne =>
        intro hneeds
        exact (hrider hne hneeds).resolve_left (fun hne => hne hboy)
    · rw [if_neg hboy]
      exact fun _ => hedit.rider.resolve_left hboy
  deliveredAt := by
    intro hdelivered
    refine saved_deliveredAt hedit hstable ?_
    unfold saved written at hdelivered
    dsimp only at hdelivered
    obtain hws | hstatus := hdelivered
    · split at hws
      · exact .inl (h.deliveredAt (.inl hws))
      · exact .inr (hedit.delivered (.inl hws))
    · split at hstatus
      · exact .inl (h.deliveredAt (.inr hstatus))
      · exact .inr (hedit.delivered (.inr hstatus))

end Save

/-! ## Calls -/

section Calls

variable {kind : Kind} {s : OrderDesk}

/-- Calls that leave what the workflow goes by as it is. -/
def Idle : Kind → Prop
  | .findOneAndUpdate _ | .settle _ _ | .saveOrder _ _ | .cancelUnpaid _ => False
  | _ => True

theorem effect_idle (h : Idle kind) (c : Choice) (s : OrderDesk) :
    (effect c kind s).2.order.workflowVersion = s.order.workflowVersion ∧
      (effect c kind s).2.order.workflowStatus = s.order.workflowStatus ∧
      (effect c kind s).2.order.status = s.order.status ∧
      (effect c kind s).2.order.deliveryBoy = s.order.deliveryBoy ∧
      (effect c kind s).2.order.deliveredAt = s.order.deliveredAt := by
  cases kind with
  | findOneAndUpdate | settle | saveOrder | cancelUnpaid => cases h
  | capture =>
    unfold effect captured
    dsimp only
    split
    · exact ⟨rfl, rfl, rfl, rfl, rfl⟩
    · exact ⟨rfl, rfl, rfl, rfl, rfl⟩
  | consumeOtp index now =>
    unfold effect
    dsimp only
    split
    · exact ⟨rfl, rfl, rfl, rfl, rfl⟩
    · exact ⟨rfl, rfl, rfl, rfl, rfl⟩
  | _ => exact ⟨rfl, rfl, rfl, rfl, rfl⟩

theorem idle_tracked (h : Idle kind) (hs : Tracked s.order) (c : Choice) :
    Tracked (effect c kind s).2.order ∧
      (s.order.deliveredAt.isSome = true → (effect c kind s).2.order.deliveredAt.isSome = true) := by
  obtain ⟨hversion, hws, hstatus, hrider, hdeliveredAt⟩ := effect_idle h c s
  exact ⟨hs.congr hversion hws hstatus hrider hdeliveredAt, fun h => hdeliveredAt ▸ h⟩

theorem effect_transition (hs : Tracked s.order) (hok : EffectInOrder kind s) (c : Choice) :
    canTransition s.order.workflowStatus (effect c kind s).2.order.workflowStatus = true := by
  obtain ⟨ws, hws⟩ := isSome_iff_exists.mp hs.workflow
  cases kind with
  | findOneAndUpdate update =>
    rw [effect_update]
    by_cases hfilter : update.filter s.order = true
    · rw [if_pos hfilter, set_workflowStatus]
      cases htarget : update.target with
      | none => exact hs.stays none_or
      | some target =>
        rw [hws, some_or]
        refine filter_transition hs hws hfilter htarget fun hcreated => ?_
        exact hok hfilter (hcreated ▸ hws) target htarget
    · rw [if_neg hfilter]
      exact hs.stays rfl
  | settle env now =>
    change canTransition _ (settled env now s.order).2.workflowStatus = true
    rw [settled_order]
    by_cases hsettles : settles s.order = true
    · rw [if_pos hsettles]
      dsimp only
      rw [markDelivered_workflowStatus, if_pos hs.v2]
      obtain h | h := hok hsettles
      · rw [h]
        rfl
      · rw [h]
        rfl
    · rw [if_neg hsettles]
      exact hs.stays rfl
  | saveOrder loaded edited =>
    change canTransition _ (written loaded.workflowStatus edited.workflowStatus _) = true
    unfold written
    by_cases hsame : edited.workflowStatus = loaded.workflowStatus
    · rw [if_pos hsame]
      exact hs.stays rfl
    · rw [if_neg hsame]
      exact (hok hsame).1
  | cancelUnpaid reason =>
    change canTransition _ (paymentFailed reason s.order).workflowStatus = true
    unfold paymentFailed
    by_cases hunpaid : s.order.workflowStatus = some .created ∧ s.order.status ≠ .cancelled
    · exact absurd (hok hunpaid.1) hunpaid.2
    · rw [if_neg hunpaid]
      exact hs.stays rfl
  | _ => exact hs.stays (effect_idle (by trivial) c s).2.1

theorem target_ne_created {update : Update} {target : WorkflowStatus}
    (h : update.target = some target) : target ≠ .created := by
  rintro rfl
  cases update with
  | deliver deliveryId isV2Out now => cases isV2Out <;> cases h
  | cancelDirectly workflowVersion customer clauses cancelledBy reason now =>
    simp [target] at h
  | cancelAfterPickup workflowVersion cancelledBy reason now => simp [target] at h
  | _ => cases h

theorem inOrder_of_follows (hs : Tracked s.order) {c : Choice}
    (h : Follows s.order (effect c kind s).2.order) : EffectInOrder kind s := by
  obtain ⟨htransition, hrider⟩ := h
  cases kind with
  | findOneAndUpdate update =>
    intro hfilter hcreated target htarget
    rw [effect_update, if_pos hfilter, set_workflowStatus, hcreated, htarget] at htransition
    have hne : target ≠ .created := target_ne_created htarget
    simp only [some_or, canTransition, decide_eq_true_eq] at htransition
    obtain hsame | hallowed := htransition
    · exact absurd hsame.symm hne
    · exact List.mem_singleton.mp hallowed
  | settle env now =>
    intro hsettles
    change canTransition _ (settled env now s.order).2.workflowStatus = true at htransition
    rw [settled_order, if_pos hsettles] at htransition
    dsimp only at htransition
    rw [markDelivered_workflowStatus, if_pos hs.v2] at htransition
    obtain ⟨ws, hws⟩ := isSome_iff_exists.mp hs.workflow
    rw [hws] at htransition ⊢
    cases ws <;> simp_all [canTransition, TRANSITIONS]
  | saveOrder loaded edited =>
    intro hne
    have hws : (saved loaded edited s.order).workflowStatus = edited.workflowStatus := if_neg hne
    change canTransition _ (saved loaded edited s.order).workflowStatus = true at htransition
    change HasRider (saved loaded edited s.order) at hrider
    unfold HasRider at hrider
    rw [hws] at htransition hrider
    refine ⟨htransition, fun hneeds => ?_⟩
    specialize hrider hneeds
    unfold saved written at hrider
    dsimp only at hrider
    split at hrider
    · exact .inr hrider
    next hboy => exact .inl hboy
  | cancelUnpaid reason =>
    intro hcreated
    by_contra hstatus
    change canTransition _ (paymentFailed reason s.order).workflowStatus = true at htransition
    unfold paymentFailed at htransition
    rw [if_pos ⟨hcreated, hstatus⟩, hcreated] at htransition
    cases htransition
  | _ => trivial

def SaveKnown (kind : Kind) (s : OrderDesk) : Prop :=
  match kind with
  | .saveOrder loaded edited =>
    Edit loaded edited ∧
      (loaded.deliveredAt.isSome = true → s.order.deliveredAt.isSome = true)
  | _ => True

theorem effect_tracked (hs : Tracked s.order) (hok : EffectInOrder kind s) (hsave : SaveKnown kind s)
    (c : Choice) :
    Tracked (effect c kind s).2.order ∧
      (s.order.deliveredAt.isSome = true → (effect c kind s).2.order.deliveredAt.isSome = true) := by
  cases kind with
  | findOneAndUpdate update =>
    rw [effect_update]
    by_cases hfilter : update.filter s.order = true
    · rw [if_pos hfilter]
      exact ⟨set_tracked hs hfilter, set_deliveredAt_isSome⟩
    · rw [if_neg hfilter]
      exact ⟨hs, fun h => h⟩
  | settle env now =>
    change Tracked (settled env now s.order).2 ∧
      (_ → (settled env now s.order).2.deliveredAt.isSome = true)
    rw [settled_order]
    by_cases hsettles : settles s.order = true
    · rw [if_pos hsettles]
      refine ⟨⟨?_, ?_, ?_, ?_⟩, fun _ => ?_⟩
      · simpa using hs.v2
      · simp [hs.v2]
      · have hrider : s.order.deliveryBoy.isSome = true := by
          apply hs.rider
          obtain h | h := hok hsettles
          · rw [h]
            rfl
          · rw [h]
            rfl
        exact fun _ => by simpa using hrider
      · simp
      · simp
    · rw [if_neg hsettles]
      exact ⟨hs, fun h => h⟩
  | saveOrder loaded edited =>
    obtain ⟨hedit, hstable⟩ := hsave
    refine ⟨saved_tracked hs hedit hstable fun hne => (hok hne).2, fun h => ?_⟩
    exact saved_deliveredAt hedit hstable (.inl h)
  | cancelUnpaid reason =>
    change Tracked (paymentFailed reason s.order) ∧
      (_ → (paymentFailed reason s.order).deliveredAt.isSome = true)
    unfold paymentFailed
    by_cases hunpaid : s.order.workflowStatus = some .created ∧ s.order.status ≠ .cancelled
    · exact absurd (hok hunpaid.1) hunpaid.2
    · rw [if_neg hunpaid]
      exact ⟨hs, fun h => h⟩
  | _ => exact idle_tracked (by trivial) hs c

end Calls

/-! ## Programs -/

/-- Every call but a save. -/
def NoSave : Kind → Prop
  | .saveOrder _ _ => False
  | _ => True

theorem StepCall.noSave (kind : Kind) (h : StepCall kind) : NoSave kind := by
  cases kind <;> trivial

section Programs

open Prog

theorem takeStep_noSave (hashCode : String → String) (env : Env) (timeouts : Timeouts) (step : Step)
    (now : Date) : (takeStep hashCode env timeouts now step).All NoSave :=
  (takeStep_calls hashCode env timeouts step now).mono StepCall.noSave

theorem updateOr_noSave (update : Update) (e : ServiceError) : (updateOr update e).All NoSave :=
  (updateOr_calls update e).mono StepCall.noSave

theorem sellerMarkReady_noSave (now : Date) : (sellerMarkReady now).All NoSave := by
  refine All.bind (All.perform trivial) fun order => All.ite All.ret (All.ite All.throw ?_)
  refine All.bind (All.perform trivial) fun found => ?_
  cases found with
  | some order => exact All.ret
  | none => exact All.bind (All.perform trivial) fun fresh => All.ite All.ret All.throw

theorem markOrderDeliveredAndSettle_noSave (env : Env) (user : User) (now : Date) :
    (markOrderDeliveredAndSettle env user now).All NoSave :=
  All.bind (All.perform trivial) fun _ =>
    All.ite All.throw (All.ite All.throw (All.ite All.throw (All.perform trivial)))

theorem paymentCaptured_noSave (timeouts : Timeouts) (now : Date) :
    (paymentCaptured timeouts now).All NoSave :=
  All.bind (All.perform trivial) fun _ => All.bind (All.perform trivial) fun _ =>
    All.ite All.ret (All.discard (All.perform trivial))

theorem sweepUnpaid_noSave (now : Date) : (sweepUnpaid now).All NoSave :=
  All.bind (All.perform trivial) fun _ => All.ite
    (All.bind (All.perform trivial) fun _ => All.ite (All.discard (All.perform trivial)) All.ret)
    All.ret

end Programs

section Sound

variable {hashCode : String → String} {env : Env} {timeouts : Timeouts} {i : ℕ} {s : OrderDesk}

/-- Tasks keep an order tracked, and delivered once it is. -/
def inOrder (hashCode : String → String) (env : Env) (timeouts : Timeouts) :
    Contract (workflowSystem hashCode env timeouts) where
  inv := fun s => Tracked s.order
  rely := fun _ s s' => s.order.deliveredAt.isSome = true → s'.order.deliveredAt.isSome = true
  may := fun _ kind c s => CallInOrder kind c s

theorem call_tracked {kind : Kind} {c : Choice} {s s' : OrderDesk}
    {r : Except ServiceError kind.Reply} (hs : Tracked s.order) (hok : CallInOrder kind c s)
    (hsave : SaveKnown kind s) (h : performOp i kind c s = some (r, s')) :
    Tracked s'.order ∧
      (s.order.deliveredAt.isSome = true → s'.order.deliveredAt.isSome = true) := by
  obtain ⟨-, rfl⟩ | ⟨htakes, rfl, -⟩ := performOp_eq_some h
  · exact ⟨hs, fun h => h⟩
  · exact effect_tracked hs (hok htakes) hsave c

theorem noSave_sound {α : Type} {p : M α} (hp : p.All NoSave) :
    (inOrder hashCode env timeouts).Keeps i p s := by
  refine Contract.sound_of_all (fun _ _ _ h => h) ?_ hp trivial
  intro kind hkind s hs _ c hok r s' hcall
  have hsave : SaveKnown kind s := by
    cases kind with
    | saveOrder loaded edited => cases hkind
    | _ => trivial
  obtain ⟨hs', hstays⟩ := call_tracked (i := i) hs hok hsave hcall
  exact ⟨hs', fun _ _ => hstays, trivial⟩

theorem saveStatus_sound (user : User) {order : WorkflowOrder} (h : Tracked order)
    (hstable : order.deliveredAt.isSome = true → s.order.deliveredAt.isSome = true)
    (status : Option LegacyStatus) (deliveryBoyId : Option ObjectId) (now : Date) :
    (inOrder hashCode env timeouts).Keeps i
      (saveStatus env user order status deliveryBoyId now) s := by
  unfold saveStatus
  refine Sound.ite (fun _ => trivial) fun _ => ?_
  split
  · trivial
  refine Sound.ite (fun _ => trivial) fun _ => ?_
  have hsave : (inOrder hashCode env timeouts).Keeps i
      (Prog.perform (Kind.saveOrder order (withUpdate order status deliveryBoyId now))) s := by
    refine Sound.perform fun s' hrely hs' c hok r s'' hcall => ?_
    have hknown : SaveKnown (.saveOrder order (withUpdate order status deliveryBoyId now)) s' :=
      ⟨withUpdate_edit h status deliveryBoyId now, fun hd => hrely (hstable hd)⟩
    obtain ⟨hs'', hstays⟩ := call_tracked (i := i) hs' hok hknown hcall
    exact ⟨hs'', fun _ _ => hstays, fun _ _ => trivial, fun _ _ => trivial⟩
  refine Sound.bind hsave fun _ s _ => noSave_sound ?_
  exact All.ite (All.perform trivial) All.ret

theorem updateOrderStatus_sound (user : User) (status : Option LegacyStatus)
    (deliveryBoyId : Option ObjectId) (reason : String) (now : Date) :
    (inOrder hashCode env timeouts).Keeps i
      (updateOrderStatus env timeouts user status deliveryBoyId reason now) s := by
  have hread : (inOrder hashCode env timeouts).Sound i
      (fun order s => Tracked order ∧
        (order.deliveredAt.isSome = true → s.order.deliveredAt.isSome = true))
      (fun _ _ => True) (Prog.perform Kind.findOrder) s := by
    refine Sound.perform fun s hrely hs c _ r s' hcall => ?_
    obtain ⟨⟨e, rfl⟩, rfl⟩ | ⟨-, rfl, hreply⟩ := performOp_eq_some (i := i) hcall
    · refine ⟨hs, fun _ _ h => h, fun order h => ?_, fun _ _ => trivial⟩
      cases h
    · refine ⟨hs, fun _ _ h => h, ?_, fun _ _ => trivial⟩
      rintro order rfl
      obtain hreply | ⟨e, hreply⟩ := hreply
      · cases hreply
        exact ⟨hs, fun h => h⟩
      · cases hreply
  refine Sound.bind hread fun order s hread => ?_
  refine Sound.ite (fun _ => trivial) fun _ => ?_
  refine Sound.ite (fun _ => trivial) fun _ => ?_
  refine Sound.ite (fun _ => noSave_sound ?_) fun _ => ?_
  · exact takeStep_noSave hashCode env timeouts (.adminCancel reason) now
  refine Sound.ite (fun _ => trivial) fun _ => ?_
  refine Sound.ite (fun _ => noSave_sound ?_) fun _ => ?_
  · refine All.tryCatch (updateOr_noSave _ _) fun e => ?_
    exact All.bind (All.perform trivial) fun fresh =>
      All.ite All.throw (All.ite All.ret All.throw)
  refine Sound.ite (fun _ => noSave_sound ?_) fun _ => ?_
  · exact All.bind (sellerMarkReady_noSave now) fun _ =>
      All.discard (All.perform trivial)
  refine Sound.ite (fun _ => noSave_sound (updateOr_noSave _ _)) fun _ => ?_
  refine Sound.ite (fun _ => trivial) fun _ => ?_
  exact saveStatus_sound user hread.1 hread.2 status deliveryBoyId now

theorem handleRequest_sound (request : Request) (now : Date) :
    (inOrder hashCode env timeouts).Keeps i
      (handleRequest hashCode env timeouts now request) s := by
  cases request with
  | step step => exact noSave_sound (takeStep_noSave hashCode env timeouts step now)
  | updateOrderStatus user status deliveryBoyId reason =>
    exact updateOrderStatus_sound user status deliveryBoyId reason now
  | markDelivered user => exact noSave_sound (markOrderDeliveredAndSettle_noSave env user now)
  | paymentCaptured => exact noSave_sound (paymentCaptured_noSave timeouts now)
  | paymentFailed reason => exact noSave_sound (All.perform trivial)
  | sweepUnpaid => exact noSave_sound (sweepUnpaid_noSave now)

theorem happens_workflow (event : Event) (s : OrderDesk) :
    (happens event s).order.workflowVersion = s.order.workflowVersion ∧
      (happens event s).order.workflowStatus = s.order.workflowStatus ∧
      (happens event s).order.status = s.order.status ∧
      (happens event s).order.deliveryBoy = s.order.deliveryBoy ∧
      (happens event s).order.deliveredAt = s.order.deliveredAt := by
  cases event with
  | captured => exact effect_idle (by trivial : Idle .capture) {} s
  | _ => exact ⟨rfl, rfl, rfl, rfl, rfl⟩

theorem inOrder_lawful : (inOrder hashCode env timeouts).Lawful where
  refl := fun _ _ h => h
  trans := fun _ _ _ _ h h' hd => h' (h hd)
  idle := fun _ _ _ _ _ => trivial
  outside := by
    rintro event s s' hs - hevent
    obtain rfl := some.inj hevent
    obtain ⟨hversion, hws, hstatus, hrider, hdeliveredAt⟩ := happens_workflow event s
    exact ⟨Tracked.congr hs hversion hws hstatus hrider hdeliveredAt, fun _ h => hdeliveredAt ▸ h⟩
  entry := fun (request, now) _ _ _ _ _ => handleRequest_sound request now

variable {p : Pool Kind Kind.Reply ServiceError OrderDesk}

theorem onOps_meets {a : Action Choice Event (Request × Date)}
    (h : OnOps (fun _ kind c s => CallInOrder kind c s) p a) :
    (inOrder hashCode env timeouts).Meets p a := by
  cases a with
  | run i c => exact h
  | outside | start => trivial

theorem step_follows_iff (hp : (inOrder hashCode env timeouts).Holds p)
    (a : Action Choice Event (Request × Date)) :
    Follows p.shared.order ((workflowSystem hashCode env timeouts).step p a).shared.order ↔
      OnOps (fun _ kind c s => CallInOrder kind c s) p a := by
  have hlaw : (inOrder hashCode env timeouts).Lawful := inOrder_lawful
  constructor
  · intro hfollows
    cases a with
    | run i c =>
      intro kind next htask htakes
      obtain ⟨r, hcall⟩ :
          ∃ r, performOp i kind c p.shared = some (r, (effect c kind p.shared).2) :=
        performOp_takesEffect htakes i
      rw [System.step_call _ c htask] at hfollows
      change Follows _ (match performOp i kind c p.shared with
        | some (r, s) => (⟨s, p.tasks.set i (next r)⟩ : Pool Kind Kind.Reply ServiceError OrderDesk)
        | none => p).shared.order at hfollows
      rw [hcall] at hfollows
      exact inOrder_of_follows hp.inv hfollows
    | outside | start => trivial
  · intro hok
    have hrider : HasRider ((workflowSystem hashCode env timeouts).step p a).shared.order :=
      (hlaw.step hp (onOps_meets hok)).inv.rider
    refine ⟨?_, hrider⟩
    have hstays := hp.inv.stays rfl
    cases a with
    | run i c =>
      unfold System.step
      dsimp only
      split
      next kind next htask =>
        split
        next r s hcall =>
          obtain ⟨-, rfl⟩ | ⟨htakes, rfl, -⟩ := performOp_eq_some (i := i) hcall
          · exact hstays
          · exact effect_transition hp.inv (hok kind next htask htakes) c
        next => exact hstays
      next => exact hstays
    | outside e => exact hp.inv.stays (happens_workflow e p.shared).2.1
    | start k => exact hstays

end Sound

/-! ## Runs -/

section Runs

variable (hashCode : String → String) (env : Env) (timeouts : Timeouts) {order : WorkflowOrder}

/-- A run from a placed order follows the state machine in every step, with a rider wherever one
is needed, exactly when every call that takes effect is in order. -/
theorem writers_follow_iff (h : Placed order) (otps : List HandoffOtp)
    (as : List (Action Choice Event (Request × Date))) :
    Steps (workflowSystem hashCode env timeouts).step
        (fun p p' => Follows p.shared.order p'.shared.order) ⟨{ order, otps }, []⟩ as ↔
      Guarded (workflowSystem hashCode env timeouts).step
        (OnOps fun _ kind c s => CallInOrder kind c s) ⟨{ order, otps }, []⟩ as := by
  have hlaw : (inOrder hashCode env timeouts).Lawful := inOrder_lawful
  have hstart : (inOrder hashCode env timeouts).Holds ⟨{ order, otps }, []⟩ :=
    Contract.holds_start h.tracked fun _ => trivial
  exact steps_iff_guarded (fun _ _ hp hok => hlaw.step hp (onOps_meets hok))
    (fun _ a hp => step_follows_iff hp a) hstart as

end Runs

/-- A cash order all the way: accepted, assigned, picked up. -/
def pickup : List (Action Choice Event (Request × Date)) :=
  [.start (.step (.sellerAccept 3), 10), .run 0 {}, .start (.step (.deliveryAccept 4 false), 30),
    .run 1 {}, .run 1 {}, .start (.step (.confirmPickup 4), 40), .run 2 {}, .run 2 {}, .run 2 {}]

theorem writers_follow_iff_pickup :
    (exec (workflowSystem id {} {}).step ⟨{ order := waitingOrder }, []⟩
        pickup).shared.order.workflowStatus = some .outForDelivery ∧
      (Steps (workflowSystem id {} {}).step (fun p p' => Follows p.shared.order p'.shared.order)
          ⟨{ order := waitingOrder }, []⟩ pickup ↔
        Guarded (workflowSystem id {} {}).step (OnOps fun _ kind c s => CallInOrder kind c s)
          ⟨{ order := waitingOrder }, []⟩ pickup) := by
  refine ⟨by decide, ?_⟩
  exact writers_follow_iff id {} {} ⟨by decide, .inr rfl, rfl, rfl, rfl, rfl, rfl⟩ [] pickup

/-- An administrator confirms an order that its seller rejects before the save. -/
def reactivation : List (Action Choice Event (Request × Date)) :=
  [.start (.updateOrderStatus ⟨1, .admin⟩ (some .confirmed) none "", 10), .run 0 {},
    .start (.step (.sellerReject 3), 20), .run 1 {}, .run 0 {}]

/-- The cancelled order goes back to the search for a rider. -/
theorem cancelled_order_reactivated :
    ¬ ∀ order : WorkflowOrder, Placed order →
      ∀ as : List (Action Choice Event (Request × Date)),
        Steps (workflowSystem id {} {}).step
          (fun p p' => Follows p.shared.order p'.shared.order) ⟨{ order }, []⟩ as := by
  intro follows
  have hplaced : Placed { waitingOrder with sellerPendingExpiresAt := some 100 } :=
    ⟨by decide, .inr rfl, rfl, rfl, rfl, rfl, rfl⟩
  exact absurd (follows _ hplaced reactivation) (by decide)

end DiscountBazar.Workflow
