/-
What every argument about the engine shares.

Most operations of the engine's programs are routine: reads, status writes, the completion
of a gateway refund and questions to other services. The rest is in five places, the
planner, the late capture, the capture itself, the wallet transaction and the gateway
attempt. `Handles` says that a contract copes with the routine operations and with those
five, and `Handles.entry` that it then copes with every program a task can start with. A
result about the engine is proved by giving its contract and the fields of `Handles`.
-/
import DiscountBazar.Cancellation.RefundEngine

namespace DiscountBazar.Cancellation

open Finance Tasks
open Contract (Sound)
open Cancellation

/-! ## Routine operations -/

/-- An operation that is none of the special ones; a status write that is routine does not
write `SUCCESSFUL`. -/
def routine : Op → Prop
  | .db (.setAllocation _ fields) => fields.status ≠ some .successful
  | .db (.walletTransaction _ _) => False
  | .db (.freezePlan _) => False
  | .db (.pushLateCapture _ _ _) => False
  | .db (.capturePayment _) => False
  | .db .handleOnlineOrderFinance => False
  | .claimAllocation _ => False
  | .findRefunds _ => False
  | .sendRefund _ _ => False
  | .awaitRefund => False
  | _ => True

section Routine

open Prog

theorem routine_finalizeRefundStatus : finalizeRefundStatus.All routine := by
  refine All.bind (All.perform trivial) (fun record => ?_)
  refine All.ite All.ret ?_
  exact All.bind (All.perform trivial) (fun _ => All.ret)

theorem routine_gatewayFailed (id : ObjectId) : routine (.db (.setAllocation id gatewayFailed)) := by
  simp [routine, gatewayFailed]

theorem routine_handleGatewayRefundUpdate (gatewayRefundId : ObjectId)
    (status : GatewayRefundStatus) :
    (handleGatewayRefundUpdate gatewayRefundId status).All routine := by
  refine All.bind (All.perform trivial) (fun record => ?_)
  split
  next => exact All.ret
  next allocation _ =>
    refine All.ite All.ret ?_
    refine All.bind (All.perform trivial) (fun o => ?_)
    cases o with
    | none => exact All.throw
    | some order =>
      have hfinish : (finalizeRefundStatus >>= fun _ => (pure true : Engine Bool)).All routine :=
        All.bind routine_finalizeRefundStatus (fun _ => All.ret)
      cases status with
      | successful => exact All.bind (All.perform trivial) (fun _ => hfinish)
      | failed => exact All.bind (All.perform (routine_gatewayFailed _)) (fun _ => hfinish)
      | processing => exact hfinish

theorem routine_resolveRefundManually (note : String) :
    (resolveRefundManually note).All routine := by
  refine All.ite All.throw ?_
  refine All.bind (All.perform trivial) (fun record => ?_)
  exact All.ite (All.perform trivial) All.throw

/-- An operation on the database or a question. -/
def offGateway : Op → Prop
  | .db _ => True
  | op => asks op

theorem offGateway_db (op : DbOp) : offGateway (.db op) := trivial

theorem offGateway_cases {op : Op} (hop : offGateway op) : (∃ o, op = .db o) ∨ asks op := by
  cases op with
  | db o => exact .inl ⟨o, rfl⟩
  | _ => exact .inr hop

theorem offGateway_of_routine {op : Op} (hop : routine op) : offGateway op := by
  cases op <;> trivial

theorem offGateway_planRefund (record : CancellationRecord) :
    (planRefund record).All offGateway := by
  have hfreeze : ∀ policy order, (freezeRefundPlan record policy order).All offGateway :=
    fun policy order => All.bind (All.perform trivial)
      (fun _ => All.bind (All.perform trivial) (fun _ => All.ret))
  refine All.bind (All.perform trivial) (fun policy => ?_)
  refine All.bind (All.perform trivial) (fun o => ?_)
  cases o with
  | none => exact All.throw
  | some order =>
    refine All.ite ?_ (hfreeze policy order)
    refine All.bind (All.perform trivial) (fun outcome => ?_)
    refine All.bind (All.perform trivial) (fun o => ?_)
    cases o with
    | none => exact All.throw
    | some order =>
      refine All.bind (All.perform trivial) (fun now => ?_)
      exact All.ite (All.bind (All.perform trivial) (fun _ => All.ret)) (hfreeze policy order)

theorem offGateway_addLateCaptureAllocation : addLateCaptureAllocation.All offGateway := by
  refine All.bind (All.perform trivial) (fun policy => ?_)
  refine All.bind (All.perform trivial) (fun record => ?_)
  refine All.bind (All.perform trivial) (fun o => ?_)
  cases o with
  | none => exact All.ret
  | some order =>
    refine All.ite All.ret (All.ite All.ret (All.ite All.ret ?_))
    dsimp only
    split
    · exact All.ret
    · exact All.perform trivial

theorem offGateway_captureOrderPayment (gatewayPaymentId : Option ObjectId) :
    (captureOrderPayment gatewayPaymentId).All offGateway :=
  All.bind (All.perform trivial) (fun _ => All.perform trivial)

end Routine

/-! ## From the parts to the programs -/

section Handles

variable {maxGatewayAttempts : ℕ} (K : Contract (engine maxGatewayAttempts)) (i : ℕ)
  (I : World → Prop) (Known : Allocation → World → Prop)

/-- The allocation goes back to the payment's source at the gateway. -/
def toSource (allocation : Allocation) : Prop :=
  allocation.destination = .originalSource ∧ allocation.source = .gateway

instance : DecidablePred toSource := fun _ => inferInstanceAs (Decidable (_ ∧ _))

/-- The contract copes with the parts of the engine. `I` is what task `i` knows of the world
between its attempts, `Known` what it knows of an allocation it has read. -/
structure Handles : Prop where
  stable : ∀ w w', K.rely i w w' → I w → I w'
  known : ∀ j w w' a, K.rely j w w' → Known a w → Known a w'
  read : ∀ w, K.inv w → ∀ a ∈ w.record.refund.allocations.rows, Known a w
  routine : ∀ op, routine op → ∀ w, K.inv w → I w → ∀ outcome, K.may i op outcome w →
    ∀ r w', performOp i op outcome w = some (r, w') →
      K.inv w' ∧ (∀ j, j ≠ i → K.rely j w w') ∧ I w'
  wallet : ∀ order allocation w, I w → Known allocation w → ¬ toSource allocation →
    K.Sound i (fun _ => I) (fun _ => I) (onDb (.walletTransaction order allocation)) w
  attempt : ∀ order allocation gatewayPaymentId w, I w → Known allocation w →
    toSource allocation →
    K.Sound i (fun _ => I) (fun _ => I) (claimAndRefund order allocation gatewayPaymentId) w
  plan : ∀ record w, I w → K.Sound i (fun _ => I) (fun _ => I) (planRefund record) w
  late : ∀ w, I w → K.Sound i (fun _ => I) (fun _ => I) addLateCaptureAllocation w
  capture : ∀ gatewayPaymentId w, K.inv w → I w →
    Entry.mayStart w (.onLatePaymentCapture gatewayPaymentId) = true →
      K.Sound i (fun _ => I) (fun _ => I) (captureOrderPayment gatewayPaymentId) w

variable {K i I Known}

namespace Handles

variable (h : Handles K i I Known) {w : World}

include h

theorem all {α : Type} {p : Engine α} (hp : p.All Cancellation.routine) (hw : I w) :
    K.Leaving i I p w :=
  Contract.sound_of_all h.stable (fun op hop w hinv hI => h.routine op hop w hinv hI) hp hw

theorem op (o : Op) (ho : Cancellation.routine o) (hw : I w) :
    K.Leaving i I (Prog.perform o) w :=
  h.all (Prog.All.perform ho) hw

theorem framed {α : Type} {p : Engine α} {allocations : List Allocation}
    (hp : K.Leaving i I p w) (hknown : ∀ a ∈ allocations, Known a w) :
    K.Sound i (fun _ w => I w ∧ ∀ a ∈ allocations, Known a w) (fun _ => I) p w :=
  (hp.frame (fun j w w' hrely (hk : ∀ a ∈ allocations, Known a w) a ha =>
    h.known j w w' a hrely (hk a ha)) hknown).mono (fun _ _ h => h) (fun _ _ h => h.1)

theorem findRecord (hw : I w) :
    K.Sound i (fun record w => I w ∧ ∀ a ∈ record.refund.allocations.rows, Known a w)
      (fun _ => I) findRecord w := by
  refine Sound.perform (fun w' hrely hinv outcome hmay r w'' hstep => ?_)
  obtain ⟨hinv', hother, hI⟩ :=
    h.routine (.db .findRecord) trivial w' hinv (h.stable w w' hrely hw) outcome hmay r w'' hstep
  refine ⟨hinv', hother, fun record hr => ⟨hI, fun a ha => ?_⟩, fun _ _ => hI⟩
  subst hr
  rcases performOp_db hstep with hrun | ⟨e, he, -⟩
  · have hrecord : record = w'.record := Except.ok.inj (congrArg Prod.fst hrun)
    have hsame : w'' = w' := congrArg Prod.snd hrun
    rw [hsame]
    rw [hrecord] at ha
    exact h.read w' hinv a ha
  · cases he

theorem processWalletDestination (order : Order) (allocation : Allocation) (hw : I w)
    (hknown : Known allocation w) (hsource : ¬ toSource allocation) :
    K.Leaving i I (processWalletDestination order allocation) w := by
  refine Sound.tryCatch (h.wallet order allocation w hw hknown hsource)
    (fun e w hw => ?_)
  exact Sound.bind (h.op (.db (.setAllocation allocation.id _)) (by simp [Cancellation.routine]) hw)
    (fun _ _ hw => hw)

theorem processOriginalSource (order : Order) (allocation : Allocation) (hw : I w)
    (hknown : Known allocation w) (hsource : toSource allocation) :
    K.Leaving i I (processOriginalSource maxGatewayAttempts order allocation) w := by
  have hset : ∀ {w : World} (fields : AllocationFields), fields.status ≠ some .successful → I w →
      K.Leaving i I (setAllocation allocation.id fields) w :=
    fun fields hfields hw => h.op (.db (.setAllocation allocation.id fields)) hfields hw
  unfold Cancellation.processOriginalSource
  split
  next gatewayRefundId _ =>
    refine Sound.bind (h.op (.getRefundStatus gatewayRefundId) trivial hw)
      (fun status w hw => ?_)
    cases status with
    | successful => exact h.op (.db (.completeTransaction order allocation)) trivial hw
    | failed => exact h.op (.db (.setAllocation allocation.id gatewayFailed)) (routine_gatewayFailed _) hw
    | processing => exact hw
  next _ =>
    split
    · exact hset _ (by simp) hw
    · have hknown' : ∀ a ∈ [allocation], Known a w := by
        intro a ha
        rw [List.mem_singleton.mp ha]
        exact hknown
      refine Sound.bind
        (h.framed (h.op (.db .findCapturedPaymentForOrder) trivial hw) hknown')
        (fun payment w hw => ?_)
      cases payment with
      | none => exact hset _ (by simp) hw.1
      | some gatewayPaymentId =>
        exact h.attempt order allocation gatewayPaymentId w hw.1
          (hw.2 allocation (List.mem_singleton_self allocation)) hsource

theorem processAllocation (order : Option Order) (allocation : Allocation) (hw : I w)
    (hknown : Known allocation w) :
    K.Leaving i I (processAllocation maxGatewayAttempts order allocation) w := by
  unfold Cancellation.processAllocation
  split
  · exact hw
  · cases order with
    | none => exact hw
    | some order =>
      dsimp only
      split
      next hsource => exact h.processOriginalSource order allocation hw hknown hsource
      next hsource =>
        split
        · exact h.processWalletDestination order allocation hw hknown hsource
        · exact hw

/-- The loop, by induction on the allocations; an error of one does not end it. -/
theorem processAllocations (order : Option Order) (allocations : List Allocation) (hw : I w)
    (hknown : ∀ a ∈ allocations, Known a w) :
    K.Leaving i I (processAllocations maxGatewayAttempts order allocations) w := by
  induction allocations generalizing w with
  | nil => exact hw
  | cons allocation rest ih =>
    have hrest : ∀ a ∈ rest, Known a w := fun a ha => hknown a (List.mem_cons_of_mem _ ha)
    have hfirst : K.Leaving i I
        ((Cancellation.processAllocation maxGatewayAttempts order allocation >>=
          fun _ => (pure false : Engine Bool)).tryCatch (fun _ => pure true)) w :=
      Sound.tryCatch
        (Sound.bind
          (h.processAllocation order allocation hw (hknown allocation (List.mem_cons_self ..)))
          (fun _ _ hw => Sound.ret hw))
        (fun _ _ (hw : I _) => Sound.ret hw)
    refine Sound.bind (h.framed hfirst hrest) (fun failed w hw => ?_)
    exact Sound.bind (ih hw.1 hw.2) (fun _ _ hw => hw)

theorem processFrozen (record : CancellationRecord) (hw : I w)
    (hknown : ∀ a ∈ record.refund.allocations.rows, Known a w) :
    K.Leaving i I (processFrozen maxGatewayAttempts record) w := by
  refine Sound.bind (h.framed (h.op (.db .findOrder) trivial hw) hknown)
    (fun order w hw => ?_)
  refine Sound.bind (h.processAllocations order _ hw.1 hw.2) (fun failed w hw => ?_)
  exact Sound.bind (h.all routine_finalizeRefundStatus hw) (fun _ _ hw => hw)

theorem processCancellationRefund (hw : I w) :
    K.Leaving i I (processCancellationRefund maxGatewayAttempts) w := by
  refine Sound.bind (h.findRecord hw) (fun record w hw => ?_)
  split
  · split
    · exact Sound.bind (h.op (.db .holdForInspection) trivial hw.1) (fun _ _ hw => hw)
    · exact hw.1
  · split
    · refine Sound.bind (h.plan record w hw.1) (fun answer w hw => ?_)
      cases answer with
      | waiting => exact hw
      | planned =>
        exact Sound.bind (h.findRecord hw)
          (fun record w hw => h.processFrozen record hw.1 hw.2)
    · exact h.processFrozen record hw.1 hw.2

theorem resetFailedRefund (hw : I w) :
    K.Leaving i I (Cancellation.resetFailedRefund maxGatewayAttempts) w := by
  refine Sound.bind (h.op (.db .findRecord) trivial hw) (fun record w hw => ?_)
  split
  · exact Sound.bind (h.op (.db (.saveReset record.refund)) trivial hw)
      (fun _ w hw => h.processCancellationRefund hw)
  · exact hw

theorem entry (k : Entry) (hinv : K.inv w) (hw : I w) (hstart : k.mayStart w = true) :
    K.Keeps i (k.program maxGatewayAttempts) w := by
  have hdiscard : ∀ {α : Type} {p : Engine α}, K.Leaving i I p w →
      K.Keeps i p.discard w :=
    fun hp => (hp.mono (fun _ _ _ => trivial) (fun _ _ _ => trivial)).discard
  cases k with
  | processCancellationRefund => exact hdiscard (h.processCancellationRefund hw)
  | resetFailedRefund => exact hdiscard (h.resetFailedRefund hw)
  | resolveRefundManually note =>
    exact (h.all (routine_resolveRefundManually note) hw).mono (fun _ _ _ => trivial)
      (fun _ _ _ => trivial)
  | handleGatewayRefundUpdate gatewayRefundId status =>
    exact hdiscard (h.all (routine_handleGatewayRefundUpdate gatewayRefundId status) hw)
  | addLateCaptureAllocation => exact hdiscard (h.late w hw)
  | onLatePaymentCapture gatewayPaymentId =>
    refine hdiscard (Sound.bind (h.capture gatewayPaymentId w hinv hw hstart)
      (fun _ w hw => ?_))
    exact Sound.bind (h.late w hw) (fun _ w hw => h.processCancellationRefund hw)

end Handles

end Handles

end DiscountBazar.Cancellation
