/-
The return state machine: what has been confirmed for a return before its refund, and which
returns may not move.

The handlers that look at the status before they write need only find it unchanged at their
save; the others (a new request, the acceptance of a pickup, the status update, the two OTPs)
write over whatever status the order has. The invariant says, for each status, what has been
confirmed for the request by then.
-/
import DiscountBazar.Returns.Handlers

namespace DiscountBazar.Returns

open Tasks Finance Runs Confirmed

/-! ## Statuses -/

/-- There is no return to go on with: never requested, rejected, or refunded. -/
def isOver : ReturnStatus → Bool
  | .none | .returnRejected | .refundCompleted => true
  | _ => false

/-- A return is under way. -/
def inProgress : ReturnStatus → Bool
  | .none | .returnRejected | .qcFailed | .refundCompleted => false
  | _ => true

def needs : ReturnStatus → Confirmed
  | .none | .returnRequested | .returnRejected => {}
  | .returnApproved | .returnPickupAssigned => { approved := true }
  | .returnInTransit | .returnDropPending => { approved := true, pickedUp := true }
  | .returned | .qcPassed | .qcFailed | .refundCompleted =>
    { approved := true, pickedUp := true, handedOver := true }

/-- Everything in `a` is in `b`. -/
structure Confirmed.Within (a b : Confirmed) : Prop where
  approved : a.approved = true → b.approved = true
  pickedUp : a.pickedUp = true → b.pickedUp = true
  handedOver : a.handedOver = true → b.handedOver = true

instance (a b : Confirmed) : Decidable (a.Within b) :=
  decidable_of_iff ((a.approved = true → b.approved = true) ∧ (a.pickedUp = true → b.pickedUp = true) ∧
      (a.handedOver = true → b.handedOver = true))
    ⟨fun h => ⟨h.1, h.2.1, h.2.2⟩, fun h => ⟨h.approved, h.pickedUp, h.handedOver⟩⟩

namespace Confirmed

variable {a b c : Confirmed}

theorem Within.trans (hab : a.Within b) (hbc : b.Within c) : a.Within c where
  approved := fun h => hbc.approved (hab.approved h)
  pickedUp := fun h => hbc.pickedUp (hab.pickedUp h)
  handedOver := fun h => hbc.handedOver (hab.handedOver h)

theorem within_add_left : a.Within (a.add b) where
  approved := fun h => by simp [add, h]
  pickedUp := fun h => by simp [add, h]
  handedOver := fun h => by simp [add, h]

theorem Within.add (h : a.Within b) : (a.add c).Within (b.add c) where
  approved := fun hac => by
    simp only [Confirmed.add, Bool.or_eq_true] at hac ⊢
    exact hac.imp_left h.approved
  pickedUp := fun hac => by
    simp only [Confirmed.add, Bool.or_eq_true] at hac ⊢
    exact hac.imp_left h.pickedUp
  handedOver := fun hac => by
    simp only [Confirmed.add, Bool.or_eq_true] at hac ⊢
    exact hac.imp_left h.handedOver

theorem empty_within : ({} : Confirmed).Within a where
  approved := fun h => nomatch h
  pickedUp := fun h => nomatch h
  handedOver := fun h => nomatch h

end Confirmed

/-! ## The property -/

def CheckedInOrder (s : ReturnDesk) : Prop :=
  s.order.returnStatus = .qcPassed ∨ s.order.returnStatus = .refundCompleted →
    s.confirmed.approved = true ∧ s.confirmed.pickedUp = true ∧ s.confirmed.handedOver = true

/-- A return that is over stays so until there is a new request, and a new request comes only
when none is under way. -/
structure Moves (s s' : ReturnDesk) : Prop where
  stays : isOver s.order.returnStatus = true →
    s'.order.returnStatus = s.order.returnStatus ∨
      s'.order.request = s.order.request + 1 ∧ s'.order.returnStatus = .returnRequested
  kept : s'.order.request ≠ s.order.request → inProgress s.order.returnStatus = false

/-! ## The condition -/

/-- Handlers that look at the status they have read before they write another. -/
def Writer.checksStatus : Writer → Bool
  | .approve | .reject | .assign | .rejectPickup | .qc => true
  | _ => false

def MayWrite (current status : ReturnStatus) (confirms : Confirmed) : Prop :=
  isOver current = false ∧ (needs status).Within ((needs current).add confirms)

instance (current status : ReturnStatus) (confirms : Confirmed) :
    Decidable (MayWrite current status confirms) := inferInstanceAs (Decidable (_ ∧ _))

/-- A new request has not read a pending one, and is saved when none is under way. A handler
that checks the status finds it, and the request, as it has read them. Any other write of a
status is one the return is ready for. -/
def SaveInOrder (writer : Writer) (loaded edited current : ReturnOrder) : Prop :=
  if writer = .create then
    current.version = loaded.version →
      loaded.returnStatus ≠ .returnRequested ∧ inProgress current.returnStatus = false
  else
    edited.returnStatus = loaded.returnStatus ∨
      (writer.checksStatus = true ∧ current.returnStatus = loaded.returnStatus ∧
        current.request = loaded.request) ∨
      MayWrite current.returnStatus edited.returnStatus (confirmation writer loaded edited current)

instance (writer : Writer) (loaded edited current : ReturnOrder) :
    Decidable (SaveInOrder writer loaded edited current) := by
  unfold SaveInOrder
  infer_instance

def EffectInOrder : Kind → ReturnDesk → Prop
  | .saveOrder writer loaded edited, s => SaveInOrder writer loaded edited s.order
  | .markDropPending, s => MayWrite s.order.returnStatus .returnDropPending {}
  | _, _ => True

instance (kind : Kind) (s : ReturnDesk) : Decidable (EffectInOrder kind s) := by
  unfold EffectInOrder
  split <;> infer_instance

def CallInOrder (kind : Kind) (c : Choice) (s : ReturnDesk) : Prop :=
  c.outcome.takesEffect = true → EffectInOrder kind s

instance (kind : Kind) (c : Choice) (s : ReturnDesk) : Decidable (CallInOrder kind c s) :=
  inferInstanceAs (Decidable (_ → _))

/-! ## What the handlers write -/

/-- The status a save writes, by the handler. -/
def Issued : Kind → Prop
  | .saveOrder writer loaded edited =>
    match writer with
    | .create => edited.returnStatus = .returnRequested
    | .approve =>
      loaded.returnStatus = .returnRequested ∧ edited.returnStatus = .returnApproved
    | .reject =>
      loaded.returnStatus = .returnRequested ∧ edited.returnStatus = .returnRejected
    | .assign =>
      (loaded.returnStatus = .returnRequested ∨ loaded.returnStatus = .returnApproved) ∧
        edited.returnStatus = .returnPickupAssigned
    | .rejectPickup =>
      loaded.returnStatus = .returnPickupAssigned ∧ edited.returnStatus = .returnApproved
    | .qc =>
      loaded.returnStatus = .returned ∧
        (edited.returnStatus = .qcPassed ∨ edited.returnStatus = .qcFailed)
    | _ => True
  | _ => True

/-- A call of a handler other than a new request: it leaves the items alone. -/
def Ordinary : Kind → Prop
  | .saveOrder writer loaded edited =>
    writer ≠ .create ∧ edited.items = loaded.items ∧ edited.returnItems = loaded.returnItems ∧
      Issued (.saveOrder writer loaded edited)
  | _ => True

variable {kind : Kind}

theorem Ordinary.issued (h : Ordinary kind) : Issued kind := by
  cases kind with
  | saveOrder writer loaded edited => exact h.2.2.2
  | _ => trivial

/-- A call that is neither a save nor the refund. -/
def Kind.isPlain : Kind → Bool
  | .saveOrder _ _ _ | .refund => false
  | _ => true

/-- What the calls for a return under way meet: plain ones, and saves that leave the items and the
refund alone. -/
structure Permits (P : Kind → Prop) : Prop where
  plain : ∀ kind : Kind, kind.isPlain = true → P kind
  save : ∀ {writer : Writer} {loaded edited : ReturnOrder}, writer ≠ .create →
    edited.items = loaded.items → edited.returnItems = loaded.returnItems →
    edited.returnRefundAmount = loaded.returnRefundAmount →
    Issued (.saveOrder writer loaded edited) → P (.saveOrder writer loaded edited)

theorem ordinary_permits : Permits Ordinary where
  plain := by
    intro kind hplain
    cases kind with
    | saveOrder => cases hplain
    | _ => trivial
  save := fun hwriter hitems hreturn _ h => ⟨hwriter, hitems, hreturn, h⟩

/-- The requests that neither make, approve nor check a return. -/
def Underway : Request → Bool
  | .requestReturn _ | .approveReturnRequest | .updateReturnQcStatus _ => false
  | _ => true

section Programs

open Prog

variable {loaded edited : ReturnOrder}

theorem save_ordinary {writer : Writer} (hwriter : writer ≠ .create)
    (hitems : edited.items = loaded.items) (hreturn : edited.returnItems = loaded.returnItems)
    (h : Issued (.saveOrder writer loaded edited)) : (save writer loaded edited).All Ordinary :=
  All.perform ⟨hwriter, hitems, hreturn, h⟩

theorem save_all {writer : Writer} (h : Issued (.saveOrder writer loaded edited)) :
    (save writer loaded edited).All Issued :=
  All.perform h

theorem createReturnRequest_all (customerId : ObjectId) (payload : ReturnPayload) (now : Date) :
    (createReturnRequest customerId payload now).All Issued := by
  refine All.ite All.throw (All.ite All.throw (All.bind (All.perform trivial) fun order => ?_))
  refine All.ite All.throw (All.ite All.throw ?_)
  cases selectReturnItems order.status (order.deliveredAt.getD order.updatedAt) payload.reason now
      order.items [] payload.items with
  | error e => exact All.throw
  | ok selected =>
    apply All.ite All.throw
    apply save_all
    rfl

theorem approveReturn_ordinary (user : User) : (approveReturn user).All Ordinary := by
  refine All.bind (All.perform trivial) fun order => All.ite All.throw ?_
  refine All.ite_of (fun _ => All.throw) fun hstatus => All.ite All.throw ?_
  refine All.bind (All.perform trivial) fun returnCommission => save_ordinary nofun rfl rfl ?_
  exact ⟨not_not.mp hstatus, rfl⟩

theorem updateReturnQcStatus_ordinary (user : User) (qcStatus : ReturnStatus) (now : Date) :
    (updateReturnQcStatus user qcStatus now).All Ordinary := by
  refine All.ite All.throw (All.ite_of (fun _ => All.throw) fun hqc => ?_)
  refine All.bind (All.perform trivial) fun order => ?_
  refine All.ite_of (fun _ => All.throw) fun hstatus => ?_
  refine All.bind (save_ordinary nofun rfl rfl ⟨not_not.mp hstatus, ?_⟩) fun _ => All.ite (All.perform trivial) All.ret
  simpa [or_iff_not_imp_left] using hqc

section Underway

variable {P : Kind → Prop} (hP : Permits P)

include hP

theorem Permits.call {kind : Kind} (h : kind.isPlain = true) :
    (perform kind : M kind.Reply).All P := All.perform (hP.plain kind h)

theorem rejectReturn_all (user : User) (reason : String) :
    (rejectReturn user reason).All P := by
  refine All.ite All.throw (All.bind (hP.call rfl) fun order => All.ite All.throw ?_)
  refine All.ite_of (fun _ => All.throw) fun hstatus => All.perform (hP.save nofun rfl rfl rfl ?_)
  exact ⟨not_not.mp hstatus, rfl⟩

theorem assignReturnDelivery_all (config : SearchConfig) (user : User)
    (deliveryBoyId : Option ObjectId) (now : Date) :
    (assignReturnDelivery config user deliveryBoyId now).All P := by
  refine All.bind (hP.call rfl) fun order => All.ite All.throw ?_
  refine All.ite_of (fun _ => All.throw) fun hstatus => ?_
  have hloaded : order.returnStatus = .returnRequested ∨ order.returnStatus = .returnApproved := by
    by_contra h
    exact hstatus (not_or.mp h)
  cases deliveryBoyId with
  | some riderId =>
    refine All.bind (hP.call rfl) fun partner => All.ite All.throw (All.perform (hP.save nofun rfl rfl rfl ?_))
    exact ⟨hloaded, rfl⟩
  | none =>
    refine All.bind (All.perform (hP.save nofun rfl rfl rfl ?_)) fun _ => All.discard (hP.call rfl)
    exact ⟨hloaded, rfl⟩

theorem acceptReturnPickup_all (user : User) : (acceptReturnPickup user).All P := by
  refine All.bind (hP.call rfl) fun order => ?_
  cases order.returnDeliveryBoy with
  | some riderId => exact All.ite All.throw All.ret
  | none =>
    refine All.bind ?_ fun _ => All.perform (hP.save nofun rfl rfl rfl ?_)
    · exact All.ite (hP.call rfl) All.ret
    · trivial

theorem rejectReturnPickup_all (user : User) : (rejectReturnPickup user).All P := by
  refine All.bind (hP.call rfl) fun order => All.ite (All.ite All.ret All.throw) ?_
  refine All.ite_of (fun _ => All.throw) fun hstatus => All.perform (hP.save nofun rfl rfl rfl ?_)
  exact ⟨not_not.mp hstatus, rfl⟩

theorem updateReturnStatus_all (user : User) (returnStatus : Option ReturnStatus) (now : Date) :
    (updateReturnStatus user returnStatus now).All P := by
  cases returnStatus with
  | none => exact All.throw
  | some returnStatus =>
    refine All.bind (hP.call rfl) fun order => ?_
    refine All.ite All.throw (All.ite All.throw (All.ite All.throw ?_))
    exact All.ite (All.perform (hP.save nofun rfl rfl rfl trivial)) (All.ite (All.perform (hP.save nofun rfl rfl rfl trivial)) (All.perform (hP.save nofun rfl rfl rfl trivial)))

section Otp

variable (hashCode : String → String)

theorem issueOtp_all (type : OtpType) (order : ReturnOrder) (now : Date) :
    (issueOtp hashCode type order now).All P :=
  All.bind (hP.call rfl) fun _ => All.bind (hP.call rfl) fun _ => hP.call rfl

theorem generateReturnPickupOtp_all (user : User) (now : Date) :
    (generateReturnPickupOtp hashCode user now).All P :=
  All.bind (hP.call rfl) fun _ =>
    All.ite All.throw (All.ite All.throw (issueOtp_all hP hashCode _ _ now))

theorem generateReturnDropOtp_all (now : Date) :
    (generateReturnDropOtp hashCode now).All P :=
  All.bind (hP.call rfl) fun _ => All.ite All.throw (issueOtp_all hP hashCode _ _ now)

theorem validateOtp_all (type : OtpType) (code : String) (now : Date) :
    (validateOtp hashCode type code now).All P := by
  refine All.bind (hP.call rfl) fun found => ?_
  cases found with
  | none => exact All.throw
  | some found =>
    refine All.ite All.throw (All.ite All.throw (All.ite All.throw (All.ite ?_ ?_)))
    · exact All.bind (hP.call rfl) fun _ => All.throw
    · exact All.bind (hP.call rfl) fun _ => All.ret

theorem verifyReturnPickupOtp_all (user : User) (code : String) (now : Date) :
    (verifyReturnPickupOtp hashCode user code now).All P :=
  All.ite All.throw (All.bind (hP.call rfl) fun _ =>
    All.ite All.throw (All.bind (validateOtp_all hP hashCode _ code now) fun _ => All.perform (hP.save nofun rfl rfl rfl trivial)))

theorem requestReturnDropOtp_all (user : User) (now : Date) :
    (requestReturnDropOtp hashCode user now).All P :=
  All.bind (hP.call rfl) fun _ => All.ite All.throw (All.ite All.throw
    (All.bind (generateReturnDropOtp_all hP hashCode now) fun _ => hP.call rfl))

theorem verifyReturnDropOtp_all (user : User) (code : String) (now : Date) :
    (verifyReturnDropOtp hashCode user code now).All P :=
  All.bind (hP.call rfl) fun _ => All.ite All.throw (All.ite All.throw
    (All.bind (validateOtp_all hP hashCode _ code now) fun _ => All.perform (hP.save nofun rfl rfl rfl trivial)))

theorem getReturnDetails_all (user : User) (now : Date) :
    (getReturnDetails hashCode user now).All P :=
  All.bind (hP.call rfl) fun _ => All.ite All.throw (All.bind (hP.call rfl) fun _ =>
    All.ite (All.tryCatch (generateReturnDropOtp_all hP hashCode now) fun _ => All.ret) All.ret)

end Otp

theorem processReturnPickupTimeoutJob_all (config : SearchConfig) (attempt : ℕ) (now : Date) :
    (processReturnPickupTimeoutJob config attempt now).All P :=
  All.bind (hP.call rfl) fun _ =>
    All.ite All.ret (All.ite (All.discard (hP.call rfl)) (hP.call rfl))

theorem handle_all (hashCode : String → String) (config : SearchConfig) (user : User) (now : Date)
    {request : Request} (h : Underway request = true) :
    (handle hashCode config user now request).All P := by
  cases request with
  | requestReturn | approveReturnRequest | updateReturnQcStatus => cases h
  | rejectReturnRequest reason => exact rejectReturn_all hP user reason
  | assignReturnDelivery deliveryBoyId => exact assignReturnDelivery_all hP config user _ now
  | acceptReturnPickup => exact acceptReturnPickup_all hP user
  | rejectReturnPickup => exact rejectReturnPickup_all hP user
  | updateReturnStatus returnStatus => exact updateReturnStatus_all hP user returnStatus now
  | requestReturnPickupOtp => exact generateReturnPickupOtp_all hP hashCode user now
  | verifyReturnPickupOtp code => exact verifyReturnPickupOtp_all hP hashCode user code now
  | requestReturnDropOtp => exact requestReturnDropOtp_all hP hashCode user now
  | verifyReturnDropOtp code => exact verifyReturnDropOtp_all hP hashCode user code now
  | getReturnDetails => exact getReturnDetails_all hP hashCode user now
  | returnPickupTimeout attempt => exact processReturnPickupTimeoutJob_all hP config attempt now

end Underway

theorem handle_ordinary (hashCode : String → String) (config : SearchConfig) (user : User) (now : Date)
    {request : Request} (h : ∀ payload, request ≠ .requestReturn payload) :
    (handle hashCode config user now request).All Ordinary := by
  cases request with
  | requestReturn payload => exact absurd rfl (h payload)
  | approveReturnRequest => exact approveReturn_ordinary user
  | updateReturnQcStatus qcStatus => exact updateReturnQcStatus_ordinary user qcStatus now
  | _ => exact handle_all ordinary_permits hashCode config user now rfl

theorem route_all (hashCode : String → String) (config : SearchConfig) (incoming : Incoming) :
    (route hashCode config incoming).All Issued := by
  refine All.ite ?_ All.throw
  by_cases h : ∃ payload, incoming.request = .requestReturn payload
  · obtain ⟨payload, hrequest⟩ := h
    rw [hrequest]
    exact createReturnRequest_all _ payload _
  · have hordinary := handle_ordinary hashCode config incoming.user incoming.now (not_exists.mp h)
    exact hordinary.mono (fun _ => Ordinary.issued)

end Programs

/-! ## One call -/

def Backed (s : ReturnDesk) : Prop := (needs s.order.returnStatus).Within s.confirmed

variable {s : ReturnDesk}

theorem Backed.checkedInOrder (h : Backed s) : CheckedInOrder s := by
  rintro (hstatus | hstatus)
  · unfold Backed at h
    rw [hstatus] at h
    exact ⟨h.approved rfl, h.pickedUp rfl, h.handedOver rfl⟩
  · unfold Backed at h
    rw [hstatus] at h
    exact ⟨h.approved rfl, h.pickedUp rfl, h.handedOver rfl⟩

def Step (s s' : ReturnDesk) : Prop := Backed s' ∧ Moves s s'

theorem Moves.refl (s : ReturnDesk) : Moves s s where
  stays := fun _ => .inl rfl
  kept := fun h => absurd rfl h

theorem step_of_same {s s' : ReturnDesk} (h : Backed s)
    (hstatus : s'.order.returnStatus = s.order.returnStatus)
    (hrequest : s'.order.request = s.order.request) (hconfirmed : s'.confirmed = s.confirmed) :
    Step s s' := by
  refine ⟨?_, fun _ => .inl hstatus, fun hne => absurd hrequest hne⟩
  unfold Backed
  rw [hstatus, hconfirmed]
  exact h

theorem step_of_mayWrite {s s' : ReturnDesk} {confirms : Confirmed} (h : Backed s)
    (hmay : MayWrite s.order.returnStatus s'.order.returnStatus confirms)
    (hrequest : s'.order.request = s.order.request)
    (hconfirmed : s'.confirmed = s.confirmed.add confirms) : Step s s' := by
  refine ⟨?_, fun hover => ?_, fun hne => absurd hrequest hne⟩
  · unfold Backed
    rw [hconfirmed]
    exact hmay.2.trans (Confirmed.Within.add h)
  · rw [hmay.1] at hover
    cases hover

theorem mayWrite_of_checked {writer : Writer} {loaded edited current : ReturnOrder}
    (hissued : Issued (.saveOrder writer loaded edited)) (hchecks : writer.checksStatus = true)
    (hstatus : current.returnStatus = loaded.returnStatus)
    (hrequest : current.request = loaded.request) :
    MayWrite current.returnStatus edited.returnStatus
      (confirmation writer loaded edited current) := by
  cases writer with
  | create | accept | updateStatus _ | pickupOtp _ | dropOtp _ => cases hchecks
  | approve =>
    obtain ⟨hloaded, hedited⟩ := hissued
    rw [hstatus, hloaded, hedited]
    exact ⟨rfl, ⟨fun _ => by simp [confirmation, add, hrequest], nofun, nofun⟩⟩
  | reject =>
    obtain ⟨hloaded, hedited⟩ := hissued
    rw [hstatus, hloaded, hedited]
    exact ⟨rfl, empty_within⟩
  | assign =>
    obtain ⟨hloaded | hloaded, hedited⟩ := hissued
    · rw [hstatus, hloaded, hedited]
      exact ⟨rfl, ⟨fun _ => by simp [confirmation, add, hrequest, hloaded], nofun, nofun⟩⟩
    · rw [hstatus, hloaded, hedited]
      exact ⟨rfl, within_add_left⟩
  | rejectPickup =>
    obtain ⟨hloaded, hedited⟩ := hissued
    rw [hstatus, hloaded, hedited]
    exact ⟨rfl, within_add_left⟩
  | qc =>
    obtain ⟨hloaded, hedited | hedited⟩ := hissued
    · rw [hstatus, hloaded, hedited]
      exact ⟨rfl, within_add_left⟩
    · rw [hstatus, hloaded, hedited]
      exact ⟨rfl, within_add_left⟩

theorem save_step {writer : Writer} {loaded edited : ReturnOrder} (h : Backed s)
    (hissued : Issued (.saveOrder writer loaded edited))
    (hversion : writer.replacesArray = true → s.order.version = loaded.version)
    (hok : SaveInOrder writer loaded edited s.order) :
    Step s { s with
      order := saved writer loaded edited s.order
      confirmed :=
        if writer = .create then {}
        else s.confirmed.add (confirmation writer loaded edited s.order) } := by
  unfold SaveInOrder at hok
  by_cases hcreate : writer = .create
  · subst hcreate
    rw [if_pos rfl] at hok ⊢
    obtain ⟨hloaded, hfree⟩ := hok (hversion rfl)
    have hstatus : (saved .create loaded edited s.order).returnStatus = .returnRequested := by
      have hedited : edited.returnStatus = .returnRequested := hissued
      change written _ _ _ = _
      rw [written, hedited, if_neg (Ne.symm hloaded)]
    refine ⟨?_, fun _ => .inr ⟨rfl, hstatus⟩, fun _ => hfree⟩
    unfold Backed
    rw [hstatus]
    exact empty_within
  · rw [if_neg hcreate] at hok ⊢
    have hrequest : (saved writer loaded edited s.order).request = s.order.request := if_neg hcreate
    by_cases hsame : edited.returnStatus = loaded.returnStatus
    · -- the status is not among the fields that are written
      have hstatus : (saved writer loaded edited s.order).returnStatus = s.order.returnStatus :=
        if_pos hsame
      refine ⟨?_, fun _ => .inl hstatus, fun hne => absurd hrequest hne⟩
      unfold Backed
      rw [hstatus]
      exact h.trans within_add_left
    · have hstatus : (saved writer loaded edited s.order).returnStatus = edited.returnStatus :=
        if_neg hsame
      have hmay : MayWrite s.order.returnStatus edited.returnStatus
          (confirmation writer loaded edited s.order) := by
        rcases hok with hok | ⟨hchecks, hread, hsameRequest⟩ | hok
        · exact absurd hok hsame
        · exact mayWrite_of_checked hissued hchecks hread hsameRequest
        · exact hok
      rw [← hstatus] at hmay
      exact step_of_mayWrite h hmay hrequest rfl

theorem refund_step (h : Backed s) : Step s (completeRefund s).2 := by
  unfold completeRefund
  by_cases hstatus : s.order.returnStatus = .qcPassed
  · have hbacked : (needs .refundCompleted).Within s.confirmed := by
      unfold Backed at h
      rw [hstatus] at h
      exact h
    have hopen : isOver s.order.returnStatus = true → False := by
      rw [hstatus]
      exact Bool.false_ne_true
    rw [if_neg (not_not.mpr hstatus)]
    split
    · split
      · exact ⟨h, Moves.refl s⟩
      · exact ⟨hbacked, fun hover => absurd hover hopen, fun hne => absurd rfl hne⟩
    · exact ⟨hbacked, fun hover => absurd hover hopen, fun hne => absurd rfl hne⟩
  · rw [if_pos hstatus]
    exact ⟨h, Moves.refl s⟩

theorem effect_step {c : Choice} (h : Backed s) (hissued : Issued kind) (hok : EffectInOrder kind s) :
    Step s (effect c kind s).2 := by
  cases kind with
  | saveOrder writer loaded edited =>
    unfold effect
    dsimp only
    split
    · exact ⟨h, Moves.refl s⟩
    next hversion =>
      have hread : writer.replacesArray = true → s.order.version = loaded.version :=
        fun hreplaces => by_contra fun hne => hversion ⟨hreplaces, hne⟩
      exact save_step h hissued hread hok
  | markDropPending =>
    refine step_of_mayWrite h hok rfl ?_
    simp [effect, add]
  | searchPickup expiresAt attempt =>
    unfold effect
    dsimp only
    split
    · exact step_of_same h rfl rfl rfl
    · exact ⟨h, Moves.refl s⟩
  | revertPickup =>
    unfold effect
    dsimp only
    split
    next hsearching =>
      have hstatus : s.order.returnStatus = .returnPickupAssigned :=
        (of_decide_eq_true hsearching).1
      have hmay : MayWrite s.order.returnStatus .returnApproved {} := by
        rw [hstatus]
        decide
      refine step_of_mayWrite h hmay rfl ?_
      simp [add]
    next => exact ⟨h, Moves.refl s⟩
  | refund => exact refund_step h
  | findOrder | findSetting | findPartner _ | assertRiderCanTakeOrder _ | randomCode | findOtp _
  | findActiveOtp _ _ | countAttempt _ _ _ | consumeOtp _ _ _ | consumeOtps _ _ | createOtp _ _ =>
    exact step_of_same h rfl rfl rfl

theorem performOp_step (i : ℕ) {c : Choice} {s s' : ReturnDesk} {r : Except ServiceError kind.Reply}
    (h : Backed s) (hissued : Issued kind) (hok : CallInOrder kind c s)
    (hperform : performOp i kind c s = some (r, s')) : Step s s' := by
  rcases performOp_eq_some hperform with ⟨-, rfl⟩ | ⟨hdone, rfl, -⟩
  · exact ⟨h, Moves.refl _⟩
  · exact effect_step h hissued (hok hdone)

/-! ## Runs -/

section Runs

variable (hashCode : String → String) (config : SearchConfig)

def InOrder : Pool Kind Kind.Reply ServiceError ReturnDesk → Action Choice Empty Incoming → Prop :=
  OnOps (fun _ kind c s => CallInOrder kind c s)

instance (p : Pool Kind Kind.Reply ServiceError ReturnDesk) (a : Action Choice Empty Incoming) :
    Decidable (InOrder p a) :=
  inferInstanceAs (Decidable (OnOps (fun _ kind c s => CallInOrder kind c s) p a))

def desk (order : ReturnOrder) : Pool Kind Kind.Reply ServiceError ReturnDesk := ⟨{ order }, []⟩

theorem action_step {p : Pool Kind Kind.Reply ServiceError ReturnDesk}
    {a : Action Choice Empty Incoming} (h : Backed p.shared) (hall : p.All Issued)
    (hok : InOrder p a) : Step p.shared ((returnSystem hashCode config).step p a).shared :=
  System.step_relates hall hok ⟨h, Moves.refl _⟩
    (fun i _ _ _ _ hissued hcall hperform => performOp_step i h hissued hcall hperform)
    (fun e _ _ => nomatch e)

/-- On an order that was never returned, in every run whose calls meet the condition: a return
is checked and refunded only after an approval, a pickup and a hand-over confirmed for it, one
that is over moves no more, and none that is under way is overwritten. -/
theorem returns_in_order (order : ReturnOrder) (hnever : order.returnStatus = .none)
    (as : List (Action Choice Empty Incoming))
    (hok : Guarded (returnSystem hashCode config).step InOrder (desk order) as) :
    Along (returnSystem hashCode config).step (fun p => CheckedInOrder p.shared)
        (desk order) as ∧
      Steps (returnSystem hashCode config).step (fun p p' => Moves p.shared p'.shared)
        (desk order) as := by
  have hstart : Backed (desk order).shared ∧ (desk order).All Issued := by
    refine ⟨?_, Pool.all_nil⟩
    change (needs order.returnStatus).Within _
    rw [hnever]
    exact empty_within
  have hstep : ∀ p a, Backed p.shared ∧ p.All Issued → InOrder p a →
      Backed ((returnSystem hashCode config).step p a).shared ∧
        ((returnSystem hashCode config).step p a).All Issued := by
    rintro p a ⟨hbacked, hall⟩ ha
    exact ⟨(action_step hashCode config hbacked hall ha).1,
      System.step_all (route_all hashCode config) a hall⟩
  refine ⟨?_, ?_⟩
  · exact (along_of_guarded hstep hstart hok).mono (fun p hp => hp.1.checkedInOrder)
  · refine steps_of_guarded hstep ?_ hstart hok
    exact fun p a hp ha => (action_step hashCode config hp.1 hp.2 ha).2

end Runs

def served (task calls : ℕ) (user : User) (request : Request) : List (Action Choice Empty Incoming) :=
  .start ⟨user, 2000, request⟩ :: List.replicate calls (.run task {})

def deliveredShirt : ReturnOrder where
  toOrder := { Order.placed 1 7 (some 3) none .cod (PaymentBreakdown.placed 50000 40000 3000 7000 0) with
    status := .delivered
    deliveredAt := some 1000
    items := [{ id := 11, product := 21, name := "Shirt", quantity := 2, price := 20000
                returnPolicy := { isReturnable := true, returnWindowDays := 7 } }] }

/-- The shirt's return, by the book: customer 7, seller 3, rider 9 and admin 1. -/
def shirtReturn : List (Action Choice Empty Incoming) :=
  served 0 2 ⟨7, .customer⟩ (.requestReturn ⟨[{ itemIndex := some 0 }], "Too small"⟩) ++
  served 1 3 ⟨3, .seller⟩ .approveReturnRequest ++
  served 2 3 ⟨3, .seller⟩ (.assignReturnDelivery (some 9)) ++
  served 3 4 ⟨9, .delivery⟩ .requestReturnPickupOtp ++
  served 4 4 ⟨9, .delivery⟩ (.verifyReturnPickupOtp "0000") ++
  served 5 6 ⟨9, .delivery⟩ .requestReturnDropOtp ++
  served 6 4 ⟨9, .delivery⟩ (.verifyReturnDropOtp "0000") ++
  served 7 3 ⟨1, .admin⟩ (.updateReturnQcStatus .qcPassed)

theorem returns_in_order_shirt :
    Along (returnSystem id {}).step (fun p => CheckedInOrder p.shared) (desk deliveredShirt)
        shirtReturn ∧
      Steps (returnSystem id {}).step (fun p p' => Moves p.shared p'.shared)
        (desk deliveredShirt) shirtReturn :=
  returns_in_order id {} deliveredShirt rfl shirtReturn (by decide +kernel)

/-- A rider takes a pending request that nobody has approved, reports the pickup and the
hand-over himself, and the check refunds it. -/
def selfReported : List (Action Choice Empty Incoming) :=
  served 0 2 ⟨7, .customer⟩ (.requestReturn ⟨[{ itemIndex := some 0 }], "Too small"⟩) ++
  served 1 3 ⟨9, .delivery⟩ .acceptReturnPickup ++
  served 2 2 ⟨9, .delivery⟩ (.updateReturnStatus (some .returnInTransit)) ++
  served 3 2 ⟨9, .delivery⟩ (.updateReturnStatus (some .returned)) ++
  served 4 3 ⟨1, .admin⟩ (.updateReturnQcStatus .qcPassed)

theorem refunded_unconfirmed :
    ¬ ∀ (hashCode : String → String) (config : SearchConfig) (order : ReturnOrder),
      order.returnStatus = .none → ∀ as : List (Action Choice Empty Incoming),
        Along (returnSystem hashCode config).step (fun p => CheckedInOrder p.shared)
            (desk order) as ∧
          Steps (returnSystem hashCode config).step (fun p p' => Moves p.shared p'.shared)
            (desk order) as := by
  intro h
  have hlast := (h id {} deliveredShirt rfl selfReported).1.last
  have hstatus : (exec (returnSystem id {}).step (desk deliveredShirt)
      selfReported).shared.order.returnStatus = .refundCompleted := by decide +kernel
  have hconfirmed : (exec (returnSystem id {}).step (desk deliveredShirt)
      selfReported).shared.confirmed.approved = false := by decide +kernel
  have happroved := (hlast (.inr hstatus)).1
  rw [hconfirmed] at happroved
  cases happroved

end DiscountBazar.Returns
