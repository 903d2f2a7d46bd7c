/-
Who may read, write and call on an order (`communicationAccess.js`, `orderCommunication.js`).

The rules are pure: they see the caller, the order as it was loaded and the resolved configuration.
Ids of orders stand for their texts.
-/
import DiscountBazar.Cancellation.SelfCancel

namespace DiscountBazar.Chat

open Finance
open Cancellation (workflowFromLegacyStatus)

/-- `COMM_CHANNEL`. -/
inductive Channel where
  | customerRider | sellerRider
  deriving DecidableEq

/-- `COMM_ROLE`. -/
inductive Role where
  | customer | seller | rider | admin
  deriving DecidableEq

inductive AccessReason where
  | channelInvalid | channelNotForRole | notAParty | notAssignedRider | riderNotAssigned
  | statusNotEligible | chatDisabled
  deriving DecidableEq

/-- The fields of the order that access is decided from (`ORDER_ACCESS_FIELDS`), with the name in
its address. -/
structure Order where
  orderId : ObjectId
  customer : Option ObjectId := none
  seller : Option ObjectId := none
  deliveryBoy : Option ObjectId := none
  workflowStatus : Option WorkflowStatus := none
  status : LegacyStatus := .pending
  assignmentVersion : ℕ := 0
  sellerAcceptedAt : Option Date := none
  sellerReadyAt : Option Date := none
  sellerReadyEtaAt : Option Date := none
  pickupReadyAt : Option Date := none
  pickupConfirmedAt : Option Date := none
  createdAt : Option Date := none
  addressName : Option String := none
  deriving DecidableEq

/-- What `getCommunicationConfig` resolves to. -/
structure Config where
  chatEnabled : Bool := true
  callEnabled : Bool := true
  messageMaxLength : ℕ := 500
  riderAssignmentDelayMinutes : ℕ := 10
  historyPageSize : ℕ := 50
  deriving DecidableEq

/-- `activeStatuses`, which nothing overrides. -/
def activeStatuses : Channel → List WorkflowStatus
  | .customerRider => [.deliveryAssigned, .pickupReady, .outForDelivery]
  | .sellerRider => [.deliveryAssigned, .pickupReady]

def historyStatuses : Channel → List WorkflowStatus
  | .customerRider => [.delivered, .cancelled]
  | .sellerRider => [.outForDelivery, .delivered, .cancelled]

def normalizeCommRole (role : String) : Option Role :=
  let r := role.toList.map Char.toLower
  if r = "user".toList ∨ r = "customer".toList then some .customer
  else if r = "seller".toList then some .seller
  else if r = "delivery".toList then some .rider
  else if r = "admin".toList then some .admin
  else none

def orderWorkflowStatus (order : Order) : WorkflowStatus :=
  order.workflowStatus.getD (workflowFromLegacyStatus order.status)

def channelsForRole : Role → List Channel
  | .customer => [.customerRider]
  | .seller => [.sellerRider]
  | .rider => [.sellerRider, .customerRider]
  | .admin => []

/-- `partyCheck`, where `none` for the channel is a text that names no channel. -/
def partyCheck (role : Role) (userId : ObjectId) (order : Order) :
    Option Channel → Option AccessReason
  | none => some .channelInvalid
  | some channel =>
    if channel ∉ channelsForRole role then some .channelNotForRole
    else if role = .customer ∧ order.customer ≠ some userId then some .notAParty
    else if role = .seller ∧ order.seller ≠ some userId then some .notAParty
    else if role = .rider ∧ order.deliveryBoy ≠ some userId then some .notAssignedRider
    else none

/-- What `evaluateChannelAccess` returns. -/
structure Decision where
  allowed : Bool := false
  canSend : Bool := false
  canCall : Bool := false
  readOnly : Bool := false
  reason : Option AccessReason := none
  riderId : Option ObjectId := none
  deriving DecidableEq

/-- The decision for a party of the channel while a rider is assigned. -/
def evaluateStage (order : Order) (channel : Channel) (config : Config) : Decision :=
  let ws := orderWorkflowStatus order
  let base : Decision := { riderId := order.deliveryBoy }
  if ws ∈ activeStatuses channel then
    if config.chatEnabled = false ∧ config.callEnabled = false then
      { base with reason := some .chatDisabled }
    else
      { base with
        allowed := true
        canSend := config.chatEnabled
        canCall := config.callEnabled
        reason := if config.chatEnabled then none else some .chatDisabled }
  else if ws ∈ historyStatuses channel then
    { base with allowed := true, readOnly := true, reason := some .statusNotEligible }
  else { base with reason := some .statusNotEligible }

def evaluateChannelAccess (role : Role) (userId : ObjectId) (order : Order)
    (channel : Option Channel) (config : Config) : Decision :=
  match partyCheck role userId order channel, channel with
  | some reason, _ => { riderId := order.deliveryBoy, reason := some reason }
  | none, none => { riderId := order.deliveryBoy }
  | none, some c =>
    if order.deliveryBoy = none then
      { riderId := none, reason := some .riderNotAssigned }
    else evaluateStage order c config

/-! ## What the decision rests on -/

def IsParty (role : Role) (userId : ObjectId) (order : Order) : Prop :=
  match role with
  | .customer => order.customer = some userId
  | .seller => order.seller = some userId
  | .rider => order.deliveryBoy = some userId
  | .admin => False

instance (role : Role) (userId : ObjectId) (order : Order) :
    Decidable (IsParty role userId order) := by
  unfold IsParty
  cases role with
  | customer => exact inferInstanceAs (Decidable (order.customer = some userId))
  | seller => exact inferInstanceAs (Decidable (order.seller = some userId))
  | rider => exact inferInstanceAs (Decidable (order.deliveryBoy = some userId))
  | admin => exact inferInstanceAs (Decidable False)

variable {role : Role} {userId : ObjectId} {order : Order} {channel : Option Channel}

theorem isParty_of_partyCheck (h : partyCheck role userId order channel = none) :
    IsParty role userId order := by
  cases channel with
  | none => cases h
  | some c =>
    unfold partyCheck at h
    unfold IsParty
    by_cases hc : c ∈ channelsForRole role
    · cases role with
      | customer | seller | rider => simpa [hc] using h
      | admin => cases hc
    · simp [hc] at h

variable {config : Config}

theorem evaluateChannelAccess_refused {reason : AccessReason}
    (h : partyCheck role userId order channel = some reason) :
    evaluateChannelAccess role userId order channel config
      = { riderId := order.deliveryBoy, reason := some reason } := by
  unfold evaluateChannelAccess
  rw [h]

theorem allowed_cases (h : (evaluateChannelAccess role userId order channel config).allowed = true) :
    ∃ c rider, channel = some c ∧ order.deliveryBoy = some rider ∧
      partyCheck role userId order channel = none ∧
      evaluateChannelAccess role userId order channel config = evaluateStage order c config := by
  cases hcheck : partyCheck role userId order channel with
  | some reason =>
    rw [evaluateChannelAccess_refused hcheck] at h
    cases h
  | none =>
    cases channel with
    | none => cases hcheck
    | some c =>
      unfold evaluateChannelAccess at h ⊢
      rw [hcheck] at h ⊢
      dsimp only at h ⊢
      cases hrider : order.deliveryBoy with
      | none =>
        rw [if_pos hrider] at h
        cases h
      | some rider =>
        refine ⟨c, rider, rfl, rfl, rfl, if_neg (by simp)⟩

theorem evaluateStage_canSend {c : Channel} :
    (evaluateStage order c config).canSend = true ↔
      orderWorkflowStatus order ∈ activeStatuses c ∧ config.chatEnabled = true := by
  unfold evaluateStage
  by_cases hactive : orderWorkflowStatus order ∈ activeStatuses c
  · dsimp only
    rw [if_pos hactive]
    by_cases hoff : config.chatEnabled = false ∧ config.callEnabled = false
    · rw [if_pos hoff]
      simp [hoff.1]
    · rw [if_neg hoff]
      simp [hactive]
  · dsimp only
    rw [if_neg hactive]
    split
    · simp [hactive]
    · simp [hactive]

theorem evaluateStage_allowed_of_canSend {c : Channel}
    (h : (evaluateStage order c config).canSend = true) :
    (evaluateStage order c config).allowed = true := by
  obtain ⟨hactive, hchat⟩ := evaluateStage_canSend.mp h
  unfold evaluateStage
  dsimp only
  rw [if_pos hactive, if_neg (by simp [hchat])]

theorem canSend_iff :
    (evaluateChannelAccess role userId order channel config).canSend = true ↔
      ∃ c rider, channel = some c ∧ order.deliveryBoy = some rider ∧
        partyCheck role userId order channel = none ∧
        orderWorkflowStatus order ∈ activeStatuses c ∧ config.chatEnabled = true := by
  constructor
  · intro h
    cases hcheck : partyCheck role userId order channel with
    | some reason =>
      rw [evaluateChannelAccess_refused hcheck] at h
      cases h
    | none =>
      cases channel with
      | none => cases hcheck
      | some c =>
        unfold evaluateChannelAccess at h
        rw [hcheck] at h
        dsimp only at h
        cases hrider : order.deliveryBoy with
        | none =>
          rw [if_pos hrider] at h
          cases h
        | some rider =>
          rw [if_neg (by rw [hrider]; simp)] at h
          exact ⟨c, rider, rfl, rfl, rfl, evaluateStage_canSend.mp h⟩
  · rintro ⟨c, rider, rfl, hrider, hcheck, hactive, hchat⟩
    unfold evaluateChannelAccess
    rw [hcheck]
    dsimp only
    rw [if_neg (by rw [hrider]; simp)]
    exact evaluateStage_canSend.mpr ⟨hactive, hchat⟩

theorem allowed_of_canSend
    (h : (evaluateChannelAccess role userId order channel config).canSend = true) :
    (evaluateChannelAccess role userId order channel config).allowed = true := by
  obtain ⟨c, rider, rfl, hrider, hcheck, -, -⟩ := canSend_iff.mp h
  unfold evaluateChannelAccess at h ⊢
  rw [hcheck] at h ⊢
  dsimp only at h ⊢
  rw [if_neg (by rw [hrider]; simp)] at h ⊢
  exact evaluateStage_allowed_of_canSend h

theorem partyCheck_rider {rider : ObjectId} (h : order.deliveryBoy = some rider) (channel : Channel)
    : partyCheck .rider rider order (some channel) = none := by
  cases channel with
  | customerRider | sellerRider => simp [partyCheck, channelsForRole, h]

end DiscountBazar.Chat
