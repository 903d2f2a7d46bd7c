/-
The return handlers (`orderReturnService.js`, `orderController.js`, `orderWorkflowController.js`).

Each handler is a program over the calls it makes to the database: it reads the order, decides
on what it has read, and saves the fields it has changed, whatever the order has become in the
meantime. Any number of requests of customers, sellers, riders and admins interleave. The money
of a refund is one call here, which may abort. The number of a request, and what has been
confirmed for it, are kept beside the documents and are read by nobody.
-/
import DiscountBazar.Finance.ReturnRequest
import DiscountBazar.Lib.Tasks

namespace DiscountBazar.Returns

open Tasks Finance
open Prog (perform)

/-! ## Documents -/

structure ReturnOrder extends Order where
  /-- `__v`: a save that replaces an array checks and raises it. -/
  version : ℕ := 0
  updatedAt : Date := 0
  returnSearchExpiresAt : Option Date := none
  /-- `returnSearchMeta.attempt` -/
  returnSearchAttempt : Option ℕ := none
  returnPickedAt : Option Date := none
  returnDeliveredBackAt : Option Date := none
  returnDropVerifiedAt : Option Date := none
  returnDropVerifiedBy : Option ObjectId := none
  returnRejectedReason : Option String := none
  returnQcAt : Option Date := none
  returnQcBy : Option ObjectId := none
  -- the number of the request the return is about; no handler reads it
  request : ℕ := 0

inductive OtpType where
  | returnPickup | returnDrop
  deriving DecidableEq

/-- `OrderOtp`, with the request it was generated for. -/
structure OrderOtp where
  codeHash : String
  expiresAt : Date
  consumedAt : Option Date := none
  attempts : ℕ := 0
  maxAttempts : ℕ := 3
  issuedFor : ℕ

/-- What has been done for the current request: an approval, the customer's confirmation of the
pickup and the seller's of the hand-over. -/
structure Confirmed where
  approved : Bool := false
  pickedUp : Bool := false
  handedOver : Bool := false

/-- A credit `RET-CUST-REFUND` in the ledger, with the items it is for. -/
structure ReturnCredit where
  amount : ℤ
  returnItems : List ReturnItem

/-- The order, its OTPs in the order they were made, and the credits of its returns. -/
structure ReturnDesk where
  order : ReturnOrder
  otps : OtpType → List OrderOtp := fun _ => []
  credits : List ReturnCredit := []
  confirmed : Confirmed := {}

/-! ## Who writes what -/

inductive Role where
  | customer | seller | delivery | admin
  deriving DecidableEq

/-- `req.user`. -/
structure User where
  id : ObjectId
  role : Role

/-- The handler a save belongs to; the OTP that a verification has used is known by the request
it was generated for. -/
inductive Writer where
  | create | approve | reject | assign | accept | rejectPickup | qc
  | updateStatus (role : Role)
  | pickupOtp (issuedFor : ℕ)
  | dropOtp (issuedFor : ℕ)
  deriving DecidableEq

def Writer.replacesArray : Writer → Bool
  | .create | .approve => true
  | _ => false

/-- A field after a save: only a field that the handler has changed is written. -/
def written {α : Type} [DecidableEq α] (loaded edited current : α) : α :=
  if edited = loaded then current else edited

/-- `order.save()`: `loaded` is what the handler has read, `edited` what it has made of it. -/
def saved (writer : Writer) (loaded edited current : ReturnOrder) : ReturnOrder :=
  { current with
    items := written loaded.items edited.items current.items
    returnStatus := written loaded.returnStatus edited.returnStatus current.returnStatus
    returnReason := written loaded.returnReason edited.returnReason current.returnReason
    returnItems := written loaded.returnItems edited.returnItems current.returnItems
    returnRequestedAt :=
      written loaded.returnRequestedAt edited.returnRequestedAt current.returnRequestedAt
    returnEligibleAt :=
      written loaded.returnEligibleAt edited.returnEligibleAt current.returnEligibleAt
    returnWindowExpiresAt :=
      written loaded.returnWindowExpiresAt edited.returnWindowExpiresAt current.returnWindowExpiresAt
    returnDeadline := written loaded.returnDeadline edited.returnDeadline current.returnDeadline
    returnRefundAmount :=
      written loaded.returnRefundAmount edited.returnRefundAmount current.returnRefundAmount
    returnDeliveryCommission :=
      written loaded.returnDeliveryCommission edited.returnDeliveryCommission
        current.returnDeliveryCommission
    returnDeliveryBoy :=
      written loaded.returnDeliveryBoy edited.returnDeliveryBoy current.returnDeliveryBoy
    returnSearchExpiresAt :=
      written loaded.returnSearchExpiresAt edited.returnSearchExpiresAt current.returnSearchExpiresAt
    returnSearchAttempt :=
      written loaded.returnSearchAttempt edited.returnSearchAttempt current.returnSearchAttempt
    returnPickedAt := written loaded.returnPickedAt edited.returnPickedAt current.returnPickedAt
    returnDeliveredBackAt :=
      written loaded.returnDeliveredBackAt edited.returnDeliveredBackAt current.returnDeliveredBackAt
    returnDropVerifiedAt :=
      written loaded.returnDropVerifiedAt edited.returnDropVerifiedAt current.returnDropVerifiedAt
    returnDropVerifiedBy :=
      written loaded.returnDropVerifiedBy edited.returnDropVerifiedBy current.returnDropVerifiedBy
    returnRejectedReason :=
      written loaded.returnRejectedReason edited.returnRejectedReason current.returnRejectedReason
    returnQcAt := written loaded.returnQcAt edited.returnQcAt current.returnQcAt
    returnQcBy := written loaded.returnQcBy edited.returnQcBy current.returnQcBy
    version := if writer.replacesArray then current.version + 1 else current.version
    request := if writer = .create then current.request + 1 else current.request }

/-- What a save confirms: an approval, or an assignment of a pending request; a pickup and a
hand-over by OTP or by an admin. All of it for the request it was meant for. -/
def confirmation (writer : Writer) (loaded edited current : ReturnOrder) : Confirmed where
  approved := decide (loaded.request = current.request ∧
    (writer = .approve ∨ writer = .assign ∧ loaded.returnStatus = .returnRequested))
  pickedUp := decide (writer = .pickupOtp current.request ∨
    loaded.request = current.request ∧ writer = .updateStatus .admin ∧
      edited.returnStatus = .returnInTransit)
  handedOver := decide (writer = .dropOtp current.request ∨
    loaded.request = current.request ∧ writer = .updateStatus .admin ∧
      edited.returnStatus = .returned)

def Confirmed.add (a b : Confirmed) : Confirmed where
  approved := a.approved || b.approved
  pickedUp := a.pickedUp || b.pickedUp
  handedOver := a.handedOver || b.handedOver

/-! ## Database calls -/

inductive Kind where
  | findOrder
  | saveOrder (writer : Writer) (loaded edited : ReturnOrder)
  /-- `Order.updateOne` of `requestReturnDropOtp` -/
  | markDropPending
  /-- the conditional updates of the pickup search: another round, or back to the seller -/
  | searchPickup (expiresAt : Date) (attempt : ℕ)
  | revertPickup
  | findSetting
  | findPartner (riderId : ObjectId)
  | assertRiderCanTakeOrder (riderId : ObjectId)
  | randomCode
  | findOtp (type : OtpType)
  /-- an OTP that is neither used nor expired -/
  | findActiveOtp (type : OtpType) (now : Date)
  | countAttempt (type : OtpType) (index attempts : ℕ)
  | consumeOtp (type : OtpType) (index : ℕ) (now : Date)
  | consumeOtps (type : OtpType) (now : Date)
  | createOtp (type : OtpType) (otp : OrderOtp)
  /-- the transaction of `completeReturnAndRefund` -/
  | refund

@[reducible] def Kind.Reply : Kind → Type
  | .findOrder => ReturnOrder
  | .searchPickup _ _ => Bool
  | .findSetting => ℤ
  | .findPartner _ => Bool
  | .randomCode => String
  | .findOtp _ => Option (ℕ × OrderOtp)
  | .findActiveOtp _ _ => Bool
  | _ => Unit

/-- How a call goes: it is done, it fails before its effect, or its effect is there and its
answer is lost. -/
inductive Outcome where
  | done
  | refused (e : ServiceError)
  | lost (e : ServiceError)

def Outcome.takesEffect : Outcome → Bool
  | .refused _ => false
  | _ => true

structure Choice where
  outcome : Outcome := .done
  returnDeliveryCommission : ℤ := 0
  found : Bool := true
  code : String := "0000"

/-- `Σ (item.price || 0) * (item.quantity || 0)`, in paise. -/
def itemsAmount (returnItems : List ReturnItem) : ℚ :=
  (returnItems.map (fun item => (item.price : ℚ) * item.quantity)).sum

/-- The amount `completeReturnAndRefund` refunds. -/
def refundAmount (order : Order) : ℚ :=
  if order.returnRefundAmount ≠ 0 then order.returnRefundAmount else itemsAmount order.returnItems

def versionError : ServiceError := ⟨"No matching document found for id", none⟩

def ReturnDesk.setOtps (s : ReturnDesk) (type : OtpType) (otps : List OrderOtp) : ReturnDesk :=
  { s with otps := Function.update s.otps type otps }

def searching (order : ReturnOrder) : Bool :=
  decide (order.returnStatus = .returnPickupAssigned ∧ order.returnDeliveryBoy = none)

/-- `completeReturnAndRefund`, the order's part of it: the ledger has room for one credit, and
nothing is written if the order is not waiting for a refund. -/
def completeRefund (s : ReturnDesk) : Except ServiceError Unit × ReturnDesk :=
  if s.order.returnStatus ≠ .qcPassed then (.ok (), s)
  else if 0 < refundAmount s.order.toOrder then
    if s.credits ≠ [] then (.error duplicateKeyError, s)
    else
      let credit : ReturnCredit :=
        ⟨mathRound (refundAmount s.order.toOrder), s.order.returnItems⟩
      (.ok (), { s with
        order := { s.order with returnStatus := .refundCompleted }
        credits := s.credits ++ [credit] })
  else (.ok (), { s with order := { s.order with returnStatus := .refundCompleted } })

def effect (c : Choice) : (kind : Kind) → ReturnDesk → Except ServiceError kind.Reply × ReturnDesk
  | .findOrder, s => (.ok s.order, s)
  | .saveOrder writer loaded edited, s =>
    if writer.replacesArray = true ∧ s.order.version ≠ loaded.version then (.error versionError, s)
    else
      (.ok (), { s with
        order := saved writer loaded edited s.order
        confirmed :=
          if writer = .create then {}
          else s.confirmed.add (confirmation writer loaded edited s.order) })
  | .markDropPending, s =>
    (.ok (), { s with order := { s.order with returnStatus := .returnDropPending } })
  | .searchPickup expiresAt attempt, s =>
    if searching s.order then
      (.ok true, { s with order := { s.order with
        returnSearchExpiresAt := some expiresAt, returnSearchAttempt := some attempt } })
    else (.ok false, s)
  | .revertPickup, s =>
    if searching s.order then
      (.ok (), { s with order := { s.order with
        returnStatus := .returnApproved, returnSearchExpiresAt := none
        returnSearchAttempt := none } })
    else (.ok (), s)
  | .findSetting, s => (.ok c.returnDeliveryCommission, s)
  | .findPartner _, s => (.ok c.found, s)
  | .assertRiderCanTakeOrder _, s => (.ok (), s)
  | .randomCode, s => (.ok c.code, s)
  | .findOtp type, s =>
    (.ok ((s.otps type).getLast?.map (fun otp => ((s.otps type).length - 1, otp))), s)
  | .findActiveOtp type now, s =>
    (.ok ((s.otps type).any (fun otp => otp.consumedAt.isNone && decide (now < otp.expiresAt))), s)
  | .countAttempt type index attempts, s =>
    (.ok (), s.setOtps type ((s.otps type).modify index (fun otp => { otp with attempts })))
  | .consumeOtp type index now, s =>
    (.ok (), s.setOtps type
      ((s.otps type).modify index (fun otp => { otp with consumedAt := some now })))
  | .consumeOtps type now, s =>
    (.ok (), s.setOtps type ((s.otps type).map (fun otp =>
      if otp.consumedAt.isNone then { otp with consumedAt := some now } else otp)))
  | .createOtp type otp, s => (.ok (), s.setOtps type (s.otps type ++ [otp]))
  | .refund, s => completeRefund s

def performOp (_ : ℕ) (kind : Kind) (c : Choice) (s : ReturnDesk) :
    Option (Except ServiceError kind.Reply × ReturnDesk) :=
  match c.outcome with
  | .done => some (effect c kind s)
  | .refused e => some (.error e, s)
  | .lost e => some (.error e, (effect c kind s).2)

/-- A call that is refused changes nothing; one that is not leaves its effect, whatever it
answers. -/
theorem performOp_eq_some {i : ℕ} {kind : Kind} {c : Choice} {s s' : ReturnDesk}
    {r : Except ServiceError kind.Reply} (h : performOp i kind c s = some (r, s')) :
    ((∃ e, r = .error e) ∧ s' = s) ∨
      (c.outcome.takesEffect = true ∧ s' = (effect c kind s).2 ∧
        (r = (effect c kind s).1 ∨ ∃ e, r = .error e)) := by
  unfold performOp at h
  split at h
  next houtcome =>
    have hpair := Option.some.inj h
    refine .inr ⟨by rw [houtcome]; rfl, (congrArg Prod.snd hpair).symm, .inl ?_⟩
    exact (congrArg Prod.fst hpair).symm
  next e houtcome =>
    have hpair := Option.some.inj h
    exact .inl ⟨⟨e, (congrArg Prod.fst hpair).symm⟩, (congrArg Prod.snd hpair).symm⟩
  next e houtcome =>
    have hpair := Option.some.inj h
    refine .inr ⟨by rw [houtcome]; rfl, (congrArg Prod.snd hpair).symm, .inr ⟨e, ?_⟩⟩
    exact (congrArg Prod.fst hpair).symm

/-! ## Handlers -/

abbrev M := Prog Kind Kind.Reply ServiceError

def save (writer : Writer) (loaded edited : ReturnOrder) : M Unit :=
  perform (Kind.saveOrder writer loaded edited)

def mayManage (user : User) (order : ReturnOrder) : Bool :=
  decide (user.role = .admin ∨ user.role = .seller ∧ order.seller = some user.id)

def createReturnRequest (customerId : ObjectId) (payload : ReturnPayload) (now : Date) : M Unit :=
  if payload.items = [] then .throw ⟨"Please select at least one item to return.", some 400⟩
  else if payload.reason = "" then .throw ⟨"Return reason is required.", some 400⟩
  else do
    let order ← perform Kind.findOrder
    if order.customer ≠ customerId then .throw ⟨"Order not found", some 404⟩
    else if order.status ≠ .delivered then
      .throw ⟨"Return can only be requested for delivered orders.", some 400⟩
    else
      match selectReturnItems order.status (order.deliveredAt.getD order.updatedAt) payload.reason
          now order.items [] payload.items with
      | .error e => .throw e
      | .ok (items, selectedItems) =>
        -- the schema of a return item wants a quantity of at least one
        if selectedItems.any (fun item => decide (item.quantity < 1)) then
          .throw ⟨"Order validation failed", none⟩
        else
          save .create order
            { order with toOrder := order.toOrder.returnRequested payload items selectedItems now }

def approveReturn (user : User) : M Unit := do
  let order ← perform Kind.findOrder
  if mayManage user order = false then
    .throw ⟨"Access denied. You are not authorized to approve this return.", some 403⟩
  else if order.returnStatus ≠ .returnRequested then
    .throw ⟨"Only pending return requests can be approved.", some 400⟩
  else if order.returnItems = [] then
    .throw ⟨"No return items found for this order.", some 400⟩
  else do
    let returnCommission ← perform Kind.findSetting
    save .approve order
      { order with
        returnRefundAmount := itemsAmount order.returnItems
        returnDeliveryCommission := returnCommission
        returnStatus := .returnApproved
        returnDeliveryBoy := none }

/-- `rejectReturn`; `reason` is trimmed. -/
def rejectReturn (user : User) (reason : String) : M Unit :=
  if reason = "" then .throw ⟨"Rejection reason is required.", some 400⟩
  else do
    let order ← perform Kind.findOrder
    if mayManage user order = false then
      .throw ⟨"Access denied. You are not authorized to reject this return.", some 403⟩
    else if order.returnStatus ≠ .returnRequested then
      .throw ⟨"Only pending return requests can be rejected.", some 400⟩
    else
      save .reject order
        { order with returnStatus := .returnRejected, returnRejectedReason := some reason }

/-- How long a pickup search waits for a rider, and how often it asks. -/
structure SearchConfig where
  timeoutMs : ℤ := 60000
  maxAttempts : ℕ := 3

/-- `assignReturnDelivery`, and the search `startReturnPickupBroadcast` starts. -/
def assignReturnDelivery (config : SearchConfig) (user : User) (deliveryBoyId : Option ObjectId)
    (now : Date) : M Unit := do
  let order ← perform Kind.findOrder
  if mayManage user order = false then
    .throw ⟨"Access denied. You are not authorized to assign return pickup.", some 403⟩
  else if order.returnStatus ≠ .returnRequested ∧ order.returnStatus ≠ .returnApproved then
    .throw ⟨"Return pickup can only be assigned for pending or approved returns.", some 400⟩
  else
    match deliveryBoyId with
    | some riderId => do
        let partner ← perform (Kind.findPartner riderId)
        if partner = false then .throw ⟨"Delivery partner not found.", some 404⟩
        else
          save .assign order
            { order with
              returnDeliveryBoy := some riderId, returnStatus := .returnPickupAssigned }
    | none => do
        save .assign order
          { order with returnDeliveryBoy := none, returnStatus := .returnPickupAssigned }
        (perform (Kind.searchPickup (now + config.timeoutMs) 1)).discard

def acceptReturnPickup (user : User) : M Unit := do
  let order ← perform Kind.findOrder
  match order.returnDeliveryBoy with
  | some riderId =>
    if riderId ≠ user.id then
      .throw ⟨"This return pickup is already assigned to another rider.", some 403⟩
    else pure ()
  | none => do
      let admitted : M Unit :=
        if user.role = .delivery then perform (Kind.assertRiderCanTakeOrder user.id)
        else pure ()
      admitted
      save .accept order
        { order with
          returnDeliveryBoy := some user.id
          returnStatus := .returnPickupAssigned
          returnSearchExpiresAt := none }

/-- `rejectReturnPickup`; who skips an offer to everybody is only noted. -/
def rejectReturnPickup (user : User) : M Unit := do
  let order ← perform Kind.findOrder
  if order.returnDeliveryBoy ≠ some user.id then
    if order.returnDeliveryBoy = none then pure ()
    else .throw ⟨"You are not assigned to this return pickup.", some 403⟩
  else if order.returnStatus ≠ .returnPickupAssigned then
    .throw ⟨"Cannot reject in current status.", some 400⟩
  else
    save .rejectPickup order
      { order with
        returnDeliveryBoy := none
        returnStatus := .returnApproved
        returnSearchExpiresAt := none
        returnSearchAttempt := none }

def orderOf : ReturnStatus → ℕ
  | .returnPickupAssigned => 1
  | .returnInTransit => 2
  | .returned => 3
  | _ => 0

/-- `updateReturnStatus`; a text that is no status at all is refused like a wrong one. -/
def updateReturnStatus (user : User) (returnStatus : Option ReturnStatus) (now : Date) : M Unit :=
  match returnStatus with
  | none => .throw ⟨"returnStatus is required.", some 400⟩
  | some returnStatus => do
      let order ← perform Kind.findOrder
      if ¬ (user.role = .delivery ∧ order.returnDeliveryBoy = some user.id) ∧
          user.role ≠ .admin then
        .throw ⟨"Access denied. You are not authorized to update this return.", some 403⟩
      else if returnStatus ∉ [.returnPickupAssigned, .returnInTransit, .returned] then
        .throw ⟨"Invalid returnStatus value.", some 400⟩
      -- only forward transitions; every other status counts as zero
      else if orderOf returnStatus < orderOf order.returnStatus then
        .throw ⟨"Return status cannot move backwards.", some 400⟩
      else if returnStatus = .returnInTransit then
        save (.updateStatus user.role) order
          { order with
            returnStatus := .returnInTransit
            returnPickedAt := some (order.returnPickedAt.getD now) }
      else if returnStatus = .returned then
        save (.updateStatus user.role) order
          { order with
            returnStatus := .returned
            returnDeliveredBackAt := some (order.returnDeliveredBackAt.getD now) }
      else save (.updateStatus user.role) order { order with returnStatus }

/-- `completeReturnAndRefund` after a passed check; `updateReturnQcStatus`. -/
def updateReturnQcStatus (user : User) (qcStatus : ReturnStatus) (now : Date) : M Unit :=
  if user.role ≠ .admin then .throw ⟨"Access denied. Admins only.", some 403⟩
  else if qcStatus ∉ [.qcPassed, .qcFailed] then .throw ⟨"Invalid qcStatus value.", some 400⟩
  else do
    let order ← perform Kind.findOrder
    if order.returnStatus ≠ .returned then
      .throw ⟨"QC can only be completed after the item is returned.", some 400⟩
    else do
      save .qc order
        { order with
          returnStatus := qcStatus, returnQcAt := some now, returnQcBy := some user.id }
      if qcStatus = .qcPassed then perform Kind.refund else pure ()

/-! ### OTPs -/

section Otp

variable (hashCode : String → String)

/-- A fresh OTP in the place of those that are left. -/
def issueOtp (type : OtpType) (order : ReturnOrder) (now : Date) : M Unit := do
  let otp ← perform Kind.randomCode
  perform (Kind.consumeOtps type now)
  perform (Kind.createOtp type
    { codeHash := hashCode otp, expiresAt := now + 10 * 60 * 1000, issuedFor := order.request })

def generateReturnPickupOtp (user : User) (now : Date) : M Unit := do
  let order ← perform Kind.findOrder
  if order.returnStatus ≠ .returnPickupAssigned then
    .throw ⟨"Return is not in pickup assigned status.", some 400⟩
  else if user.role = .delivery ∧ order.returnDeliveryBoy.any (fun id => decide (id ≠ user.id)) then
    .throw ⟨"This return pickup is assigned to another delivery partner.", some 400⟩
  else issueOtp hashCode .returnPickup order now

def generateReturnDropOtp (now : Date) : M Unit := do
  let order ← perform Kind.findOrder
  if order.returnStatus ∉ [.returnInTransit, .returnDropPending] then
    .throw ⟨"Return must be in transit before drop-off.", some 400⟩
  else issueOtp hashCode .returnDrop order now

/-- `validateReturnPickupOtp` and `validateReturnDropOtp`: the request the OTP was generated
for. -/
def validateOtp (type : OtpType) (code : String) (now : Date) : M ℕ := do
  match ← perform (Kind.findOtp type) with
  | none => .throw ⟨"OTP_NOT_FOUND", some 400⟩
  | some (index, otp) =>
    if otp.consumedAt.isSome then .throw ⟨"OTP_CONSUMED", some 400⟩
    else if otp.maxAttempts ≤ otp.attempts then .throw ⟨"MAX_ATTEMPTS_EXCEEDED", some 400⟩
    else if otp.expiresAt < now then .throw ⟨"OTP_EXPIRED", some 400⟩
    else if hashCode code ≠ otp.codeHash then do
      perform (Kind.countAttempt type index (otp.attempts + 1))
      .throw ⟨"OTP_MISMATCH", some 400⟩
    else do
      perform (Kind.consumeOtp type index now)
      pure otp.issuedFor

/-- `verifyReturnPickupOtp`; `code` is trimmed. -/
def verifyReturnPickupOtp (user : User) (code : String) (now : Date) : M Unit :=
  if code = "" then .throw ⟨"OTP code is required", some 400⟩
  else do
    let order ← perform Kind.findOrder
    if user.role = .delivery ∧ order.returnDeliveryBoy ≠ some user.id then
      .throw ⟨"Not assigned to this return", some 403⟩
    else do
      let issuedFor ← validateOtp hashCode .returnPickup code now
      save (.pickupOtp issuedFor) order
        { order with returnStatus := .returnInTransit, returnPickedAt := some now }

def requestReturnDropOtp (user : User) (now : Date) : M Unit := do
  let order ← perform Kind.findOrder
  if order.returnDeliveryBoy ≠ some user.id then
    .throw ⟨"Not assigned to this return", some 403⟩
  else if order.returnStatus ∉ [.returnInTransit, .returnDropPending] then
    .throw ⟨"Cannot request seller OTP in this status", some 400⟩
  else do
    generateReturnDropOtp hashCode now
    perform Kind.markDropPending

def verifyReturnDropOtp (user : User) (code : String) (now : Date) : M Unit := do
  let order ← perform Kind.findOrder
  if order.returnDeliveryBoy ≠ some user.id then
    .throw ⟨"Not assigned to this return", some 403⟩
  else if code = "" then .throw ⟨"orderId and OTP are required", some 400⟩
  else do
    let issuedFor ← validateOtp hashCode .returnDrop code now
    save (.dropOtp issuedFor) order
      { order with
        returnStatus := .returned
        returnDeliveredBackAt := some now
        returnDropVerifiedAt := some now
        returnDropVerifiedBy := some user.id }

/-- `getReturnDetails` makes a drop OTP where there is none in force. -/
def getReturnDetails (user : User) (now : Date) : M Unit := do
  let order ← perform Kind.findOrder
  if mayManage user order = false ∧ ¬ (user.role = .customer ∧ order.customer = user.id) ∧
      ¬ (user.role = .delivery ∧ order.returnDeliveryBoy = some user.id) then
    .throw ⟨"Access denied. You are not authorized to view this return.", some 403⟩
  else do
    let active ← perform (Kind.findActiveOtp .returnDrop now)
    if active = false ∧ order.returnStatus ∈ [.returnInTransit, .returnDropPending] then
      (generateReturnDropOtp hashCode now).tryCatch (fun _ => pure ())
    else pure ()

end Otp

def processReturnPickupTimeoutJob (config : SearchConfig) (attempt : ℕ) (now : Date) : M Unit := do
  let order ← perform Kind.findOrder
  if searching order = false ∨ order.returnSearchExpiresAt.any (fun t => decide (now < t)) then pure ()
  else
    let currentAttempt := order.returnSearchAttempt.getD attempt
    if currentAttempt < config.maxAttempts then
      (perform (Kind.searchPickup (now + config.timeoutMs) (currentAttempt + 1))).discard
    else perform Kind.revertPickup

/-! ## The system -/

/-- A request to one of the handlers; `none` is a job of the server itself. -/
inductive Request where
  | requestReturn (payload : ReturnPayload)
  | approveReturnRequest
  | rejectReturnRequest (reason : String)
  | assignReturnDelivery (deliveryBoyId : Option ObjectId)
  | acceptReturnPickup
  | rejectReturnPickup
  | updateReturnStatus (returnStatus : Option ReturnStatus)
  | updateReturnQcStatus (qcStatus : ReturnStatus)
  | requestReturnPickupOtp
  | verifyReturnPickupOtp (code : String)
  | requestReturnDropOtp
  | verifyReturnDropOtp (code : String)
  | getReturnDetails
  | returnPickupTimeout (attempt : ℕ)

/-- The roles the route lets through (`allowRoles`). -/
def Request.roles : Request → List Role
  | .requestReturn _ | .getReturnDetails | .returnPickupTimeout _ =>
    [.customer, .seller, .delivery, .admin]
  | .approveReturnRequest | .rejectReturnRequest _ | .assignReturnDelivery _ => [.admin, .seller]
  | .updateReturnQcStatus _ => [.admin]
  | _ => [.admin, .delivery]

def handle (hashCode : String → String) (config : SearchConfig) (user : User) (now : Date) :
    Request → M Unit
  | .requestReturn payload => createReturnRequest user.id payload now
  | .approveReturnRequest => approveReturn user
  | .rejectReturnRequest reason => rejectReturn user reason
  | .assignReturnDelivery deliveryBoyId => assignReturnDelivery config user deliveryBoyId now
  | .acceptReturnPickup => acceptReturnPickup user
  | .rejectReturnPickup => rejectReturnPickup user
  | .updateReturnStatus returnStatus => updateReturnStatus user returnStatus now
  | .updateReturnQcStatus qcStatus => updateReturnQcStatus user qcStatus now
  | .requestReturnPickupOtp => generateReturnPickupOtp hashCode user now
  | .verifyReturnPickupOtp code => verifyReturnPickupOtp hashCode user code now
  | .requestReturnDropOtp => requestReturnDropOtp hashCode user now
  | .verifyReturnDropOtp code => verifyReturnDropOtp hashCode user code now
  | .getReturnDetails => getReturnDetails hashCode user now
  | .returnPickupTimeout attempt => processReturnPickupTimeoutJob config attempt now

structure Incoming where
  user : User
  now : Date
  request : Request

def route (hashCode : String → String) (config : SearchConfig) (incoming : Incoming) : M Unit :=
  if incoming.user.role ∈ incoming.request.roles then
    handle hashCode config incoming.user incoming.now incoming.request
  else .throw ⟨"Access denied", some 403⟩

def returnSystem (hashCode : String → String) (config : SearchConfig) :
    System Kind Kind.Reply ServiceError ReturnDesk Choice Empty Incoming where
  perform := performOp
  outside := fun e => nomatch e
  entry := route hashCode config
  mayStart := fun _ _ => true

end DiscountBazar.Returns
