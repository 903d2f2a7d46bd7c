/-
The refund engine (`cancellationRefundService.js`) as programs.

Each function of the service is a program of atomic operations: a read or a write of the
database, a transaction, or a call to the gateway. A task that runs one of them shares
the world with every other task, and any operation may fail, also after its write has
gone through. Queued notifications, the audit log of the record, the refund summary on
the order and the retry schedule are left out: nothing the engine does depends on them.
-/
import DiscountBazar.Cancellation.RefundRecord
import DiscountBazar.Lib.Tasks

namespace DiscountBazar.Cancellation

open Finance Tasks Prog Option

/-! ## Operations -/

inductive DbOp where
  | findRecord
  | findOrder
  | findCapturedPaymentForOrder
  | holdForInspection
  | awaitPaymentConfirmation (lastError : Option String)
  | freezePlan (plan : RefundPlan)
  | markCancellationReversalApplied
  | setAllocation (id : ObjectId) (fields : AllocationFields)
  | walletTransaction (order : Order) (allocation : Allocation)
  | completeTransaction (order : Order) (allocation : Allocation)
  | setRefundStatus (previous next : RefundStatus) (lastError : Option String)
  | saveReset (seen : Refund)
  | saveResolved (seen : Refund) (note : String)
  | pushLateCapture (gateway : PlannedAllocation) (paidGateway seenAmount : ℤ)
  | capturePayment (gatewayPaymentId : Option ObjectId)
  | handleOnlineOrderFinance

def DbOp.Reply : DbOp → Type
  | .findRecord => CancellationRecord
  | .findOrder => Option Order
  | .findCapturedPaymentForOrder => Option ObjectId
  | .freezePlan _ => Bool
  | .setRefundStatus _ _ _ => Bool
  | .pushLateCapture _ _ _ => Bool
  | _ => Unit

/-- The end of a transaction: an error leaves the world as it was. -/
def commit (w : World) (r : Except ServiceError World) : Except RefundError Unit × World :=
  match r with
  | .ok w' => (.ok (), w')
  | .error e => (.error (.ofService e), w)

def DbOp.run (w : World) : (op : DbOp) → Except RefundError op.Reply × World
  | .findRecord => (.ok w.record, w)
  | .findOrder => (.ok w.order?, w)
  | .findCapturedPaymentForOrder => (.ok w.capturedPayments.head?.join, w)
  | .holdForInspection => (.ok (), w.holdForInspection)
  | .awaitPaymentConfirmation lastError => (.ok (), w.awaitPaymentConfirmation lastError)
  | .freezePlan plan => (.ok (w.freezePlan plan).1, (w.freezePlan plan).2)
  | .markCancellationReversalApplied => (.ok (), w.markCancellationReversalApplied)
  | .setAllocation id fields => (.ok (), w.setAllocation id fields)
  | .walletTransaction order allocation => commit w (w.walletTransaction order allocation)
  | .completeTransaction order allocation => commit w (w.completeTransaction order allocation)
  | .setRefundStatus previous next lastError =>
    (.ok (w.setRefundStatus previous next lastError).1,
      (w.setRefundStatus previous next lastError).2)
  | .saveReset seen => (.ok (), w.saveReset seen)
  | .saveResolved seen note => (.ok (), w.saveResolved seen note)
  | .pushLateCapture gateway paidGateway seenAmount =>
    (.ok (w.pushLateCapture gateway paidGateway seenAmount).1,
      (w.pushLateCapture gateway paidGateway seenAmount).2)
  | .capturePayment gatewayPaymentId => (.ok (), w.capturePayment gatewayPaymentId)
  | .handleOnlineOrderFinance =>
    commit w ((Finance.handleOnlineOrderFinance w.db w.record.order).map
      (fun r => { w with db := r.1 }))

/-- The operations: on the database, the claim that starts a gateway attempt, the calls of
that attempt, and questions to services outside it. `refundPayment` is two operations, the
gateway's acceptance and the return of the call. -/
inductive Op where
  | db (op : DbOp)
  | claimAllocation (id : ObjectId)
  | findRefunds (gatewayPaymentId : ObjectId)
  | sendRefund (gatewayPaymentId : ObjectId) (allocation : Allocation)
  | awaitRefund
  | getRefundStatus (gatewayRefundId : ObjectId)
  | getCancellationPolicy
  | reconcileOrderPaymentStatus
  | dateNow

def Op.Reply : Op → Type
  | .db op => op.Reply
  | .claimAllocation _ => Bool
  | .findRefunds _ => List GatewayRefund
  | .sendRefund _ _ => GatewayRefund
  | .awaitRefund => Unit
  | .getRefundStatus _ => GatewayRefundStatus
  | .getCancellationPolicy => CancellationPolicy
  | .reconcileOrderPaymentStatus => PaymentOutcome
  | .dateNow => Date

/-- How an operation ends: it goes through, it is refused and nothing happens, or it goes
through and its answer is lost. The rest is what the gateway or another service answers. -/
inductive Outcome where
  | done
  | refused (e : RefundError)
  | lost (e : RefundError)
  | listed (ids : List ObjectId)
  | accepted (status : GatewayRefundStatus)
  | policy (p : CancellationPolicy)
  | payment (outcome : PaymentOutcome)

/-- The refund among these that a look for an earlier one of the allocation finds. -/
def existingRefund (id : ObjectId) (refunds : List GatewayRefund) : Option GatewayRefund :=
  refunds.find? (fun r => decide (r.allocationId = id) && r.live)

/-- One operation of task `i`. The calls of an attempt need the attempt to be under way; a
task that has crashed in one is not in it any more. -/
def performOp (i : ℕ) : (op : Op) → Outcome → World → Option (Except RefundError op.Reply × World)
  | .db op, .done, w => some (op.run w)
  | .db op, .lost e, w => some (.error e, (op.run w).2)
  | .db _, .refused e, w => some (.error e, w)
  | .claimAllocation id, .done, w =>
    match w.claimAllocation id [.pending, .failed] true with
    | (true, w') => some (.ok true, w'.openCall i id)
    | (false, w') => some (.ok false, w')
  | .claimAllocation id, .lost e, w =>
    some (.error e, (w.claimAllocation id [.pending, .failed] true).2)
  | .claimAllocation _, .refused e, w => some (.error e, w)
  | .findRefunds gatewayPaymentId, .listed ids, w =>
    (w.callOf i).map (fun c =>
      let refunds := w.listedRefunds gatewayPaymentId ids
      (.ok refunds,
        if (existingRefund c.allocationId refunds).isSome then w.hangUp i
        else w.advanceCall i .clear))
  | .findRefunds _, .refused e, w => (w.callOf i).map (fun _ => (.error e, w.hangUp i))
  | .sendRefund gatewayPaymentId allocation, .accepted status, w =>
    (w.callOf i).map (fun _ =>
      let r := w.acceptRefund i gatewayPaymentId allocation status
      (.ok r.1, r.2))
  | .sendRefund _ _, .refused e, w => (w.callOf i).map (fun _ => (.error e, w.hangUp i))
  | .awaitRefund, .done, w => (w.callOf i).map (fun _ => (.ok (), w.hangUp i))
  | .awaitRefund, .refused e, w => (w.callOf i).map (fun _ => (.error e, w.hangUp i))
  | .getRefundStatus gatewayRefundId, .done, w =>
    (w.gatewayRefunds.get? gatewayRefundId).map (fun r => (.ok r.status, w))
  | .getRefundStatus _, .refused e, w => some (.error e, w)
  | .getCancellationPolicy, .policy p, w => some (.ok p, w)
  | .getCancellationPolicy, .refused e, w => some (.error e, w)
  | .reconcileOrderPaymentStatus, .payment outcome, w => some (.ok outcome, w)
  | .reconcileOrderPaymentStatus, .refused e, w => some (.error e, w)
  | .dateNow, .done, w => some (.ok w.now, w)
  | _, _, _ => none

/-! ## What an operation can do -/

section Cases

variable {i : ℕ} {outcome : Outcome} {w w' : World}

theorem performOp_db {op : DbOp} {r : Except RefundError op.Reply}
    (h : performOp i (.db op) outcome w = some (r, w')) :
    (r, w') = op.run w ∨ ∃ e, r = .error e ∧ (w' = (op.run w).2 ∨ w' = w) := by
  cases outcome with
  | done => exact .inl (some.inj h).symm
  | lost e =>
    cases h
    exact .inr ⟨e, rfl, .inl rfl⟩
  | refused e =>
    cases h
    exact .inr ⟨e, rfl, .inr rfl⟩
  | _ => cases h

theorem performOp_claimAllocation {id : ObjectId} {r : Except RefundError Bool}
    (h : performOp i (.claimAllocation id) outcome w = some (r, w')) :
    (r = .ok true ∧ w.canClaim id [.pending, .failed] true = true ∧
        w' = (w.markClaimed id).openCall i id) ∨
      (r ≠ .ok true ∧ (w' = w ∨ (w.canClaim id [.pending, .failed] true = true ∧
        w' = w.markClaimed id))) := by
  have hnone : ∀ e : RefundError, (.error e : Except RefundError Bool) ≠ .ok true := by
    rintro e ⟨⟩
  by_cases hcan : w.canClaim id [.pending, .failed] true = true
  · have hclaim : w.claimAllocation id [.pending, .failed] true
        = (true, w.markClaimed id) := if_pos hcan
    cases outcome with
    | done =>
      simp only [performOp, hclaim] at h
      cases h
      exact .inl ⟨rfl, hcan, rfl⟩
    | lost e =>
      simp only [performOp, hclaim] at h
      cases h
      exact .inr ⟨hnone e, .inr ⟨hcan, rfl⟩⟩
    | refused e =>
      cases h
      exact .inr ⟨hnone e, .inl rfl⟩
    | _ => cases h
  · have hclaim : w.claimAllocation id [.pending, .failed] true = (false, w) := if_neg hcan
    cases outcome with
    | done =>
      simp only [performOp, hclaim] at h
      cases h
      exact .inr ⟨by rintro ⟨⟩, .inl rfl⟩
    | lost e =>
      simp only [performOp, hclaim] at h
      cases h
      exact .inr ⟨hnone e, .inl rfl⟩
    | refused e =>
      cases h
      exact .inr ⟨hnone e, .inl rfl⟩
    | _ => cases h

theorem performOp_findRefunds {gatewayPaymentId : ObjectId}
    {r : Except RefundError (List GatewayRefund)}
    (h : performOp i (.findRefunds gatewayPaymentId) outcome w = some (r, w')) :
    ∃ c, w.callOf i = some c ∧
      ((∃ ids, outcome = .listed ids ∧ r = .ok (w.listedRefunds gatewayPaymentId ids) ∧
          ((existingRefund c.allocationId (w.listedRefunds gatewayPaymentId ids) ≠ none ∧
              w' = w.hangUp i) ∨
            (existingRefund c.allocationId (w.listedRefunds gatewayPaymentId ids) = none ∧
              w' = w.advanceCall i .clear))) ∨
        ∃ e, r = .error e ∧ w' = w.hangUp i) := by
  cases outcome with
  | listed ids =>
    obtain ⟨c, hc, heq⟩ := map_eq_some_iff.mp h
    refine ⟨c, hc, .inl ⟨ids, rfl, (congrArg Prod.fst heq).symm, ?_⟩⟩
    have hw := (congrArg Prod.snd heq).symm
    dsimp only at hw
    by_cases hfound : (existingRefund c.allocationId
        (w.listedRefunds gatewayPaymentId ids)).isSome = true
    · rw [if_pos hfound] at hw
      exact .inl ⟨ne_none_iff_isSome.mpr hfound, hw⟩
    · rw [if_neg hfound] at hw
      exact .inr ⟨by simpa using hfound, hw⟩
  | refused e =>
    obtain ⟨c, hc, heq⟩ := map_eq_some_iff.mp h
    cases heq
    exact ⟨c, hc, .inr ⟨e, rfl, rfl⟩⟩
  | _ => cases h

theorem performOp_sendRefund {gatewayPaymentId : ObjectId} {allocation : Allocation}
    {r : Except RefundError GatewayRefund}
    (h : performOp i (.sendRefund gatewayPaymentId allocation) outcome w = some (r, w')) :
    ∃ c, w.callOf i = some c ∧
      ((∃ status refund, r = .ok refund ∧
          (refund, w') = w.acceptRefund i gatewayPaymentId allocation status) ∨
        ∃ e, r = .error e ∧ w' = w.hangUp i) := by
  cases outcome with
  | accepted status =>
    obtain ⟨c, hc, heq⟩ := map_eq_some_iff.mp h
    cases heq
    exact ⟨c, hc, .inl ⟨status, _, rfl, rfl⟩⟩
  | refused e =>
    obtain ⟨c, hc, heq⟩ := map_eq_some_iff.mp h
    cases heq
    exact ⟨c, hc, .inr ⟨e, rfl, rfl⟩⟩
  | _ => cases h

theorem performOp_awaitRefund {r : Except RefundError Unit}
    (h : performOp i .awaitRefund outcome w = some (r, w')) :
    (w.callOf i).isSome = true ∧ w' = w.hangUp i := by
  cases outcome with
  | done | refused =>
    obtain ⟨c, hc, heq⟩ := map_eq_some_iff.mp h
    exact ⟨by rw [hc]; rfl, (congrArg Prod.snd heq).symm⟩
  | lost | _ => cases h

def asks : Op → Prop
  | .getRefundStatus _ => True
  | .getCancellationPolicy => True
  | .reconcileOrderPaymentStatus => True
  | .dateNow => True
  | _ => False

theorem performOp_asks {op : Op} {r : Except RefundError op.Reply} (hop : asks op)
    (h : performOp i op outcome w = some (r, w')) : w' = w := by
  cases op with
  | getRefundStatus gatewayRefundId =>
    cases outcome with
    | done =>
      obtain ⟨c, -, heq⟩ := map_eq_some_iff.mp h
      exact (congrArg Prod.snd heq).symm
    | refused e =>
      cases h
      rfl
    | _ => cases h
  | getCancellationPolicy =>
    cases outcome with
    | policy | refused =>
      cases h
      rfl
    | _ => cases h
  | reconcileOrderPaymentStatus =>
    cases outcome with
    | payment | refused =>
      cases h
      rfl
    | _ => cases h
  | dateNow =>
    cases outcome with
    | done =>
      cases h
      rfl
    | _ => cases h
  | _ => exact absurd hop id

end Cases

/-! ## Programs -/

abbrev Engine (α : Type) : Type := Prog Op Op.Reply RefundError α

abbrev onDb (op : DbOp) : Engine op.Reply := perform (Op.db op)

abbrev findRecord : Engine CancellationRecord := onDb DbOp.findRecord

abbrev findOrder : Engine (Option Order) := onDb DbOp.findOrder

abbrev findCapturedPaymentForOrder : Engine (Option ObjectId) :=
  onDb DbOp.findCapturedPaymentForOrder

abbrev setAllocation (id : ObjectId) (fields : AllocationFields) : Engine Unit :=
  onDb (DbOp.setAllocation id fields)

abbrev setRefundStatus (previous next : RefundStatus) (lastError : Option String) : Engine Bool :=
  onDb (DbOp.setRefundStatus previous next lastError)

abbrev pushLateCapture (gateway : PlannedAllocation) (paidGateway seenAmount : ℤ) : Engine Bool :=
  onDb (DbOp.pushLateCapture gateway paidGateway seenAmount)

abbrev claimAllocation (id : ObjectId) : Engine Bool := perform (Op.claimAllocation id)

abbrev findRefunds (gatewayPaymentId : ObjectId) : Engine (List GatewayRefund) :=
  perform (Op.findRefunds gatewayPaymentId)

abbrev sendRefund (gatewayPaymentId : ObjectId) (allocation : Allocation) : Engine GatewayRefund :=
  perform (Op.sendRefund gatewayPaymentId allocation)

abbrev awaitRefund : Engine Unit := perform Op.awaitRefund

abbrev getRefundStatus (gatewayRefundId : ObjectId) : Engine GatewayRefundStatus :=
  perform (Op.getRefundStatus gatewayRefundId)

abbrev getCancellationPolicy : Engine CancellationPolicy := perform Op.getCancellationPolicy

abbrev reconcileOrderPaymentStatus : Engine PaymentOutcome :=
  perform Op.reconcileOrderPaymentStatus

abbrev dateNow : Engine Date := perform Op.dateNow

def aggregateStatus (allocations : List Allocation) : RefundStatus :=
  let statuses := allocations.map Allocation.status
  if allocations = [] then .notRequired
  else if ∀ s ∈ statuses, s = .successful then .successful
  else if .manualReview ∈ statuses then .manualReview
  else if .failed ∈ statuses then .failed
  else if .processing ∈ statuses then .processing
  else .pending

def awaitingInspection (record : CancellationRecord) : Bool :=
  record.afterPickup && !record.inventoryInspected

/-- What `planRefund` returns. -/
inductive Planned where
  | planned | waiting

def planStage (record : CancellationRecord) : Option CancellationStage :=
  match record.stageAtRequest with
  | some stage => some stage
  | none => if record.afterPickup then some .pickedUp else none

/-- The end of `planRefund`: compute the plan and freeze it. -/
def freezeRefundPlan (record : CancellationRecord) (policy : CancellationPolicy) (order : Order) :
    Engine Planned := do
  let _ ← onDb (.freezePlan (computeRefundPlan order policy (planStage record) record.fullRefund))
  onDb .markCancellationReversalApplied
  pure .planned

/-- The window in which the gateway may still confirm a payment is over. -/
def verificationExpired (record : CancellationRecord) (policy : CancellationPolicy) (now : Date) :
    Bool :=
  decide ((policy.paymentVerificationWindowHours : ℤ) * 3600 * 1000 < now - record.cancelledAt)

def planRefund (record : CancellationRecord) : Engine Planned := do
  let policy ← getCancellationPolicy
  match ← findOrder with
  | none => throw { message := "Order not found for refund", statusCode := some 404 }
  | some order =>
    if isGatewayPaymentUnconfirmed order then do
      let outcome ← reconcileOrderPaymentStatus
      match ← findOrder with
      | none => throw { message := "Order not found for refund", statusCode := some 404 }
      | some order => do
          let now ← dateNow
          -- no attempt ever reached the gateway, or every attempt failed: no money moved
          let definitelyUnpaid := decide (outcome = .none ∨ outcome = .failed)
          if isGatewayPaymentUnconfirmed order && !definitelyUnpaid &&
              (!verificationExpired record policy now || decide (outcome = .unknown)) then do
            onDb (.awaitPaymentConfirmation
              (if outcome = .unknown then some "Payment gateway unreachable" else none))
            pure .waiting
          else freezeRefundPlan record policy order
    else freezeRefundPlan record policy order

def processWalletDestination (order : Order) (allocation : Allocation) : Engine Unit :=
  (onDb (.walletTransaction order allocation)).tryCatch (fun e => do
    setAllocation allocation.id { status := some .failed, lastError := some (some e.message) }
    throw e)

def completeGatewayAllocation (order : Order) (allocation : Allocation) : Engine Unit :=
  onDb (.completeTransaction order allocation)

def gatewayFailed : AllocationFields where
  status := some .failed
  gatewayRefundId := some none
  lastError := some (some "Gateway reported the refund as failed")

/-- `provider.refundPayment`. -/
def refundPayment (gatewayPaymentId : ObjectId) (allocation : Allocation) :
    Engine GatewayRefund := do
  let refund ← sendRefund gatewayPaymentId allocation
  awaitRefund
  pure refund

/-- The refund of the allocation: one that an earlier attempt left at the gateway, or else
a new one. -/
def findOrRefund (gatewayPaymentId : ObjectId) (allocation : Allocation) :
    Engine GatewayRefund := do
  let refunds ← (findRefunds gatewayPaymentId).tryCatch (fun e =>
    if e.refundNotSupported then throw e
    else throw { message := "Could not check existing refunds: " ++ e.message })
  match existingRefund allocation.id refunds with
  | some existing => pure existing
  | none => refundPayment gatewayPaymentId allocation

/-- A gateway attempt, from its claim on, while nothing fails. -/
def refundAtGateway (order : Order) (allocation : Allocation) (gatewayPaymentId : ObjectId) :
    Engine Unit := do
  let result ← findOrRefund gatewayPaymentId allocation
  setAllocation allocation.id
    { status := some .processing
      gatewayPaymentId := some (some gatewayPaymentId)
      gatewayRefundId := some (some result.id)
      lastError := some none }
  if result.status = .successful then
    completeGatewayAllocation order { allocation with gatewayRefundId := some result.id }
  else pure ()

/-- The same with its error path. -/
def attemptGatewayRefund (order : Order) (allocation : Allocation) (gatewayPaymentId : ObjectId) :
    Engine Unit :=
  (refundAtGateway order allocation gatewayPaymentId).tryCatch (fun e => do
    setAllocation allocation.id
      { status := some (if e.refundNotSupported then .manualReview else .failed)
        lastError := some (some e.message) }
    if e.refundNotSupported then pure () else throw e)

def claimAndRefund (order : Order) (allocation : Allocation) (gatewayPaymentId : ObjectId) :
    Engine Unit := do
  let claimed ← claimAllocation allocation.id
  if claimed then attemptGatewayRefund order allocation gatewayPaymentId
  else pure ()

/-- `a || b` of two texts: the empty text is false in JavaScript. -/
def orText (text : Option String) (default : String) : String :=
  match text with
  | some t => if t = "" then default else t
  | none => default

def processOriginalSource (maxGatewayAttempts : ℕ) (order : Order) (allocation : Allocation) :
    Engine Unit :=
  match allocation.gatewayRefundId with
  | some gatewayRefundId => do
      -- already accepted by the gateway: poll until it settles
      match ← getRefundStatus gatewayRefundId with
      | .successful => completeGatewayAllocation order allocation
      | .failed => setAllocation allocation.id gatewayFailed
      | .processing => pure ()
  | none =>
    if maxGatewayAttempts ≤ allocation.attempts then
      setAllocation allocation.id
        { status := some .manualReview
          lastError := some (some (orText allocation.lastError "Refund retries exhausted")) }
    else do
      match ← findCapturedPaymentForOrder with
      | none =>
        setAllocation allocation.id
          { status := some .manualReview
            lastError := some (some "No captured gateway payment found for this order") }
      | some gatewayPaymentId => claimAndRefund order allocation gatewayPaymentId

/-- What one allocation of the loop of `processCancellationRefund` needs. -/
def processAllocation (maxGatewayAttempts : ℕ) (order : Option Order) (allocation : Allocation) :
    Engine Unit :=
  if allocation.status = .successful ∨ allocation.status = .manualReview then pure ()
  else
    match order with
    | none => throw { message := "Cannot read properties of null" }
    | some order =>
      if allocation.destination = .originalSource ∧ allocation.source = .gateway then
        processOriginalSource maxGatewayAttempts order allocation
      else if allocation.status ≠ .processing then processWalletDestination order allocation
      else pure ()

/-- The loop of `processCancellationRefund`; it answers whether an allocation failed. -/
def processAllocations (maxGatewayAttempts : ℕ) (order : Option Order) :
    List Allocation → Engine Bool
  | [] => pure false
  | allocation :: rest => do
      let failed ← (do
        processAllocation maxGatewayAttempts order allocation
        pure false).tryCatch (fun _ => pure true)
      let retry ← processAllocations maxGatewayAttempts order rest
      pure (failed || retry)

def lastErrorOf (allocations : List Allocation) : Option String :=
  ((allocations.filterMap Allocation.lastError).filter (fun t => decide (t ≠ ""))).getLast?

/-- `finalizeRefundStatus`; it answers the status the record is left with. -/
def finalizeRefundStatus : Engine RefundStatus := do
  let record ← findRecord
  let allocations := record.refund.allocations.rows
  let next := aggregateStatus allocations
  if record.refund.status = next then pure next
  else do
    let updated ← setRefundStatus record.refund.status next (lastErrorOf allocations)
    pure (if updated then next else record.refund.status)

/-- What `processCancellationRefund` returns. -/
structure RefundProgress where
  status : RefundStatus
  retry : Bool

/-- The end of `processCancellationRefund`: the loop over a frozen record. -/
def processFrozen (maxGatewayAttempts : ℕ) (record : CancellationRecord) :
    Engine RefundProgress := do
  let order ← findOrder
  let failed ← processAllocations maxGatewayAttempts order record.refund.allocations.rows
  let status ← finalizeRefundStatus
  pure
    { status := status
      retry := failed || decide (status = .processing ∨ status = .pending ∨ status = .failed) }

def processCancellationRefund (maxGatewayAttempts : ℕ) : Engine RefundProgress := do
  let record ← findRecord
  if awaitingInspection record then
    if record.refund.status ≠ .pending then do
      onDb .holdForInspection
      pure ⟨.pending, false⟩
    else pure ⟨.pending, false⟩
  else if record.refund.initiatedAt.isNone then do
    match ← planRefund record with
    | .waiting => pure ⟨.pending, true⟩
    | .planned => do
        let record ← findRecord
        processFrozen maxGatewayAttempts record
  else processFrozen maxGatewayAttempts record

def needsAdmin (status : RefundStatus) : Bool := decide (status = .failed ∨ status = .manualReview)

def resetFailedRefund (maxGatewayAttempts : ℕ) : Engine RefundProgress := do
  let record ← findRecord
  if needsAdmin record.refund.status then do
    onDb (.saveReset record.refund)
    processCancellationRefund maxGatewayAttempts
  else throw { message := "Only failed refunds can be retried", statusCode := some 409 }

/-- `String(note || "").trim()` is empty. -/
def blank (note : String) : Bool := note.toList.all Char.isWhitespace

def resolveRefundManually (note : String) : Engine Unit := do
  if blank note then
    throw
      { message := "A note explaining the manual resolution is required", statusCode := some 400 }
  else do
    let record ← findRecord
    if needsAdmin record.refund.status then onDb (.saveResolved record.refund note)
    else
      throw { message := "Only failed refunds can be resolved manually", statusCode := some 409 }

/-- `handleGatewayRefundUpdate`; it answers whether the update was taken up. -/
def handleGatewayRefundUpdate (gatewayRefundId : ObjectId) (status : GatewayRefundStatus) :
    Engine Bool := do
  let record ← findRecord
  match record.refund.allocations.rows.find?
      (fun a => decide (a.gatewayRefundId = some gatewayRefundId)) with
  | none => pure false
  | some allocation =>
    if allocation.status = .successful then pure false
    else do
      match ← findOrder with
      | none => throw { message := "Cannot read properties of null" }
      | some order => do
          match status with
          | .successful => completeGatewayAllocation order allocation
          | .failed => setAllocation allocation.id gatewayFailed
          | .processing => pure ()
          let _ ← finalizeRefundStatus
          pure true

def addLateCaptureAllocation : Engine Bool := do
  let policy ← getCancellationPolicy
  let record ← findRecord
  match ← findOrder with
  | none => pure false
  | some order =>
    if !isGatewayPaymentCaptured order || order.financeFlags.onlineRefundApplied then pure false
    else if record.refund.allocations.rows.any (fun a => decide (a.source = .gateway)) then
      pure false
    else if record.refund.initiatedAt.isNone then pure true
    else
      -- money taken for an order that was already cancelled comes back in full
      let plan := computeRefundPlan order policy record.stageAtRequest true
      match plan.allocations.find? (fun a => decide (a.source = .gateway)) with
      | none => pure false
      | some gateway => pushLateCapture gateway plan.paidGateway record.refund.amount

def captureOrderPayment (gatewayPaymentId : Option ObjectId) : Engine Unit := do
  onDb (.capturePayment gatewayPaymentId)
  onDb .handleOnlineOrderFinance

/-- `handleOrderSideEffectsFromPaymentStatus` and `onLatePaymentCapture` for a payment of a
cancelled order. -/
def onLatePaymentCapture (maxGatewayAttempts : ℕ) (gatewayPaymentId : Option ObjectId) :
    Engine RefundProgress := do
  captureOrderPayment gatewayPaymentId
  let _ ← addLateCaptureAllocation
  processCancellationRefund maxGatewayAttempts

/-! ## The system -/

inductive Entry where
  | processCancellationRefund
  | resetFailedRefund
  | resolveRefundManually (note : String)
  | handleGatewayRefundUpdate (gatewayRefundId : ObjectId) (status : GatewayRefundStatus)
  | addLateCaptureAllocation
  | onLatePaymentCapture (gatewayPaymentId : Option ObjectId)

/-- The program of an entry; what it returns goes to the caller outside. -/
def Entry.program (maxGatewayAttempts : ℕ) : Entry → Engine Unit
  | .processCancellationRefund => (Cancellation.processCancellationRefund maxGatewayAttempts).discard
  | .resetFailedRefund => (Cancellation.resetFailedRefund maxGatewayAttempts).discard
  | .resolveRefundManually note => Cancellation.resolveRefundManually note
  | .handleGatewayRefundUpdate gatewayRefundId status =>
    (Cancellation.handleGatewayRefundUpdate gatewayRefundId status).discard
  | .addLateCaptureAllocation => Cancellation.addLateCaptureAllocation.discard
  | .onLatePaymentCapture gatewayPaymentId =>
    (Cancellation.onLatePaymentCapture maxGatewayAttempts gatewayPaymentId).discard

/-- A webhook says what the gateway has; a payment is only taken for an order paid online. -/
def Entry.mayStart (w : World) : Entry → Bool
  | .handleGatewayRefundUpdate gatewayRefundId status =>
    w.gatewayRefunds.rows.any
      (fun r => decide (r.id = gatewayRefundId ∧ (status = .processing ∨ r.status = status)))
  | .onLatePaymentCapture _ => w.order?.any (fun o => decide (o.paymentMode = .online))
  | _ => true

def charged (order : Order) : PaymentMode × ℤ × ℤ :=
  (order.paymentMode, paidWallet order, order.paymentBreakdown.grandTotal)

def keyedBy (recordId : ObjectId) (row : LedgerEntry) : Bool :=
  match row.idempotencyKey with
  | some (.cancellationPlatform r _) => decide (r = recordId)
  | some (.cancellationCustomer r _) => decide (r = recordId)
  | _ => false

/-- What the other services may do to the stores: they append ledger rows, none with a key
of this record, they keep what the order was charged, and an order they mark as captured
has a captured payment. -/
def World.elsewhere (w : World) (db : Db) : Bool :=
  (w.db.ledger.isPrefixOf db.ledger &&
    (db.ledger.drop w.db.ledger.length).all (fun row => !keyedBy w.record.id row)) &&
  match w.order?, db.orders.get? w.record.order with
  | some order, some order' =>
    decide (charged order' = charged order) &&
      (!isGatewayPaymentCaptured order' || !w.capturedPayments.isEmpty)
  | _, _ => false

inductive Event where
  | elsewhere (db : Db)
  | inspected
  | settled (gatewayRefundId : ObjectId) (successful : Bool)
  | tick (later : ℕ)
  | crash (task : ℕ)

def World.outside : Event → World → Option World
  | .elsewhere db, w => if w.elsewhere db then some { w with db := db } else none
  | .inspected, w => some { w with record := { w.record with inventoryInspected := true } }
  | .settled gatewayRefundId successful, w =>
    some (w.settleRefund gatewayRefundId (if successful then .successful else .failed))
  | .tick later, w => some { w with now := w.now + later }
  | .crash task, w => some (w.hangUp task)

def engine (maxGatewayAttempts : ℕ) : System Op Op.Reply RefundError World Outcome Event Entry where
  perform := performOp
  outside := World.outside
  entry := Entry.program maxGatewayAttempts
  mayStart := Entry.mayStart

end DiscountBazar.Cancellation
