/-
What riders are told about a job (`orderWorkflowService.js`, `orderController.js`).

Two jobs of one order can be accepted, its delivery and the pickup of its return. Any number of
riders ask for them at once, with any idempotency keys, while the order is cancelled or given to
somebody else and the search for a pickup times out. A call reports success with its answer, which
is a step of its own: between what it has decided on and the answer, the others go on. A call on
its way to a success is remembered beside the order, and so is what riders were told.
-/
import DiscountBazar.Workflow.Exclusive

namespace DiscountBazar.Workflow.Acceptances

open Finance Cancellation Tasks Returns Runs
open Contract (Sound)
open Prog (perform)
open List

/-! ## The shared state -/

/-- The order, with the search for a rider who picks the return up. -/
structure JobOrder extends WorkflowOrder where
  returnSearchExpiresAt : Option Date := none
  /-- `returnSearchMeta.attempt` -/
  returnSearchAttempt : Option ℕ := none

inductive Job where
  | delivery | returnPickup
  deriving DecidableEq

def JobOrder.assigned (order : JobOrder) : Job → Option ObjectId
  | .delivery => order.deliveryBoy
  | .returnPickup => order.returnDeliveryBoy

/-- A success that was reported, and whether the rider held the job at that moment. -/
structure Report where
  job : Job
  riderId : ObjectId
  message : String
  held : Bool
  deriving DecidableEq

/-- The order and the keys of acceptances in the cache; then the calls on their way to reporting a
delivery, and the reports. -/
structure JobDesk where
  order : JobOrder
  accepted : List String := []
  promised : List (ℕ × ObjectId) := []
  reports : List Report := []

/-- A call is over, or has failed. -/
def JobDesk.drop (i : ℕ) (s : JobDesk) : JobDesk :=
  { s with promised := s.promised.filter (fun promise => promise.1 ≠ i) }

/-! ## Calls -/

inductive Kind where
  | findOrder
  /-- `redis.get` -/
  | findAccepted (key : String)
  /-- the order, for an answer from the cache -/
  | findCached (riderId : ObjectId)
  | assertRiderCanTakeOrder (riderId : ObjectId)
  | acceptDelivery (riderId : ObjectId) (now : Date)
  /-- the order, after an update that did not match -/
  | findTaken (riderId : ObjectId)
  /-- the broadcast is marked as assigned -/
  | markBroadcast
  /-- `redis.set` -/
  | cacheAccepted (key : String)
  /-- `order.save()` of `acceptReturnPickup` -/
  | savePickup (loaded edited : JobOrder)
  /-- the updates of `processReturnPickupTimeoutJob` -/
  | extendPickup (expiresAt : Date) (attempt : ℕ)
  | revertPickup
  /-- the answer to a rider -/
  | respond (job : Job) (riderId : ObjectId) (message : String)

@[reducible] def Kind.Reply : Kind → Type
  | .findOrder => JobOrder
  | .findAccepted _ | .acceptDelivery _ _ => Bool
  | .findTaken _ => WorkflowOrder
  | _ => Unit

structure Choice where
  outcome : Tasks.Outcome ServiceError := .done

/-- The fields of the order that `acceptReturnPickup` has changed are written. -/
def savedPickup (loaded edited current : JobOrder) : JobOrder :=
  { current with
    returnDeliveryBoy := written loaded.returnDeliveryBoy edited.returnDeliveryBoy current.returnDeliveryBoy
    returnStatus := written loaded.returnStatus edited.returnStatus current.returnStatus
    returnSearchExpiresAt :=
      written loaded.returnSearchExpiresAt edited.returnSearchExpiresAt current.returnSearchExpiresAt }

/-- The pickup is offered, and nobody has it. -/
def searching (order : JobOrder) : Bool :=
  decide (order.returnStatus = .returnPickupAssigned ∧ order.returnDeliveryBoy = none)

def promise (i : ℕ) (riderId : ObjectId) (s : JobDesk) : JobDesk :=
  { s with promised := (i, riderId) :: s.promised }

/-- What a call of task `i` answers and leaves where it is done. -/
def effect (i : ℕ) : (kind : Kind) → JobDesk → Except ServiceError kind.Reply × JobDesk
  | .findOrder, s => (.ok s.order, s)
  | .findAccepted key, s => (.ok (decide (key ∈ s.accepted)), s)
  | .findCached riderId, s => (.ok (), promise i riderId s)
  | .assertRiderCanTakeOrder _, s => (.ok (), s)
  | .acceptDelivery riderId now, s =>
    match (Update.deliveryAccept riderId now).apply s.order.toWorkflowOrder with
    | some order => (.ok true, promise i riderId { s with order := { s.order with toWorkflowOrder := order } })
    | none => (.ok false, s)
  | .findTaken riderId, s =>
    (.ok s.order.toWorkflowOrder,
      if s.order.deliveryBoy = some riderId then promise i riderId s else s)
  | .markBroadcast, s => (.ok (), s)
  | .cacheAccepted key, s => (.ok (), { s with accepted := key :: s.accepted })
  | .savePickup loaded edited, s => (.ok (), { s with order := savedPickup loaded edited s.order })
  | .extendPickup expiresAt attempt, s =>
    (.ok (),
      if searching s.order then
        { s with order :=
            { s.order with
              returnSearchExpiresAt := some expiresAt, returnSearchAttempt := some attempt } }
      else s)
  | .revertPickup, s =>
    (.ok (),
      if searching s.order then
        { s with order :=
            { s.order with
              returnStatus := .returnApproved
              returnSearchExpiresAt := none
              returnSearchAttempt := none } }
      else s)
  | .respond job riderId message, s =>
    let held := decide (s.order.assigned job = some riderId)
    (.ok (), { s.drop i with reports := ⟨job, riderId, message, held⟩ :: s.reports })

/-- A failure that is not caught. -/
def Kind.failsCall : Kind → Bool
  | .cacheAccepted _ => false
  | _ => true

def performOp (i : ℕ) (kind : Kind) (c : Choice) (s : JobDesk) :
    Option (Except ServiceError kind.Reply × JobDesk) :=
  match c.outcome.perform (effect i kind s) s with
  | (.ok a, s') => some (.ok a, s')
  | (.error e, s') => some (.error e, if kind.failsCall then s'.drop i else s')

/-! ## Handlers -/

abbrev M := Prog Kind Kind.Reply ServiceError

/-- The shortcut of `deliveryAcceptAtomic`: an acceptance with this key is in the cache. A failure
is as good as no entry. -/
def cachedAcceptance (deliveryId : ObjectId) (idempotencyKey : String) : M Bool :=
  if idempotencyKey = "" then pure false
  else
    Prog.tryCatch (do
      let hit ← perform (Kind.findAccepted idempotencyKey)
      if hit then do
        perform (Kind.findCached deliveryId)
        pure true
      else pure false)
    (fun _ => pure false)

/-- Why the update did not match; nothing, if the rider has the order already. -/
def refusal (order : WorkflowOrder) (deliveryId : ObjectId) : Option ServiceError :=
  match order.deliveryBoy with
  | some riderId =>
    if riderId = deliveryId then none
    else some ⟨"Another rider already accepted this order.", some 409⟩
  | none =>
    if order.status = .cancelled ∨ order.workflowStatus = some .cancelled then
      some ⟨"This order was cancelled.", some 409⟩
    else if deliveryId ∈ order.skippedBy then
      some ⟨"You rejected this order earlier, so it cannot be accepted now.", some 409⟩
    else if isV2 order ∧
        order.workflowStatus ∈ [some WorkflowStatus.created, some .sellerPending, some .sellerAccepted] then
      some ⟨"The store has not confirmed this order yet.", some 409⟩
    else some ⟨"Order already assigned or not available", some 409⟩

/-- What follows an acceptance and can fail it, and the entry in the cache. -/
def recordAcceptance (idempotencyKey : String) : M Unit := do
  perform Kind.markBroadcast
  if idempotencyKey = "" then pure ()
  else (perform (Kind.cacheAccepted idempotencyKey)).tryCatch (fun _ => pure ())

/-- `deliveryAcceptAtomic`: whether the acceptance is a duplicate. -/
def deliveryAcceptAtomic (deliveryId : ObjectId) (idempotencyKey : String) (now : Date) : M Bool := do
  let cached ← cachedAcceptance deliveryId idempotencyKey
  if cached then pure true
  else do
    perform (Kind.assertRiderCanTakeOrder deliveryId)
    let updated ← perform (Kind.acceptDelivery deliveryId now)
    if updated then do
      recordAcceptance idempotencyKey
      pure false
    else do
      let order ← perform (Kind.findTaken deliveryId)
      match refusal order deliveryId with
      | some e => .throw e
      | none => pure true

def acceptOrder (user : User) (idempotencyKey : String) (now : Date) : M Unit :=
  if user.role ≠ .delivery ∧ user.role ≠ .admin then .throw ⟨"Access denied.", some 403⟩
  else do
    let _ ← perform Kind.findOrder
    let duplicate ← deliveryAcceptAtomic user.id idempotencyKey now
    perform (Kind.respond .delivery user.id
      (if duplicate then "Already accepted" else "Order accepted successfully"))

/-- What `acceptReturnPickup` does for a rider where nobody has the pickup. -/
def takePickup (user : User) (order : JobOrder) : M Unit := do
  let admitted : M Unit :=
    if user.role = .delivery then perform (Kind.assertRiderCanTakeOrder user.id) else pure ()
  admitted
  perform (Kind.savePickup order
    { order with
      returnDeliveryBoy := some user.id
      returnStatus := .returnPickupAssigned
      returnSearchExpiresAt := none })

def acceptReturnPickup (user : User) : M Unit :=
  if user.role ≠ .delivery ∧ user.role ≠ .admin then .throw ⟨"Access denied.", some 403⟩
  else do
    let order ← perform Kind.findOrder
    let taken : M Unit :=
      match order.returnDeliveryBoy with
      | some riderId =>
        if riderId ≠ user.id then
          .throw ⟨"This return pickup is already assigned to another rider.", some 403⟩
        else pure ()
      | none => takePickup user order
    taken
    perform (Kind.respond .returnPickup user.id "Return pickup accepted")

def processReturnPickupTimeoutJob (config : SearchConfig) (attempt : ℕ) (now : Date) : M Unit := do
  let order ← perform Kind.findOrder
  if searching order = false then pure ()
  else if order.returnSearchExpiresAt.any (fun t => decide (now < t)) then pure ()
  else
    let currentAttempt := order.returnSearchAttempt.getD attempt
    if currentAttempt < config.maxAttempts then
      perform (Kind.extendPickup (now + config.timeoutMs) (currentAttempt + 1))
    else perform Kind.revertPickup

/-! ## The system -/

inductive Request where
  | acceptOrder (user : User) (idempotencyKey : String) (now : Date)
  | acceptReturnPickup (user : User)
  | returnPickupTimeout (attempt : ℕ) (now : Date)

def handle (config : SearchConfig) : Request → M Unit
  | .acceptOrder user idempotencyKey now => acceptOrder user idempotencyKey now
  | .acceptReturnPickup user => acceptReturnPickup user
  | .returnPickupTimeout attempt now => processReturnPickupTimeoutJob config attempt now

/-- Whatever else happens to the order, a cancellation or another rider for its delivery; and
entries of the cache expire. -/
inductive Event where
  | changed (order : JobOrder)
  | expired (key : String)

/-- The rider of the pickup is left to the handlers here. -/
def happens (event : Event) (s : JobDesk) : Option JobDesk :=
  match event with
  | .changed order =>
    if order.returnDeliveryBoy = s.order.returnDeliveryBoy then some { s with order } else none
  | .expired key => some { s with accepted := s.accepted.filter (fun k => k ≠ key) }

def acceptanceSystem (config : SearchConfig) :
    System Kind Kind.Reply ServiceError JobDesk Choice Event Request where
  perform := performOp
  outside := happens
  entry := handle config
  mayStart := fun _ _ => true

/-- An order that nobody was told about yet. -/
def offered (order : JobOrder) (accepted : List String) : Pool Kind Kind.Reply ServiceError JobDesk :=
  ⟨{ order, accepted }, []⟩

/-! ## The property -/

/-- Riders were told the truth: whoever was told that he has a job had it then, and no two were
told that they have the pickup. -/
structure Truthful (s : JobDesk) : Prop where
  held : ∀ report ∈ s.reports, report.held = true
  onePickup : ∀ report ∈ s.reports, ∀ report' ∈ s.reports, report.job = .returnPickup →
    report'.job = .returnPickup → report.riderId = report'.riderId

/-- A call is in order: an answer from the cache is for the rider who has the order, and a pickup
is saved for a rider where no other one has it. -/
def CallInOrder (kind : Kind) (c : Choice) (s : JobDesk) : Prop :=
  match kind with
  | .findCached riderId => c.outcome = .done → s.order.deliveryBoy = some riderId
  | .savePickup _ edited =>
    c.outcome.takesEffect = true →
      s.order.returnDeliveryBoy = none ∨ s.order.returnDeliveryBoy = edited.returnDeliveryBoy
  | _ => True

instance (kind : Kind) (c : Choice) (s : JobDesk) : Decidable (CallInOrder kind c s) := by
  unfold CallInOrder
  split <;> infer_instance

/-- The order is not taken from a rider whose call is on its way to report it. -/
def KeepsPromises (event : Event) (s : JobDesk) : Prop :=
  match event with
  | .changed order => ∀ promise ∈ s.promised, order.deliveryBoy = some promise.2
  | .expired _ => True

instance (event : Event) (s : JobDesk) : Decidable (KeepsPromises event s) := by
  unfold KeepsPromises
  split <;> infer_instance

/-! ## The invariant -/

structure Sincere (s : JobDesk) : Prop where
  promised : ∀ promise ∈ s.promised, s.order.deliveryBoy = some promise.2
  held : ∀ report ∈ s.reports, report.held = true
  pickups : ∀ report ∈ s.reports, report.job = .returnPickup →
    s.order.returnDeliveryBoy = some report.riderId

theorem Sincere.truthful {s : JobDesk} (h : Sincere s) : Truthful s where
  held := h.held
  onePickup := by
    intro report hmem report' hmem' hjob hjob'
    exact Option.some.inj ((h.pickups report hmem hjob).symm.trans (h.pickups report' hmem' hjob'))

def Fits (i : ℕ) (kind : Kind) (s : JobDesk) : Prop :=
  match kind with
  | .respond .delivery riderId _ => (i, riderId) ∈ s.promised
  | .respond .returnPickup riderId _ => s.order.returnDeliveryBoy = some riderId
  | _ => True

/-- What no step takes from a task: its promises, and the rider of the pickup. -/
def Keeps (i : ℕ) (s s' : JobDesk) : Prop :=
  (∀ riderId, (i, riderId) ∈ s.promised → (i, riderId) ∈ s'.promised) ∧
    ∀ riderId, s.order.returnDeliveryBoy = some riderId → s'.order.returnDeliveryBoy = some riderId

theorem Keeps.refl (i : ℕ) (s : JobDesk) : Keeps i s s := ⟨fun _ => id, fun _ => id⟩

theorem Keeps.trans {i : ℕ} {a b c : JobDesk} (hab : Keeps i a b) (hbc : Keeps i b c) : Keeps i a c :=
  ⟨fun riderId h => hbc.1 riderId (hab.1 riderId h), fun riderId h => hbc.2 riderId (hab.2 riderId h)⟩

section Effect

variable {s : JobDesk} {i j : ℕ}

theorem Sincere.drop (h : Sincere s) (i : ℕ) : Sincere (s.drop i) :=
  ⟨fun promise hmem => h.promised promise (mem_filter.mp hmem).1, h.held, h.pickups⟩

theorem keeps_drop (hj : j ≠ i) (s : JobDesk) : Keeps j s (s.drop i) :=
  ⟨fun _ hmem => mem_filter.mpr ⟨hmem, by simpa using hj⟩, fun _ => id⟩

variable {riderId : ObjectId}

theorem promise_sincere (h : Sincere s) (hrider : s.order.deliveryBoy = some riderId) :
    Sincere (promise i riderId s) where
  promised := by
    intro promise hmem
    rcases mem_cons.mp hmem with rfl | hmem
    · exact hrider
    · exact h.promised promise hmem
  held := h.held
  pickups := h.pickups

theorem keeps_promise (riderId : ObjectId) (s : JobDesk) : Keeps j s (promise i riderId s) :=
  ⟨fun _ => mem_cons_of_mem _, fun _ => id⟩

theorem acceptDelivery_sincere (h : Sincere s) {now : Date} {order : WorkflowOrder}
    (happly : (Update.deliveryAccept riderId now).apply s.order.toWorkflowOrder = some order) :
    Sincere (promise i riderId { s with order := { s.order with toWorkflowOrder := order } }) ∧
      order.returnDeliveryBoy = s.order.returnDeliveryBoy := by
  unfold Update.apply at happly
  split at happly
  next hfilter =>
    cases happly
    simp only [Update.filter, Bool.and_eq_true, Option.isNone_iff_eq_none] at hfilter
    have hfree : s.order.deliveryBoy = none := hfilter.1.1.1
    refine ⟨promise_sincere ?_ rfl, rfl⟩
    refine ⟨fun promise hmem => ?_, h.held, h.pickups⟩
    have htaken := h.promised promise hmem
    rw [hfree] at htaken
    cases htaken
  next => cases happly

theorem Sincere.respond (h : Sincere s) {job : Job} {message : String}
    (hfits : Fits i (.respond job riderId message) s) :
    Sincere (effect i (.respond job riderId message) s).2 := by
  have hassigned : s.order.assigned job = some riderId := by
    cases job with
    | delivery => exact h.promised _ hfits
    | returnPickup => exact hfits
  refine ⟨(h.drop i).promised, ?_, ?_⟩
  · intro report hmem
    rcases mem_cons.mp hmem with rfl | hmem
    · exact decide_eq_true hassigned
    · exact h.held report hmem
  · intro report hmem hjob
    rcases mem_cons.mp hmem with rfl | hmem
    · cases hjob
      exact hassigned
    · exact h.pickups report hmem hjob

/-- A pickup that is saved where nobody else has it stays with whoever had it. -/
theorem savedPickup_rider {loaded edited current : JobOrder}
    (hfree : current.returnDeliveryBoy = none ∨ current.returnDeliveryBoy = edited.returnDeliveryBoy)
    (hrider : current.returnDeliveryBoy = some riderId) :
    (savedPickup loaded edited current).returnDeliveryBoy = some riderId := by
  have hsame : edited.returnDeliveryBoy = some riderId := by
    rcases hfree with hnone | heq
    · rw [hnone] at hrider
      cases hrider
    · rw [← heq, hrider]
  show written loaded.returnDeliveryBoy edited.returnDeliveryBoy current.returnDeliveryBoy = some riderId
  unfold written
  split
  · exact hrider
  · exact hsame

theorem effect_sincere {kind : Kind} (h : Sincere s) (hfits : Fits i kind s)
    (hok : CallInOrder kind { outcome := .done } s) :
    Sincere (effect i kind s).2 ∧ (∀ j, j ≠ i → Keeps j s (effect i kind s).2) ∧
      ∀ riderId, s.order.returnDeliveryBoy = some riderId →
        (effect i kind s).2.order.returnDeliveryBoy = some riderId := by
  cases kind with
  | findCached riderId =>
    exact ⟨promise_sincere h (hok rfl), fun j _ => keeps_promise riderId s, fun _ => id⟩
  | acceptDelivery riderId now =>
    unfold effect
    dsimp only
    split
    next order happly =>
      obtain ⟨hsincere, hpickup⟩ := acceptDelivery_sincere (i := i) h happly
      refine ⟨hsincere, fun j _ => ⟨fun _ => mem_cons_of_mem _, fun rider hr => ?_⟩, fun rider hr => ?_⟩
      · exact hpickup.trans hr
      · exact hpickup.trans hr
    next => exact ⟨h, fun j _ => Keeps.refl j s, fun _ => id⟩
  | findTaken riderId =>
    unfold effect
    dsimp only
    split
    next hrider => exact ⟨promise_sincere h hrider, fun j _ => keeps_promise riderId s, fun _ => id⟩
    next => exact ⟨h, fun j _ => Keeps.refl j s, fun _ => id⟩
  | savePickup loaded edited =>
    have hkept : ∀ riderId, s.order.returnDeliveryBoy = some riderId →
        (savedPickup loaded edited s.order).returnDeliveryBoy = some riderId :=
      fun riderId hrider => savedPickup_rider (hok rfl) hrider
    refine ⟨⟨h.promised, h.held, fun report hmem hjob => ?_⟩, fun j _ => ⟨fun _ => id, hkept⟩, hkept⟩
    exact hkept _ (h.pickups report hmem hjob)
  | extendPickup | revertPickup =>
    unfold effect
    dsimp only
    split
    · exact ⟨⟨h.promised, h.held, h.pickups⟩, fun j _ => ⟨fun _ => id, fun _ => id⟩, fun _ => id⟩
    · exact ⟨h, fun j _ => Keeps.refl j s, fun _ => id⟩
  | respond job riderId message =>
    exact ⟨h.respond hfits, fun j hj => ⟨(keeps_drop hj s).1, fun _ => id⟩, fun _ => id⟩
  | cacheAccepted key =>
    exact ⟨⟨h.promised, h.held, h.pickups⟩, fun j _ => ⟨fun _ => id, fun _ => id⟩, fun _ => id⟩
  | findOrder | findAccepted | assertRiderCanTakeOrder
  | markBroadcast => exact ⟨h, fun j _ => Keeps.refl j s, fun _ => id⟩

theorem effect_ok (i : ℕ) (kind : Kind) (s : JobDesk) : ∃ a, (effect i kind s).1 = .ok a := by
  cases kind with
  | acceptDelivery riderId now =>
    unfold effect
    dsimp only
    split
    · exact ⟨true, rfl⟩
    · exact ⟨false, rfl⟩
  | _ => exact ⟨_, rfl⟩

end Effect

/-! ## The handlers under their contract -/

section Calls

variable {s s' : JobDesk} {i : ℕ} {kind : Kind} {c : Choice} {r : Except ServiceError kind.Reply}

theorem performOp_cases (h : performOp i kind c s = some (r, s')) :
    (∃ a, r = .ok a ∧ c.outcome = .done ∧ (effect i kind s).1 = .ok a ∧ s' = (effect i kind s).2) ∨
      ∃ e t, r = .error e ∧ s' = (if kind.failsCall then t.drop i else t) ∧
        (t = s ∨ (c.outcome.takesEffect = true ∧ c.outcome ≠ .done ∧ t = (effect i kind s).2)) := by
  obtain ⟨a, ha⟩ := effect_ok i kind s
  unfold performOp at h
  cases hout : c.outcome with
  | done =>
    rw [hout] at h
    have heffect : (Tasks.Outcome.done : Tasks.Outcome ServiceError).perform (effect i kind s) s
        = (.ok a, (effect i kind s).2) := Prod.ext ha rfl
    rw [heffect] at h
    cases h
    exact .inl ⟨a, rfl, rfl, ha, rfl⟩
  | refused e =>
    rw [hout] at h
    cases h
    exact .inr ⟨e, s, rfl, rfl, .inl rfl⟩
  | lost e =>
    rw [hout] at h
    cases h
    exact .inr ⟨e, _, rfl, rfl, .inr ⟨rfl, nofun, rfl⟩⟩

theorem settled_sincere {t : JobDesk} (h : Sincere t) (b : Bool) :
    Sincere (if b then t.drop i else t) := by
  split
  · exact h.drop i
  · exact h

theorem keeps_settled {j : ℕ} {t : JobDesk} (hj : j ≠ i) (h : Keeps j s t) (b : Bool) :
    Keeps j s (if b then t.drop i else t) := by
  split
  · exact h.trans (keeps_drop hj t)
  · exact h

theorem settled_pickup (t : JobDesk) (b : Bool) :
    (if b then t.drop i else t).order = t.order := by
  split <;> rfl

theorem drop_promise (riderId : ObjectId) (s : JobDesk) : (promise i riderId s).drop i = s.drop i := by
  simp [promise, JobDesk.drop]

/-- A call in order keeps promises and reports true, and takes nothing from the other tasks. -/
theorem performOp_sincere (h : Sincere s) (hfits : Fits i kind s) (hok : CallInOrder kind c s)
    (hperform : performOp i kind c s = some (r, s')) :
    Sincere s' ∧ (∀ j, j ≠ i → Keeps j s s') ∧
      ∀ riderId, s.order.returnDeliveryBoy = some riderId → s'.order.returnDeliveryBoy = some riderId := by
  rcases performOp_cases hperform with ⟨a, -, hdone, -, rfl⟩ | ⟨e, t, -, rfl, rfl | ⟨htakes, hnot, rfl⟩⟩
  · have hc : c = { outcome := .done } := by
      cases c
      cases hdone
      rfl
    rw [hc] at hok
    exact effect_sincere h hfits hok
  · refine ⟨settled_sincere h _, fun j hj => keeps_settled hj (Keeps.refl j t) _, fun riderId => ?_⟩
    rw [settled_pickup]
    exact id
  · by_cases hcached : ∃ riderId, kind = .findCached riderId
    · obtain ⟨riderId, rfl⟩ := hcached
      have hdrop : (if (Kind.findCached riderId).failsCall then (effect i (.findCached riderId) s).2.drop i
          else (effect i (.findCached riderId) s).2) = s.drop i := drop_promise riderId s
      rw [hdrop]
      exact ⟨h.drop i, fun j hj => keeps_drop hj s, fun _ => id⟩
    · -- any other call asks the same of a state whether its answer arrives or not
      have hok' : CallInOrder kind { outcome := .done } s := by
        cases kind with
        | findCached riderId => exact absurd ⟨riderId, rfl⟩ hcached
        | savePickup loaded edited => exact fun _ => hok htakes
        | _ => trivial
      obtain ⟨hsincere, hkeeps, hpickup⟩ := effect_sincere h hfits hok'
      refine ⟨settled_sincere hsincere _, fun j hj => keeps_settled hj (hkeeps j hj) _, fun riderId hr => ?_⟩
      rw [settled_pickup]
      exact hpickup riderId hr

end Calls

/-- Promises and reports stay true, whoever runs. -/
def sincereContract (config : SearchConfig) : Contract (acceptanceSystem config) where
  inv := Sincere
  rely := Keeps
  may := fun _ kind c s => CallInOrder kind c s
  mayOutside := KeepsPromises

section Handlers

variable {config : SearchConfig} {s : JobDesk} {i : ℕ}

/-- The rule for one call, with what its answer tells the task. -/
theorem sound_call {kind : Kind} {F : JobDesk → Prop} {Q : kind.Reply → JobDesk → Prop}
    {E : ServiceError → JobDesk → Prop} (hF : ∀ s s', Keeps i s s' → F s → F s') (hs : F s)
    (hfits : ∀ s, F s → Fits i kind s)
    (hQ : ∀ s a, Sincere s → F s → CallInOrder kind { outcome := .done } s →
      (effect i kind s).1 = .ok a → Q a (effect i kind s).2)
    (hE : ∀ c s s' e, Sincere s → F s → CallInOrder kind c s →
      performOp i kind c s = some (.error e, s') → E e s') :
    (sincereContract config).Sound i Q E (perform kind) s := by
  refine Sound.perform (fun s₁ hrely hinv c hok r s₂ hperform => ?_)
  have hknown : F s₁ := hF s s₁ hrely hs
  obtain ⟨hinv', hkeeps, -⟩ := performOp_sincere hinv (hfits s₁ hknown) hok hperform
  refine ⟨hinv', hkeeps, ?_, ?_⟩
  · rintro a rfl
    rcases performOp_cases hperform with ⟨b, hb, hdone, heffect, rfl⟩ | ⟨e, t, he, -, -⟩
    · cases hb
      refine hQ s₁ a hinv hknown ?_ heffect
      have hc : c = { outcome := .done } := by
        cases c
        cases hdone
        rfl
      exact hc ▸ hok
    · cases he
  · rintro e rfl
    exact hE c s₁ s₂ e hinv hknown hok hperform

def Promised (i : ℕ) (riderId : ObjectId) (s : JobDesk) : Prop := (i, riderId) ∈ s.promised

theorem Promised.stable (riderId : ObjectId) (s s' : JobDesk) (h : Keeps i s s')
    (hs : Promised i riderId s) : Promised i riderId s' := h.1 riderId hs

theorem recordAcceptance_sound {riderId : ObjectId} (key : String) (h : Promised i riderId s) :
    (sincereContract config).Sound i (fun _ => Promised i riderId) (fun _ _ => True)
      (recordAcceptance key) s := by
  refine Sound.bind (R := fun _ => Promised i riderId)
    (sound_call (Promised.stable riderId) h (fun _ _ => trivial) ?_ (fun _ _ _ _ _ _ _ _ => trivial))
    (fun _ s₁ hs₁ => Sound.ite (fun _ => Sound.ret hs₁) (fun _ => ?_))
  · exact fun s₁ _ _ hs₁ _ _ => hs₁
  · refine Sound.tryCatch (D := fun _ => Promised i riderId) ?_
      (fun _ _ hs₂ => Sound.ret hs₂)
    refine sound_call (Promised.stable riderId) hs₁ (fun _ _ => trivial) (fun s₂ _ _ hs₂ _ _ => hs₂) ?_
    intro c s₂ s₃ e _ hs₂ _ hperform
    rcases performOp_cases hperform with ⟨a, ha, -⟩ | ⟨e', t, -, rfl, rfl | ⟨-, -, rfl⟩⟩
    · cases ha
    · exact hs₂
    · exact hs₂

theorem cachedAcceptance_sound (deliveryId : ObjectId) (key : String) :
    (sincereContract config).Sound i
      (fun hit s => hit = true → Promised i deliveryId s) (fun _ _ => True)
      (cachedAcceptance deliveryId key) s := by
  have hany : ∀ s s' : JobDesk, Keeps i s s' → True → True := fun _ _ _ => id
  refine Sound.ite (fun _ => Sound.ret nofun) (fun _ => ?_)
  refine Sound.tryCatch (D := fun _ _ => True) ?_ (fun _ _ _ => Sound.ret nofun)
  refine Sound.bind (R := fun _ _ => True)
    (sound_call hany trivial (fun _ _ => trivial) (fun _ _ _ _ _ _ => trivial)
      (fun _ _ _ _ _ _ _ _ => trivial)) (fun hit s₁ _ => ?_)
  refine Sound.ite (fun _ => ?_) (fun _ => Sound.ret nofun)
  refine Sound.bind (R := fun _ => Promised i deliveryId)
    (sound_call hany trivial (fun _ _ => trivial) ?_ (fun _ _ _ _ _ _ _ _ => trivial))
    (fun _ s₂ hs₂ => Sound.ret (fun _ => hs₂))
  exact fun s₂ _ _ _ _ _ => mem_cons_self

theorem deliveryAcceptAtomic_sound (deliveryId : ObjectId) (key : String) (now : Date) :
    (sincereContract config).Sound i (fun _ => Promised i deliveryId) (fun _ _ => True)
      (deliveryAcceptAtomic deliveryId key now) s := by
  have hany : ∀ s s' : JobDesk, Keeps i s s' → True → True := fun _ _ _ => id
  refine Sound.bind (cachedAcceptance_sound deliveryId key) (fun cached s₁ hs₁ => ?_)
  refine Sound.ite (fun hcached => Sound.ret (hs₁ hcached)) (fun _ => ?_)
  refine Sound.bind (R := fun _ _ => True)
    (sound_call hany trivial (fun _ _ => trivial) (fun _ _ _ _ _ _ => trivial)
      (fun _ _ _ _ _ _ _ _ => trivial)) (fun _ s₂ _ => ?_)
  refine Sound.bind (R := fun updated s => updated = true → Promised i deliveryId s)
    (sound_call hany trivial (fun _ _ => trivial) ?_ (fun _ _ _ _ _ _ _ _ => trivial))
    (fun updated s₃ hs₃ => ?_)
  · intro s₃ updated _ _ _ hanswer htrue
    subst htrue
    unfold effect at hanswer ⊢
    dsimp only at hanswer ⊢
    split at hanswer
    · exact mem_cons_self
    · cases hanswer
  · refine Sound.ite (fun hupdated => ?_) (fun _ => ?_)
    · exact Sound.bind (recordAcceptance_sound key (hs₃ hupdated))
        (fun _ _ hs₄ => Sound.ret hs₄)
    · -- a rider who is not refused has the order already
      refine Sound.bind
        (R := fun order s => refusal order deliveryId = none → Promised i deliveryId s)
        (sound_call hany trivial (fun _ _ => trivial) ?_ (fun _ _ _ _ _ _ _ _ => trivial))
        (fun order s₄ hs₄ => ?_)
      · intro s₄ order _ _ _ hanswer hnone
        cases hanswer
        have hrider : s₄.order.deliveryBoy = some deliveryId := by
          unfold refusal at hnone
          split at hnone
          next riderId htaken =>
            split at hnone
            next hsame => rw [htaken, hsame]
            next => cases hnone
          next =>
            split_ifs at hnone
        unfold effect
        dsimp only
        rw [if_pos hrider]
        exact mem_cons_self
      · cases hrefusal : refusal order deliveryId with
        | none =>
          dsimp only
          exact Sound.ret (hs₄ hrefusal)
        | some e => exact Sound.throw trivial

theorem acceptOrder_sound (user : User) (key : String) (now : Date) :
    (sincereContract config).Keeps i (acceptOrder user key now) s := by
  have hany : ∀ s s' : JobDesk, Keeps i s s' → True → True := fun _ _ _ => id
  refine Sound.ite_throw (fun _ => ?_)
  refine Sound.bind (R := fun _ _ => True)
    (sound_call hany trivial (fun _ _ => trivial) (fun _ _ _ _ _ _ => trivial)
      (fun _ _ _ _ _ _ _ _ => trivial)) (fun _ s₁ _ => ?_)
  refine Sound.bind (deliveryAcceptAtomic_sound user.id key now) (fun duplicate s₂ hs₂ => ?_)
  exact sound_call (Promised.stable user.id) hs₂ (fun _ hs₃ => hs₃) (fun _ _ _ _ _ _ => trivial)
    (fun _ _ _ _ _ _ _ _ => trivial)

def HasPickup (riderId : ObjectId) (s : JobDesk) : Prop := s.order.returnDeliveryBoy = some riderId

theorem HasPickup.stable (riderId : ObjectId) (s s' : JobDesk) (h : Keeps i s s')
    (hs : HasPickup riderId s) : HasPickup riderId s' := h.2 riderId hs

theorem takePickup_sound (user : User) {order : JobOrder} (hnone : order.returnDeliveryBoy = none) :
    (sincereContract config).Sound i (fun _ => HasPickup user.id) (fun _ _ => True)
      (takePickup user order) s := by
  have hany : ∀ s s' : JobDesk, Keeps i s s' → True → True := fun _ _ _ => id
  have hadmitted : (sincereContract config).Keeps i
      (if user.role = .delivery then perform (Kind.assertRiderCanTakeOrder user.id) else pure ()) s :=
    Sound.ite
      (fun _ => sound_call hany trivial (fun _ _ => trivial) (fun _ _ _ _ _ _ => trivial)
        (fun _ _ _ _ _ _ _ _ => trivial))
      (fun _ => Sound.ret trivial)
  refine Sound.bind hadmitted (fun _ s₁ _ => ?_)
  refine sound_call hany trivial (fun _ _ => trivial) ?_ (fun _ _ _ _ _ _ _ _ => trivial)
  intro s₂ _ _ _ _ _
  show written order.returnDeliveryBoy (some user.id) s₂.order.returnDeliveryBoy = some user.id
  unfold written
  rw [hnone, if_neg (Option.some_ne_none _)]

theorem acceptReturnPickup_sound (user : User) :
    (sincereContract config).Keeps i (acceptReturnPickup user) s := by
  have hany : ∀ s s' : JobDesk, Keeps i s s' → True → True := fun _ _ _ => id
  refine Sound.ite_throw (fun _ => ?_)
  refine Sound.bind
    (R := fun order s => ∀ riderId, order.returnDeliveryBoy = some riderId → HasPickup riderId s)
    (sound_call hany trivial (fun _ _ => trivial) ?_ (fun _ _ _ _ _ _ _ _ => trivial))
    (fun order s₁ hs₁ => ?_)
  · intro s₁ order _ _ _ hanswer
    cases hanswer
    exact fun _ hrider => hrider
  dsimp only
  have htaken : (sincereContract config).Sound i (fun _ => HasPickup user.id) (fun _ _ => True)
      (match order.returnDeliveryBoy with
        | some riderId =>
          if riderId ≠ user.id then
            .throw ⟨"This return pickup is already assigned to another rider.", some 403⟩
          else pure ()
        | none => takePickup user order) s₁ := by
    cases hrider : order.returnDeliveryBoy with
    | some riderId =>
      refine Sound.ite_throw
        (fun hsame => Sound.ret ?_)
      exact not_not.mp hsame ▸ hs₁ riderId hrider
    | none => exact takePickup_sound user hrider
  refine Sound.bind htaken (fun _ s₂ hs₂ => ?_)
  exact sound_call (HasPickup.stable user.id) hs₂ (fun _ hs₃ => hs₃) (fun _ _ _ _ _ _ => trivial)
    (fun _ _ _ _ _ _ _ _ => trivial)

theorem processReturnPickupTimeoutJob_sound (attempt : ℕ) (now : Date) :
    (sincereContract config).Keeps i (processReturnPickupTimeoutJob config attempt now) s := by
  have hany : ∀ s s' : JobDesk, Keeps i s s' → True → True := fun _ _ _ => id
  refine Sound.bind (R := fun _ _ => True)
    (sound_call hany trivial (fun _ _ => trivial) (fun _ _ _ _ _ _ => trivial)
      (fun _ _ _ _ _ _ _ _ => trivial)) (fun order s₁ _ => ?_)
  refine Sound.ite (fun _ => Sound.ret trivial) (fun _ => ?_)
  refine Sound.ite (fun _ => Sound.ret trivial) (fun _ => ?_)
  refine Sound.ite (fun _ => ?_) (fun _ => ?_)
  · exact sound_call hany trivial (fun _ _ => trivial) (fun _ _ _ _ _ _ => trivial)
      (fun _ _ _ _ _ _ _ _ => trivial)
  · exact sound_call hany trivial (fun _ _ => trivial) (fun _ _ _ _ _ _ => trivial)
      (fun _ _ _ _ _ _ _ _ => trivial)

end Handlers

/-! ## Runs -/

theorem happens_sincere {event : Event} {s s' : JobDesk} (h : Sincere s) (hkeeps : KeepsPromises event s)
    (hout : happens event s = some s') : Sincere s' ∧ ∀ i, Keeps i s s' := by
  cases event with
  | changed order =>
    simp only [happens] at hout
    split at hout
    next hpickup =>
      cases hout
      refine ⟨⟨hkeeps, h.held, fun report hmem hjob => ?_⟩, fun i => ⟨fun _ => id, fun rider hr => ?_⟩⟩
      · exact hpickup.trans (h.pickups report hmem hjob)
      · exact hpickup.trans hr
    next => cases hout
  | expired key =>
    cases hout
    exact ⟨⟨h.promised, h.held, h.pickups⟩, fun i => ⟨fun _ => id, fun _ => id⟩⟩

theorem sincereContract_lawful {config : SearchConfig} : (sincereContract config).Lawful where
  refl := Keeps.refl
  trans := fun _ _ _ _ => Keeps.trans
  idle := fun _ _ _ _ => id
  outside := fun _ _ _ hinv hmay hout => happens_sincere hinv hmay hout
  entry := by
    intro request i s _ _ _
    cases request with
    | acceptOrder user key now => exact acceptOrder_sound user key now
    | acceptReturnPickup user => exact acceptReturnPickup_sound user
    | returnPickupTimeout attempt now => exact processReturnPickupTimeoutJob_sound attempt now

def searchingOrder : JobOrder where
  toWorkflowOrder := waitingOrder.withStatus .deliverySearch

/-- Rider 4 accepts with a key, rider 5 is too late with one of his own, and rider 4 asks again. -/
def acceptedOnce : List (Action Choice Event Request) :=
  [.start (.acceptOrder ⟨4, .delivery⟩ "key-4" 10), .start (.acceptOrder ⟨5, .delivery⟩ "key-5" 10),
    .run 0 {}, .run 0 {}, .run 0 {}, .run 1 {}, .run 1 {}, .run 1 {}, .run 0 {}, .run 1 {}, .run 0 {},
    .run 0 {}, .run 0 {}, .run 1 {}, .start (.acceptOrder ⟨4, .delivery⟩ "key-4" 20), .run 2 {},
    .run 2 {}, .run 2 {}, .run 2 {}]

/-- Riders 4 and 5 send the same key. -/
def sharedKey : List (Action Choice Event Request) :=
  [.start (.acceptOrder ⟨4, .delivery⟩ "1" 10), .run 0 {}, .run 0 {}, .run 0 {}, .run 0 {}, .run 0 {},
    .run 0 {}, .run 0 {}, .start (.acceptOrder ⟨5, .delivery⟩ "1" 20), .run 1 {}, .run 1 {}, .run 1 {},
    .run 1 {}]

end DiscountBazar.Workflow.Acceptances
