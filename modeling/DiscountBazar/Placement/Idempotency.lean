/-
Placing an order once (`idempotencyService.js`, the frame of `placeOrderAtomic`).

The calls that carry one idempotency key interleave: each Redis command and each database
call is one operation, which may fail without or after its effect. The three reads of
`checkIdempotency` are sent together and are one operation. The transaction of a placement
commits an order or fails with some error, and the unique index on customer and key lets
only one commit per customer. The cache entries are found under the key alone. Runs are
within the lifetime of the order's record; a checksum is the payload it was made of.
-/
import DiscountBazar.Placement.PlaceOrder

namespace DiscountBazar.Placement

open Tasks Function Prog

/-! ## Errors -/

inductive UniqueIndex where
  | orderId | checkoutGroupId | idempotencyKey | other
  deriving DecidableEq

/-- `error.code`, as far as it is looked at. -/
inductive ErrorCode where
  | duplicateKey (index : UniqueIndex)
  | econnrefused | etimedout | enotfound | enetunreach
  | minimumOrder
  | other
  deriving DecidableEq

/-- An error of a placement; `transient` is `isTransientTransactionError`. -/
structure PlacementError where
  message : String
  statusCode : Option ℕ := none
  code : ErrorCode := .other
  transient : Bool := false
  deriving DecidableEq

def isRetryableError (e : PlacementError) : Bool :=
  decide (e.code ∈ [.econnrefused, .etimedout, .enotfound, .enetunreach]) ||
    decide (e.statusCode ∈ [some 500, some 502, some 503, some 504])

/-- `error.code === 11000`. -/
def PlacementError.isDuplicateKey (e : PlacementError) : Bool :=
  match e.code with
  | .duplicateKey _ => true
  | _ => false

/-- The message names an id that is drawn anew by another attempt. -/
def PlacementError.isIdCollision (e : PlacementError) : Bool :=
  decide (e.code = .duplicateKey .orderId ∨ e.code = .duplicateKey .checkoutGroupId)

def asRetryLaterError (e : PlacementError) : PlacementError :=
  { e with statusCode := some 503, message := "The store is busy right now. Please try again." }

/-- What `storeIdempotencyError` keeps of an error, and a call that finds it throws. -/
def PlacementError.cached (e : PlacementError) : PlacementError :=
  { message := e.message
    statusCode := some (match e.statusCode with | some 0 => 500 | some n => n | none => 500) }

/-! ## State -/

/-- The payload as `placeOrderAtomic` normalizes it. -/
def normalizedPayload (p : Payload) : Payload :=
  { p with
    paymentMode := if normalizePaymentMode p.paymentMode = .online then "ONLINE" else "COD"
    walletOnly := p.mustUseWalletOnly }

/-- Who calls, with what. -/
structure Caller where
  customer : ObjectId
  payload : Payload

/-- A committed checkout group: whose it is, of which payload, and the call that committed it. -/
structure GroupRef where
  customer : ObjectId
  payload : Payload
  task : ℕ
  deriving DecidableEq

/-- The Redis entries of the key; of the lock, the call that set it. -/
structure Cache where
  lock : Option ℕ := none
  result : Option (Payload × GroupRef) := none
  error : Option (Payload × PlacementError) := none

/-- What a placement returns. -/
structure Answer where
  group : GroupRef
  duplicate : Bool

/-- What a call has returned or thrown, and the group of its customer and payload that was
there when it came. -/
structure Response where
  task : ℕ
  caller : Caller
  earlier : Option GroupRef
  answer : Except PlacementError Answer

/-- Everything the calls with the key share. -/
structure Keyed where
  cache : Cache := {}
  group : ObjectId → Option GroupRef := fun _ => none
  created : List GroupRef := []
  earlier : ℕ → Option GroupRef := fun _ => none
  responses : List Response := []

/-! ## Operations -/

/-- What `checkIdempotency` says. -/
inductive CheckReply where
  | fresh
  | inProgress
  | cachedError (e : PlacementError)
  | cachedResult (g : GroupRef)
  | checksumMismatch

/-- `checkIdempotency` on the entries it reads. -/
def checkIdempotency (cache : Cache) (payload : Payload) : CheckReply :=
  match cache.result, cache.lock, cache.error with
  | none, some _, none => .inProgress
  | _, _, some (checksum, e) => if checksum = payload then .cachedError e else .checksumMismatch
  | some (checksum, g), _, none => if checksum = payload then .cachedResult g else .checksumMismatch
  | none, none, none => .fresh

inductive Kind where
  | arrive
  | checkIdempotency
  | acquireLock
  | findExisting
  | assertModeEnabled
  | transaction
  | afterCommit
  | setResult (g : GroupRef)
  | setError (e : PlacementError)
  | deleteLock
  | respond (answer : Except PlacementError Answer)

@[reducible] def Kind.Reply : Kind → Type
  | .checkIdempotency => CheckReply
  | .acquireLock => Bool
  | .findExisting => Option GroupRef
  | .transaction => GroupRef
  | _ => Unit

/-- An operation of a call. -/
structure Op where
  caller : Caller
  kind : Kind

@[reducible] def Op.Reply (op : Op) : Type := op.kind.Reply

/-- How an operation goes: it is done, it fails before its effect, or its effect is there and
its answer is lost. A payment mode that is switched off makes its check fail. -/
inductive Outcome where
  | done
  | refused (e : PlacementError)
  | lost (e : PlacementError)
  deriving DecidableEq

def Keyed.commit (s : Keyed) (g : GroupRef) : Keyed :=
  { s with
    group := update s.group g.customer (some g)
    created := s.created ++ [g] }

theorem Keyed.commit_group_self (s : Keyed) (g : GroupRef) :
    (s.commit g).group g.customer = some g := update_self _ _ _

theorem Keyed.commit_group_ne (s : Keyed) {g : GroupRef} {c : ObjectId} (h : c ≠ g.customer) :
    (s.commit g).group c = s.group c := update_of_ne h _ _

/-- What an operation of call `i` answers and leaves where it is done; `none` where it cannot
be. -/
def effect (i : ℕ) (k : Caller) : (kind : Kind) → Keyed → Option (kind.Reply × Keyed)
  | .arrive, s => some ((), { s with
      earlier := update s.earlier i
        ((s.group k.customer).filter (fun g => decide (g.payload = k.payload))) })
  | .checkIdempotency, s => some (Placement.checkIdempotency s.cache k.payload, s)
  | .acquireLock, s =>
    if s.cache.lock = none then some (true, { s with cache := { s.cache with lock := some i } })
    else some (false, s)
  | .findExisting, s => some (s.group k.customer, s)
  | .assertModeEnabled, s => some ((), s)
  | .transaction, s =>
    -- the unique index refuses a second group of the customer
    if s.group k.customer = none then
      let g : GroupRef := ⟨k.customer, k.payload, i⟩
      some (g, s.commit g)
    else none
  | .afterCommit, s => some ((), s)
  | .setResult g, s => some ((), { s with cache := { s.cache with result := some (k.payload, g) } })
  | .setError e, s =>
    some ((), { s with cache := { s.cache with error := some (k.payload, e.cached) } })
  | .deleteLock, s => some ((), { s with cache := { s.cache with lock := none } })
  | .respond answer, s => some ((), { s with
      responses := s.responses ++ [⟨i, k, s.earlier i, answer⟩] })

/-- A call comes and answers; these two cannot fail. -/
def Kind.isEvent : Kind → Bool
  | .arrive => true
  | .respond _ => true
  | _ => false

def performOp (i : ℕ) (op : Op) (outcome : Outcome) (s : Keyed) :
    Option (Except PlacementError op.Reply × Keyed) :=
  match outcome with
  | .done => (effect i op.caller op.kind s).map (fun r => (.ok r.1, r.2))
  | .refused e => if op.kind.isEvent then none else some (.error e, s)
  | .lost e =>
    if op.kind.isEvent then none
    else (effect i op.caller op.kind s).map (fun r => (.error e, r.2))

/-- It fails with nothing written, or its effect is written and its answer or an error comes
back. -/
theorem performOp_cases {i : ℕ} {op : Op} {outcome : Outcome} {s s' : Keyed}
    {r : Except PlacementError op.Reply} (h : performOp i op outcome s = some (r, s')) :
    (∃ e, outcome = .refused e ∧ op.kind.isEvent = false ∧ r = .error e ∧ s' = s) ∨
      ∃ a, effect i op.caller op.kind s = some (a, s') ∧
        (outcome = .done ∧ r = .ok a ∨
          ∃ e, outcome = .lost e ∧ op.kind.isEvent = false ∧ r = .error e) := by
  cases outcome with
  | done =>
    obtain ⟨⟨a, s₁⟩, heffect, hr⟩ := Option.map_eq_some_iff.mp h
    cases hr
    exact .inr ⟨a, heffect, .inl ⟨rfl, rfl⟩⟩
  | refused e =>
    unfold performOp at h
    dsimp only at h
    split at h
    · cases h
    next hevent =>
      cases h
      exact .inl ⟨e, rfl, by simpa using hevent, rfl, rfl⟩
  | lost e =>
    unfold performOp at h
    dsimp only at h
    split at h
    · cases h
    next hevent =>
      obtain ⟨⟨a, s₁⟩, heffect, hr⟩ := Option.map_eq_some_iff.mp h
      cases hr
      exact .inr ⟨a, heffect, .inr ⟨e, rfl, by simpa using hevent, rfl⟩⟩

/-! ## The calls -/

abbrev M := Prog Op Op.Reply PlacementError

section Program

variable (redis : Bool) (k : Caller)

def ask (kind : Kind) : M kind.Reply := perform (Op.mk k kind)

def storeIdempotencyResult (g : GroupRef) : M Unit :=
  if redis then do
    ask k (.setResult g)
    ask k .deleteLock
  else pure ()

def storeIdempotencyError (e : PlacementError) : M Unit :=
  if redis then do
    ask k (.setError e)
    ask k .deleteLock
  else pure ()

def releaseIdempotencyLock : M Unit := if redis then ask k .deleteLock else pure ()

def beingProcessed : PlacementError := ⟨"Request is being processed", some 409, .other, false⟩

def reusedKey : PlacementError :=
  ⟨"Idempotency key reused with different payload", some 422, .other, false⟩

def invalidKey : PlacementError := ⟨"Invalid idempotency key format", some 400, .other, false⟩

/-- The first part of `placeOrderAtomic`: what the cache has, or the lock. -/
def claimKey : M (Option GroupRef) :=
  if redis then do
    match ← ask k .checkIdempotency with
    | .cachedError e => throw e
    | .cachedResult g => pure (some g)
    | .checksumMismatch => throw reusedKey
    | .inProgress => throw beingProcessed
    | .fresh =>
      match ← ask k .acquireLock with
      | true => pure none
      | false => throw beingProcessed
  else pure none

def returnExisting (g : GroupRef) : M Answer := do
  storeIdempotencyResult redis k g
  pure ⟨g, true⟩

/-- The body of the `try` block. -/
def placeAndStore : M Answer := do
  let g ← ask k .transaction
  storeIdempotencyResult redis k g
  ask k .afterCommit
  pure ⟨g, false⟩

def recordFailure (e : PlacementError) : M Unit :=
  if isRetryableError e ∨ e.code = .minimumOrder then releaseIdempotencyLock redis k
  else storeIdempotencyError redis k e

/-- The `catch` block; `again` and `retry` are the re-entries that are left. -/
def handleError (again retry : Option (M Answer)) (e : PlacementError) : M Answer := do
  if e.transient then
    releaseIdempotencyLock redis k
    match again with
    | some p => p
    | none => throw (asRetryLaterError e)
  else
    recordFailure redis k e
    if e.isDuplicateKey then
      match ← ask k .findExisting with
      | some g => returnExisting redis k g
      | none =>
        match retry with
        | some p => if e.isIdCollision then p else throw e
        | none => throw e
    else throw e

/-- The check of the payment mode; a payload that the wallet must pay in full needs none. -/
def checkMode : M Unit := if k.payload.walletOnly then pure () else ask k .assertModeEnabled

/-- One pass through `placeOrderAtomic`. -/
def placeOnce (again retry : Option (M Answer)) : M Answer := do
  match ← claimKey redis k with
  | some g => pure ⟨g, true⟩
  | none =>
    match ← ask k .findExisting with
    | some g => returnExisting redis k g
    | none =>
      checkMode k
      (placeAndStore redis k).tryCatch (handleError redis k again retry)

/-- The re-entries on an id collision, `again` being those on a transient error. -/
def placeRetries (again : ℕ → Option (M Answer)) : ℕ → M Answer
  | 0 => placeOnce redis k (again 0) none
  | retries + 1 =>
    placeOnce redis k (again (retries + 1)) (some (placeRetries again retries))

/-- `placeOrderAtomic` with so many attempts and id retries left. -/
def placeAttempts : ℕ → ℕ → M Answer
  | 0 => placeRetries redis k (fun _ => none)
  | attempts + 1 => placeRetries redis k (fun retries => some (placeAttempts attempts retries))

def MAX_TRANSACTION_ATTEMPTS : ℕ := 3

@[irreducible] def validateIdempotencyKey (key : String) : Bool :=
  let cs := (Pricing.trim key).toList
  decide (32 ≤ cs.length ∧ cs.length ≤ 64) &&
    cs.all (fun c => (c.toNat < 128 && c.isAlphanum) || c == '-')

/-- `placeOrderAtomic` with a key. -/
def placeOrderAtomic (key : String) : M Answer :=
  if validateIdempotencyKey key then placeAttempts redis k (MAX_TRANSACTION_ATTEMPTS - 1) 2
  else throw invalidKey

/-- A key is checked first. -/
theorem placeOrderAtomic_cases (key : String) :
    (validateIdempotencyKey key = true ∧
      placeOrderAtomic redis k key = placeAttempts redis k (MAX_TRANSACTION_ATTEMPTS - 1) 2) ∨
    (validateIdempotencyKey key = false ∧ placeOrderAtomic redis k key = throw invalidKey) := by
  unfold placeOrderAtomic
  cases validateIdempotencyKey key with
  | true => exact .inl ⟨rfl, rfl⟩
  | false => exact .inr ⟨rfl, rfl⟩

def call (key : String) : M Unit := do
  ask k .arrive
  let answer ← ((placeOrderAtomic redis k key).bind (fun a => .ret (.ok a))).tryCatch
    (fun e => pure (.error e))
  ask k (.respond answer)

/-! ### Which operations a call asks for -/

/-- The operations of a placement are the caller's own. -/
def Op.IsOf (k : Caller) (op : Op) : Prop := op.caller = k ∧ op.kind.isEvent = false

theorem ask_all {kind : Kind} (h : kind.isEvent = false) : (ask k kind).All (Op.IsOf k) :=
  All.perform ⟨rfl, h⟩

theorem storeIdempotencyResult_all (g : GroupRef) :
    (storeIdempotencyResult redis k g).All (Op.IsOf k) :=
  All.ite ((ask_all k rfl).bind (fun _ => ask_all k rfl)) All.ret

theorem storeIdempotencyError_all (e : PlacementError) :
    (storeIdempotencyError redis k e).All (Op.IsOf k) :=
  All.ite ((ask_all k rfl).bind (fun _ => ask_all k rfl)) All.ret

theorem releaseIdempotencyLock_all : (releaseIdempotencyLock redis k).All (Op.IsOf k) :=
  All.ite (ask_all k rfl) All.ret

theorem claimKey_all : (claimKey redis k).All (Op.IsOf k) := by
  refine All.ite ((ask_all k rfl).bind (fun reply => ?_)) All.ret
  cases reply with
  | fresh =>
    refine (ask_all k rfl).bind (fun got => ?_)
    cases got with
    | true => exact All.ret
    | false => exact All.throw
  | cachedResult g => exact All.ret
  | _ => exact All.throw

theorem returnExisting_all (g : GroupRef) : (returnExisting redis k g).All (Op.IsOf k) :=
  (storeIdempotencyResult_all redis k g).bind (fun _ => All.ret)

theorem handleError_all {again retry : Option (M Answer)}
    (hagain : ∀ p, again = some p → p.All (Op.IsOf k))
    (hretry : ∀ p, retry = some p → p.All (Op.IsOf k)) (e : PlacementError) :
    (handleError redis k again retry e).All (Op.IsOf k) := by
  refine All.ite ((releaseIdempotencyLock_all redis k).bind (fun _ => ?_)) ?_
  · cases again with
    | none => exact All.throw
    | some p => exact hagain p rfl
  · have hrecord : (recordFailure redis k e).All (Op.IsOf k) :=
      All.ite (releaseIdempotencyLock_all redis k) (storeIdempotencyError_all redis k e)
    refine hrecord.bind (fun _ => All.ite ((ask_all k rfl).bind (fun existing => ?_))
      All.throw)
    cases existing with
    | some g => exact returnExisting_all redis k g
    | none =>
      cases retry with
      | none => exact All.throw
      | some p => exact All.ite (hretry p rfl) All.throw

theorem placeOnce_all {again retry : Option (M Answer)}
    (hagain : ∀ p, again = some p → p.All (Op.IsOf k))
    (hretry : ∀ p, retry = some p → p.All (Op.IsOf k)) :
    (placeOnce redis k again retry).All (Op.IsOf k) := by
  refine (claimKey_all redis k).bind (fun claimed => ?_)
  cases claimed with
  | some g => exact All.ret
  | none =>
    refine (ask_all k rfl).bind (fun existing => ?_)
    cases existing with
    | some g => exact returnExisting_all redis k g
    | none =>
      have hmode : (checkMode k).All (Op.IsOf k) := All.ite All.ret (ask_all k rfl)
      have hbody : (placeAndStore redis k).All (Op.IsOf k) :=
        (ask_all k rfl).bind (fun g => (storeIdempotencyResult_all redis k g).bind
          (fun _ => (ask_all k rfl).bind (fun _ => All.ret)))
      exact hmode.bind (fun _ => hbody.tryCatch (handleError_all redis k hagain hretry))

theorem placeRetries_all {again : ℕ → Option (M Answer)}
    (hagain : ∀ n p, again n = some p → p.All (Op.IsOf k)) (retries : ℕ) :
    (placeRetries redis k again retries).All (Op.IsOf k) := by
  induction retries with
  | zero => exact placeOnce_all redis k (hagain 0) (by rintro p ⟨⟩)
  | succ retries ih =>
    refine placeOnce_all redis k (hagain (retries + 1)) (fun p hp => ?_)
    cases hp
    exact ih

theorem placeAttempts_all (attempts retries : ℕ) :
    (placeAttempts redis k attempts retries).All (Op.IsOf k) := by
  induction attempts generalizing retries with
  | zero => exact placeRetries_all redis k (by rintro n p ⟨⟩) retries
  | succ attempts ih =>
    refine placeRetries_all redis k (fun n p hp => ?_) retries
    cases hp
    exact ih n

theorem placeOrderAtomic_all (key : String) : (placeOrderAtomic redis k key).All (Op.IsOf k) :=
  All.ite (placeAttempts_all redis k _ _) All.throw

theorem call_all (key : String) : (call redis k key).All (fun op => op.caller = k) := by
  have hplace : (placeOrderAtomic redis k key).All (fun op => op.caller = k) :=
    (placeOrderAtomic_all redis k key).mono (fun _ h => h.1)
  have hanswer : (((placeOrderAtomic redis k key).bind (fun a => .ret (.ok a))).tryCatch
      (fun e => pure (.error e)) : M (Except PlacementError Answer)).All (fun op => op.caller = k) :=
    (hplace.bind (fun _ => All.ret)).tryCatch (fun _ => All.ret)
  have hask : ∀ kind, (ask k kind).All (fun op => op.caller = k) := fun _ => All.perform rfl
  exact (hask .arrive).bind (fun _ => hanswer.bind (fun answer => hask (.respond answer)))

end Program

/-- What happens to the entries by themselves. -/
inductive Expiry where
  | lock | result | error

def Cache.expire (c : Cache) : Expiry → Cache
  | .lock => { c with lock := none }
  | .result => { c with result := none }
  | .error => { c with error := none }

def idempotencySystem (redis : Bool) (key : String) :
    System Op Op.Reply PlacementError Keyed Outcome Expiry (ObjectId × Payload) where
  perform := performOp
  outside := fun e s => some { s with cache := s.cache.expire e }
  entry := fun request => call redis ⟨request.1, normalizedPayload request.2⟩ key
  mayStart := fun _ _ => true

end DiscountBazar.Placement
