/-
One bill for one key (`createPosSale`, its idempotency).

The calls of all sellers that carry one key interleave: each Redis command and each database call is
one operation, which may fail without or after its effect. The cache is found under the key alone; a
bill is found by seller and key, and no index keeps a second one out. Two transactions of one payload
write the same products, so one of them fails where they overlap; what is left is that one commits
after the other, and a commit is one operation. A payload is anything that can be compared, and its
checksum is the payload.
-/
import DiscountBazar.Placement.Idempotency

namespace DiscountBazar.Pos.Sales

open Tasks Function Runs
open Contract (Sound)
open Placement (PlacementError Expiry isRetryableError asRetryLaterError beingProcessed
  reusedKey invalidKey validateIdempotencyKey MAX_TRANSACTION_ATTEMPTS)

variable {π : Type} [DecidableEq π]

/-! ## State -/

/-- Who calls, with what. -/
structure Caller (π : Type) where
  seller : ObjectId
  payload : π

/-- A committed bill: whose it is, of which payload, and the call that committed it. -/
structure BillRef (π : Type) where
  seller : ObjectId
  payload : π
  task : ℕ
  deriving DecidableEq

/-- The Redis entries of the key; of the lock, the call that set it. -/
structure Cache (π : Type) where
  lock : Option ℕ := none
  result : Option (π × BillRef π) := none
  error : Option (π × PlacementError) := none

structure Answer (π : Type) where
  bill : BillRef π
  duplicate : Bool

/-- What a call has returned or thrown, and the bill of its seller and payload that was there when
it came. -/
structure Response (π : Type) where
  caller : Caller π
  task : ℕ
  earlier : Option (BillRef π)
  answer : Except PlacementError (Answer π)

structure Keyed (π : Type) where
  cache : Cache π := {}
  bills : List (BillRef π) := []
  earlier : ℕ → Option (BillRef π) := fun _ => none
  responses : List (Response π) := []

/-- `Order.findOne` by seller and key. -/
def Keyed.findBill (s : Keyed π) (seller : ObjectId) : Option (BillRef π) :=
  s.bills.find? (fun b => decide (b.seller = seller))

/-! ## Operations -/

/-- What `checkIdempotency` says to a sale. -/
inductive Checked (π : Type) where
  | fresh
  | inProgress
  | cachedError (e : PlacementError)
  | cachedResult (b : BillRef π)
  | checksumMismatch

/-- `checkIdempotency` on the entries it reads. -/
def checkIdempotency (cache : Cache π) (payload : π) : Checked π :=
  match cache.result, cache.lock, cache.error with
  | none, some _, none => .inProgress
  | _, _, some (checksum, e) => if checksum = payload then .cachedError e else .checksumMismatch
  | some (checksum, b), _, none => if checksum = payload then .cachedResult b else .checksumMismatch
  | none, none, none => .fresh

inductive Kind (π : Type) where
  | arrive
  | checkIdempotency
  | findExisting
  | assertDayOpen
  | acquireLock
  | transaction
  | afterCommit
  | setResult (b : BillRef π)
  | setError (e : PlacementError)
  | deleteLock
  | respond (answer : Except PlacementError (Answer π))

@[reducible] def Kind.Reply : Kind π → Type
  | .checkIdempotency => Checked π
  | .findExisting => Option (BillRef π)
  | .acquireLock => Bool
  | .transaction => BillRef π
  | _ => Unit

structure Op (π : Type) where
  caller : Caller π
  kind : Kind π

@[reducible] def Op.Reply (op : Op π) : Type := op.kind.Reply

/-- How an operation goes: it is done, it fails before its effect, or its effect is there and its
answer is lost. -/
inductive Outcome where
  | done
  | refused (e : PlacementError)
  | lost (e : PlacementError)
  deriving DecidableEq

/-- What an operation of call `i` answers and leaves where it is done. -/
def effect (i : ℕ) (k : Caller π) : (kind : Kind π) → Keyed π → kind.Reply × Keyed π
  | .arrive, s => ((), { s with
      earlier := update s.earlier i
        ((s.findBill k.seller).filter (fun b => decide (b.payload = k.payload))) })
  | .checkIdempotency, s => (checkIdempotency s.cache k.payload, s)
  | .findExisting, s => (s.findBill k.seller, s)
  | .assertDayOpen, s => ((), s)
  | .acquireLock, s =>
    if s.cache.lock = none then (true, { s with cache := { s.cache with lock := some i } })
    else (false, s)
  | .transaction, s =>
    let b : BillRef π := ⟨k.seller, k.payload, i⟩
    (b, { s with bills := s.bills ++ [b] })
  | .afterCommit, s => ((), s)
  | .setResult b, s => ((), { s with cache := { s.cache with result := some (k.payload, b) } })
  | .setError e, s => ((), { s with cache := { s.cache with error := some (k.payload, e.cached) } })
  | .deleteLock, s => ((), { s with cache := { s.cache with lock := none } })
  | .respond answer, s => ((), { s with
      responses := s.responses ++ [⟨k, i, s.earlier i, answer⟩] })

/-- A call comes and answers; these two cannot fail. -/
def Kind.isEvent : Kind π → Bool
  | .arrive => true
  | .respond _ => true
  | _ => false

def performOp (i : ℕ) (op : Op π) (outcome : Outcome) (s : Keyed π) :
    Option (Except PlacementError op.Reply × Keyed π) :=
  let done := effect i op.caller op.kind s
  match outcome with
  | .done => some (.ok done.1, done.2)
  | .refused e => if op.kind.isEvent then none else some (.error e, s)
  | .lost e => if op.kind.isEvent then none else some (.error e, done.2)

/-! ## The calls -/

abbrev M (π : Type) [DecidableEq π] := Prog (Op π) Op.Reply PlacementError

section Program

variable (redis : Bool) (k : Caller π)

def ask (kind : Kind π) : M π kind.Reply := Prog.perform (Op.mk k kind)

def storeIdempotencyResult (b : BillRef π) : M π Unit :=
  if redis then do
    ask k (.setResult b)
    ask k .deleteLock
  else pure ()

def storeIdempotencyError (e : PlacementError) : M π Unit :=
  if redis then do
    ask k (.setError e)
    ask k .deleteLock
  else pure ()

def releaseIdempotencyLock : M π Unit := if redis then ask k .deleteLock else pure ()

def cachedSale : M π (Option (BillRef π)) :=
  if redis then do
    match ← ask k .checkIdempotency with
    | .cachedError e => Prog.throw e
    | .cachedResult b => pure (some b)
    | .checksumMismatch => Prog.throw reusedKey
    | .inProgress => Prog.throw beingProcessed
    | .fresh => pure none
  else pure none

/-- `acquireIdempotencyLock`. -/
def takeLock : M π Unit :=
  if redis then do
    match ← ask k .acquireLock with
    | true => pure ()
    | false => Prog.throw beingProcessed
  else pure ()

/-- The body of the `try` block. -/
def sellAndStore : M π (Answer π) := do
  let b ← ask k .transaction
  storeIdempotencyResult redis k b
  ask k .afterCommit
  pure ⟨b, false⟩

def recordFailure (e : PlacementError) : M π Unit :=
  if isRetryableError e then releaseIdempotencyLock redis k else storeIdempotencyError redis k e

/-- The `catch` block; `again` is the attempt that is left. -/
def handleError (again : Option (M π (Answer π))) (e : PlacementError) : M π (Answer π) := do
  if e.transient then
    releaseIdempotencyLock redis k
    match again with
    | some p => p
    | none => Prog.throw (asRetryLaterError e)
  else
    recordFailure redis k e
    Prog.throw e

/-- One pass through `createPosSale`. -/
def sellOnce (again : Option (M π (Answer π))) : M π (Answer π) := do
  match ← cachedSale redis k with
  | some b => pure ⟨b, true⟩
  | none =>
    match ← ask k .findExisting with
    | some b => pure ⟨b, true⟩
    | none =>
      -- the lock is taken after both looks
      ask k .assertDayOpen
      takeLock redis k
      (sellAndStore redis k).tryCatch (handleError redis k again)

/-- `createPosSale` with so many attempts left. -/
def sellAttempts : ℕ → M π (Answer π)
  | 0 => sellOnce redis k none
  | attempts + 1 => sellOnce redis k (some (sellAttempts attempts))

def createPosSale (key : String) : M π (Answer π) :=
  if validateIdempotencyKey key then sellAttempts redis k (MAX_TRANSACTION_ATTEMPTS - 1)
  else Prog.throw invalidKey

def call (key : String) : M π Unit := do
  ask k .arrive
  let answer ← ((createPosSale redis k key).bind (fun a => .ret (.ok a))).tryCatch
    (fun e => pure (.error e))
  ask k (.respond answer)

end Program

/-- What happens to the entries by themselves. -/
def Cache.expire (c : Cache π) : Expiry → Cache π
  | .lock => { c with lock := none }
  | .result => { c with result := none }
  | .error => { c with error := none }

def salesSystem (π : Type) [DecidableEq π] (redis : Bool) (key : String) :
    System (Op π) Op.Reply PlacementError (Keyed π) Outcome Expiry (Caller π) where
  perform := performOp
  outside := fun e s => some { s with cache := s.cache.expire e }
  entry := fun caller => call redis caller key
  mayStart := fun _ _ => true

/-! ## The property -/

def OneBill (seller : ObjectId) (s : Keyed π) : Prop :=
  (s.bills.filter (fun b => decide (b.seller = seller))).length ≤ 1

/-- The calls that came when the seller's bill of their payload was there returned it. -/
def BillReturned (seller : ObjectId) (s : Keyed π) : Prop :=
  ∀ r ∈ s.responses, r.caller.seller = seller → ∀ b, r.earlier = some b →
    ∃ duplicate, r.answer = .ok ⟨b, duplicate⟩

/-! ## The condition -/

def Outcome.takesEffect : Outcome → Bool
  | .refused _ => false
  | _ => true

/-- A bill is committed where the seller has none under the key and nothing is cached; once it is
there, no error is cached, and no result but that bill. -/
def WritesInOrder (seller : ObjectId) (op : Op π) (outcome : Outcome) (s : Keyed π) : Prop :=
  outcome.takesEffect = true →
    match op.kind with
    | .setError _ => s.findBill seller = none
    | .setResult b => s.findBill seller = none ∨ s.findBill seller = some b
    | .transaction => op.caller.seller = seller →
        s.findBill seller = none ∧ s.cache.error = none ∧ s.cache.result = none
    | _ => True

/-- A call that came after the commit is refused nothing, and finds no lock unless a result is
cached. -/
def LateUndisturbed (seller : ObjectId) (i : ℕ) (op : Op π) (outcome : Outcome) (s : Keyed π) : Prop :=
  op.caller.seller = seller → (s.earlier i).isSome = true → op.kind.isEvent = false →
    outcome = .done ∧
      match op.kind with
      | .checkIdempotency => s.cache.lock = none ∨ s.cache.result ≠ none
      | _ => True

/-- The condition on an operation, for the calls of a seller. -/
def Orderly (seller : ObjectId) (i : ℕ) (op : Op π) (outcome : Outcome) (s : Keyed π) : Prop :=
  WritesInOrder seller op outcome s ∧ LateUndisturbed seller i op outcome s

section Decidable

variable (seller : ObjectId) (i : ℕ) (outcome : Outcome) (s : Keyed π)

instance : (op : Op π) → Decidable (WritesInOrder seller op outcome s)
  | ⟨_, .setError _⟩ => inferInstanceAs (Decidable (_ → s.findBill seller = none))
  | ⟨_, .setResult b⟩ =>
    inferInstanceAs (Decidable (_ → s.findBill seller = none ∨ s.findBill seller = some b))
  | ⟨k, .transaction⟩ =>
    inferInstanceAs (Decidable (_ → k.seller = seller →
      s.findBill seller = none ∧ s.cache.error = none ∧ s.cache.result = none))
  | ⟨_, .arrive⟩ | ⟨_, .checkIdempotency⟩ | ⟨_, .acquireLock⟩ | ⟨_, .findExisting⟩
  | ⟨_, .assertDayOpen⟩ | ⟨_, .afterCommit⟩ | ⟨_, .deleteLock⟩ | ⟨_, .respond _⟩ =>
    isTrue (fun _ => trivial)

instance : (op : Op π) → Decidable (LateUndisturbed seller i op outcome s)
  | ⟨k, .checkIdempotency⟩ =>
    inferInstanceAs (Decidable (k.seller = seller → (s.earlier i).isSome = true → _ →
      outcome = .done ∧ (s.cache.lock = none ∨ s.cache.result ≠ none)))
  | ⟨k, .acquireLock⟩ | ⟨k, .findExisting⟩ | ⟨k, .assertDayOpen⟩ | ⟨k, .transaction⟩
  | ⟨k, .afterCommit⟩ | ⟨k, .setResult _⟩ | ⟨k, .setError _⟩ | ⟨k, .deleteLock⟩ | ⟨k, .arrive⟩
  | ⟨k, .respond _⟩ =>
    inferInstanceAs (Decidable (k.seller = seller → (s.earlier i).isSome = true → _ →
      outcome = .done ∧ True))

instance (op : Op π) : Decidable (Orderly seller i op outcome s) :=
  inferInstanceAs (Decidable (_ ∧ _))

end Decidable

/-! ## One operation -/

/-- It fails with nothing written, or its effect is written and its answer or an error comes back. -/
theorem performOp_cases {i : ℕ} {op : Op π} {outcome : Outcome} {s s' : Keyed π}
    {r : Except PlacementError op.Reply} (h : performOp i op outcome s = some (r, s')) :
    ((∃ e, outcome = .refused e ∧ r = .error e) ∧ op.kind.isEvent = false ∧ s' = s) ∨
      (outcome.takesEffect = true ∧ s' = (effect i op.caller op.kind s).2 ∧
        (outcome = .done ∧ r = .ok (effect i op.caller op.kind s).1 ∨
          ∃ e, outcome = .lost e ∧ op.kind.isEvent = false ∧ r = .error e)) := by
  unfold performOp at h
  cases outcome with
  | done =>
    cases h
    exact .inr ⟨rfl, rfl, .inl ⟨rfl, rfl⟩⟩
  | refused e =>
    dsimp only at h
    split at h
    · cases h
    next hevent =>
      cases h
      exact .inl ⟨⟨e, rfl, rfl⟩, by simpa using hevent, rfl⟩
  | lost e =>
    dsimp only at h
    split at h
    · cases h
    next hevent =>
      cases h
      exact .inr ⟨rfl, rfl, .inr ⟨e, rfl, by simpa using hevent, rfl⟩⟩

/-- What holds of the shared state; `valid` says that the key is well formed. -/
structure Consistent (valid : Bool) (seller : ObjectId) (s : Keyed π) : Prop where
  one : s.bills.filter (fun b => decide (b.seller = seller)) = (s.findBill seller).toList
  valid : ∀ b, s.findBill seller = some b → valid = true
  cache : ∀ b, s.findBill seller = some b →
    s.cache.error = none ∧ ∀ entry, s.cache.result = some entry → entry = (b.payload, b)
  returned : BillReturned seller s

/-- What call `j` may assume of the others. -/
structure Rely (seller : ObjectId) (j : ℕ) (s s' : Keyed π) : Prop where
  bill : ∀ b, s.findBill seller = some b → s'.findBill seller = some b
  earlier : s'.earlier j = s.earlier j
  responses : ∀ r ∈ s'.responses, r.task = j → r ∈ s.responses

section Step

variable {valid : Bool} {seller : ObjectId} {i j : ℕ} {k : Caller π} {s s' s'' : Keyed π}

omit [DecidableEq π] in
theorem Rely.refl : Rely seller j s s := ⟨fun _ h => h, rfl, fun _ h _ => h⟩

omit [DecidableEq π] in
theorem Rely.trans (h : Rely seller j s s') (h' : Rely seller j s' s'') : Rely seller j s s'' where
  bill := fun b hb => h'.bill b (h.bill b hb)
  earlier := h'.earlier.trans h.earlier
  responses := fun r hr htask => h.responses r (h'.responses r hr htask) htask

omit [DecidableEq π] in
theorem Rely.ofCache (cache : Cache π) : Rely seller j s { s with cache } :=
  ⟨fun _ h => h, rfl, fun _ h _ => h⟩

omit [DecidableEq π] in
theorem Consistent.ofCache (h : Consistent valid seller s) {cache : Cache π}
    (hentries : ∀ b, s.findBill seller = some b →
      cache.error = none ∧ ∀ entry, cache.result = some entry → entry = (b.payload, b)) :
    Consistent valid seller { s with cache } :=
  ⟨h.one, h.valid, hentries, h.returned⟩

omit [DecidableEq π] in
theorem findBill_append (s : Keyed π) (b : BillRef π) (seller : ObjectId) :
    ({ s with bills := s.bills ++ [b] } : Keyed π).findBill seller
      = (s.findBill seller).or (if b.seller = seller then some b else none) := by
  unfold Keyed.findBill
  dsimp only
  rw [List.find?_append]
  congr 1
  by_cases hb : b.seller = seller
  · simp [hb]
  · simp [hb]

omit [DecidableEq π] in
theorem Consistent.commit (h : Consistent valid seller s) (hvalid : valid = true) {b : BillRef π}
    (hclean : b.seller = seller →
      s.findBill seller = none ∧ s.cache.error = none ∧ s.cache.result = none) :
    Consistent valid seller { s with bills := s.bills ++ [b] } := by
  have hfind := findBill_append s b seller
  by_cases hb : b.seller = seller
  · obtain ⟨hnone, herror, hresult⟩ := hclean hb
    rw [if_pos hb, hnone, Option.none_or] at hfind
    refine ⟨?_, fun _ _ => hvalid, fun b' _ => ⟨herror, fun entry hentry => ?_⟩, h.returned⟩
    · have hone := h.one
      rw [hnone, Option.toList_none] at hone
      rw [hfind, List.filter_append, hone]
      simp [hb]
    · rw [show s.cache.result = none from hresult] at hentry
      cases hentry
  · rw [if_neg hb, Option.or_none] at hfind
    refine ⟨?_, fun _ _ => hvalid, fun b' hb' => h.cache b' ?_, h.returned⟩
    · have hother : [b].filter (fun b => decide (b.seller = seller)) = [] := by simp [hb]
      rw [hfind, List.filter_append, hother, List.append_nil]
      exact h.one
    · rw [hfind] at hb'
      exact hb'

/-- The answer of a call is right: its bill, if it came after the commit. -/
def RightAnswer (i : ℕ) (answer : Except PlacementError (Answer π)) (s : Keyed π) : Prop :=
  ∀ b, s.earlier i = some b → ∃ duplicate, answer = .ok ⟨b, duplicate⟩

/-- An operation that the calls ask for: the transaction under a valid key, the result of the own
bill, and the right answer. -/
def Admissible (valid : Bool) (seller : ObjectId) (i : ℕ) (k : Caller π) (kind : Kind π) (s : Keyed π) :
    Prop :=
  match kind with
  | .transaction => valid = true
  | .setResult b => b.payload = k.payload
  | .respond answer => k.seller = seller → RightAnswer i answer s
  | _ => True

theorem effect_keeps {kind : Kind π} {outcome : Outcome} (h : Consistent valid seller s)
    (hkind : Admissible valid seller i k kind s)
    (hwrites : WritesInOrder seller ⟨k, kind⟩ outcome s) (hdone : outcome.takesEffect = true) :
    Consistent valid seller (effect i k kind s).2 ∧
      ∀ j, j ≠ i → Rely seller j s (effect i k kind s).2 := by
  have hwrite := hwrites hdone
  cases kind with
  | arrive =>
    refine ⟨⟨h.one, h.valid, h.cache, h.returned⟩, fun j hj => ?_⟩
    exact ⟨fun _ h => h, update_of_ne hj _ _, fun _ h _ => h⟩
  | checkIdempotency | findExisting | assertDayOpen | afterCommit => exact ⟨h, fun _ _ => Rely.refl⟩
  | acquireLock =>
    unfold effect
    dsimp only
    split
    · exact ⟨h.ofCache h.cache, fun _ _ => Rely.ofCache _⟩
    · exact ⟨h, fun _ _ => Rely.refl⟩
  | transaction =>
    refine ⟨h.commit hkind hwrite, fun j _ => ⟨fun b hb => ?_, rfl, fun _ h _ => h⟩⟩
    exact (findBill_append s ⟨k.seller, k.payload, i⟩ seller).trans (by rw [hb]; rfl)
  | setResult b =>
    refine ⟨h.ofCache (fun b' hb' => ⟨(h.cache b' hb').1, fun entry hentry => ?_⟩),
      fun _ _ => Rely.ofCache _⟩
    rcases hwrite with hnone | hsome
    · rw [hnone] at hb'
      cases hb'
    · rw [hsome] at hb'
      cases hb'
      cases hentry
      rw [show b.payload = k.payload from hkind]
  | setError e =>
    refine ⟨h.ofCache (fun b hb => ?_), fun _ _ => Rely.ofCache _⟩
    rw [show s.findBill seller = none from hwrite] at hb
    cases hb
  | deleteLock => exact ⟨h.ofCache h.cache, fun _ _ => Rely.ofCache _⟩
  | respond answer =>
    refine ⟨⟨h.one, h.valid, h.cache, fun r hr hseller => ?_⟩, fun j hj => ?_⟩
    · rcases List.mem_append.mp hr with hold | hnew
      · exact h.returned r hold hseller
      · rw [List.mem_singleton] at hnew
        subst hnew
        exact hkind hseller
    · refine ⟨fun _ h => h, rfl, fun r hr htask => ?_⟩
      rcases List.mem_append.mp hr with hold | hnew
      · exact hold
      · rw [List.mem_singleton] at hnew
        subst hnew
        exact absurd htask.symm hj

/-- A call that has not answered, and what was there when it came. -/
structure AtWork (earlier : Option (BillRef π)) (i : ℕ) (s : Keyed π) : Prop where
  fresh : ∀ r ∈ s.responses, r.task ≠ i
  earlier : s.earlier i = earlier

variable {earlier : Option (BillRef π)} {kind : Kind π}

omit [DecidableEq π] in
theorem AtWork.rely (h : AtWork earlier i s) (hrely : Rely seller i s s') : AtWork earlier i s' :=
  ⟨fun r hr htask => h.fresh r (hrely.responses r hr htask) htask, hrely.earlier.trans h.earlier⟩

theorem AtWork.effect (h : AtWork earlier i s) (hevent : kind.isEvent = false) :
    AtWork earlier i (effect i k kind s).2 := by
  cases kind with
  | arrive | respond => cases hevent
  | acquireLock =>
    unfold Sales.effect
    dsimp only
    split
    · exact ⟨h.fresh, h.earlier⟩
    · exact h
  | _ => exact ⟨h.fresh, h.earlier⟩

end Step

/-! ## One operation of a call -/

def saleContract (π : Type) [DecidableEq π] (redis : Bool) (key : String) (seller : ObjectId) :
    Contract (salesSystem π redis key) where
  inv := Consistent (validateIdempotencyKey key) seller
  rely := Rely seller
  idle := fun i s => ∀ r ∈ s.responses, r.task ≠ i
  may := Orderly seller

section Ask

variable {redis : Bool} {key : String} {seller : ObjectId} {i : ℕ} {k : Caller π}
  {s : Keyed π} {earlier : Option (BillRef π)} {b : BillRef π}

/-- An operation of a call that has not answered. -/
theorem sound_ask (kind : Kind π) {Q : kind.Reply → Keyed π → Prop} {E : PlacementError → Keyed π → Prop}
    (hkind : ∀ t, Admissible (validateIdempotencyKey key) seller i k kind t)
    (hok : ∀ t, Rely seller i s t → Consistent (validateIdempotencyKey key) seller t →
      Orderly seller i ⟨k, kind⟩ .done t → Q (effect i k kind t).1 (effect i k kind t).2)
    (hrefused : ∀ t e, Rely seller i s t → kind.isEvent = false →
      Orderly seller i ⟨k, kind⟩ (.refused e) t → E e t)
    (hlost : ∀ t e, Rely seller i s t → kind.isEvent = false →
      Orderly seller i ⟨k, kind⟩ (.lost e) t → E e (effect i k kind t).2) :
    (saleContract π redis key seller).Sound i Q E (ask k kind) s := by
  refine Sound.perform (fun t hrely hinv outcome hmay r t' hstep => ?_)
  rcases performOp_cases hstep with ⟨⟨e, rfl, rfl⟩, hevent, rfl⟩ | ⟨hdone, rfl, houtcome⟩
  · refine ⟨hinv, fun _ _ => Rely.refl, fun a h => ?_, fun e' h => ?_⟩
    · cases h
    · cases h
      exact hrefused _ _ hrely hevent hmay
  · obtain ⟨hkeeps, hothers⟩ := effect_keeps hinv (hkind t) hmay.1 hdone
    refine ⟨hkeeps, hothers, fun a h => ?_, fun e' h => ?_⟩
    · rcases houtcome with ⟨rfl, rfl⟩ | ⟨e, rfl, -, rfl⟩
      · cases h
        exact hok t hrely hinv hmay
      · cases h
    · rcases houtcome with ⟨rfl, rfl⟩ | ⟨e, rfl, hevent, rfl⟩
      · cases h
      · cases h
        exact hlost t _ hrely hevent hmay

/-- A call whose answer nobody looks at goes on, whatever it is answered. -/
theorem work_ask (kind : Kind π) (hevent : kind.isEvent = false)
    (hkind : ∀ t, Admissible (validateIdempotencyKey key) seller i k kind t) (hs : AtWork earlier i s) :
    (saleContract π redis key seller).Sound i
      (fun a t => AtWork earlier i t ∧ ∃ u, a = (effect i k kind u).1) (fun _ => AtWork earlier i)
      (ask k kind) s := by
  apply sound_ask kind hkind
  · exact fun t hrely _ _ => ⟨(hs.rely hrely).effect hevent, t, rfl⟩
  · exact fun t e hrely _ _ => hs.rely hrely
  · exact fun t e hrely _ _ => (hs.rely hrely).effect hevent

/-- Call `i` came after the seller's bill and has not answered. -/
def Late (seller : ObjectId) (b : BillRef π) (i : ℕ) (s : Keyed π) : Prop :=
  AtWork (some b) i s ∧ s.findBill seller = some b

theorem late_ask (kind : Kind π) (hevent : kind.isEvent = false)
    (hkind : ∀ t, Admissible (validateIdempotencyKey key) seller i k kind t) (hk : k.seller = seller)
    (hs : Late seller b i s) :
    (saleContract π redis key seller).Sound i
      (fun a t' => AtWork (some b) i t' ∧ ∃ t, Consistent (validateIdempotencyKey key) seller t ∧
        t.findBill seller = some b ∧ LateUndisturbed seller i ⟨k, kind⟩ .done t ∧
        (t.earlier i).isSome = true ∧ t' = (effect i k kind t).2 ∧ a = (effect i k kind t).1)
      (fun _ _ => False) (ask k kind) s := by
  have hsome : ∀ t, Rely seller i s t → (t.earlier i).isSome = true := by
    intro t hrely
    rw [(hs.1.rely hrely).earlier]
    rfl
  apply sound_ask kind hkind
  · intro t hrely hinv hmay
    exact ⟨(hs.1.rely hrely).effect hevent, t, hinv, hrely.bill b hs.2, hmay.2, hsome t hrely, rfl, rfl⟩
  · intro t e hrely _ hmay
    obtain ⟨hdone, -⟩ := hmay.2 hk (hsome t hrely) hevent
    cases hdone
  · intro t e hrely _ hmay
    obtain ⟨hdone, -⟩ := hmay.2 hk (hsome t hrely) hevent
    cases hdone

end Ask

/-! ## The calls that came first, and those of other sellers -/

section Work

variable {redis : Bool} {key : String} {seller : ObjectId} {i : ℕ} {k : Caller π} {s : Keyed π}
  {earlier : Option (BillRef π)}

/-- The program leaves the call at work, whatever it returns or throws. -/
def Works (redis : Bool) (key : String) (seller : ObjectId) (i : ℕ) (earlier : Option (BillRef π))
    {α : Type} (p : M π α) : Prop :=
  ∀ s, AtWork earlier i s → (saleContract π redis key seller).Sound i (fun _ => AtWork earlier i)
    (fun _ => AtWork earlier i) p s

theorem works_ask (kind : Kind π) (hevent : kind.isEvent = false)
    (hkind : ∀ t, Admissible (validateIdempotencyKey key) seller i k kind t) :
    Works redis key seller i earlier (ask k kind) :=
  fun _ hs => (work_ask kind hevent hkind hs).mono (fun _ _ h => h.1) (fun _ _ h => h)

theorem Works.bind {α β : Type} {p : M π α} {f : α → M π β} (hp : Works redis key seller i earlier p)
    (hf : ∀ a, Works redis key seller i earlier (f a)) : Works redis key seller i earlier (p >>= f) :=
  fun s hs => (hp s hs).bind (fun a t ht => hf a t ht)

theorem works_pure {α : Type} (a : α) : Works redis key seller i earlier (pure a : M π α) :=
  fun _ hs => Sound.ret hs

theorem works_throw {α : Type} (e : PlacementError) :
    Works redis key seller i earlier (Prog.throw e : M π α) :=
  fun _ hs => Sound.throw hs

theorem Works.ite {α : Type} {c : Prop} [Decidable c] {p q : M π α}
    (hp : Works redis key seller i earlier p) (hq : Works redis key seller i earlier q) :
    Works redis key seller i earlier (if c then p else q) :=
  fun s hs => Sound.ite (fun _ => hp s hs) (fun _ => hq s hs)

theorem storeIdempotencyResult_works {b : BillRef π} (hb : b.payload = k.payload) :
    Works redis key seller i earlier (storeIdempotencyResult redis k b) :=
  ((works_ask (.setResult b) rfl (fun _ => hb)).bind (fun _ =>
    works_ask .deleteLock rfl (fun _ => trivial))).ite (works_pure ())

theorem storeIdempotencyError_works (e : PlacementError) :
    Works redis key seller i earlier (storeIdempotencyError redis k e) :=
  ((works_ask (.setError e) rfl (fun _ => trivial)).bind (fun _ =>
    works_ask .deleteLock rfl (fun _ => trivial))).ite (works_pure ())

theorem releaseIdempotencyLock_works :
    Works redis key seller i earlier (releaseIdempotencyLock redis k) :=
  (works_ask .deleteLock rfl (fun _ => trivial)).ite (works_pure ())

theorem cachedSale_works : Works redis key seller i earlier (cachedSale redis k) := by
  refine ((works_ask .checkIdempotency rfl (fun _ => trivial)).bind (fun reply => ?_)).ite
    (works_pure none)
  cases reply with
  | cachedResult b => exact works_pure (some b)
  | fresh => exact works_pure none
  | _ => exact works_throw _

theorem takeLock_works : Works redis key seller i earlier (takeLock redis k) := by
  refine ((works_ask .acquireLock rfl (fun _ => trivial)).bind (fun got => ?_)).ite (works_pure ())
  cases got with
  | true => exact works_pure ()
  | false => exact works_throw _

theorem sellAndStore_works (hvalid : validateIdempotencyKey key = true) :
    Works redis key seller i earlier (sellAndStore redis k) := by
  intro s hs
  have htransaction : (saleContract π redis key seller).Sound i
      (fun (b : BillRef π) t => AtWork earlier i t ∧ b.payload = k.payload) (fun _ => AtWork earlier i)
      (ask k .transaction) s := by
    refine (work_ask .transaction rfl (fun _ => hvalid) hs).mono ?_ (fun _ _ h => h)
    rintro b t ⟨ht, u, rfl⟩
    exact ⟨ht, rfl⟩
  refine htransaction.bind ?_
  rintro b t ⟨ht, hb⟩
  have hrest : Works redis key seller i earlier (do
      storeIdempotencyResult redis k b
      ask k .afterCommit
      pure (⟨b, false⟩ : Answer π)) :=
    (storeIdempotencyResult_works hb).bind (fun _ =>
      (works_ask .afterCommit rfl (fun _ => trivial)).bind (fun _ => works_pure _))
  exact hrest t ht

theorem handleError_works {again : Option (M π (Answer π))}
    (hagain : ∀ p, again = some p → Works redis key seller i earlier p) (e : PlacementError) :
    Works redis key seller i earlier (handleError redis k again e) := by
  refine (releaseIdempotencyLock_works.bind (fun _ => ?_)).ite (Works.bind ?_ (fun _ => works_throw e))
  · cases again with
    | none => exact works_throw _
    | some p => exact hagain p rfl
  · exact releaseIdempotencyLock_works.ite (storeIdempotencyError_works e)

theorem sellOnce_works (hvalid : validateIdempotencyKey key = true) {again : Option (M π (Answer π))}
    (hagain : ∀ p, again = some p → Works redis key seller i earlier p) :
    Works redis key seller i earlier (sellOnce redis k again) := by
  refine cachedSale_works.bind (fun cached => ?_)
  cases cached with
  | some b => exact works_pure _
  | none =>
    refine (works_ask .findExisting rfl (fun _ => trivial)).bind (fun existing => ?_)
    cases existing with
    | some b => exact works_pure _
    | none =>
      refine (works_ask .assertDayOpen rfl (fun _ => trivial)).bind (fun _ =>
        takeLock_works.bind (fun _ => ?_))
      exact fun s hs => Sound.tryCatch (sellAndStore_works hvalid s hs)
        (fun e t ht => handleError_works hagain e t ht)

theorem sellAttempts_works (hvalid : validateIdempotencyKey key = true) (attempts : ℕ) :
    Works redis key seller i earlier (sellAttempts redis k attempts) := by
  induction attempts with
  | zero => exact sellOnce_works hvalid (by rintro p ⟨⟩)
  | succ attempts ih =>
    refine sellOnce_works hvalid (fun p hp => ?_)
    cases hp
    exact ih

theorem createPosSale_works : Works redis key seller i earlier (createPosSale redis k key) := by
  unfold createPosSale
  by_cases hvalid : validateIdempotencyKey key = true
  · rw [if_pos hvalid]
    exact sellAttempts_works hvalid _
  · rw [if_neg hvalid]
    exact works_throw _

end Work

/-! ## The calls that come after the commit -/

section After

variable {redis : Bool} {key : String} {seller : ObjectId} {i : ℕ} {k : Caller π} {s : Keyed π}
  {b : BillRef π}

theorem checkIdempotency_late {cache : Cache π} {payload : π} (herror : cache.error = none)
    (hresult : ∀ entry, cache.result = some entry → entry = (b.payload, b))
    (hpayload : payload = b.payload) (hlock : cache.lock = none ∨ cache.result ≠ none) :
    checkIdempotency cache payload = .fresh ∨ checkIdempotency cache payload = .cachedResult b := by
  obtain ⟨lock, result, error⟩ := cache
  dsimp only at herror hresult hlock
  subst herror
  cases result with
  | none =>
    rcases hlock with rfl | hnot
    · exact .inl rfl
    · exact absurd rfl hnot
  | some entry =>
    cases hresult entry rfl
    refine .inr ?_
    unfold checkIdempotency
    cases lock with
    | none | some => exact if_pos hpayload.symm

theorem cachedSale_late (hk : k.seller = seller) (hpayload : k.payload = b.payload)
    (hs : Late seller b i s) :
    (saleContract π redis key seller).Sound i
      (fun cached t => Late seller b i t ∧ (cached = none ∨ cached = some b)) (fun _ _ => False)
      (cachedSale redis k) s := by
  cases redis with
  | false => exact Sound.ret ⟨hs, .inl rfl⟩
  | true =>
    apply Sound.bind (late_ask .checkIdempotency rfl (fun _ => trivial) hk hs)
    rintro reply t' ⟨hwork, t, hinv, hbill, hundisturbed, hcame, rfl, rfl⟩
    obtain ⟨-, hlock⟩ := hundisturbed hk hcame rfl
    obtain ⟨herror, hresult⟩ := hinv.cache b hbill
    have hlate : Late seller b i t' := ⟨hwork, hbill⟩
    rcases checkIdempotency_late herror hresult hpayload hlock with hfresh | hcached
    · rw [show (effect i k .checkIdempotency t').1 = .fresh from hfresh]
      exact Sound.ret ⟨hlate, .inl rfl⟩
    · rw [show (effect i k .checkIdempotency t').1 = .cachedResult b from hcached]
      exact Sound.ret ⟨hlate, .inr rfl⟩

theorem sellOnce_late (hk : k.seller = seller) (hpayload : k.payload = b.payload)
    (hs : Late seller b i s) (again : Option (M π (Answer π))) :
    (saleContract π redis key seller).Sound i
      (fun answer t => AtWork (some b) i t ∧ ∃ duplicate, answer = ⟨b, duplicate⟩) (fun _ _ => False)
      (sellOnce redis k again) s := by
  apply Sound.bind (cachedSale_late hk hpayload hs)
  rintro cached t ⟨ht, rfl | rfl⟩
  · apply Sound.bind (late_ask .findExisting rfl (fun _ => trivial) hk ht)
    rintro existing t' ⟨hwork, u, -, hbill, -, -, -, rfl⟩
    -- the lookup finds the bill
    have hexisting : (effect i k .findExisting u).1 = some b := by
      rw [← hbill, ← hk]
      rfl
    rw [hexisting]
    exact Sound.ret ⟨hwork, true, rfl⟩
  · exact Sound.ret ⟨ht.1, true, rfl⟩

theorem createPosSale_late (hvalid : validateIdempotencyKey key = true) (hk : k.seller = seller)
    (hpayload : k.payload = b.payload) (hs : Late seller b i s) :
    (saleContract π redis key seller).Sound i
      (fun answer t => AtWork (some b) i t ∧ ∃ duplicate, answer = ⟨b, duplicate⟩) (fun _ _ => False)
      (createPosSale redis k key) s := by
  unfold createPosSale
  rw [if_pos hvalid]
  exact sellOnce_late hk hpayload hs _

end After

/-! ## Every run -/

section Runs

variable {redis : Bool} {key : String} {seller : ObjectId} {i : ℕ} {k : Caller π} {s : Keyed π}

/-- The call has come; it came first or is of another seller, or it is late with the bill of its own
payload. -/
def Come (key : String) (seller : ObjectId) (i : ℕ) (k : Caller π) (s : Keyed π) : Prop :=
  (∃ earlier, AtWork earlier i s ∧ (k.seller = seller → earlier = none)) ∨
    ∃ b, Late seller b i s ∧ k.seller = seller ∧ k.payload = b.payload ∧
      validateIdempotencyKey key = true

theorem arrive_sound (hs : ∀ r ∈ s.responses, r.task ≠ i) :
    (saleContract π redis key seller).Sound i (fun _ => Come key seller i k) (fun _ _ => False)
      (ask k .arrive) s := by
  apply sound_ask .arrive (fun _ => trivial)
  · intro t hrely hinv _
    have hfresh : ∀ r ∈ t.responses, r.task ≠ i :=
      fun r hr htask => hs r (hrely.responses r hr htask) htask
    have hearlier : (effect i k .arrive t).2.earlier i
        = (t.findBill k.seller).filter (fun b => decide (b.payload = k.payload)) :=
      update_self ..
    by_cases hk : k.seller = seller
    · rw [hk] at hearlier
      cases hfound : (t.findBill seller).filter (fun b => decide (b.payload = k.payload)) with
      | none => exact .inl ⟨none, ⟨hfresh, hearlier.trans hfound⟩, fun _ => rfl⟩
      | some b =>
        obtain ⟨hbill, hpayload⟩ := Option.filter_eq_some_iff.mp hfound
        exact .inr ⟨b, ⟨⟨hfresh, hearlier.trans hfound⟩, hbill⟩, hk,
          (of_decide_eq_true hpayload).symm, hinv.valid b hbill⟩
    · exact .inl ⟨_, ⟨hfresh, hearlier⟩, fun h => absurd h hk⟩
  · rintro t e _ ⟨⟩
  · rintro t e _ ⟨⟩

def AboutToAnswer (seller : ObjectId) (i : ℕ) (k : Caller π) (answer : Except PlacementError (Answer π))
    (s : Keyed π) : Prop :=
  (∀ r ∈ s.responses, r.task ≠ i) ∧ (k.seller = seller → RightAnswer i answer s)

theorem respond_sound {answer : Except PlacementError (Answer π)}
    (hs : AboutToAnswer seller i k answer s) :
    (saleContract π redis key seller).Keeps i (ask k (.respond answer)) s := by
  refine Sound.perform (fun t hrely hinv outcome hmay r t' hstep => ?_)
  have hkind : Admissible (validateIdempotencyKey key) seller i k (.respond answer) t := by
    intro hk b hb
    rw [hrely.earlier] at hb
    exact hs.2 hk b hb
  rcases performOp_cases hstep with ⟨-, hevent, -⟩ | ⟨hdone, rfl, -⟩
  · cases hevent
  · obtain ⟨hkeeps, hothers⟩ := effect_keeps hinv hkind hmay.1 hdone
    exact ⟨hkeeps, hothers, fun _ _ => trivial, fun _ _ => trivial⟩

theorem call_sound (hs : ∀ r ∈ s.responses, r.task ≠ i) :
    (saleContract π redis key seller).Keeps i (call redis k key) s := by
  apply Sound.bind ((arrive_sound hs).mono (fun _ _ h => h) (fun _ _ h => h.elim))
  intro _ t hcome
  refine Sound.bind (R := AboutToAnswer seller i k) ?_ (fun answer u hu => respond_sound hu)
  rcases hcome with ⟨earlier, hwork, hearly⟩ | ⟨b, hlate, hk, hpayload, hvalid⟩
  · have hanswer : ∀ answer u, AtWork earlier i u → AboutToAnswer seller i k answer u := by
      refine fun answer u hu => ⟨hu.fresh, fun hk b hb => ?_⟩
      rw [hu.earlier, hearly hk] at hb
      cases hb
    exact Sound.tryCatch (Sound.bind (createPosSale_works t hwork)
      (fun answer u hu => Sound.ret (hanswer (.ok answer) u hu)))
      (fun e u hu => Sound.ret (hanswer (.error e) u hu))
  · apply Sound.tryCatch (D := fun _ _ => False)
    · apply Sound.bind (createPosSale_late hvalid hk hpayload hlate)
      rintro _ u ⟨hu, duplicate, rfl⟩
      refine Sound.ret ⟨hu.fresh, fun _ b' hb' => ?_⟩
      rw [hu.earlier] at hb'
      cases hb'
      exact ⟨duplicate, rfl⟩
    · exact fun _ _ h => h.elim

omit [DecidableEq π] in
theorem Consistent.expire {valid : Bool} (h : Consistent valid seller s) (e : Expiry) :
    Consistent valid seller { s with cache := s.cache.expire e } := by
  cases e with
  | lock => exact h.ofCache h.cache
  | result => exact h.ofCache (fun b hb => ⟨(h.cache b hb).1, by rintro _ ⟨⟩⟩)
  | error => exact h.ofCache (fun b hb => ⟨rfl, (h.cache b hb).2⟩)

theorem saleContract_lawful : (saleContract π redis key seller).Lawful where
  refl := fun _ _ => Rely.refl
  trans := fun _ _ _ _ h h' => Rely.trans h h'
  idle := fun _ _ _ hrely h r hr htask => h r (hrely.responses r hr htask) htask
  outside := by
    intro e s s' hinv _ hout
    cases hout
    exact ⟨hinv.expire e, fun _ => Rely.ofCache _⟩
  entry := fun _ _ _ _ hidle _ => call_sound hidle

def nobodyCalled (π : Type) [DecidableEq π] : Pool (Op π) Op.Reply PlacementError (Keyed π) := ⟨{}, []⟩

end Runs

/-! ### Two runs -/

/-- A key, and the sale that the calls below repeat: so many kettles of seller 7. -/
def kettleKey : String := "7d3c1f0a-7c1e-4a53-9d2b-0a1b2c3d4e5f"

def kettleCall : Action Outcome Expiry (Caller ℕ) := .start ⟨7, 1⟩

def allDone (i n : ℕ) : List (Action Outcome Expiry (Caller ℕ)) :=
  List.replicate n (.run i .done)

/-- Both calls go through, and the second returns the bill of the first. -/
def soldAndRepeated : List (Action Outcome Expiry (Caller ℕ)) :=
  kettleCall :: allDone 0 10 ++ kettleCall :: allDone 1 3

/-- Without Redis both calls look for the bill before either of them commits one. -/
def bothLook : List (Action Outcome Expiry (Caller ℕ)) :=
  [kettleCall, kettleCall] ++ allDone 0 3 ++ allDone 1 3 ++ allDone 0 3 ++ allDone 1 3

end DiscountBazar.Pos.Sales
