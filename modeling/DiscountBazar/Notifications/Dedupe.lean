/-
Notifications that are sent once (`claimDedupeKey`, `notify` in `notification.service.js`).

A call of `notify` goes through the recipients of its event one by one: it reads the recipient's
preferences, claims the key of the notification in Redis, or in a map of the process where Redis
does not answer, stores the notification and hands it to the queue. Any of these steps may fail; the
call then goes on with the next recipient. The key is not given back where the notification could
not be stored, and two events may share a key.
-/
import DiscountBazar.Notifications.Builder
import Mathlib.Data.List.Count

namespace DiscountBazar.Notifications

open Function Runs List

/-! ## Events, faults and what is stored -/

/-- One occurrence of an event. Calls of `notify` that repeat it have the same number. -/
structure Event where
  occurrence : ℕ
  type : NotificationEvent
  payload : Payload
  deriving DecidableEq

/-- Who hears of an event, and in which role. -/
structure Recipient where
  userId : String
  role : NotificationRole
  deriving DecidableEq

def Notification.recipient (n : Notification) : Recipient := ⟨n.userId, n.role⟩

/-- `NOTIFICATIONS_ENABLED`, `isRedisEnabled` and `DEFAULT_DEDUP_TTL_SECONDS`. -/
structure NotifySettings where
  enabled : Bool
  redisEnabled : Bool
  dedupTtlSeconds : ℕ

/-- What becomes of a command to a store: it is `lost` where it takes effect without an answer. -/
inductive Answer where
  | answered | lost | failed
  deriving DecidableEq

/-- The failures in the handling of one notification. -/
structure Faults where
  /-- the preferences cannot be read -/
  preference : Bool := false
  /-- `redis.set` -/
  claim : Answer := .answered
  /-- `Notification.create` -/
  create : Answer := .answered
  /-- the queue, or the delivery without one, throws -/
  delivery : Bool := false
  /-- the update to "failed" after that throws too -/
  markFailed : Bool := false

inductive NotificationStatus where
  | pending | failed

/-- A document of the notifications, with the event it was made for. -/
structure NotificationDoc where
  event : Event
  userId : String
  role : NotificationRole
  dedupeKey : String
  status : NotificationStatus

def NotificationDoc.recipient (d : NotificationDoc) : Recipient := ⟨d.userId, d.role⟩

/-- The stores, the maps of the processes, and the pairs of an event and a recipient for which a
call has run without a failure. -/
structure State where
  now : Date := 0
  redis : String → Option Date := fun _ => none
  localDedupeStore : ℕ → String → Option Date := fun _ _ => none
  preferences : Recipient → Option NotificationPreference := fun _ => none
  notifications : List NotificationDoc := []
  served : List (Event × Recipient) := []

/-! ## Claims of keys -/

variable (settings : NotifySettings)

/-- When a key that is claimed now expires. -/
def State.expiry (s : State) : Date := s.now + settings.dedupTtlSeconds * 1000

/-- A key is held until it expires. -/
def isLive (now : Date) (expiry : Option Date) : Bool := expiry.any (fun e => decide (now < e))

/-- `SET key 1 EX ttl NX`. -/
def setIfAbsent (key : String) (s : State) : Bool × State :=
  if isLive s.now (s.redis key) = true then (false, s)
  else (true, { s with redis := update s.redis key (some (s.expiry settings)) })

def cleanLocalDedupeStore (now : Date) (store : String → Option Date) : String → Option Date :=
  fun key => (store key).filter (fun e => decide (now < e))

/-- The map of a process, which is asked where Redis is not there or throws. -/
def claimLocally (process : ℕ) (key : String) (s : State) : Bool × State :=
  let store := cleanLocalDedupeStore s.now (s.localDedupeStore process)
  if isLive s.now (store key) = true then
    (false, { s with localDedupeStore := update s.localDedupeStore process store })
  else
    let claimed := update store key (some (s.expiry settings))
    (true, { s with localDedupeStore := update s.localDedupeStore process claimed })

/-- `claimDedupeKey`. Redis refuses an expiry of 0 seconds. -/
def claimDedupeKey (process : ℕ) (claim : Answer) (key : String) (s : State) : Bool × State :=
  if settings.redisEnabled = true ∧ settings.dedupTtlSeconds ≠ 0 then
    match claim with
    | .answered => setIfAbsent settings key s
    | .lost => claimLocally settings process key (setIfAbsent settings key s).2
    | .failed => claimLocally settings process key s
  else claimLocally settings process key s

/-- The store that decides on a claim answers it without a failure. -/
def AnswersClaim (claim : Answer) : Prop :=
  settings.redisEnabled = true → settings.dedupTtlSeconds ≠ 0 ∧ claim = .answered

instance (claim : Answer) : Decidable (AnswersClaim settings claim) :=
  inferInstanceAs (Decidable (settings.redisEnabled = true →
    settings.dedupTtlSeconds ≠ 0 ∧ claim = .answered))

def Held (process : ℕ) (claim : Answer) (key : String) (s : State) : Prop :=
  if settings.redisEnabled = true ∧ settings.dedupTtlSeconds ≠ 0 ∧ claim = .answered then
    isLive s.now (s.redis key) = true
  else isLive s.now (s.localDedupeStore process key) = true

instance (process : ℕ) (claim : Answer) (key : String) (s : State) :
    Decidable (Held settings process claim key s) :=
  inferInstanceAs (Decidable (if settings.redisEnabled = true ∧ settings.dedupTtlSeconds ≠ 0 ∧
    claim = .answered then _ else _))

/-! ## `notify` -/

/-- `getPreference`, which inserts the defaults. -/
def getPreference (r : Recipient) (s : State) : NotificationPreference × State :=
  let preference := (s.preferences r).getD {}
  (preference, { s with preferences := update s.preferences r (some preference) })

inductive Handled where
  | skipped | duplicate | undelivered | enqueued
  deriving DecidableEq

def document (event : Event) (n : Notification) (key : String) (status : NotificationStatus) :
    NotificationDoc :=
  ⟨event, n.userId, n.role, key, status⟩

/-- What follows on the claim: the document is stored and handed on. -/
def createAndDeliver (event : Event) (n : Notification) (key : String) (faults : Faults)
    (s : State) : Handled × State :=
  let store (status : NotificationStatus) : State :=
    { s with notifications := s.notifications ++ [document event n key status] }
  match faults.create with
  | .failed => (.skipped, s)
  | .lost => (.skipped, store .pending)
  | .answered =>
    if faults.delivery = false then (.enqueued, store .pending)
    else if faults.markFailed = false then (.undelivered, store .failed)
    else (.skipped, store .pending)

/-- The body of the loop of `notify`. -/
def handleNotification (process : ℕ) (event : Event) (n : Notification) (faults : Faults)
    (s : State) : Handled × State :=
  if faults.preference = true then (.skipped, s)
  else
    let read := getPreference n.recipient s
    if isAllowedByPreference event.type read.1 = false then (.skipped, read.2)
    else
      let key := dedupeKeyForNotification event.type n event.payload
      let claim := claimDedupeKey settings process faults.claim key read.2
      if claim.1 = false then (.duplicate, claim.2)
      else createAndDeliver event n key faults claim.2

/-- The summary that `notify` returns. -/
structure Summary where
  enqueued : ℕ := 0
  skipped : ℕ := 0
  duplicates : ℕ := 0

def Summary.add (summary : Summary) : Handled → Summary
  | .skipped => { summary with skipped := summary.skipped + 1 }
  | .duplicate => { summary with duplicates := summary.duplicates + 1 }
  | .undelivered => summary
  | .enqueued => { summary with enqueued := summary.enqueued + 1 }

/-- The handling of a notification, which is noted where it meets no failure and is allowed by the
preferences. -/
def handle (process : ℕ) (event : Event) (n : Notification) (faults : Faults) (s : State) :
    Handled × State :=
  let result := handleNotification settings process event n faults s
  if (result.1 = .duplicate ∨ result.1 = .enqueued) ∧ AnswersClaim settings faults.claim then
    (result.1, { result.2 with served := (event, n.recipient) :: result.2.served })
  else result

def tasks (event : Event) (faults : ℕ → Faults) : List (Notification × Faults) :=
  if settings.enabled = false then []
  else (buildNotification event.type event.payload).zipIdx.map (fun p => (p.1, faults p.2))

def notify (process : ℕ) (event : Event) (faults : ℕ → Faults) (s : State) : Summary × State :=
  (tasks settings event faults).foldl (fun acc task =>
    let result := handle settings process event task.1 task.2 acc.2
    (acc.1.add result.1, result.2)) ({}, s)

/-! ## Runs -/

/-- A step of a run: a call handles one notification, time passes, a user changes what he wants to
hear of, or a process starts anew. -/
inductive Act where
  | handle (process : ℕ) (event : Event) (n : Notification) (faults : Faults)
  | wait (ms : ℕ)
  | setPreference (r : Recipient) (preference : NotificationPreference)
  | restart (process : ℕ)

def step (s : State) : Act → State
  | .handle process event n faults => (handle settings process event n faults s).2
  | .wait ms => { s with now := s.now + ms }
  | .setPreference r preference =>
    { s with preferences := update s.preferences r (some preference) }
  | .restart process =>
    { s with localDedupeStore := update s.localDedupeStore process (fun _ => none) }

/-- A call of `notify`, or what happens between the calls. -/
inductive Call where
  | notify (process : ℕ) (event : Event) (faults : ℕ → Faults)
  | wait (ms : ℕ)
  | setPreference (r : Recipient) (preference : NotificationPreference)
  | restart (process : ℕ)

def Call.acts : Call → List Act
  | .notify process event faults =>
    (tasks settings event faults).map (fun task => .handle process event task.1 task.2)
  | .wait ms => [.wait ms]
  | .setPreference r preference => [.setPreference r preference]
  | .restart process => [.restart process]

theorem notify_loop_eq_exec (process : ℕ) (event : Event) (ts : List (Notification × Faults))
    (summary : Summary) (s : State) :
    (ts.foldl (fun acc task =>
      let result := handle settings process event task.1 task.2 acc.2
      (acc.1.add result.1, result.2)) (summary, s)).2 =
      exec (step settings) s (ts.map (fun task => .handle process event task.1 task.2)) := by
  induction ts generalizing summary s with
  | nil => rfl
  | cons task rest ih => exact ih _ _

theorem notify_eq_exec (process : ℕ) (event : Event) (faults : ℕ → Faults) (s : State) :
    (notify settings process event faults s).2 =
      exec (step settings) s ((Call.notify process event faults).acts settings) :=
  notify_loop_eq_exec settings process event _ {} s

/-! ## Exactly one document -/

def State.docs (s : State) (event : Event) (r : Recipient) : ℕ :=
  s.notifications.countP (fun d => decide (d.event = event ∧ d.recipient = r))

/-- No event has two documents for one recipient, and it has one as soon as a call ran without a
failure. -/
def Exact (s : State) : Prop :=
  ∀ event r, s.docs event r ≤ 1 ∧ ((event, r) ∈ s.served → s.docs event r = 1)

def Claims (event : Event) (n : Notification) (faults : Faults) (s : State) : Prop :=
  faults.preference = false ∧
    isAllowedByPreference event.type ((s.preferences n.recipient).getD {}) = true

/-- A free key belongs to an event that has no document yet, unless none is stored now, and a held
key to one that has a document, unless the claim fails. -/
def KeyTells (s : State) : Act → Prop
  | .handle process event n faults =>
    Claims event n faults s →
      if Held settings process faults.claim
          (dedupeKeyForNotification event.type n event.payload) s then
        AnswersClaim settings faults.claim → s.docs event n.recipient = 1
      else faults.create ≠ .failed → s.docs event n.recipient = 0
  | _ => True

/-! ## What the claim of a key does -/

section Claim

variable (process : ℕ) (claim : Answer) (key : String) (s : State)

theorem isLive_cleanLocalDedupeStore (now : Date) (store : String → Option Date) :
    isLive now (cleanLocalDedupeStore now store key) = isLive now (store key) := by
  unfold isLive cleanLocalDedupeStore
  cases store key with
  | none => rfl
  | some e =>
    by_cases he : now < e
    · simp [he]
    · simp [he]

theorem setIfAbsent_fst :
    (setIfAbsent settings key s).1 = false ↔ isLive s.now (s.redis key) = true := by
  unfold setIfAbsent
  split
  · rename_i h
    exact iff_of_true rfl h
  · rename_i h
    exact iff_of_false Bool.noConfusion h

theorem claimLocally_fst :
    (claimLocally settings process key s).1 = false ↔
      isLive s.now (s.localDedupeStore process key) = true := by
  unfold claimLocally
  dsimp only
  rw [isLive_cleanLocalDedupeStore]
  split
  · rename_i h
    exact iff_of_true rfl h
  · rename_i h
    exact iff_of_false Bool.noConfusion h

theorem setIfAbsent_localDedupeStore :
    (setIfAbsent settings key s).2.localDedupeStore = s.localDedupeStore := by
  unfold setIfAbsent
  split <;> rfl

theorem setIfAbsent_now : (setIfAbsent settings key s).2.now = s.now := by
  unfold setIfAbsent
  split <;> rfl

theorem claimDedupeKey_fst :
    (claimDedupeKey settings process claim key s).1 = false ↔
      Held settings process claim key s := by
  unfold claimDedupeKey Held
  by_cases hredis : settings.redisEnabled = true ∧ settings.dedupTtlSeconds ≠ 0
  · rw [if_pos hredis]
    cases claim with
    | answered => rw [if_pos ⟨hredis.1, hredis.2, rfl⟩, setIfAbsent_fst]
    | lost =>
      rw [if_neg (fun h => nomatch h.2.2), claimLocally_fst, setIfAbsent_localDedupeStore,
        setIfAbsent_now]
    | failed => rw [if_neg (fun h => nomatch h.2.2), claimLocally_fst]
  · rw [if_neg hredis, if_neg (fun h => hredis ⟨h.1, h.2.1⟩), claimLocally_fst]

/-- A change of the stores of keys alone. -/
def SameDocs (s s' : State) : Prop :=
  s'.notifications = s.notifications ∧ s'.served = s.served

theorem setIfAbsent_sameDocs : SameDocs s (setIfAbsent settings key s).2 := by
  unfold setIfAbsent
  split <;> exact ⟨rfl, rfl⟩

theorem claimLocally_sameDocs : SameDocs s (claimLocally settings process key s).2 := by
  unfold claimLocally
  dsimp only
  split <;> exact ⟨rfl, rfl⟩

theorem claimDedupeKey_sameDocs : SameDocs s (claimDedupeKey settings process claim key s).2 := by
  unfold claimDedupeKey
  split
  · cases claim with
    | answered => exact setIfAbsent_sameDocs settings key s
    | lost =>
      have hset := setIfAbsent_sameDocs settings key s
      have hlocal := claimLocally_sameDocs settings process key (setIfAbsent settings key s).2
      exact ⟨hlocal.1.trans hset.1, hlocal.2.trans hset.2⟩
    | failed => exact claimLocally_sameDocs settings process key s
  · exact claimLocally_sameDocs settings process key s

end Claim

/-! ## What the handling of a notification does -/

section Handle

variable (process : ℕ) {event : Event} {n : Notification} {faults : Faults} {s : State}

def claimFor (event : Event) (n : Notification) (faults : Faults) (s : State) : Bool × State :=
  claimDedupeKey settings process faults.claim
    (dedupeKeyForNotification event.type n event.payload) (getPreference n.recipient s).2

theorem claimFor_fst : (claimFor settings process event n faults s).1 = false ↔
    Held settings process faults.claim (dedupeKeyForNotification event.type n event.payload) s :=
  claimDedupeKey_fst settings process faults.claim _ (getPreference n.recipient s).2

theorem claimFor_sameDocs : SameDocs s (claimFor settings process event n faults s).2 :=
  claimDedupeKey_sameDocs settings process faults.claim _ (getPreference n.recipient s).2

theorem handleNotification_of_claims (h : Claims event n faults s) :
    handleNotification settings process event n faults s =
      if (claimFor settings process event n faults s).1 = false then
        (.duplicate, (claimFor settings process event n faults s).2)
      else
        createAndDeliver event n (dedupeKeyForNotification event.type n event.payload) faults
          (claimFor settings process event n faults s).2 := by
  unfold handleNotification
  rw [if_neg (Bool.eq_false_iff.mp h.1)]
  dsimp only
  rw [if_neg]
  · rfl
  · intro hallowed
    exact Bool.noConfusion (hallowed.symm.trans h.2)

theorem handle_of_skipped {s' : State}
    (h : handleNotification settings process event n faults s = (.skipped, s')) :
    (handle settings process event n faults s).2 = s' := by
  unfold handle
  dsimp only
  rw [h, if_neg]
  rintro ⟨hskip | hskip, -⟩
  · exact nomatch hskip
  · exact nomatch hskip

theorem handle_of_not_claims (h : ¬ Claims event n faults s) :
    SameDocs s (handle settings process event n faults s).2 := by
  by_cases hread : faults.preference = true
  · have hskipped : handleNotification settings process event n faults s = (.skipped, s) := by
      unfold handleNotification
      rw [if_pos hread]
    rw [handle_of_skipped settings process hskipped]
    exact ⟨rfl, rfl⟩
  · have hrefused : isAllowedByPreference event.type (getPreference n.recipient s).1 = false :=
      Bool.eq_false_iff.mpr (fun hallowed => h ⟨Bool.eq_false_iff.mpr hread, hallowed⟩)
    have hskipped : handleNotification settings process event n faults s =
        (.skipped, (getPreference n.recipient s).2) := by
      unfold handleNotification
      rw [if_neg hread]
      dsimp only
      rw [if_pos hrefused]
    rw [handle_of_skipped settings process hskipped]
    exact ⟨rfl, rfl⟩

theorem handle_of_held (h : Claims event n faults s)
    (hheld : Held settings process faults.claim
      (dedupeKeyForNotification event.type n event.payload) s) :
    (handle settings process event n faults s).2.notifications = s.notifications ∧
      (handle settings process event n faults s).2.served =
        if AnswersClaim settings faults.claim then (event, n.recipient) :: s.served
        else s.served := by
  have hsame : SameDocs s (claimFor settings process event n faults s).2 :=
    claimFor_sameDocs settings process
  have hresult := handleNotification_of_claims settings process h
  rw [if_pos ((claimFor_fst settings process).mpr hheld)] at hresult
  unfold handle
  dsimp only
  rw [hresult]
  by_cases hanswers : AnswersClaim settings faults.claim
  · rw [if_pos ⟨.inl rfl, hanswers⟩, if_pos hanswers]
    exact ⟨hsame.1, congrArg _ hsame.2⟩
  · rw [if_neg (fun hboth => hanswers hboth.2), if_neg hanswers]
    exact hsame

/-- A free key is taken for nothing where the document cannot be stored. -/
theorem handle_of_create_failed (h : Claims event n faults s)
    (hfree : ¬ Held settings process faults.claim
      (dedupeKeyForNotification event.type n event.payload) s) (hcreate : faults.create = .failed) :
    SameDocs s (handle settings process event n faults s).2 := by
  have hskipped : handleNotification settings process event n faults s =
      (.skipped, (claimFor settings process event n faults s).2) := by
    rw [handleNotification_of_claims settings process h,
      if_neg (fun hclaim => hfree ((claimFor_fst settings process).mp hclaim))]
    unfold createAndDeliver
    rw [hcreate]
  rw [handle_of_skipped settings process hskipped]
  exact claimFor_sameDocs settings process

theorem createAndDeliver_stores (key : String) (hcreate : faults.create ≠ .failed) :
    ∃ status, (createAndDeliver event n key faults s).2 =
      { s with notifications := s.notifications ++ [document event n key status] } := by
  unfold createAndDeliver
  cases hanswer : faults.create with
  | failed => exact absurd hanswer hcreate
  | lost => exact ⟨.pending, rfl⟩
  | answered =>
    dsimp only
    split
    · exact ⟨.pending, rfl⟩
    · split
      · exact ⟨.failed, rfl⟩
      · exact ⟨.pending, rfl⟩

theorem handle_of_free (h : Claims event n faults s)
    (hfree : ¬ Held settings process faults.claim
      (dedupeKeyForNotification event.type n event.payload) s) (hcreate : faults.create ≠ .failed) :
    ∃ key status, (handle settings process event n faults s).2.notifications =
        s.notifications ++ [document event n key status] ∧
      ((handle settings process event n faults s).2.served = s.served ∨
        (handle settings process event n faults s).2.served =
          (event, n.recipient) :: s.served) := by
  have hsame : SameDocs s (claimFor settings process event n faults s).2 :=
    claimFor_sameDocs settings process
  have hresult := handleNotification_of_claims settings process h
  rw [if_neg (fun hclaim => hfree ((claimFor_fst settings process).mp hclaim))] at hresult
  obtain ⟨status, hstored⟩ := createAndDeliver_stores
    (dedupeKeyForNotification event.type n event.payload) hcreate
  rw [← hresult] at hstored
  refine ⟨dedupeKeyForNotification event.type n event.payload, status, ?_⟩
  unfold handle
  dsimp only
  split
  · rw [hstored]
    exact ⟨congrArg (· ++ _) hsame.1, .inr (congrArg _ hsame.2)⟩
  · rw [hstored]
    exact ⟨congrArg (· ++ _) hsame.1, .inl hsame.2⟩

end Handle

/-! ## Exactness from step to step -/

section Exactness

variable {s s' : State} {event : Event} {r : Recipient}

theorem docs_congr (h : s'.notifications = s.notifications) (event : Event) (r : Recipient) :
    s'.docs event r = s.docs event r := by
  unfold State.docs
  rw [h]

theorem SameDocs.exact (h : SameDocs s s') (hs : Exact s) : Exact s' := by
  intro event r
  rw [docs_congr h.1, h.2]
  exact hs event r

theorem exact_served_iff (hdocs : s'.notifications = s.notifications)
    (hserved : s'.served = (event, r) :: s.served) (hs : Exact s) :
    Exact s' ↔ s.docs event r = 1 := by
  constructor
  · intro h
    rw [← docs_congr hdocs]
    refine (h event r).2 ?_
    rw [hserved]
    exact mem_cons_self
  · intro h event' r'
    rw [docs_congr hdocs, hserved]
    refine ⟨(hs event' r').1, fun hmem => ?_⟩
    rcases mem_cons.mp hmem with heq | hmem
    · rw [(Prod.mk.inj heq).1, (Prod.mk.inj heq).2]
      exact h
    · exact (hs event' r').2 hmem

theorem exact_stored_iff {n : Notification} {key : String} {status : NotificationStatus}
    (hdocs : s'.notifications = s.notifications ++ [document event n key status])
    (hserved : s'.served = s.served ∨ s'.served = (event, n.recipient) :: s.served)
    (hs : Exact s) : Exact s' ↔ s.docs event n.recipient = 0 := by
  have hself : s'.docs event n.recipient = s.docs event n.recipient + 1 := by
    unfold State.docs
    rw [hdocs, countP_append, countP_singleton, if_pos]
    exact decide_eq_true ⟨rfl, rfl⟩
  have hother : ∀ event' r', (event', r') ≠ (event, n.recipient) →
      s'.docs event' r' = s.docs event' r' := by
    intro event' r' hne
    unfold State.docs
    rw [hdocs, countP_append, countP_singleton, if_neg, Nat.add_zero]
    intro heq
    obtain ⟨hevent, hr⟩ := of_decide_eq_true heq
    exact hne (Prod.ext hevent.symm hr.symm)
  have hmem : ∀ event' r', (event', r') ≠ (event, n.recipient) → (event', r') ∈ s'.served →
      (event', r') ∈ s.served := by
    intro event' r' hne hin
    rcases hserved with hserved | hserved
    · rwa [hserved] at hin
    · rw [hserved] at hin
      exact (mem_cons.mp hin).resolve_left hne
  constructor
  · intro h
    have hle := (h event n.recipient).1
    omega
  · intro h event' r'
    by_cases heq : (event', r') = (event, n.recipient)
    · rw [(Prod.mk.inj heq).1, (Prod.mk.inj heq).2, hself, h]
      exact ⟨le_refl 1, fun _ => rfl⟩
    · rw [hother event' r' heq]
      exact ⟨(hs event' r').1, fun hin => (hs event' r').2 (hmem event' r' heq hin)⟩

theorem exact_step_iff (hs : Exact s) (act : Act) :
    Exact (step settings s act) ↔ KeyTells settings s act := by
  cases act with
  | handle process event n faults =>
    change Exact (handle settings process event n faults s).2 ↔
      (Claims event n faults s → _)
    by_cases hclaims : Claims event n faults s
    · rw [forall_prop_of_true hclaims]
      split
      · rename_i hheld
        obtain ⟨hdocs, hserved⟩ := handle_of_held settings process hclaims hheld
        by_cases hanswers : AnswersClaim settings faults.claim
        · rw [if_pos hanswers] at hserved
          rw [forall_prop_of_true hanswers]
          exact exact_served_iff hdocs hserved hs
        · rw [if_neg hanswers] at hserved
          exact iff_of_true (SameDocs.exact ⟨hdocs, hserved⟩ hs) (fun h => absurd h hanswers)
      · rename_i hfree
        by_cases hcreate : faults.create = .failed
        · have hsame := handle_of_create_failed settings process hclaims hfree hcreate
          exact iff_of_true (hsame.exact hs) (fun h => absurd hcreate h)
        · obtain ⟨key, status, hdocs, hserved⟩ :=
            handle_of_free settings process hclaims hfree hcreate
          rw [forall_prop_of_true hcreate]
          exact exact_stored_iff hdocs hserved hs
    · have hsame := handle_of_not_claims settings process hclaims
      exact iff_of_true (hsame.exact hs) (fun h => absurd h hclaims)
  | wait | setPreference | restart => exact iff_of_true (SameDocs.exact ⟨rfl, rfl⟩ hs) trivial

end Exactness

theorem exact_start : Exact {} :=
  fun _ _ => ⟨Nat.zero_le 1, fun h => nomatch h⟩

/-- Redis, and keys that are held for a day. -/
def daily : NotifySettings := ⟨true, true, 86400⟩

def orderCancelled : Event where
  occurrence := 1
  type := .orderCancelled
  payload := { eventId := "c7:cancelled", orderId := "ORD7", customerId := "u1" }

/-- The first call cannot store the notification; the second meets no failure. -/
def retriedCancellation : List Call :=
  [.notify 0 orderCancelled (fun _ => { create := .failed }),
    .notify 0 orderCancelled (fun _ => {})]

/-- The code for the drop of a return, and the code that the rider asks for after it. -/
def dropOtp (occurrence : ℕ) : Event where
  occurrence := occurrence
  type := .returnDropOtp
  payload := { orderId := "ORD7", sellerId := "s1" }

def twoDropOtps : List Call :=
  [.notify 0 (dropOtp 1) (fun _ => {}), .notify 0 (dropOtp 2) (fun _ => {})]

theorem not_along_exact {acts : List Act} (event : Event) (r : Recipient)
    (hserved : (event, r) ∈ (exec (step settings) {} acts).served)
    (hdocs : (exec (step settings) {} acts).docs event r = 0) :
    ¬ Along (step settings) Exact {} acts := by
  intro h
  have hone := (h.last event r).2 hserved
  omega

end DiscountBazar.Notifications
