/-
Scheduled jobs under a lock in Redis (`distributedScheduler.js`).

Every instance runs every job on a timer. A run takes the lock of its job with one command, runs the
handler, reads the lock and deletes it when it finds its own value there; the lock runs out by
itself. Instances share nothing but Redis, so a task here is one run of a job by an instance.
-/
import DiscountBazar.Lib.Lease
import DiscountBazar.Lib.Tasks

namespace DiscountBazar.Scheduler

open Tasks Leases Function
open Prog (perform)

/-! ## Redis -/

/-- `instanceId`, and `Date.now()` of the instance. -/
structure LockValue where
  instanceId : ℕ
  now : ℕ
  deriving DecidableEq

/-- What stands under a lock key, and, as history, the run that set it. -/
structure RedisLock where
  value : LockValue
  expiresAt : ℕ
  owner : ℕ

/-- Redis with its clock in milliseconds; as history, what each run has locked and until when, whose
handler is running, and whether a run has deleted the lock of another. -/
structure Cluster where
  clock : ℕ
  locks : String → Option RedisLock := fun _ => none
  held : ℕ → Option (Hold String ℕ) := fun _ => none
  running : List (ℕ × String) := []
  stolen : Bool := false

/-- The lock of a job, if it has not run out. -/
def Cluster.lock (s : Cluster) (name : String) : Option RedisLock :=
  (s.locks name).filter (fun lock => decide (s.clock ≤ lock.expiresAt))

/-- The locks as leases of the runs. -/
def Cluster.book (s : Cluster) : Book ℕ String ℕ where
  lockedUntil := fun name => (s.locks name).map RedisLock.expiresAt
  held := s.held

/-! ## Commands -/

inductive Kind where
  /-- `Date.now()` -/
  | now
  /-- `set(lockKey, lockValue, 'PX', lockDuration, 'NX')` -/
  | set (name : String) (value : LockValue) (lockDuration : ℕ)
  | get (name : String)
  | del (name : String)
  /-- `handler()` is called -/
  | start (name : String)
  /-- `handler()` has returned or thrown -/
  | finish (name : String)

@[reducible] def Kind.Reply : Kind → Type
  | .now => ℕ
  | .set _ _ _ => Bool
  | .get _ => Option LockValue
  | _ => Unit

/-- What the handler throws. -/
inductive JobError where
  | thrown

/-- The time an instance reads, and whether its handler throws. -/
structure Choice where
  now : ℕ := 0
  throws : Bool := false

/-- The lock of the job is set by this run. -/
def lockFor (task : ℕ) (name : String) (value : LockValue) (lockDuration : ℕ) (s : Cluster) :
    Cluster :=
  { s with
    locks := update s.locks name (some ⟨value, s.clock + lockDuration, task⟩)
    held := update s.held task (some ⟨name, s.clock + lockDuration⟩) }

/-- The lock of the job is deleted by this run. -/
def unlock (task : ℕ) (name : String) (lock : RedisLock) (s : Cluster) : Cluster :=
  { s with
    locks := update s.locks name none
    held := update s.held task none
    stolen := s.stolen || decide (lock.owner ≠ task) }

/-- What a command of this run answers and leaves. -/
def effect (task : ℕ) (c : Choice) (s : Cluster) :
    (kind : Kind) → Except JobError kind.Reply × Cluster
  | .now => (.ok c.now, s)
  | .set name value lockDuration =>
    match s.lock name with
    | some _ => (.ok false, s)
    | none => (.ok true, lockFor task name value lockDuration s)
  | .get name => (.ok ((s.lock name).map RedisLock.value), s)
  | .del name =>
    match s.lock name with
    | some lock => (.ok (), unlock task name lock s)
    | none => (.ok (), s)
  | .start name => (.ok (), { s with running := (task, name) :: s.running })
  | .finish _ =>
    (if c.throws then .error .thrown else .ok (),
      { s with running := s.running.filter (fun run => decide (run.1 ≠ task)) })

def performOp (task : ℕ) (kind : Kind) (c : Choice) (s : Cluster) :
    Option (Except JobError kind.Reply × Cluster) :=
  some (effect task c s kind)

/-! ## A run of a job -/

abbrev M := Prog Kind Kind.Reply JobError

def acquireLock (instanceId : ℕ) (name : String) (lockDuration : ℕ) : M (Option LockValue) := do
  let now ← perform Kind.now
  let lockValue : LockValue := ⟨instanceId, now⟩
  let result ← perform (Kind.set name lockValue lockDuration)
  if result then pure (some lockValue)
  else do
    -- whose lock it is goes into the log
    let _ ← perform (Kind.get name)
    pure none

def releaseLock (name : String) (lockValue : LockValue) : M Unit := do
  let currentValue ← perform (Kind.get name)
  if currentValue = some lockValue then perform (Kind.del name) else pure ()

/-- What is run under the lock. A handler that throws leaves the lock to run out. -/
def runLocked (name : String) : Option LockValue → M Unit
  | none => pure ()
  | some lockValue => do
      perform (Kind.start name)
      perform (Kind.finish name)
      releaseLock name lockValue

structure Job where
  instanceId : ℕ
  name : String
  intervalMs : ℕ

/-- `lockDuration` is twice the interval. -/
def Job.lockDuration (job : Job) : ℕ := job.intervalMs * 2

def executeJob (job : Job) : M Unit :=
  Prog.tryCatch (acquireLock job.instanceId job.name job.lockDuration >>= runLocked job.name)
    (fun _ => pure ())

inductive Event where
  | elapse (milliseconds : ℕ)

def outside : Event → Cluster → Option Cluster
  | .elapse milliseconds, s => some { s with clock := s.clock + milliseconds }

/-- Any number of instances that run any jobs at any times. -/
def scheduler : System Kind Kind.Reply JobError Cluster Choice Event Job where
  perform := performOp
  outside := outside
  entry := executeJob
  mayStart := fun _ _ => true

abbrev Act := Action Choice Event Job

/-! ## The locks as leases -/

section Lemmas

variable {s : Cluster} {name : String}

theorem isFree_of_lock (h : s.lock name = none) : s.book.isFree name s.clock = true := by
  unfold Book.isFree Cluster.book
  unfold Cluster.lock at h
  dsimp only
  cases hlock : s.locks name with
  | none => rfl
  | some lock =>
    rw [hlock, Option.filter_eq_none_iff] at h
    have hout : ¬ s.clock ≤ lock.expiresAt := fun hin => h lock rfl (decide_eq_true hin)
    rw [Option.map_some, Option.all_some, decide_eq_true_eq]
    omega

theorem lock_eq_some {lock : RedisLock} (h : s.lock name = some lock) :
    s.locks name = some lock ∧ s.clock ≤ lock.expiresAt := by
  unfold Cluster.lock at h
  rw [Option.filter_eq_some_iff] at h
  exact ⟨h.1, of_decide_eq_true h.2⟩

theorem book_lockFor (task : ℕ) (value : LockValue) (lockDuration : ℕ) :
    (lockFor task name value lockDuration s).book
      = s.book.acquire task name (s.clock + lockDuration) := by
  unfold Cluster.book Book.acquire lockFor
  simp only [Book.mk.injEq, and_true]
  funext other
  by_cases h : other = name
  · simp [h]
  · simp [h]

theorem book_unlock (task : ℕ) (lock : RedisLock) :
    (unlock task name lock s).book = s.book.release task name := by
  unfold Cluster.book Book.release unlock
  simp only [Book.mk.injEq, and_true]
  funext other
  by_cases h : other = name
  · simp [h]
  · simp [h]

end Lemmas

end DiscountBazar.Scheduler
