/-
No two instances run a job at the same time.

A lock that has not run out belongs to the run that set it, and no other run holds the job
(`Leases.Book.Exclusive`); so handlers that end before their locks run out exclude each other. What
can break this is the release: it deletes the lock some time after it has read it. The handlers are
alone, and every run deletes only its own lock, exactly where no release comes to delete a lock
after its own has run out.
-/
import DiscountBazar.Scheduler.DistributedScheduler

namespace DiscountBazar.Scheduler

open Tasks Leases Function Runs
open Contract (Sound)
open List Option

/-! ## What is to hold -/

/-- No job is run twice at the same time, and no run has deleted the lock of another. -/
structure Safe (s : Cluster) : Prop where
  alone : ∀ run ∈ s.running, ∀ run' ∈ s.running, run.2 = run'.2 → run = run'
  own : s.stolen = false

/-! ## The conditions -/

/-- Every handler that is running ends before its lock runs out. -/
def RunsInTime (e : Event) (s : Cluster) : Prop :=
  match e with
  | .elapse milliseconds =>
    ∀ run ∈ s.running,
      (s.held run.1).all (fun hold => decide (s.clock + milliseconds ≤ hold.expiry)) = true

/-- No handler is called after its lock has run out. -/
def StartsInTime (task : ℕ) (kind : Kind) (_ : Choice) (s : Cluster) : Prop :=
  match kind with
  | .start _ => (s.held task).all (fun hold => decide (s.clock ≤ hold.expiry)) = true
  | _ => True

/-- What the run has locked has not run out. -/
def HoldsYet (task : ℕ) (name : String) (s : Cluster) : Prop :=
  (s.held task).any (fun hold => decide (hold.resource = name ∧ s.clock ≤ hold.expiry)) = true

/-- The condition: where there is a lock to delete, the one of the release has not run out. -/
def DeletesInTime (task : ℕ) (kind : Kind) (_ : Choice) (s : Cluster) : Prop :=
  match kind with
  | .del name => (s.lock name).isSome = true → HoldsYet task name s
  | _ => True

instance (e : Event) (s : Cluster) : Decidable (RunsInTime e s) := by
  unfold RunsInTime
  infer_instance

instance (task : ℕ) (kind : Kind) (c : Choice) (s : Cluster) :
    Decidable (StartsInTime task kind c s) := by
  unfold StartsInTime
  split
  · infer_instance
  · infer_instance

instance (task : ℕ) (name : String) (s : Cluster) : Decidable (HoldsYet task name s) :=
  inferInstanceAs (Decidable (_ = true))

instance (task : ℕ) (kind : Kind) (c : Choice) (s : Cluster) :
    Decidable (DeletesInTime task kind c s) := by
  unfold DeletesInTime
  split
  · infer_instance
  · infer_instance

theorem holdsYet_iff {task : ℕ} {name : String} {s : Cluster} :
    HoldsYet task name s ↔
      ∃ expiry, s.held task = some ⟨name, expiry⟩ ∧ s.clock ≤ expiry := by
  unfold HoldsYet
  rw [Option.any_eq_true]
  constructor
  · rintro ⟨⟨resource, expiry⟩, hheld, hdecide⟩
    obtain ⟨rfl, hin⟩ := of_decide_eq_true hdecide
    exact ⟨expiry, hheld, hin⟩
  · rintro ⟨expiry, hheld, hin⟩
    exact ⟨⟨name, expiry⟩, hheld, decide_eq_true ⟨rfl, hin⟩⟩

/-! ## The invariant -/

/-- As long as nobody has deleted the lock of another, locks are exclusive leases of the runs that
set them, and the handlers that run are under one. -/
structure Leased (s : Cluster) : Prop where
  exclusive : s.book.Exclusive s.clock
  owned : ∀ name lock, s.locks name = some lock → s.clock ≤ lock.expiresAt →
    s.held lock.owner = some ⟨name, lock.expiresAt⟩
  running : ∀ run ∈ s.running, HoldsYet run.1 run.2 s

variable {s : Cluster} {task : ℕ} {name : String}

theorem Leased.alone (h : Leased s) :
    ∀ run ∈ s.running, ∀ run' ∈ s.running, run.2 = run'.2 → run = run' := by
  intro run hrun run' hrun' hsame
  obtain ⟨expiry, hheld, hin⟩ := holdsYet_iff.mp (h.running run hrun)
  obtain ⟨expiry', hheld', hin'⟩ := holdsYet_iff.mp (h.running run' hrun')
  have htask := h.exclusive.unique run.1 run'.1 _ _ hheld hheld' hin hin' hsame
  exact Prod.ext htask hsame

theorem Leased.owner_iff (h : Leased s) {lock : RedisLock} (hlock : s.lock name = some lock) :
    lock.owner = task ↔ HoldsYet task name s := by
  obtain ⟨hstored, hin⟩ := lock_eq_some hlock
  have howner := h.owned name lock hstored hin
  rw [holdsYet_iff]
  constructor
  · rintro rfl
    exact ⟨lock.expiresAt, howner, hin⟩
  · rintro ⟨expiry, hheld, hin'⟩
    exact h.exclusive.unique lock.owner task _ _ howner hheld hin hin' rfl

theorem Leased.lockFor (h : Leased s) (hfree : s.lock name = none) (hheld : s.held task = none)
    (value : LockValue) (lockDuration : ℕ) :
    Leased (lockFor task name value lockDuration s) := by
  have hold : ∀ other, s.held other ≠ none →
      (Scheduler.lockFor task name value lockDuration s).held other = s.held other := by
    intro other hother
    have hne : other ≠ task := fun heq => hother (heq ▸ hheld)
    exact update_of_ne hne _ _
  refine ⟨?_, ?_, ?_⟩
  · rw [book_lockFor]
    exact h.exclusive.acquire le_rfl (isFree_of_lock hfree) task _
  · intro other lock hlock hin
    unfold Scheduler.lockFor at hlock
    dsimp only at hlock
    by_cases hother : other = name
    · subst hother
      rw [update_self, some.injEq] at hlock
      subst hlock
      exact update_self _ _ _
    · rw [update_of_ne hother] at hlock
      have howner := h.owned other lock hlock hin
      rw [hold lock.owner (by rw [howner]; simp)]
      exact howner
  · intro run hrun
    have hyet := holdsYet_iff.mp (h.running run hrun)
    obtain ⟨expiry, hrunHeld, hin⟩ := hyet
    exact holdsYet_iff.mpr ⟨expiry, (hold run.1 (by rw [hrunHeld]; simp)).trans hrunHeld, hin⟩

theorem Leased.unlock (h : Leased s) {lock : RedisLock} (hlock : s.lock name = some lock)
    (howner : lock.owner = task) (hidle : ∀ run ∈ s.running, run.1 ≠ task) :
    Leased (unlock task name lock s) := by
  obtain ⟨hstored, hin⟩ := lock_eq_some hlock
  have hheld : s.held task = some ⟨name, lock.expiresAt⟩ :=
    howner ▸ h.owned name lock hstored hin
  refine ⟨?_, ?_, ?_⟩
  · rw [book_unlock]
    exact h.exclusive.release hheld hin
  · intro other lock' hlock' hin'
    unfold Scheduler.unlock at hlock'
    dsimp only at hlock'
    by_cases hother : other = name
    · subst hother
      rw [update_self] at hlock'
      cases hlock'
    · rw [update_of_ne hother] at hlock'
      have howner' := h.owned other lock' hlock' hin'
      have hne : lock'.owner ≠ task := by
        intro heq
        rw [heq, hheld] at howner'
        simp only [some.injEq, Hold.mk.injEq] at howner'
        exact hother howner'.1.symm
      exact (update_of_ne hne _ _).trans howner'
  · intro run hrun
    obtain ⟨expiry, hrunHeld, hrunIn⟩ := holdsYet_iff.mp (h.running run hrun)
    refine holdsYet_iff.mpr ⟨expiry, ?_, hrunIn⟩
    exact (update_of_ne (hidle run hrun) _ _).trans hrunHeld

theorem Leased.advance (h : Leased s) {milliseconds : ℕ}
    (hintime : RunsInTime (.elapse milliseconds) s) :
    Leased { s with clock := s.clock + milliseconds } := by
  refine ⟨h.exclusive.advance (Nat.le_add_right _ _), ?_, ?_⟩
  · intro name lock hlock hin
    dsimp only at hin
    exact h.owned name lock hlock (by omega)
  · intro run hrun
    obtain ⟨expiry, hheld, hin⟩ := holdsYet_iff.mp (h.running run hrun)
    have hlater := hintime run hrun
    rw [hheld, all_some] at hlater
    exact holdsYet_iff.mpr ⟨expiry, hheld, of_decide_eq_true hlater⟩

/-! ## One command -/

/-- What the others do to a run: they do not touch what it has locked, nor call its handler. -/
structure Apart (task : ℕ) (s s' : Cluster) : Prop where
  held : s'.held task = s.held task
  running : ∀ run ∈ s'.running, run.1 = task → run ∈ s.running

theorem Apart.refl (task : ℕ) (s : Cluster) : Apart task s s := ⟨rfl, fun _ h _ => h⟩

theorem Apart.trans {s s' s'' : Cluster} (h : Apart task s s') (h' : Apart task s' s'') :
    Apart task s s'' :=
  ⟨h'.held.trans h.held, fun run hrun htask => h.running run (h'.running run hrun htask) htask⟩

def Resting (task : ℕ) (s : Cluster) : Prop := ∀ run ∈ s.running, run.1 ≠ task

theorem Resting.apart {s s' : Cluster} (h : Resting task s) (ha : Apart task s s') :
    Resting task s' :=
  fun run hrun htask => h run (ha.running run hrun htask) htask

def Ready (task : ℕ) (kind : Kind) (s : Cluster) : Prop :=
  match kind with
  | .set _ _ _ => s.held task = none
  | .start name => ∃ expiry, s.held task = some ⟨name, expiry⟩
  | .del _ => Resting task s
  | _ => True

theorem effect_apart (c : Choice) (s : Cluster) (kind : Kind) {other : ℕ} (hother : other ≠ task) :
    Apart other s (effect task c s kind).2 := by
  cases kind with
  | now | get => exact Apart.refl other s
  | set name value lockDuration =>
    unfold effect
    dsimp only
    split
    · exact Apart.refl other s
    · exact ⟨update_of_ne hother _ _, fun run hrun _ => hrun⟩
  | del name =>
    unfold effect
    dsimp only
    split
    · exact ⟨update_of_ne hother _ _, fun run hrun _ => hrun⟩
    · exact Apart.refl other s
  | start name =>
    refine ⟨rfl, fun run hrun htask => ?_⟩
    rcases mem_cons.mp hrun with rfl | hrun
    · exact absurd htask.symm hother
    · exact hrun
  | finish name => exact ⟨rfl, fun run hrun _ => (mem_filter.mp hrun).1⟩

def Inv (s : Cluster) : Prop := s.stolen = false → Leased s

theorem effect_keeps (c : Choice) {kind : Kind} (hinv : Inv s) (hready : Ready task kind s)
    (hintime : StartsInTime task kind c s) : Inv (effect task c s kind).2 := by
  cases kind with
  | now | get => exact hinv
  | set name value lockDuration =>
    unfold effect
    dsimp only
    split
    · exact hinv
    next hfree => exact fun hown => (hinv hown).lockFor hfree hready value lockDuration
  | del name =>
    unfold effect
    dsimp only
    split
    next lock hlock =>
      intro hown
      obtain ⟨hbefore, howner⟩ := Bool.or_eq_false_iff.mp hown
      exact (hinv hbefore).unlock hlock (not_not.mp (of_decide_eq_false howner)) hready
    · exact hinv
  | start name =>
    intro hown
    have hleased := hinv hown
    refine ⟨hleased.exclusive, hleased.owned, fun run hrun => ?_⟩
    rcases mem_cons.mp hrun with rfl | hrun
    · obtain ⟨expiry, hheld⟩ := hready
      unfold StartsInTime at hintime
      rw [hheld, all_some] at hintime
      exact holdsYet_iff.mpr ⟨expiry, hheld, of_decide_eq_true hintime⟩
    · exact hleased.running run hrun
  | finish name =>
    intro hown
    have hleased := hinv hown
    exact ⟨hleased.exclusive, hleased.owned,
      fun run hrun => hleased.running run (mem_filter.mp hrun).1⟩

theorem effect_safe_iff (c : Choice) {kind : Kind} (hinv : Inv s) (hsafe : Safe s)
    (hinv' : Inv (effect task c s kind).2) :
    Safe (effect task c s kind).2 ↔ DeletesInTime task kind c s := by
  have hleased := hinv hsafe.own
  -- all but the delete leave the history as it is
  have hkept : (effect task c s kind).2.stolen = false → Safe (effect task c s kind).2 :=
    fun hown => ⟨(hinv' hown).alone, hown⟩
  cases kind with
  | now | get => exact iff_of_true hsafe trivial
  | start | finish => exact iff_of_true (hkept hsafe.own) trivial
  | set name value lockDuration =>
    refine iff_of_true (hkept ?_) trivial
    unfold effect
    dsimp only
    split
    · exact hsafe.own
    · exact hsafe.own
  | del name =>
    have hsafe_iff : Safe (effect task c s (.del name)).2 ↔
        (effect task c s (.del name)).2.stolen = false := ⟨Safe.own, hkept⟩
    rw [hsafe_iff]
    unfold effect DeletesInTime
    dsimp only
    cases hlock : s.lock name with
    | none => simp [hsafe.own]
    | some lock =>
      unfold unlock
      dsimp only
      rw [hsafe.own, Bool.false_or, decide_eq_false_iff_not, not_not,
        hleased.owner_iff hlock]
      simp

/-! ## A run of a job -/

/-- Handlers in time, under locks that are nobody else's. -/
def timely : Contract scheduler where
  inv := Inv
  rely := Apart
  idle := fun task s => s.held task = none
  may := StartsInTime
  mayOutside := RunsInTime

section Sound

variable {i : ℕ}

variable {s : Cluster}

theorem sound_perform {kind : Kind} {Q : kind.Reply → Cluster → Prop}
    (hready : ∀ s', Apart i s s' → Ready i kind s')
    (hok : ∀ c s' a, Apart i s s' → (effect i c s' kind).1 = .ok a →
      Q a (effect i c s' kind).2) :
    timely.Sound i Q (fun _ _ => True) (Prog.perform kind) s := by
  refine Sound.perform (fun s' hrely hinv c hmay r s'' hstep => ?_)
  have heffect : effect i c s' kind = (r, s'') := some.inj hstep
  have hkeeps := effect_keeps c hinv (hready s' hrely) hmay
  have hothers := fun j (hj : j ≠ i) => effect_apart c s' kind hj
  have hpost := fun a => hok c s' a hrely
  rw [heffect] at hkeeps hothers hpost
  exact ⟨hkeeps, hothers, hpost, fun _ _ => trivial⟩

theorem acquireLock_sound (instanceId : ℕ) (name : String) (lockDuration : ℕ) (hs : s.held i = none) :
    timely.Sound i
      (fun lock s => lock.isSome = true → ∃ expiry, s.held i = some ⟨name, expiry⟩)
      (fun _ _ => True) (acquireLock instanceId name lockDuration) s := by
  unfold acquireLock
  refine Sound.bind (R := fun _ s => s.held i = none)
    (sound_perform (fun _ _ => trivial) (fun c s' _ hapart _ => hapart.held.trans hs))
    (fun now s hs => ?_)
  have hset : timely.Sound i
      (fun result s => result = true → ∃ expiry, s.held i = some ⟨name, expiry⟩)
      (fun _ _ => True) (Prog.perform (Kind.set name ⟨instanceId, now⟩ lockDuration)) s := by
    refine sound_perform (fun s' hapart => hapart.held.trans hs) (fun c s' result _ hreply => ?_)
    unfold effect at hreply ⊢
    dsimp only at hreply ⊢
    split at hreply
    · intro hresult
      cases hreply
      cases hresult
    · exact fun _ => ⟨s'.clock + lockDuration, update_self _ _ _⟩
  refine Sound.bind hset (fun result s hresult => ?_)
  refine Sound.ite (fun htrue => Sound.ret (fun _ => hresult htrue)) (fun _ => ?_)
  refine Sound.bind (R := fun _ _ => True)
    (sound_perform (fun _ _ => trivial) (fun _ _ _ _ _ => trivial)) (fun _ s _ => ?_)
  exact Sound.ret (fun hsome => by cases hsome)

theorem releaseLock_sound (name : String) (lockValue : LockValue) (hs : Resting i s) :
    timely.Keeps i (releaseLock name lockValue) s := by
  unfold releaseLock
  refine Sound.bind (R := fun _ s => Resting i s)
    (sound_perform (fun _ _ => trivial) (fun c s' _ hapart _ => hs.apart hapart))
    (fun currentValue s hs => ?_)
  refine Sound.ite (fun _ => ?_) (fun _ => Sound.ret trivial)
  exact sound_perform (fun s' hapart => hs.apart hapart) (fun _ _ _ _ _ => trivial)

theorem runLocked_sound (name : String) (lock : Option LockValue)
    (hs : lock.isSome = true → ∃ expiry, s.held i = some ⟨name, expiry⟩) :
    timely.Keeps i (runLocked name lock) s := by
  cases lock with
  | none => exact Sound.ret trivial
  | some lockValue =>
    obtain ⟨expiry, hheld⟩ := hs rfl
    refine Sound.bind (R := fun _ _ => True)
      (sound_perform (fun s' hapart => ⟨expiry, hapart.held.trans hheld⟩)
        (fun _ _ _ _ _ => trivial)) (fun _ s _ => ?_)
    refine Sound.bind (R := fun _ s => Resting i s)
      (sound_perform (fun _ _ => trivial) (fun c s' _ _ _ run hrun => ?_)) (fun _ s hs => ?_)
    · exact of_decide_eq_true (mem_filter.mp hrun).2
    · exact releaseLock_sound name lockValue hs

theorem executeJob_sound (job : Job) (hs : s.held i = none) :
    timely.Keeps i (executeJob job) s := by
  unfold executeJob
  refine Sound.tryCatch (D := fun _ _ => True) ?_ (fun _ _ _ => Sound.ret trivial)
  exact Sound.bind (acquireLock_sound job.instanceId job.name job.lockDuration hs)
    (fun lock s hlock => runLocked_sound job.name lock hlock)

end Sound

/-! ## Every interleaving -/

theorem timely_lawful : timely.Lawful where
  refl := Apart.refl
  trans := fun _ _ _ _ => Apart.trans
  idle := fun _ _ _ hapart hidle => hapart.held.trans hidle
  outside := by
    intro e s s' hinv hintime hout
    cases e with
    | elapse milliseconds =>
      cases hout
      exact ⟨fun hown => (hinv hown).advance hintime, fun _ => ⟨rfl, fun _ hrun _ => hrun⟩⟩
  entry := fun job _ _ _ hidle _ => executeJob_sound job hidle

theorem leased_start (clock : ℕ) : Leased { clock } where
  exclusive := by
    constructor
    · intro i hold hheld
      cases hheld
    · intro i j hold hold' hheld
      cases hheld
  owned := by
    intro name lock hlock
    cases hlock
  running := fun _ hrun => absurd hrun not_mem_nil

/-- Any number of instances run any jobs, each handler within its lock: no job is run twice at the
same time, and no lock is deleted but by the run that holds it, exactly where every release that
finds a lock to delete comes before its own has run out. -/
theorem jobs_run_alone (clock : ℕ) (acts : List Act)
    (hruns : Guarded scheduler.step (OnEvents RunsInTime) ⟨{ clock }, []⟩ acts)
    (hstarts : Guarded scheduler.step (OnOps StartsInTime) ⟨{ clock }, []⟩ acts) :
    Along scheduler.step (fun p => Safe p.shared) ⟨{ clock }, []⟩ acts ↔
      Guarded scheduler.step (OnOps DeletesInTime) ⟨{ clock }, []⟩ acts := by
  have hholds := Contract.holds_start (K := timely) (s := { clock })
    (fun _ => leased_start clock) (fun _ => rfl)
  have hsafe : Safe { clock } := ⟨(leased_start clock).alone, rfl⟩
  refine timely_lawful.along_iff_onOps (P := Safe) (fun i op c s hinv hs _ => ?_) ?_ hholds hsafe
    (Contract.guarded_meets (K := timely) hruns hstarts)
  · exact ⟨_, _, rfl, fun hinv' => effect_safe_iff c hinv hs hinv'⟩
  · intro e s s' _ _ hs hout _
    cases e with
    | elapse milliseconds =>
      cases hout
      exact ⟨hs.alone, hs.own⟩

/-! ## Runs of one job -/

def sweep (instanceId : ℕ) : Job := ⟨instanceId, "sweep", 5⟩

/-- A run goes through, one throws, and one finds the lock of that. -/
def threeSweeps : List Act :=
  .start (sweep 0) :: replicate 6 (.run 0 {}) ++
    [.start (sweep 1), .start (sweep 2)] ++ replicate 3 (.run 1 {}) ++
    [.outside (.elapse 10), .run 1 { throws := true }] ++ replicate 3 (.run 2 {})

theorem jobs_run_alone_threeSweeps :
    Along scheduler.step (fun p => Safe p.shared) ⟨{ clock := 0 }, []⟩ threeSweeps :=
  (jobs_run_alone 0 threeSweeps (by decide +kernel) (by decide +kernel)).mpr (by decide +kernel)

/-- A release reads its lock in time and deletes the next one. -/
def slowRelease : List Act :=
  .start (sweep 0) :: replicate 5 (.run 0 {}) ++ [.outside (.elapse 11), .start (sweep 1)] ++
    replicate 3 (.run 1 { now := 11 }) ++ [.run 0 {}, .start (sweep 2)] ++
    replicate 3 (.run 2 { now := 11 })

/-- Two instances sweep at once. -/
theorem two_sweeps_at_once :
    ¬ ∀ clock acts,
      Guarded scheduler.step (OnEvents RunsInTime) ⟨{ clock }, []⟩ acts →
      Guarded scheduler.step (OnOps StartsInTime) ⟨{ clock }, []⟩ acts →
      Along scheduler.step (fun p => Safe p.shared) ⟨{ clock }, []⟩ acts := by
  intro h
  have hlast := (h 0 slowRelease (by decide +kernel) (by decide +kernel)).last
  exact absurd (hlast.alone (2, "sweep") (by decide +kernel) (1, "sweep") (by decide +kernel) rfl)
    (by decide)

end DiscountBazar.Scheduler
