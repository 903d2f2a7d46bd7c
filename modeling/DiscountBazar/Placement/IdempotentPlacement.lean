/-
One order for one key (`placeOrderAtomic`, its idempotency).

The unique index lets one call of a customer commit, whatever happens. That later calls
return its order, and that a failed call leaves no lock, holds of a run in which the cache
entries are not written across the commit, the calls after the commit find no other call at
work and nothing failing, and the call that holds the lock gets to its release. What the
calls may assume of each other is `Rely`; `Consistent` is the invariant of the shared state.
-/
import DiscountBazar.Placement.Idempotency

namespace DiscountBazar.Placement

open Tasks Function Runs
open Contract (Sound)
open List Option

/-! ## The property -/

/-- Call `i` has committed an order. -/
def HasOrder (s : Keyed) (i : ℕ) : Prop := ∃ g ∈ s.created, g.task = i

instance (s : Keyed) (i : ℕ) : Decidable (HasOrder s i) :=
  inferInstanceAs (Decidable (∃ g ∈ s.created, g.task = i))

def OneGroup (c : ObjectId) (s : Keyed) : Prop :=
  (s.created.filter (fun g => decide (g.customer = c))).length ≤ 1

/-- The calls that came when the customer's order for their payload was there returned it. -/
def OrderReturned (c : ObjectId) (s : Keyed) : Prop :=
  ∀ r ∈ s.responses, r.caller.customer = c → ∀ g, r.earlier = some g →
    ∃ duplicate, r.answer = .ok ⟨g, duplicate⟩

/-- The calls that failed without an order have left no lock. -/
def NoLockLeft (c : ObjectId) (s : Keyed) : Prop :=
  ∀ r ∈ s.responses, r.caller.customer = c → ∀ e, r.answer = .error e →
    HasOrder s r.task ∨ s.cache.lock ≠ some r.task

/-! ## The condition -/

def Outcome.takesEffect : Outcome → Bool
  | .refused _ => false
  | _ => true

def Outcome.isLost : Outcome → Bool
  | .lost _ => true
  | _ => false

/-- Once the customer's order is there, no error is cached and no result but that order's under
its own payload; the order is committed while nothing is cached. -/
def WritesInOrder (c : ObjectId) (op : Op) (outcome : Outcome) (s : Keyed) : Prop :=
  outcome.takesEffect = true →
    match op.kind with
    | .setError _ => s.group c = none
    | .setResult g => s.group c = none ∨ s.group c = some g ∧ op.caller.payload = g.payload
    | .transaction => op.caller.customer = c → s.cache.error = none ∧ s.cache.result = none
    | _ => True

/-- A call that came after the commit is refused nothing, and finds no lock unless a result is
cached. -/
def LateUndisturbed (c : ObjectId) (i : ℕ) (op : Op) (outcome : Outcome) (s : Keyed) : Prop :=
  op.caller.customer = c → (s.earlier i).isSome = true → op.kind.isEvent = false →
    outcome = .done ∧
      match op.kind with
      | .checkIdempotency => s.cache.lock = none ∨ s.cache.result ≠ none
      | .acquireLock => s.cache.lock = none
      | _ => True

/-- While a call without an order holds the lock, its payment mode is enabled and neither its
lookup nor its cache writes fail; the answer that gives it the lock is not lost. -/
def HolderReleases (c : ObjectId) (i : ℕ) (op : Op) (outcome : Outcome) (s : Keyed) : Prop :=
  op.caller.customer = c → ¬HasOrder s i →
    match op.kind with
    | .acquireLock => outcome.isLost = true → s.cache.lock ≠ none
    | .findExisting | .assertModeEnabled | .setResult _ | .setError _ =>
      s.cache.lock = some i → outcome = .done
    | .deleteLock => s.cache.lock = some i → outcome.takesEffect = true
    | _ => True

/-- The condition on an operation, for the calls of customer `c`. -/
def Orderly (c : ObjectId) (i : ℕ) (op : Op) (outcome : Outcome) (s : Keyed) : Prop :=
  WritesInOrder c op outcome s ∧ LateUndisturbed c i op outcome s ∧ HolderReleases c i op outcome s

section Decidable

variable (c : ObjectId) (i : ℕ) (outcome : Outcome) (s : Keyed)

instance : (op : Op) → Decidable (WritesInOrder c op outcome s)
  | ⟨_, .setError _⟩ => inferInstanceAs (Decidable (_ → s.group c = none))
  | ⟨k, .setResult g⟩ =>
    inferInstanceAs (Decidable (_ → s.group c = none ∨ s.group c = some g ∧ k.payload = g.payload))
  | ⟨k, .transaction⟩ =>
    inferInstanceAs
      (Decidable (_ → k.customer = c → s.cache.error = none ∧ s.cache.result = none))
  | ⟨_, .arrive⟩ | ⟨_, .checkIdempotency⟩ | ⟨_, .acquireLock⟩ | ⟨_, .findExisting⟩
  | ⟨_, .assertModeEnabled⟩ | ⟨_, .afterCommit⟩ | ⟨_, .deleteLock⟩ | ⟨_, .respond _⟩ =>
    isTrue (fun _ => trivial)

instance : (op : Op) → Decidable (LateUndisturbed c i op outcome s)
  | ⟨k, .checkIdempotency⟩ =>
    inferInstanceAs (Decidable (k.customer = c → (s.earlier i).isSome = true → _ →
      outcome = .done ∧ (s.cache.lock = none ∨ s.cache.result ≠ none)))
  | ⟨k, .acquireLock⟩ =>
    inferInstanceAs (Decidable (k.customer = c → (s.earlier i).isSome = true → _ →
      outcome = .done ∧ s.cache.lock = none))
  | ⟨k, .findExisting⟩ | ⟨k, .assertModeEnabled⟩ | ⟨k, .transaction⟩ | ⟨k, .afterCommit⟩
  | ⟨k, .setResult _⟩ | ⟨k, .setError _⟩ | ⟨k, .deleteLock⟩ | ⟨k, .arrive⟩ | ⟨k, .respond _⟩ =>
    inferInstanceAs (Decidable (k.customer = c → (s.earlier i).isSome = true → _ →
      outcome = .done ∧ True))

instance : (op : Op) → Decidable (HolderReleases c i op outcome s)
  | ⟨k, .acquireLock⟩ =>
    inferInstanceAs (Decidable (k.customer = c → ¬HasOrder s i →
      outcome.isLost = true → s.cache.lock ≠ none))
  | ⟨k, .findExisting⟩ | ⟨k, .assertModeEnabled⟩ | ⟨k, .setResult _⟩ | ⟨k, .setError _⟩ =>
    inferInstanceAs (Decidable (k.customer = c → ¬HasOrder s i →
      s.cache.lock = some i → outcome = .done))
  | ⟨k, .deleteLock⟩ =>
    inferInstanceAs (Decidable (k.customer = c → ¬HasOrder s i →
      s.cache.lock = some i → outcome.takesEffect = true))
  | ⟨_, .arrive⟩ | ⟨_, .checkIdempotency⟩ | ⟨_, .transaction⟩ | ⟨_, .afterCommit⟩
  | ⟨_, .respond _⟩ => isTrue (fun _ _ => trivial)

instance (op : Op) : Decidable (Orderly c i op outcome s) := inferInstanceAs (Decidable (_ ∧ _ ∧ _))

end Decidable

/-! ## One operation -/

def Indexed (c : ObjectId) (s : Keyed) : Prop :=
  s.created.filter (fun g => decide (g.customer = c)) = (s.group c).toList

/-- What holds of the shared state; `valid` says that the key is well formed. -/
structure Consistent (valid : Bool) (c : ObjectId) (s : Keyed) : Prop where
  indexed : Indexed c s
  valid : ∀ g, s.group c = some g → valid = true
  cache : ∀ g, s.group c = some g →
    s.cache.error = none ∧ ∀ entry, s.cache.result = some entry → entry = (g.payload, g)
  returned : OrderReturned c s
  unlocked : NoLockLeft c s

/-- What call `j` may assume of the others. -/
structure Rely (c : ObjectId) (j : ℕ) (s s' : Keyed) : Prop where
  group : ∀ g, s.group c = some g → s'.group c = some g
  earlier : s'.earlier j = s.earlier j
  lock : s'.cache.lock = some j → s.cache.lock = some j
  created : ∀ g ∈ s.created, g ∈ s'.created
  responses : ∀ r ∈ s'.responses, r.task = j → r ∈ s.responses

section Rely

variable {c : ObjectId} {i j : ℕ} {s s' s'' : Keyed}

theorem Rely.refl : Rely c j s s := ⟨fun _ h => h, rfl, fun h => h, fun _ h => h, fun _ h _ => h⟩

theorem Rely.trans (h : Rely c j s s') (h' : Rely c j s' s'') : Rely c j s s'' where
  group := fun g hg => h'.group g (h.group g hg)
  earlier := h'.earlier.trans h.earlier
  lock := fun hlock => h.lock (h'.lock hlock)
  created := fun g hg => h'.created g (h.created g hg)
  responses := fun r hr htask => h.responses r (h'.responses r hr htask) htask

theorem Rely.ofCache {cache : Cache} (h : cache.lock = some j → s.cache.lock = some j) :
    Rely c j s { s with cache } :=
  ⟨fun _ h => h, rfl, h, fun _ h => h, fun _ h _ => h⟩

end Rely

/-- Call `i` does not hold the lock, or has an order. -/
def Released (i : ℕ) (s : Keyed) : Prop := HasOrder s i ∨ s.cache.lock ≠ some i

theorem HasOrder.mono {s s' : Keyed} {i : ℕ} (h : ∀ g ∈ s.created, g ∈ s'.created)
    (hi : HasOrder s i) : HasOrder s' i := by
  obtain ⟨g, hg, htask⟩ := hi
  exact ⟨g, h g hg, htask⟩

section Step

variable {valid : Bool} {c : ObjectId} {i : ℕ} {k : Caller} {s s' : Keyed}

theorem Consistent.ofCache (hinv : Consistent valid c s) {cache : Cache}
    (hentries : ∀ g, s.group c = some g →
      cache.error = none ∧ ∀ entry, cache.result = some entry → entry = (g.payload, g))
    (hlock : ∀ r ∈ s.responses, cache.lock = some r.task → s.cache.lock = some r.task) :
    Consistent valid c { s with cache } where
  indexed := hinv.indexed
  valid := hinv.valid
  cache := hentries
  returned := hinv.returned
  unlocked := fun r hr hcustomer e he =>
    (hinv.unlocked r hr hcustomer e he).imp_right (fun h hlocked => h (hlock r hr hlocked))

theorem Indexed.commit (h : Indexed c s) {g : GroupRef} (hgroup : s.group g.customer = none) :
    Indexed c (s.commit g) := by
  unfold Indexed
  rw [show (s.commit g).created = s.created ++ [g] from rfl, filter_append, h]
  by_cases heq : g.customer = c
  · subst heq
    rw [s.commit_group_self, hgroup]
    simp
  · rw [s.commit_group_ne (Ne.symm heq)]
    simp [heq]

/-- A commit while nothing is cached under the key. -/
theorem Consistent.commit (hinv : Consistent valid c s) (hvalid : valid = true) {g : GroupRef}
    (hgroup : s.group g.customer = none)
    (hclean : g.customer = c → s.cache.error = none ∧ s.cache.result = none) :
    Consistent valid c (s.commit g) where
  indexed := hinv.indexed.commit hgroup
  valid := fun _ _ => hvalid
  cache := by
    intro g' hg'
    by_cases heq : c = g.customer
    · obtain ⟨herror, hresult⟩ := hclean heq.symm
      refine ⟨herror, fun entry hentry => ?_⟩
      rw [show (s.commit g).cache.result = none from hresult] at hentry
      cases hentry
    · rw [s.commit_group_ne heq] at hg'
      exact hinv.cache g' hg'
  returned := hinv.returned
  unlocked := fun r hr hc e he =>
    (hinv.unlocked r hr hc e he).imp_left
      (HasOrder.mono (fun _ h => mem_append_left _ h))

/-- The answer of a call is right: its order if it came after the commit, and no lock left if
it failed. -/
structure RightAnswer (i : ℕ) (answer : Except PlacementError Answer) (s : Keyed) : Prop where
  returned : ∀ g, s.earlier i = some g → ∃ duplicate, answer = .ok ⟨g, duplicate⟩
  released : ∀ e, answer = .error e → Released i s

theorem Consistent.respond (hinv : Consistent valid c s) {answer : Except PlacementError Answer}
    (hanswer : k.customer = c → RightAnswer i answer s) :
    Consistent valid c { s with responses := s.responses ++ [⟨i, k, s.earlier i, answer⟩] } where
  indexed := hinv.indexed
  valid := hinv.valid
  cache := hinv.cache
  returned := by
    intro r hr hc
    rcases mem_append.mp hr with hold | hnew
    · exact hinv.returned r hold hc
    · rw [mem_singleton] at hnew
      subst hnew
      exact (hanswer hc).returned
  unlocked := by
    intro r hr hc
    rcases mem_append.mp hr with hold | hnew
    · exact hinv.unlocked r hold hc
    · rw [mem_singleton] at hnew
      subst hnew
      exact (hanswer hc).released

theorem effect_keeps {kind : Kind} {outcome : Outcome} {a : kind.Reply} (hinv : Consistent valid c s)
    (hvalid : kind = .transaction → valid = true) (hfresh : ∀ r ∈ s.responses, r.task ≠ i)
    (hwrites : WritesInOrder c ⟨k, kind⟩ outcome s) (hdone : outcome.takesEffect = true)
    (hanswer : ∀ answer, kind = .respond answer → k.customer = c → RightAnswer i answer s)
    (h : effect i k kind s = some (a, s')) :
    Consistent valid c s' ∧ ∀ j, j ≠ i → Rely c j s s' := by
  have hwrite := hwrites hdone
  cases kind with
  | arrive =>
    cases h
    refine ⟨⟨hinv.indexed, hinv.valid, hinv.cache, hinv.returned, hinv.unlocked⟩,
      fun j hj => ?_⟩
    exact ⟨fun _ h => h, update_of_ne hj _ _, fun h => h, fun _ h => h,
      fun _ h _ => h⟩
  | checkIdempotency | findExisting | assertModeEnabled | afterCommit =>
    cases h
    exact ⟨hinv, fun _ _ => Rely.refl⟩
  | acquireLock =>
    unfold effect at h
    dsimp only at h
    split at h
    · cases h
      refine ⟨hinv.ofCache hinv.cache (fun r hr hlock => ?_), fun j hj => Rely.ofCache ?_⟩
      · exact absurd (some.inj hlock).symm (hfresh r hr)
      · intro hlock
        exact absurd (some.inj hlock).symm hj
    · cases h
      exact ⟨hinv, fun _ _ => Rely.refl⟩
  | transaction =>
    unfold effect at h
    dsimp only at h
    split at h
    next hgroup =>
      cases h
      refine ⟨Consistent.commit hinv (hvalid rfl) hgroup hwrite, fun j hj => ?_⟩
      refine ⟨fun g hg => ?_, rfl, fun h => h, fun g hg => mem_append_left _ hg,
        fun _ h _ => h⟩
      have hne : c ≠ k.customer := by
        intro heq
        rw [heq, hgroup] at hg
        cases hg
      exact (s.commit_group_ne hne).trans hg
    · cases h
  | setResult g =>
    cases h
    refine ⟨hinv.ofCache (fun g' hg' => ?_) (fun _ _ h => h), fun _ _ => Rely.ofCache (fun h => h)⟩
    refine ⟨(hinv.cache g' hg').1, fun entry hentry => ?_⟩
    rcases hwrite with hnone | ⟨hsome, hpayload⟩
    · rw [hnone] at hg'
      cases hg'
    · rw [hsome] at hg'
      cases hg'
      cases hentry
      rw [show k.payload = g.payload from hpayload]
  | setError e =>
    cases h
    refine ⟨hinv.ofCache (fun g' hg' => ?_) (fun _ _ h => h), fun _ _ => Rely.ofCache (fun h => h)⟩
    rw [show s.group c = none from hwrite] at hg'
    cases hg'
  | deleteLock =>
    cases h
    refine ⟨hinv.ofCache hinv.cache (fun _ _ h => ?_), fun _ _ => Rely.ofCache (fun h => ?_)⟩
    · cases h
    · cases h
  | respond answer =>
    cases h
    refine ⟨hinv.respond (hanswer answer rfl), fun j hj => ?_⟩
    refine ⟨fun _ h => h, rfl, fun h => h, fun _ h => h, fun r hr htask => ?_⟩
    rcases mem_append.mp hr with hold | hnew
    · exact hold
    · rw [mem_singleton] at hnew
      subst hnew
      exact absurd htask.symm hj

end Step

/-! ## What one operation leaves to its own call -/

section Own

variable {c : ObjectId} {i : ℕ} {k : Caller} {kind : Kind} {a : kind.Reply} {s s' : Keyed}

theorem effect_frame (h : effect i k kind s = some (a, s')) (hevent : kind.isEvent = false) :
    s'.responses = s.responses ∧ s'.earlier = s.earlier ∧ ∀ g ∈ s.created, g ∈ s'.created := by
  cases kind with
  | arrive | respond => cases hevent
  | acquireLock =>
    unfold effect at h
    dsimp only at h
    split at h
    · cases h
      exact ⟨rfl, rfl, fun _ h => h⟩
    · cases h
      exact ⟨rfl, rfl, fun _ h => h⟩
  | transaction =>
    unfold effect at h
    dsimp only at h
    split at h
    · cases h
      exact ⟨rfl, rfl, fun _ h => mem_append_left _ h⟩
    · cases h
  | _ =>
    cases h
    exact ⟨rfl, rfl, fun _ h => h⟩

theorem effect_lock (h : effect i k kind s = some (a, s')) (hacquire : kind ≠ .acquireLock)
    (hlock : s'.cache.lock = some i) : s.cache.lock = some i := by
  cases kind with
  | acquireLock => exact absurd rfl hacquire
  | deleteLock =>
    cases h
    cases hlock
  | transaction =>
    unfold effect at h
    dsimp only at h
    split at h
    · cases h
      exact hlock
    · cases h
  | _ =>
    cases h
    exact hlock

theorem effect_group {g : GroupRef} (h : effect i k kind s = some (a, s'))
    (hg : s.group c = some g) : s'.group c = some g := by
  cases kind with
  | acquireLock =>
    unfold effect at h
    dsimp only at h
    split at h
    · cases h
      exact hg
    · cases h
      exact hg
  | transaction =>
    unfold effect at h
    dsimp only at h
    split at h
    next hnone =>
      cases h
      have hne : c ≠ k.customer := by
        intro heq
        rw [heq, hnone] at hg
        cases hg
      exact (s.commit_group_ne hne).trans hg
    · cases h
  | _ =>
    cases h
    exact hg

/-- A call that has not answered, and what was there when it came. -/
structure AtWork (earlier : Option GroupRef) (i : ℕ) (s : Keyed) : Prop where
  fresh : ∀ r ∈ s.responses, r.task ≠ i
  earlier : s.earlier i = earlier

variable {earlier : Option GroupRef}

theorem AtWork.rely (h : AtWork earlier i s) (hrely : Rely c i s s') : AtWork earlier i s' :=
  ⟨fun r hr htask => h.fresh r (hrely.responses r hr htask) htask, hrely.earlier.trans h.earlier⟩

theorem AtWork.effect (h : AtWork earlier i s) (hevent : kind.isEvent = false)
    (heffect : effect i k kind s = some (a, s')) : AtWork earlier i s' := by
  obtain ⟨hresponses, hearlier, -⟩ := effect_frame heffect hevent
  constructor
  · rw [hresponses]
    exact h.fresh
  · rw [hearlier]
    exact h.earlier

theorem Released.rely (h : Released i s) (hrely : Rely c i s s') : Released i s' :=
  h.imp (HasOrder.mono hrely.created) (fun hlock hlocked => hlock (hrely.lock hlocked))

theorem Released.effect (h : Released i s) (hevent : kind.isEvent = false)
    (hacquire : kind ≠ .acquireLock) (heffect : effect i k kind s = some (a, s')) :
    Released i s' :=
  h.imp (HasOrder.mono (effect_frame heffect hevent).2.2)
    (fun hlock hlocked => hlock (effect_lock heffect hacquire hlocked))

end Own

/-! ## One operation of a call -/

/-- The contract of the calls with a key, for the calls of customer `c`. -/
def placementContract (redis : Bool) (key : String) (c : ObjectId) :
    Contract (idempotencySystem redis key) where
  inv := Consistent (validateIdempotencyKey key) c
  rely := Rely c
  idle := fun i s => (∀ r ∈ s.responses, r.task ≠ i) ∧ s.cache.lock ≠ some i
  may := Orderly c

/-- Call `i` came before the order and has not answered; without Redis it never had the lock. -/
def Busy (redis : Bool) (i : ℕ) (s : Keyed) : Prop :=
  AtWork none i s ∧ (redis = false → Released i s)

/-- Call `i` came before the order, has not answered and leaves no lock. -/
def Quiet (i : ℕ) (s : Keyed) : Prop := AtWork none i s ∧ Released i s

/-- Call `i` came after the customer's order `g` and has not answered. -/
def Late (c : ObjectId) (g : GroupRef) (i : ℕ) (s : Keyed) : Prop :=
  AtWork (some g) i s ∧ s.group c = some g

section Ask

variable {redis : Bool} {key : String} {c : ObjectId} {i : ℕ} {k : Caller} {kind : Kind}
  {s t t' : Keyed} {earlier : Option GroupRef} {g : GroupRef}

theorem Quiet.busy (h : Quiet i s) : Busy redis i s := ⟨h.1, fun _ => h.2⟩

theorem Busy.rely (h : Busy redis i s) (hrely : Rely c i s t) : Busy redis i t :=
  ⟨h.1.rely hrely, fun hredis => (h.2 hredis).rely hrely⟩

theorem Quiet.rely (h : Quiet i s) (hrely : Rely c i s t) : Quiet i t :=
  ⟨h.1.rely hrely, h.2.rely hrely⟩

theorem Late.rely (h : Late c g i s) (hrely : Rely c i s t) : Late c g i t :=
  ⟨h.1.rely hrely, hrely.group g h.2⟩

/-- An operation of a call that has not answered keeps the contract; what it answers, or fails
with, is a matter of the state it finds. -/
theorem sound_ask {Q : kind.Reply → Keyed → Prop} {E : PlacementError → Keyed → Prop}
    (hevent : kind.isEvent = false)
    (hvalid : kind = .transaction → validateIdempotencyKey key = true) (hs : AtWork earlier i s)
    (hok : ∀ t t' a, Rely c i s t → Consistent (validateIdempotencyKey key) c t →
      Orderly c i ⟨k, kind⟩ .done t → effect i k kind t = some (a, t') → Q a t')
    (hrefused : ∀ t e, Rely c i s t → Orderly c i ⟨k, kind⟩ (.refused e) t → E e t)
    (hlost : ∀ t t' a e, Rely c i s t → Orderly c i ⟨k, kind⟩ (.lost e) t →
      effect i k kind t = some (a, t') → E e t') :
    (placementContract redis key c).Sound i Q E (ask k kind) s := by
  refine Sound.perform (fun t hrely hinv outcome hmay r t' hstep => ?_)
  have hfresh : ∀ r ∈ t.responses, r.task ≠ i := (hs.rely hrely).fresh
  have hanswer : ∀ answer, kind = .respond answer → k.customer = c → RightAnswer i answer t := by
    intro answer hkind
    rw [hkind] at hevent
    cases hevent
  rcases performOp_cases hstep with ⟨e, rfl, -, rfl, rfl⟩ | ⟨a, heffect, houtcome⟩
  · refine ⟨hinv, fun _ _ => Rely.refl, fun a h => ?_, fun e' h => ?_⟩
    · cases h
    · cases h
      exact hrefused _ _ hrely hmay
  · have hkeeps := effect_keeps hinv hvalid hfresh hmay.1
      (by rcases houtcome with ⟨rfl, -⟩ | ⟨e, rfl, -⟩ <;> rfl) hanswer heffect
    refine ⟨hkeeps.1, hkeeps.2, fun a' h => ?_, fun e' h => ?_⟩
    · rcases houtcome with ⟨rfl, rfl⟩ | ⟨e, rfl, -, rfl⟩
      · cases h
        exact hok t t' a hrely hinv hmay heffect
      · cases h
    · rcases houtcome with ⟨rfl, rfl⟩ | ⟨e, rfl, -, rfl⟩
      · cases h
      · cases h
        exact hlost t t' a _ hrely hmay heffect

/-- Any operation but the acquisition leaves a call without the lock. -/
theorem quiet_ask (hevent : kind.isEvent = false) (hacquire : kind ≠ .acquireLock)
    (hvalid : kind = .transaction → validateIdempotencyKey key = true) (hs : Quiet i s) :
    (placementContract redis key c).Leaving i (Quiet i) (ask k kind) s := by
  have hkept : ∀ t t' a, Rely c i s t → effect i k kind t = some (a, t') → Quiet i t' := by
    intro t t' a hrely heffect
    have ht := hs.rely hrely
    exact ⟨ht.1.effect hevent heffect, ht.2.effect hevent hacquire heffect⟩
  apply sound_ask hevent hvalid hs.1
  · exact fun t t' a hrely _ _ heffect => hkept t t' a hrely heffect
  · exact fun t e hrely _ => hs.rely hrely
  · exact fun t t' a e hrely _ heffect => hkept t t' a hrely heffect

theorem busy_ask (hevent : kind.isEvent = false) (hacquire : kind ≠ .acquireLock)
    (hvalid : kind = .transaction → validateIdempotencyKey key = true) (hs : Busy redis i s) :
    (placementContract redis key c).Leaving i (Busy redis i) (ask k kind) s := by
  have hkept : ∀ t t' a, Rely c i s t → effect i k kind t = some (a, t') → Busy redis i t' := by
    intro t t' a hrely heffect
    have ht := hs.rely hrely
    exact ⟨ht.1.effect hevent heffect,
      fun hredis => (ht.2 hredis).effect hevent hacquire heffect⟩
  apply sound_ask hevent hvalid hs.1
  · exact fun t t' a hrely _ _ heffect => hkept t t' a hrely heffect
  · exact fun t e hrely _ => hs.rely hrely
  · exact fun t t' a e hrely _ heffect => hkept t t' a hrely heffect

/-- The operations that a holder of the lock is not refused. -/
def Kind.isHeld : Kind → Bool
  | .findExisting | .assertModeEnabled | .setResult _ | .setError _ => true
  | _ => false

theorem held_ask (hheld : kind.isHeld = true) (hk : k.customer = c) (hs : Busy redis i s) :
    (placementContract redis key c).Sound i (fun _ => Busy redis i) (fun _ => Quiet i)
      (ask k kind) s := by
  have hevent : kind.isEvent = false := by
    cases kind with
    | arrive | respond => cases hheld
    | _ => rfl
  have hacquire : kind ≠ .acquireLock := by
    rintro rfl
    cases hheld
  have hreleased : ∀ t outcome, Orderly c i ⟨k, kind⟩ outcome t → outcome ≠ .done →
      Released i t := by
    intro t outcome hmay hnot
    by_cases horder : HasOrder t i
    · exact .inl horder
    · refine .inr (fun hlock => hnot ?_)
      have hholder := hmay.2.2 hk horder
      cases kind with
      | findExisting | assertModeEnabled | setResult | setError => exact hholder hlock
      | _ => cases hheld
  apply sound_ask hevent (by rintro rfl; cases hheld) hs.1
  · intro t t' a hrely _ _ heffect
    have ht := hs.rely hrely
    exact ⟨ht.1.effect hevent heffect,
      fun hredis => (ht.2 hredis).effect hevent hacquire heffect⟩
  · intro t e hrely hmay
    exact ⟨hs.1.rely hrely, hreleased t _ hmay (by rintro ⟨⟩)⟩
  · intro t t' a e hrely hmay heffect
    exact ⟨(hs.1.rely hrely).effect hevent heffect,
      (hreleased t _ hmay (by rintro ⟨⟩)).effect hevent hacquire heffect⟩

theorem release_ask (hk : k.customer = c) (hs : Busy redis i s) :
    (placementContract redis key c).Leaving i (Quiet i) (ask k .deleteLock) s := by
  apply sound_ask rfl (by rintro ⟨⟩) hs.1
  · intro t t' a hrely _ _ heffect
    refine ⟨(hs.1.rely hrely).effect rfl heffect, .inr ?_⟩
    cases heffect
    rintro ⟨⟩
  · intro t e hrely hmay
    refine ⟨hs.1.rely hrely, ?_⟩
    by_cases horder : HasOrder t i
    · exact .inl horder
    · refine .inr (fun hlock => ?_)
      have heffect := hmay.2.2 hk horder hlock
      cases heffect
  · intro t t' a e hrely _ heffect
    refine ⟨(hs.1.rely hrely).effect rfl heffect, .inr ?_⟩
    cases heffect
    rintro ⟨⟩

theorem acquire_ask (hk : k.customer = c) (hs : Quiet i s) :
    (placementContract true key c).Sound i
      (fun got s => if got = true then Busy true i s else Quiet i s) (fun _ => Quiet i)
      (ask k .acquireLock) s := by
  apply sound_ask rfl (by rintro ⟨⟩) hs.1
  · intro t t' a hrely _ _ heffect
    have ht := hs.rely hrely
    have hwork := ht.1.effect rfl heffect
    unfold effect at heffect
    dsimp only at heffect
    split at heffect
    · cases heffect
      exact ⟨hwork, fun h => by cases h⟩
    · cases heffect
      exact ht
  · exact fun t e hrely _ => hs.rely hrely
  · intro t t' a e hrely hmay heffect
    have ht := hs.rely hrely
    by_cases horder : HasOrder t i
    · exact ⟨ht.1.effect rfl heffect, .inl (horder.mono (effect_frame heffect rfl).2.2)⟩
    · have hlocked : t.cache.lock ≠ none := hmay.2.2 hk horder rfl
      unfold effect at heffect
      dsimp only at heffect
      rw [if_neg hlocked] at heffect
      cases heffect
      exact ht

/-- A call after the order: no operation fails. -/
theorem late_ask (hevent : kind.isEvent = false)
    (hvalid : kind = .transaction → validateIdempotencyKey key = true) (hk : k.customer = c)
    (hs : Late c g i s) :
    (placementContract redis key c).Sound i
      (fun a t' => Late c g i t' ∧ ∃ t, Consistent (validateIdempotencyKey key) c t ∧
        t.group c = some g ∧ Orderly c i ⟨k, kind⟩ .done t ∧
        (t.earlier i).isSome = true ∧ effect i k kind t = some (a, t'))
      (fun _ _ => False) (ask k kind) s := by
  have hsome : ∀ t, Rely c i s t → (t.earlier i).isSome = true := by
    intro t hrely
    rw [(hs.rely hrely).1.earlier]
    rfl
  apply sound_ask hevent hvalid hs.1
  · intro t t' a hrely hinv hmay heffect
    have ht := hs.rely hrely
    exact ⟨⟨ht.1.effect hevent heffect, effect_group heffect ht.2⟩, t, hinv, ht.2, hmay,
      hsome t hrely, heffect⟩
  · intro t e hrely hmay
    cases (hmay.2.1 hk (hsome t hrely) hevent).1
  · intro t t' a e hrely hmay _
    cases (hmay.2.1 hk (hsome t hrely) hevent).1

end Ask

/-! ## A call that came before the order -/

section Early

variable {redis : Bool} {key : String} {c : ObjectId} {i : ℕ} {k : Caller} {s : Keyed}

theorem Busy.offline (h : Busy false i s) : Quiet i s := ⟨h.1, h.2 rfl⟩

theorem write_and_release (kind : Kind) (hheld : kind.isHeld = true) (hk : k.customer = c)
    (hs : Busy redis i s) :
    (placementContract redis key c).Leaving i (Quiet i) (if redis then do
        let _ ← ask k kind
        ask k .deleteLock
      else pure ()) s := by
  cases redis with
  | false => exact Sound.ret hs.offline
  | true => exact Sound.bind (held_ask hheld hk hs) (fun _ _ h => release_ask hk h)

theorem storeIdempotencyResult_sound (hk : k.customer = c) (hs : Busy redis i s) (g : GroupRef) :
    (placementContract redis key c).Leaving i (Quiet i) (storeIdempotencyResult redis k g) s :=
  write_and_release (.setResult g) rfl hk hs

theorem storeIdempotencyError_sound (hk : k.customer = c) (hs : Busy redis i s)
    (e : PlacementError) :
    (placementContract redis key c).Leaving i (Quiet i) (storeIdempotencyError redis k e) s :=
  write_and_release (.setError e) rfl hk hs

theorem releaseIdempotencyLock_sound (hk : k.customer = c) (hs : Busy redis i s) :
    (placementContract redis key c).Leaving i (Quiet i) (releaseIdempotencyLock redis k) s := by
  cases redis with
  | false => exact Sound.ret hs.offline
  | true => exact release_ask hk hs

theorem claimKey_sound (hk : k.customer = c) (hs : Quiet i s) :
    (placementContract redis key c).Sound i (fun _ => Busy redis i) (fun _ => Quiet i)
      (claimKey redis k) s := by
  cases redis with
  | false => exact Sound.ret hs.busy
  | true =>
    apply Sound.bind (quiet_ask rfl (by rintro ⟨⟩) (by rintro ⟨⟩) hs)
    intro reply s₁ h₁
    cases reply with
    | cachedError | checksumMismatch | inProgress => exact Sound.throw h₁
    | cachedResult g => exact Sound.ret h₁.busy
    | fresh =>
      apply Sound.bind (acquire_ask hk h₁)
      intro got s₂ h₂
      cases got with
      | false => exact Sound.throw h₂
      | true => exact Sound.ret h₂

theorem returnExisting_sound (hk : k.customer = c) (hs : Busy redis i s) (g : GroupRef) :
    (placementContract redis key c).Sound i (fun _ => Busy redis i) (fun _ => Quiet i)
      (returnExisting redis k g) s :=
  Sound.bind (storeIdempotencyResult_sound hk hs g)
    (fun _ _ h => Sound.ret h.busy)

/-- The body of the `try` block may fail with the lock still there. -/
theorem placeAndStore_sound (hvalid : validateIdempotencyKey key = true) (hk : k.customer = c)
    (hs : Busy redis i s) :
    (placementContract redis key c).Leaving i (Busy redis i) (placeAndStore redis k) s := by
  apply Sound.bind (busy_ask rfl (by rintro ⟨⟩) (fun _ => hvalid) hs)
  intro g s₁ h₁
  apply Sound.bind (Sound.mono (storeIdempotencyResult_sound hk h₁ g)
    (fun _ _ h => h) (fun _ _ h => h.busy))
  intro _ s₂ h₂
  apply Sound.bind (busy_ask rfl (by rintro ⟨⟩) (by rintro ⟨⟩) h₂.busy)
  exact fun _ _ h₃ => Sound.ret h₃

theorem recordFailure_sound (hk : k.customer = c) (hs : Busy redis i s) (e : PlacementError) :
    (placementContract redis key c).Leaving i (Quiet i) (recordFailure redis k e) s := by
  unfold recordFailure
  split
  · exact releaseIdempotencyLock_sound hk hs
  · exact storeIdempotencyError_sound hk hs e

/-- A re-entry that leaves no lock when it is entered without one. -/
def SoundFromQuiet (redis : Bool) (key : String) (c : ObjectId) (i : ℕ) (p : M Answer) : Prop :=
  ∀ s, Quiet i s →
    (placementContract redis key c).Sound i (fun _ => Busy redis i) (fun _ => Quiet i) p s

variable {again retry : Option (M Answer)}

theorem handleError_sound (hk : k.customer = c)
    (hagain : ∀ p, again = some p → SoundFromQuiet redis key c i p)
    (hretry : ∀ p, retry = some p → SoundFromQuiet redis key c i p) (e : PlacementError)
    (hs : Busy redis i s) :
    (placementContract redis key c).Sound i (fun _ => Busy redis i) (fun _ => Quiet i)
      (handleError redis k again retry e) s := by
  unfold handleError
  by_cases htransient : e.transient = true
  · rw [if_pos htransient]
    apply Sound.bind (releaseIdempotencyLock_sound hk hs)
    intro _ s₁ h₁
    cases again with
    | none => exact Sound.throw h₁
    | some p => exact hagain p rfl s₁ h₁
  · rw [if_neg htransient]
    apply Sound.bind (recordFailure_sound hk hs e)
    intro _ s₁ h₁
    by_cases hduplicate : e.isDuplicateKey = true
    · rw [if_pos hduplicate]
      apply Sound.bind (quiet_ask rfl (by rintro ⟨⟩) (by rintro ⟨⟩) h₁)
      intro existing s₂ h₂
      cases existing with
      | some g => exact returnExisting_sound hk h₂.busy g
      | none =>
        cases retry with
        | none => exact Sound.throw h₂
        | some p =>
          dsimp only
          split
          · exact hretry p rfl s₂ h₂
          · exact Sound.throw h₂
    · rw [if_neg hduplicate]
      exact Sound.throw h₁

theorem checkMode_sound (hk : k.customer = c) (hs : Busy redis i s) :
    (placementContract redis key c).Sound i (fun _ => Busy redis i) (fun _ => Quiet i)
      (checkMode k) s := by
  by_cases hwallet : k.payload.walletOnly = true
  · rw [show checkMode k = pure () from if_pos hwallet]
    exact Sound.ret hs
  · rw [show checkMode k = ask k .assertModeEnabled from if_neg hwallet]
    exact held_ask rfl hk hs

theorem placeOnce_sound (hvalid : validateIdempotencyKey key = true) (hk : k.customer = c)
    (hagain : ∀ p, again = some p → SoundFromQuiet redis key c i p)
    (hretry : ∀ p, retry = some p → SoundFromQuiet redis key c i p) :
    SoundFromQuiet redis key c i (placeOnce redis k again retry) := by
  intro s hs
  apply Sound.bind (claimKey_sound hk hs)
  intro claimed s₁ h₁
  cases claimed with
  | some g => exact Sound.ret h₁
  | none =>
    apply Sound.bind (held_ask rfl hk h₁)
    intro existing s₂ h₂
    cases existing with
    | some g => exact returnExisting_sound hk h₂ g
    | none =>
      apply Sound.bind (checkMode_sound hk h₂)
      intro _ s₃ h₃
      exact Sound.tryCatch (placeAndStore_sound hvalid hk h₃)
        (fun e _ h₄ => handleError_sound hk hagain hretry e h₄)

theorem placeRetries_sound (hvalid : validateIdempotencyKey key = true) (hk : k.customer = c)
    {again : ℕ → Option (M Answer)}
    (hagain : ∀ n p, again n = some p → SoundFromQuiet redis key c i p) (retries : ℕ) :
    SoundFromQuiet redis key c i (placeRetries redis k again retries) := by
  induction retries with
  | zero => exact placeOnce_sound hvalid hk (hagain 0) (by rintro p ⟨⟩)
  | succ retries ih =>
    refine placeOnce_sound hvalid hk (hagain (retries + 1)) (fun p hp => ?_)
    cases hp
    exact ih

theorem placeAttempts_sound (hvalid : validateIdempotencyKey key = true) (hk : k.customer = c)
    (attempts retries : ℕ) :
    SoundFromQuiet redis key c i (placeAttempts redis k attempts retries) := by
  induction attempts generalizing retries with
  | zero => exact placeRetries_sound hvalid hk (by rintro n p ⟨⟩) retries
  | succ attempts ih =>
    refine placeRetries_sound hvalid hk (fun n p hp => ?_) retries
    cases hp
    exact ih n

theorem placeOrderAtomic_sound (hk : k.customer = c) :
    SoundFromQuiet redis key c i (placeOrderAtomic redis k key) := by
  rcases placeOrderAtomic_cases redis k key with ⟨hvalid, hplace⟩ | ⟨-, hplace⟩
  · rw [hplace]
    exact placeAttempts_sound hvalid hk _ _
  · rw [hplace]
    exact fun s hs => Sound.throw hs

end Early

/-! ## A call that came after the order -/

section After

variable {redis : Bool} {key : String} {c : ObjectId} {i : ℕ} {k : Caller} {s : Keyed} {g : GroupRef}

/-- With only the order's own entry cached, and no lock without it, the check lets a call with
its payload go on or gives it the order. -/
theorem checkIdempotency_late {cache : Cache} {payload : Payload} (herror : cache.error = none)
    (hresult : ∀ entry, cache.result = some entry → entry = (payload, g))
    (hlock : cache.lock = none ∨ cache.result ≠ none) :
    checkIdempotency cache payload = .fresh ∨ checkIdempotency cache payload = .cachedResult g := by
  obtain ⟨lock, result, error⟩ := cache
  dsimp only at herror hresult hlock
  subst herror
  cases result with
  | none =>
    have hnone : lock = none := hlock.resolve_right (fun h => h rfl)
    rw [hnone]
    exact .inl rfl
  | some entry =>
    rw [hresult entry rfl]
    exact .inr (if_pos rfl)

theorem claimKey_late (hk : k.customer = c) (hpayload : k.payload = g.payload) (hs : Late c g i s) :
    (placementContract redis key c).Sound i
      (fun claimed t => Late c g i t ∧ (claimed = none ∨ claimed = some g)) (fun _ _ => False)
      (claimKey redis k) s := by
  cases redis with
  | false => exact Sound.ret ⟨hs, .inl rfl⟩
  | true =>
    apply Sound.bind (late_ask rfl (by rintro ⟨⟩) hk hs)
    rintro reply s₁ ⟨h₁, t, hinv, hgroup, hmay, hsome, heffect⟩
    have hentries := hinv.cache g hgroup
    rw [← hpayload] at hentries
    have hreply := checkIdempotency_late hentries.1 hentries.2 (hmay.2.1 hk hsome rfl).2
    rw [show checkIdempotency t.cache k.payload = reply from
      congrArg Prod.fst (some.inj heffect)] at hreply
    rcases hreply with rfl | rfl
    · apply Sound.bind (late_ask rfl (by rintro ⟨⟩) hk h₁)
      rintro got s₂ ⟨h₂, t₂, -, -, hmay₂, hsome₂, heffect₂⟩
      have hfree : t₂.cache.lock = none := (hmay₂.2.1 hk hsome₂ rfl).2
      unfold effect at heffect₂
      dsimp only at heffect₂
      rw [if_pos hfree] at heffect₂
      rw [show got = true from (congrArg Prod.fst (some.inj heffect₂)).symm]
      exact Sound.ret ⟨h₂, .inl rfl⟩
    · exact Sound.ret ⟨h₁, .inr rfl⟩

theorem storeIdempotencyResult_late (hk : k.customer = c) (hs : Late c g i s) :
    (placementContract redis key c).Sound i (fun _ => Late c g i) (fun _ _ => False)
      (storeIdempotencyResult redis k g) s := by
  cases redis with
  | false => exact Sound.ret hs
  | true =>
    apply Sound.bind (late_ask rfl (by rintro ⟨⟩) hk hs)
    rintro _ s₁ ⟨h₁, -⟩
    exact Sound.mono (late_ask rfl (by rintro ⟨⟩) hk h₁) (fun _ _ h => h.1)
      (fun _ _ h => h)

theorem placeOnce_late (hk : k.customer = c) (hpayload : k.payload = g.payload)
    (hs : Late c g i s) (again retry : Option (M Answer)) :
    (placementContract redis key c).Sound i
      (fun answer t => Late c g i t ∧ ∃ duplicate, answer = ⟨g, duplicate⟩) (fun _ _ => False)
      (placeOnce redis k again retry) s := by
  apply Sound.bind (claimKey_late hk hpayload hs)
  rintro claimed s₁ ⟨h₁, rfl | rfl⟩
  · apply Sound.bind (late_ask rfl (by rintro ⟨⟩) hk h₁)
    rintro existing s₂ ⟨h₂, t, -, hgroup, -, -, heffect⟩
    -- the lookup finds the order
    have hexisting : existing = some g :=
      (congrArg Prod.fst (some.inj heffect)).symm.trans
        (show t.group k.customer = some g by rw [hk]; exact hgroup)
    rw [hexisting]
    apply Sound.bind (storeIdempotencyResult_late hk h₂)
    exact fun _ _ h₃ => Sound.ret ⟨h₃, true, rfl⟩
  · exact Sound.ret ⟨h₁, true, rfl⟩

theorem placeAttempts_once (redis : Bool) (k : Caller) (attempts retries : ℕ) :
    ∃ again retry, placeAttempts redis k attempts retries = placeOnce redis k again retry := by
  cases attempts with
  | zero | succ =>
    cases retries with
    | zero | succ => exact ⟨_, _, rfl⟩

theorem placeOrderAtomic_late (hvalid : validateIdempotencyKey key = true) (hk : k.customer = c)
    (hpayload : k.payload = g.payload) (hs : Late c g i s) :
    (placementContract redis key c).Sound i
      (fun answer t => Late c g i t ∧ ∃ duplicate, answer = ⟨g, duplicate⟩) (fun _ _ => False)
      (placeOrderAtomic redis k key) s := by
  obtain ⟨again, retry, hplace⟩ := placeAttempts_once redis k (MAX_TRANSACTION_ATTEMPTS - 1) 2
  rcases placeOrderAtomic_cases redis k key with ⟨-, hcall⟩ | ⟨hnot, -⟩
  · rw [hcall, hplace]
    exact placeOnce_late hk hpayload hs again retry
  · rw [hvalid] at hnot
    cases hnot

end After

/-! ## A call from its coming to its answer -/

section Call

variable {redis : Bool} {key : String} {c : ObjectId} {i : ℕ} {k : Caller} {s t : Keyed}

theorem RightAnswer.rely {answer : Except PlacementError Answer} (h : RightAnswer i answer s)
    (hrely : Rely c i s t) : RightAnswer i answer t where
  returned := by
    rw [hrely.earlier]
    exact h.returned
  released := fun e he => (h.released e he).rely hrely

def AboutToAnswer (c : ObjectId) (i : ℕ) (k : Caller) (answer : Except PlacementError Answer)
    (s : Keyed) : Prop :=
  (∀ r ∈ s.responses, r.task ≠ i) ∧ (k.customer = c → RightAnswer i answer s)

/-- The call has come; it is early, or late with an order of its own payload. -/
def Come (key : String) (c : ObjectId) (i : ℕ) (k : Caller) (s : Keyed) : Prop :=
  (∀ r ∈ s.responses, r.task ≠ i) ∧ (k.customer = c →
    Quiet i s ∨ ∃ g, Late c g i s ∧ k.payload = g.payload ∧ validateIdempotencyKey key = true)

theorem arrive_sound (hs : (placementContract redis key c).idle i s) :
    (placementContract redis key c).Sound i (fun _ => Come key c i k) (fun _ _ => False)
      (ask k .arrive) s := by
  refine Sound.perform (fun t hrely hinv outcome hmay r t' hstep => ?_)
  have hfresh : ∀ r ∈ t.responses, r.task ≠ i :=
    fun r hr htask => hs.1 r (hrely.responses r hr htask) htask
  have hunlocked : t.cache.lock ≠ some i := fun hlock => hs.2 (hrely.lock hlock)
  rcases performOp_cases hstep with ⟨e, -, hevent, -, -⟩ | ⟨a, heffect, ⟨rfl, rfl⟩ | ⟨e, -, hevent, -⟩⟩
  · cases hevent
  · have hkeeps := effect_keeps hinv (by rintro ⟨⟩) hfresh hmay.1 rfl (by rintro _ ⟨⟩) heffect
    cases heffect
    refine ⟨hkeeps.1, hkeeps.2, fun _ _ => ⟨hfresh, fun hk => ?_⟩, ?_⟩
    · have hearlier : update t.earlier i
          ((t.group k.customer).filter (fun g => decide (g.payload = k.payload))) i
          = (t.group c).filter (fun g => decide (g.payload = k.payload)) := by
        rw [update_self, hk]
      cases hfound : (t.group c).filter (fun g => decide (g.payload = k.payload)) with
      | none => exact .inl ⟨⟨hfresh, hearlier.trans hfound⟩, .inr hunlocked⟩
      | some g =>
        obtain ⟨hgroup, hpayload⟩ := filter_eq_some_iff.mp hfound
        exact .inr ⟨g, ⟨⟨hfresh, hearlier.trans hfound⟩, hgroup⟩,
          (of_decide_eq_true hpayload).symm, hinv.valid g hgroup⟩
    · rintro e ⟨⟩
  · cases hevent

theorem respond_sound {answer : Except PlacementError Answer} (hs : AboutToAnswer c i k answer s) :
    (placementContract redis key c).Keeps i (ask k (.respond answer)) s := by
  refine Sound.perform (fun t hrely hinv outcome hmay r t' hstep => ?_)
  rcases performOp_cases hstep with ⟨e, -, hevent, -, -⟩ | ⟨a, heffect, ⟨rfl, rfl⟩ | ⟨e, -, hevent, -⟩⟩
  · cases hevent
  · have hkeeps := effect_keeps hinv (by rintro ⟨⟩)
      (fun r hr htask => hs.1 r (hrely.responses r hr htask) htask) hmay.1 rfl
      (fun answer' hanswer hk => by cases hanswer; exact (hs.2 hk).rely hrely) heffect
    exact ⟨hkeeps.1, hkeeps.2, fun _ _ => trivial, fun _ _ => trivial⟩
  · cases hevent

theorem other_sound (hs : ∀ r ∈ s.responses, r.task ≠ i) :
    (placementContract redis key c).Leaving i (fun s => ∀ r ∈ s.responses, r.task ≠ i) (placeOrderAtomic redis k key) s := by
  have hall : ∀ p : M Answer, p.All (Op.IsOf k) → validateIdempotencyKey key = true →
      (placementContract redis key c).Leaving i (fun s => ∀ r ∈ s.responses, r.task ≠ i) p s := by
    intro p hp hvalid
    refine Contract.sound_of_all (fun s s' hrely h r hr htask =>
      h r (hrely.responses r hr htask) htask) ?_ hp hs
    rintro ⟨k', kind⟩ ⟨hcaller, hevent⟩ t hinv hfresh outcome hmay r t' hstep
    rcases performOp_cases hstep with ⟨e, -, -, -, rfl⟩ | ⟨a, heffect, houtcome⟩
    · exact ⟨hinv, fun _ _ => Rely.refl, hfresh⟩
    · have hkeeps := effect_keeps hinv (fun _ => hvalid) hfresh hmay.1
        (by rcases houtcome with ⟨rfl, -⟩ | ⟨e, rfl, -⟩ <;> rfl)
        (fun _ hanswer => by cases hanswer; cases hevent) heffect
      refine ⟨hkeeps.1, hkeeps.2, ?_⟩
      rw [(effect_frame heffect hevent).1]
      exact hfresh
  rcases placeOrderAtomic_cases redis k key with ⟨hvalid, hplace⟩ | ⟨-, hplace⟩
  · rw [hplace]
    have hp := placeOrderAtomic_all redis k key
    rw [hplace] at hp
    exact hall _ hp hvalid
  · rw [hplace]
    exact Sound.throw hs

theorem call_sound (hs : (placementContract redis key c).idle i s) :
    (placementContract redis key c).Keeps i (call redis k key) s := by
  apply Sound.bind (Sound.mono (arrive_sound hs) (fun _ _ h => h)
    (fun _ _ h => h.elim))
  rintro _ s₁ ⟨hfresh, hcome⟩
  refine Sound.bind (R := AboutToAnswer c i k) ?_ (fun answer s₂ h₂ => respond_sound h₂)
  by_cases hk : k.customer = c
  · rcases hcome hk with hquiet | ⟨g, hlate, hpayload, hvalid⟩
    · have hreturn : ∀ answer s, AtWork none i s → AboutToAnswer c i k (.ok answer) s :=
        fun answer s h => ⟨h.fresh, fun _ => ⟨by rw [h.earlier]; rintro g ⟨⟩, by rintro e ⟨⟩⟩⟩
      have hthrow : ∀ e s, Quiet i s → AboutToAnswer c i k (.error e) s :=
        fun e s h => ⟨h.1.fresh, fun _ => ⟨by rw [h.1.earlier]; rintro g ⟨⟩, fun _ _ => h.2⟩⟩
      exact Sound.tryCatch (Sound.bind (placeOrderAtomic_sound hk s₁ hquiet)
        (fun answer s₂ h₂ => Sound.ret (hreturn answer s₂ h₂.1)))
        (fun e s₂ h₂ => Sound.ret (hthrow e s₂ h₂))
    · have hreturn : ∀ duplicate s, Late c g i s → AboutToAnswer c i k (.ok ⟨g, duplicate⟩) s := by
        refine fun duplicate s h => ⟨h.1.fresh, fun _ => ⟨?_, by rintro e ⟨⟩⟩⟩
        rw [h.1.earlier]
        rintro g' ⟨⟩
        exact ⟨duplicate, rfl⟩
      apply Sound.tryCatch (D := fun _ _ => False)
      · apply Sound.bind (placeOrderAtomic_late hvalid hk hpayload hlate)
        rintro _ s₂ ⟨h₂, duplicate, rfl⟩
        exact Sound.ret (hreturn duplicate s₂ h₂)
      · exact fun _ _ h => h.elim
  · exact Sound.tryCatch (Sound.bind (other_sound hfresh)
      (fun answer s₂ h₂ => Sound.ret ⟨h₂, fun h => absurd h hk⟩))
      (fun e s₂ h₂ => Sound.ret ⟨h₂, fun h => absurd h hk⟩)

end Call

/-! ## Every run -/

section Runs

variable {redis : Bool} {key : String} {c : ObjectId}

theorem Consistent.expire {valid : Bool} {s : Keyed} (hinv : Consistent valid c s) (e : Expiry) :
    Consistent valid c { s with cache := s.cache.expire e } := by
  cases e with
  | lock => exact hinv.ofCache hinv.cache (by rintro _ _ ⟨⟩)
  | result =>
    exact hinv.ofCache (fun g hg => ⟨(hinv.cache g hg).1, by rintro _ ⟨⟩⟩) (fun _ _ h => h)
  | error =>
    exact hinv.ofCache (fun g hg => ⟨rfl, (hinv.cache g hg).2⟩) (fun _ _ h => h)

theorem placementContract_lawful : (placementContract redis key c).Lawful where
  refl := fun _ _ => Rely.refl
  trans := fun _ _ _ _ h h' => Rely.trans h h'
  idle := fun _ _ _ hrely h =>
    ⟨fun r hr htask => h.1 r (hrely.responses r hr htask) htask, fun hlock => h.2 (hrely.lock hlock)⟩
  outside := by
    intro e s s' hinv _ hout
    cases hout
    refine ⟨hinv.expire e, fun j => Rely.ofCache ?_⟩
    cases e with
    | lock => rintro ⟨⟩
    | result | error => exact fun h => h
  entry := fun _ _ _ _ hidle _ => call_sound hidle

theorem Indexed.effect {i : ℕ} {k : Caller} {kind : Kind} {a : kind.Reply} {s s' : Keyed}
    (hinv : Indexed c s) (h : effect i k kind s = some (a, s')) : Indexed c s' := by
  cases kind with
  | acquireLock =>
    unfold Placement.effect at h
    dsimp only at h
    split at h
    · cases h
      exact hinv
    · cases h
      exact hinv
  | transaction =>
    unfold Placement.effect at h
    dsimp only at h
    split at h
    next hgroup =>
      cases h
      exact Indexed.commit hinv hgroup
    · cases h
  | _ =>
    cases h
    exact hinv

def nobodyCalled : Pool Op Op.Reply PlacementError Keyed := ⟨{}, []⟩

theorem indexed_along (redis : Bool) (key : String) (c : ObjectId)
    (as : List (Action Outcome Expiry (ObjectId × Payload))) :
    Along (idempotencySystem redis key).step (fun p => Indexed c p.shared) nobodyCalled as := by
  have hstart : Indexed c nobodyCalled.shared := rfl
  refine along_of_step (I := fun p : Pool Op Op.Reply PlacementError Keyed =>
    Indexed c p.shared) (fun p a hp => ?_) hstart as
  refine System.step_keeps (I := Indexed c) ?_ ?_ p a hp
  · intro i op outcome s r s' hinv hstep
    rcases performOp_cases hstep with ⟨e, -, -, -, rfl⟩ | ⟨a, heffect, -⟩
    · exact hinv
    · exact hinv.effect heffect
  · intro e s s' hinv hout
    cases hout
    exact hinv

/-- In every run at most one group of a customer is created; and in every run whose operations
meet the condition, later calls return the order and failed ones leave no lock. -/
theorem placed_once (redis : Bool) (key : String) (c : ObjectId)
    (as : List (Action Outcome Expiry (ObjectId × Payload))) :
    Along (idempotencySystem redis key).step (fun p => OneGroup c p.shared) nobodyCalled as ∧
    (Guarded (idempotencySystem redis key).step (OnOps (Orderly c)) nobodyCalled as →
      Along (idempotencySystem redis key).step
        (fun p => OrderReturned c p.shared ∧ NoLockLeft c p.shared) nobodyCalled as) := by
  constructor
  · refine (indexed_along redis key c as).mono (fun p hp => ?_)
    rw [OneGroup, hp]
    exact length_toList_le
  · intro horderly
    have hstart : (placementContract redis key c).Holds nobodyCalled := by
      refine Contract.holds_start ⟨?_, ?_, ?_, ?_, ?_⟩ (fun i => ⟨?_, ?_⟩)
      · rfl
      · rintro g ⟨⟩
      · rintro g ⟨⟩
      · rintro r ⟨⟩
      · rintro r ⟨⟩
      · rintro r ⟨⟩
      · rintro ⟨⟩
    have hmeets := Contract.guarded_meets (K := placementContract redis key c)
      (guarded_of_forall (fun p a => by cases a <;> trivial) nobodyCalled as) horderly
    exact (placementContract_lawful.along hstart hmeets).mono
      (fun p hp => ⟨hp.inv.returned, hp.inv.unlocked⟩)

end Runs

/-! ### Three runs -/

/-- A key, and the request that the calls below repeat: a scarf of customer 1, cash on
delivery. -/
def scarfKey : String := "5f0c1f0a-7c1e-4a53-9d2b-0a1b2c3d4e5f"

def scarfCall : Action Outcome Expiry (ObjectId × Payload) := .start (1, (scarfRequest "COD" 0).payload)

def allDone (i n : ℕ) : List (Action Outcome Expiry (ObjectId × Payload)) :=
  replicate n (.run i .done)

/-- Both calls go through, and the second returns the order of the first. -/
def placedAndRepeated : List (Action Outcome Expiry (ObjectId × Payload)) :=
  scarfCall :: allDone 0 10 ++ scarfCall :: allDone 1 3

theorem placed_once_scarf :
    Along (idempotencySystem true scarfKey).step
      (fun p => OrderReturned 1 p.shared ∧ NoLockLeft 1 p.shared) nobodyCalled placedAndRepeated :=
  (placed_once true scarfKey 1 placedAndRepeated).2 (by decide +kernel)

/-- Cash on delivery is switched off: the call fails between the lock and the `try` block. -/
def modeSwitchedOff : List (Action Outcome Expiry (ObjectId × Payload)) :=
  scarfCall :: allDone 0 4 ++
    [.run 0 (.refused ⟨"Cash on Delivery is currently unavailable. Please pay online.", some 400,
      .other, false⟩), .run 0 .done]

/-- The order is committed and its result cannot be cached; the error is, and the repeated call
throws it. -/
def resultNotCached : List (Action Outcome Expiry (ObjectId × Payload)) :=
  scarfCall :: allDone 0 6 ++ .run 0 (.refused ⟨"Connection is closed.", none, .other, false⟩) ::
    allDone 0 3 ++ scarfCall :: allDone 1 3

def afterCalls (as : List (Action Outcome Expiry (ObjectId × Payload))) : Keyed :=
  (exec (idempotencySystem true scarfKey).step nobodyCalled as).shared

/-- A call whose payment mode is switched off leaves its lock, and a cache failure after the
commit makes the repeated call throw. -/
theorem placed_once_fails :
    ¬Along (idempotencySystem true scarfKey).step (fun p => NoLockLeft 1 p.shared)
      nobodyCalled modeSwitchedOff ∧
    ¬Along (idempotencySystem true scarfKey).step (fun p => OrderReturned 1 p.shared)
      nobodyCalled resultNotCached := by
  constructor
  · intro h
    have hlast : NoLockLeft 1 (afterCalls modeSwitchedOff) := h.last
    have hfailed : (afterCalls modeSwitchedOff).responses.any (fun r =>
        decide (r.caller.customer = 1) && !r.answer.isOk) = true := by decide +kernel
    have hlocked : ∀ r ∈ (afterCalls modeSwitchedOff).responses,
        ¬(HasOrder (afterCalls modeSwitchedOff) r.task ∨
          (afterCalls modeSwitchedOff).cache.lock ≠ some r.task) := by decide +kernel
    obtain ⟨r, hr, htest⟩ := any_eq_true.mp hfailed
    rw [Bool.and_eq_true, decide_eq_true_eq] at htest
    cases hanswer : r.answer with
    | ok a =>
      rw [hanswer] at htest
      cases htest.2
    | error e => exact hlocked r hr (hlast r hr htest.1 e hanswer)
  · intro h
    have hlast : OrderReturned 1 (afterCalls resultNotCached) := h.last
    have hfailed : (afterCalls resultNotCached).responses.any (fun r =>
        decide (r.caller.customer = 1) && r.earlier.isSome && !r.answer.isOk) = true := by
      decide +kernel
    obtain ⟨r, hr, htest⟩ := any_eq_true.mp hfailed
    rw [Bool.and_eq_true, Bool.and_eq_true, decide_eq_true_eq] at htest
    obtain ⟨g, hg⟩ := isSome_iff_exists.mp htest.1.2
    obtain ⟨duplicate, hanswer⟩ := hlast r hr htest.1.1 g hg
    rw [hanswer] at htest
    cases htest.2

end DiscountBazar.Placement
