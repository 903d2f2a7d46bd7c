/-
What was invalidated is not served again.

A change is older than what is stored once it has been cleared: every value under the key shows at
least the last change that the key was deleted for, and an answer shows at least what the caller
asked after. A scan deletes the key because at any time the key has been there since the scan began,
was returned and is about to be deleted, or was stored since. What breaks this is a reader that has
fetched before the change and stores after the deletion.
-/
import DiscountBazar.Cache.CacheService
import Mathlib.Algebra.Order.Group.Nat

namespace DiscountBazar.Cache

open Tasks Function Runs
open Contract (Sound)
open List Bool Nat Shared

variable {env : Env}

/-! ## The condition -/

/-- No value is stored under the key that is older than a change the key was already deleted for; a
scan that ends without returning the key has not had an older value stored behind it; and what is
invalidated for the key reaches it. -/
def InTime (env : Env) (i : ℕ) (kind : Kind) (c : Choice) (s : Shared) : Prop :=
  match kind with
  | .setex key value => key = env.key → s.cleared ≤ value.shows
  | .scan cursor pattern =>
    Shared.Passed env pattern c → (s.round env i cursor).stored = true →
      (s.cache env.key).all (fun value => decide ((s.calls i).change ≤ value.shows)) = true
  | .returned target => env.cacheEnabled = true → env.Invalidates target → env.Reaches target
  | _ => True

instance (i : ℕ) (kind : Kind) (c : Choice) (s : Shared) : Decidable (InTime env i kind c s) := by
  unfold InTime
  split
  · infer_instance
  · infer_instance
  · infer_instance
  · infer_instance

/-! ## The invariant -/

/-- The changes a value may not be older than, and where the key is to a task that scans. -/
structure Inv (env : Env) (s : Shared) : Prop where
  own : ∀ i, (s.calls i).change ≤ s.changes
  cleared : s.cleared ≤ s.changes
  promised : s.promised ≤ s.changes
  kept : env.cacheEnabled = true → s.promised ≤ s.cleared
  stored : ∀ value, s.cache env.key = some value → s.cleared ≤ value.shows
  scans : ∀ i, (s.calls i).scanning = true → (s.cache env.key).isSome = true →
    (s.calls i).there = true ∨ (s.calls i).stored = true ∨ (s.calls i).taken = true
  fresh : Fresh s

/-- What the other tasks leave of the history of this one, and how the shared one moves. -/
structure Rely (i : ℕ) (s s' : Shared) : Prop where
  change : (s'.calls i).change = (s.calls i).change
  scanning : (s'.calls i).scanning = (s.calls i).scanning
  taken : (s'.calls i).taken = true → (s.calls i).taken = true
  changes : s.changes ≤ s'.changes
  cleared : s.cleared ≤ s'.cleared
  promised : s.promised ≤ s'.promised

theorem Rely.refl (i : ℕ) (s : Shared) : Rely i s s :=
  ⟨rfl, rfl, id, le_rfl, le_rfl, le_rfl⟩

theorem Rely.trans {i : ℕ} {s s' s'' : Shared} (h : Rely i s s') (h' : Rely i s' s'') :
    Rely i s s'' where
  change := h'.change.trans h.change
  scanning := h'.scanning.trans h.scanning
  taken := h.taken ∘ h'.taken
  changes := h.changes.trans h'.changes
  cleared := h.cleared.trans h'.cleared
  promised := h.promised.trans h'.promised

section Steps

variable {s : Shared} {i : ℕ}

theorem Rely.drop (j : ℕ) (keys : List Key) : Rely j s (s.drop env keys) :=
  ⟨rfl, rfl, fun htaken => (and_eq_true_iff.mp htaken).1, le_rfl, le_rfl, le_rfl⟩

theorem Rely.clear (j : ℕ) : Rely j s (s.clear i) :=
  ⟨rfl, rfl, id, le_rfl, le_max_left _ _, le_rfl⟩

theorem cache_drop {key : Key} {keys : List Key} {value : Value}
    (h : (s.drop env keys).cache key = some value) : key ∉ keys ∧ s.cache key = some value := by
  unfold Shared.drop at h
  dsimp only at h
  split at h
  · cases h
  next hkey => exact ⟨hkey, h⟩

/-- The key is gone, or nothing has changed for it. -/
theorem Inv.drop (h : Inv env s) (keys : List Key) : Inv env (s.drop env keys) :=
  { h with
    stored := fun value hvalue => h.stored value (cache_drop hvalue).2
    scans := by
      intro i hscan hsome
      obtain ⟨value, hvalue⟩ := Option.isSome_iff_exists.mp hsome
      obtain ⟨hkey, hfound⟩ := cache_drop hvalue
      unfold Shared.drop
      dsimp only
      rw [decide_eq_true hkey, Bool.and_true, Bool.and_true]
      exact h.scans i hscan (by rw [hfound]; rfl) }

theorem Inv.store (h : Inv env s) {key : Key} {value : Value}
    (hvalue : key = env.key → s.cleared ≤ value.shows) : Inv env (s.store env key value) := by
  unfold Shared.store
  by_cases hkey : key = env.key
  · subst hkey
    refine { h with stored := fun found hfound => ?_, scans := fun i _ _ => .inr (.inl ?_) }
    · cases (update_self _ _ _).symm.trans hfound
      exact hvalue rfl
    · simp
  · have hcache : update s.cache key (some value) env.key = s.cache env.key :=
      update_of_ne (Ne.symm hkey) _ _
    exact { h with
      stored := fun found hfound => h.stored found (hcache.symm.trans hfound)
      scans := fun i hscan hsome =>
        (h.scans i hscan ((congrArg Option.isSome hcache).symm.trans hsome)).imp_right
          (Or.imp_left fun hstored => or_eq_true_iff.mpr (.inl hstored)) }

/-- A key without an older value is cleared. -/
theorem Inv.clear (h : Inv env s)
    (hfresh : ∀ value, s.cache env.key = some value → (s.calls i).change ≤ value.shows) :
    Inv env (s.clear i) :=
  { h with
    cleared := max_le h.cleared (h.own i)
    kept := fun henabled => (h.kept henabled).trans (le_max_left _ _)
    stored := fun value hvalue => max_le (h.stored value hvalue) (hfresh value hvalue) }

/-- The next round of the task is one that goes on, where the pattern concerns the key. -/
structure Round (env : Env) (i cursor : ℕ) (pattern : Key) (s : Shared) : Prop where
  taken : (s.calls i).taken = false
  scanning : cursor ≠ 0 → env.globMatch pattern env.key = true → (s.calls i).scanning = true

variable {cursor : ℕ} {pattern : Key} {c : Choice}

theorem round_change : (s.round env i cursor).change = (s.calls i).change := by
  unfold Shared.round
  split
  · rfl
  · rfl

/-- Before a round, a key that is there has been there since the first one or was stored since. -/
theorem Round.there_or_stored (hround : Round env i cursor pattern s) (h : Inv env s)
    (hmatch : env.globMatch pattern env.key = true) (hsome : (s.cache env.key).isSome = true) :
    (s.round env i cursor).there = true ∨ (s.round env i cursor).stored = true := by
  unfold Shared.round
  split
  · exact .inl hsome
  next hcursor =>
    rcases h.scans i (hround.scanning hcursor hmatch) hsome with hthere | hstored | htaken
    · exact .inl hthere
    · exact .inr hstored
    · rw [hround.taken] at htaken
      cases htaken

theorem Inv.reply (h : Inv env s) (hround : Round env i cursor pattern s) :
    Inv env (s.reply env i cursor pattern c) :=
  { h with
    own := (forall_update_iff s.calls fun _ call => call.change ≤ s.changes).mpr
      ⟨round_change.trans_le (h.own i), fun j _ => h.own j⟩
    scans := by
      refine (forall_update_iff s.calls fun _ call => call.scanning = true →
        (s.cache env.key).isSome = true →
        call.there = true ∨ call.stored = true ∨ call.taken = true).mpr
        ⟨fun hscan hsome => ?_, fun j _ => h.scans j⟩
      rcases hround.there_or_stored h (and_eq_true_iff.mp hscan).2 hsome with hthere | hstored
      · by_cases hmem : env.key ∈ c.keys
        · exact .inr (.inr (decide_eq_true hmem))
        · exact .inl (by simp [hthere, hmem])
      · exact .inr (.inl hstored) }

theorem Rely.reply {j : ℕ} (hj : j ≠ i) : Rely j s (s.reply env i cursor pattern c) := by
  have hcall : (s.reply env i cursor pattern c).calls j = s.calls j := update_of_ne hj _ _
  exact ⟨by rw [hcall], by rw [hcall], by rw [hcall]; exact id, le_rfl, le_rfl, le_rfl⟩

/-! ## One operation -/

/-- What a task has to know before an operation. -/
def Ready (env : Env) (i : ℕ) (kind : Kind) (s : Shared) : Prop :=
  match kind with
  | .scan cursor pattern => Round env i cursor pattern s
  | .answer since value => since ≤ value.shows
  | .returned target =>
    env.cacheEnabled = true → env.Reaches target → (s.calls i).change ≤ s.cleared
  | _ => True

variable {s' : Shared} {kind : Kind} {r : Except CacheError kind.Reply}

theorem perform_rely (hstep : performOp env i kind c s = some (r, s')) {j : ℕ} (hj : j ≠ i) :
    Rely j s s' := by
  cases kind with
  | get | publish | fetch | enter =>
    cases hstep
    exact Rely.refl j s
  | setex | answer =>
    cases hstep
    exact ⟨rfl, rfl, id, le_rfl, le_rfl, le_rfl⟩
  | del keys =>
    cases hstep
    split
    · exact (Rely.drop j keys).trans (Rely.clear j)
    · exact Rely.drop j keys
  | scan cursor pattern =>
    unfold performOp at hstep
    dsimp only at hstep
    split at hstep
    · cases hstep
      split
      · exact (Rely.reply hj).trans (Rely.clear j)
      · exact Rely.reply hj
    · cases hstep
  | change =>
    cases hstep
    have hcall := update_of_ne hj { s.calls i with change := s.changes + 1 } s.calls
    exact ⟨congrArg Call.change hcall, congrArg Call.scanning hcall,
      fun h => (congrArg Call.taken hcall).symm.trans h, le_succ _, le_rfl, le_rfl⟩
  | returned target =>
    cases hstep
    split
    · exact ⟨rfl, rfl, id, le_rfl, le_rfl, le_max_left _ _⟩
    · exact Rely.refl j s

theorem perform_keeps (h : Inv env s) (hready : Ready env i kind s) (hmay : InTime env i kind c s)
    (hstep : performOp env i kind c s = some (r, s')) : Inv env s' := by
  cases kind with
  | get | publish | fetch | enter =>
    cases hstep
    exact h
  | setex key value =>
    cases hstep
    exact h.store hmay
  | del keys =>
    cases hstep
    split
    next hkey =>
      refine (h.drop keys).clear (fun value hvalue => ?_)
      unfold Shared.drop at hvalue
      dsimp only at hvalue
      rw [if_pos hkey.1] at hvalue
      cases hvalue
    · exact h.drop keys
  | scan cursor pattern =>
    unfold performOp at hstep
    dsimp only at hstep
    split at hstep
    next hcan =>
      cases hstep
      split
      next hpassed =>
        refine (h.reply hready).clear (fun value hvalue => ?_)
        have hcall : ((s.reply env i cursor pattern c).calls i).change = (s.calls i).change := by
          unfold reply
          dsimp only
          rw [update_self]
          exact round_change
        have hfound : s.cache env.key = some value := hvalue
        rcases hready.there_or_stored h hpassed.2.1 (by rw [hfound]; rfl) with hthere | hstored
        · exact absurd (hcan.2 hpassed.1 hpassed.2.1 hthere) hpassed.2.2
        · have hall := hmay hpassed hstored
          rw [hfound] at hall
          exact hcall.trans_le (of_decide_eq_true hall)
      · exact h.reply hready
    · cases hstep
  | change =>
    cases hstep
    exact { h with
      own := (forall_update_iff s.calls fun _ call => call.change ≤ s.changes + 1).mpr
        ⟨le_rfl, fun j _ => (h.own j).trans (le_succ _)⟩
      cleared := h.cleared.trans (le_succ _)
      promised := h.promised.trans (le_succ _)
      scans := (forall_update_iff s.calls fun _ call => call.scanning = true →
        (s.cache env.key).isSome = true →
        call.there = true ∨ call.stored = true ∨ call.taken = true).mpr
        ⟨h.scans i, fun j _ => h.scans j⟩ }
  | answer since value =>
    cases hstep
    exact { h with fresh := forall_mem_cons.mpr ⟨hready, h.fresh⟩ }
  | returned target =>
    cases hstep
    split
    next hinvalidates =>
      exact { h with
        promised := max_le h.promised (h.own i)
        kept := fun henabled =>
          max_le (h.kept henabled) (hready henabled (hmay henabled hinvalidates)) }
    · exact h

end Steps

/-! ## The programs -/

/-- No value is served that is older than a change which was invalidated before. -/
def current (env : Env) : Contract (callers env) where
  inv := Inv env
  rely := Rely
  idle := fun i s => (s.calls i).scanning = false ∧ (s.calls i).taken = false
  may := InTime env

section Sound

variable {i n : ℕ}

theorem sound_perform {kind : Kind} {Q : kind.Reply → Shared → Prop} {s : Shared}
    (hready : ∀ s', Rely i s s' → Ready env i kind s')
    (hok : ∀ c s' a s'', Rely i s s' → Inv env s' → performOp env i kind c s' = some (.ok a, s'') →
      Q a s'') :
    (current env).Sound i Q (fun _ _ => True) (Prog.perform kind) s := by
  refine Sound.perform (fun s' hrely hinv c hmay r s'' hstep => ?_)
  refine ⟨perform_keeps hinv (hready s' hrely) hmay hstep, fun j hj => perform_rely hstep hj,
    fun a ha => ?_, fun _ _ => trivial⟩
  subst ha
  exact hok c s' a s'' hrely hinv hstep

/-- The task has made the change, its scan goes on or not, the key is among those it is about to
delete only if it is one of `keys`, and has been cleared if `done`. -/
structure At (env : Env) (i n : ℕ) (scanning : Bool) (keys : List Key) (done : Prop) (s : Shared) :
    Prop where
  change : (s.calls i).change = n
  scanning : (s.calls i).scanning = scanning
  taken : (s.calls i).taken = true → env.key ∈ keys
  cleared : done → n ≤ s.cleared

variable {scanning : Bool} {keys : List Key} {done done' : Prop} {s s' : Shared}

theorem At.rely (h : At env i n scanning keys done s) (hs : Rely i s s') :
    At env i n scanning keys done s' where
  change := hs.change.trans h.change
  scanning := hs.scanning.trans h.scanning
  taken := fun htaken => h.taken (hs.taken htaken)
  cleared := fun hdone => (h.cleared hdone).trans hs.cleared

theorem At.mono (h : At env i n scanning keys done s) (hdone : done' → done) :
    At env i n scanning keys done' s :=
  { h with cleared := fun hd => h.cleared (hdone hd) }

theorem At.clear (h : At env i n scanning keys done s) :
    At env i n scanning keys done' (s.clear i) :=
  { h with cleared := fun _ => h.change.symm.trans_le (le_max_right _ _) }

theorem At.taken_eq (h : At env i n scanning [] done s) : (s.calls i).taken = false :=
  eq_false_iff.mpr (fun htaken => absurd (h.taken htaken) not_mem_nil)

theorem At.drop (h : At env i n scanning keys done s) :
    At env i n scanning [] done (s.drop env keys) :=
  { h with
    taken := fun htaken => by
      obtain ⟨hbefore, hkey⟩ := and_eq_true_iff.mp htaken
      exact absurd (h.taken hbefore) (of_decide_eq_true hkey) }

/-- A deleted key has been cleared, unless the scan that deletes it goes on. -/
theorem sound_del (hs : At env i n scanning keys done s) :
    (current env).Sound i
      (fun _ => At env i n scanning [] (done ∨ env.key ∈ keys ∧ scanning = false))
      (fun _ _ => True) (Prog.perform (Kind.del keys)) s := by
  refine sound_perform (fun _ _ => trivial) (fun c s' a s'' hrely _ hstep => ?_)
  have hat := hs.rely hrely
  cases hstep
  split
  · exact hat.drop.clear
  next hkey =>
    exact hat.drop.mono (fun hd => hd.resolve_right fun h => hkey ⟨h.1, hat.scanning.trans h.2⟩)

/-- The last round leaves the key cleared, or returns it. -/
theorem sound_scan (cursor : ℕ) (pattern : Key)
    (hs : At env i n (decide (cursor ≠ 0) && env.globMatch pattern env.key) [] done s) :
    (current env).Sound i
      (fun found => At env i n (decide (found.1 ≠ 0) && env.globMatch pattern env.key) found.2
        (done ∨ found.1 = 0 ∧ env.globMatch pattern env.key = true ∧ env.key ∉ found.2))
      (fun _ _ => True) (Prog.perform (Kind.scan cursor pattern)) s := by
  refine sound_perform (fun s' hrely => ?_) (fun c s' found s'' hrely _ hstep => ?_)
  · have hat := hs.rely hrely
    exact ⟨hat.taken_eq,
      fun hcursor hmatch => by rw [hat.scanning, hmatch, decide_eq_true hcursor]; rfl⟩
  · have hat := hs.rely hrely
    have hreply : At env i n (decide (c.next ≠ 0) && env.globMatch pattern env.key) c.keys done
        (s'.reply env i cursor pattern c) := by
      refine ⟨?_, ?_, ?_, hat.cleared⟩
      all_goals
        unfold reply
        dsimp only
        rw [update_self]
      · exact round_change.trans hat.change
      · exact of_decide_eq_true
    unfold performOp at hstep
    dsimp only at hstep
    split at hstep
    · cases hstep
      split
      · exact hreply.clear
      next hpassed => exact hreply.mono (fun hd => hd.resolve_right hpassed)
    · cases hstep

/-- A scan for a pattern that the key matches has cleared it in the end. -/
theorem sound_scanFrom (pattern : Key) (rounds cursor : ℕ)
    (hs : At env i n (decide (cursor ≠ 0) && env.globMatch pattern env.key) [] done s) :
    (current env).Sound i
      (fun _ => At env i n false [] (done ∨ env.globMatch pattern env.key = true))
      (fun _ _ => True) (scanFrom pattern rounds cursor) s := by
  induction rounds generalizing cursor s with
  | zero => exact Sound.throw trivial
  | succ rounds ih =>
    unfold scanFrom
    refine Sound.bind (sound_scan cursor pattern hs) (fun found s hfound => ?_)
    have hdel : (current env).Sound i
        (fun _ => At env i n (decide (found.1 ≠ 0) && env.globMatch pattern env.key) []
          (done ∨ found.1 = 0 ∧ env.globMatch pattern env.key = true))
        (fun _ _ => True)
        (delFound found.2) s := by
      refine Sound.ite (fun hnil => Sound.ret ?_) (fun _ => ?_)
      · rw [hnil] at hfound
        exact hfound.mono (Or.imp_right fun h => ⟨h.1, h.2, not_mem_nil⟩)
      · refine (sound_del hfound).mono (fun _ s hs => hs.mono ?_) (fun _ _ _ => trivial)
        rintro (hdone | ⟨hnext, hmatch⟩)
        · exact .inl (.inl hdone)
        · by_cases hkey : env.key ∈ found.2
          · exact .inr ⟨hkey, by simp [hnext]⟩
          · exact .inl (.inr ⟨hnext, hmatch, hkey⟩)
    refine Sound.bind hdel (fun _ s hs => ?_)
    refine Sound.ite (fun hnext => Sound.ret ?_) (fun _ => ?_)
    · rw [hnext] at hs
      exact hs.mono (Or.imp_right fun hmatch => ⟨rfl, hmatch⟩)
    · exact ih _ (hs.mono .inl)

/-- Deleting a candidate that is the key, or matches it, clears the key. -/
theorem sound_delCandidate (rounds : ℕ) (candidate : Key) (hs : At env i n false [] done s) :
    (current env).Sound i (fun _ => At env i n false [] (done ∨ env.Clears candidate))
      (fun _ _ => True) (delCandidate rounds candidate) s := by
  unfold delCandidate Env.Clears
  split
  · exact sound_scanFrom candidate rounds 0 hs
  · have hone : At env i n false [candidate] done s :=
      { hs with taken := fun htaken => absurd (hs.taken htaken) not_mem_nil }
    exact (sound_del hone).mono
      (fun _ s hs => hs.mono (Or.imp_right fun hkey => ⟨by simp [hkey], rfl⟩)) (fun _ _ _ => trivial)

/-- An invalidation that reaches the key has cleared it. -/
theorem sound_invalidate (rounds : ℕ) (target : Key) (hs : At env i n false [] False s) :
    (current env).Sound i
      (fun _ => At env i n false [] (env.cacheEnabled = true ∧ env.Reaches target))
      (fun _ _ => True) (invalidate env rounds target) s := by
  unfold invalidate
  refine Sound.ite (fun _ => ?_) (fun hdisabled => Sound.ret (hs.mono fun h => hdisabled h.1))
  -- done are the candidates that are not left
  have hloop : (current env).Sound i
      (fun _ => At env i n false [] (∃ candidate ∈ patterns env.cacheKeyVersion target,
        env.Clears candidate ∧ candidate ∉ ([] : List Key)))
      (fun _ _ => True)
      (Prog.forEach (delCandidate rounds) (patterns env.cacheKeyVersion target)) s := by
    refine Sound.forEach (I := fun left => At env i n false []
      (∃ candidate ∈ patterns env.cacheKeyVersion target, env.Clears candidate ∧ candidate ∉ left))
      (fun candidate left s hs => ?_) _ (hs.mono fun ⟨_, hmem, _, hleft⟩ => hleft hmem)
    refine (sound_delCandidate rounds candidate hs).mono (fun _ s hs => hs.mono ?_)
      (fun _ _ _ => trivial)
    rintro ⟨other, hmem, hclears, hleft⟩
    by_cases hother : other = candidate
    · exact .inr (hother ▸ hclears)
    · exact .inl ⟨other, hmem, hclears, not_mem_cons_of_ne_of_not_mem hother hleft⟩
  refine Sound.bind hloop (fun _ s hs => sound_perform (fun _ _ => trivial) ?_)
  intro c s' a s'' hrely _ hstep
  cases hstep
  exact (hs.rely hrely).mono
    fun ⟨_, candidate, hmem, hclears⟩ => ⟨candidate, hmem, hclears, not_mem_nil⟩

/-- What is read shows at least what was promised when it was asked for. -/
theorem sound_getOrSet (key : Key) (ttlSeconds : ℤ) {since : ℕ}
    (hs : since ≤ s.promised) (hkey : key ≠ env.key → since = 0) :
    (current env).Sound i (fun value _ => since ≤ value.shows) (fun _ _ => True)
      (getOrSet env key ttlSeconds) s := by
  have hget : (current env).Sound i
      (fun cached s => (∀ value, cached = some value → since ≤ value.shows) ∧ since ≤ s.promised)
      (fun _ _ => True) (get env key) s := by
    unfold get
    refine Sound.ite (fun henabled => ?_) (fun _ => Sound.ret ⟨fun _ h => (nomatch h), hs⟩)
    refine Sound.bind (R := fun data s => (∀ value, data = some value → since ≤ value.shows) ∧
      since ≤ s.promised) (sound_perform (fun _ _ => trivial) ?_) (fun data s hdata => Sound.ret ?_)
    · intro c s' a s'' hrely hinv hstep
      cases hstep
      have hsince := hs.trans hrely.promised
      refine ⟨fun value hvalue => ?_, hsince⟩
      by_cases heq : key = env.key
      · rw [heq] at hvalue
        exact (hsince.trans (hinv.kept henabled)).trans (hinv.stored value hvalue)
      · rw [hkey heq]
        exact zero_le _
    · exact ⟨fun value hvalue => hdata.1 value (Option.filter_eq_some_iff.mp hvalue).1, hdata.2⟩
  unfold getOrSet
  refine Sound.bind hget (fun cached s hcached => ?_)
  cases cached with
  | some value => exact Sound.ret (hcached.1 value rfl)
  | none =>
    refine Sound.bind (R := fun value _ => since ≤ value.shows)
      (sound_perform (fun _ _ => trivial) ?_) (fun value s hvalue => ?_)
    · intro c s' a s'' hrely hinv hstep
      unfold performOp at hstep
      dsimp only at hstep
      split at hstep
      · cases hstep
      · cases hstep
        exact (hcached.2.trans hrely.promised).trans hinv.promised
    · have hset : (current env).Keeps i (set env key value ttlSeconds) s := by
        unfold set
        refine Sound.ite (fun _ => Sound.ite (fun _ => ?_) (fun _ => ?_)) (fun _ => Sound.ret trivial)
        · exact sound_perform (fun _ _ => trivial) (fun _ _ _ _ _ _ _ => trivial)
        · exact sound_perform (fun _ _ => trivial) (fun _ _ _ _ _ _ _ => trivial)
      exact Sound.bind hset (fun _ _ _ => Sound.ret hvalue)

theorem sound_entry (caller : Caller) (hs : (s.calls i).scanning = false ∧ (s.calls i).taken = false) :
    (current env).Keeps i (entry env caller) s := by
  cases caller with
  | read parts ttlSeconds =>
    unfold entry
    refine Sound.bind (R := fun since s => since ≤ s.promised ∧
        (buildKey env.cacheKeyVersion parts ≠ env.key → since = 0))
      (sound_perform (fun _ _ => trivial) ?_) (fun since s hsince => ?_)
    · intro c s' a s'' _ _ hstep
      cases hstep
      split
      next heq => exact ⟨le_rfl, fun hne => absurd heq hne⟩
      · exact ⟨zero_le _, fun _ => rfl⟩
    · refine Sound.bind (sound_getOrSet _ ttlSeconds hsince.1 hsince.2) (fun value s hvalue => ?_)
      exact sound_perform (fun _ _ => hvalue) (fun _ _ _ _ _ _ _ => trivial)
  | write targets rounds =>
    unfold entry
    refine Sound.bind (R := fun _ s => ∃ n, At env i n false [] False s)
      (sound_perform (fun _ _ => trivial) ?_) (fun _ s hs => ?_)
    · intro c s' a s'' hrely _ hstep
      cases hstep
      refine ⟨s'.changes + 1, ?_, ?_, ?_, False.elim⟩
      · exact congrArg Call.change (update_self i _ s'.calls)
      · exact (congrArg Call.scanning (update_self i _ s'.calls)).trans
          (hrely.scanning.trans hs.1)
      · intro htaken
        have htaken' := (congrArg Call.taken (update_self i _ s'.calls)).symm.trans htaken
        exact absurd (hrely.taken htaken') (eq_false_iff.mp hs.2)
    · obtain ⟨n, hat⟩ := hs
      refine (Sound.forEach (I := fun _ => At env i n false [] False) (fun target _ s hat => ?_)
        targets hat).mono (fun _ _ _ => trivial) (fun _ _ => id)
      refine Sound.bind (sound_invalidate rounds target hat) (fun _ s hs => sound_perform ?_ ?_)
      · exact fun s' hrely henabled hreaches =>
          (hs.rely hrely).change.trans_le ((hs.rely hrely).cleared ⟨henabled, hreaches⟩)
      · intro c s' a s'' hrely _ hstep
        cases hstep
        have hat' := (hs.rely hrely).mono False.elim
        split
        · exact { hat' with }
        · exact hat'

end Sound

/-! ## Every interleaving -/

theorem current_lawful (env : Env) : (current env).Lawful where
  refl := Rely.refl
  trans := fun _ _ _ _ => Rely.trans
  idle := fun i s s' hrely hidle =>
    ⟨hrely.scanning.trans hidle.1,
      eq_false_iff.mpr (fun htaken => eq_false_iff.mp hidle.2 (hrely.taken htaken))⟩
  outside := by
    intro e s s' hinv _ hout
    cases e with
    | drop key =>
      cases hout
      exact ⟨hinv.drop [key], fun j => Rely.drop j [key]⟩
    | edit =>
      cases hout
      exact ⟨{ hinv with
        own := fun i => (hinv.own i).trans (le_succ _)
        cleared := hinv.cleared.trans (le_succ _)
        promised := hinv.promised.trans (le_succ _) },
        fun j => ⟨rfl, rfl, id, le_succ _, le_rfl, le_rfl⟩⟩
  entry := fun caller _ _ _ hidle _ => sound_entry caller hidle

/-- Whatever the cache holds at first and however readers and writers interleave, no reader that
comes after an invalidation has returned is answered with a value older than its change, in every
run in which no value is stored that is older than a change it was already deleted for. -/
theorem invalidated_not_served (env : Env) (cache : Key → Option Value) (acts : List Act)
    (hintime : Guarded (callers env).step (OnOps (InTime env)) ⟨{ cache }, []⟩ acts) :
    Along (callers env).step (fun p => Fresh p.shared) ⟨{ cache }, []⟩ acts := by
  have hinv : Inv env { cache } :=
    ⟨fun _ => le_rfl, le_rfl, le_rfl, fun _ => le_rfl, fun _ _ => zero_le _,
      fun _ hscan => (nomatch hscan), fun _ hmem => absurd hmem not_mem_nil⟩
  have hholds := Contract.holds_start (K := current env) hinv (fun _ => ⟨rfl, rfl⟩)
  have hmeets : Guarded (callers env).step (current env).Meets ⟨{ cache }, []⟩ acts := by
    refine hintime.mono (fun p a h => ?_)
    cases a with
    | run i c => exact h
    | outside | start => trivial
  exact ((current_lawful env).along hholds hmeets).mono (fun _ h => h.inv.fresh)

/-! ## Runs of one key -/

/-- How Redis matches a pattern in which only `*` is special. -/
def starMatch : Key → Key → Bool
  | [], key => key.isEmpty
  | '*' :: pattern, key => key.tails.any (starMatch pattern)
  | c :: pattern, d :: key => c == d && starMatch pattern key
  | _ :: _, [] => false

def publicSettings : KeyParts := ⟨"platform".toList, "settings".toList, "public".toList⟩

def versioned : Env :=
  { cacheKeyVersion := "v1".toList, globMatch := starMatch, watched := publicSettings }

/-- The settings are cached, changed, invalidated by a pattern without the version, which finds the key
in the last round of its second scan, and read again. -/
def settingsChanged : List Act :=
  .start (.read publicSettings 3600) :: replicate 5 (.run 0 {}) ++
    .start (.write ["cache:platform:settings:*".toList] 2) ::
    replicate 2 (.run 1 {}) ++ [.run 1 { next := 3 }, .run 1 { keys := [versioned.key] }] ++
    replicate 3 (.run 1 {}) ++ .start (.read publicSettings 3600) :: replicate 5 (.run 2 {})

theorem invalidated_not_served_settings :
    Along (callers versioned).step (fun p => Fresh p.shared) ⟨{ cache := fun _ => none }, []⟩
      settingsChanged :=
  invalidated_not_served versioned (fun _ => none) settingsChanged (by decide +kernel)

/-- A reader fetches, the settings are changed and the key is deleted, and the reader stores. -/
def lateStore : List Act :=
  .start (.read publicSettings 3600) :: replicate 3 (.run 0 {}) ++
    .start (.write [versioned.key] 1) :: replicate 4 (.run 1 {}) ++ [.run 0 {}] ++
    .start (.read publicSettings 3600) :: replicate 3 (.run 2 {})

/-- The next reader gets the settings from before the change. -/
theorem old_settings_served :
    ¬ ∀ env cache acts, Along (callers env).step (fun p => Fresh p.shared) ⟨{ cache }, []⟩ acts :=
  fun h => absurd (h versioned (fun _ => none) lateStore).last (by decide +kernel)

end DiscountBazar.Cache
