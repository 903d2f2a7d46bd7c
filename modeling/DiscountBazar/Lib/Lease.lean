/-
Leases that expire.

A resource is locked until a moment; a task takes it when no lock is on it or the lock's moment has
passed, and gives it back by removing the lock, without looking whose it is. So what a lease is worth
depends on time: `Exclusive` says that of the tasks whose leases have not expired no two hold the same
resource, and that the lock on it is theirs. It is kept by taking a free resource, by the passing of
time, and by giving back a lease that has not expired.
-/
import Mathlib.Order.Lattice

namespace Leases

open Function Option

/-- What a task holds, and until when. -/
structure Hold (ρ T : Type*) where
  resource : ρ
  expiry : T

/-- The locks on the resources, and what each task has taken. -/
structure Book (τ ρ T : Type*) where
  lockedUntil : ρ → Option T
  held : τ → Option (Hold ρ T)

namespace Book

variable {τ ρ T : Type*}

/-- No lock is on the resource, or it has run out. -/
def isFree [LinearOrder T] (b : Book τ ρ T) (resource : ρ) (now : T) : Bool :=
  (b.lockedUntil resource).all (fun expiry => decide (expiry < now))

section Moves

variable [DecidableEq τ] [DecidableEq ρ]

def acquire (b : Book τ ρ T) (task : τ) (resource : ρ) (expiry : T) : Book τ ρ T where
  lockedUntil := update b.lockedUntil resource (some expiry)
  held := update b.held task (some ⟨resource, expiry⟩)

def release (b : Book τ ρ T) (task : τ) (resource : ρ) : Book τ ρ T where
  lockedUntil := update b.lockedUntil resource none
  held := update b.held task none

@[simp] theorem held_acquire_self (b : Book τ ρ T) (task : τ) (resource : ρ)
    (expiry : T) : (b.acquire task resource expiry).held task = some ⟨resource, expiry⟩ :=
  update_self _ _ _

theorem held_acquire_ne (b : Book τ ρ T) {i task : τ} (h : i ≠ task) (resource : ρ) (expiry : T) :
    (b.acquire task resource expiry).held i = b.held i := update_of_ne h _ _

theorem held_release_self (b : Book τ ρ T) (task : τ) (resource : ρ) :
    (b.release task resource).held task = none := update_self _ _ _

theorem held_release_ne (b : Book τ ρ T) {i task : τ} (h : i ≠ task) (resource : ρ) :
    (b.release task resource).held i = b.held i := update_of_ne h _ _

end Moves

/-! ## Exclusive leases -/

variable [LinearOrder T]

/-- A lease that has not expired is the lock on its resource, and nobody else has one on it. -/
structure Exclusive (b : Book τ ρ T) (clock : T) : Prop where
  locked : ∀ i h, b.held i = some h → clock ≤ h.expiry →
    b.lockedUntil h.resource = some h.expiry
  unique : ∀ i j h h', b.held i = some h → b.held j = some h' → clock ≤ h.expiry →
    clock ≤ h'.expiry → h.resource = h'.resource → i = j

variable {b : Book τ ρ T} {clock : T}

/-- Time passes: leases run out. -/
theorem Exclusive.advance (h : b.Exclusive clock) {clock' : T} (hle : clock ≤ clock') :
    b.Exclusive clock' := by
  constructor
  · intro i hold hheld hin
    exact h.locked i hold hheld (hle.trans hin)
  · intro i j hold hold' hi hj hin hin'
    exact h.unique i j hold hold' hi hj (hle.trans hin) (hle.trans hin')

/-- On a resource that is free at `now`, or was some time ago, all leases have expired. -/
theorem Exclusive.expired_of_isFree (h : b.Exclusive clock) {resource : ρ} {now : T}
    (hnow : now ≤ clock) (hfree : b.isFree resource now = true) {i : τ} {hold : Hold ρ T}
    (hheld : b.held i = some hold) (hresource : hold.resource = resource) :
    hold.expiry < clock := by
  by_contra hin
  rw [not_lt] at hin
  have hlocked := h.locked i hold hheld hin
  unfold isFree at hfree
  rw [← hresource, hlocked, all_some, decide_eq_true_eq] at hfree
  exact absurd (hfree.trans_le (hnow.trans hin)) (lt_irrefl _)

variable [DecidableEq τ] [DecidableEq ρ]

/-- Taking a resource that is free. -/
theorem Exclusive.acquire (h : b.Exclusive clock) {resource : ρ} {now : T} (hnow : now ≤ clock)
    (hfree : b.isFree resource now = true) (task : τ) (expiry : T) :
    (b.acquire task resource expiry).Exclusive clock := by
  have hothers : ∀ i hold, i ≠ task → (b.acquire task resource expiry).held i = some hold →
      clock ≤ hold.expiry → b.held i = some hold ∧ hold.resource ≠ resource := by
    intro i hold hne hheld hin
    rw [held_acquire_ne b hne] at hheld
    refine ⟨hheld, fun hresource => ?_⟩
    exact absurd (h.expired_of_isFree hnow hfree hheld hresource) (not_lt.mpr hin)
  constructor
  · intro i hold hheld hin
    by_cases hi : i = task
    · subst hi
      rw [held_acquire_self, some.injEq] at hheld
      subst hheld
      exact update_self _ _ _
    · obtain ⟨hheld, hresource⟩ := hothers i hold hi hheld hin
      exact (update_of_ne hresource _ _).trans (h.locked i hold hheld hin)
  · intro i j hold hold' hi hj hin hin' hsame
    by_cases hit : i = task
    · by_cases hjt : j = task
      · exact hit.trans hjt.symm
      · subst hit
        rw [held_acquire_self, some.injEq] at hi
        subst hi
        exact absurd hsame.symm (hothers j hold' hjt hj hin').2
    · obtain ⟨hi, hresource⟩ := hothers i hold hit hi hin
      by_cases hjt : j = task
      · subst hjt
        rw [held_acquire_self, some.injEq] at hj
        subst hj
        exact absurd hsame hresource
      · exact h.unique i j hold hold' hi (hothers j hold' hjt hj hin').1 hin hin' hsame

/-- Giving back a lease that has not expired. -/
theorem Exclusive.release (h : b.Exclusive clock) {task : τ} {hold : Hold ρ T}
    (hheld : b.held task = some hold) (hin : clock ≤ hold.expiry) :
    (b.release task hold.resource).Exclusive clock := by
  have hothers : ∀ i hold', (b.release task hold.resource).held i = some hold' →
      i ≠ task ∧ b.held i = some hold' := by
    intro i hold' hi
    by_cases hit : i = task
    · subst hit
      rw [held_release_self] at hi
      cases hi
    · rw [held_release_ne b hit] at hi
      exact ⟨hit, hi⟩
  constructor
  · intro i hold' hi hin'
    obtain ⟨hit, hi⟩ := hothers i hold' hi
    have hresource : hold'.resource ≠ hold.resource :=
      fun hsame => hit (h.unique i task hold' hold hi hheld hin' hin hsame)
    exact (update_of_ne hresource _ _).trans (h.locked i hold' hi hin')
  · intro i j hold' hold'' hi hj
    exact h.unique i j hold' hold'' (hothers i hold' hi).2 (hothers j hold'' hj).2

end Book

end Leases
