/-
Transactions over a state: a body either returns a new state and a result or
fails, and a failed body leaves the state it started from.

The body is a plain `Except` computation that passes the state along, so a reader
sees each write; `commit` is the one place where abort is said.
-/
import Mathlib.Data.List.Forall2

namespace Transaction

open List

universe u

variable {σ ε : Type*} {α β : Type u}

/-- The state after a transaction: what the body wrote, or the old state when it failed. -/
def commit (s : σ) (r : Except ε (σ × α)) : σ :=
  match r with
  | .ok (s', _) => s'
  | .error _ => s

@[simp] theorem commit_ok (s s' : σ) (a : α) : commit s (.ok (s', a) : Except ε (σ × α)) = s' := rfl

@[simp] theorem commit_error (s : σ) (e : ε) : commit s (.error e : Except ε (σ × α)) = s := rfl

/-- What the old state and every committed state have, the state after has. -/
theorem commit_induction {P : σ → Prop} {s : σ} {r : Except ε (σ × α)} (hs : P s)
    (hr : ∀ s' a, r = .ok (s', a) → P s') : P (commit s r) := by
  cases r with
  | error e => exact hs
  | ok p => exact hr p.1 p.2 rfl

/-! ## When a body succeeds -/

/-- A sequence succeeds when its first step does and the rest does from there. -/
theorem bind_eq_ok {x : Except ε α} {f : α → Except ε β} {b : β} :
    (x >>= f) = .ok b ↔ ∃ a, x = .ok a ∧ f a = .ok b := by
  cases x with
  | error | ok => simp [bind, Except.bind]

theorem map_eq_ok {x : Except ε α} {f : α → β} {b : β} :
    f <$> x = .ok b ↔ ∃ a, x = .ok a ∧ f a = b := by
  cases x with
  | error | ok => simp [Functor.map, Except.map]

theorem pure_eq_ok {a b : α} : (pure a : Except ε α) = .ok b ↔ b = a := by
  simp [pure, Except.pure, eq_comm]

/-- A guard that throws lets through exactly what fails its test. -/
theorem ite_throw_eq_ok {p : Prop} [Decidable p] {e : ε} {x : Except ε β} {b : β} :
    (if p then throw e else x) = .ok b ↔ ¬p ∧ x = .ok b := by
  by_cases h : p
  · simp [h, throw, throwThe, MonadExceptOf.throw]
  · simp [h]

/-- A body that is known by its value has succeeded. -/
theorem ok_of_toOption {x : Except ε α} {a : α}
    (h : x.toOption = some a) : x = .ok a := by
  cases x with
  | error e => cases h
  | ok b => exact congrArg Except.ok (Option.some.inj h)

theorem throw_ne_ok {e : ε} {a : α} : (throw e : Except ε α) ≠ .ok a := by
  rintro ⟨⟩

/-! ## A list of bodies -/

section MapM

variable {γ : Type u} {f : α → Except ε β} {as : List α} {bs : List β}

/-- A list of bodies returns what each of them returns, in their order. -/
theorem forall₂_of_mapM (h : as.mapM f = .ok bs) : List.Forall₂ (fun a b => f a = .ok b) as bs := by
  induction as generalizing bs with
  | nil =>
    rw [mapM_nil, pure_eq_ok] at h
    subst h
    exact List.Forall₂.nil
  | cons a as ih =>
    rw [mapM_cons, bind_eq_ok] at h
    obtain ⟨b, hb, h⟩ := h
    rw [bind_eq_ok] at h
    obtain ⟨bs', hbs, h⟩ := h
    rw [pure_eq_ok] at h
    subst h
    exact List.Forall₂.cons hb (ih hbs)

/-- What a list of bodies returns, one of them returned. -/
theorem mem_of_mapM (h : as.mapM f = .ok bs) {b : β} (hb : b ∈ bs) : ∃ a ∈ as, f a = .ok b := by
  have hall := forall₂_of_mapM h
  clear h
  induction hall with
  | nil => cases hb
  | cons hhead _ ih =>
    rcases mem_cons.mp hb with rfl | hb
    · exact ⟨_, mem_cons_self, hhead⟩
    · obtain ⟨a', ha', heq⟩ := ih hb
      exact ⟨a', mem_cons_of_mem _ ha', heq⟩

/-- Where a list of bodies returns, each of them has returned. -/
theorem ok_of_mapM (h : as.mapM f = .ok bs) {a : α} (ha : a ∈ as) : ∃ b ∈ bs, f a = .ok b := by
  have hall := forall₂_of_mapM h
  clear h
  induction hall with
  | nil => cases ha
  | cons hhead _ ih =>
    rcases mem_cons.mp ha with rfl | ha
    · exact ⟨_, mem_cons_self, hhead⟩
    · obtain ⟨b', hb', heq⟩ := ih ha
      exact ⟨b', mem_cons_of_mem _ hb', heq⟩

/-- A second list of bodies that returns what the first does, mapped. -/
theorem mapM_eq_ok_map {g : α → Except ε γ} {φ : β → γ} (h : as.mapM f = .ok bs)
    (hg : ∀ a b, b ∈ bs → f a = .ok b → g a = .ok (φ b)) : as.mapM g = .ok (bs.map φ) := by
  induction as generalizing bs with
  | nil =>
    rw [mapM_nil, pure_eq_ok] at h
    subst h
    rfl
  | cons a as ih =>
    rw [mapM_cons, bind_eq_ok] at h
    obtain ⟨b', hb', h⟩ := h
    rw [bind_eq_ok] at h
    obtain ⟨bs', hbs', h⟩ := h
    rw [pure_eq_ok] at h
    subst h
    have hrest := ih hbs' fun a' b hb => hg a' b (mem_cons_of_mem b' hb)
    rw [mapM_cons, hg a b' mem_cons_self hb', hrest]
    rfl

end MapM

/-! ## Calls that may fail -/

section Attempt

variable {ι : Type*} [DecidableEq ι]

/-- A call to something outside the state, in a run where `failsAt` is the call that
fails (if any): it throws `e` when it is that one, and otherwise has no effect. -/
def attempt (failsAt : Option ι) (call : ι) (e : ε) : Except ε PUnit :=
  if failsAt = some call then throw e else pure ⟨⟩

theorem attempt_eq_ok {failsAt : Option ι} {call : ι} {e : ε} {u : PUnit} :
    attempt failsAt call e = .ok u ↔ failsAt ≠ some call := by
  unfold attempt
  rw [ite_throw_eq_ok]
  exact and_iff_left rfl

/-- A call in front of a body adds that it is not the one that fails. -/
theorem attempt_bind_eq_ok {failsAt : Option ι} {call : ι} {e : ε} {f : PUnit → Except ε β}
    {b : β} : (attempt failsAt call e >>= f) = .ok b ↔ failsAt ≠ some call ∧ f ⟨⟩ = .ok b := by
  rw [bind_eq_ok]
  constructor
  · rintro ⟨⟨⟩, hcall, hf⟩
    exact ⟨attempt_eq_ok.mp hcall, hf⟩
  · rintro ⟨hcall, hf⟩
    exact ⟨⟨⟩, attempt_eq_ok.mpr hcall, hf⟩

@[simp] theorem attempt_none (call : ι) (e : ε) : attempt none call e = .ok ⟨⟩ := rfl

end Attempt

end Transaction
