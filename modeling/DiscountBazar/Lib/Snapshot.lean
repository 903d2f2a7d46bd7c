/-
Transactions under snapshot isolation.

A transaction reads the store as it was when it began and buffers what it changes. When it commits,
its changes take effect at once, unless a document that it writes was written by a transaction that
has committed since it began; then it has no effect. What a transaction only reads may have changed.

`body request snapshot` is what the transaction of a request would change, and which documents that
writes. The first rule carries a property of the store through a run: it holds of every snapshot
too, since a snapshot was the store once. The second also relates each snapshot to the store by what
has been written since, which is where the conflicts come in.
-/
import DiscountBazar.Lib.Run

namespace Snapshot

open Runs List

/-- What a transaction changes: the documents it writes, and the change. -/
structure Effect (σ κ : Type*) where
  writes : List κ
  apply : σ → σ

/-- A transaction that is under way; `since` counts what had committed when it began. -/
structure Running (σ ρ : Type*) where
  request : ρ
  snapshot : σ
  since : ℕ

structure State (σ κ ρ : Type*) where
  store : σ
  /-- What each committed transaction wrote, in the order they committed. -/
  written : List (List κ) := []
  running : List (Option (Running σ ρ)) := []

inductive Action (ρ : Type*) where
  | start (request : ρ)
  | commit (index : ℕ)
  | abort (index : ℕ)

section System

variable {σ κ ρ : Type*} [DecidableEq κ]

/-- A document is written by one of the transactions that have committed since. -/
def conflicts (written : List (List κ)) (writes : List κ) : Bool :=
  written.any (fun documents => documents.any (fun document => decide (document ∈ writes)))

variable (body : ρ → σ → Option (Effect σ κ))

/-- What a transaction changes when it commits now. -/
def State.effect? (s : State σ κ ρ) (t : Running σ ρ) : Option (Effect σ κ) :=
  (body t.request t.snapshot).filter (fun effect => !conflicts (s.written.drop t.since) effect.writes)

/-- A transaction is over. -/
def State.finish (s : State σ κ ρ) (index : ℕ) : State σ κ ρ :=
  { s with running := s.running.set index none }

def step (s : State σ κ ρ) : Action ρ → State σ κ ρ
  | .start request =>
    { s with running := s.running ++ [some ⟨request, s.store, s.written.length⟩] }
  | .abort index => s.finish index
  | .commit index =>
    match s.running[index]?.join with
    | none => s
    | some t =>
      match s.effect? body t with
      | none => s.finish index
      | some effect =>
        { s.finish index with
          store := effect.apply s.store
          written := s.written ++ [effect.writes] }

/-! ## What a run keeps -/

/-- A commit that takes effect meets `ok`. -/
def CommitsWith (ok : Running σ ρ → σ → Prop) (s : State σ κ ρ) : Action ρ → Prop
  | .commit index =>
    ∀ t ∈ s.running[index]?.join, (s.effect? body t).isSome → ok t s.store
  | _ => True

instance {ok : Running σ ρ → σ → Prop} [∀ t store, Decidable (ok t store)] (s : State σ κ ρ) :
    (a : Action ρ) → Decidable (CommitsWith body ok s a)
  | .start _ => isTrue trivial
  | .abort _ => isTrue trivial
  | .commit index =>
    inferInstanceAs (Decidable (∀ t ∈ s.running[index]?.join, (s.effect? body t).isSome → ok t s.store))

/-- A property of the store, and of every snapshot of it. -/
structure Holds (P : σ → Prop) (s : State σ κ ρ) : Prop where
  store : P s.store
  snapshots : ∀ t, some t ∈ s.running → P t.snapshot

variable {body} {P : σ → Prop} {ok : Running σ ρ → σ → Prop}

variable {s : State σ κ ρ}

omit [DecidableEq κ] in
theorem Holds.finish (h : Holds P s) (index : ℕ) : Holds P (s.finish index) where
  store := h.store
  snapshots := by
    intro t ht
    rcases mem_or_eq_of_mem_set ht with ht | ht
    · exact h.snapshots t ht
    · cases ht

theorem effect?_eq_some {t : Running σ ρ} {effect : Effect σ κ} (h : s.effect? body t = some effect) :
    body t.request t.snapshot = some effect ∧
      conflicts (s.written.drop t.since) effect.writes = false := by
  obtain ⟨hbody, hfree⟩ := Option.filter_eq_some_iff.mp h
  exact ⟨hbody, by simpa using hfree⟩

/-- A property that every commit keeps which meets `ok` and whose snapshot has it holds after a
step. -/
theorem Holds.step (h : Holds P s)
    (hcommit : ∀ t store effect, P t.snapshot → P store → body t.request t.snapshot = some effect →
      ok t store → P (effect.apply store)) {a : Action ρ} (ha : CommitsWith body ok s a) :
    Holds P (step body s a) := by
  cases a with
  | start request =>
    refine ⟨h.store, fun t ht => ?_⟩
    rcases mem_append.mp ht with ht | ht
    · exact h.snapshots t ht
    · cases mem_singleton.mp ht
      exact h.store
  | abort index => exact h.finish index
  | commit index =>
    cases hrunning : s.running[index]?.join with
    | none =>
      simp only [Snapshot.step, hrunning]
      exact h
    | some t =>
      cases heffect : s.effect? body t with
      | none =>
        simp only [Snapshot.step, hrunning, heffect]
        exact h.finish index
      | some effect =>
        have ht : some t ∈ s.running :=
          mem_of_getElem? (Option.join_eq_some_iff.mp hrunning)
        have hok : ok t s.store := ha t hrunning (by rw [heffect]; rfl)
        simp only [Snapshot.step, hrunning, heffect]
        refine ⟨?_, (h.finish index).snapshots⟩
        exact hcommit t s.store effect (h.snapshots t ht) h.store (effect?_eq_some heffect).1 hok

/-- The rule for runs. -/
theorem along_of_commits (hs : Holds P s)
    (hcommit : ∀ t store effect, P t.snapshot → P store → body t.request t.snapshot = some effect →
      ok t store → P (effect.apply store)) {as : List (Action ρ)}
    (has : Guarded (step body) (CommitsWith body ok) s as) :
    Along (step body) (Holds P) s as :=
  along_of_guarded (fun _ _ h ha => h.step hcommit ha) hs has

/-! ## What has changed since a snapshot -/

/-- `P` holds of the store, and `R` relates each snapshot, by what has been written since, to the
store. -/
structure Tracked (P : σ → Prop) (R : σ → List (List κ) → σ → Prop) (s : State σ κ ρ) : Prop where
  store : P s.store
  running : ∀ t, some t ∈ s.running → t.since ≤ s.written.length ∧
    R t.snapshot (s.written.drop t.since) s.store

/-- What a commit does where its snapshot is related to the store and nothing that it writes has
been written since: `P` survives, and every snapshot stays related. -/
structure Tracking (body : ρ → σ → Option (Effect σ κ)) (P : σ → Prop)
    (R : σ → List (List κ) → σ → Prop) (ok : Running σ ρ → σ → Prop) : Prop where
  refl : ∀ store, P store → R store [] store
  commit : ∀ (t : Running σ ρ) store since effect, P store → R t.snapshot since store →
    body t.request t.snapshot = some effect → conflicts since effect.writes = false →
    ok t store → P (effect.apply store)
  extend : ∀ (t : Running σ ρ) store since effect, P store → R t.snapshot since store →
    body t.request t.snapshot = some effect → conflicts since effect.writes = false →
    ∀ snapshot earlier, R snapshot earlier store →
      R snapshot (earlier ++ [effect.writes]) (effect.apply store)

variable {R : σ → List (List κ) → σ → Prop}

omit [DecidableEq κ] in
theorem Tracked.finish (h : Tracked P R s) (index : ℕ) :
    Tracked P R (s.finish index) where
  store := h.store
  running := by
    intro t ht
    rcases mem_or_eq_of_mem_set ht with ht | ht
    · exact h.running t ht
    · cases ht

theorem Tracked.step (htracking : Tracking body P R ok) (h : Tracked P R s) {a : Action ρ}
    (ha : CommitsWith body ok s a) : Tracked P R (step body s a) := by
  cases a with
  | start request =>
    refine ⟨h.store, fun t ht => ?_⟩
    rcases mem_append.mp ht with ht | ht
    · exact h.running t ht
    · cases mem_singleton.mp ht
      have hrelated : R s.store (s.written.drop s.written.length) s.store := by
        rw [drop_length]
        exact htracking.refl _ h.store
      exact ⟨Nat.le_refl _, hrelated⟩
  | abort index => exact h.finish index
  | commit index =>
    cases hrunning : s.running[index]?.join with
    | none =>
      simp only [Snapshot.step, hrunning]
      exact h
    | some t =>
      cases heffect : s.effect? body t with
      | none =>
        simp only [Snapshot.step, hrunning, heffect]
        exact h.finish index
      | some effect =>
        have ht : some t ∈ s.running :=
          mem_of_getElem? (Option.join_eq_some_iff.mp hrunning)
        have hok : ok t s.store := ha t hrunning (by rw [heffect]; rfl)
        obtain ⟨hbody, hfree⟩ := effect?_eq_some heffect
        obtain ⟨-, hrelated⟩ := h.running t ht
        simp only [Snapshot.step, hrunning, heffect]
        refine ⟨htracking.commit t s.store _ effect h.store hrelated hbody hfree hok, ?_⟩
        intro u hu
        obtain ⟨hsince, hu⟩ := (h.finish index).running u hu
        have hdrop : (s.written ++ [effect.writes]).drop u.since
            = s.written.drop u.since ++ [effect.writes] := drop_append_of_le_length hsince
        refine ⟨Nat.le_trans hsince (by simp [State.finish]), ?_⟩
        dsimp only
        rw [hdrop]
        exact htracking.extend t s.store _ effect h.store hrelated hbody hfree _ _ hu

/-- The rule for runs that keep track of what has changed since each snapshot. -/
theorem along_of_tracking (htracking : Tracking body P R ok) (hs : Tracked P R s)
    {as : List (Action ρ)} (has : Guarded (Snapshot.step body) (CommitsWith body ok) s as) :
    Along (Snapshot.step body) (Tracked P R) s as :=
  along_of_guarded (fun _ _ h ha => h.step htracking ha) hs has

end System

end Snapshot
