/-
What other customers do under a key (`placeOrderAtomic`, its idempotency).

A run is compared with the run of the same calls and outcomes in which the operations of
every customer but `b` are left out. As far as `b` can tell, the two agree as long as each
read of the cache by a call of `b` finds the same entries in both; `Paired` relates the two
runs step by step.
-/
import DiscountBazar.Placement.IdempotentPlacement

namespace DiscountBazar.Placement

open Tasks Function Runs List Option System

/-! ## The two runs -/

/-- The calls with a key where only customer `b` is served. -/
def quietSystem (redis : Bool) (key : String) (b : ObjectId) :
    System Op Op.Reply PlacementError Keyed Outcome Expiry (ObjectId × Payload) :=
  { idempotencySystem redis key with
    perform := fun i op outcome s =>
      if op.caller.customer = b then performOp i op outcome s else none }

abbrev CallPool := Pool Op Op.Reply PlacementError Keyed

/-- One action in the run and in the quiet run. -/
def bothStep (redis : Bool) (key : String) (b : ObjectId) (ps : CallPool × CallPool)
    (a : Action Outcome Expiry (ObjectId × Payload)) : CallPool × CallPool :=
  ((idempotencySystem redis key).step ps.1 a, (quietSystem redis key b).step ps.2 a)

/-- The answers that the calls of customer `b` have had. -/
def answersTo (b : ObjectId) (s : Keyed) : List Response :=
  s.responses.filter (fun r => decide (r.caller.customer = b))

/-- Customer `b` has had the same answers and has the same order. -/
def SameFor (b : ObjectId) (s t : Keyed) : Prop :=
  answersTo b s = answersTo b t ∧ s.group b = t.group b

def ReadsSame (kind : Kind) (cache quiet : Cache) : Prop :=
  match kind with
  | .checkIdempotency => cache.lock.isSome = quiet.lock.isSome ∧ cache.result = quiet.result ∧
      cache.error = quiet.error
  | .acquireLock => cache.lock.isSome = quiet.lock.isSome
  | _ => True

instance (cache quiet : Cache) : (kind : Kind) → Decidable (ReadsSame kind cache quiet)
  | .checkIdempotency => inferInstanceAs (Decidable (_ ∧ _ ∧ _))
  | .acquireLock => inferInstanceAs (Decidable (_ = _))
  | .arrive | .findExisting | .assertModeEnabled | .transaction | .afterCommit | .setResult _
  | .setError _ | .deleteLock | .respond _ => isTrue trivial

/-- Where a call of `b` reads the cache, the others have left no entry of their own there and
taken none away: it finds what it finds in the quiet run. -/
def ReadsOwnCache (b : ObjectId) (ps : CallPool × CallPool)
    (a : Action Outcome Expiry (ObjectId × Payload)) : Prop :=
  OnOps (fun _ op _ s => op.caller.customer = b → ReadsSame op.kind s.cache ps.2.shared.cache)
    ps.1 a

instance (b : ObjectId) (ps : CallPool × CallPool)
    (a : Action Outcome Expiry (ObjectId × Payload)) : Decidable (ReadsOwnCache b ps a) :=
  inferInstanceAs (Decidable (OnOps (fun _ op _ s => op.caller.customer = b →
    ReadsSame op.kind s.cache ps.2.shared.cache) ps.1 a))

/-! ## One operation -/

section Operation

variable {b : ObjectId} {i : ℕ} {op : Op} {outcome : Outcome} {s s' t t' : Keyed}

theorem effect_other {k : Caller} {kind : Kind} {a : kind.Reply} (hk : k.customer ≠ b)
    (h : effect i k kind s = some (a, s')) :
    SameFor b s' s ∧ ∀ j, j ≠ i → s'.earlier j = s.earlier j := by
  cases kind with
  | arrive =>
    cases h
    exact ⟨⟨rfl, rfl⟩, fun j hj => update_of_ne hj _ _⟩
  | acquireLock =>
    unfold effect at h
    dsimp only at h
    split at h
    · cases h
      exact ⟨⟨rfl, rfl⟩, fun _ _ => rfl⟩
    · cases h
      exact ⟨⟨rfl, rfl⟩, fun _ _ => rfl⟩
  | transaction =>
    unfold effect at h
    dsimp only at h
    split at h
    · cases h
      exact ⟨⟨rfl, s.commit_group_ne (Ne.symm hk)⟩, fun _ _ => rfl⟩
    · cases h
  | respond answer =>
    cases h
    refine ⟨⟨?_, rfl⟩, fun _ _ => rfl⟩
    unfold answersTo
    dsimp only
    rw [filter_append]
    simp [hk]
  | _ =>
    cases h
    exact ⟨⟨rfl, rfl⟩, fun _ _ => rfl⟩

theorem performOp_other (hop : op.caller.customer ≠ b) {r : Except PlacementError op.Reply}
    (h : performOp i op outcome s = some (r, s')) :
    SameFor b s' s ∧ ∀ j, j ≠ i → s'.earlier j = s.earlier j := by
  rcases performOp_cases h with ⟨e, -, -, -, rfl⟩ | ⟨a, heffect, -⟩
  · exact ⟨⟨rfl, rfl⟩, fun _ _ => rfl⟩
  · exact effect_other hop heffect

/-- The two states look the same to call `i` of customer `b`. -/
structure Alike (b : ObjectId) (i : ℕ) (s t : Keyed) : Prop where
  same : SameFor b s t
  earlier : s.earlier i = t.earlier i

/-- The outcomes of an operation in the two runs. -/
inductive Twin {α : Type} (b : ObjectId) (i : ℕ) (s t : Keyed) :
    Option (α × Keyed) → Option (α × Keyed) → Prop where
  | stuck : Twin b i s t none none
  | moved (r : α) {s' t' : Keyed} (halike : Alike b i s' t')
      (hs : ∀ j, j ≠ i → s'.earlier j = s.earlier j)
      (ht : ∀ j, j ≠ i → t'.earlier j = t.earlier j) : Twin b i s t (some (r, s')) (some (r, t'))

theorem Twin.map {α β : Type} {x y : Option (α × Keyed)} (h : Twin b i s t x y) (f : α → β) :
    Twin b i s t (x.map (fun r => (f r.1, r.2))) (y.map (fun r => (f r.1, r.2))) := by
  cases h with
  | stuck => exact .stuck
  | moved r halike hs ht => exact .moved (f r) halike hs ht

theorem checkIdempotency_congr {cache quiet : Cache} (payload : Payload)
    (hlock : cache.lock.isSome = quiet.lock.isSome) (hresult : cache.result = quiet.result)
    (herror : cache.error = quiet.error) :
    checkIdempotency cache payload = checkIdempotency quiet payload := by
  obtain ⟨lock, result, error⟩ := cache
  obtain ⟨lock', result', error'⟩ := quiet
  dsimp only at hlock hresult herror
  subst hresult herror
  cases lock with
  | none =>
    cases lock' with
    | none => rfl
    | some j => cases hlock
  | some i =>
    cases lock' with
    | none => cases hlock
    | some j =>
      cases result with
      | none | some => cases error <;> rfl

theorem effect_twin {k : Caller} {kind : Kind} (hk : k.customer = b) (h : Alike b i s t)
    (hreads : ReadsSame kind s.cache t.cache) :
    Twin b i s t (effect i k kind s) (effect i k kind t) := by
  obtain ⟨⟨hanswers, hgroup⟩, hearlier⟩ := h
  subst hk
  cases kind with
  | arrive =>
    unfold effect
    dsimp only
    rw [hgroup]
    refine .moved _ ⟨⟨hanswers, hgroup⟩, ?_⟩ (fun j hj => update_of_ne hj _ _)
      (fun j hj => update_of_ne hj _ _)
    dsimp only
    rw [update_self, update_self]
  | checkIdempotency =>
    obtain ⟨hlock, hresult, herror⟩ := hreads
    have hreply := checkIdempotency_congr k.payload hlock hresult herror
    unfold effect
    dsimp only
    rw [hreply]
    exact .moved _ ⟨⟨hanswers, hgroup⟩, hearlier⟩ (fun _ _ => rfl) (fun _ _ => rfl)
  | acquireLock =>
    have hfree : s.cache.lock = none ↔ t.cache.lock = none := by
      rw [← isSome_eq_false_iff.trans isNone_iff_eq_none,
        ← isSome_eq_false_iff.trans isNone_iff_eq_none,
        show s.cache.lock.isSome = t.cache.lock.isSome from hreads]
    unfold effect
    dsimp only
    by_cases hs : s.cache.lock = none
    · rw [if_pos hs, if_pos (hfree.mp hs)]
      exact .moved _ ⟨⟨hanswers, hgroup⟩, hearlier⟩ (fun _ _ => rfl) (fun _ _ => rfl)
    · rw [if_neg hs, if_neg (fun ht => hs (hfree.mpr ht))]
      exact .moved _ ⟨⟨hanswers, hgroup⟩, hearlier⟩ (fun _ _ => rfl) (fun _ _ => rfl)
  | findExisting =>
    unfold effect
    dsimp only
    rw [hgroup]
    exact .moved _ ⟨⟨hanswers, hgroup⟩, hearlier⟩ (fun _ _ => rfl) (fun _ _ => rfl)
  | transaction =>
    unfold effect
    dsimp only
    rw [hgroup]
    split
    · refine .moved _ ⟨⟨hanswers, ?_⟩, hearlier⟩ (fun _ _ => rfl) (fun _ _ => rfl)
      exact (s.commit_group_self _).trans (t.commit_group_self _).symm
    · exact .stuck
  | respond answer =>
    unfold effect
    dsimp only
    refine .moved _ ⟨⟨?_, hgroup⟩, hearlier⟩ (fun _ _ => rfl) (fun _ _ => rfl)
    unfold answersTo at hanswers ⊢
    dsimp only
    rw [filter_append, filter_append, hanswers, hearlier]
  | _ => exact .moved _ ⟨⟨hanswers, hgroup⟩, hearlier⟩ (fun _ _ => rfl) (fun _ _ => rfl)

theorem performOp_twin (hop : op.caller.customer = b) (h : Alike b i s t)
    (hreads : ReadsSame op.kind s.cache t.cache) :
    Twin b i s t (performOp i op outcome s) (performOp i op outcome t) := by
  have heffect := effect_twin hop h hreads
  cases outcome with
  | done => exact heffect.map Except.ok
  | refused e =>
    unfold performOp
    dsimp only
    split
    · exact .stuck
    · exact .moved _ h (fun _ _ => rfl) (fun _ _ => rfl)
  | lost e =>
    unfold performOp
    dsimp only
    split
    · exact .stuck
    · exact heffect.map (fun _ => Except.error e)

end Operation

/-! ## The runs side by side -/

/-- A call of `b` is the same program in both runs and came to the same state; any other call
asks for nothing of `b`'s. -/
def PairedTask (b : ObjectId) (s t : Keyed) (i : ℕ) (p q : M Unit) : Prop :=
  (p = q ∧ p.All (fun op => op.caller.customer = b) ∧ s.earlier i = t.earlier i) ∨
    (p.All (fun op => op.caller.customer ≠ b) ∧ q.All (fun op => op.caller.customer ≠ b))

/-- What holds of the two runs. -/
structure Paired (b : ObjectId) (ps : CallPool × CallPool) : Prop where
  same : SameFor b ps.1.shared ps.2.shared
  length : ps.1.tasks.length = ps.2.tasks.length
  tasks : ∀ i p q, ps.1.tasks[i]? = some p → ps.2.tasks[i]? = some q →
    PairedTask b ps.1.shared ps.2.shared i p q
  idle : ∀ i, ps.1.tasks.length ≤ i → ps.1.shared.earlier i = ps.2.shared.earlier i

section Paired

variable {redis : Bool} {key : String} {b : ObjectId} {p q : CallPool}

theorem paired_set (h : Paired b (p, q)) {s t : Keyed} (hsame : SameFor b s t) {i : ℕ}
    (hi : i < p.tasks.length) {f g : M Unit} (htask : PairedTask b s t i f g)
    (hs : ∀ j, j ≠ i → s.earlier j = p.shared.earlier j)
    (ht : ∀ j, j ≠ i → t.earlier j = q.shared.earlier j) :
    Paired b (⟨s, p.tasks.set i f⟩, ⟨t, q.tasks.set i g⟩) where
  same := hsame
  length := by
    rw [length_set, length_set]
    exact h.length
  tasks := by
    intro j f' g' hf' hg'
    dsimp only at hf' hg' ⊢
    rw [getElem?_set] at hf' hg'
    by_cases hij : i = j
    · subst hij
      rw [if_pos rfl, if_pos hi] at hf'
      rw [if_pos rfl, if_pos (h.length ▸ hi : i < q.tasks.length)] at hg'
      cases hf'
      cases hg'
      exact htask
    · rw [if_neg hij] at hf' hg'
      rcases h.tasks j f' g' hf' hg' with ⟨rfl, hall, hearlier⟩ | hother
      · refine .inl ⟨rfl, hall, ?_⟩
        rw [hs j (Ne.symm hij), ht j (Ne.symm hij)]
        exact hearlier
      · exact .inr hother
  idle := by
    intro j hj
    dsimp only at hj ⊢
    rw [length_set] at hj
    rw [hs j (by omega), ht j (by omega)]
    exact h.idle j hj

theorem quiet_run_other {i : ℕ} {g : M Unit} (hg : q.tasks[i]? = some g)
    (hall : g.All (fun op => op.caller.customer ≠ b)) (outcome : Outcome) :
    (quietSystem redis key b).step q (.run i outcome) = q := by
  cases g with
  | call op next =>
    rw [step_call _ _ hg]
    rw [show (quietSystem redis key b).perform i op outcome q.shared = none from if_neg hall.1]
  | ret | throw =>
    refine step_idle _ _ (fun op next h => ?_)
    cases hg.symm.trans h

theorem paired_run_own (h : Paired b (p, q)) {i : ℕ} {op : Op}
    {next : Except PlacementError op.Reply → M Unit} {outcome : Outcome}
    (hp : p.tasks[i]? = some (.call op next)) (hq : q.tasks[i]? = some (.call op next))
    (hall : (Prog.call op next).All (fun op => op.caller.customer = b))
    (hearlier : p.shared.earlier i = q.shared.earlier i)
    (hreads : ReadsSame op.kind p.shared.cache q.shared.cache) :
    Paired b (bothStep redis key b (p, q) (.run i outcome)) := by
  have hi : i < p.tasks.length := (List.getElem?_eq_some_iff.mp hp).1
  unfold bothStep
  rw [step_call _ _ hp, step_call _ _ hq,
    show (quietSystem redis key b).perform i op outcome q.shared
      = performOp i op outcome q.shared from if_pos hall.1,
    show (idempotencySystem redis key).perform i op outcome p.shared
      = performOp i op outcome p.shared from rfl]
  have htwin : Twin b i p.shared q.shared (performOp i op outcome p.shared)
      (performOp i op outcome q.shared) :=
    performOp_twin hall.1 ⟨h.same, hearlier⟩ hreads
  generalize performOp i op outcome p.shared = x at htwin ⊢
  generalize performOp i op outcome q.shared = y at htwin ⊢
  cases htwin with
  | stuck => exact h
  | moved r halike hs ht =>
    exact paired_set h halike.same hi (.inl ⟨rfl, hall.2 r, halike.earlier⟩) hs ht

theorem paired_run_other (h : Paired b (p, q)) {i : ℕ} {op : Op}
    {next : Except PlacementError op.Reply → M Unit} {g : M Unit} {outcome : Outcome}
    (hp : p.tasks[i]? = some (.call op next)) (hq : q.tasks[i]? = some g)
    (hall : (Prog.call op next).All (fun op => op.caller.customer ≠ b))
    (hallq : g.All (fun op => op.caller.customer ≠ b)) :
    Paired b (bothStep redis key b (p, q) (.run i outcome)) := by
  have hi : i < p.tasks.length := (List.getElem?_eq_some_iff.mp hp).1
  unfold bothStep
  rw [quiet_run_other hq hallq, step_call _ _ hp]
  split
  next r s hstep =>
    obtain ⟨hsame, hearlier⟩ := performOp_other hall.1 hstep
    have hset := paired_set h (s := s) (t := q.shared)
      ⟨hsame.1.trans h.same.1, hsame.2.trans h.same.2⟩ hi (.inr ⟨hall.2 r, hallq⟩) hearlier
      (fun _ _ => rfl)
    obtain ⟨hi', rfl⟩ := List.getElem?_eq_some_iff.mp hq
    rw [set_getElem_self] at hset
    exact hset
  next => exact h

theorem paired_start (h : Paired b (p, q)) (request : ObjectId × Payload) :
    Paired b (bothStep redis key b (p, q) (.start request)) where
  same := h.same
  length := by
    change (p.tasks ++ [_]).length = (q.tasks ++ [_]).length
    rw [length_append, length_append, h.length]
    rfl
  tasks := by
    intro i f g hf hg
    have hlength : p.tasks.length = q.tasks.length := h.length
    change (p.tasks ++ [call redis ⟨request.1, normalizedPayload request.2⟩ key])[i]? = some f at hf
    change (q.tasks ++ [call redis ⟨request.1, normalizedPayload request.2⟩ key])[i]? = some g at hg
    by_cases hi : i < p.tasks.length
    · rw [getElem?_append_left hi] at hf
      rw [getElem?_append_left (hlength ▸ hi : i < q.tasks.length)] at hg
      exact h.tasks i f g hf hg
    · rw [getElem?_append_right (by omega), getElem?_singleton] at hf hg
      split at hf
      · split at hg
        · cases hf
          cases hg
          have hall := call_all redis ⟨request.1, normalizedPayload request.2⟩ key
          by_cases hcustomer : request.1 = b
          · refine .inl ⟨rfl, hall.mono (fun op hop => ?_), h.idle i (Nat.not_lt.mp hi)⟩
            rw [hop]
            exact hcustomer
          · refine .inr ⟨hall.mono (fun op hop => ?_), hall.mono (fun op hop => ?_)⟩
            · rw [hop]
              exact hcustomer
            · rw [hop]
              exact hcustomer
        · cases hg
      · cases hf
  idle := by
    intro i hi
    change (p.tasks ++ [_]).length ≤ i at hi
    rw [length_append] at hi
    exact h.idle i (Nat.le_of_add_right_le hi)

theorem paired_step (h : Paired b (p, q)) {a : Action Outcome Expiry (ObjectId × Payload)}
    (hreads : ReadsOwnCache b (p, q) a) : Paired b (bothStep redis key b (p, q) a) := by
  cases a with
  | start request => exact paired_start h request
  | outside e => exact ⟨h.same, h.length, h.tasks, h.idle⟩
  | run i outcome =>
    have hlength : p.tasks.length = q.tasks.length := h.length
    by_cases hi : i < p.tasks.length
    · obtain ⟨f, hf⟩ : ∃ f, p.tasks[i]? = some f := ⟨_, getElem?_eq_getElem hi⟩
      obtain ⟨g, hg⟩ : ∃ g, q.tasks[i]? = some g :=
        ⟨_, getElem?_eq_getElem (hlength ▸ hi : i < q.tasks.length)⟩
      have htask := h.tasks i f g hf hg
      by_cases hcall : ∃ op next, f = Prog.call op next
      · obtain ⟨op, next, rfl⟩ := hcall
        rcases htask with ⟨rfl, hall, hearlier⟩ | ⟨hall, hallq⟩
        · exact paired_run_own h hf hg hall hearlier (hreads op next hf hall.1)
        · exact paired_run_other h hf hg hall hallq
      · -- a call that has ended
        have hidle : ∀ op next, p.tasks[i]? ≠ some (.call op next) :=
          fun op next heq => hcall ⟨op, next, some.inj (hf.symm.trans heq)⟩
        have hquiet : (quietSystem redis key b).step q (.run i outcome) = q := by
          rcases htask with ⟨rfl, -, -⟩ | ⟨-, hallq⟩
          · exact step_idle _ _ (fun op next heq =>
              hcall ⟨op, next, some.inj (hg.symm.trans heq)⟩)
          · exact quiet_run_other hg hallq outcome
        unfold bothStep
        rw [step_idle _ _ hidle, hquiet]
        exact h
    · have hp : ∀ op next, p.tasks[i]? ≠ some (.call op next) := by
        intro op next heq
        rw [getElem?_eq_none (by omega)] at heq
        cases heq
      have hq : ∀ op next, q.tasks[i]? ≠ some (.call op next) := by
        intro op next heq
        rw [getElem?_eq_none (by omega)] at heq
        cases heq
      unfold bothStep
      rw [step_idle _ _ hp, step_idle _ _ hq]
      exact h

end Paired

/-- In every run in which the calls of `b` find their own entries in the cache, `b` has the
answers and the order that it has without the other customers' calls. -/
theorem key_isolated {redis : Bool} {key : String} {b : ObjectId}
    {as : List (Action Outcome Expiry (ObjectId × Payload))}
    (hreads : Guarded (bothStep redis key b) (ReadsOwnCache b) (nobodyCalled, nobodyCalled) as) :
    Along (bothStep redis key b) (fun ps => SameFor b ps.1.shared ps.2.shared)
      (nobodyCalled, nobodyCalled) as := by
  have hstart : Paired b (nobodyCalled, nobodyCalled) :=
    { same := ⟨rfl, rfl⟩
      length := rfl
      tasks := by
        intro i f g hf
        cases hf
      idle := fun _ _ => rfl }
  have hstep : ∀ ps a, Paired b ps → ReadsOwnCache b ps a → Paired b (bothStep redis key b ps a) :=
    fun _ _ h hok => paired_step h hok
  exact (along_of_guarded hstep hstart hreads).mono (fun _ h => h.same)

/-- Customer 1 places its order, the cached result expires, and customer 2 places the same order
under the same key. -/
theorem key_isolated_scarf :
    Along (bothStep true scarfKey 2) (fun ps => SameFor 2 ps.1.shared ps.2.shared)
      (nobodyCalled, nobodyCalled)
      (scarfCall :: allDone 0 10 ++ .outside .result ::
        .start (2, (scarfRequest "COD" 0).payload) :: allDone 1 10) :=
  key_isolated (by decide +kernel)

/-- Without the expiry customer 2 is answered with the order of customer 1, and has none. -/
theorem key_not_isolated :
    ¬Along (bothStep true scarfKey 2) (fun ps => SameFor 2 ps.1.shared ps.2.shared)
      (nobodyCalled, nobodyCalled)
      (scarfCall :: allDone 0 10 ++ .start (2, (scarfRequest "COD" 0).payload) :: allDone 1 10) := by
  intro h
  have hgroup := h.last.2
  revert hgroup
  decide +kernel

end DiscountBazar.Placement
