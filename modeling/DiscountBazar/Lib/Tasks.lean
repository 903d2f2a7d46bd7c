/-
Tasks that share a state and interleave.

A program asks for one atomic operation at a time and goes on with the reply; an
operation may fail, and what a program throws can be caught. A pool is a shared state
and the programs of the tasks running over it. Any task may take the next step, a task
that is never chosen again has crashed, new tasks start at any time, and the world
outside the tasks moves the shared state too.

The proof rule is rely and guarantee. A contract names an invariant of the shared state
and, for each task, what that task may rely on the others for; `Sound` is the weakest
precondition of a program under the contract, and `Contract.along` says that a pool
whose programs are sound keeps the invariant along every run.
-/
import DiscountBazar.Lib.Run

namespace Tasks

open Runs List

/-- A program over the operations `Op`: it returns, throws, or asks for an operation and
goes on with what the operation answers. -/
inductive Prog (Op : Type) (Reply : Op → Type) (ε α : Type) where
  | ret (a : α)
  | throw (e : ε)
  | call (op : Op) (next : Except ε (Reply op) → Prog Op Reply ε α)

namespace Prog

variable {Op : Type} {Reply : Op → Type} {ε α β : Type}

/-- Run `f` on what the program returns. -/
def bind : Prog Op Reply ε α → (α → Prog Op Reply ε β) → Prog Op Reply ε β
  | ret a, f => f a
  | throw e, _ => throw e
  | call op next, f => call op (fun r => (next r).bind f)

/-- Run `handler` on what the program throws. -/
def tryCatch : Prog Op Reply ε α → (ε → Prog Op Reply ε α) → Prog Op Reply ε α
  | ret a, _ => ret a
  | throw e, handler => handler e
  | call op next, handler => call op (fun r => (next r).tryCatch handler)

instance : Monad (Prog Op Reply ε) where
  pure := ret
  bind := bind

def perform (op : Op) : Prog Op Reply ε (Reply op) :=
  call op (fun r =>
    match r with
    | .ok a => ret a
    | .error e => throw e)

def discard (p : Prog Op Reply ε α) : Prog Op Reply ε Unit := p.bind (fun _ => ret ())

/-- Run a program for every item of a list, one after the other. -/
def forEach (f : α → Prog Op Reply ε Unit) : List α → Prog Op Reply ε Unit
  | [] => ret ()
  | a :: as => (f a).bind (fun _ => forEach f as)

/-- The program asks for nothing any more. -/
def isOver : Prog Op Reply ε α → Bool
  | call _ _ => false
  | _ => true

/-- Every operation the program can come to ask for is one of `P`. -/
def All (P : Op → Prop) : Prog Op Reply ε α → Prop
  | ret _ => True
  | throw _ => True
  | call op next => P op ∧ ∀ r, (next r).All P

section All

variable {P : Op → Prop}

theorem All.ret {a : α} : (pure a : Prog Op Reply ε α).All P := trivial

theorem All.throw {e : ε} : (throw e : Prog Op Reply ε α).All P := trivial

variable {p : Prog Op Reply ε α}

theorem All.mono {Q : Op → Prop} (h : ∀ op, P op → Q op) (hp : p.All P) :
    p.All Q := by
  induction p with
  | ret | throw => trivial
  | call op next ih => exact ⟨h op hp.1, fun r => ih r (hp.2 r)⟩

theorem all_of_forall (h : ∀ op, P op) (p : Prog Op Reply ε α) : p.All P := by
  induction p with
  | ret | throw => trivial
  | call op next ih => exact ⟨h op, ih⟩

theorem All.perform {op : Op} (h : P op) : (perform op : Prog Op Reply ε (Reply op)).All P := by
  refine ⟨h, fun r => ?_⟩
  cases r with
  | ok | error => trivial

theorem All.bind {f : α → Prog Op Reply ε β} (hp : p.All P) (hf : ∀ a, (f a).All P) :
    (p >>= f).All P := by
  induction p with
  | ret a => exact hf a
  | throw e => trivial
  | call op next ih => exact ⟨hp.1, fun r => ih r (hp.2 r)⟩

theorem All.tryCatch {handler : ε → Prog Op Reply ε α} (hp : p.All P) (hh : ∀ e, (handler e).All P)
    : (p.tryCatch handler).All P := by
  induction p with
  | ret a => trivial
  | throw e => exact hh e
  | call op next ih => exact ⟨hp.1, fun r => ih r (hp.2 r)⟩

theorem All.discard (hp : p.All P) : p.discard.All P :=
  hp.bind (fun _ => All.ret)

theorem All.ite {c : Prop} [Decidable c] {p q : Prog Op Reply ε α} (hp : p.All P) (hq : q.All P) :
    (if c then p else q).All P := by
  split
  · exact hp
  · exact hq

/-- A branch, where the condition says what its operations are. -/
theorem All.ite_of {c : Prop} [Decidable c] {p q : Prog Op Reply ε α} (hp : c → p.All P)
    (hq : ¬ c → q.All P) : (if c then p else q).All P := by
  split
  next hc => exact hp hc
  next hc => exact hq hc

end All

/-! ### One program alone -/

section Run

variable {σ : Type} (perform : (op : Op) → σ → Except ε (Reply op) × σ)

/-- Run the program on its own: what it returns or throws, and the state it leaves. -/
def run : Prog Op Reply ε α → σ → Except ε α × σ
  | ret a, s => (.ok a, s)
  | throw e, s => (.error e, s)
  | call op next, s => (next (perform op s).1).run (perform op s).2

variable {perform}

@[simp] theorem run_pure (a : α) (s : σ) :
    (pure a : Prog Op Reply ε α).run perform s = (.ok a, s) := rfl

/-- A program that goes on throws what its first part throws, and leaves its state. -/
theorem run_bind (p : Prog Op Reply ε α) (f : α → Prog Op Reply ε β) (s : σ) :
    (p >>= f).run perform s
      = match p.run perform s with
        | (.ok a, s') => (f a).run perform s'
        | (.error e, s') => (.error e, s') := by
  induction p generalizing s with
  | ret | throw => rfl
  | call op next ih => exact ih (perform op s).1 (perform op s).2

variable {p : Prog Op Reply ε α} {f : α → Prog Op Reply ε β}

theorem run_bind_ok {a : α} {s s' : σ} (h : p.run perform s = (.ok a, s')) :
    (p >>= f).run perform s = (f a).run perform s' := by
  rw [run_bind, h]

/-- A program that goes on returns where both parts of it do. -/
theorem run_bind_eq_ok {b : β} {s s'' : σ} :
    (p >>= f).run perform s = (.ok b, s'') ↔
      ∃ a s', p.run perform s = (.ok a, s') ∧ (f a).run perform s' = (.ok b, s'') := by
  rw [run_bind]
  rcases p.run perform s with ⟨e | a, s'⟩
  · refine ⟨fun h => (nomatch h), ?_⟩
    rintro ⟨a, s1, h, -⟩
    cases h
  · refine ⟨fun h => ⟨a, s', rfl, h⟩, ?_⟩
    rintro ⟨a', s1, h, h'⟩
    cases h
    exact h'

/-- What a program returns is not caught. -/
theorem run_tryCatch_ok {handler : ε → Prog Op Reply ε α} {a : α} {s s' : σ}
    (h : p.run perform s = (.ok a, s')) : (p.tryCatch handler).run perform s = (.ok a, s') := by
  induction p generalizing s with
  | ret b => exact h
  | throw e => cases h
  | call op next ih => exact ih (perform op s).1 h

@[simp] theorem run_perform (op : Op) (s : σ) :
    (Prog.perform op : Prog Op Reply ε (Reply op)).run perform s = perform op s := by
  unfold Prog.perform run
  cases h : (perform op s).1 with
  | ok | error => exact Prod.ext h.symm rfl

end Run

end Prog

/-- What programs run against. The natural number is the task that asks, `χ` is what the
operation's outcome depends on besides the state, `η` are the events outside the tasks
and `κ` the programs a task can start with. `none` says that this cannot happen. -/
structure System (Op : Type) (Reply : Op → Type) (ε σ χ η κ : Type) where
  perform : ℕ → (op : Op) → χ → σ → Option (Except ε (Reply op) × σ)
  outside : η → σ → Option σ
  entry : κ → Prog Op Reply ε Unit
  mayStart : σ → κ → Bool

/-- The shared state and the programs the tasks have still to run; a task is its index. -/
structure Pool (Op : Type) (Reply : Op → Type) (ε σ : Type) where
  shared : σ
  tasks : List (Prog Op Reply ε Unit)

inductive Action (χ η κ : Type) where
  | run (task : ℕ) (choice : χ)
  | outside (event : η)
  | start (program : κ)
  deriving DecidableEq

variable {Op : Type} {Reply : Op → Type} {ε σ χ η κ α β : Type}

/-- One action; one that cannot happen leaves the pool as it is. -/
def System.step (S : System Op Reply ε σ χ η κ) (p : Pool Op Reply ε σ) :
    Action χ η κ → Pool Op Reply ε σ
  | .run i c =>
    match p.tasks[i]? with
    | some (.call op next) =>
      match S.perform i op c p.shared with
      | some (r, s) => { shared := s, tasks := p.tasks.set i (next r) }
      | none => p
    | _ => p
  | .outside e =>
    match S.outside e p.shared with
    | some s => { p with shared := s }
    | none => p
  | .start k =>
    if S.mayStart p.shared k then { p with tasks := p.tasks ++ [S.entry k] } else p

variable {p : Pool Op Reply ε σ}

/-- The step of a task that asks for an operation. -/
theorem System.step_call (S : System Op Reply ε σ χ η κ) {i : ℕ} {op : Op}
    {next : Except ε (Reply op) → Prog Op Reply ε Unit} (c : χ)
    (h : p.tasks[i]? = some (.call op next)) :
    S.step p (.run i c)
      = match S.perform i op c p.shared with
        | some (r, s) => { shared := s, tasks := p.tasks.set i (next r) }
        | none => p := by
  unfold step
  dsimp only
  rw [h]

/-- A task that asks for nothing does not move. -/
theorem System.step_idle (S : System Op Reply ε σ χ η κ) {i : ℕ} (c : χ)
    (h : ∀ op next, p.tasks[i]? ≠ some (.call op next)) : S.step p (.run i c) = p := by
  unfold step
  dsimp only
  split
  next op next htask => exact absurd htask (h op next)
  next => rfl

variable {S : System Op Reply ε σ χ η κ}

/-- What every operation and every event keeps of the shared state, a step keeps, whatever the
programs are. -/
theorem System.step_keeps {I : σ → Prop}
    (hperform : ∀ i op c s r s', I s → S.perform i op c s = some (r, s') → I s')
    (houtside : ∀ e s s', I s → S.outside e s = some s' → I s') (p : Pool Op Reply ε σ)
    (a : Action χ η κ) (hp : I p.shared) : I (S.step p a).shared := by
  cases a with
  | run i c =>
    unfold step
    dsimp only
    split
    next op next htask =>
      split
      next r s hstep => exact hperform i op c p.shared r s hp hstep
      next => exact hp
    next => exact hp
  | outside e =>
    unfold step
    dsimp only
    split
    next s hout => exact houtside e p.shared s hp hout
    next => exact hp
  | start k =>
    unfold step
    dsimp only
    split
    · exact hp
    · exact hp

/-- Every operation that a task can still come to ask for is one of `P`. -/
def Pool.All (P : Op → Prop) (p : Pool Op Reply ε σ) : Prop := ∀ task ∈ p.tasks, task.All P

def Pool.Quiet (p : Pool Op Reply ε σ) : Prop := ∀ task ∈ p.tasks, task.isOver = true

instance (p : Pool Op Reply ε σ) : Decidable p.Quiet :=
  inferInstanceAs (Decidable (∀ task ∈ p.tasks, task.isOver = true))

variable {P : Op → Prop}

theorem Pool.all_nil {s : σ} : Pool.All P (⟨s, []⟩ : Pool Op Reply ε σ) :=
  fun _ h => nomatch h

/-- If the programs ask for operations of `P` only, the tasks do. -/
theorem System.step_all (hentry : ∀ k, (S.entry k).All P) (a : Action χ η κ) (hp : p.All P) :
    (S.step p a).All P := by
  cases a with
  | run i c =>
    unfold step
    dsimp only
    split
    next op next htask =>
      split
      next r s hstep =>
        intro task hmem
        rcases mem_or_eq_of_mem_set hmem with hmem | rfl
        · exact hp task hmem
        · exact (hp _ (mem_of_getElem? htask)).2 r
      next => exact hp
    next => exact hp
  | outside e =>
    unfold step
    dsimp only
    split
    · exact hp
    · exact hp
  | start k =>
    unfold step
    dsimp only
    split
    · intro task hmem
      rcases mem_append.mp hmem with hmem | hmem
      · exact hp task hmem
      · cases mem_singleton.mp hmem
        exact hentry k
    · exact hp

/-- A condition on the operations of a run, in the states they are asked for in. -/
def OnOps (ok : ℕ → Op → χ → σ → Prop) (p : Pool Op Reply ε σ) : Action χ η κ → Prop
  | .run i c => ∀ op next, p.tasks[i]? = some (.call op next) → ok i op c p.shared
  | _ => True

/-- A condition on the events outside the tasks. -/
def OnEvents (ok : η → σ → Prop) (p : Pool Op Reply ε σ) : Action χ η κ → Prop
  | .outside e => ok e p.shared
  | _ => True

variable {ok : ℕ → Op → χ → σ → Prop}

/-- What the operations of `P` that meet a condition relate, and every event, a step of tasks
that ask for no others relates. -/
theorem System.step_relates {R : σ → σ → Prop} {a : Action χ η κ} (hp : p.All P)
    (hok : OnOps ok p a) (hrefl : R p.shared p.shared)
    (hperform : ∀ i op c r s', P op → ok i op c p.shared → S.perform i op c p.shared = some (r, s') →
      R p.shared s') (houtside : ∀ e s', S.outside e p.shared = some s' → R p.shared s') :
    R p.shared (S.step p a).shared := by
  cases a with
  | run i c =>
    unfold step
    dsimp only
    split
    next op next htask =>
      split
      next r s hstep =>
        exact hperform i op c r s (hp _ (mem_of_getElem? htask)).1 (hok op next htask) hstep
      next => exact hrefl
    next => exact hrefl
  | outside e =>
    unfold step
    dsimp only
    split
    next s hout => exact houtside e s hout
    next => exact hrefl
  | start k =>
    unfold step
    dsimp only
    split
    · exact hrefl
    · exact hrefl

/-- Where operations always go through, and what one relates is exactly what meets a condition, so
it is for the steps of a task. -/
theorem System.step_run_iff {R : σ → σ → Prop} {i : ℕ} {c : χ} (hrefl : R p.shared p.shared)
    (h : ∀ op, ∃ r s', S.perform i op c p.shared = some (r, s') ∧
      (R p.shared s' ↔ ok i op c p.shared)) :
    R p.shared (S.step p (.run i c)).shared ↔ OnOps (χ := χ) (η := η) (κ := κ) ok p (.run i c) := by
  by_cases htask : ∃ op next, p.tasks[i]? = some (.call op next)
  · obtain ⟨op, next, htask⟩ := htask
    obtain ⟨r, s', hperform, hiff⟩ := h op
    rw [S.step_call c htask, hperform]
    constructor
    · intro hrel op' next' htask'
      cases htask.symm.trans htask'
      exact hiff.mp hrel
    · intro hok
      exact hiff.mpr (hok op next htask)
  · have hidle : ∀ op next, p.tasks[i]? ≠ some (.call op next) :=
      fun op next hcall => htask ⟨op, next, hcall⟩
    rw [S.step_idle c hidle]
    exact iff_of_true hrefl fun op next hcall => absurd hcall (hidle op next)

/-- Where what holds of the shared state is kept by an operation exactly when it meets a condition, it
holds along a run exactly when every operation of the run meets it. -/
theorem System.along_iff_onOps {P : σ → Prop}
    (hperform : ∀ i op c s, P s → ∃ r s', S.perform i op c s = some (r, s') ∧ (P s' ↔ ok i op c s))
    (houtside : ∀ e s s', P s → S.outside e s = some s' → P s') (hp : P p.shared)
    (as : List (Action χ η κ)) :
    Along S.step (fun p => P p.shared) p as ↔ Guarded S.step (OnOps ok) p as := by
  have hstep : ∀ (q : Pool Op Reply ε σ) (a : Action χ η κ), True → P q.shared →
      (P (S.step q a).shared ↔ OnOps ok q a) := by
    intro q a _ hq
    cases a with
    | run i c =>
      exact step_run_iff (R := fun _ s' => P s') hq
        (fun op => hperform i op c q.shared hq)
    | outside e =>
      refine iff_of_true ?_ trivial
      unfold step
      dsimp only
      split
      next s hout => exact houtside e q.shared s hq hout
      next => exact hq
    | start k =>
      refine iff_of_true ?_ trivial
      unfold step
      dsimp only
      split
      · exact hq
      · exact hq
  exact along_iff_guarded (I := fun _ => True) (P := fun q : Pool Op Reply ε σ => P q.shared)
    (fun _ _ _ _ _ => trivial) hstep trivial hp as

theorem OnOps.and {ok ok' : ℕ → Op → χ → σ → Prop} {a : Action χ η κ} (h : OnOps ok p a)
    (h' : OnOps ok' p a) :
    OnOps (fun i op c s => ok i op c s ∧ ok' i op c s) p a := by
  cases a with
  | run i c => exact fun op next htask => ⟨h op next htask, h' op next htask⟩
  | outside | start => trivial

instance {ok : ℕ → Op → χ → σ → Prop} [∀ i op c s, Decidable (ok i op c s)]
    (p : Pool Op Reply ε σ) : (a : Action χ η κ) → Decidable (OnOps ok p a)
  | .run i c =>
    match h : p.tasks[i]? with
    | some (.call op next) =>
      decidable_of_iff (ok i op c p.shared)
        ⟨fun hok _ _ h' => by cases h.symm.trans h'; exact hok, fun hok => hok op next h⟩
    | some (.ret _) => isTrue (fun _ _ h' => by cases h.symm.trans h')
    | some (.throw _) => isTrue (fun _ _ h' => by cases h.symm.trans h')
    | none => isTrue (fun _ _ h' => by cases h.symm.trans h')
  | .outside _ => isTrue trivial
  | .start _ => isTrue trivial

instance {ok : η → σ → Prop} [∀ e s, Decidable (ok e s)] (p : Pool Op Reply ε σ) :
    (a : Action χ η κ) → Decidable (OnEvents ok p a)
  | .outside e => inferInstanceAs (Decidable (ok e p.shared))
  | .run _ _ => isTrue trivial
  | .start _ => isTrue trivial

/-! ## Calls that fail -/

/-- How a call goes: it is done, it fails before its effect, or its effect is there and its
answer is lost. -/
inductive Outcome (ε : Type) where
  | done
  | refused (e : ε)
  | lost (e : ε)
  deriving DecidableEq

def Outcome.takesEffect : Outcome ε → Bool
  | .refused _ => false
  | _ => true

/-- The call has its effect, and its answer does not come. -/
def Outcome.isLost : Outcome ε → Bool
  | .lost _ => true
  | _ => false

/-- A call with this effect, as it goes. -/
def Outcome.perform {ρ : Type} (effect : Except ε ρ × σ) (s : σ) :
    Outcome ε → Except ε ρ × σ
  | .done => effect
  | .refused e => (.error e, s)
  | .lost e => (.error e, effect.2)

variable {o : Outcome ε}

/-- A call that is refused changes nothing; one that is not leaves its effect, whatever it
answers. -/
theorem Outcome.perform_eq {ρ : Type} {effect : Except ε ρ × σ} {s s' : σ} {r : Except ε ρ}
    (h : o.perform effect s = (r, s')) :
    ((∃ e, r = .error e) ∧ s' = s) ∨
      (o.takesEffect = true ∧ s' = effect.2 ∧ (r = effect.1 ∨ ∃ e, r = .error e)) := by
  cases o with
  | done =>
    cases h
    exact .inr ⟨rfl, rfl, .inl rfl⟩
  | refused e =>
    cases h
    exact .inl ⟨⟨e, rfl⟩, rfl⟩
  | lost e =>
    cases h
    exact .inr ⟨rfl, rfl, .inr ⟨e, rfl⟩⟩

theorem Outcome.perform_takesEffect {ρ : Type} {effect : Except ε ρ × σ} {s : σ}
    (h : o.takesEffect = true) : (o.perform effect s).2 = effect.2 := by
  cases o with
  | done | lost => rfl
  | refused e => cases h

/-- Where a call's effect keeps what holds exactly on a condition, a call that may be refused does so
exactly where the condition is met or the call was refused. -/
theorem Outcome.perform_iff {ρ : Type} {effect : Except ε ρ × σ} {s : σ} {P : σ → Prop} {ok : Prop}
    (hs : P s) (h : o.takesEffect = true → (P effect.2 ↔ ok)) :
    P (o.perform effect s).2 ↔ (o.takesEffect = true → ok) := by
  cases o with
  | done | lost => exact (h rfl).trans (by simp [takesEffect])
  | refused e => exact iff_of_true hs (fun htakes => by cases htakes)

/-- An invariant, what each task relies on, what holds for a task that has not started,
and the operations and events the contract is about. -/
structure Contract (S : System Op Reply ε σ χ η κ) where
  inv : σ → Prop
  rely : ℕ → σ → σ → Prop
  idle : ℕ → σ → Prop := fun _ _ => True
  may : ℕ → Op → χ → σ → Prop := fun _ _ _ _ => True
  mayOutside : η → σ → Prop := fun _ _ => True

namespace Contract

variable {S : System Op Reply ε σ χ η κ} (K : Contract S)

/-- From `s`, whatever the others do, every operation of the program keeps the invariant
and what the other tasks rely on; what it returns meets `Q`, what it throws meets `E`. -/
def Sound (i : ℕ) (Q : α → σ → Prop) (E : ε → σ → Prop) : Prog Op Reply ε α → σ → Prop
  | .ret a, s => Q a s
  | .throw e, s => E e s
  | .call op next, s =>
    ∀ s', K.rely i s s' → K.inv s' → ∀ c, K.may i op c s' → ∀ r s'',
      S.perform i op c s' = some (r, s'') →
        K.inv s'' ∧ (∀ j, j ≠ i → K.rely j s' s'') ∧ Sound i Q E (next r) s''

/-- The program leaves `I`, whatever it returns or throws. -/
abbrev Leaving (i : ℕ) (I : σ → Prop) (p : Prog Op Reply ε α) (s : σ) : Prop :=
  K.Sound i (fun _ => I) (fun _ => I) p s

/-- The program keeps the contract, whatever it returns or throws. -/
abbrev Keeps (i : ℕ) (p : Prog Op Reply ε α) (s : σ) : Prop :=
  K.Sound i (fun _ _ => True) (fun _ _ => True) p s

variable {K} {i : ℕ} {Q : α → σ → Prop} {E : ε → σ → Prop}

/-! ## Rules for programs -/

variable {s : σ}

theorem Sound.ret {a : α} (h : Q a s) : K.Sound i Q E (pure a) s := h

theorem Sound.throw {e : ε} (h : E e s) :
    K.Sound i Q E (Prog.throw e : Prog Op Reply ε α) s := h

variable {p : Prog Op Reply ε α}

theorem Sound.ite {c : Prop} [Decidable c] {q : Prog Op Reply ε α} (hp : c → K.Sound i Q E p s)
    (hq : ¬ c → K.Sound i Q E q s) :
    K.Sound i Q E (if c then p else q) s := by
  split
  next hc => exact hp hc
  next hc => exact hq hc

/-- A check that throws. -/
theorem Sound.ite_throw {c : Prop} [Decidable c] {e : ε} {q : Prog Op Reply ε α}
    (hq : ¬ c → K.Sound i Q (fun _ _ => True) q s) :
    K.Sound i Q (fun _ _ => True) (if c then Prog.throw e else q) s :=
  Sound.ite (fun _ => trivial) hq

/-- Weaker postconditions. -/
theorem Sound.mono {Q' : α → σ → Prop} {E' : ε → σ → Prop} (h : K.Sound i Q E p s)
    (hQ : ∀ a s, Q a s → Q' a s) (hE : ∀ e s, E e s → E' e s) :
    K.Sound i Q' E' p s := by
  induction p generalizing s with
  | ret a => exact hQ a s h
  | throw e => exact hE e s h
  | call op next ih =>
    intro s' hrely hinv c hmay r s'' hstep
    obtain ⟨hinv'', hother, hnext⟩ := h s' hrely hinv c hmay r s'' hstep
    exact ⟨hinv'', hother, ih r hnext⟩

theorem Sound.bind {p : Prog Op Reply ε β} {f : β → Prog Op Reply ε α} {R : β → σ → Prop}
    (hp : K.Sound i R E p s) (hf : ∀ b s, R b s → K.Sound i Q E (f b) s) :
    K.Sound i Q E (p >>= f) s := by
  induction p generalizing s with
  | ret b => exact hf b s hp
  | throw e => exact hp
  | call op next ih =>
    intro s' hrely hinv c hmay r s'' hstep
    obtain ⟨hinv'', hother, hnext⟩ := hp s' hrely hinv c hmay r s'' hstep
    exact ⟨hinv'', hother, ih r hnext⟩

theorem Sound.tryCatch {handler : ε → Prog Op Reply ε α} {D : ε → σ → Prop} (hp : K.Sound i Q D p s)
    (hh : ∀ e s, D e s → K.Sound i Q E (handler e) s) :
    K.Sound i Q E (p.tryCatch handler) s := by
  induction p generalizing s with
  | ret a => exact hp
  | throw e => exact hh e s hp
  | call op next ih =>
    intro s' hrely hinv c hmay r s'' hstep
    obtain ⟨hinv'', hother, hnext⟩ := hp s' hrely hinv c hmay r s'' hstep
    exact ⟨hinv'', hother, ih r hnext⟩

/-- A loop, by what holds with the items that are still to come. -/
theorem Sound.forEach {f : β → Prog Op Reply ε Unit} {I : List β → σ → Prop}
    (hf : ∀ b bs s, I (b :: bs) s → K.Sound i (fun _ => I bs) E (f b) s) (bs : List β) (h : I bs s)
    : K.Sound i (fun _ => I []) E (Prog.forEach f bs) s := by
  induction bs generalizing s with
  | nil => exact h
  | cons b bs ih => exact Sound.bind (hf b bs s h) (fun _ _ hs => ih hs)

theorem Sound.discard (h : K.Keeps i p s) :
    K.Keeps i p.discard s :=
  Sound.bind h (fun _ _ _ => trivial)

/-- One operation: it keeps the invariant and the others' reliance, and each of its two
outcomes meets its postcondition. -/
theorem Sound.perform {op : Op} {Q : Reply op → σ → Prop}
    (h : ∀ s', K.rely i s s' → K.inv s' → ∀ c, K.may i op c s' → ∀ r s'',
      S.perform i op c s' = some (r, s'') →
        K.inv s'' ∧ (∀ j, j ≠ i → K.rely j s' s'') ∧
          (∀ a, r = .ok a → Q a s'') ∧ (∀ e, r = .error e → E e s'')) :
    K.Sound i Q E (Prog.perform op) s := by
  intro s' hrely hinv c hmay r s'' hstep
  obtain ⟨hinv'', hother, hok, herr⟩ := h s' hrely hinv c hmay r s'' hstep
  refine ⟨hinv'', hother, ?_⟩
  cases r with
  | ok a => exact hok a rfl
  | error e => exact herr e rfl

/-- One operation that may be refused, or lose its answer, with the effect it has where it is done. -/
theorem Sound.perform_outcome {op : Op} {o : χ → Outcome ε} {f : χ → σ → Except ε (Reply op) × σ}
    {Q : Reply op → σ → Prop} (hS : ∀ c s, S.perform i op c s = some ((o c).perform (f c s) s))
    (hrefl : ∀ j s, K.rely j s s)
    (hkeeps : ∀ c s', K.rely i s s' → K.inv s' → K.may i op c s' → (o c).takesEffect = true →
      K.inv (f c s').2 ∧ ∀ j, j ≠ i → K.rely j s' (f c s').2)
    (hok : ∀ c s' a, K.rely i s s' → K.inv s' → K.may i op c s' → o c = .done →
      (f c s').1 = .ok a → Q a (f c s').2)
    (herror : ∀ c s' e, K.rely i s s' → K.inv s' → K.may i op c s' → o c = .done →
      (f c s').1 = .error e → E e (f c s').2)
    (hrefused : ∀ c s' e, K.rely i s s' → K.inv s' → K.may i op c s' → o c = .refused e → E e s')
    (hlost : ∀ c s' e, K.rely i s s' → K.inv s' → K.may i op c s' → o c = .lost e →
      E e (f c s').2) :
    K.Sound i Q E (Prog.perform op) s := by
  refine Sound.perform (fun s' hrely hinv c hmay r s'' hstep => ?_)
  rw [hS] at hstep
  cases hout : o c with
  | done =>
    rw [hout] at hstep
    obtain ⟨hinv', hothers⟩ := hkeeps c s' hrely hinv hmay (by rw [hout]; rfl)
    have heffect : f c s' = (r, s'') := Option.some.inj hstep
    rw [heffect] at hinv' hothers
    refine ⟨hinv', hothers, fun a ha => ?_, fun e he => ?_⟩
    · have hQ := hok c s' a hrely hinv hmay hout ((congrArg Prod.fst heffect).trans ha)
      rw [heffect] at hQ
      exact hQ
    · have hE := herror c s' e hrely hinv hmay hout ((congrArg Prod.fst heffect).trans he)
      rw [heffect] at hE
      exact hE
  | refused e =>
    rw [hout] at hstep
    cases hstep
    refine ⟨hinv, fun j _ => hrefl j s', fun a ha => (by cases ha), fun e' he => ?_⟩
    cases he
    exact hrefused c s' e hrely hinv hmay hout
  | lost e =>
    rw [hout] at hstep
    cases hstep
    obtain ⟨hinv', hothers⟩ := hkeeps c s' hrely hinv hmay (by rw [hout]; rfl)
    refine ⟨hinv', hothers, fun a ha => (by cases ha), fun e' he => ?_⟩
    cases he
    exact hlost c s' e hrely hinv hmay hout

/-- What no step of any task or of the world outside can undo is still known at the end. -/
theorem Sound.frame {F : σ → Prop} (hF : ∀ j s s', K.rely j s s' → F s → F s')
    {p : Prog Op Reply ε α} {s : σ} (hp : K.Sound i Q E p s) (hs : F s) :
    K.Sound i (fun a s => Q a s ∧ F s) (fun e s => E e s ∧ F s) p s := by
  induction p generalizing s with
  | ret | throw => exact ⟨hp, hs⟩
  | call op next ih =>
    intro s' hrely hinv c hmay r s'' hstep
    obtain ⟨hinv'', hother, hnext⟩ := hp s' hrely hinv c hmay r s'' hstep
    -- the task's own step is one that the task after it relies on
    have hown : F s'' := hF (i + 1) s' s'' (hother (i + 1) (by omega)) (hF i s s' hrely hs)
    exact ⟨hinv'', hother, ih r hnext hown⟩

/-- A program of operations that keep the contract, and what the task knows, wherever both
hold. -/
theorem sound_of_all {P : Op → Prop} {I : σ → Prop} (hstable : ∀ s s', K.rely i s s' → I s → I s')
    (h : ∀ op, P op → ∀ s, K.inv s → I s → ∀ c, K.may i op c s → ∀ r s',
      S.perform i op c s = some (r, s') → K.inv s' ∧ (∀ j, j ≠ i → K.rely j s s') ∧ I s')
    (hp : p.All P) (hs : I s) :
    K.Sound i (fun _ => I) (fun _ => I) p s := by
  induction p generalizing s with
  | ret | throw => exact hs
  | call op next ih =>
    intro s' hrely hinv c hmay r s'' hstep
    obtain ⟨hinv'', hother, hI⟩ := h op hp.1 s' hinv (hstable s s' hrely hs) c hmay r s'' hstep
    exact ⟨hinv'', hother, ih r (hp.2 r) hI⟩

/-- A program each of whose operations is sound wherever it stands. -/
theorem sound_of_perform {P : Op → Prop} (h : ∀ op, P op → ∀ s, K.Keeps i (Prog.perform op) s)
    (hp : p.All P) (s : σ) :
    K.Keeps i p s := by
  induction p generalizing s with
  | ret | throw => trivial
  | call op next ih =>
    intro s' hrely hinv c hmay r s'' hstep
    obtain ⟨hinv'', hother, -⟩ := h op hp.1 s s' hrely hinv c hmay r s'' hstep
    exact ⟨hinv'', hother, ih r (hp.2 r) s''⟩

/-! ## From programs to runs -/

def Meets (K : Contract S) (p : Pool Op Reply ε σ) : Action χ η κ → Prop
  | .run i c => ∀ op next, p.tasks[i]? = some (.call op next) → K.may i op c p.shared
  | .outside e => K.mayOutside e p.shared
  | .start _ => True

variable {p : Pool Op Reply ε σ} {as : List (Action χ η κ)}

theorem guarded_meets (hout : Guarded S.step (OnEvents K.mayOutside) p as)
    (hops : Guarded S.step (OnOps K.may) p as) : Guarded S.step K.Meets p as := by
  refine (hout.and hops).mono (fun p a h => ?_)
  cases a with
  | run i c => exact h.2
  | outside e => exact h.1
  | start k => trivial

/-- The pool is in the hands of the contract: its state has the invariant and every task
of it is sound. -/
structure Holds (K : Contract S) (p : Pool Op Reply ε σ) : Prop where
  inv : K.inv p.shared
  sound : ∀ i t, p.tasks[i]? = some t →
    K.Sound i (fun _ _ => True) (fun _ _ => True) t p.shared
  idle : ∀ i, p.tasks.length ≤ i → K.idle i p.shared

/-- What the contract asks of the system besides its programs. -/
structure Lawful (K : Contract S) : Prop where
  refl : ∀ i s, K.rely i s s
  trans : ∀ i s s' s'', K.rely i s s' → K.rely i s' s'' → K.rely i s s''
  idle : ∀ i s s', K.rely i s s' → K.idle i s → K.idle i s'
  outside : ∀ e s s', K.inv s → K.mayOutside e s → S.outside e s = some s' →
    K.inv s' ∧ ∀ i, K.rely i s s'
  entry : ∀ k i s, K.inv s → K.idle i s → S.mayStart s k = true →
    K.Sound i (fun _ _ => True) (fun _ _ => True) (S.entry k) s

/-- A sound task stays sound while the others move as it relies on them to, if what it is to leave
does. -/
theorem Sound.relied (hK : K.Lawful) (hQ : ∀ a s s', K.rely i s s' → Q a s → Q a s')
    (hE : ∀ e s s', K.rely i s s' → E e s → E e s') {p : Prog Op Reply ε α} {s s' : σ}
    (hp : K.Sound i Q E p s) (hs : K.rely i s s') : K.Sound i Q E p s' := by
  cases p with
  | ret a => exact hQ a s s' hs hp
  | throw e => exact hE e s s' hs hp
  | call op next =>
    intro t hrely hinv
    exact hp t (hK.trans i s s' t hs hrely) hinv

/-- The pool is in the hands of the contract, and every task leaves `post` of itself. -/
structure Ends (K : Contract S) (post : ℕ → σ → Prop) (p : Pool Op Reply ε σ) : Prop where
  inv : K.inv p.shared
  sound : ∀ i t, p.tasks[i]? = some t →
    K.Sound i (fun _ => post i) (fun _ => post i) t p.shared
  idle : ∀ i, p.tasks.length ≤ i → K.idle i p.shared

/-- What every program leaves, whatever it returns or throws, and the others do not undo. -/
structure Leaves (K : Contract S) (post : ℕ → σ → Prop) : Prop where
  stable : ∀ i s s', K.rely i s s' → post i s → post i s'
  entry : ∀ k i s, K.inv s → K.idle i s → S.mayStart s k = true →
    K.Sound i (fun _ => post i) (fun _ => post i) (S.entry k) s

variable {post : ℕ → σ → Prop}

variable {a : Action χ η κ}

/-- One action keeps the pool in the hands of the contract, with what its tasks leave. -/
theorem Lawful.step_ends (hK : K.Lawful) (hpost : K.Leaves post) (hp : K.Ends post p)
    (ha : K.Meets p a) : K.Ends post (S.step p a) := by
  have hrelied : ∀ j t s s', K.Sound j (fun _ => post j) (fun _ => post j) t s → K.rely j s s' →
      K.Sound j (fun _ => post j) (fun _ => post j) (t : Prog Op Reply ε Unit) s' :=
    fun j _ _ _ ht hs =>
      ht.relied hK (fun _ => hpost.stable j) (fun _ => hpost.stable j) hs
  cases a with
  | run i c =>
    unfold System.step
    dsimp only
    split
    next op next htask =>
      split
      next r s hstep =>
        obtain ⟨hinv, hother, hnext⟩ :=
          hp.sound i _ htask p.shared (hK.refl i p.shared) hp.inv c (ha op next htask) r s hstep
        refine ⟨hinv, ?_, ?_⟩
        · -- the task itself goes on; every other one relied on this step
          intro j t hj
          rw [getElem?_set] at hj
          by_cases hij : i = j
          · subst hij
            rw [if_pos rfl] at hj
            split at hj
            · cases hj
              exact hnext
            · cases hj
          · rw [if_neg hij] at hj
            exact hrelied j t _ _ (hp.sound j t hj) (hother j (Ne.symm hij))
        · intro j hj
          rw [length_set] at hj
          have hi : i < p.tasks.length := (List.getElem?_eq_some_iff.mp htask).1
          exact hK.idle j _ _ (hother j (by omega)) (hp.idle j hj)
      next => exact hp
    next => exact hp
  | outside e =>
    unfold System.step
    dsimp only
    split
    next s hout =>
      obtain ⟨hinv, hrely⟩ := hK.outside e p.shared s hp.inv ha hout
      exact ⟨hinv, fun j t hj => hrelied j t _ _ (hp.sound j t hj) (hrely j),
        fun j hj => hK.idle j _ _ (hrely j) (hp.idle j hj)⟩
    next => exact hp
  | start k =>
    unfold System.step
    dsimp only
    by_cases hk : S.mayStart p.shared k = true
    · rw [if_pos hk]
      refine ⟨hp.inv, ?_, ?_⟩
      · intro j t hj
        dsimp only at hj ⊢
        by_cases hlt : j < p.tasks.length
        · rw [getElem?_append_left hlt] at hj
          exact hp.sound j t hj
        · rw [getElem?_append_right (by omega), getElem?_singleton] at hj
          split at hj
          · cases hj
            exact hpost.entry k j p.shared hp.inv (hp.idle j (by omega)) hk
          · cases hj
      · intro j hj
        rw [length_append] at hj
        exact hp.idle j (by omega)
    · rw [if_neg hk]
      exact hp

/-- One action keeps the pool in the hands of the contract. -/
theorem Lawful.step (hK : K.Lawful) (hp : K.Holds p) (ha : K.Meets p a) : K.Holds (S.step p a) := by
  have hleaves : K.Leaves (fun _ _ => True) := ⟨fun _ _ _ _ => id, hK.entry⟩
  have hends := hK.step_ends hleaves ⟨hp.inv, hp.sound, hp.idle⟩ ha
  exact ⟨hends.inv, hends.sound, hends.idle⟩

/-- A task that is over has left what its program leaves. -/
theorem Ends.post_of_isOver (hp : K.Ends post p) {i : ℕ} {t : Prog Op Reply ε Unit}
    (htask : p.tasks[i]? = some t) (hover : t.isOver = true) :
    post i p.shared := by
  have hsound := hp.sound i t htask
  cases t with
  | ret | throw => exact hsound
  | call op next => cases hover

/-- A pool in the hands of a contract stays there along every run the contract is about. -/
theorem Lawful.along (hK : K.Lawful) (hp : K.Holds p) (has : Guarded S.step K.Meets p as) :
    Along S.step K.Holds p as :=
  along_of_guarded (fun _ _ h hm => hK.step h hm) hp has

variable {ok : ℕ → Op → χ → σ → Prop}

/-- Where the contract's invariant holds around a step, an operation or an event keeps `P` exactly
when it meets a condition; then `P` holds along a run the contract is about exactly when every step
meets its condition. -/
theorem Lawful.along_iff (hK : K.Lawful) {P : σ → Prop} {okOutside : η → σ → Prop}
    (hperform : ∀ i op c s, K.inv s → P s → K.may i op c s →
      ∃ r s', S.perform i op c s = some (r, s') ∧ (K.inv s' → (P s' ↔ ok i op c s)))
    (houtside : ∀ e s s', K.inv s → K.mayOutside e s → P s → S.outside e s = some s' → K.inv s' →
      (P s' ↔ okOutside e s)) (hnone : ∀ e s, S.outside e s = none → okOutside e s) (hp : K.Holds p)
    (hP : P p.shared) (has : Guarded S.step K.Meets p as) :
    Along S.step (fun p => P p.shared) p as
      ↔ Guarded S.step (fun p a => OnOps ok p a ∧ OnEvents okOutside p a) p as := by
  have hstep : ∀ (q : Pool Op Reply ε σ) (a : Action χ η κ), K.Holds q → K.Meets q a → P q.shared →
      (P (S.step q a).shared ↔ OnOps ok q a ∧ OnEvents okOutside q a) := by
    intro q a hq ha hP
    have hnext := (hK.step hq ha).inv
    cases a with
    | run i c =>
      rw [and_iff_left (show OnEvents okOutside q (.run i c) from trivial)]
      by_cases htask : ∃ op next, q.tasks[i]? = some (.call op next)
      · obtain ⟨op, next, htask⟩ := htask
        obtain ⟨r, s', heq, hiff⟩ := hperform i op c q.shared hq.inv hP (ha op next htask)
        rw [S.step_call c htask, heq] at hnext ⊢
        refine (hiff hnext).trans ⟨fun hok op' next' htask' => ?_, fun hok => hok op next htask⟩
        cases htask.symm.trans htask'
        exact hok
      · have hidle : ∀ op next, q.tasks[i]? ≠ some (.call op next) :=
          fun op next hcall => htask ⟨op, next, hcall⟩
        rw [S.step_idle c hidle]
        exact iff_of_true hP fun op next hcall => absurd hcall (hidle op next)
    | outside e =>
      rw [and_iff_right (show OnOps ok q (.outside e) from trivial)]
      unfold System.step at hnext ⊢
      dsimp only at hnext ⊢
      cases hout : S.outside e q.shared with
      | some s =>
        rw [hout] at hnext
        exact houtside e q.shared s hq.inv ha hP hout hnext
      | none => exact iff_of_true hP (hnone e q.shared hout)
    | start k =>
      refine iff_of_true ?_ ⟨trivial, trivial⟩
      unfold System.step
      dsimp only
      split
      · exact hP
      · exact hP
  exact along_iff_guarded_of (I := K.Holds) (P := fun q : Pool Op Reply ε σ => P q.shared)
    (fun q a hq ha => hK.step hq ha) hstep hp hP has

/-- The same where the events outside keep `P` by themselves. -/
theorem Lawful.along_iff_onOps (hK : K.Lawful) {P : σ → Prop}
    (hperform : ∀ i op c s, K.inv s → P s → K.may i op c s →
      ∃ r s', S.perform i op c s = some (r, s') ∧ (K.inv s' → (P s' ↔ ok i op c s)))
    (houtside : ∀ e s s', K.inv s → K.mayOutside e s → P s → S.outside e s = some s' → K.inv s' →
      P s') (hp : K.Holds p) (hP : P p.shared) (has : Guarded S.step K.Meets p as) :
    Along S.step (fun p => P p.shared) p as ↔ Guarded S.step (OnOps ok) p as := by
  have hiff : Along S.step (fun p => P p.shared) p as
      ↔ Guarded S.step (fun p a => OnOps ok p a ∧ OnEvents (fun _ _ => True) p a) p as :=
    hK.along_iff hperform
      (fun e s s' hinv hmay hP hout hinv' =>
        iff_of_true (houtside e s s' hinv hmay hP hout hinv') trivial)
      (fun _ _ _ => trivial) hp hP has
  have hevents : ∀ (q : Pool Op Reply ε σ) (a : Action χ η κ), OnEvents (fun _ _ => True) q a := by
    intro q a
    cases a <;> trivial
  rw [hiff]
  exact guarded_congr (I := fun _ => True) (fun _ _ _ => trivial)
    (fun q a _ => and_iff_left (hevents q a)) trivial as

/-- What every task may rely on relates the shared state before a step to the one after it:
to a task that has not started yet, every other one is somebody else. -/
theorem Lawful.step_rely (hK : K.Lawful) {R : σ → σ → Prop} (hR : ∀ i s s', K.rely i s s' → R s s')
    (hp : K.Holds p) (ha : K.Meets p a) : R p.shared (S.step p a).shared := by
  have hrefl : R p.shared p.shared := hR 0 _ _ (hK.refl 0 _)
  cases a with
  | run i c =>
    unfold System.step
    dsimp only
    split
    next op next htask =>
      split
      next r s hstep =>
        obtain ⟨-, hother, -⟩ :=
          hp.sound i _ htask p.shared (hK.refl i p.shared) hp.inv c (ha op next htask) r s hstep
        exact hR (i + 1) _ _ (hother (i + 1) (by omega))
      next => exact hrefl
    next => exact hrefl
  | outside e =>
    unfold System.step
    dsimp only
    split
    next s hout => exact hR 0 _ _ ((hK.outside e p.shared s hp.inv ha hout).2 0)
    next => exact hrefl
  | start k =>
    unfold System.step
    dsimp only
    split
    · exact hrefl
    · exact hrefl

/-- The pool with no task yet is in the hands of every contract its state meets. -/
theorem holds_start (hinv : K.inv s) (hidle : ∀ i, K.idle i s) :
    K.Holds (⟨s, []⟩ : Pool Op Reply ε σ) :=
  ⟨hinv, fun _ _ h => absurd h (by simp), fun i _ => hidle i⟩

end Contract

end Tasks
