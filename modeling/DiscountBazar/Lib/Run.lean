/-
Runs of a total step function.

A system is a state type, an action type and `step : σ → α → σ`; an action that
is not enabled leaves the state as it is, so every list of actions is a run.
Two predicates on runs carry every result of the development: `Along P`, that
`P` holds in the first state and after each action, and `Guarded ok`, that each
action meets `ok` in the state it is taken in. The rules below turn a fact about
one step into a fact about whole runs; nothing here knows what the steps are.
-/
import Mathlib.Data.List.Basic

namespace Runs

variable {σ α : Type*} (step : σ → α → σ)

def exec (s : σ) (as : List α) : σ := as.foldl step s

/-- `P` holds in the first state of the run and after every action of it. -/
def Along (P : σ → Prop) : σ → List α → Prop
  | s, [] => P s
  | s, a :: as => P s ∧ Along P (step s a) as

/-- Every action of the run meets `ok` in the state it is taken in. -/
def Guarded (ok : σ → α → Prop) : σ → List α → Prop
  | _, [] => True
  | s, a :: as => ok s a ∧ Guarded ok (step s a) as

/-- `R` relates the state before every action of the run to the state after it. -/
def Steps (R : σ → σ → Prop) : σ → List α → Prop
  | _, [] => True
  | s, a :: as => R s (step s a) ∧ Steps R (step s a) as

@[simp] theorem exec_nil (s : σ) : exec step s [] = s := rfl

@[simp] theorem exec_cons (s : σ) (a : α) (as : List α) :
    exec step s (a :: as) = exec step (step s a) as := rfl

theorem exec_append (s : σ) (as bs : List α) :
    exec step s (as ++ bs) = exec step (exec step s as) bs :=
  List.foldl_append

variable {step}

variable {I : σ → Prop} {s : σ}

/-- What every step keeps, a run keeps. -/
theorem exec_induction (hstep : ∀ s a, I s → I (step s a)) (hs : I s) (as : List α) :
    I (exec step s as) := by
  induction as generalizing s with
  | nil => exact hs
  | cons a as ih => exact ih (hstep s a hs)

variable {ok : σ → α → Prop} {as : List α}

/-- What every guarded step keeps, a guarded run keeps. -/
theorem exec_induction_guarded (hstep : ∀ s a, I s → ok s a → I (step s a)) (hs : I s)
    (hok : Guarded step ok s as) : I (exec step s as) := by
  induction as generalizing s with
  | nil => exact hs
  | cons a as ih => exact ih (hstep s a hs hok.1) hok.2

variable {P : σ → Prop}

/-- `Along P` is `P` in every state a prefix of the run reaches. -/
theorem along_iff_take (s : σ) (as : List α) :
    Along step P s as ↔ ∀ n, P (exec step s (as.take n)) := by
  induction as generalizing s with
  | nil => simp [Along]
  | cons a as ih =>
    rw [Along, ih]
    constructor
    · rintro ⟨hs, hrest⟩ n
      cases n with
      | zero => exact hs
      | succ n => exact hrest n
    · intro h
      exact ⟨h 0, fun n => h (n + 1)⟩

theorem Along.head (h : Along step P s as) : P s := by
  cases as with
  | nil => exact h
  | cons a as => exact h.1

theorem Along.last (h : Along step P s as) :
    P (exec step s as) := by
  have hall := (along_iff_take s as).mp h as.length
  rw [List.take_length] at hall
  exact hall

/-- An invariant holds along every run that starts in it. -/
theorem along_of_step (hstep : ∀ s a, I s → I (step s a)) (hs : I s) (as : List α) :
    Along step I s as := by
  rw [along_iff_take]
  exact fun n => exec_induction hstep hs _

/-- What every guarded step keeps holds along a guarded run. -/
theorem along_of_guarded (hstep : ∀ s a, I s → ok s a → I (step s a)) (hs : I s)
    (hok : Guarded step ok s as) : Along step I s as := by
  induction as generalizing s with
  | nil => exact hs
  | cons a as ih => exact ⟨hs, ih (hstep s a hs hok.1) hok.2⟩

variable {R : σ → σ → Prop}

/-- What every guarded step relates, where an invariant holds, is related all along a guarded
run. -/
theorem steps_of_guarded (hI : ∀ s a, I s → ok s a → I (step s a))
    (hR : ∀ s a, I s → ok s a → R s (step s a)) (hs : I s) (hok : Guarded step ok s as) :
    Steps step R s as := by
  induction as generalizing s with
  | nil => trivial
  | cons a as ih => exact ⟨hR s a hs hok.1, ih (hI s a hs hok.1) hok.2⟩

/-- What relates the states around one step of a run. -/
theorem Steps.at {as bs : List α} {a : α} (h : Steps step R s (as ++ a :: bs)) :
    R (exec step s as) (step (exec step s as) a) := by
  induction as generalizing s with
  | nil => exact h.1
  | cons b as ih => exact ih h.2

/-- Where an invariant holds, a step relates the states around it exactly when it meets `ok`; then
a run does so in every step exactly when every step meets `ok`. -/
theorem steps_iff_guarded (hI : ∀ s a, I s → ok s a → I (step s a))
    (h : ∀ s a, I s → (R s (step s a) ↔ ok s a)) (hs : I s) (as : List α) :
    Steps step R s as ↔ Guarded step ok s as := by
  induction as generalizing s with
  | nil => exact Iff.rfl
  | cons a as ih =>
    constructor
    · rintro ⟨hrel, hrest⟩
      have hok : ok s a := (h s a hs).mp hrel
      exact ⟨hok, (ih (hI s a hs hok)).mp hrest⟩
    · rintro ⟨hok, hrest⟩
      exact ⟨(h s a hs).mpr hok, (ih (hI s a hs hok)).mpr hrest⟩

variable {P : σ → Prop}

theorem Along.mono {Q : σ → Prop} (h : ∀ s, P s → Q s) (hP : Along step P s as) :
    Along step Q s as := by
  induction as generalizing s with
  | nil => exact h s hP
  | cons a as ih => exact ⟨h s hP.1, ih hP.2⟩

/-- A guard that everything meets is met by every run. -/
theorem guarded_of_forall (h : ∀ s a, ok s a) (s : σ) (as : List α) :
    Guarded step ok s as := by
  induction as generalizing s with
  | nil => trivial
  | cons a as ih => exact ⟨h s a, ih (step s a)⟩

/-- The step lemma of an exact condition, lifted to runs. Where an invariant `I`
holds and `P` holds before a step, `P` survives the step exactly when the step
meets `ok`; then `P` holds along the run exactly when every step meets `ok`. -/
theorem along_iff_guarded {I : σ → Prop} (hI : ∀ s a, I s → P s → P (step s a) → I (step s a))
    (hstep : ∀ s a, I s → P s → (P (step s a) ↔ ok s a)) (hs : I s) (hP : P s) (as : List α) :
    Along step P s as ↔ Guarded step ok s as := by
  induction as generalizing s with
  | nil => simp [Along, Guarded, hP]
  | cons a as ih =>
    constructor
    · rintro ⟨-, hrest⟩
      have hP' : P (step s a) := hrest.head
      exact ⟨(hstep s a hs hP).mp hP', (ih (hI s a hs hP hP') hP').mp hrest⟩
    · rintro ⟨hok, hrest⟩
      have hP' : P (step s a) := (hstep s a hs hP).mpr hok
      exact ⟨hP, (ih (hI s a hs hP hP') hP').mpr hrest⟩

variable {ok ok' : σ → α → Prop}

/-- The same for runs that meet a second guard, under which the invariant is kept. -/
theorem along_iff_guarded_of {I : σ → Prop} (hI : ∀ s a, I s → ok' s a → I (step s a))
    (hstep : ∀ s a, I s → ok' s a → P s → (P (step s a) ↔ ok s a)) (hs : I s) (hP : P s)
    (has : Guarded step ok' s as) : Along step P s as ↔ Guarded step ok s as := by
  induction as generalizing s with
  | nil => simp [Along, Guarded, hP]
  | cons a as ih =>
    have hI' : I (step s a) := hI s a hs has.1
    constructor
    · rintro ⟨-, hrest⟩
      have hP' : P (step s a) := hrest.head
      exact ⟨(hstep s a hs has.1 hP).mp hP', (ih hI' hP' has.2).mp hrest⟩
    · rintro ⟨hok, hrest⟩
      have hP' : P (step s a) := (hstep s a hs has.1 hP).mpr hok
      exact ⟨hP, (ih hI' hP' has.2).mpr hrest⟩

/-- A property no step can restore holds along a run as soon as it holds at its end. -/
theorem along_iff_exec {I : σ → Prop} (hI : ∀ s a, I s → I (step s a))
    (hback : ∀ s a, I s → P (step s a) → P s) (hs : I s) (as : List α) :
    Along step P s as ↔ P (exec step s as) := by
  induction as generalizing s with
  | nil => exact Iff.rfl
  | cons a as ih =>
    rw [Along, ih (hI s a hs)]
    constructor
    · intro h
      exact h.2
    · intro h
      exact ⟨hback s a hs ((ih (hI s a hs)).mpr h).head, h⟩

theorem Along.and {Q : σ → Prop} (hP : Along step P s as) (hQ : Along step Q s as) :
    Along step (fun s => P s ∧ Q s) s as := by
  rw [along_iff_take] at *
  exact fun n => ⟨hP n, hQ n⟩

theorem Guarded.and (h : Guarded step ok s as) (h' : Guarded step ok' s as) :
    Guarded step (fun s a => ok s a ∧ ok' s a) s as := by
  induction as generalizing s with
  | nil => trivial
  | cons a as ih => exact ⟨⟨h.1, h'.1⟩, ih h.2 h'.2⟩

instance decidableGuarded {ok : σ → α → Prop} [∀ s a, Decidable (ok s a)] :
    (s : σ) → (as : List α) → Decidable (Guarded step ok s as)
  | _, [] => isTrue trivial
  | s, a :: as =>
    have : Decidable (Guarded step ok (step s a) as) := decidableGuarded (step s a) as
    inferInstanceAs (Decidable (ok s a ∧ Guarded step ok (step s a) as))

instance decidableSteps {R : σ → σ → Prop} [∀ s s', Decidable (R s s')] :
    (s : σ) → (as : List α) → Decidable (Steps step R s as)
  | _, [] => isTrue trivial
  | s, a :: as =>
    have : Decidable (Steps step R (step s a) as) := decidableSteps (step s a) as
    inferInstanceAs (Decidable (R s (step s a) ∧ Steps step R (step s a) as))

/-- What a guarded action has in a state with `P`, every action of a guarded run along
which `P` holds has. -/
theorem Along.guarded (h : ∀ s a, P s → ok s a → ok' s a) (hP : Along step P s as)
    (hok : Guarded step ok s as) : Guarded step ok' s as := by
  induction as generalizing s with
  | nil => trivial
  | cons a as ih => exact ⟨h s a hP.1 hok.1, ih hP.2 hok.2⟩

/-- Two guards that say the same in every state with the invariant are met by the same
runs. -/
theorem guarded_congr (hI : ∀ s a, I s → I (step s a)) (h : ∀ s a, I s → (ok s a ↔ ok' s a))
    (hs : I s) (as : List α) :
    Guarded step ok s as ↔ Guarded step ok' s as := by
  induction as generalizing s with
  | nil => exact Iff.rfl
  | cons a as ih => exact and_congr (h s a hs) (ih (hI s a hs))

theorem Guarded.mono (h : ∀ s a, ok s a → ok' s a) (hg : Guarded step ok s as) :
    Guarded step ok' s as := by
  induction as generalizing s with
  | nil => trivial
  | cons a as ih => exact ⟨h s a hg.1, ih hg.2⟩

/-- What is asked of a run is asked of its second part. -/
theorem Guarded.after {as bs : List α} (h : Guarded step ok s (as ++ bs)) :
    Guarded step ok (exec step s as) bs := by
  induction as generalizing s with
  | nil => exact h
  | cons a as ih => exact ih h.2

end Runs
