/-
Runs that differ in what is hidden from an observer.

A veil says which operations, events and programs are hidden, what an operation can reply, and when
two shared states look alike to the observer. Two programs are alike if they ask for the same
operations up to hidden ones, with replies that the veil takes for the same. The trace of a run is
what is left of it once the hidden steps are taken out; of a hidden program it still shows that some
task was started. `trace_related` is the unwinding rule: runs with one trace, from pools that are
alike, end in pools that are.
-/
import DiscountBazar.Lib.Tasks

namespace Tasks

open List Prog Tasks.System

variable {Op : Type} {Reply : Op → Type} {ε σ χ η κ α β α' β' : Type}

/-- What a program that is over has returned or thrown. -/
def Prog.result? : Prog Op Reply ε α → Option (Except ε α)
  | .ret a => some (.ok a)
  | .throw e => some (.error e)
  | .call _ _ => none

/-- Go on with what a program has returned. -/
def Prog.andThen (f : α → Prog Op Reply ε β) : Except ε α → Prog Op Reply ε β
  | .ok a => f a
  | .error e => .throw e

/-- Go on with what a program has thrown. -/
def Prog.orElse (handler : ε → Prog Op Reply ε α) : Except ε α → Prog Op Reply ε α
  | .ok a => .ret a
  | .error e => handler e

/-- Given what operations can reply, the program asks only for operations of `P`, and what it returns
or throws meets `Q`. -/
def Prog.Only (replies : (op : Op) → Except ε (Reply op) → Prop) (P : Op → Prop)
    (Q : Except ε α → Prop) : Prog Op Reply ε α → Prop
  | .ret a => Q (.ok a)
  | .throw e => Q (.error e)
  | .call op next => P op ∧ ∀ r, replies op r → (next r).Only replies P Q

namespace Prog.Only

variable {replies : (op : Op) → Except ε (Reply op) → Prop} {P : Op → Prop} {Q : Except ε α → Prop}

theorem ret {a : α} (h : Q (.ok a)) : (pure a : Prog Op Reply ε α).Only replies P Q := h

variable {Q' : Except ε α → Prop} {p : Prog Op Reply ε α}

theorem mono {P' : Op → Prop} (h : p.Only replies P Q) (hP : ∀ op, P op → P' op)
    (hQ : ∀ x, Q x → Q' x) :
    p.Only replies P' Q' := by
  induction p with
  | ret | throw => exact hQ _ h
  | call op next ih => exact ⟨hP op h.1, fun r hr => ih r (h.2 r hr)⟩

/-- Fewer replies can be to what is asked for. -/
theorem of_replies {replies' : (op : Op) → Except ε (Reply op) → Prop} (h : p.Only replies P Q)
    (hreplies : ∀ op r, P op → replies' op r → replies op r) :
    p.Only replies' P Q := by
  induction p with
  | ret | throw => exact h
  | call op next ih => exact ⟨h.1, fun r hr => ih r (h.2 r (hreplies op r h.1 hr))⟩

theorem perform {op : Op} {Q : Except ε (Reply op) → Prop} (hop : P op)
    (hQ : ∀ r, replies op r → Q r) : (perform op).Only replies P Q := by
  refine ⟨hop, fun r hr => ?_⟩
  cases r with
  | ok | error => exact hQ _ hr

theorem bind {Q' : Except ε β → Prop} {f : α → Prog Op Reply ε β} (h : p.Only replies P Q)
    (hf : ∀ a, Q (.ok a) → (f a).Only replies P Q') (herror : ∀ e, Q (.error e) → Q' (.error e)) :
    (p >>= f).Only replies P Q' := by
  induction p with
  | ret a => exact hf a h
  | throw e => exact herror e h
  | call op next ih => exact ⟨h.1, fun r hr => ih r (h.2 r hr)⟩

theorem tryCatch {f : ε → Prog Op Reply ε α} (h : p.Only replies P Q)
    (hf : ∀ e, Q (.error e) → (f e).Only replies P Q') (hok : ∀ a, Q (.ok a) → Q' (.ok a)) :
    (p.tryCatch f).Only replies P Q' := by
  induction p with
  | ret a => exact hok a h
  | throw e => exact hf e h
  | call op next ih => exact ⟨h.1, fun r hr => ih r (h.2 r hr)⟩

theorem ite {c : Prop} [Decidable c] {p q : Prog Op Reply ε α} (hp : c → p.Only replies P Q)
    (hq : ¬ c → q.Only replies P Q) : (if c then p else q).Only replies P Q := by
  split
  next hc => exact hp hc
  next hc => exact hq hc

end Prog.Only

/-- Given what operations can reply, the tasks can only come to ask for operations of `P`. -/
def Pool.Only (replies : (op : Op) → Except ε (Reply op) → Prop) (P : Op → Prop)
    (p : Pool Op Reply ε σ) : Prop :=
  ∀ task ∈ p.tasks, task.Only replies P (fun _ => True)

variable {S : System Op Reply ε σ χ η κ} {replies : (op : Op) → Except ε (Reply op) → Prop}
  {P : Op → Prop}

/-- If the programs ask for operations of `P` only, the tasks do. -/
theorem System.step_only
    (hreplies : ∀ i op c s r s', S.perform i op c s = some (r, s') → replies op r)
    (hentry : ∀ k, (S.entry k).Only replies P (fun _ => True)) {p : Pool Op Reply ε σ}
    (a : Action χ η κ) (hp : p.Only replies P) : (S.step p a).Only replies P := by
  cases a with
  | run i c =>
    unfold step
    dsimp only
    split
    next op next htask =>
      split
      next r s hstep =>
        intro task hmem
        rcases mem_or_eq_of_mem_set hmem with hmem | rfl
        · exact hp task hmem
        · exact (hp _ (mem_of_getElem? htask)).2 r (hreplies i op c _ r s hstep)
      next => exact hp
    next => exact hp
  | outside e =>
    unfold step
    dsimp only
    split
    · exact hp
    · exact hp
  | start k =>
    unfold step
    dsimp only
    split
    · intro task hmem
      rcases mem_append.mp hmem with hmem | hmem
      · exact hp task hmem
      · rw [mem_singleton.mp hmem]
        exact hentry k
    · exact hp

/-- A program that only asks for operations that are sound by themselves. -/
theorem Contract.sound_of_only {K : Contract S} {i : ℕ} {Q : Except ε α → Prop}
    (hreplies : ∀ i op c s r s', S.perform i op c s = some (r, s') → replies op r)
    (h : ∀ op, P op → ∀ s, K.Keeps i (perform op) s) {p : Prog Op Reply ε α}
    (hp : p.Only replies P Q) (s : σ) :
    K.Keeps i p s := by
  induction p generalizing s with
  | ret | throw => trivial
  | call op next ih =>
    intro s' hrely hinv c hmay r s'' hstep
    obtain ⟨hinv'', hother, -⟩ := h op hp.1 s s' hrely hinv c hmay r s'' hstep
    exact ⟨hinv'', hother, ih r (hp.2 r (hreplies i op c s' r s'' hstep)) s''⟩

/-- A program that keeps a contract about a part of the state keeps one about the whole, where its
operations act on the part and leave the rest in order. -/
theorem Contract.Sound.lift {τ η' κ' : Type} {S' : System Op Reply ε τ χ η' κ'} {K : Contract S}
    {K' : Contract S'} (π : τ → σ) {i : ℕ} (hinv : ∀ t, K'.inv t → K.inv (π t))
    (hrely : ∀ t t', K'.rely i t t' → K.rely i (π t) (π t'))
    (hop : ∀ op c t r t', P op → K'.inv t → K'.may i op c t → S'.perform i op c t = some (r, t') →
      K.may i op c (π t) ∧ S.perform i op c (π t) = some (r, π t') ∧
        (K.inv (π t') → (∀ j, j ≠ i → K.rely j (π t) (π t')) →
          K'.inv t' ∧ ∀ j, j ≠ i → K'.rely j t t')) {Q : α → σ → Prop} {E : ε → σ → Prop}
    {p : Prog Op Reply ε α} (hp : p.All P) {t : τ} (h : K.Sound i Q E p (π t)) :
    K'.Sound i (fun a t => Q a (π t)) (fun e t => E e (π t)) p t := by
  induction p generalizing t with
  | ret | throw => exact h
  | call op next ih =>
    intro t' hrel hinv' c hmay r t'' hstep
    obtain ⟨hmay', hstep', hkeeps⟩ := hop op c t' r t'' hp.1 hinv' hmay hstep
    obtain ⟨hinv'', hother, hnext⟩ :=
      h (π t') (hrely t t' hrel) (hinv t' hinv') c hmay' r (π t'') hstep'
    exact ⟨(hkeeps hinv'' hother).1, (hkeeps hinv'' hother).2, ih r (hp.2 r) hnext⟩

/-- What is hidden from an observer, what an operation can reply, when two states look alike, and
which replies are taken for the same. -/
structure Veil (Op : Type) (Reply : Op → Type) (ε σ η κ : Type) where
  op : Op → Bool
  event : η → Bool
  start : κ → Bool
  replies : (op : Op) → Except ε (Reply op) → Prop
  sees : σ → σ → Prop
  reply : (op : Op) → Except ε (Reply op) → Except ε (Reply op) → Prop

/-- The programs ask for the same operations up to hidden ones, and their results are related. -/
inductive Alike (V : Veil Op Reply ε σ η κ) (R : Except ε α → Except ε β → Prop) :
    Prog Op Reply ε α → Prog Op Reply ε β → Prop where
  | done {p : Prog Op Reply ε α} {q : Prog Op Reply ε β} {x : Except ε α} {y : Except ε β}
      (hp : p.result? = some x) (hq : q.result? = some y) (h : R x y) : Alike V R p q
  | visible {op : Op} {next : Except ε (Reply op) → Prog Op Reply ε α}
      {next' : Except ε (Reply op) → Prog Op Reply ε β} (hop : V.op op = false)
      (h : ∀ r r', V.replies op r → V.replies op r' → V.reply op r r' →
        Alike V R (next r) (next' r')) :
      Alike V R (.call op next) (.call op next')
  | left {op : Op} {next : Except ε (Reply op) → Prog Op Reply ε α} {q : Prog Op Reply ε β}
      (hop : V.op op = true) (h : ∀ r, V.replies op r → Alike V R (next r) q) :
      Alike V R (.call op next) q
  | right {op : Op} {p : Prog Op Reply ε α} {next : Except ε (Reply op) → Prog Op Reply ε β}
      (hop : V.op op = true) (h : ∀ r, V.replies op r → Alike V R p (next r)) :
      Alike V R p (.call op next)

namespace Alike

variable {V : Veil Op Reply ε σ η κ} {R : Except ε α → Except ε β → Prop}

/-! ## Rules for programs -/

theorem ret {a : α} {b : β} (h : R (.ok a) (.ok b)) :
    Alike V R (pure a : Prog Op Reply ε α) (pure b : Prog Op Reply ε β) :=
  .done rfl rfl h

theorem throw {e e' : ε} (h : R (.error e) (.error e')) :
    Alike V R (throw e : Prog Op Reply ε α) (throw e' : Prog Op Reply ε β) :=
  .done rfl rfl h

variable {p : Prog Op Reply ε α} {q : Prog Op Reply ε β}

theorem mono {R' : Except ε α → Except ε β → Prop} (h : Alike V R p q) (hR : ∀ x y, R x y → R' x y)
    : Alike V R' p q := by
  induction h with
  | done hp hq h => exact .done hp hq (hR _ _ h)
  | visible hop _ ih => exact .visible hop ih
  | left hop _ ih => exact .left hop ih
  | right hop _ ih => exact .right hop ih

theorem symm (hreply : ∀ op r r', V.reply op r r' → V.reply op r' r) (h : Alike V R p q) :
    Alike V (fun y x => R x y) q p := by
  induction h with
  | done hp hq h => exact .done hq hp h
  | visible hop _ ih =>
    exact .visible hop fun r r' hr hr' hrr' => ih r' r hr' hr (hreply _ r r' hrr')
  | left hop _ ih => exact .right hop ih
  | right hop _ ih => exact .left hop ih

variable {R' : Except ε α' → Except ε β' → Prop} {f : α → Prog Op Reply ε α'}

/-- Alike programs go on alike. -/
theorem bind {g : β → Prog Op Reply ε β'} (h : Alike V R p q)
    (hfg : ∀ x y, R x y → Alike V R' (andThen f x) (andThen g y)) :
    Alike V R' (p >>= f) (q >>= g) := by
  induction h with
  | @done p q x y hp hq h =>
    have hnext := hfg x y h
    cases p with
    | call op next => cases hp
    | ret | throw =>
      cases hp
      cases q with
      | call op next => cases hq
      | ret | throw => cases hq; exact hnext
  | visible hop _ ih => exact .visible hop ih
  | left hop _ ih => exact .left hop ih
  | right hop _ ih => exact .right hop ih

theorem tryCatch {R' : Except ε α → Except ε β → Prop} {f : ε → Prog Op Reply ε α}
    {g : ε → Prog Op Reply ε β} (h : Alike V R p q)
    (hfg : ∀ x y, R x y → Alike V R' (orElse f x) (orElse g y)) :
    Alike V R' (p.tryCatch f) (q.tryCatch g) := by
  induction h with
  | @done p q x y hp hq h =>
    have hnext := hfg x y h
    cases p with
    | call op next => cases hp
    | ret | throw =>
      cases hp
      cases q with
      | call op next => cases hq
      | ret | throw => cases hq; exact hnext
  | visible hop _ ih => exact .visible hop ih
  | left hop _ ih => exact .left hop ih
  | right hop _ ih => exact .right hop ih

/-- The rule of `bind` where the results agree. -/
theorem bind_eq {p q : Prog Op Reply ε α} {g : α → Prog Op Reply ε β'} (h : Alike V Eq p q)
    (hfg : ∀ a, Alike V R' (f a) (g a)) (herror : ∀ e, R' (.error e) (.error e)) :
    Alike V R' (p >>= f) (q >>= g) := by
  refine h.bind fun x y hxy => ?_
  cases hxy
  cases x with
  | ok a => exact hfg a
  | error e => exact .throw (herror e)

variable {Q : Except ε α → Prop}

/-- A program that asks for nothing hidden is like itself, where replies are the same only if they
are equal. -/
theorem self
    (hp : p.Only V.replies (fun op => V.op op = false ∧ ∀ r r', V.reply op r r' → r = r') Q) :
    Alike V (fun x y => x = y ∧ Q x) p p := by
  induction p with
  | ret | throw => exact .done rfl rfl ⟨rfl, hp⟩
  | call op next ih =>
    refine .visible hp.1.1 fun r r' hr hr' hrr' => ?_
    rw [hp.1.2 r r' hrr']
    exact ih r' (hp.2 r' hr')

/-- Programs whose operations are all hidden are alike. -/
theorem hidden {Q' : Except ε β → Prop} (hp : p.Only V.replies (fun op => V.op op = true) Q)
    (hq : q.Only V.replies (fun op => V.op op = true) Q') (hR : ∀ x y, Q x → Q' y → R x y) :
    Alike V R p q := by
  induction p with
  | call op next ih => exact .left hp.1 fun r hr => ih r (hp.2 r hr)
  | ret | throw =>
    induction q with
    | call op next ih => exact .right hq.1 fun r hr => ih r (hq.2 r hr)
    | ret | throw => exact .done rfl rfl (hR _ _ hp hq)

/-- One operation that is seen, with replies that look alike. -/
theorem perform_visible (op : Op) (hop : V.op op = false) :
    Alike V (V.reply op) (perform op) (perform op) := by
  refine .visible hop fun r r' _ _ hrr' => ?_
  cases r with
  | ok | error =>
    cases r' with
    | ok | error => exact .done rfl rfl hrr'

/-- A program of hidden operations goes before another unnoticed. -/
theorem bind_left {Q : Except ε α' → Prop} {p : Prog Op Reply ε α'} {f : α' → Prog Op Reply ε α}
    (hp : p.Only V.replies (fun op => V.op op = true) Q)
    (h : ∀ x, Q x → Alike V R (andThen f x) q) : Alike V R (p >>= f) q := by
  induction p with
  | ret | throw => exact h _ hp
  | call op next ih => exact .left hp.1 fun r hr => ih r (hp.2 r hr)

theorem bind_right {Q : Except ε β' → Prop} {q : Prog Op Reply ε β'} {g : β' → Prog Op Reply ε β}
    (hq : q.Only V.replies (fun op => V.op op = true) Q)
    (h : ∀ y, Q y → Alike V R p (andThen g y)) : Alike V R p (q >>= g) := by
  induction q with
  | ret | throw => exact h _ hq
  | call op next ih => exact .right hq.1 fun r hr => ih r (hq.2 r hr)

/-! ## What alike programs ask for -/

/-- A hidden operation of one program is none of the other's. -/
theorem step_left {op : Op} {next : Except ε (Reply op) → Prog Op Reply ε α}
    (h : Alike V R (.call op next) q) (hop : V.op op = true) {r : Except ε (Reply op)}
    (hr : V.replies op r) : Alike V R (next r) q := by
  generalize hp : call op next = p at h
  induction h with
  | done hp' hq' h' =>
    rw [← hp] at hp'
    cases hp'
  | visible hop' h ih =>
    cases hp
    rw [hop] at hop'
    cases hop'
  | left hop' h ih =>
    cases hp
    exact h r hr
  | right hop' h ih => exact .right hop' fun r' hr' => ih r' hr' hp

/-- Visible operations of alike programs are the same. -/
theorem visible_inv {op op' : Op} {next : Except ε (Reply op) → Prog Op Reply ε α}
    {next' : Except ε (Reply op') → Prog Op Reply ε β}
    (h : Alike V R (.call op next) (.call op' next')) (hop : V.op op = false)
    (hop' : V.op op' = false) :
    ∃ next'' : Except ε (Reply op) → Prog Op Reply ε β,
      call op' next' = call op next'' ∧
        ∀ r r', V.replies op r → V.replies op r' → V.reply op r r' →
          Alike V R (next r) (next'' r') := by
  cases h with
  | done hp hq h => cases hp
  | visible hvisible h => exact ⟨_, rfl, h⟩
  | left hhidden h =>
    rw [hop] at hhidden
    cases hhidden
  | right hhidden h =>
    rw [hop'] at hhidden
    cases hhidden

end Alike

namespace Veil

variable {S : System Op Reply ε σ χ η κ} (V : Veil Op Reply ε σ η κ)

/-! ## Traces -/

variable (S) in
/-- What the observer is told of an action: nothing of a hidden step, and of a hidden program that
is started only that there is one. -/
def mark (p : Pool Op Reply ε σ) : Action χ η κ → List (Option (Action χ η κ))
  | .run i c =>
    match p.tasks[i]? with
    | some (.call op _) => if V.op op then [] else [some (.run i c)]
    | _ => []
  | .outside e => if V.event e then [] else [some (.outside e)]
  | .start k =>
    if V.start k then (if S.mayStart p.shared k then [none] else []) else [some (.start k)]

variable (S) in
/-- What is left of a run once the hidden steps are taken out. -/
def trace : Pool Op Reply ε σ → List (Action χ η κ) → List (Option (Action χ η κ))
  | _, [] => []
  | p, a :: as => V.mark S p a ++ trace (S.step p a) as

/-- What a veil must have in the runs whose operations meet `ok`: hidden steps change nothing that is
seen, and states that look alike stay so under the same visible step. -/
structure Lawful (S : System Op Reply ε σ χ η κ) (ok : ℕ → Op → χ → σ → Prop)
    (V : Veil Op Reply ε σ η κ) : Prop where
  symm : ∀ s t, V.sees s t → V.sees t s
  trans : ∀ s t u, V.sees s t → V.sees t u → V.sees s u
  reply_symm : ∀ op r r', V.reply op r r' → V.reply op r' r
  replies : ∀ i op c s r s', ok i op c s → S.perform i op c s = some (r, s') → V.replies op r
  op_hidden : ∀ i op c s r s', V.op op = true → S.perform i op c s = some (r, s') → V.sees s s'
  op_visible : ∀ i op c s t r s', V.op op = false → V.sees s t →
    S.perform i op c s = some (r, s') →
      ∃ r' t', S.perform i op c t = some (r', t') ∧ V.reply op r r' ∧ V.sees s' t'
  event_hidden : ∀ e s s', V.event e = true → S.outside e s = some s' → V.sees s s'
  event_visible : ∀ e s t s', V.event e = false → V.sees s t → S.outside e s = some s' →
    ∃ t', S.outside e t = some t' ∧ V.sees s' t'
  mayStart : ∀ k s t, V.sees s t → S.mayStart s k = S.mayStart t k
  entry_hidden : ∀ k, V.start k = true →
    (S.entry k).Only V.replies (fun op => V.op op = true) (fun _ => True)
  entry_visible : ∀ k, V.start k = false → Alike V (fun _ _ => True) (S.entry k) (S.entry k)

/-- The shared states look alike, and the tasks are alike one by one. -/
structure Related (p q : Pool Op Reply ε σ) : Prop where
  sees : V.sees p.shared q.shared
  tasks : ∀ i : ℕ, Option.Rel (Alike V (fun _ _ => True)) p.tasks[i]? q.tasks[i]?

variable {V} {ok : ℕ → Op → χ → σ → Prop}

variable {p q : Pool Op Reply ε σ}

theorem Related.symm (hV : V.Lawful S ok) (h : V.Related p q) :
    V.Related q p := by
  refine ⟨hV.symm _ _ h.sees, fun i => ?_⟩
  have hi := h.tasks i
  cases hp : p.tasks[i]? with
  | none =>
    rw [hp] at hi
    cases hq : q.tasks[i]? with
    | none => exact .none
    | some u =>
      rw [hq] at hi
      cases hi
  | some t =>
    rw [hp] at hi
    cases hq : q.tasks[i]? with
    | none =>
      rw [hq] at hi
      cases hi
    | some u =>
      rw [hq] at hi
      cases hi with
      | some halike => exact .some (halike.symm hV.reply_symm)

theorem Related.length (h : V.Related p q) :
    p.tasks.length = q.tasks.length := by
  refine Nat.le_antisymm (Nat.not_lt.mp fun hlt => ?_) (Nat.not_lt.mp fun hlt => ?_)
  · have hi := h.tasks q.tasks.length
    rw [getElem?_eq_getElem hlt, getElem?_eq_none (Nat.le_refl _)] at hi
    cases hi
  · have hi := h.tasks p.tasks.length
    rw [getElem?_eq_getElem hlt, getElem?_eq_none (Nat.le_refl _)] at hi
    cases hi

theorem mark_cases (p : Pool Op Reply ε σ) (a : Action χ η κ) :
    V.mark S p a = [] ∨ ∃ x, V.mark S p a = [x] := by
  unfold mark
  cases a with
  | run i c =>
    dsimp only
    split
    · split
      · exact .inl rfl
      · exact .inr ⟨_, rfl⟩
    · exact .inl rfl
  | outside e =>
    dsimp only
    split
    · exact .inl rfl
    · exact .inr ⟨_, rfl⟩
  | start k =>
    dsimp only
    split
    · split
      · exact .inr ⟨_, rfl⟩
      · exact .inl rfl
    · exact .inr ⟨_, rfl⟩

/-- A step of one run that the observer is not told of leaves the pools alike. -/
theorem Related.step_hidden (hV : V.Lawful S ok) (h : V.Related p q) {a : Action χ η κ}
    (hok : OnOps ok p a) (ha : V.mark S p a = []) :
    V.Related (S.step p a) q := by
  cases a with
  | run i c =>
    by_cases htask : ∃ op next, p.tasks[i]? = some (.call op next)
    · obtain ⟨op, next, htask⟩ := htask
      have hop : V.op op = true := by
        unfold mark at ha
        dsimp only at ha
        rw [htask] at ha
        dsimp only at ha
        by_contra hop
        rw [if_neg hop] at ha
        cases ha
      rw [S.step_call c htask]
      cases hperform : S.perform i op c p.shared with
      | none => exact h
      | some out =>
        obtain ⟨r, s⟩ := out
        have hsees := hV.op_hidden i op c _ r s hop hperform
        refine ⟨hV.trans _ _ _ (hV.symm _ _ hsees) h.sees, fun j => ?_⟩
        have hj := h.tasks j
        dsimp only
        by_cases hij : i = j
        · subst hij
          have hlt : i < p.tasks.length := (List.getElem?_eq_some_iff.mp htask).1
          rw [getElem?_set_self hlt]
          rw [htask] at hj
          cases hq : q.tasks[i]? with
          | none =>
            rw [hq] at hj
            cases hj
          | some u =>
            rw [hq] at hj
            cases hj with
            | some halike =>
              have hr := hV.replies i op c _ r s (hok op next htask) hperform
              exact .some (halike.step_left hop hr)
        · rw [getElem?_set_ne hij]
          exact hj
    · rw [S.step_idle c fun op next hcall => htask ⟨op, next, hcall⟩]
      exact h
  | outside e =>
    have he : V.event e = true := by
      unfold mark at ha
      dsimp only at ha
      by_contra he
      rw [if_neg he] at ha
      cases ha
    unfold step
    dsimp only
    cases hout : S.outside e p.shared with
    | none => exact h
    | some s =>
      have hsees := hV.event_hidden e _ s he hout
      exact ⟨hV.trans _ _ _ (hV.symm _ _ hsees) h.sees, h.tasks⟩
  | start k =>
    unfold mark at ha
    dsimp only at ha
    unfold step
    dsimp only
    by_cases hstart : V.start k = true
    · rw [if_pos hstart] at ha
      by_cases hmay : S.mayStart p.shared k = true
      · rw [if_pos hmay] at ha
        cases ha
      · rw [if_neg hmay]
        exact h
    · rw [if_neg hstart] at ha
      cases ha

/-- One more task on either side, and the two are alike. -/
theorem Related.start (h : V.Related p q) {t u : Prog Op Reply ε Unit}
    (hnew : Alike V (fun _ _ => True) t u) :
    V.Related { p with tasks := p.tasks ++ [t] } { q with tasks := q.tasks ++ [u] } := by
  refine ⟨h.sees, fun j => ?_⟩
  have hlength := h.length
  have hj := h.tasks j
  dsimp only
  by_cases hlt : j < p.tasks.length
  · rw [getElem?_append_left hlt, getElem?_append_left (by omega)]
    exact hj
  · rw [getElem?_append_right (by omega), getElem?_append_right (by omega), hlength]
    by_cases hzero : j - q.tasks.length = 0
    · rw [hzero]
      exact .some hnew
    · rw [getElem?_eq_none (by rw [length_singleton]; omega),
        getElem?_eq_none (by rw [length_singleton]; omega)]
      exact .none

/-- The same visible operation, asked for by alike tasks. -/
theorem Related.step_run (hV : V.Lawful S ok) (h : V.Related p q) {i : ℕ} {c : χ}
    (hokp : OnOps (χ := χ) (η := η) (κ := κ) ok p (.run i c))
    (hokq : OnOps (χ := χ) (η := η) (κ := κ) ok q (.run i c))
    (hp : V.mark S p (.run i c) = [some (.run i c)])
    (hq : V.mark S q (.run i c) = [some (.run i c)]) :
    V.Related (S.step p (.run i c)) (S.step q (.run i c)) := by
  have hcall : ∀ p' : Pool Op Reply ε σ, V.mark S p' (.run i c) = [some (.run i c)] →
      ∃ op next, p'.tasks[i]? = some (.call op next) ∧ V.op op = false := by
    intro p' hp'
    unfold mark at hp'
    dsimp only at hp'
    split at hp'
    next op next htask =>
      refine ⟨op, next, htask, ?_⟩
      by_contra hop
      rw [if_pos (by simpa using hop)] at hp'
      cases hp'
    next => cases hp'
  obtain ⟨op, next, htask, hop⟩ := hcall p hp
  obtain ⟨op', next', htask', hop'⟩ := hcall q hq
  have hi := h.tasks i
  rw [htask, htask'] at hi
  cases hi with
  | some halike =>
    obtain ⟨next'', heq, hnext⟩ := halike.visible_inv hop hop'
    rw [heq] at htask'
    rw [S.step_call c htask, S.step_call c htask']
    cases hperform : S.perform i op c p.shared with
    | none =>
      cases hperform' : S.perform i op c q.shared with
      | none => exact h
      | some out =>
        obtain ⟨r, s'⟩ := out
        obtain ⟨_, _, hnone, -, -⟩ :=
          hV.op_visible i op c _ _ r s' hop (hV.symm _ _ h.sees) hperform'
        rw [hperform] at hnone
        cases hnone
    | some out =>
      obtain ⟨r, s'⟩ := out
      obtain ⟨r', t', hperform', hreply, hsees⟩ :=
        hV.op_visible i op c _ _ r s' hop h.sees hperform
      rw [hperform']
      refine ⟨hsees, fun j => ?_⟩
      have hj := h.tasks j
      dsimp only
      by_cases hij : i = j
      · subst hij
        rw [List.getElem?_set_self (List.getElem?_eq_some_iff.mp htask).1,
          List.getElem?_set_self (List.getElem?_eq_some_iff.mp htask').1]
        have hr := hV.replies i op c _ r s' (hokp op next htask) hperform
        have hr' := hV.replies i op c _ r' t' (hokq op _ htask') hperform'
        exact .some (hnext r r' hr hr' hreply)
      · rw [getElem?_set_ne hij, getElem?_set_ne hij]
        exact hj

/-- Steps of the two runs that the observer is told the same of leave the pools alike. -/
theorem Related.step_marked (hV : V.Lawful S ok) (h : V.Related p q) {a b : Action χ η κ}
    {x : Option (Action χ η κ)} (hoka : OnOps ok p a) (hokb : OnOps ok q b)
    (ha : V.mark S p a = [x]) (hb : V.mark S q b = [x]) : V.Related (S.step p a) (S.step q b) := by
  -- a visible action is marked with itself, a hidden program that may start with `none`
  have hmark : ∀ (p' : Pool Op Reply ε σ) (a' : Action χ η κ), V.mark S p' a' = [x] →
      x = some a' ∨ x = none ∧ ∃ k, a' = .start k ∧ V.start k = true ∧
        S.mayStart p'.shared k = true := by
    intro p' a' ha'
    unfold mark at ha'
    cases a' with
    | run i c =>
      dsimp only at ha'
      split at ha'
      · split at ha'
        · cases ha'
        · exact .inl (cons.inj ha').1.symm
      · cases ha'
    | outside e =>
      dsimp only at ha'
      split at ha'
      · cases ha'
      · exact .inl (cons.inj ha').1.symm
    | start k =>
      dsimp only at ha'
      split at ha'
      next hstart =>
        split at ha'
        next hmay => exact .inr ⟨(cons.inj ha').1.symm, k, rfl, hstart, hmay⟩
        next => cases ha'
      next => exact .inl (cons.inj ha').1.symm
  rcases hmark p a ha with rfl | ⟨rfl, k, rfl, hk, hmay⟩
  · rcases hmark q b hb with hab | ⟨hab, -⟩
    · cases hab
      cases a with
      | run i c => exact h.step_run hV hoka hokb ha hb
      | outside e =>
        have he : V.event e = false := by
          unfold mark at ha
          dsimp only at ha
          by_contra he
          rw [if_pos (by simpa using he)] at ha
          cases ha
        unfold step
        dsimp only
        cases hout : S.outside e p.shared with
        | none =>
          cases hout' : S.outside e q.shared with
          | none => exact h
          | some t =>
            obtain ⟨_, hnone, -⟩ := hV.event_visible e _ _ t he (hV.symm _ _ h.sees) hout'
            rw [hout] at hnone
            cases hnone
        | some s =>
          obtain ⟨t, hout', hsees⟩ := hV.event_visible e _ _ s he h.sees hout
          rw [hout']
          exact ⟨hsees, h.tasks⟩
      | start k =>
        have hk : V.start k = false := by
          unfold mark at ha
          dsimp only at ha
          by_contra hk
          rw [if_pos (by simpa using hk)] at ha
          split at ha
          · cases ha
          · cases ha
        unfold step
        dsimp only
        rw [← hV.mayStart k _ _ h.sees]
        by_cases hmay : S.mayStart p.shared k = true
        · rw [if_pos hmay, if_pos hmay]
          exact h.start (hV.entry_visible k hk)
        · rw [if_neg hmay, if_neg hmay]
          exact h
    · cases hab
  · rcases hmark q b hb with hab | ⟨-, k', rfl, hk', hmay'⟩
    · cases hab
    · unfold step
      dsimp only
      rw [if_pos hmay, if_pos hmay']
      exact h.start
        (.hidden (hV.entry_hidden k hk) (hV.entry_hidden k' hk') fun _ _ _ _ => trivial)

/-- Runs with one trace, from pools that are alike, end in pools that are. -/
theorem trace_related (hV : V.Lawful S ok) (h : V.Related p q) {as bs : List (Action χ η κ)}
    (has : Runs.Guarded S.step (OnOps ok) p as) (hbs : Runs.Guarded S.step (OnOps ok) q bs)
    (htrace : V.trace S p as = V.trace S q bs) :
    V.Related (Runs.exec S.step p as) (Runs.exec S.step q bs) := by
  induction as generalizing p q bs with
  | nil =>
    induction bs generalizing q with
    | nil => exact h
    | cons b bs ih =>
      have hb : V.mark S q b = [] := (append_eq_nil_iff.mp htrace.symm).1
      refine ih ((h.symm hV).step_hidden hV hbs.1 hb |>.symm hV) hbs.2 ?_
      exact (append_eq_nil_iff.mp htrace.symm).2.symm
  | cons a as ih =>
    rcases mark_cases (V := V) (S := S) p a with ha | ⟨x, ha⟩
    · have hrest : V.mark S p a ++ V.trace S (S.step p a) as = V.trace S q bs := htrace
      rw [ha] at hrest
      exact ih (h.step_hidden hV has.1 ha) has.2 hbs hrest
    · -- the other run gets to the same mark after hidden steps of its own
      induction bs generalizing q with
      | nil =>
        have hnil : V.mark S p a ++ V.trace S (S.step p a) as = [] := htrace
        rw [ha] at hnil
        cases hnil
      | cons b bs ihb =>
        have hcons : V.mark S p a ++ V.trace S (S.step p a) as
            = V.mark S q b ++ V.trace S (S.step q b) bs := htrace
        rcases mark_cases (V := V) (S := S) q b with hb | ⟨y, hb⟩
        · rw [hb] at hcons
          exact ihb ((h.symm hV).step_hidden hV hbs.1 hb |>.symm hV) hbs.2 hcons
        · rw [ha, hb] at hcons
          obtain ⟨hxy, hrest⟩ := cons.inj hcons
          subst hxy
          exact ih (h.step_marked hV has.1 hbs.1 ha hb) has.2 hbs.2 hrest

end Veil

end Tasks
