/-
A program whose calls fail, against the same program left alone.

A script says how the calls of one program go, one after the other. Where a program leaves each
thing it changes alone afterwards, a scripted run ends like an undisturbed one exactly when every
call that was never made, or whose failure was caught, had nothing to change. `Footprint` names
what is compared and which part of it a call is to be recognised by; `Linear` says of a program
that no later call touches that part again.
-/
import DiscountBazar.Lib.Tasks

namespace Tasks

open Prog

/-- How the calls of a program go: at a `none` its process dies, and when the script is over the
rest of the calls are done. -/
abbrev Script (ε : Type) := List (Option (Outcome ε))

namespace Prog

variable {Op : Type} {Reply : Op → Type} {ε σ α β : Type}

def stops : Prog Op Reply ε α → Bool
  | throw _ => true
  | _ => false

/-- One operation whose failure is caught. -/
def attempt (op : Op) (a : Reply op) : Prog Op Reply ε (Reply op) :=
  (perform op).tryCatch (fun _ => pure a)

theorem All.forEach {P : Op → Prop} {f : α → Prog Op Reply ε Unit} {as : List α}
    (h : ∀ a ∈ as, (f a).All P) : (forEach f as).All P := by
  induction as with
  | nil => trivial
  | cons a as ih =>
    exact (h a (by simp)).bind fun _ => ih fun b hb => h b (List.mem_cons_of_mem a hb)

section Run

variable (perform : (op : Op) → σ → Except ε (Reply op) × σ)

/-- Run the program as the script says: what it returns, if it does, and the state it leaves. -/
def runWith : Prog Op Reply ε α → Script ε → σ → Option α × σ
  | _, none :: _, s => (none, s)
  | ret a, _, s => (some a, s)
  | throw _, _, s => (none, s)
  | call op next, [], s => (next (perform op s).1).runWith [] (perform op s).2
  | call op next, some o :: script, s =>
    (next (o.perform (perform op s) s).1).runWith script (o.perform (perform op s) s).2

variable {perform}

theorem runWith_pure (a : α) (script : Script ε) (s : σ) :
    ((pure a : Prog Op Reply ε α).runWith perform script s).2 = s := by
  cases script with
  | nil => rfl
  | cons o script => cases o <;> rfl

theorem runWith_throw (e : ε) (script : Script ε) (s : σ) :
    (throw e : Prog Op Reply ε α).runWith perform script s = (none, s) := by
  cases script with
  | nil => rfl
  | cons o script => cases o <;> rfl

variable {p : Prog Op Reply ε α}

theorem runWith_of_stops (h : p.stops = true) (script : Script ε) (s : σ) :
    p.runWith perform script s = (none, s) := by
  cases p with
  | ret | call => cases h
  | throw e => exact runWith_throw e script s

/-- A run without disturbances. -/
theorem runWith_nil (p : Prog Op Reply ε α) (s : σ) :
    (p.runWith perform [] s).2 = (p.run perform s).2 := by
  induction p generalizing s with
  | ret | throw => rfl
  | call op next ih => exact ih (perform op s).1 (perform op s).2

/-- What no call of the program changes, a run of it does not change, however the calls go. -/
theorem runWith_keeps {P : Op → Prop} {I : σ → Prop}
    (h : ∀ op, P op → ∀ s, I s → I (perform op s).2) (hp : p.All P) (script : Script ε) {s : σ}
    (hs : I s) : I (p.runWith perform script s).2 := by
  induction p generalizing s script with
  | ret a => exact (runWith_pure a script s).symm ▸ hs
  | throw e => exact (runWith_throw e script s).symm ▸ hs
  | call op next ih =>
    cases script with
    | nil => exact ih _ (hp.2 _) [] (h op hp.1 s hs)
    | cons o script =>
      cases o with
      | none => exact hs
      | some o =>
        refine ih _ (hp.2 _) script ?_
        cases o with
        | done | lost => exact h op hp.1 s hs
        | refused e => exact hs

theorem run_keeps {P : Op → Prop} {I : σ → Prop} (h : ∀ op, P op → ∀ s, I s → I (perform op s).2)
    (hp : p.All P) {s : σ} (hs : I s) : I (p.run perform s).2 := by
  rw [← runWith_nil]
  exact runWith_keeps h hp [] hs

end Run

end Prog

/-! ## Footprints -/

section Footprint

variable {Op : Type} {Reply : Op → Type} {ε σ : Type}

/-- What is compared of two states, in parts: `track` is the part that a call changes unless it is
idle, `writes` says which parts it may change at all. -/
structure Footprint (perform : (op : Op) → σ → Except ε (Reply op) × σ) where
  Result : Type
  result : σ → Result
  Part : Type
  Value : Part → Type
  view : (k : Part) → Result → Value k
  track : Op → Option Part
  writes : Op → Part → Prop
  idle : Op → σ → Prop
  frame : ∀ {op k}, ¬ writes op k → ∀ s, view k (result (perform op s).2) = view k (result s)
  idle_of_view : ∀ {op s},
    (∀ k, track op = some k → view k (result (perform op s).2) = view k (result s)) → idle op s
  result_of_idle : ∀ {op s}, idle op s → result (perform op s).2 = result s

namespace Footprint

variable {perform : (op : Op) → σ → Except ε (Reply op) × σ} (F : Footprint perform)
  {α β : Type}

/-- Every call of the undisturbed run is idle where it is made. -/
def Quiet : Prog Op Reply ε α → σ → Prop
  | .ret _, _ => True
  | .throw _, _ => True
  | .call op next, s => F.idle op s ∧ Quiet (next (perform op s).1) (perform op s).2

/-- What is left after a failure that nobody caught has nothing to change; a call that failed and
was caught had nothing to change. -/
def Harmless : Prog Op Reply ε α → Script ε → σ → Prop
  | p, none :: _, s => F.Quiet p s
  | .ret _, _, _ => True
  | .throw _, _, _ => True
  | .call op next, [], s => Harmless (next (perform op s).1) [] (perform op s).2
  | .call op next, some .done :: script, s =>
    Harmless (next (perform op s).1) script (perform op s).2
  | .call op next, some (.refused e) :: script, s =>
    F.idle op s ∧
      if (next (.error e)).stops then F.Quiet (next (perform op s).1) (perform op s).2
      else Harmless (next (.error e)) script s
  | .call op next, some (.lost e) :: script, s =>
    if (next (.error e)).stops then F.Quiet (next (perform op s).1) (perform op s).2
    else Harmless (next (.error e)) script (perform op s).2

/-- In the undisturbed run, no call touches a part that an earlier one is recognised by, and a
call whose failure is caught is gone on from as if it had been done. -/
def Linear : Prog Op Reply ε α → σ → Prop
  | .ret _, _ => True
  | .throw _, _ => True
  | .call op next, s =>
    (∀ k, F.track op = some k →
      (next (perform op s).1).All (fun op' => ¬ F.writes op' k)) ∧
    (∀ e, (next (.error e)).stops = true ∨
      next (.error e) = next (perform op s).1 ∧ (F.idle op s → (perform op s).2 = s)) ∧
    Linear (next (perform op s).1) (perform op s).2

/-- The programs share no part that a call of the first is recognised by. -/
def Apart (p : Prog Op Reply ε α) (q : Prog Op Reply ε β) : Prop :=
  p.All (fun op => ∀ k, F.track op = some k → q.All (fun op' => ¬ F.writes op' k))

variable {F}

/-! ### Programs that are linear -/

variable {s : σ}

theorem Linear.ret {a : α} : F.Linear (pure a : Prog Op Reply ε α) s := trivial

theorem Linear.throw {e : ε} : F.Linear (.throw e : Prog Op Reply ε α) s := trivial

theorem Linear.ite {c : Prop} [Decidable c] {p q : Prog Op Reply ε α} (hp : c → F.Linear p s)
    (hq : ¬ c → F.Linear q s) : F.Linear (if c then p else q) s := by
  split
  next hc => exact hp hc
  next hc => exact hq hc

theorem Linear.call (op : Op) (s : σ) : F.Linear (Prog.perform op : Prog Op Reply ε _) s := by
  refine ⟨fun k _ => ?_, fun e => .inl rfl, ?_⟩
  · cases (perform op s).1 with
    | ok | error => trivial
  · cases (perform op s).1 with
    | ok | error => trivial

/-- A call whose failure is caught, where it leaves the state alone unless it changes the result. -/
theorem Linear.attempt {op : Op} {a : Reply op} (hreply : (perform op s).1 = .ok a)
    (hidle : F.idle op s → (perform op s).2 = s) :
    F.Linear (attempt op a : Prog Op Reply ε _) s := by
  unfold Prog.attempt Prog.perform Prog.tryCatch Linear
  rw [hreply]
  exact ⟨fun k _ => trivial, fun e => .inr ⟨rfl, hidle⟩, trivial⟩

variable {p : Prog Op Reply ε α}

theorem Linear.bind {f : α → Prog Op Reply ε β} (hp : F.Linear p s) (hapart : ∀ a, F.Apart p (f a))
    (hf : ∀ a s', p.run perform s = (.ok a, s') → F.Linear (f a) s') : F.Linear (p >>= f) s := by
  induction p generalizing s with
  | ret a => exact hf a s rfl
  | throw e => trivial
  | call op next ih =>
    obtain ⟨htrack, hfail, hnext⟩ := hp
    refine ⟨fun k hk => (htrack k hk).bind fun a => (hapart a).1 k hk, fun e => ?_,
      ih _ hnext (fun a => (hapart a).2 _) hf⟩
    rcases hfail e with hstops | ⟨heq, hidle⟩
    · -- what has thrown does not go on
      refine .inl ?_
      change ((next (.error e)).bind f).stops = true
      cases hthrown : next (.error e) with
      | ret | call =>
        rw [hthrown] at hstops
        cases hstops
      | throw e' => rfl
    · exact .inr ⟨congrArg (fun q => Prog.bind q f) heq, hidle⟩

theorem Linear.forEach {f : α → Prog Op Reply ε Unit} {as : List α}
    (hf : ∀ a ∈ as, ∀ s, F.Linear (f a) s) (hapart : as.Pairwise (fun a b => F.Apart (f a) (f b)))
    (s : σ) : F.Linear (forEach f as) s := by
  induction as generalizing s with
  | nil => trivial
  | cons a as ih =>
    obtain ⟨hhead, htail⟩ := List.pairwise_cons.mp hapart
    refine Linear.bind (hf a (by simp) s) (fun _ => ?_) fun _ s' _ =>
      ih (fun b hb => hf b (List.mem_cons_of_mem a hb)) htail s'
    have hall : ∀ b ∈ as, F.Apart (f a) (f b) := hhead
    clear hhead htail hapart ih hf
    generalize f a = p at hall
    induction p with
    | ret | throw => trivial
    | call op next ih =>
      exact ⟨fun k hk => Prog.All.forEach fun b hb => (hall b hb).1 k hk,
        fun r => ih r fun b hb => (hall b hb).2 r⟩

/-! ### Runs of linear programs -/

theorem view_runWith {k : F.Part} (hp : p.All (fun op => ¬ F.writes op k)) (script : Script ε)
    (s : σ) :
    F.view k (F.result (p.runWith perform script s).2) = F.view k (F.result s) :=
  runWith_keeps (I := fun s' => F.view k (F.result s') = F.view k (F.result s))
    (fun _ hop s' hs' => (F.frame hop s').trans hs') hp script rfl

theorem view_run {k : F.Part} (hp : p.All (fun op => ¬ F.writes op k)) (s : σ) :
    F.view k (F.result (p.run perform s).2) = F.view k (F.result s) := by
  rw [← runWith_nil]
  exact view_runWith hp [] s

theorem Quiet.result (h : F.Quiet p s) :
    F.result (p.run perform s).2 = F.result s := by
  induction p generalizing s with
  | ret | throw => rfl
  | call op next ih => exact (ih _ h.2).trans (F.result_of_idle h.1)

/-- A linear program that ends where it began had nothing to change. -/
theorem Linear.quiet_iff (h : F.Linear p s) :
    F.Quiet p s ↔ F.result (p.run perform s).2 = F.result s := by
  refine ⟨Quiet.result, fun hsame => ?_⟩
  induction p generalizing s with
  | ret | throw => trivial
  | call op next ih =>
    obtain ⟨htrack, -, hnext⟩ := h
    have hidle : F.idle op s := F.idle_of_view fun k hk =>
      (view_run (htrack k hk) _).symm.trans (congrArg (F.view k) hsame)
    exact ⟨hidle, ih _ hnext (hsame.trans (F.result_of_idle hidle).symm)⟩

/-- A scripted run of a linear program leaves what the undisturbed one leaves exactly when its
failures are harmless. -/
theorem Linear.result_iff (h : F.Linear p s) (script : Script ε) :
    F.result (p.runWith perform script s).2 = F.result (p.run perform s).2 ↔
      F.Harmless p script s := by
  induction p generalizing s script with
  | ret | throw =>
    cases script with
    | nil => exact iff_of_true rfl trivial
    | cons o script => cases o <;> exact iff_of_true rfl trivial
  | call op next ih =>
    have hquiet := h.quiet_iff
    obtain ⟨htrack, hfail, hnext⟩ := h
    match script with
    | [] => exact ih _ hnext []
    | none :: script => exact eq_comm.trans hquiet.symm
    | some .done :: script => exact ih _ hnext script
    | some (.refused e) :: script =>
      unfold Harmless
      change F.result ((next (.error e)).runWith perform script s).2 = _ ↔ _
      by_cases hstops : (next (.error e)).stops = true
      · rw [if_pos hstops, runWith_of_stops hstops]
        exact eq_comm.trans hquiet.symm
      · obtain ⟨heq, hkept⟩ := (hfail e).resolve_left hstops
        rw [if_neg hstops, heq]
        constructor
        · intro hsame
          -- neither run touches the call's part any more, so the call was idle
          have hidle : F.idle op s := F.idle_of_view fun k hk => by
            have hleft := view_runWith (htrack k hk) script s
            have hright := view_run (htrack k hk) (perform op s).2
            exact hright.symm.trans ((congrArg (F.view k) hsame).symm.trans hleft)
          refine ⟨hidle, ?_⟩
          change _ = F.result ((next (perform op s).1).run perform (perform op s).2).2 at hsame
          rw [hkept hidle] at hnext hsame
          exact (ih _ hnext script).mp hsame
        · rintro ⟨hidle, hrest⟩
          change _ = F.result ((next (perform op s).1).run perform (perform op s).2).2
          rw [hkept hidle] at hnext ⊢
          exact (ih _ hnext script).mpr hrest
    | some (.lost e) :: script =>
      unfold Harmless
      change F.result ((next (.error e)).runWith perform script (perform op s).2).2 = _ ↔ _
      by_cases hstops : (next (.error e)).stops = true
      · rw [if_pos hstops, runWith_of_stops hstops]
        exact eq_comm.trans hnext.quiet_iff.symm
      · rw [if_neg hstops, ((hfail e).resolve_left hstops).1]
        exact ih _ hnext script

end Footprint

end Footprint

/-! ## What a scripted run leaves -/

section Ensures

variable {Op : Type} {Reply : Op → Type} {ε σ α β : Type}

/-- A condition on the calls of a scripted run, and on the states its process dies in. -/
structure Terms (ε σ : Type) (Op : Type) where
  ok : Op → Outcome ε → σ → Prop
  mayDie : σ → Prop

namespace Prog

variable (perform : (op : Op) → σ → Except ε (Reply op) × σ) (T : Terms ε σ Op)

/-- The scripted run meets the terms. -/
def Meets : Prog Op Reply ε α → Script ε → σ → Prop
  | _, none :: _, s => T.mayDie s
  | ret _, _, _ => True
  | throw _, _, _ => True
  | call op next, [], s =>
    T.ok op .done s ∧ Meets (next (perform op s).1) [] (perform op s).2
  | call op next, some o :: script, s =>
    T.ok op o s ∧
      Meets (next (o.perform (perform op s) s).1) script (o.perform (perform op s) s).2

/-- However the calls go, under the terms: what the program returns meets `Q`, what it throws meets
`E`, and where it dies `D` holds. -/
def Ensures (D : σ → Prop) (Q : α → σ → Prop) (E : ε → σ → Prop) : Prog Op Reply ε α → σ → Prop
  | ret a, s => (T.mayDie s → D s) ∧ Q a s
  | throw e, s => (T.mayDie s → D s) ∧ E e s
  | call op next, s =>
    (T.mayDie s → D s) ∧
      ∀ o, T.ok op o s → Ensures D Q E (next (o.perform (perform op s) s).1)
        (o.perform (perform op s) s).2

variable {perform T} {D : σ → Prop} {Q : α → σ → Prop} {E : ε → σ → Prop} {s : σ}

theorem Ensures.ret {a : α} (hdead : T.mayDie s → D s) (h : Q a s) :
    (pure a : Prog Op Reply ε α).Ensures perform T D Q E s := ⟨hdead, h⟩

theorem Ensures.throw {e : ε} (hdead : T.mayDie s → D s) (h : E e s) :
    (throw e : Prog Op Reply ε α).Ensures perform T D Q E s := ⟨hdead, h⟩

theorem Ensures.ite {c : Prop} [Decidable c] {p q : Prog Op Reply ε α}
    (hp : c → p.Ensures perform T D Q E s) (hq : ¬ c → q.Ensures perform T D Q E s) :
    (if c then p else q).Ensures perform T D Q E s := by
  split
  next hc => exact hp hc
  next hc => exact hq hc

/-- One call, as it is done or as it fails. -/
theorem Ensures.call {op : Op} {Q : Reply op → σ → Prop} (hdead : T.mayDie s → D s)
    (h : ∀ o r s', T.ok op o s → o.perform (perform op s) s = (r, s') →
      (T.mayDie s' → D s') ∧ (∀ a, r = .ok a → Q a s') ∧ ∀ e, r = .error e → E e s') :
    (Prog.perform op : Prog Op Reply ε (Reply op)).Ensures perform T D Q E s := by
  refine ⟨hdead, fun o hok => ?_⟩
  obtain ⟨hdead', hret, hthrow⟩ := h o _ _ hok rfl
  cases hr : (o.perform (perform op s) s).1 with
  | ok a => exact ⟨hdead', hret a hr⟩
  | error e => exact ⟨hdead', hthrow e hr⟩

variable {p : Prog Op Reply ε α}

theorem Ensures.mono {Q' : α → σ → Prop} {E' : ε → σ → Prop} (h : p.Ensures perform T D Q E s)
    (hQ : ∀ a s, Q a s → Q' a s) (hE : ∀ e s, E e s → E' e s) :
    p.Ensures perform T D Q' E' s := by
  induction p generalizing s with
  | ret a => exact ⟨h.1, hQ a s h.2⟩
  | throw e => exact ⟨h.1, hE e s h.2⟩
  | call op next ih => exact ⟨h.1, fun o hok => ih _ (h.2 o hok)⟩

theorem Ensures.bind {p : Prog Op Reply ε β} {f : β → Prog Op Reply ε α} {R : β → σ → Prop}
    (hp : p.Ensures perform T D R E s) (hf : ∀ b s, R b s → (f b).Ensures perform T D Q E s) :
    (p >>= f).Ensures perform T D Q E s := by
  induction p generalizing s with
  | ret b => exact hf b s hp.2
  | throw e => exact hp
  | call op next ih => exact ⟨hp.1, fun o hok => ih _ (hp.2 o hok)⟩

theorem Ensures.tryCatch {handler : ε → Prog Op Reply ε α} {F : ε → σ → Prop}
    (hp : p.Ensures perform T D Q F s) (hh : ∀ e s, F e s → (handler e).Ensures perform T D Q E s) :
    (p.tryCatch handler).Ensures perform T D Q E s := by
  induction p generalizing s with
  | ret a => exact hp
  | throw e => exact hh e s hp.2
  | call op next ih => exact ⟨hp.1, fun o hok => ih _ (hp.2 o hok)⟩

/-- A loop, by what holds with the items that are still to come. -/
theorem Ensures.forEach {f : β → Prog Op Reply ε Unit} {I : List β → σ → Prop}
    (hdead : ∀ s, I [] s → T.mayDie s → D s)
    (hf : ∀ b bs s, I (b :: bs) s → (f b).Ensures perform T D (fun _ s' => I bs s') E s)
    (bs : List β) (h : I bs s) :
    (forEach f bs).Ensures perform T D (fun _ s' => I [] s') E s := by
  induction bs generalizing s with
  | nil => exact ⟨hdead s h, h⟩
  | cons b bs ih => exact (hf b bs s h).bind fun _ s' hs' => ih hs'

/-- A run that meets the terms ends as it should. -/
theorem Ensures.run {R : σ → Prop} (h : p.Ensures perform T D Q E s) (hD : ∀ s, D s → R s)
    (hQ : ∀ a s, Q a s → R s) (hE : ∀ e s, E e s → R s) {script : Script ε}
    (hscript : p.Meets perform T script s) : R (p.runWith perform script s).2 := by
  induction p generalizing s script with
  | ret a =>
    match script with
    | [] => exact hQ a s h.2
    | none :: script => exact hD s (h.1 hscript)
    | some o :: script => exact hQ a s h.2
  | throw e =>
    match script with
    | [] => exact hE e s h.2
    | none :: script => exact hD s (h.1 hscript)
    | some o :: script => exact hE e s h.2
  | call op next ih =>
    match script with
    | [] => exact ih _ (h.2 .done hscript.1) hscript.2
    | none :: script => exact hD s (h.1 hscript)
    | some o :: script => exact ih _ (h.2 o hscript.1) hscript.2

instance Meets.decidable [∀ op o s, Decidable (T.ok op o s)] [∀ s, Decidable (T.mayDie s)] :
    (p : Prog Op Reply ε α) → (script : Script ε) → (s : σ) → Decidable (p.Meets perform T script s)
  | ret _, none :: _, s => inferInstanceAs (Decidable (T.mayDie s))
  | throw _, none :: _, s => inferInstanceAs (Decidable (T.mayDie s))
  | call _ _, none :: _, s => inferInstanceAs (Decidable (T.mayDie s))
  | ret _, [], _ => isTrue trivial
  | ret _, some _ :: _, _ => isTrue trivial
  | throw _, [], _ => isTrue trivial
  | throw _, some _ :: _, _ => isTrue trivial
  | call op next, [], s =>
    have : Decidable ((next (perform op s).1).Meets perform T [] (perform op s).2) :=
      Meets.decidable (next (perform op s).1) [] (perform op s).2
    inferInstanceAs (Decidable (_ ∧ _))
  | call op next, some o :: script, s =>
    have : Decidable ((next (o.perform (perform op s) s).1).Meets perform T script
        (o.perform (perform op s) s).2) :=
      Meets.decidable (next (o.perform (perform op s) s).1) script (o.perform (perform op s) s).2
    inferInstanceAs (Decidable (_ ∧ _))

end Prog

end Ensures

end Tasks
