/-
The release of stock by a compensation that is repeated until it succeeds
(`orderCompensation.js`).

The compensation has no transaction: the reservation is RELEASED before the first product
is touched, and a call that fails ends the attempt. The next attempt reads RELEASED and
restores nothing. So the lines are all restored exactly when the attempt that flips the
flag fails at no call with a line still to be restored.
-/
import DiscountBazar.Inventory.ReleaseOnce

namespace DiscountBazar.Inventory

open Tasks Function Prog List

/-! ## Attempts -/

inductive Call where
  | findOrder
  | claim
  | increment (index : ℕ)
  | heal (index : ℕ)
  | save
  | rest
  deriving DecidableEq

def Op.callOf : Op → Call
  | .findOrder => .findOrder
  | .claimReservationRelease => .claim
  | .incrementProductStock index _ => .increment index
  | .keepMasterStock index _ _ => .heal index
  | .saveOrder _ => .save
  | _ => .rest

/-- How each call of an attempt ends, if it is made. -/
abbrev Outcomes := Call → Outcome

def attemptOp (o : Outcomes) (op : Op) (w : World) : Except ServiceError op.Reply × World :=
  performOp 0 op (o op.callOf) w

def attempt (o : Outcomes) (w : World) : Except ServiceError Unit × World :=
  (compensateOrderCancellation false).run (attemptOp o) w

/-- The compensation repeated until it succeeds; `none` where no attempt does. -/
def repeatUntilDone (w : World) : List Outcomes → Option World
  | [] => none
  | o :: os =>
    match attempt o w with
    | (.ok _, w') => some w'
    | (.error _, w') => repeatUntilDone w' os

/-! ## What is due -/

/-- The products that still exist. -/
def present (products : Products) (id : ObjectId) : Bool := (products id).isSome

def due (exist : ObjectId → Bool) (items : List (Line × ℕ)) : List Increment :=
  (items.filter (fun item => decide (item.1.quantity ≠ 0) && exist item.1.product)).map
    (fun item => ⟨0, item.2, item.1.quantity⟩)

/-- The same stock, but for the master of a product with variants that count, which a
self-heal sets to their sum. -/
def UpToHeal : Option Product → Option Product → Prop
  | none, none => True
  | some p, some q =>
    p.variants = q.variants ∧
      (q.variants.any (fun v => v.stock.isSome) = false → p.stock = q.stock)
  | _, _ => False

/-- Every line of the order was restored once with its quantity, and the products have
what they had and these quantities. -/
structure RestoredExactly (w w' : World) : Prop where
  once : w'.restored = due (present w.products) w.order.items.zipIdx
  stocks : ∀ id, UpToHeal (w'.products id) (restoreLines w.products w.order.items id)

/-! ## The condition -/

def Outcome.isDone : Outcome → Bool
  | .done => true
  | _ => false

def Outcome.isRefused : Outcome → Bool
  | .refused _ => true
  | _ => false

/-- The attempt flips the reservation to RELEASED, where it is not yet. -/
def claims (o : Outcomes) : Bool := (o .findOrder).isDone && !(o .claim).isRefused

/-- No call for the line fails while it or a later line is still to be restored. -/
def LineKept (o : Outcomes) (exist : ObjectId → Bool) (item : Line × ℕ)
    (items : List (Line × ℕ)) : Prop :=
  item.1.quantity ≠ 0 →
    ((o (.increment item.2)).isRefused = true → due exist (item :: items) = []) ∧
    ((o (.increment item.2)).isDone = false → due exist items = []) ∧
    (exist item.1.product = true → (o (.heal item.2)).isDone = false → due exist items = [])

/-- No call for these lines fails while one of them is still to be restored. -/
def NoneLost (o : Outcomes) (exist : ObjectId → Bool) : List (Line × ℕ) → Prop
  | [] => True
  | item :: items => LineKept o exist item items ∧ NoneLost o exist items

/-- In the attempt that flips the flag, the flip is answered and none of the lines is lost. -/
def KeepsAll (exist : ObjectId → Bool) (items : List (Line × ℕ)) : List Outcomes → Prop
  | [] => True
  | o :: os =>
    if claims o = true then (o .claim).isDone = true ∧ NoneLost o exist items
    else KeepsAll exist items os

instance (o : Outcomes) (exist : ObjectId → Bool) (item : Line × ℕ) (items : List (Line × ℕ)) :
    Decidable (LineKept o exist item items) := inferInstanceAs (Decidable (_ → _ ∧ _ ∧ _))

instance decidableNoneLost (o : Outcomes) (exist : ObjectId → Bool) :
    (items : List (Line × ℕ)) → Decidable (NoneLost o exist items)
  | [] => isTrue trivial
  | item :: items =>
    have : Decidable (NoneLost o exist items) := decidableNoneLost o exist items
    inferInstanceAs (Decidable (LineKept o exist item items ∧ NoneLost o exist items))

instance decidableKeepsAll (exist : ObjectId → Bool) (items : List (Line × ℕ)) :
    (os : List Outcomes) → Decidable (KeepsAll exist items os)
  | [] => isTrue trivial
  | o :: os =>
    have : Decidable (KeepsAll exist items os) := decidableKeepsAll exist items os
    inferInstanceAs (Decidable (if claims o = true then
      (o .claim).isDone = true ∧ NoneLost o exist items else KeepsAll exist items os))

/-! ## Stock up to the self-heal -/

section Stocks

variable {p q : Product} {a b : Option Product}

theorem UpToHeal.refl (a : Option Product) : UpToHeal a a := by
  cases a with
  | none => trivial
  | some p => exact ⟨rfl, fun _ => rfl⟩

theorem UpToHeal.isSome (h : UpToHeal a b) : a.isSome = b.isSome := by
  cases a with
  | none =>
    cases b with
    | none => rfl
    | some q => exact absurd h id
  | some p =>
    cases b with
    | none => exact absurd h id
    | some q => rfl

theorem UpToHeal.increment (h : UpToHeal (some p) (some q)) {l : Line} (hl : l.quantity ≠ 0) :
    UpToHeal (some (p.increment l)) (some (q.restore l)) := by
  obtain ⟨hvariants, hstock⟩ := h
  refine ⟨?_, fun hany => ?_⟩
  · rw [restore_variants q l hl, released_eq, hvariants]
  · rw [restore_variants q l hl, any_released] at hany
    rw [restore_stock q l hl, if_neg (by rw [hany]; decide), (increment_cases p l).1, hstock hany]

theorem UpToHeal.keepMasterStock {w : World} {id : ObjectId} (hw : w.products id = some p)
    (h : UpToHeal (some p) b) :
    ∀ id', UpToHeal ((w.keepMasterStock id p).products id') (if id' = id then b else w.products id') := by
  intro id'
  unfold World.keepMasterStock
  by_cases hsame : p.healReleased.stock = p.stock
  · rw [if_pos hsame]
    split
    next hid =>
      rw [hid, hw]
      exact h
    next => exact UpToHeal.refl _
  · rw [if_neg hsame]
    dsimp only
    by_cases hid : id' = id
    · rw [if_pos hid, hid, update_self, hw, Option.map_some]
      cases b with
      | none => exact absurd h (fun h => h)
      | some q =>
        refine ⟨h.1, fun hany => ?_⟩
        refine absurd ?_ hsame
        unfold Product.healReleased
        rw [if_neg (by rw [h.1, hany]; decide)]
    · rw [if_neg hid, update_of_ne hid]
      exact UpToHeal.refl _

end Stocks

/-! ## What is due, line by line -/

section Due

variable {o : Outcomes} {exist : ObjectId → Bool} {item : Line × ℕ} {items : List (Line × ℕ)}
  {b : Products}

theorem due_cons (exist : ObjectId → Bool) (item : Line × ℕ) (items : List (Line × ℕ)) :
    due exist (item :: items) = due exist [item] ++ due exist items := by
  unfold due
  rw [← map_append, ← filter_append, singleton_append]

theorem due_of_restorable (hquantity : item.1.quantity ≠ 0) (hexist : exist item.1.product = true) :
    due exist [item] = [⟨0, item.2, item.1.quantity⟩] := by
  simp [due, hquantity, hexist]

theorem due_of_not (h : item.1.quantity = 0 ∨ exist item.1.product = false) :
    due exist [item] = [] := by
  rcases h with h | h
  · simp [due, h]
  · simp [due, h]

theorem due_of_cons (h : due exist (item :: items) = []) :
    due exist [item] = [] ∧ due exist items = [] := by
  rw [due_cons] at h
  exact append_eq_nil_iff.mp h

theorem noneLost_of_due (h : due exist items = []) : NoneLost o exist items := by
  induction items with
  | nil => trivial
  | cons item items ih =>
    have hrest := (due_of_cons h).2
    exact ⟨fun _ => ⟨fun _ => h, fun _ => hrest, fun _ _ => hrest⟩, ih hrest⟩

theorem restoreLine_of_due (hb : ∀ id, (b id).isSome = exist id) (h : due exist [item] = []) :
    restoreLine b item.1 = b := by
  unfold restoreLine
  have hsame : (b item.1.product).map (fun p => p.restore item.1) = b item.1.product := by
    cases hp : b item.1.product with
    | none => rfl
    | some p =>
      have hexist : exist item.1.product = true := by
        rw [← hb, hp]
        rfl
      by_cases hquantity : item.1.quantity = 0
      · rw [Option.map_some, Product.restore, if_pos hquantity]
      · rw [due_of_restorable hquantity hexist] at h
        cases h
  rw [hsame, update_eq_self]

theorem isSome_restoreLine (b : Products) (l : Line) (id : ObjectId) :
    (restoreLine b l id).isSome = (b id).isSome := by
  unfold restoreLine
  by_cases hid : id = l.product
  · rw [hid, update_self, Option.isSome_map]
  · rw [update_of_ne hid]

theorem restoreLines_of_due (hb : ∀ id, (b id).isSome = exist id) (h : due exist items = []) :
    restoreLines b (items.map Prod.fst) = b := by
  induction items with
  | nil => rfl
  | cons item items ih =>
    obtain ⟨hitem, hrest⟩ := due_of_cons h
    rw [map_cons, restoreLines, foldl_cons, restoreLine_of_due hb hitem]
    exact ih hrest

end Due

/-! ## One line of an attempt -/

section Lines

variable {o : Outcomes} {exist : ObjectId → Bool} {w w' : World} {b : Products} {item : Line × ℕ}
  {items : List (Line × ℕ)}

def StockIs (w : World) (b : Products) : Prop := ∀ id, UpToHeal (w.products id) (b id)

inductive LineEnd (o : Outcomes) (exist : ObjectId → Bool) (item : Line × ℕ) (b : Products)
    (w : World) : Except ServiceError Unit × World → Prop
  | kept {w' : World} (order : w'.order = w.order)
      (restored : w'.restored = w.restored ++ due exist [item])
      (stock : StockIs w' (restoreLine b item.1)) (none : ∀ items, LineKept o exist item items) :
      LineEnd o exist item b w (.ok (), w')
  | before (e : ServiceError)
      (lost : ∀ items, LineKept o exist item items ↔ due exist (item :: items) = []) :
      LineEnd o exist item b w (.error e, w)
  | after {w' : World} (e : ServiceError) (order : w'.order = w.order)
      (restored : w'.restored = w.restored ++ due exist [item])
      (stock : StockIs w' (restoreLine b item.1))
      (lost : ∀ items, LineKept o exist item items ↔ due exist items = []) :
      LineEnd o exist item b w (.error e, w')

theorem stockIs_restock {p : Product} (hp : w.products item.1.product = some p)
    (hb : StockIs w b) (hquantity : item.1.quantity ≠ 0) :
    StockIs (w.restock 0 item.2 item.1 p) (restoreLine b item.1) := by
  intro id
  have hid := hb id
  unfold World.restock restoreLine
  dsimp only
  by_cases h : id = item.1.product
  · subst h
    rw [hp] at hid
    rw [update_self, update_self]
    cases hq : b item.1.product with
    | none =>
      rw [hq] at hid
      exact absurd hid (fun h => h)
    | some q =>
      rw [hq] at hid
      exact hid.increment hquantity
  · rw [update_of_ne h, update_of_ne h]
    exact hid

theorem stockIs_keepMasterStock {p : Product} {id : ObjectId} (hp : w.products id = some p)
    (hb : StockIs w b) : StockIs (w.keepMasterStock id p) b := by
  intro id'
  have hid := hb id
  rw [hp] at hid
  have hheal := hid.keepMasterStock hp id'
  by_cases h : id' = id
  · rw [if_pos h] at hheal
    rw [h] at hheal ⊢
    exact hheal
  · unfold World.keepMasterStock
    split
    · exact hb id'
    · dsimp only
      rw [update_of_ne h]
      exact hb id'

def ended {α : Type} (outcome : Outcome) (w : World) (r : α × World) : Except ServiceError α × World :=
  match outcome with
  | .done => (.ok r.1, r.2)
  | .refused e => (.error e, w)
  | .lost e => (.error e, r.2)

theorem run_incrementProductStock (o : Outcomes) (w : World) :
    (incrementProductStock item.2 item.1).run (attemptOp o) w
      = ended (o (.increment item.2)) w (w.incrementProductStock 0 item.2 item.1) := by
  refine (run_perform _ w).trans ?_
  change performOp 0 _ (o (.increment item.2)) w = _
  cases o (.increment item.2) <;> rfl

theorem run_keepMasterStock (o : Outcomes) (w : World) (p : Product) :
    (keepMasterStock item.2 item.1.product p).run (attemptOp o) w
      = ended (o (.heal item.2)) w ((), w.keepMasterStock item.1.product p) := by
  refine (run_perform _ w).trans ?_
  change performOp 0 _ (o (.heal item.2)) w = _
  cases o (.heal item.2) <;> rfl

theorem lineKept_of_done (hinc : o (.increment item.2) = .done)
    (hheal : exist item.1.product = true → o (.heal item.2) = .done) :
    LineKept o exist item items := by
  refine fun _ => ⟨fun h => ?_, fun h => ?_, fun hexist h => ?_⟩
  · rw [hinc] at h
    cases h
  · rw [hinc] at h
    cases h
  · rw [hheal hexist] at h
    cases h

theorem lineKept_of_refused (hquantity : item.1.quantity ≠ 0)
    (hinc : (o (.increment item.2)).isRefused = true) :
    LineKept o exist item items ↔ due exist (item :: items) = [] := by
  constructor
  · intro h
    exact (h hquantity).1 hinc
  · intro h
    have hrest := (due_of_cons h).2
    exact fun _ => ⟨fun _ => h, fun _ => hrest, fun _ _ => hrest⟩

theorem lineKept_of_unfinished (hquantity : item.1.quantity ≠ 0)
    (hinc : (o (.increment item.2)).isRefused = false)
    (hcall : (o (.increment item.2)).isDone = false ∨
      exist item.1.product = true ∧ (o (.heal item.2)).isDone = false) :
    LineKept o exist item items ↔ due exist items = [] := by
  constructor
  · intro h
    obtain ⟨-, hincrement, hheal⟩ := h hquantity
    rcases hcall with hcall | ⟨hexist, hcall⟩
    · exact hincrement hcall
    · exact hheal hexist hcall
  · intro h
    refine fun _ => ⟨fun hrefused => ?_, fun _ => h, fun _ _ => h⟩
    rw [hinc] at hrefused
    cases hrefused

theorem order_keepMasterStock (w : World) (id : ObjectId) (p : Product) :
    (w.keepMasterStock id p).order = w.order ∧ (w.keepMasterStock id p).restored = w.restored := by
  unfold World.keepMasterStock
  split
  · exact ⟨rfl, rfl⟩
  · exact ⟨rfl, rfl⟩

theorem run_restoreItem (hb : StockIs w b) (hexist : ∀ id, (w.products id).isSome = exist id) :
    LineEnd o exist item b w ((restoreItem item).run (attemptOp o) w) := by
  have hb' : ∀ id, (b id).isSome = exist id := fun id => (hb id).isSome.symm.trans (hexist id)
  unfold restoreItem
  by_cases hquantity : item.1.quantity = 0
  · -- a line without a quantity is passed over
    rw [if_pos hquantity, run_pure]
    have hnone : due exist [item] = [] := due_of_not (.inl hquantity)
    refine .kept rfl (by rw [hnone, append_nil]) ?_ (fun _ h => absurd hquantity h)
    rw [restoreLine_of_due hb' hnone]
    exact hb
  · rw [if_neg hquantity]
    have hrun : (incrementProductStock item.2 item.1).run (attemptOp o) w = _ :=
      run_incrementProductStock o w
    rw [run_bind, hrun]
    cases hp : w.products item.1.product with
    | none =>
      -- a product deleted since placement: nothing to restore, with or without an answer
      have hinc : w.incrementProductStock 0 item.2 item.1 = (none, w) := by
        unfold World.incrementProductStock
        rw [hp]
      have hmissing : exist item.1.product = false := by
        rw [← hexist, hp]
        rfl
      have hnone : due exist [item] = [] := due_of_not (.inr hmissing)
      rw [hinc]
      cases hout : o (.increment item.2) with
      | done =>
        refine .kept rfl (by rw [hnone, append_nil]) ?_ (fun items => ?_)
        · rw [restoreLine_of_due hb' hnone]
          exact hb
        · refine lineKept_of_done hout (fun h => ?_)
          rw [hmissing] at h
          cases h
      | refused e =>
        exact .before e (fun items => lineKept_of_refused hquantity (by rw [hout]; rfl))
      | lost e =>
        refine .before e (fun items => ?_)
        rw [due_cons, hnone, nil_append]
        exact lineKept_of_unfinished hquantity (by rw [hout]; rfl) (.inl (by rw [hout]; rfl))
    | some p =>
      have hinc : w.incrementProductStock 0 item.2 item.1
          = (some (p.increment item.1), w.restock 0 item.2 item.1 p) := by
        unfold World.incrementProductStock
        rw [hp]
      have hthere : exist item.1.product = true := by
        rw [← hexist, hp]
        rfl
      have hstock := stockIs_restock hp hb hquantity
      have hrestored : (w.restock 0 item.2 item.1 p).restored = w.restored ++ due exist [item] := by
        rw [due_of_restorable hquantity hthere]
        rfl
      rw [hinc]
      cases hout : o (.increment item.2) with
      | refused e =>
        exact .before e (fun items => lineKept_of_refused hquantity (by rw [hout]; rfl))
      | lost e =>
        exact .after e rfl hrestored hstock (fun items =>
          lineKept_of_unfinished hquantity (by rw [hout]; rfl) (.inl (by rw [hout]; rfl)))
      | done =>
        have hnow : (w.restock 0 item.2 item.1 p).products item.1.product
            = some (p.increment item.1) := update_self ..
        obtain ⟨horder', hrestored'⟩ :=
          order_keepMasterStock (w.restock 0 item.2 item.1 p) item.1.product (p.increment item.1)
        have hstock' := stockIs_keepMasterStock hnow hstock
        have hunfinished : (o (.heal item.2)).isDone = false →
            ∀ items, LineKept o exist item items ↔ due exist items = [] := fun h items =>
          lineKept_of_unfinished hquantity (by rw [hout]; rfl) (.inr ⟨hthere, h⟩)
        change LineEnd o exist item b w ((keepMasterStock item.2 item.1.product
          (p.increment item.1)).run (attemptOp o) (w.restock 0 item.2 item.1 p))
        rw [run_keepMasterStock]
        cases hheal : o (.heal item.2) with
        | done =>
          exact .kept horder' (hrestored'.trans hrestored) hstock'
            (fun items => lineKept_of_done hout (fun _ => hheal))
        | refused e =>
          exact .after e rfl hrestored hstock (hunfinished (by rw [hheal]; rfl))
        | lost e =>
          exact .after e horder' (hrestored'.trans hrestored) hstock'
            (hunfinished (by rw [hheal]; rfl))

/-! ## All lines of an attempt -/

/-- How the release of the lines ends: none of them is lost exactly under the condition. -/
structure LinesEnd (o : Outcomes) (exist : ObjectId → Bool) (items : List (Line × ℕ))
    (b : Products) (w : World) (r : Except ServiceError Unit × World) : Prop where
  order : r.2.order = w.order
  once : r.2.restored = w.restored ++ due exist items ↔ NoneLost o exist items
  stock : NoneLost o exist items → StockIs r.2 (restoreLines b (items.map Prod.fst))
  returns : (∃ u, r.1 = .ok u) → NoneLost o exist items

theorem run_restoreItems (hb : StockIs w b) (hexist : ∀ id, (w.products id).isSome = exist id) :
    LinesEnd o exist items b w ((restoreItems items).run (attemptOp o) w) := by
  induction items generalizing w b with
  | nil =>
    refine ⟨rfl, ⟨fun _ => trivial, fun _ => (append_nil _).symm⟩, fun _ => hb, fun _ => trivial⟩
  | cons item items ih =>
    have hb' : ∀ id, (b id).isSome = exist id := fun id => (hb id).isSome.symm.trans (hexist id)
    unfold restoreItems
    rw [run_bind]
    have hitem : LineEnd o exist item b w ((restoreItem item).run (attemptOp o) w) :=
      run_restoreItem hb hexist
    generalize hr : (restoreItem item).run (attemptOp o) w = r at hitem
    cases hitem with
    | @kept w₁ horder hrestored hstock hkept =>
      -- the line is restored and the attempt goes on
      have hexist₁ : ∀ id, (w₁.products id).isSome = exist id := by
        intro id
        rw [(hstock id).isSome, isSome_restoreLine, hb']
      have hrest := ih hstock hexist₁
      refine ⟨hrest.order.trans horder, ?_, ?_, fun hret => ⟨hkept items, hrest.returns hret⟩⟩
      · change ((restoreItems items).run (attemptOp o) w₁).2.restored = _ ↔ _ ∧ _
        rw [due_cons, ← append_assoc, ← hrestored, hrest.once]
        exact (and_iff_right (hkept items)).symm
      · rintro ⟨-, hnone⟩
        exact hrest.stock hnone
    | before e hlost =>
      refine ⟨rfl, ?_, ?_, ?_⟩
      · change w.restored = _ ↔ _
        constructor
        · intro h
          have hdue : due exist (item :: items) = [] := self_eq_append_right.mp h
          exact ⟨(hlost items).mpr hdue, noneLost_of_due (due_of_cons hdue).2⟩
        · rintro ⟨hline, -⟩
          rw [(hlost items).mp hline, append_nil]
      · rintro ⟨hline, -⟩
        rw [restoreLines_of_due hb' ((hlost items).mp hline)]
        exact hb
      · rintro ⟨u, hu⟩
        cases hu
    | @after w₁ e horder hrestored hstock hlost =>
      refine ⟨horder, ?_, ?_, ?_⟩
      · change w₁.restored = _ ↔ _
        rw [due_cons, ← append_assoc, ← hrestored]
        constructor
        · intro h
          have hdue : due exist items = [] := self_eq_append_right.mp h
          exact ⟨(hlost items).mpr hdue, noneLost_of_due hdue⟩
        · rintro ⟨hline, -⟩
          rw [(hlost items).mp hline, append_nil]
      · rintro ⟨hline, -⟩
        have hb₁ : ∀ id, (restoreLine b item.1 id).isSome = exist id := fun id =>
          (isSome_restoreLine b item.1 id).trans (hb' id)
        rw [map_cons, restoreLines, foldl_cons]
        have hsame := restoreLines_of_due hb₁ ((hlost items).mp hline)
        unfold restoreLines at hsame
        change StockIs w₁ _
        rw [hsame]
        exact hstock
      · rintro ⟨u, hu⟩
        cases hu

end Lines

/-! ## One attempt -/

section Attempts

variable {o : Outcomes} {os : List Outcomes} {w w' : World}

theorem run_findOrder (o : Outcomes) (w : World) :
    findOrder.run (attemptOp o) w = ended (o .findOrder) w (w.order, w) := by
  refine (run_perform _ w).trans ?_
  change performOp 0 _ (o .findOrder) w = _
  cases o .findOrder <;> rfl

theorem run_claimReservationRelease (o : Outcomes) (w : World) :
    claimReservationRelease.run (attemptOp o) w
      = ended (o .claim) w (w.claimReservationRelease 0) := by
  refine (run_perform _ w).trans ?_
  change performOp 0 _ (o .claim) w = _
  cases o .claim <;> rfl

theorem run_saveOrder (o : Outcomes) (w : World) (released : Bool) :
    (saveOrder released).run (attemptOp o) w = ended (o .save) w
      ((), if released then { w with order := { w.order with reservation := .released } } else w) := by
  refine (run_perform _ w).trans ?_
  change performOp 0 _ (o .save) w = _
  cases o .save <;> rfl

theorem run_restOfCompensation (o : Outcomes) (w : World) :
    restOfCompensation.run (attemptOp o) w = ended (o .rest) w ((), w) := by
  refine (run_perform _ w).trans ?_
  change performOp 0 _ (o .rest) w = _
  cases o .rest <;> rfl

theorem ended_same {α : Type} (outcome : Outcome) (w : World) (a : α) :
    (ended outcome w (a, w)).2 = w := by
  cases outcome <;> rfl

theorem run_afterRelease {released : Bool}
    (h : released = true → w.order.reservation = .released) :
    ((saveOrder released >>= fun _ => restOfCompensation).run (attemptOp o) w).2 = w := by
  have hsame : (if released = true then
      { w with order := { w.order with reservation := .released } } else w) = w := by
    split
    next hreleased =>
      have hflag : { w.order with reservation := ReservationStatus.released } = w.order := by
        rw [← h hreleased]
      rw [hflag]
    next => rfl
  rw [run_bind, run_saveOrder, hsame]
  cases o .save with
  | done =>
    change (restOfCompensation.run (attemptOp o) w).2 = w
    rw [run_restOfCompensation]
    exact ended_same _ w ()
  | refused | lost => rfl

theorem attempt_found (h : (o .findOrder).isDone = true) :
    attempt o w = (releaseReservedStockForOrder w.order >>= fun released =>
      saveOrder released >>= fun _ => restOfCompensation).run (attemptOp o) w := by
  unfold attempt compensateOrderCancellation
  rw [run_bind, run_findOrder]
  cases hout : o .findOrder with
  | done => rfl
  | refused | lost =>
    rw [hout] at h
    cases h

theorem attempt_not_found (h : (o .findOrder).isDone = false) :
    ∃ e, attempt o w = (.error e, w) := by
  unfold attempt compensateOrderCancellation
  rw [run_bind, run_findOrder]
  cases hout : o .findOrder with
  | done =>
    rw [hout] at h
    cases h
  | refused e => exact ⟨e, rfl⟩
  | lost e => exact ⟨e, rfl⟩

theorem attempt_nothing (h : w.order.items = [] ∨ w.order.reservation = .released) :
    (attempt o w).2 = w := by
  by_cases hfound : (o .findOrder).isDone = true
  · rw [attempt_found hfound]
    have hrelease : releaseReservedStockForOrder w.order = pure false := by
      unfold releaseReservedStockForOrder
      split
      · rfl
      · rw [if_pos (h.resolve_left (by assumption))]
    rw [hrelease]
    exact run_afterRelease nofun
  · obtain ⟨e, he⟩ := attempt_not_found (w := w) (Bool.eq_false_iff.mpr hfound)
    rw [he]

theorem attempt_unclaimed (hclaims : claims o = false) (hitems : w.order.items ≠ [])
    (hflag : w.order.reservation ≠ .released) : ∃ e, attempt o w = (.error e, w) := by
  by_cases hfound : (o .findOrder).isDone = true
  · rw [attempt_found hfound, releaseReservedStockForOrder, if_neg hitems, if_neg hflag]
    unfold claims at hclaims
    rw [hfound, Bool.true_and, Bool.not_eq_false'] at hclaims
    unfold restoreReservedInventory
    rw [run_bind, run_bind, run_claimReservationRelease]
    cases hout : o .claim with
    | refused e => exact ⟨e, rfl⟩
    | done | lost =>
      rw [hout] at hclaims
      cases hclaims
  · exact attempt_not_found (Bool.eq_false_iff.mpr hfound)

theorem claim_fresh (hflag : w.order.reservation ≠ .released) :
    ∃ w₁, w.claimReservationRelease 0 = (true, w₁) ∧ w₁.order.reservation = .released ∧
      w₁.products = w.products ∧ w₁.restored = w.restored :=
  ⟨_, if_neg hflag, rfl, rfl, rfl⟩

theorem attempt_answered {w₁ : World} (hfound : (o .findOrder).isDone = true)
    (hitems : w.order.items ≠ []) (hflag : w.order.reservation ≠ .released)
    (hclaim : claimReservationRelease.run (attemptOp o) w = (.ok true, w₁))
    (horder : ((restoreItems w.order.items.zipIdx).run (attemptOp o) w₁).2.order.reservation
      = .released) :
    (attempt o w).2 = ((restoreItems w.order.items.zipIdx).run (attemptOp o) w₁).2 := by
  rw [attempt_found hfound, releaseReservedStockForOrder, if_neg hitems, if_neg hflag]
  unfold restoreReservedInventory
  rw [run_bind, run_bind, hclaim]
  dsimp only
  rw [if_pos rfl, run_bind]
  cases hr : (restoreItems w.order.items.zipIdx).run (attemptOp o) w₁ with
  | mk r w₂ =>
    rw [hr] at horder
    cases r with
    | ok u => exact run_afterRelease (fun _ => horder)
    | error e => rfl

/-- The attempt that flips the flag restores every line exactly under the condition. -/
theorem attempt_claimed (hclaims : claims o = true) (hitems : w.order.items ≠ [])
    (hflag : w.order.reservation ≠ .released) (hnone : w.restored = []) :
    (attempt o w).2.order.reservation = .released ∧
      (RestoredExactly w (attempt o w).2 ↔
        due (present w.products) w.order.items.zipIdx = [] ∨
          (o .claim).isDone = true ∧ NoneLost o (present w.products) w.order.items.zipIdx) := by
  have hlines : w.order.items.zipIdx.map Prod.fst = w.order.items := zipIdx_map_fst 0 _
  unfold claims at hclaims
  rw [Bool.and_eq_true] at hclaims
  obtain ⟨hfound, hout⟩ := hclaims
  have hclaimrun := run_claimReservationRelease o w
  obtain ⟨w₁, hw₁, hflag₁, hproducts₁, hrestored₁⟩ := claim_fresh hflag
  rw [hw₁] at hclaimrun
  cases hclaim : o .claim with
  | refused e =>
    rw [hclaim] at hout
    cases hout
  | lost e =>
    -- the flag is flipped and the attempt is over
    rw [attempt_found hfound, releaseReservedStockForOrder, if_neg hitems, if_neg hflag]
    unfold restoreReservedInventory
    rw [run_bind, run_bind, hclaimrun, hclaim]
    refine ⟨hflag₁, ?_⟩
    have hnone₁ : w₁.restored = [] := hrestored₁.trans hnone
    constructor
    · intro h
      exact .inl (h.once.symm.trans hnone₁)
    · rintro (hdue | ⟨hdone, -⟩)
      · refine ⟨hnone₁.trans hdue.symm, fun id => ?_⟩
        have hsame := restoreLines_of_due (b := w.products) (fun _ => rfl) hdue
        rw [hlines] at hsame
        rw [hsame]
        change UpToHeal (w₁.products id) _
        rw [hproducts₁]
        exact UpToHeal.refl _
      · cases hdone
  | done =>
    rw [hclaim] at hclaimrun
    have hrun : LinesEnd o (present w.products) w.order.items.zipIdx w.products w₁
        ((restoreItems w.order.items.zipIdx).run (attemptOp o) w₁) := by
      refine run_restoreItems (fun id => ?_) (fun id => ?_)
      · rw [hproducts₁]
        exact UpToHeal.refl _
      · rw [hproducts₁]
        rfl
    have hreleased := (congrArg Order.reservation hrun.order).trans hflag₁
    rw [attempt_answered hfound hitems hflag hclaimrun hreleased]
    refine ⟨hreleased, ?_⟩
    have honce := hrun.once
    have hstock := hrun.stock
    rw [hlines] at hstock
    rw [hrestored₁, hnone, nil_append] at honce
    constructor
    · intro h
      exact .inr ⟨rfl, honce.mp h.once⟩
    · rintro (hdue | ⟨-, hkept⟩)
      · have hkept := noneLost_of_due (o := o) hdue
        exact ⟨honce.mpr hkept, hstock hkept⟩
      · exact ⟨honce.mpr hkept, hstock hkept⟩

/-! ## The compensation repeated -/

theorem repeat_released (hflag : w.order.reservation = .released)
    (h : repeatUntilDone w os = some w') : w' = w := by
  induction os with
  | nil => cases h
  | cons o os ih =>
    have hsame : (attempt o w).2 = w := attempt_nothing (.inr hflag)
    unfold repeatUntilDone at h
    cases hr : attempt o w with
    | mk r w₁ =>
      rw [hr] at h hsame
      cases r with
      | ok u =>
        cases h
        exact hsame
      | error e =>
        have hw : w₁ = w := hsame
        rw [hw] at h
        exact ih h

theorem repeat_empty (hitems : w.order.items = []) (h : repeatUntilDone w os = some w') :
    w' = w := by
  induction os with
  | nil => cases h
  | cons o os ih =>
    have hsame : (attempt o w).2 = w := attempt_nothing (.inl hitems)
    unfold repeatUntilDone at h
    cases hr : attempt o w with
    | mk r w₁ =>
      rw [hr] at h hsame
      cases r with
      | ok u =>
        cases h
        exact hsame
      | error e =>
        have hw : w₁ = w := hsame
        rw [hw] at h
        exact ih h

/-- Whatever the order and wherever the attempts fail: repeating the compensation until it
succeeds restores every line exactly once if and only if nothing is due, or the attempt
that flips the flag loses none. -/
theorem restored_exactly_iff (hflag : w.order.reservation ≠ .released) (hnone : w.restored = [])
    (h : repeatUntilDone w os = some w') :
    RestoredExactly w w' ↔
      due (present w.products) w.order.items.zipIdx = [] ∨
        KeepsAll (present w.products) w.order.items.zipIdx os := by
  have hlines : w.order.items.zipIdx.map Prod.fst = w.order.items := zipIdx_map_fst 0 _
  have hempty : due (present w.products) w.order.items.zipIdx = [] → w.restored
      = due (present w.products) w.order.items.zipIdx := fun hdue => hnone.trans hdue.symm
  by_cases hitems : w.order.items = []
  · rw [repeat_empty hitems h]
    have hdue : due (present w.products) w.order.items.zipIdx = [] := by
      rw [hitems]
      rfl
    refine iff_of_true ⟨hempty hdue, fun id => ?_⟩ (.inl hdue)
    rw [hitems]
    exact UpToHeal.refl _
  · induction os with
    | nil => cases h
    | cons o os ih =>
      unfold repeatUntilDone at h
      unfold KeepsAll
      by_cases hclaims : claims o = true
      · -- whatever comes after, the products stay as this attempt leaves them
        obtain ⟨hreleased, hiff⟩ := attempt_claimed hclaims hitems hflag hnone
        rw [if_pos hclaims]
        cases hr : attempt o w with
        | mk r w₁ =>
          rw [hr] at h hreleased hiff
          cases r with
          | ok u =>
            cases h
            exact hiff
          | error e =>
            rw [repeat_released hreleased h]
            exact hiff
      · obtain ⟨e, he⟩ := attempt_unclaimed (Bool.eq_false_iff.mpr hclaims) hitems hflag
        rw [he] at h
        rw [if_neg hclaims]
        exact ih h

def capsAndScarf : World where
  order :=
    { items := [⟨5, "Cap", "", 2⟩, ⟨6, "Scarf", "", 1⟩]
      reservation := .reserved
      workflowStatus := .cancelled }
  inventory := .pending
  products := update (update (fun _ => none) 5 (some ⟨3, []⟩)) 6 (some ⟨0, []⟩)

def failsAt (call : Call) : Outcomes := fun c =>
  if c = call then .refused ⟨"write conflict", none⟩ else .done

/-- The stock is restored before the save that fails. -/
theorem restored_exactly_capsAndScarf :
    ∃ w', repeatUntilDone capsAndScarf [failsAt .save, fun _ => .done] = some w' ∧
      RestoredExactly capsAndScarf w' := by
  have hrun : repeatUntilDone capsAndScarf [failsAt .save, fun _ => .done] = some _ := rfl
  exact ⟨_, hrun, (restored_exactly_iff (by decide) rfl hrun).mpr (.inr (by decide +kernel))⟩

/-- The update of the scarf fails, and the attempt after it finds the order RELEASED. -/
theorem scarf_lost :
    ∃ w', repeatUntilDone capsAndScarf [failsAt (.increment 1), fun _ => .done] = some w' ∧
      ¬ RestoredExactly capsAndScarf w' := by
  refine ⟨_, rfl, fun h => ?_⟩
  have honce := h.once
  exact absurd honce (by decide +kernel)

end Attempts

end DiscountBazar.Inventory
