/-
The master stock is the sum of the variants.

Every writer moves the two levels by the same units or sets the master to the sum, with two
exceptions: a line without a known variant moves the master alone, and the self-heal of a release
outside a transaction, or of an adjustment, writes a sum that may be out of date. The first is made
good by the self-heal that follows it, where one follows.
-/
import DiscountBazar.Business.PurchaseStock
import DiscountBazar.Inventory.StockWriters

namespace DiscountBazar.Inventory.Writers

open Tasks Transaction Business Function Runs
open Contract (Sound)
open Prog (All)
open List QtyMap Variant

/-! ## Statements -/

def CountsAll (vs : List Variant) : Prop :=
  vs ≠ [] ∧ ∀ v ∈ vs, v.stock.any (fun s => decide (0 ≤ s)) = true

instance (vs : List Variant) : Decidable (CountsAll vs) := inferInstanceAs (Decidable (_ ∧ _))

structure InOrder (p : Product) : Prop where
  counts : CountsAll p.variants
  nonneg : 0 ≤ p.stock
  sum : p.stock = variantStockSum p.variants

instance (p : Product) : Decidable (InOrder p) :=
  decidable_of_iff (CountsAll p.variants ∧ 0 ≤ p.stock ∧ p.stock = variantStockSum p.variants)
    ⟨fun h => ⟨h.1, h.2.1, h.2.2⟩, fun h => ⟨h.counts, h.nonneg, h.sum⟩⟩

def MasterIsSum (products : Products) (id : ObjectId) : Prop :=
  ∃ p, products id = some p ∧ InOrder p

instance (products : Products) (id : ObjectId) : Decidable (MasterIsSum products id) :=
  match h : products id with
  | none => .isFalse (fun ⟨_, hp, _⟩ => nomatch h.symm.trans hp)
  | some p =>
    decidable_of_iff (InOrder p)
      ⟨fun hp => ⟨p, h, hp⟩, fun ⟨_, hq, hp⟩ => Option.some.inj (h.symm.trans hq) ▸ hp⟩

def Completes (kind : Kind) (c : Tasks.Outcome ServiceError) (s : Shelf) : Prop :=
  c.takesEffect = true ∧ kind.completes s.products = true

instance (kind : Kind) (c : Tasks.Outcome ServiceError) (s : Shelf) :
    Decidable (Completes kind c s) := inferInstanceAs (Decidable (_ ∧ _))

def nextCall (p : Shelf.Pool) (i : ℕ) : Option Kind :=
  match p.tasks[i]? with
  | some (.call kind _) => some kind
  | _ => none

def CompletesOne (p : Shelf.Pool) : Act → Prop
  | .run i c => ∃ kind ∈ nextCall p i, Completes kind c p.shared
  | _ => False

instance (p : Shelf.Pool) : (a : Act) → Decidable (CompletesOne p a)
  | .run i c => inferInstanceAs (Decidable (∃ kind ∈ nextCall p i, Completes kind c p.shared))
  | .outside _ => .isFalse id
  | .start _ => .isFalse id

def InOrderAfterEach (id : ObjectId) : Shelf.Pool → List Act → Prop :=
  Guarded stockSystem.step
    (fun p a => CompletesOne p a → MasterIsSum (stockSystem.step p a).shared.products id)

instance (id : ObjectId) (p : Shelf.Pool) (as : List Act) : Decidable (InOrderAfterEach id p as) :=
  inferInstanceAs (Decidable (Guarded _ _ _ _))

/-- The keys that are read as the product without a variant. -/
def masterKeys (id : ObjectId) (key : ItemKey) : Bool :=
  decide (key.product = id ∧ splitSku key = "")

def restocksMasterAlone (p : Product) (l : Line) : Bool :=
  decide (l.variantSku = "" ∨ p.variants.any (hasSku l.variantSku) = false)

/-- The units by which a return moves the master of the product alone. -/
def restockedAlone (id : ObjectId) (p : Product) (lines : List Line) : ℤ :=
  (lines.map (fun l =>
    if l.product = id ∧ restocksMasterAlone p l = true then (l.quantity : ℤ) else 0)).sum

/-- The units by which a call that does not heal the product moves its master alone. -/
def Kind.movesAlone (id : ObjectId) (p : Product) : Kind → ℤ
  | .editPosSale oldQ merged => (editDeltas oldQ merged).total (masterKeys id)
  | .createPosReturn lines => restockedAlone id p lines
  | .applyQtyMap sign q => sign * q.total (masterKeys id)
  | .updatePurchaseBill oldQ newQ => (qtyDiff oldQ newQ).total (masterKeys id)
  | _ => 0

/-- The self-heal writes the sum that the variants have when it does. -/
def Kind.upToDate (id : ObjectId) (p : Product) : Kind → Bool
  | .setMasterStock id' sum => decide (id' = id → sum = variantStockSum p.variants)
  | _ => true

/-- The condition on a call: a self-heal is up to date; and an operation is completed only where the
product needs no healing or the call heals it, and without moving its master alone. -/
def HealsInTime (id : ObjectId) (_ : ℕ) (kind : Kind) (c : Tasks.Outcome ServiceError)
    (s : Shelf) : Prop :=
  ∀ p ∈ s.products id, (c.takesEffect = true → kind.upToDate id p = true) ∧
    (Completes kind c s →
      (id ∈ s.unhealed → kind.heals id = true) ∧ kind.movesAlone id p = 0)

instance (id : ObjectId) (i : ℕ) (kind : Kind) (c : Tasks.Outcome ServiceError) (s : Shelf) :
    Decidable (HealsInTime id i kind c s) := inferInstanceAs (Decidable (∀ p ∈ s.products id, _))

/-! ## One product -/

/-- How far the master is above the sum of the variants. -/
def excess (p : Product) : ℤ := p.stock - variantStockSum p.variants

theorem inOrder_iff {p : Product} (h : CountsAll p.variants) : InOrder p ↔ excess p = 0 := by
  unfold excess
  constructor
  · intro hp
    exact sub_eq_zero.mpr hp.sum
  · intro hzero
    have hsum : p.stock = variantStockSum p.variants := sub_eq_zero.mp hzero
    exact ⟨h, hsum ▸ variantStockSum_nonneg p.variants, hsum⟩

/-- The variants still count, and the master has moved away from their sum by `d`. -/
structure Shifts (d : ℤ) (p p' : Product) : Prop where
  counts : CountsAll p'.variants
  excess : excess p' = excess p + d

/-- The variants still count; the master is set to their sum, or nothing has happened. -/
structure SetsOrKeeps (b : Bool) (p p' : Product) : Prop where
  counts : CountsAll p'.variants
  sets : b = true → excess p' = 0
  keeps : b = false → p' = p

section OneProduct

variable {p p' : Product} {l : Line}

theorem Shifts.refl (h : CountsAll p.variants) : Shifts 0 p p := ⟨h, (add_zero _).symm⟩

theorem Shifts.trans {d e : ℤ} {p'' : Product} (h : Shifts d p p') (h' : Shifts e p' p'') :
    Shifts (d + e) p p'' :=
  ⟨h'.counts, by rw [h'.excess, h.excess, add_assoc]⟩

theorem SetsOrKeeps.refl (h : CountsAll p.variants) : SetsOrKeeps false p p :=
  ⟨h, fun hsets => absurd hsets Bool.false_ne_true, fun _ => rfl⟩

theorem SetsOrKeeps.trans {b c : Bool} {p'' : Product} (h : SetsOrKeeps b p p')
    (h' : SetsOrKeeps c p' p'') : SetsOrKeeps (b || c) p p'' := by
  refine ⟨h'.counts, fun hsets => ?_, fun hkeeps => ?_⟩
  · cases c with
    | true => exact h'.sets rfl
    | false =>
      rw [Bool.or_false] at hsets
      rw [h'.keeps rfl]
      exact h.sets hsets
  · rw [Bool.or_eq_false_iff] at hkeeps
    rw [h'.keeps hkeeps.2, h.keeps hkeeps.1]

theorem CountsAll.stock (h : CountsAll p.variants) {v : Variant} (hv : v ∈ p.variants) :
    ∃ s, v.stock = some s ∧ 0 ≤ s := by
  obtain ⟨s, hs, hle⟩ := (Option.any_eq_true _ _).mp (h.2 v hv)
  exact ⟨s, hs, of_decide_eq_true hle⟩

theorem CountsAll.replace {as bs : List Variant} {v w : Variant} {s : ℤ}
    (h : CountsAll (as ++ v :: bs)) (hw : w.stock = some s) (hs : 0 ≤ s) :
    CountsAll (as ++ w :: bs) := by
  refine ⟨by simp, fun u hu => ?_⟩
  rcases mem_append.mp hu with hu | hu
  · exact h.2 u (mem_append_left _ hu)
  · rcases mem_cons.mp hu with rfl | hu
    · rw [hw, Option.any_some]
      exact decide_eq_true hs
    · exact h.2 u (mem_append_right _ (mem_cons_of_mem _ hu))

theorem shifts_both {as bs : List Variant} {v w : Variant} {s n : ℤ} (h : CountsAll p.variants)
    (hp : p.variants = as ++ v :: bs) (hv : v.stock = some s) (hw : w.stock = some (s + n))
    (hn : 0 ≤ s + n) : Shifts 0 p { stock := p.stock + n, variants := as ++ w :: bs } := by
  have hs : 0 ≤ s := by
    obtain ⟨s', hs', hle⟩ := h.stock (v := v) (by rw [hp]; simp)
    rw [hv, Option.some.injEq] at hs'
    rwa [hs']
  have hsum : variantStockSum (as ++ w :: bs) = variantStockSum p.variants + n := by
    rw [hp, variantStockSum_append, variantStockSum_append, variantStockSum_cons,
      variantStockSum_cons, hv, hw, Option.getD_some, Option.getD_some, max_eq_right hs,
      max_eq_right hn]
    ring
  refine ⟨CountsAll.replace (hp ▸ h) hw hn, ?_⟩
  unfold Writers.excess
  rw [hsum]
  ring

theorem shifts_updateFirst {q : Variant → Bool} {f : Variant → Variant} {n : ℤ} {vs : List Variant}
    (h : CountsAll p.variants) (hvs : updateFirst q f p.variants = some vs)
    (hf : ∀ v s, q v = true → v.stock = some s → 0 ≤ s → (f v).stock = some (s + n) ∧ 0 ≤ s + n) :
    Shifts 0 p { stock := p.stock + n, variants := vs } := by
  obtain ⟨as, v, bs, hp, rfl, hv, -⟩ := updateFirst_eq_some hvs
  obtain ⟨s, hs, hle⟩ := h.stock (v := v) (by rw [hp]; simp)
  obtain ⟨hw, hn⟩ := hf v s hv hs hle
  exact shifts_both h hp hs hw hn

theorem shifts_alone (h : CountsAll p.variants) (n : ℤ) :
    Shifts n p { p with stock := p.stock + n } := by
  refine ⟨h, ?_⟩
  unfold Writers.excess
  ring

theorem setsOrKeeps_reserve (h : CountsAll p.variants) (hp' : p.reserve l = some p') :
    SetsOrKeeps true p p' := by
  obtain ⟨d, hd, rfl⟩ := Option.map_eq_some_iff.mp hp'
  have hcounts : CountsAll d.variants := by
    obtain ⟨-, ⟨-, hvs⟩ | ⟨hvs, -, -⟩⟩ := deduct_cases hd
    · refine (shifts_updateFirst (n := -l.quantity) h hvs (fun v s hv hs _ => ?_)).counts
      obtain ⟨-, s', hs', hle⟩ := tracked_of_hasStock hv
      rw [hs, Option.some.injEq] at hs'
      subst hs'
      exact ⟨by rw [inc, hs, Option.map_some], by linarith⟩
    · rwa [hvs]
  have hheal : d.healSold = { d with stock := variantStockSum d.variants } := by
    unfold Product.healSold
    exact if_pos hcounts.1
  rw [hheal]
  exact ⟨hcounts, fun _ => sub_self _, fun hfalse => absurd hfalse.symm Bool.false_ne_true⟩

theorem shifts_increment (h : CountsAll p.variants) (l : Line) :
    Shifts (if incrementsMasterAlone p l then l.quantity else 0) p (p.increment l) := by
  obtain ⟨hstock, hcase⟩ := increment_cases p l
  rcases hcase with ⟨hno, hsame⟩ | ⟨hsku, hup⟩
  · have halone : incrementsMasterAlone p l = true := by
      refine decide_eq_true (hno.imp_right (fun hno => ?_))
      rw [any_eq_false]
      intro v hv
      rw [hno v hv]
      exact Bool.false_ne_true
    have heq : p.increment l = { p with stock := p.stock + l.quantity } := Product.ext hstock hsame
    rw [halone, if_pos rfl, heq]
    exact shifts_alone h l.quantity
  · have halone : incrementsMasterAlone p l = false := by
      refine decide_eq_false (fun hor => ?_)
      rcases hor with hempty | hno
      · exact hsku hempty
      · obtain ⟨as, v, bs, hp, -, hv, -⟩ := updateFirst_eq_some hup
        rw [any_eq_false] at hno
        exact hno v (by rw [hp]; simp) hv
    have heq : p.increment l
        = { stock := p.stock + l.quantity, variants := (p.increment l).variants } :=
      Product.ext hstock rfl
    rw [halone, if_neg Bool.false_ne_true, heq]
    refine shifts_updateFirst h hup (fun v s _ hs hle => ?_)
    exact ⟨by rw [inc, hs, Option.map_some], by positivity⟩

theorem healReleased_eq (h : CountsAll p.variants) :
    p.healReleased = { p with stock := variantStockSum p.variants } := by
  obtain ⟨v, hv⟩ := exists_mem_of_ne_nil _ h.1
  obtain ⟨s, hs, -⟩ := h.stock hv
  unfold Product.healReleased
  refine if_pos (any_eq_true.mpr ⟨v, hv, ?_⟩)
  rw [hs]
  rfl

theorem setsOrKeeps_restore (h : CountsAll p.variants) (l : Line) :
    SetsOrKeeps (decide (l.quantity ≠ 0)) p (p.restore l) := by
  unfold Product.restore
  by_cases hzero : l.quantity = 0
  · rw [if_pos hzero, decide_eq_false (not_not.mpr hzero)]
    exact SetsOrKeeps.refl h
  · have hcounts := (shifts_increment h l).counts
    rw [if_neg hzero, decide_eq_true hzero, Product.incrementProductStock, healReleased_eq hcounts]
    exact ⟨hcounts, fun _ => sub_self _, fun hfalse => absurd hfalse.symm Bool.false_ne_true⟩

theorem shifts_stockApplied {variantSku : String} {delta : ℤ} (h : CountsAll p.variants)
    (hp' : stockApplied p variantSku delta = some p') :
    Shifts (if variantSku = "" then delta else 0) p p' := by
  unfold stockApplied at hp'
  by_cases hsku : variantSku = ""
  · rw [if_neg (not_not.mpr hsku)] at hp'
    rw [if_pos hsku]
    split at hp'
    · cases hp'
    · cases hp'
      exact shifts_alone h delta
  · rw [if_pos hsku] at hp'
    rw [if_neg hsku]
    obtain ⟨vs, hvs, rfl⟩ := Option.map_eq_some_iff.mp hp'
    refine shifts_updateFirst h hvs (fun v s hv hs hle => ⟨by rw [addStock, hs]; rfl, ?_⟩)
    have henough := (of_decide_eq_true hv).2
    by_cases hneg : delta < 0
    · have hany := henough hneg
      rw [hs, Option.any_some] at hany
      have := of_decide_eq_true hany
      linarith
    · linarith [not_lt.mp hneg]

theorem shifts_restockProduct (h : CountsAll p.variants) (l : Line) :
    Shifts (if restocksMasterAlone p l then l.quantity else 0) p (restockProduct p l) := by
  unfold restockProduct
  by_cases hsku : l.variantSku = ""
  · have halone : restocksMasterAlone p l = true := decide_eq_true (.inl hsku)
    rw [if_neg (not_not.mpr hsku), halone, if_pos rfl]
    exact shifts_alone h l.quantity
  · rw [if_pos hsku]
    cases hup : updateFirst (hasSku l.variantSku) (addStock l.quantity) p.variants with
    | some vs =>
      have halone : restocksMasterAlone p l = false := by
        refine decide_eq_false (fun hor => ?_)
        obtain ⟨as, v, bs, hp, -, hv, -⟩ := updateFirst_eq_some hup
        have hno := any_eq_false.mp (hor.resolve_left hsku)
        exact hno v (by rw [hp]; simp) hv
      rw [halone, if_neg Bool.false_ne_true]
      refine shifts_updateFirst h hup (fun v s _ hs hle => ?_)
      exact ⟨by rw [addStock, hs]; rfl, by positivity⟩
    | none =>
      have halone : restocksMasterAlone p l = true := by
        refine decide_eq_true (.inr (any_eq_false.mpr (fun v hv => ?_)))
        rw [updateFirst_eq_none.mp hup v hv]
        exact Bool.false_ne_true
      rw [halone, if_pos rfl]
      exact shifts_alone h l.quantity

theorem shifts_adjustProduct {i : ℕ} {delta : ℤ} (h : CountsAll p.variants)
    (hp' : Writers.adjustProduct p (some i) delta = some p') : Shifts 0 p p' := by
  unfold Writers.adjustProduct stockOf at hp'
  dsimp only at hp'
  split at hp'
  · cases hp'
  next henough =>
    obtain ⟨v, hv, rfl⟩ := Option.map_eq_some_iff.mp hp'
    obtain ⟨s, hs, hle⟩ := h.stock (mem_of_getElem? hv)
    rw [hv, Option.bind_some, hs, Option.all_some, decide_eq_true_iff] at henough
    obtain ⟨hi, rfl⟩ := List.getElem?_eq_some_iff.mp hv
    have hp : p.variants = p.variants.take i ++ p.variants[i] :: p.variants.drop (i + 1) := by
      rw [cons_getElem_drop_succ, take_append_drop]
    rw [set_eq_take_append_cons_drop, if_pos hi]
    refine shifts_both h hp hs (by rw [addStock, hs]; rfl) ?_
    by_contra hneg
    exact henough ⟨by linarith, by linarith⟩

theorem startCountingProduct_eq (h : CountsAll p.variants) (i : ℕ) :
    startCountingProduct p i = p := by
  unfold startCountingProduct
  split
  next v hv =>
    obtain ⟨s, hs, -⟩ := h.stock (mem_of_getElem? hv)
    have hsame : { v with stock := some (v.stock.getD 0) } = v := by
      rw [hs, Option.getD_some, ← hs]
    rw [hsame]
    obtain ⟨hi, rfl⟩ := List.getElem?_eq_some_iff.mp hv
    rw [set_getElem_self]
  next => rfl

end OneProduct

/-! ## The lines of a call -/

section Lines

variable {products products' : Products} {id : ObjectId} {p : Product}

theorem reserve_sets {items : List Line} (h : reserveStockForItems products items = .ok products')
    (hp : products id = some p) (hc : CountsAll p.variants) :
    ∃ p', products' id = some p' ∧
      SetsOrKeeps (items.any (fun l => decide (l.product = id))) p p' := by
  induction items generalizing products p with
  | nil =>
    rw [pure_eq_ok.mp h]
    exact ⟨p, hp, SetsOrKeeps.refl hc⟩
  | cons l items ih =>
    obtain ⟨next, hline, -, hrest⟩ := reserve_cons h
    obtain ⟨q, q', hq, hres, rfl, -⟩ := reserveLine_eq_some hline
    rw [any_cons]
    by_cases hid : l.product = id
    · subst hid
      obtain rfl : q = p := Option.some.inj (hq.symm.trans hp)
      have hone := setsOrKeeps_reserve hc hres
      obtain ⟨p', hp', hothers⟩ := ih hrest (update_self ..) hone.counts
      rw [decide_eq_true rfl]
      exact ⟨p', hp', hone.trans hothers⟩
    · obtain ⟨p', hp', hothers⟩ :=
        ih hrest (by rw [update_of_ne (Ne.symm hid)]; exact hp) hc
      rw [decide_eq_false hid, Bool.false_or]
      exact ⟨p', hp', hothers⟩

theorem restore_sets (lines : List Line) (hp : products id = some p) (hc : CountsAll p.variants) :
    ∃ p', restoreLines products lines id = some p' ∧
      SetsOrKeeps (lines.any (fun l => decide (l.product = id ∧ l.quantity ≠ 0))) p p' := by
  induction lines generalizing products p with
  | nil => exact ⟨p, hp, SetsOrKeeps.refl hc⟩
  | cons l lines ih =>
    rw [any_cons]
    by_cases hid : l.product = id
    · subst hid
      have hone := setsOrKeeps_restore hc l
      have hnext : restoreLine products l l.product = some (p.restore l) := by
        rw [restoreLine, update_self, hp, Option.map_some]
      obtain ⟨p', hp', hothers⟩ := ih hnext hone.counts
      rw [decide_eq_decide.mpr (and_iff_right rfl)]
      exact ⟨p', hp', hone.trans hothers⟩
    · have hnext : restoreLine products l id = some p := by
        rw [restoreLine, update_of_ne (Ne.symm hid), hp]
      obtain ⟨p', hp', hothers⟩ := ih hnext hc
      rw [decide_eq_false (fun h => hid h.1), Bool.false_or]
      exact ⟨p', hp', hothers⟩

theorem skus_restockProduct (p : Product) (l : Line) :
    (restockProduct p l).variants.map sku = p.variants.map sku := by
  unfold restockProduct
  split
  next vs hvs =>
    split at hvs
    · obtain ⟨as, v, bs, hp, rfl, -, -⟩ := updateFirst_eq_some hvs
      rw [hp, map_append, map_append, map_cons, map_cons]
      rfl
    · cases hvs
  next => rfl

theorem restocksMasterAlone_congr {q : Product} (l : Line)
    (h : q.variants.map sku = p.variants.map sku) :
    restocksMasterAlone q l = restocksMasterAlone p l := by
  have hany : ∀ vs : List Variant,
      vs.any (hasSku l.variantSku)
        = (vs.map sku).any (fun sku => decide (sku = l.variantSku)) := by
    intro vs
    rw [any_map]
    rfl
  unfold restocksMasterAlone
  rw [hany, hany, h]

theorem restock_shifts (lines : List Line) (hp : products id = some p) (hc : CountsAll p.variants) :
    ∃ p', lines.foldl restockLine products id = some p' ∧
      Shifts (restockedAlone id p lines) p p' := by
  induction lines generalizing products p with
  | nil => exact ⟨p, hp, Shifts.refl hc⟩
  | cons l lines ih =>
    rw [foldl_cons]
    by_cases hid : l.product = id
    · subst hid
      have hone := shifts_restockProduct hc l
      have hnext : restockLine products l l.product = some (restockProduct p l) := by
        rw [restockLine, update_self, hp, Option.map_some]
      obtain ⟨p', hp', hothers⟩ := ih hnext hone.counts
      have hlater : restockedAlone l.product (restockProduct p l) lines
          = restockedAlone l.product p lines := by
        unfold restockedAlone
        simp only [restocksMasterAlone_congr _ (skus_restockProduct p l)]
      rw [hlater] at hothers
      have htotal : restockedAlone l.product p (l :: lines)
          = (if restocksMasterAlone p l then (l.quantity : ℤ) else 0)
            + restockedAlone l.product p lines := by
        simp [restockedAlone]
      rw [htotal]
      exact ⟨p', hp', hone.trans hothers⟩
    · have hnext : restockLine products l id = some p := by
        rw [restockLine, update_of_ne (Ne.symm hid), hp]
      obtain ⟨p', hp', hothers⟩ := ih hnext hc
      have htotal : restockedAlone id p (l :: lines) = restockedAlone id p lines := by
        simp [restockedAlone, hid]
      rw [htotal]
      exact ⟨p', hp', hothers⟩

theorem applyStock_shifts {productId : ObjectId} {variantSku : String} {delta : ℤ}
    (h : applyStock products productId variantSku delta = .ok products') (hp : products id = some p)
    (hc : CountsAll p.variants) :
    ∃ p', products' id = some p' ∧
      Shifts (if productId = id ∧ variantSku = "" then delta else 0) p p' := by
  unfold applyStock at h
  split at h
  next hzero =>
    rw [pure_eq_ok.mp h, hzero, ite_self]
    exact ⟨p, hp, Shifts.refl hc⟩
  next =>
    split at h
    next q' hq' =>
      rw [pure_eq_ok.mp h]
      obtain ⟨q, hq, happlied⟩ := Option.bind_eq_some_iff.mp hq'
      by_cases hid : productId = id
      · subst hid
        obtain rfl : q = p := Option.some.inj (hq.symm.trans hp)
        simp only [true_and]
        exact ⟨q', update_self .., shifts_stockApplied hc happlied⟩
      · rw [if_neg (fun h => hid h.1)]
        exact ⟨p, by rw [update_of_ne (Ne.symm hid), hp], Shifts.refl hc⟩
    next => cases h

theorem applyQtyMap_shifts {sign : ℤ} {q : QtyMap}
    (h : Business.applyQtyMap sign products q = .ok products') (hp : products id = some p)
    (hc : CountsAll p.variants) :
    ∃ p', products' id = some p' ∧ Shifts (sign * q.total (masterKeys id)) p p' := by
  induction q generalizing products p with
  | nil =>
    rw [pure_eq_ok.mp h]
    refine ⟨p, hp, ?_⟩
    rw [total, map_nil, sum_nil, mul_zero]
    exact Shifts.refl hc
  | cons e q ih =>
    obtain ⟨key, qty⟩ := e
    unfold Business.applyQtyMap at h
    obtain ⟨products₁, hone, hrest⟩ := bind_eq_ok.mp h
    obtain ⟨p₁, hp₁, hshift⟩ := applyStock_shifts hone hp hc
    obtain ⟨p', hp', hothers⟩ := ih hrest hp₁ hshift.counts
    have htotal : sign * total ((key, qty) :: q) (masterKeys id)
        = (if key.product = id ∧ splitSku key = "" then sign * qty else 0)
          + sign * total q (masterKeys id) := by
      simp only [total, masterKeys, map_cons, sum_cons, mul_add,
        decide_eq_true_eq, mul_ite, mul_zero]
    rw [htotal]
    exact ⟨p', hp', hshift.trans hothers⟩

theorem total_parts (q : QtyMap) (keys : ItemKey → Bool) :
    total (q.filter (fun e => decide (e.2 < 0))) keys
      + total (q.filter (fun e => decide (0 < e.2))) keys = q.total keys := by
  have hneg : ∀ m : QtyMap, total (m.map (fun e => (e.1, -e.2))) keys = -m.total keys := by
    intro m
    induction m with
    | nil => rfl
    | cons e m ih =>
      simp only [total, map_cons, sum_cons] at ih ⊢
      rw [ih]
      split
      · ring
      · ring
  rw [← total_reductions q keys, hneg]
  ring

theorem editStock_shifts {oldQ merged : QtyMap} (h : editStock products oldQ merged = .ok products')
    (hp : products id = some p) (hc : CountsAll p.variants) :
    ∃ p', products' id = some p' ∧
      Shifts ((editDeltas oldQ merged).total (masterKeys id)) p p' := by
  unfold editStock at h
  obtain ⟨products₁, htaken, hgiven⟩ := bind_eq_ok.mp h
  obtain ⟨p₁, hp₁, hless⟩ := applyQtyMap_shifts htaken hp hc
  obtain ⟨p', hp', hmore⟩ := applyQtyMap_shifts hgiven hp₁ hless.counts
  refine ⟨p', hp', ?_⟩
  rw [← total_parts]
  rw [one_mul] at hless hmore
  exact hless.trans hmore

theorem applyDiff_shifts {oldQ newQ : QtyMap} (h : applyDiff products oldQ newQ = .ok products')
    (hp : products id = some p) (hc : CountsAll p.variants) :
    ∃ p', products' id = some p' ∧ Shifts ((qtyDiff oldQ newQ).total (masterKeys id)) p p' := by
  unfold applyDiff at h
  obtain ⟨products₁, htaken, hgiven⟩ := bind_eq_ok.mp h
  obtain ⟨p₁, hp₁, hless⟩ := applyQtyMap_shifts htaken hp hc
  obtain ⟨p', hp', hmore⟩ := applyQtyMap_shifts hgiven hp₁ hless.counts
  refine ⟨p', hp', ?_⟩
  rw [← total_reductions, sub_eq_neg_add, ← neg_one_mul]
  rw [one_mul] at hmore
  exact hless.trans hmore

end Lines

/-! ## One call -/

/-- The product has variants that count, and where it needs no healing its master is their sum. -/
def Tended (id : ObjectId) (s : Shelf) : Prop :=
  ∃ p, s.products id = some p ∧ CountsAll p.variants ∧ (id ∉ s.unhealed → excess p = 0)

section OneCall

variable {s : Shelf} {kind : Kind} {id : ObjectId} {p : Product}

theorem transaction_at {products products' : Products} (hlast : kind.isLast = true)
    (h : transaction products kind = .ok products') (hp : products id = some p)
    (hc : CountsAll p.variants) :
    ∃ p', products' id = some p' ∧ CountsAll p'.variants ∧
      (kind.heals id = true → excess p' = 0) ∧
      (kind.heals id = false → excess p' = excess p + kind.movesAlone id p) := by
  have hset : ∀ {b : Bool} {p' : Product}, SetsOrKeeps b p p' →
      CountsAll p'.variants ∧ (b = true → excess p' = 0) ∧
        (b = false → excess p' = excess p + 0) := by
    intro b p' hset
    exact ⟨hset.counts, hset.sets, fun hb => by rw [hset.keeps hb, add_zero]⟩
  have hshift : ∀ {d : ℤ} {p' : Product}, Shifts d p p' →
      CountsAll p'.variants ∧ (false = true → excess p' = 0) ∧
        (false = false → excess p' = excess p + d) :=
    fun hshift => ⟨hshift.counts, fun h => absurd h Bool.false_ne_true, fun _ => hshift.excess⟩
  cases kind with
  | reserveStockForItems items =>
    obtain ⟨p', hp', h'⟩ := reserve_sets h hp hc
    exact ⟨p', hp', hset h'⟩
  | restoreInventory lines =>
    cases pure_eq_ok.mp h
    obtain ⟨p', hp', h'⟩ := restore_sets lines hp hc
    exact ⟨p', hp', hset h'⟩
  | editPosSale oldQ merged =>
    obtain ⟨p', hp', h'⟩ := editStock_shifts h hp hc
    exact ⟨p', hp', hshift h'⟩
  | createPosReturn lines =>
    cases pure_eq_ok.mp h
    obtain ⟨p', hp', h'⟩ := restock_shifts lines hp hc
    exact ⟨p', hp', hshift h'⟩
  | applyQtyMap sign q =>
    obtain ⟨p', hp', h'⟩ := applyQtyMap_shifts h hp hc
    exact ⟨p', hp', hshift h'⟩
  | updatePurchaseBill oldQ newQ =>
    obtain ⟨p', hp', h'⟩ := applyDiff_shifts h hp hc
    exact ⟨p', hp', hshift h'⟩
  | restOfCompensation | saveHistory =>
    cases pure_eq_ok.mp h
    exact ⟨p, hp, hshift (Shifts.refl hc)⟩
  | incrementProductStock | setMasterStock | findProduct | startCounting
  | adjustProduct => cases hlast

theorem updateProduct_at {products : Products} (hp : products id = some p) (id' : ObjectId)
    (f : Product → Product) :
    updateProduct products id' f id = some (if id' = id then f p else p) := by
  unfold updateProduct
  by_cases hid : id' = id
  · subst hid
    rw [update_self, hp, Option.map_some, if_pos rfl]
  · rw [update_of_ne (Ne.symm hid), hp, if_neg hid]

theorem writtenProducts_of_isLast (products : Products) (hlast : kind.isLast = true) :
    writtenProducts products kind = committed products (transaction products kind) := by
  cases kind with
  | incrementProductStock | setMasterStock | startCounting | adjustProduct => cases hlast
  | _ => rfl

theorem tended_of_isLast (h : Tended id s) (hlast : kind.isLast = true)
    (hok : kind.completes s.products = true → (id ∈ s.unhealed → kind.heals id = true) ∧
      ∀ p ∈ s.products id, kind.movesAlone id p = 0) :
    Tended id (written s kind) ∧
      (kind.completes s.products = true → MasterIsSum (written s kind).products id) := by
  obtain ⟨p, hp, hc, hzero⟩ := h
  unfold written
  rw [writtenProducts_of_isLast _ hlast]
  cases htransaction : transaction s.products kind with
  | error e =>
    have hnot : kind.completes s.products ≠ true := by
      unfold Kind.completes
      rw [htransaction, hlast]
      exact Bool.false_ne_true
    exact ⟨⟨p, hp, hc, hzero⟩, fun hcompletes => absurd hcompletes hnot⟩
  | ok products' =>
    have hcompletes : kind.completes s.products = true := by
      unfold Kind.completes
      rw [htransaction, hlast]
      rfl
    obtain ⟨hneeds, hmoves⟩ := hok hcompletes
    obtain ⟨p', hp', hc', hheals, hkeeps⟩ := transaction_at hlast htransaction hp hc
    have hsum : excess p' = 0 := by
      cases hheal : kind.heals id with
      | true => exact hheals hheal
      | false =>
        -- the product needed no healing
        have hnot : id ∉ s.unhealed := fun hmem => by
          rw [hneeds hmem] at hheal
          cases hheal
        rw [hkeeps hheal, hmoves p hp, hzero hnot, add_zero]
    exact ⟨⟨p', hp', hc', fun _ => hsum⟩, fun _ => ⟨p', hp', (inOrder_iff hc').mpr hsum⟩⟩

theorem tended_of_not_isLast (h : Tended id s) (hlast : kind.isLast = false)
    (hok : ∀ p ∈ s.products id, kind.upToDate id p = true)
    (htarget : ∀ delta, kind ≠ .adjustProduct id none delta) : Tended id (written s kind) := by
  obtain ⟨p, hp, hc, hzero⟩ := h
  have hfilter : ∀ k : Kind, k.heals id = false →
      id ∉ s.unhealed.filter (fun id => !k.heals id) → id ∉ s.unhealed := by
    intro k hk hnot hmem
    exact hnot (mem_filter.mpr ⟨hmem, by rw [hk]; rfl⟩)
  cases kind with
  | incrementProductStock l =>
    refine ⟨_, updateProduct_at hp l.product _, ?_⟩
    by_cases hid : l.product = id
    · subst hid
      have hshift := shifts_increment hc l
      rw [if_pos rfl]
      refine ⟨hshift.counts, fun hnot => ?_⟩
      have hunhealed : l.product ∉
          (if (s.products l.product).any (fun p => incrementsMasterAlone p l) then
            l.product :: s.unhealed else s.unhealed) := hnot
      rw [hp, Option.any_some] at hunhealed
      rw [hshift.excess]
      cases halone : incrementsMasterAlone p l with
      | true =>
        rw [halone, if_pos rfl] at hunhealed
        exact absurd (mem_cons_self ..) hunhealed
      | false =>
        rw [halone, if_neg Bool.false_ne_true] at hunhealed
        rw [if_neg Bool.false_ne_true, hzero hunhealed, add_zero]
    · rw [if_neg hid]
      refine ⟨hc, fun hnot => hzero (fun hmem => hnot ?_)⟩
      change id ∈ (if (s.products l.product).any (fun p => incrementsMasterAlone p l)
          then l.product :: s.unhealed else s.unhealed)
      split
      · exact mem_cons_of_mem _ hmem
      · exact hmem
  | setMasterStock id' sum =>
    refine ⟨_, updateProduct_at hp id' _, ?_⟩
    by_cases hid : id' = id
    · rw [if_pos hid]
      refine ⟨hc, fun _ => ?_⟩
      have hsum : sum = variantStockSum p.variants := of_decide_eq_true (hok p hp) hid
      exact sub_eq_zero.mpr hsum
    · rw [if_neg hid]
      exact ⟨hc, fun hnot => hzero (hfilter (.setMasterStock id' sum) (decide_eq_false hid) hnot)⟩
  | findProduct id' =>
    exact ⟨p, hp, hc, fun hnot => hzero (hfilter (.findProduct id') rfl hnot)⟩
  | startCounting id' i =>
    refine ⟨_, updateProduct_at hp id' _, ?_⟩
    rw [startCountingProduct_eq hc, ite_self]
    exact ⟨hc, fun hnot => hzero (hfilter (.startCounting id' i) rfl hnot)⟩
  | adjustProduct id' target delta =>
    refine ⟨_, updateProduct_at hp id' _, ?_⟩
    have hnot' : id ∉ (written s (.adjustProduct id' target delta)).unhealed → id ∉ s.unhealed :=
      hfilter (.adjustProduct id' target delta) rfl
    by_cases hid : id' = id
    · subst hid
      rw [if_pos rfl]
      cases htaken : Writers.adjustProduct p target delta with
      | none => exact ⟨hc, fun hnot => hzero (hnot' hnot)⟩
      | some p' =>
        cases target with
        | none => exact absurd rfl (htarget delta)
        | some i =>
          have hshift := shifts_adjustProduct hc htaken
          refine ⟨hshift.counts, fun hnot => ?_⟩
          have hsum : excess p' = excess p + 0 := hshift.excess
          rw [Option.getD_some, hsum, hzero (hnot' hnot), add_zero]
    · rw [if_neg hid]
      exact ⟨hc, fun hnot => hzero (hnot' hnot)⟩
  | reserveStockForItems | restoreInventory | editPosSale | createPosReturn | applyQtyMap
  | updatePurchaseBill | restOfCompensation | saveHistory => cases hlast

end OneCall

/-! ## The handlers -/

/-- Every task keeps the product tended. -/
def tending (id : ObjectId) : Contract stockSystem where
  inv := Tended id
  rely := fun _ _ _ => True
  may := HealsInTime id

def NamesVariant (id : ObjectId) (kind : Kind) : Prop :=
  ∀ delta, kind ≠ .adjustProduct id none delta

section Handlers

variable {id : ObjectId}

theorem tended_written {s : Shelf} {kind : Kind} {i : ℕ} {c : Tasks.Outcome ServiceError}
    (hkind : NamesVariant id kind) (h : Tended id s) (hok : HealsInTime id i kind c s)
    (heffect : c.takesEffect = true) : Tended id (written s kind) := by
  have htended := h
  obtain ⟨p, hp, -⟩ := htended
  cases hlast : kind.isLast with
  | true =>
    refine (tended_of_isLast h hlast (fun hcompletes => ?_)).1
    have hhere := (hok p hp).2 ⟨heffect, hcompletes⟩
    refine ⟨hhere.1, fun q hq => ?_⟩
    exact ((hok q hq).2 ⟨heffect, hcompletes⟩).2
  | false => exact tended_of_not_isLast h hlast (fun q hq => (hok q hq).1 heffect) hkind

theorem perform_keeps {kind : Kind} (hkind : NamesVariant id kind) (i : ℕ) (s : Shelf)
    (h : Tended id s) (c : Tasks.Outcome ServiceError) (hok : HealsInTime id i kind c s)
    (r : Except ServiceError kind.Reply) (s' : Shelf)
    (hstep : performOp i kind c s = some (r, s')) : Tended id s' := by
  rcases Outcome.perform_eq (Option.some.inj hstep) with ⟨-, rfl⟩ | ⟨heffect, rfl, -⟩
  · exact h
  · exact tended_written hkind h hok heffect

theorem sound_of_named {α : Type} {p : M α} (hp : p.All (NamesVariant id)) (i : ℕ) (s : Shelf) :
    (tending id).Keeps i p s :=
  Contract.sound_of_all (I := fun _ => True) (fun _ _ _ h => h)
    (fun _ hkind s h _ c hok r s' hstep =>
      ⟨perform_keeps hkind i s h c hok r s' hstep, fun _ _ => trivial, trivial⟩) hp trivial

theorem heal_all (id' : ObjectId) (sum : Option ℤ) : (heal id' sum).All (NamesVariant id) := by
  cases sum with
  | none => exact All.ret
  | some sum => exact All.perform (fun _ => by simp)

theorem restoreItems_all (lines : List Line) : (restoreItems lines).All (NamesVariant id) := by
  induction lines with
  | nil => exact All.ret
  | cons l lines ih =>
    refine All.bind ?_ (fun _ => ih)
    refine All.ite All.ret (All.bind (All.perform (fun _ => by simp)) ?_)
    exact fun updated => heal_all _ _

theorem compensateOrderCancellation_all (lines : List Line) :
    (compensateOrderCancellation lines).All (NamesVariant id) :=
  All.bind (restoreItems_all lines) (fun _ => All.perform (fun _ => by simp))

theorem inspectReturnedParcel_all (items : List Line) (rows : List InspectionRow) :
    (inspectReturnedParcel items rows).All (NamesVariant id) := by
  unfold inspectReturnedParcel
  split
  · exact All.throw
  · exact All.perform (fun _ => by simp)

theorem applyAdjustment_all {productId : ObjectId} {p : Product} {target : Option ℕ}
    {type : AdjustmentType} {qtyChange : ℤ} (htarget : productId = id → target ≠ none) :
    (applyAdjustment productId p target type qtyChange).All (NamesVariant id) := by
  refine All.bind ?_ (fun _ => All.bind (All.perform ?_) (fun updated => ?_))
  · cases target with
    | none => exact All.ret
    | some i => exact All.ite (All.perform (fun _ => by simp)) All.ret
  · intro delta heq
    rw [Kind.adjustProduct.injEq] at heq
    exact htarget heq.1 heq.2.1
  · cases updated with
    | none => exact All.bind (All.perform (fun _ => by simp)) (fun _ => All.throw)
    | some p => exact All.bind (heal_all _ _) (fun _ => All.perform (fun _ => by simp))

theorem targetVariant_ne_none {p : Product} {names : ℕ → String} {variantSku : String}
    {target : Option ℕ} (hvariants : p.variants ≠ [])
    (h : targetVariant p names variantSku = .ok target) : target ≠ none := by
  unfold targetVariant at h
  dsimp only at h
  rw [if_neg hvariants] at h
  split at h
  · split at h
    · rw [pure_eq_ok.mp h]
      exact Option.some_ne_none _
    · cases h
  · split at h
    · rw [pure_eq_ok.mp h]
      exact Option.some_ne_none _
    · cases h

theorem adjustStock_sound (productId : ObjectId) (variantSku : String)
    (type : Option AdjustmentType) (quantity : Option ℚ) (i : ℕ) (s : Shelf) :
    (tending id).Keeps i (adjustStock productId variantSku type quantity) s := by
  unfold adjustStock
  cases type with
  | none => exact Sound.throw trivial
  | some type =>
    refine Sound.bind (R := fun (found : Option (Product × (ℕ → String))) _ =>
      productId = id → ∀ p names, found = some (p, names) → p.variants ≠ []) ?_ ?_
    · refine Sound.perform (fun s' _ h c hok r s'' hstep => ?_)
      refine ⟨perform_keeps (fun _ => by simp) i s' h c hok r s'' hstep, fun _ _ => trivial, ?_,
        fun _ _ => trivial⟩
      rintro found rfl rfl p names rfl
      obtain ⟨q, hq, hc, -⟩ := h
      rcases Outcome.perform_eq (Option.some.inj hstep) with ⟨⟨e, he⟩, -⟩ | ⟨-, -, hr⟩
      · cases he
      · rcases hr with hr | ⟨e, he⟩
        · have hfound : some (p, names)
              = (s'.products productId).map (fun p => (p, s'.names productId)) := Except.ok.inj hr
          rw [hq, Option.map_some, Option.some.injEq] at hfound
          rw [(Prod.mk.inj hfound).1]
          exact hc.1
        · cases he
    · intro found s' hfound
      cases found with
      | none => exact Sound.throw trivial
      | some found =>
        obtain ⟨p, names⟩ := found
        dsimp only
        split
        next => exact Sound.throw trivial
        next => exact Sound.throw trivial
        next qtyChange target _ htarget =>
          refine sound_of_named (applyAdjustment_all (fun hid => ?_)) i s'
          exact targetVariant_ne_none (hfound hid p names rfl) htarget

theorem handler_sound (k : Request) (i : ℕ) (s : Shelf) :
    (tending id).Keeps i (handler k) s := by
  cases k with
  | compensateOrderCancellation lines =>
    exact sound_of_named (compensateOrderCancellation_all lines) i s
  | inspectReturnedParcel items rows =>
    exact sound_of_named (inspectReturnedParcel_all items rows) i s
  | adjustStock productId variantSku type quantity =>
    exact adjustStock_sound productId variantSku type quantity i s
  | _ => exact sound_of_named (All.perform (fun _ => by simp)) i s

theorem tending_lawful : (tending id).Lawful where
  refl := fun _ _ => trivial
  trans := fun _ _ _ _ _ _ => trivial
  idle := fun _ _ _ _ h => h
  outside := fun e => nomatch e
  entry := fun k i s _ _ _ => handler_sound k i s

end Handlers

/-! ## Runs -/

section Runs

variable {id : ObjectId} {p : Shelf.Pool}

theorem inOrder_of_completes {a : Act} (h : Tended id p.shared)
    (hok : OnOps (HealsInTime id) p a) (hcompletes : CompletesOne p a) :
    MasterIsSum (stockSystem.step p a).shared.products id := by
  cases a with
  | run i c =>
    obtain ⟨kind, hkind, heffect, hkindCompletes⟩ := hcompletes
    unfold nextCall at hkind
    split at hkind
    next kind' next htask =>
      cases hkind
      have hhere := hok kind next htask
      have hlast : kind.isLast = true := by
        unfold Kind.completes at hkindCompletes
        rw [Bool.and_eq_true] at hkindCompletes
        exact hkindCompletes.1
      have hshared : (stockSystem.step p (.run i c)).shared = written p.shared kind := by
        rw [System.step_call stockSystem c htask]
        exact Outcome.perform_takesEffect heffect
      have htended := h
      obtain ⟨q, hq, -⟩ := htended
      rw [hshared]
      refine (tended_of_isLast h hlast (fun hcompletes => ?_)).2 hkindCompletes
      refine ⟨((hhere q hq).2 ⟨heffect, hcompletes⟩).1, fun r hr => ?_⟩
      exact ((hhere r hr).2 ⟨heffect, hcompletes⟩).2
    next => cases hkind
  | outside e => cases e
  | start k => cases hcompletes

/-- A product with two variants of five units each. -/
def twoSizes : Products :=
  update (fun _ => none) 1 (some ⟨10, [⟨"S", some 5⟩, ⟨"M", some 5⟩]⟩)

/-- The compensation of an order whose line names no variant has raised the master to 11 and is to
set it to 10 again; before it does, two units are sold at the counter. -/
def staleHeal : List Act :=
  [.start (.placeOrder [⟨1, "", "", 1⟩]), .run 0 .done,
    .start (.compensateOrderCancellation [⟨1, "", "", 1⟩]), .run 1 .done,
    .start (.createPosSale [⟨1, "", "S", 2⟩]), .run 2 .done, .run 1 .done, .run 1 .done]

/-- The compensation heals what it has moved alone, while an adjustment is under way; then two units
are sold at the counter, and one comes back. -/
def timelyHeal : List Act :=
  [.start (.placeOrder [⟨1, "", "", 1⟩, ⟨1, "", "s", 2⟩]), .run 0 .done,
    .start (.compensateOrderCancellation [⟨1, "", "", 1⟩, ⟨1, "", "s", 2⟩]), .run 1 .done,
    .run 1 .done, .start (.adjustStock 1 "m " (some .correction) (some 3)), .run 2 .done,
    .run 1 .done, .run 2 .done, .start (.createPosSale [⟨1, "", "S", 2⟩]), .run 3 .done,
    .run 1 .done, .run 2 .done, .start (.createPosReturn [⟨1, "", "S", 1⟩]), .run 4 .done]

end Runs

end DiscountBazar.Inventory.Writers
