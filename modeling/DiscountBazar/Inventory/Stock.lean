/-
Stock of products (`stockService.js`, `cancellationInventoryService.js`).

A product keeps a master counter and, for each variant, a counter of its own or none. A
reservation takes its quantity from the master and, where the line names a variant that
counts, from that variant too; then the master is set to the sum of the variants. A release
gives the quantity back by rules of its own. The two agree on a line exactly when the
reservation leaves the sum nothing to correct and takes from the variant that the release
will find. Stock history and low-stock alerts are left out: no stock depends on them.
-/
import DiscountBazar.Lib.Run
import DiscountBazar.Finance.Types

namespace DiscountBazar.Inventory

open Function Runs List Option

/-! ## Products and lines -/

/-- A variant of a product; `none` is a variant whose stock is not tracked. -/
structure Variant where
  sku : String
  stock : Option ℤ
  deriving DecidableEq

@[ext] structure Product where
  stock : ℤ
  variants : List Variant := []
  deriving DecidableEq

abbrev Products := ObjectId → Option Product

/-- A line of an order: its SKU is trimmed, and empty where it names no variant. -/
structure Line where
  product : ObjectId
  productName : String := ""
  variantSku : String := ""
  quantity : ℕ

def skuMatches (sku : String) (v : Variant) : Bool := v.sku.toLower == sku.toLower

def tracked (sku : String) (v : Variant) : Bool := skuMatches sku v && v.stock.isSome

def untracked (sku : String) (v : Variant) : Bool := skuMatches sku v && v.stock.isNone

def hasStock (sku : String) (quantity : ℕ) (v : Variant) : Bool :=
  skuMatches sku v && v.stock.any (fun s => decide ((quantity : ℤ) ≤ s))

def Variant.inc (n : ℤ) (v : Variant) : Variant := { v with stock := v.stock.map (· + n) }

/-- `variants.$`: change the first variant that matches, if there is one. -/
def updateFirst (p : Variant → Bool) (f : Variant → Variant) : List Variant → Option (List Variant)
  | [] => none
  | v :: vs => if p v then some (f v :: vs) else (updateFirst p f vs).map (v :: ·)

def variantStockSum (vs : List Variant) : ℤ := (vs.map (fun v => max 0 (v.stock.getD 0))).sum

/-! ## Reservation -/

namespace Product

/-- The update of `reserveStockForItems` for a line, before the self-heal. -/
def deduct (p : Product) (l : Line) : Option Product :=
  if l.variantSku ≠ "" then
    match updateFirst (hasStock l.variantSku l.quantity) (Variant.inc (-l.quantity)) p.variants with
    | some vs => some { stock := p.stock - l.quantity, variants := vs }
    | none =>
      -- the variant exists but its stock is not tracked separately
      if (l.quantity : ℤ) ≤ p.stock ∧ p.variants.any (untracked l.variantSku) = true then
        some { p with stock := p.stock - l.quantity }
      else none
  else if (l.quantity : ℤ) ≤ p.stock then some { p with stock := p.stock - l.quantity }
  else none

def healSold (p : Product) : Product :=
  if p.variants ≠ [] then { p with stock := variantStockSum p.variants } else p

/-- `reserveStockForItems` for one line of the product. -/
def reserve (p : Product) (l : Line) : Option Product := (p.deduct l).map healSold

/-! ## Release -/

/-- The update of `incrementProductStock`, before the self-heal. -/
def increment (p : Product) (l : Line) : Product :=
  match if l.variantSku ≠ "" then
      updateFirst (tracked l.variantSku) (Variant.inc l.quantity) p.variants else none with
  | some vs => { stock := p.stock + l.quantity, variants := vs }
  | none => { p with stock := p.stock + l.quantity }

def healReleased (p : Product) : Product :=
  if p.variants.any (fun v => v.stock.isSome) then
    { p with stock := variantStockSum p.variants }
  else p

def incrementProductStock (p : Product) (l : Line) : Product := (p.increment l).healReleased

/-- `restoreReservedInventory` for one line of the product. -/
def restore (p : Product) (l : Line) : Product :=
  if l.quantity = 0 then p else p.incrementProductStock l

end Product

def outOfStock (l : Line) : ServiceError where
  message :=
    (if l.productName = "" then "Item" else l.productName) ++
      (if l.variantSku = "" then "" else " (" ++ l.variantSku ++ ")") ++
      " is out of stock or has insufficient quantity"
  statusCode := some 409

/-- One line of `reserveStockForItems`. -/
def reserveLine (products : Products) (l : Line) : Option Products :=
  ((products l.product).bind (fun p => p.reserve l)).map
    (fun p => update products l.product (some p))

def reserveStockForItems (products : Products) : List Line → Except ServiceError Products
  | [] => pure products
  | l :: lines =>
    match reserveLine products l with
    | some products => reserveStockForItems products lines
    | none => throw (outOfStock l)

/-- One line of `restoreReservedInventory`; a product deleted since placement cannot take
stock back. -/
def restoreLine (products : Products) (l : Line) : Products :=
  update products l.product ((products l.product).map (fun p => p.restore l))

/-- The loop of `restoreReservedInventory`. -/
def restoreLines (products : Products) (lines : List Line) : Products :=
  lines.foldl restoreLine products

/-! ## The variants -/

section Variants

variable {p q : Variant → Bool} {f : Variant → Variant} {vs vs' : List Variant}

theorem updateFirst_eq_none : updateFirst p f vs = none ↔ ∀ v ∈ vs, p v = false := by
  induction vs with
  | nil => simp [updateFirst]
  | cons v vs ih =>
    unfold updateFirst
    by_cases hv : p v = true
    · simp [hv]
    · simp [hv, ih]

theorem updateFirst_eq_some (h : updateFirst p f vs = some vs') :
    ∃ as v bs, vs = as ++ v :: bs ∧ vs' = as ++ f v :: bs ∧ p v = true ∧ ∀ a ∈ as, p a = false := by
  induction vs generalizing vs' with
  | nil => cases h
  | cons v vs ih =>
    unfold updateFirst at h
    by_cases hv : p v = true
    · rw [if_pos hv] at h
      cases h
      exact ⟨[], v, vs, rfl, rfl, hv, fun a ha => absurd ha not_mem_nil⟩
    · rw [if_neg hv] at h
      obtain ⟨ws, hws, rfl⟩ := map_eq_some_iff.mp h
      obtain ⟨as, u, bs, rfl, rfl, hu, has⟩ := ih hws
      refine ⟨v :: as, u, bs, rfl, rfl, hu, fun a ha => ?_⟩
      rcases mem_cons.mp ha with rfl | ha
      · simpa using hv
      · exact has a ha

variable {v : Variant}

theorem updateFirst_append {as bs : List Variant} (hv : p v = true) (has : ∀ a ∈ as, p a = false) :
    updateFirst p f (as ++ v :: bs) = some (as ++ f v :: bs) := by
  induction as with
  | nil => simp [updateFirst, hv]
  | cons a as ih =>
    rw [cons_append, updateFirst, if_neg (by simp [has a (mem_cons_self ..)]),
      ih (fun b hb => has b (mem_cons_of_mem _ hb))]
    rfl

theorem variantStockSum_append (as bs : List Variant) :
    variantStockSum (as ++ bs) = variantStockSum as + variantStockSum bs := by
  simp [variantStockSum]

theorem variantStockSum_cons (v : Variant) (vs : List Variant) :
    variantStockSum (v :: vs) = max 0 (v.stock.getD 0) + variantStockSum vs := by
  simp [variantStockSum]

theorem variantStockSum_nonneg (vs : List Variant) : 0 ≤ variantStockSum vs := by
  induction vs with
  | nil => exact le_refl 0
  | cons v vs ih =>
    rw [variantStockSum_cons]
    have := le_max_left 0 (v.stock.getD 0)
    omega

theorem variantStockSum_untracked (h : vs.any (fun v => v.stock.isSome) = false) :
    variantStockSum vs = 0 := by
  induction vs with
  | nil => rfl
  | cons v vs ih =>
    rw [any_cons, Bool.or_eq_false_iff] at h
    rw [variantStockSum_cons, ih h.2, isSome_eq_false_iff.mp h.1 |> isNone_iff_eq_none.mp]
    rfl

theorem tracked_inc (sku : String) (n : ℤ) (v : Variant) :
    tracked sku (v.inc n) = tracked sku v := by
  simp [tracked, skuMatches, Variant.inc]

theorem inc_inc (m n : ℤ) (v : Variant) : (v.inc m).inc n = v.inc (m + n) := by
  cases v with
  | mk sku stock => cases stock <;> simp [Variant.inc, add_assoc]

theorem inc_zero (v : Variant) : v.inc 0 = v := by
  cases v with
  | mk sku stock => cases stock <;> simp [Variant.inc]

theorem tracked_of_hasStock {sku : String} {n : ℕ} (h : hasStock sku n v = true) :
    tracked sku v = true ∧ ∃ s, v.stock = some s ∧ (n : ℤ) ≤ s := by
  unfold hasStock at h
  rw [Bool.and_eq_true] at h
  obtain ⟨s, hs, hle⟩ := (any_eq_true _ _).mp h.2
  refine ⟨?_, s, hs, of_decide_eq_true hle⟩
  rw [tracked, h.1, hs]
  rfl

theorem variantStockSum_inc {as bs : List Variant} {s n : ℤ} (hs : v.stock = some s) (h0 : 0 ≤ s)
    (hn : 0 ≤ s + n) :
    variantStockSum (as ++ v.inc n :: bs) = variantStockSum (as ++ v :: bs) + n := by
  rw [variantStockSum_append, variantStockSum_append, variantStockSum_cons, variantStockSum_cons]
  rw [Variant.inc, hs, map_some, getD_some, getD_some, max_eq_right h0,
    max_eq_right hn]
  omega

end Variants

/-! ## One line -/

/-- The reservation of the line lowers the master and the variant it names by the quantity,
and nothing else; and the release of the line undoes it. -/
def LineExact (p : Product) (l : Line) (p' : Product) : Prop :=
  p.deduct l = some p' ∧ p'.restore l = p

/-- When it does: the product has no variants; or its master is the sum of its variants and
the line takes from the first variant with its SKU that has a counter (or takes nothing);
or no variant has a counter and the line takes the whole stock. -/
def LineFits (p : Product) (l : Line) : Prop :=
  p.variants = [] ∨
    (p.stock = variantStockSum p.variants ∧
      (l.quantity = 0 ∨ l.variantSku ≠ "" ∧
        (p.variants.find? (tracked l.variantSku)).any (hasStock l.variantSku l.quantity) = true)) ∨
    (p.variants.any (fun v => v.stock.isSome) = false ∧ (l.quantity : ℤ) = p.stock)

instance (p : Product) (l : Line) : Decidable (LineFits p l) :=
  inferInstanceAs (Decidable (_ ∨ _ ∧ _ ∨ _ ∧ _))

section OneLine

variable {p p' : Product} {l : Line}

/-- The two ways a line is deducted. -/
theorem deduct_cases (h : p.deduct l = some p') :
    p'.stock = p.stock - l.quantity ∧
      ((l.variantSku ≠ "" ∧ updateFirst (hasStock l.variantSku l.quantity)
          (Variant.inc (-l.quantity)) p.variants = some p'.variants) ∨
        (p'.variants = p.variants ∧ (l.quantity : ℤ) ≤ p.stock ∧
          (l.variantSku ≠ "" → p.variants ≠ [] ∧
            updateFirst (hasStock l.variantSku l.quantity) (Variant.inc (-l.quantity)) p.variants
              = none))) := by
  unfold Product.deduct at h
  by_cases hsku : l.variantSku ≠ ""
  · rw [if_pos hsku] at h
    split at h
    next vs hvs =>
      cases h
      exact ⟨rfl, .inl ⟨hsku, hvs⟩⟩
    next hnone =>
      split at h
      next hfall =>
        cases h
        refine ⟨rfl, .inr ⟨rfl, hfall.1, fun _ => ⟨fun hnil => ?_, hnone⟩⟩⟩
        rw [hnil] at hfall
        simp at hfall
      next => cases h
  · rw [if_neg hsku] at h
    split at h
    next hle =>
      cases h
      exact ⟨rfl, .inr ⟨rfl, hle, fun h => absurd h hsku⟩⟩
    next => cases h

theorem healSold_eq_self_iff : p.healSold = p ↔ p.variants = [] ∨ p.stock = variantStockSum p.variants := by
  unfold Product.healSold
  by_cases hnil : p.variants = []
  · simp [hnil]
  · rw [if_pos hnil]
    constructor
    · intro h
      exact .inr (congrArg Product.stock h).symm
    · rintro (h | h)
      · exact absurd h hnil
      · rw [← h]

theorem deduct_of_reserve (h : p.reserve l = some p') :
    ∃ d, p.deduct l = some d ∧ d.healSold = p' ∧ (p.deduct l = some p' ↔ d.healSold = d) := by
  obtain ⟨d, hd, rfl⟩ := map_eq_some_iff.mp h
  refine ⟨d, hd, rfl, ?_⟩
  rw [hd, some.injEq]
  exact eq_comm

theorem increment_cases (p : Product) (l : Line) :
    (p.increment l).stock = p.stock + l.quantity ∧
      (((l.variantSku = "" ∨ ∀ v ∈ p.variants, tracked l.variantSku v = false) ∧
          (p.increment l).variants = p.variants) ∨
        (l.variantSku ≠ "" ∧ updateFirst (tracked l.variantSku) (Variant.inc l.quantity) p.variants
          = some (p.increment l).variants)) := by
  unfold Product.increment
  by_cases hsku : l.variantSku ≠ ""
  · rw [if_pos hsku]
    cases hup : updateFirst (tracked l.variantSku) (Variant.inc l.quantity) p.variants with
    | none => exact ⟨rfl, .inl ⟨.inr (updateFirst_eq_none.mp hup), rfl⟩⟩
    | some vs => exact ⟨rfl, .inr ⟨hsku, rfl⟩⟩
  · rw [if_neg hsku]
    exact ⟨rfl, .inl ⟨.inl (not_not.mp hsku), rfl⟩⟩

theorem healReleased_variants (p : Product) : p.healReleased.variants = p.variants := by
  unfold Product.healReleased
  split <;> rfl

theorem eq_zero_of_inc_eq {sku : String} {v : Variant} {n : ℕ} (hv : tracked sku v = true)
    (h : v.inc n = v) : n = 0 := by
  unfold tracked at hv
  rw [Bool.and_eq_true] at hv
  obtain ⟨s, hs⟩ := isSome_iff_exists.mp hv.2
  have hstock := congrArg Variant.stock h
  rw [Variant.inc, hs, map_some, some.injEq] at hstock
  omega

theorem updateFirst_inc_zero {q : Variant → Bool} {vs vs' : List Variant} {n : ℤ} (hn : n = 0)
    (h : updateFirst q (Variant.inc n) vs = some vs') : vs' = vs := by
  obtain ⟨as, v, bs, rfl, rfl, -, -⟩ := updateFirst_eq_some h
  rw [hn, inc_zero]

theorem lineFits_of_exact (h : LineExact p l p') (hheal : p'.healSold = p') : LineFits p l := by
  obtain ⟨hded, hback⟩ := h
  obtain ⟨hstock, ⟨hsku, hvs⟩ | ⟨hvs, -, -⟩⟩ := deduct_cases hded
  · obtain ⟨as, v, bs, hp, hp', hv, has⟩ := updateFirst_eq_some hvs
    obtain ⟨htracked, s, hs, hle⟩ := tracked_of_hasStock hv
    have hsum : p.stock = variantStockSum p.variants := by
      rcases healSold_eq_self_iff.mp hheal with hnil | hsum
      · rw [hp'] at hnil
        simp at hnil
      · rw [hstock, hp', variantStockSum_inc hs (by omega) (by omega), ← hp] at hsum
        omega
    refine .inr (.inl ⟨hsum, ?_⟩)
    by_cases hq : l.quantity = 0
    · exact .inl hq
    · refine .inr ⟨hsku, ?_⟩
      rw [Product.restore, if_neg hq] at hback
      have hvariants : (p'.increment l).variants = p.variants := by
        rw [← hback]
        exact (healReleased_variants _).symm
      cases hfirst : as.find? (tracked l.variantSku) with
      | none =>
        -- the deduction took from the first counter with the SKU
        have hfind : p.variants.find? (tracked l.variantSku) = some v := by
          rw [hp, find?_append, hfirst, none_or, find?_cons_of_pos htracked]
        rw [hfind, any_some]
        exact hv
      | some u =>
        -- it skipped one, which the release then finds
        have hfind : p.variants.find? (tracked l.variantSku) = some u := by
          rw [hp, find?_append, hfirst, some_or]
        have hfind' : p'.variants.find? (tracked l.variantSku) = some u := by
          rw [hp', find?_append, hfirst, some_or]
        obtain ⟨-, ⟨hno, -⟩ | ⟨-, hup⟩⟩ := increment_cases p' l
        · rcases hno with hno | hno
          · exact absurd hno hsku
          · rw [find?_eq_none.mpr (fun w hw => by simp [hno w hw])] at hfind'
            cases hfind'
        · rw [hvariants] at hup
          obtain ⟨as₂, w, bs₂, hp₂', hp₂, hw, has₂⟩ := updateFirst_eq_some hup
          have hskip : as₂.find? (tracked l.variantSku) = none :=
            find?_eq_none.mpr (fun x hx => by simp [has₂ x hx])
          rw [hp₂', find?_append, hskip, none_or, find?_cons_of_pos hw] at hfind'
          rw [hp₂, find?_append, hskip, none_or,
            find?_cons_of_pos (by rw [tracked_inc]; exact hw)] at hfind
          have heq : w.inc l.quantity = w := by
            rw [some.inj hfind, some.inj hfind']
          exact absurd (eq_zero_of_inc_eq hw heq) hq
  · rcases healSold_eq_self_iff.mp hheal with hnil | hsum
    · exact .inl (hvs ▸ hnil)
    · rw [hstock, hvs] at hsum
      by_cases hq : l.quantity = 0
      · exact .inr (.inl ⟨by rw [← hsum, hq]; simp, .inl hq⟩)
      · rw [Product.restore, if_neg hq] at hback
        have hvariants : (p'.increment l).variants = p.variants := by
          rw [← hback]
          exact (healReleased_variants _).symm
        obtain ⟨hinc, ⟨-, hsame⟩ | ⟨-, hup⟩⟩ := increment_cases p' l
        · cases hany : p.variants.any (fun v => v.stock.isSome) with
          | true =>
            -- the release heals the master to the sum, which it was not
            have hback' := congrArg Product.stock hback
            rw [Product.incrementProductStock, Product.healReleased, hvariants, if_pos hany]
              at hback'
            dsimp only at hback'
            omega
          | false =>
            rw [variantStockSum_untracked hany] at hsum
            exact .inr (.inr ⟨hany, by omega⟩)
        · rw [hvariants, hvs] at hup
          obtain ⟨as, v, bs, hp, hp', hv, -⟩ := updateFirst_eq_some hup
          have heq : v.inc l.quantity = v := by
            have := append_cancel_left (hp'.symm.trans hp)
            exact (cons.inj this).1
          exact absurd (eq_zero_of_inc_eq hv heq) hq

/-- Giving back what was deducted, where the release finds the variant it came from. -/
theorem restore_eq {d : Product} (hstock : d.stock = p.stock - l.quantity)
    (hq : l.quantity = 0 → d = p)
    (hvariants : l.quantity ≠ 0 → (d.increment l).variants = p.variants)
    (hsum : p.variants.any (fun v => v.stock.isSome) = true → p.stock = variantStockSum p.variants) :
    d.restore l = p := by
  unfold Product.restore
  by_cases hzero : l.quantity = 0
  · rw [if_pos hzero]
    exact hq hzero
  · rw [if_neg hzero, Product.incrementProductStock]
    have hinc : d.increment l = p := by
      refine Product.ext ?_ (hvariants hzero)
      rw [(increment_cases d l).1, hstock]
      omega
    rw [hinc, Product.healReleased]
    split
    next hany => rw [← hsum hany]
    next => rfl

theorem exact_of_lineFits {d : Product} (hd : p.deduct l = some d) (h : LineFits p l) :
    d.healSold = d ∧ d.restore l = p := by
  obtain ⟨hstock, hcase⟩ := deduct_cases hd
  -- a line that takes nothing leaves the product
  have hzero : l.quantity = 0 → d = p := by
    intro hq
    refine Product.ext (by rw [hstock, hq]; simp) ?_
    rcases hcase with ⟨-, hvs⟩ | ⟨hvs, -⟩
    · exact updateFirst_inc_zero (by rw [hq]; rfl) hvs
    · exact hvs
  have hsame : p.variants.any (fun v => v.stock.isSome) = false → d.variants = p.variants := by
    intro hany
    rcases hcase with ⟨-, hvs⟩ | ⟨hvs, -⟩
    · obtain ⟨as, v, bs, hp, -, hv, -⟩ := updateFirst_eq_some hvs
      obtain ⟨-, s, hs, -⟩ := tracked_of_hasStock hv
      rw [hp] at hany
      simp [hs] at hany
    · exact hvs
  have hback : p.variants.any (fun v => v.stock.isSome) = false →
      l.quantity ≠ 0 → (d.increment l).variants = p.variants := by
    intro hany _
    obtain ⟨-, ⟨-, hno⟩ | ⟨-, hup⟩⟩ := increment_cases d l
    · rw [hno, hsame hany]
    · obtain ⟨as, v, bs, hp, -, hv, -⟩ := updateFirst_eq_some hup
      rw [← hsame hany, hp] at hany
      unfold tracked at hv
      rw [Bool.and_eq_true] at hv
      simp [hv.2] at hany
  rcases h with hnil | ⟨hsum, hq | ⟨hsku, hfind⟩⟩ | ⟨hany, htotal⟩
  · have hany : p.variants.any (fun v => v.stock.isSome) = false := by
      rw [hnil]
      rfl
    refine ⟨healSold_eq_self_iff.mpr (.inl (by rw [hsame hany, hnil])), ?_⟩
    refine restore_eq hstock hzero (hback hany) (fun h => ?_)
    rw [hany] at h
    cases h
  · rw [hzero hq]
    exact ⟨healSold_eq_self_iff.mpr (.inr hsum), by rw [Product.restore, if_pos hq]⟩
  · obtain ⟨v, hv, hstockv⟩ := (any_eq_true _ _).mp hfind
    obtain ⟨htracked, s, hs, hle⟩ := tracked_of_hasStock hstockv
    obtain ⟨-, as, bs, hp, has⟩ := find?_eq_some_iff_append.mp hv
    have has' : ∀ a ∈ as, tracked l.variantSku a = false := fun a ha => by simpa using has a ha
    have hno : ∀ a ∈ as, hasStock l.variantSku l.quantity a = false := by
      intro a ha
      by_contra hyes
      rw [Bool.not_eq_false] at hyes
      have hfalse := has' a ha
      rw [(tracked_of_hasStock hyes).1] at hfalse
      cases hfalse
    have hvs : d.variants = as ++ v.inc (-l.quantity) :: bs := by
      have hup : updateFirst (hasStock l.variantSku l.quantity) (Variant.inc (-l.quantity)) p.variants
          = some (as ++ v.inc (-l.quantity) :: bs) := by
        rw [hp]
        exact updateFirst_append hstockv hno
      rcases hcase with ⟨-, hvs⟩ | ⟨-, -, hnone⟩
      · exact some.inj (hvs.symm.trans hup)
      · rw [(hnone hsku).2] at hup
        cases hup
    refine ⟨healSold_eq_self_iff.mpr (.inr ?_), restore_eq hstock hzero (fun _ => ?_) (fun _ => hsum)⟩
    · rw [hstock, hvs, variantStockSum_inc hs (by omega) (by omega), ← hp, ← hsum]
      omega
    · have hup : updateFirst (tracked l.variantSku) (Variant.inc l.quantity) d.variants
          = some p.variants := by
        rw [hvs, updateFirst_append (by rw [tracked_inc]; exact htracked) has', inc_inc,
          neg_add_cancel, inc_zero, ← hp]
      obtain ⟨-, ⟨hno' | hno', -⟩ | ⟨-, hup'⟩⟩ := increment_cases d l
      · exact absurd hno' hsku
      · rw [updateFirst_eq_none.mpr hno'] at hup
        cases hup
      · exact some.inj (hup'.symm.trans hup)
  · refine ⟨healSold_eq_self_iff.mpr (.inr ?_), restore_eq hstock hzero (hback hany) (fun h => ?_)⟩
    · rw [hstock, hsame hany, variantStockSum_untracked hany, htotal]
      omega
    · rw [hany] at h
      cases h

theorem lineExact_iff (h : p.reserve l = some p') : LineExact p l p' ↔ LineFits p l := by
  obtain ⟨d, hd, hheal, hiff⟩ := deduct_of_reserve h
  constructor
  · intro hexact
    have hself : d.healSold = d := hiff.mp hexact.1
    exact lineFits_of_exact hexact (by rw [← hheal, hself, hself])
  · intro hfits
    obtain ⟨hself, hback⟩ := exact_of_lineFits hd hfits
    refine ⟨hiff.mpr hself, ?_⟩
    rw [← hheal, hself]
    exact hback

end OneLine

/-! ## Releases commute -/

section Commute

def released (l : Line) : List Variant → List Variant
  | [] => []
  | v :: vs =>
    if l.variantSku ≠ "" ∧ tracked l.variantSku v = true then v.inc l.quantity :: vs
    else v :: released l vs

theorem released_eq (p : Product) (l : Line) : (p.increment l).variants = released l p.variants := by
  have hskip : ∀ vs : List Variant, (l.variantSku = "" ∨ ∀ v ∈ vs, tracked l.variantSku v = false) →
      released l vs = vs := by
    intro vs hvs
    induction vs with
    | nil => rfl
    | cons v vs ih =>
      rw [released, if_neg, ih]
      · exact hvs.imp_right (fun h w hw => h w (mem_cons_of_mem _ hw))
      · rintro ⟨hsku, hv⟩
        rcases hvs with hno | hno
        · exact hsku hno
        · rw [hno v (mem_cons_self ..)] at hv
          cases hv
  obtain ⟨-, ⟨hno, hsame⟩ | ⟨hsku, hup⟩⟩ := increment_cases p l
  · rw [hsame, hskip _ hno]
  · obtain ⟨as, v, bs, hp, hp', hv, has⟩ := updateFirst_eq_some hup
    rw [hp', hp]
    clear hp hp' hup
    induction as with
    | nil => rw [nil_append, nil_append, released, if_pos ⟨hsku, hv⟩]
    | cons a as ih =>
      rw [cons_append, cons_append, released, if_neg,
        ih (fun b hb => has b (mem_cons_of_mem _ hb))]
      rintro ⟨-, ha⟩
      rw [has a (mem_cons_self ..)] at ha
      cases ha

theorem released_comm (l l' : Line) (vs : List Variant) :
    released l (released l' vs) = released l' (released l vs) := by
  induction vs with
  | nil => rfl
  | cons v vs ih =>
    have hinc : ∀ (k k' : Line), (k.variantSku ≠ "" ∧ tracked k.variantSku (v.inc k'.quantity) = true)
        ↔ (k.variantSku ≠ "" ∧ tracked k.variantSku v = true) := by
      intro k k'
      rw [tracked_inc]
    have hhit : ∀ (k : Line) (w : Variant) (ws : List Variant),
        (k.variantSku ≠ "" ∧ tracked k.variantSku w = true) →
          released k (w :: ws) = w.inc k.quantity :: ws := fun _ _ _ h => if_pos h
    have hmiss : ∀ (k : Line) (w : Variant) (ws : List Variant),
        ¬ (k.variantSku ≠ "" ∧ tracked k.variantSku w = true) →
          released k (w :: ws) = w :: released k ws := fun _ _ _ h => if_neg h
    by_cases h : l.variantSku ≠ "" ∧ tracked l.variantSku v = true <;>
      by_cases h' : l'.variantSku ≠ "" ∧ tracked l'.variantSku v = true
    · rw [hhit l' v vs h', hhit l v vs h, hhit l _ vs ((hinc l l').mpr h),
        hhit l' _ vs ((hinc l' l).mpr h'), inc_inc, inc_inc, add_comm]
    · rw [hmiss l' v vs h', hhit l v vs h, hhit l v _ h, hmiss l' _ vs (by rw [hinc]; exact h')]
    · rw [hhit l' v vs h', hmiss l v vs h, hmiss l _ vs (by rw [hinc]; exact h), hhit l' v _ h']
    · rw [hmiss l' v vs h', hmiss l v vs h, hmiss l v _ h, hmiss l' v _ h', ih]

theorem any_released (l : Line) (vs : List Variant) :
    (released l vs).any (fun v => v.stock.isSome) = vs.any (fun v => v.stock.isSome) := by
  induction vs with
  | nil => rfl
  | cons v vs ih =>
    rw [released]
    split
    · simp [Variant.inc]
    · rw [any_cons, ih, any_cons]

theorem restore_variants (p : Product) (l : Line) (h : l.quantity ≠ 0) :
    (p.restore l).variants = released l p.variants := by
  rw [Product.restore, if_neg h, Product.incrementProductStock, healReleased_variants, released_eq]

theorem restore_stock (p : Product) (l : Line) (h : l.quantity ≠ 0) :
    (p.restore l).stock = if p.variants.any (fun v => v.stock.isSome) = true
      then variantStockSum (released l p.variants) else p.stock + l.quantity := by
  rw [Product.restore, if_neg h, Product.incrementProductStock, Product.healReleased, released_eq,
    any_released]
  split
  · rfl
  · exact (increment_cases p l).1

theorem restore_comm (p : Product) (l l' : Line) :
    (p.restore l).restore l' = (p.restore l').restore l := by
  by_cases h : l.quantity = 0
  · simp only [Product.restore, if_pos h]
  · by_cases h' : l'.quantity = 0
    · simp only [Product.restore, if_pos h']
    · refine Product.ext ?_ ?_
      · rw [restore_stock _ _ h', restore_stock _ _ h, restore_variants _ _ h,
          restore_stock _ _ h, restore_stock _ _ h', restore_variants _ _ h', any_released,
          any_released, released_comm l' l]
        split
        · rfl
        · omega
      · rw [restore_variants _ _ h', restore_variants _ _ h, restore_variants _ _ h,
          restore_variants _ _ h', released_comm]

theorem restoreLine_comm (products : Products) (l l' : Line) :
    restoreLine (restoreLine products l) l' = restoreLine (restoreLine products l') l := by
  unfold restoreLine
  by_cases hid : l'.product = l.product
  · rw [hid, update_self, update_self, update_idem, update_idem]
    cases products l.product with
    | none => rfl
    | some p =>
      rw [map_some, map_some, map_some, map_some, restore_comm]
  · rw [update_of_ne hid, update_of_ne (Ne.symm hid), update_comm (Ne.symm hid)]

theorem restoreLines_restoreLine (products : Products) (l : Line) (lines : List Line) :
    restoreLines (restoreLine products l) lines = restoreLine (restoreLines products lines) l := by
  induction lines generalizing products with
  | nil => rfl
  | cons k lines ih =>
    rw [restoreLines, foldl_cons, restoreLine_comm]
    exact ih (restoreLine products k)

end Commute

/-! ## Runs of reservations -/

/-- A line that is reserved; one that is refused leaves the products as they are. -/
def sell (products : Products) (l : Line) : Products := (reserveLine products l).getD products

def FitsAt (products : Products) (l : Line) : Prop := (products l.product).all (fun p => decide (LineFits p l)) = true

instance (products : Products) (l : Line) : Decidable (FitsAt products l) :=
  inferInstanceAs (Decidable (_ = true))

def ExactAt (products : Products) (l : Line) : Prop :=
  ∀ p p', products l.product = some p → sell products l l.product = some p' → LineExact p l p'

def unitsOf (id : ObjectId) (lines : List Line) : ℕ :=
  ((lines.filter (fun l => decide (l.product = id))).map Line.quantity).sum

/-- The reservation of the lines has sold what it should have: each line lowers the stock
that the next one is checked against by exactly its quantity, no product sells more than it
had, and the release of the same lines restores every product. -/
structure SoldExactly (products : Products) (lines : List Line) (products' : Products) : Prop where
  each : Guarded sell ExactAt products lines
  bounded : ∀ id p, products id = some p → (unitsOf id lines : ℤ) ≤ max 0 p.stock
  back : restoreLines products' lines = products

section Reservations

variable {products products' : Products} {l : Line}

theorem reserveLine_eq_some (h : reserveLine products l = some products') :
    ∃ p p', products l.product = some p ∧ p.reserve l = some p' ∧
      products' = update products l.product (some p') ∧ sell products l = products' := by
  have hsell : sell products l = products' := by
    rw [sell, h, getD_some]
  unfold reserveLine at h
  obtain ⟨p', hp', rfl⟩ := map_eq_some_iff.mp h
  obtain ⟨p, hp, hres⟩ := bind_eq_some_iff.mp hp'
  exact ⟨p, p', hp, hres, rfl, hsell⟩

theorem exactAt_iff (h : reserveLine products l = some products') :
    ExactAt products l ↔ FitsAt products l := by
  obtain ⟨p, p', hp, hres, rfl, hsell⟩ := reserveLine_eq_some h
  unfold ExactAt FitsAt
  rw [hsell, update_self, hp, all_some, decide_eq_true_iff, ← lineExact_iff hres]
  constructor
  · intro hall
    exact hall p p' rfl rfl
  · rintro hexact q q' ⟨⟩ ⟨⟩
    exact hexact

theorem stock_of_fits {p p' : Product} (hres : p.reserve l = some p') (hfits : LineFits p l) :
    p'.stock = p.stock - l.quantity ∧ ((l.quantity : ℤ) ≤ p.stock ∨ l.quantity = 0) := by
  obtain ⟨hded, -⟩ := (lineExact_iff hres).mpr hfits
  obtain ⟨hstock, hcase⟩ := deduct_cases hded
  refine ⟨hstock, ?_⟩
  rcases hcase with ⟨hsku, hvs⟩ | ⟨-, hle, -⟩
  · obtain ⟨as, v, bs, hp, -, hv, -⟩ := updateFirst_eq_some hvs
    obtain ⟨-, s, hs, hle⟩ := tracked_of_hasStock hv
    rcases hfits with hnil | ⟨hsum, -⟩ | ⟨hany, -⟩
    · rw [hnil] at hp
      simp at hp
    · refine .inl ?_
      rw [hsum, hp, variantStockSum_append, variantStockSum_cons, hs, getD_some]
      have has := variantStockSum_nonneg as
      have hbs := variantStockSum_nonneg bs
      have hmax := le_max_right 0 s
      omega
    · rw [hp] at hany
      simp [hs] at hany
  · exact .inl hle

variable {lines : List Line}

theorem reserve_cons (h : reserveStockForItems products (l :: lines) = .ok products') :
    ∃ next, reserveLine products l = some next ∧ sell products l = next ∧
      reserveStockForItems next lines = .ok products' := by
  unfold reserveStockForItems at h
  split at h
  next next hline => exact ⟨next, hline, by rw [sell, hline, getD_some], h⟩
  next => cases h

theorem reserve_of_each
    (h : Guarded sell (fun products l => (reserveLine products l).isSome = true) products lines) :
    reserveStockForItems products lines = .ok (exec sell products lines) := by
  induction lines generalizing products with
  | nil => rfl
  | cons l lines ih =>
    obtain ⟨hline, hrest⟩ := h
    obtain ⟨next, hnext⟩ := isSome_iff_exists.mp hline
    have hsell : sell products l = next := by
      rw [sell, hnext, getD_some]
    rw [reserveStockForItems, hnext, exec_cons, hsell]
    rw [hsell] at hrest
    exact ih hrest

theorem lineFits_of_fitsAt {p : Product} (hp : products l.product = some p)
    (h : FitsAt products l) : LineFits p l := by
  unfold FitsAt at h
  rw [hp, all_some] at h
  exact of_decide_eq_true h

theorem each_iff (h : reserveStockForItems products lines = .ok products') :
    Guarded sell ExactAt products lines ↔ Guarded sell FitsAt products lines := by
  induction lines generalizing products with
  | nil => exact Iff.rfl
  | cons l lines ih =>
    obtain ⟨next, hline, hsell, hrest⟩ := reserve_cons h
    refine and_congr (exactAt_iff hline) ?_
    rw [hsell]
    exact ih hrest

theorem unitsOf_cons (id : ObjectId) (lines : List Line) :
    unitsOf id (l :: lines) = (if l.product = id then l.quantity else 0) + unitsOf id lines := by
  unfold unitsOf
  by_cases h : l.product = id
  · simp [h]
  · simp [h]

theorem bounded_of_fits (h : reserveStockForItems products lines = .ok products')
    (hfits : Guarded sell FitsAt products lines) {id : ObjectId} {p : Product}
    (hp : products id = some p) : (unitsOf id lines : ℤ) ≤ max 0 p.stock := by
  induction lines generalizing products p with
  | nil => exact le_max_left 0 p.stock
  | cons l lines ih =>
    obtain ⟨next, hline, hsell, hrest⟩ := reserve_cons h
    obtain ⟨q, q', hq, hres, rfl, -⟩ := reserveLine_eq_some hline
    obtain ⟨hfit, hlater⟩ := hfits
    rw [hsell] at hlater
    rw [unitsOf_cons]
    by_cases hid : l.product = id
    · subst hid
      obtain rfl : q = p := some.inj (hq.symm.trans hp)
      obtain ⟨hstock, hle⟩ := stock_of_fits hres (lineFits_of_fitsAt hp hfit)
      have hothers := ih hrest hlater (update_self ..)
      rw [if_pos rfl]
      push_cast
      omega
    · have hothers := ih hrest hlater (by rw [update_of_ne (Ne.symm hid)]; exact hp)
      rw [if_neg hid, zero_add]
      exact hothers

/-- The release of lines that fit restores every product: the releases of the later lines
come first, since releases commute. -/
theorem back_of_fits (h : reserveStockForItems products lines = .ok products')
    (hfits : Guarded sell FitsAt products lines) :
    restoreLines products' lines = products := by
  induction lines generalizing products with
  | nil => exact Transaction.pure_eq_ok.mp h
  | cons l lines ih =>
    obtain ⟨next, hline, hsell, hrest⟩ := reserve_cons h
    obtain ⟨p, p', hp, hres, rfl, -⟩ := reserveLine_eq_some hline
    obtain ⟨hfit, hlater⟩ := hfits
    rw [hsell] at hlater
    have hback : restoreLine (update products l.product (some p')) l = products := by
      obtain ⟨-, hundone⟩ := (lineExact_iff hres).mpr (lineFits_of_fitsAt hp hfit)
      rw [restoreLine, update_self, map_some, hundone, update_idem, ← hp, update_eq_self]
    calc restoreLines products' (l :: lines)
        = restoreLines (restoreLine products' l) lines := rfl
      _ = restoreLine (restoreLines products' lines) l := restoreLines_restoreLine products' l lines
      _ = products := by rw [ih hrest hlater, hback]

/-- For all products and lines that are reserved: the sale is exact, within the stock and
undone by its release, if and only if each line fits the product as it then is. -/
theorem sold_exactly_iff {lines : List Line}
    (h : reserveStockForItems products lines = .ok products') :
    SoldExactly products lines products' ↔ Guarded sell FitsAt products lines := by
  constructor
  · intro hsold
    exact (each_iff h).mp hsold.each
  · intro hfits
    exact ⟨(each_iff h).mpr hfits, fun id p hp => bounded_of_fits h hfits hp, back_of_fits h hfits⟩

/-- A product with two variants that count, and its master their sum. -/
def shirts : Products :=
  update (fun _ => none) 5 (some ⟨7, [⟨"S", some 3⟩, ⟨"M", some 4⟩]⟩)

/-- Two of one variant and all of the other. -/
def shirtLines : List Line := [⟨5, "Shirt", "s", 2⟩, ⟨5, "Shirt", "M", 4⟩]

theorem sold_exactly_shirts :
    SoldExactly shirts shirtLines (exec sell shirts shirtLines) :=
  (sold_exactly_iff (reserve_of_each (by decide +kernel))).mpr (by decide +kernel)

/-- Lines that name no variant are checked against the master, which the self-heal sets back
to the sum of the variants: the seven shirts are sold twice. -/
theorem shirts_oversold :
    reserveStockForItems shirts [⟨5, "Shirt", "", 7⟩, ⟨5, "Shirt", "", 7⟩]
        = .ok (exec sell shirts [⟨5, "Shirt", "", 7⟩, ⟨5, "Shirt", "", 7⟩]) ∧
      ¬ SoldExactly shirts [⟨5, "Shirt", "", 7⟩, ⟨5, "Shirt", "", 7⟩]
        (exec sell shirts [⟨5, "Shirt", "", 7⟩, ⟨5, "Shirt", "", 7⟩]) := by
  refine ⟨rfl, fun hsold => ?_⟩
  have hbound := hsold.bounded 5 ⟨7, [⟨"S", some 3⟩, ⟨"M", some 4⟩]⟩ rfl
  exact absurd hbound (by decide)

end Reservations

end DiscountBazar.Inventory
