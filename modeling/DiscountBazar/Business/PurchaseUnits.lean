/-
Units of purchased goods, counted over kinds of keys.

The map of some lines, and the map of what an edit changes, are known by the units they give to
every kind of keys. The results about stock and about returns count units; they do not look into the
maps.
-/
import DiscountBazar.Business.PurchaseSteps
import Mathlib.Algebra.BigOperators.Group.Finset.Piecewise

namespace DiscountBazar.Business

open Transaction Inventory List QtyMap

/-! ## Units -/

def unitsOf (items : List PurchaseItem) (p : ItemKey → Bool) : ℤ :=
  (items.map (fun i => if p i.key then ((i.quantity : ℕ) : ℤ) else 0)).sum

def QtyMap.total (m : QtyMap) (p : ItemKey → Bool) : ℤ :=
  (m.map (fun e => if p e.1 then e.2 else 0)).sum

def ItemKey.only (key : ItemKey) : ItemKey → Bool := fun k => decide (k = key)

section Units

variable {p : ItemKey → Bool}

@[simp] theorem unitsOf_nil : unitsOf [] p = 0 := rfl

theorem unitsOf_cons (i : PurchaseItem) (items : List PurchaseItem) :
    unitsOf (i :: items) p = (if p i.key then ((i.quantity : ℕ) : ℤ) else 0) + unitsOf items p := rfl

theorem unitsOf_append (items rest : List PurchaseItem) :
    unitsOf (items ++ rest) p = unitsOf items p + unitsOf rest p := by
  unfold unitsOf
  rw [map_append, sum_append]

theorem unitsOf_nonneg (items : List PurchaseItem) (p : ItemKey → Bool) : 0 ≤ unitsOf items p := by
  refine sum_nonneg fun n hn => ?_
  obtain ⟨i, -, rfl⟩ := mem_map.mp hn
  split
  · exact Int.natCast_nonneg _
  · exact le_rfl

variable {items : List PurchaseItem}

theorem unitsOf_pos {i : PurchaseItem} (hi : i ∈ items) (hp : p i.key = true) :
    0 < unitsOf items p := by
  induction items with
  | nil => exact absurd hi not_mem_nil
  | cons j items ih =>
    rw [unitsOf_cons]
    have hrest := unitsOf_nonneg items p
    rcases mem_cons.mp hi with rfl | hi
    · rw [if_pos hp]
      have hpos := i.quantity.pos
      omega
    · have htail := ih hi
      split
      · omega
      · omega

theorem total_add (key : ItemKey) (n : ℤ) (m : QtyMap) :
    (m.add key n).total p = m.total p + if p key then n else 0 := by
  induction m with
  | nil => simp [add, total]
  | cons e m ih =>
    obtain ⟨k, x⟩ := e
    unfold add
    by_cases hk : k = key
    · rw [if_pos hk]
      simp only [total, map_cons, sum_cons, hk]
      split
      · ring
      · ring
    · rw [if_neg hk]
      simp only [total, map_cons, sum_cons] at ih ⊢
      rw [ih]
      ring

theorem total_foldl (lines : List (ItemKey × ℤ)) (m : QtyMap) :
    (lines.foldl (fun m line => add line.1 line.2 m) m).total p
      = m.total p + (lines.map (fun e => if p e.1 then e.2 else 0)).sum := by
  induction lines generalizing m with
  | nil => simp
  | cons line lines ih =>
    rw [foldl_cons, ih, total_add, map_cons, sum_cons]
    ring

theorem total_qtyMapOf (lines : List (ItemKey × ℤ)) :
    (qtyMapOf lines).total p = (lines.map (fun e => if p e.1 then e.2 else 0)).sum := by
  unfold qtyMapOf
  rw [total_foldl]
  exact zero_add _

theorem total_qtyMap (items : List PurchaseItem) : (qtyMap items).total p = unitsOf items p := by
  unfold qtyMap unitsOf
  rw [total_qtyMapOf, map_map]
  rfl

theorem get_add (key k : ItemKey) (n : ℤ) (m : QtyMap) :
    (m.add key n).get k = m.get k + if k = key then n else 0 := by
  induction m with
  | nil =>
    unfold QtyMap.add QtyMap.get
    by_cases hk : key = k
    · simp [hk]
    · have hne : k ≠ key := Ne.symm hk
      simp [hk, hne]
  | cons e m ih =>
    obtain ⟨k', x⟩ := e
    unfold add
    unfold QtyMap.get at ih ⊢
    by_cases hk : k' = key
    · rw [if_pos hk]
      by_cases hk' : k' = k
      · subst hk
        simp [hk']
      · have hne : k ≠ key := fun h => hk' (hk.trans h.symm)
        simp [hk', hne]
    · rw [if_neg hk]
      by_cases hk' : k' = k
      · have hne : k ≠ key := fun h => hk (hk'.trans h)
        simp [hk', hne]
      · simp only [find?_cons, hk', decide_false]
        exact ih

theorem get_foldl (lines : List (ItemKey × ℤ)) (m : QtyMap) (k : ItemKey) :
    (lines.foldl (fun m line => add line.1 line.2 m) m).get k
      = m.get k + (lines.map (fun e => if e.1 = k then e.2 else 0)).sum := by
  induction lines generalizing m with
  | nil => simp
  | cons line lines ih =>
    rw [foldl_cons, ih, get_add, map_cons, sum_cons]
    by_cases hk : k = line.1
    · simp [hk, add_assoc]
    · have hne : line.1 ≠ k := Ne.symm hk
      simp [hk, hne]

theorem get_qtyMapOf (lines : List (ItemKey × ℤ)) (k : ItemKey) :
    (qtyMapOf lines).get k = (lines.map (fun e => if e.1 = k then e.2 else 0)).sum := by
  unfold qtyMapOf
  rw [get_foldl]
  exact zero_add _

theorem get_qtyMap (items : List PurchaseItem) (k : ItemKey) :
    (qtyMap items).get k = unitsOf items k.only := by
  unfold qtyMap unitsOf
  rw [get_qtyMapOf, map_map]
  refine congrArg sum (map_congr_left fun i _ => ?_)
  by_cases hk : i.key = k
  · simp [PurchaseItem.units, ItemKey.only, hk]
  · simp [PurchaseItem.units, ItemKey.only, hk]

/-! ### Keys of a map -/

theorem mem_or_get_eq_zero (m : QtyMap) (k : ItemKey) : (k, m.get k) ∈ m ∨ m.get k = 0 := by
  unfold QtyMap.get
  cases hfind : m.find? (fun entry => decide (entry.1 = k)) with
  | none => exact .inr rfl
  | some e =>
    have hkey : e.1 = k := by simpa using find?_some hfind
    left
    rw [← hkey]
    exact mem_of_find?_eq_some hfind

/-! ### All keys together -/

theorem sum_unitsOf_only {keys : List ItemKey} (hnodup : keys.Nodup)
    (hkeys : ∀ i ∈ items, i.key ∈ keys) :
    (keys.map (fun k => if p k then unitsOf items k.only else 0)).sum = unitsOf items p := by
  rw [← sum_toFinset _ hnodup]
  induction items with
  | nil => simp
  | cons i items ih =>
    have hi : i.key ∈ keys.toFinset := mem_toFinset.mpr (hkeys i mem_cons_self)
    have hrest := ih fun j hj => hkeys j (mem_cons_of_mem i hj)
    have hone : ∀ k, (if p k then unitsOf (i :: items) k.only else 0)
        = (if i.key = k then (if p k then ((i.quantity : ℕ) : ℤ) else 0) else 0)
          + if p k then unitsOf items k.only else 0 := by
      intro k
      by_cases hk : i.key = k
      · by_cases hp : p k = true
        · simp [unitsOf_cons, ItemKey.only, hk, hp]
        · simp [hp]
      · by_cases hp : p k = true
        · simp [unitsOf_cons, ItemKey.only, hk, hp]
        · simp [hp]
    rw [Finset.sum_congr rfl fun k _ => hone k, Finset.sum_add_distrib, hrest,
      Finset.sum_ite_eq, if_pos hi, unitsOf_cons]

theorem mem_keys_add {key k : ItemKey} {n : ℤ} {m : QtyMap} :
    k ∈ (m.add key n).map Prod.fst ↔ k = key ∨ k ∈ m.map Prod.fst := by
  induction m with
  | nil => simp [add]
  | cons e m ih =>
    obtain ⟨k', x⟩ := e
    unfold add
    by_cases hk : k' = key
    · rw [if_pos hk]
      simp [hk]
    · rw [if_neg hk, map_cons, mem_cons, ih, map_cons, mem_cons]
      tauto

theorem mem_keys_foldl {lines : List (ItemKey × ℤ)} {m : QtyMap} {k : ItemKey} :
    k ∈ (lines.foldl (fun m line => add line.1 line.2 m) m).map Prod.fst
      ↔ k ∈ m.map Prod.fst ∨ k ∈ lines.map Prod.fst := by
  induction lines generalizing m with
  | nil => simp
  | cons line lines ih =>
    rw [foldl_cons, ih, mem_keys_add, map_cons, mem_cons]
    tauto

theorem mem_keys_qtyMap {i : PurchaseItem} (hi : i ∈ items) :
    i.key ∈ (qtyMap items).map Prod.fst := by
  refine mem_keys_foldl.mpr (.inr ?_)
  rw [map_map]
  exact mem_map.mpr ⟨i, hi, rfl⟩

theorem nodup_unionKeys (oldQ newQ : QtyMap) : (unionKeys oldQ newQ).Nodup :=
  nodup_reverse.mpr (nodup_dedup _)

theorem mem_unionKeys {oldQ newQ : QtyMap} {k : ItemKey} :
    k ∈ unionKeys oldQ newQ ↔ k ∈ oldQ.map Prod.fst ∨ k ∈ newQ.map Prod.fst := by
  unfold unionKeys
  rw [mem_reverse, mem_dedup, mem_reverse, mem_append]

theorem total_qtyDiff (old new : List PurchaseItem) :
    (qtyDiff (qtyMap old) (qtyMap new)).total p = unitsOf new p - unitsOf old p := by
  have hnodup := nodup_unionKeys (qtyMap old) (qtyMap new)
  have hkeys : ∀ items : List PurchaseItem,
      (∀ i ∈ items, i.key ∈ unionKeys (qtyMap old) (qtyMap new)) →
        ((unionKeys (qtyMap old) (qtyMap new)).map
          (fun k => if p k then unitsOf items k.only else 0)).sum = unitsOf items p :=
    fun _ => sum_unitsOf_only hnodup
  have hold := hkeys old fun i hi => mem_unionKeys.mpr (.inl (mem_keys_qtyMap hi))
  have hnew := hkeys new fun i hi => mem_unionKeys.mpr (.inr (mem_keys_qtyMap hi))
  rw [← hold, ← hnew, ← sum_toFinset _ hnodup, ← sum_toFinset _ hnodup,
    ← Finset.sum_sub_distrib, total, qtyDiff, map_map, ← sum_toFinset _ hnodup]
  refine Finset.sum_congr rfl fun k _ => ?_
  rw [Function.comp_apply, get_qtyMap, get_qtyMap]
  split
  · rfl
  · rfl

end Units

end DiscountBazar.Business
