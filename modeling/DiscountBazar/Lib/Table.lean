/-
A keyed table: a list of rows no two of which share a key.

This is the shape a document collection has once its ids are unique: rows are
found by key, replaced in place and appended under a fresh key, and their order
is the order they were inserted in. Uniqueness is a field, so a table with two
rows of one key cannot be built. What the invariants of a program need from it is
how a sum over the rows moves when one row is replaced or appended
(`sum_set`, `sum_insert`).
-/
import Mathlib.Data.List.Nodup
import Mathlib.Algebra.Order.BigOperators.Group.List

/-- Rows of type `ρ`, at most one for each value of `key`. -/
structure Table {κ ρ : Type*} (key : ρ → κ) where
  rows : List ρ
  nodup : (rows.map key).Nodup

namespace Table

open List

variable {κ ρ : Type*} {key : ρ → κ}

def empty : Table key := ⟨[], nodup_nil⟩

@[simp] theorem rows_empty : (empty : Table key).rows = [] := rfl

section Lookup

variable [DecidableEq κ]

/-- The row stored under `k`. -/
def get? (t : Table key) (k : κ) : Option ρ := t.rows.find? (fun r => decide (key r = k))

/-- Replace the row that has `r`'s key by `r`; without such a row nothing changes. -/
def set (t : Table key) (r : ρ) : Table key where
  rows := t.rows.map (fun x => if key x = key r then r else x)
  nodup := by
    have hkey : (key ∘ fun x => if key x = key r then r else x) = key := by
      funext x
      by_cases h : key x = key r
      · simp [h]
      · simp [h]
    rw [map_map, hkey]
    exact t.nodup

/-- Append `r`, unless its key is taken. -/
def insert (t : Table key) (r : ρ) : Table key :=
  if h : key r ∈ t.rows.map key then t
  else
    { rows := t.rows ++ [r]
      nodup := by
        rw [map_append, map_singleton]
        exact t.nodup.append (nodup_singleton _) (by simpa using h) }

/-- The rows that meet `p`. -/
def filter (t : Table key) (p : ρ → Bool) : Table key where
  rows := t.rows.filter p
  nodup := t.nodup.sublist (filter_sublist.map key)

/-- Replacing a row leaves the keys. -/
theorem map_key_set (t : Table key) (r : ρ) : (t.set r).rows.map key = t.rows.map key := by
  unfold set
  rw [map_map]
  refine map_congr_left (fun x _ => ?_)
  by_cases h : key x = key r
  · simp [h]
  · simp [h]

variable {t : Table key} {k : κ} {r : ρ}

theorem mem_of_get? (h : t.get? k = some r) : r ∈ t.rows :=
  mem_of_find?_eq_some h

theorem key_of_get? (h : t.get? k = some r) : key r = k := by
  simpa using find?_some h

omit [DecidableEq κ] in
/-- Two rows of one key are one row. -/
theorem eq_of_key_eq (t : Table key) {r r' : ρ} (hr : r ∈ t.rows) (hr' : r' ∈ t.rows)
    (h : key r = key r') : r = r' :=
  inj_on_of_nodup_map t.nodup hr hr' h

theorem get?_eq_some_iff :
    t.get? k = some r ↔ r ∈ t.rows ∧ key r = k := by
  constructor
  · intro h
    exact ⟨mem_of_get? h, key_of_get? h⟩
  · rintro ⟨hr, hk⟩
    cases hg : t.get? k with
    | none =>
      have := find?_eq_none.mp hg r hr
      simp [hk] at this
    | some r' =>
      have hr' := t.eq_of_key_eq hr (mem_of_get? hg) (hk.trans (key_of_get? hg).symm)
      rw [hr']

theorem get?_of_mem (hr : r ∈ t.rows) : t.get? (key r) = some r :=
  get?_eq_some_iff.mpr ⟨hr, rfl⟩

theorem mem_set {r x : ρ} :
    x ∈ (t.set r).rows ↔ (x ∈ t.rows ∧ key x ≠ key r) ∨ (x = r ∧ ∃ y ∈ t.rows, key y = key r) := by
  simp only [set, mem_map]
  constructor
  · rintro ⟨y, hy, rfl⟩
    by_cases h : key y = key r
    · rw [if_pos h]
      exact .inr ⟨rfl, y, hy, h⟩
    · rw [if_neg h]
      exact .inl ⟨hy, h⟩
  · rintro (⟨hx, hne⟩ | ⟨rfl, y, hy, h⟩)
    · exact ⟨x, hx, if_neg hne⟩
    · exact ⟨y, hy, if_pos h⟩

theorem get?_set_self {r old : ρ} (h : t.get? (key r) = some old) :
    (t.set r).get? (key r) = some r :=
  get?_eq_some_iff.mpr
    ⟨mem_set.mpr (.inr ⟨rfl, old, mem_of_get? h, key_of_get? h⟩), rfl⟩

/-- Replacing a row by itself changes nothing. -/
theorem set_of_mem (h : r ∈ t.rows) : t.set r = t := by
  have hrows : t.rows.map (fun x => if key x = key r then r else x) = t.rows.map id := by
    refine map_congr_left (fun x hx => ?_)
    split
    next hkey => exact t.eq_of_key_eq h hx hkey.symm
    next => rfl
  unfold set
  simp only [hrows, map_id]

theorem get?_set_ne (h : key r ≠ k) :
    (t.set r).get? k = t.get? k := by
  have hiff : ∀ x, (t.set r).get? k = some x ↔ t.get? k = some x := by
    intro x
    rw [get?_eq_some_iff, get?_eq_some_iff, mem_set]
    constructor
    · rintro ⟨⟨hx, -⟩ | ⟨rfl, -⟩, hk⟩
      · exact ⟨hx, hk⟩
      · exact absurd hk h
    · rintro ⟨hx, hk⟩
      exact ⟨.inl ⟨hx, fun hxr => h (hxr ▸ hk)⟩, hk⟩
  exact Option.ext hiff

/-- A row stays found when one is replaced. -/
theorem isSome_get?_set :
    ((t.set r).get? k).isSome = (t.get? k).isSome := by
  by_cases h : key r = k
  · subst h
    cases hget : t.get? (key r) with
    | some old =>
      rw [get?_set_self hget]
      rfl
    | none =>
      cases hset : (t.set r).get? (key r) with
      | none => rfl
      | some x =>
        rcases mem_set.mp (mem_of_get? hset) with ⟨-, hne⟩ | ⟨-, y, hy, hkey⟩
        · exact absurd (key_of_get? hset) hne
        · rw [get?_eq_some_iff.mpr ⟨hy, hkey⟩] at hget
          cases hget
  · rw [get?_set_ne h]

/-- Change every row by `f`, which leaves the keys alone. -/
def map (t : Table key) (f : ρ → ρ) (hf : ∀ r, key (f r) = key r) : Table key where
  rows := t.rows.map f
  nodup := by
    rw [map_map, show key ∘ f = key from funext hf]
    exact t.nodup

omit [DecidableEq κ] in
theorem map_key_map (t : Table key) (f : ρ → ρ) (hf : ∀ r, key (f r) = key r) :
    (t.map f hf).rows.map key = t.rows.map key := by
  unfold map
  rw [List.map_map, show key ∘ f = key from funext hf]

omit [DecidableEq κ] in
theorem mem_map {f : ρ → ρ} {hf : ∀ r, key (f r) = key r} {x : ρ} :
    x ∈ (t.map f hf).rows ↔ ∃ r ∈ t.rows, f r = x := List.mem_map

theorem get?_map {t : Table key} {f : ρ → ρ} {hf : ∀ r, key (f r) = key r} {k : κ} :
    (t.map f hf).get? k = (t.get? k).map f := by
  unfold get? map
  rw [find?_map]
  congr 2
  funext r
  exact decide_eq_decide.mpr (by rw [hf])

theorem mem_insert {r x : ρ} (h : key r ∉ t.rows.map key) :
    x ∈ (t.insert r).rows ↔ x ∈ t.rows ∨ x = r := by
  simp only [insert, dif_neg h, mem_append, mem_singleton]

theorem mem_of_mem_insert {r x : ρ} (h : x ∈ (t.insert r).rows) :
    x ∈ t.rows ∨ x = r := by
  by_cases hr : key r ∈ t.rows.map key
  · rw [insert, dif_pos hr] at h
    exact .inl h
  · exact (mem_insert hr).mp h

/-- Appending a row leaves the keys that were there. -/
theorem mem_map_key_insert (hk : k ∈ t.rows.map key) (r : ρ) :
    k ∈ (t.insert r).rows.map key := by
  unfold insert
  split
  · exact hk
  · rw [map_append]
    exact mem_append_left _ hk

theorem get?_insert_self (h : key r ∉ t.rows.map key) :
    (t.insert r).get? (key r) = some r :=
  get?_eq_some_iff.mpr ⟨(mem_insert h).mpr (.inr rfl), rfl⟩

theorem get?_insert_ne (h : key r ∉ t.rows.map key) (hk : key r ≠ k) :
    (t.insert r).get? k = t.get? k := by
  have hiff : ∀ x, (t.insert r).get? k = some x ↔ t.get? k = some x := by
    intro x
    rw [get?_eq_some_iff, get?_eq_some_iff, mem_insert h]
    constructor
    · rintro ⟨hx | rfl, hkey⟩
      · exact ⟨hx, hkey⟩
      · exact absurd hkey hk
    · rintro ⟨hx, hkey⟩
      exact ⟨.inl hx, hkey⟩
  exact Option.ext hiff

theorem get?_eq_none_of_notMem (h : k ∉ t.rows.map key) : t.get? k = none := by
  rw [Option.eq_none_iff_forall_ne_some]
  intro r hr
  exact h (List.mem_map.mpr ⟨r, mem_of_get? hr, key_of_get? hr⟩)

theorem notMem_of_get? (h : t.get? k = none) : k ∉ t.rows.map key := by
  intro hmem
  obtain ⟨r, hr, hk⟩ := List.mem_map.mp hmem
  rw [get?_eq_some_iff.mpr ⟨hr, hk⟩] at h
  cases h

theorem rows_insert (h : key r ∉ t.rows.map key) :
    (t.insert r).rows = t.rows ++ [r] := by
  simp only [insert, dif_neg h]

/-! ### The rows under some of the keys -/

section Restrict

variable {q : κ → Bool}

/-- The rows whose key meets `q`. -/
def under (q : κ → Bool) (t : Table key) : List ρ := t.rows.filter (fun r => q (key r))

variable {t : Table key}

/-- A row is found among those its key is one of. -/
theorem get?_eq_find?_under {k : κ} (hk : q k = true) :
    t.get? k = (t.under q).find? (fun r => decide (key r = k)) := by
  unfold get? under
  rw [find?_filter]
  congr 1
  funext r
  by_cases hr : key r = k
  · simp [hr, hk]
  · simp [hr]

theorem get?_congr_under {t t' : Table key} (h : t.under q = t'.under q) {k : κ}
    (hk : q k = true) : t.get? k = t'.get? k := by
  rw [get?_eq_find?_under hk, get?_eq_find?_under hk, h]

theorem under_set {r : ρ} :
    (t.set r).under q = (t.under q).map (fun x => if key x = key r then r else x) := by
  unfold under set
  rw [filter_map]
  congr 1
  refine filter_congr (fun x _ => ?_)
  by_cases hx : key x = key r
  · simp [hx]
  · simp [hx]

/-- Replacing a row of another key is not noticed. -/
theorem under_set_of_not {r : ρ} (hr : q (key r) = false) :
    (t.set r).under q = t.under q := by
  rw [under_set]
  refine (map_congr_left fun x hx => ?_).trans (map_id _)
  have hqx : q (key x) = true := (mem_filter.mp hx).2
  have hne : key x ≠ key r := by
    intro heq
    rw [heq, hr] at hqx
    cases hqx
  rw [if_neg hne]
  rfl

theorem under_insert {r : ρ} (h : key r ∉ t.rows.map key) :
    (t.insert r).under q = t.under q ++ if q (key r) then [r] else [] := by
  unfold under
  rw [rows_insert h, filter_append]
  congr 1
  cases hr : q (key r) with
  | true | false => simp [hr]

end Restrict

end Lookup

/-! ## Sums over the rows -/

section Sum

variable {M : Type*} [AddCommMonoid M]

/-- The sum of `f` over the rows. -/
def sum (t : Table key) (f : ρ → M) : M := (t.rows.map f).sum

@[simp] theorem sum_empty (f : ρ → M) : (empty : Table key).sum f = 0 := rfl

variable {t : Table key}

theorem sum_congr {f g : ρ → M} (h : ∀ r ∈ t.rows, f r = g r) :
    t.sum f = t.sum g := by
  rw [sum, sum, map_congr_left h]

theorem sum_zero (t : Table key) : t.sum (fun _ => (0 : M)) = 0 := by
  unfold sum
  rw [map_const', sum_replicate, nsmul_zero]

theorem sum_map {g : ρ → ρ} {hg : ∀ r, key (g r) = key r} (f : ρ → M) :
    (t.map g hg).sum f = t.sum (fun r => f (g r)) := by
  rw [sum, sum, map, map_map]
  rfl

variable [DecidableEq κ]

private theorem list_sum_replace (f : ρ → M) (r : ρ) :
    ∀ {l : List ρ} {old : ρ}, (l.map key).Nodup → old ∈ l → key old = key r →
      (l.map (fun x => f (if key x = key r then r else x))).sum + f old
        = (l.map f).sum + f r := by
  intro l
  induction l with
  | nil => intro old _ hold; exact absurd hold not_mem_nil
  | cons y ys ih =>
    intro old hnd hold hkey
    rw [map_cons, nodup_cons] at hnd
    rw [map_cons, sum_cons, map_cons, sum_cons]
    rcases mem_cons.mp hold with rfl | hold
    · have hrest : ys.map (fun x => f (if key x = key r then r else x)) = ys.map f := by
        refine map_congr_left (fun x hx => ?_)
        have hne : key x ≠ key r := by
          intro hx'
          exact hnd.1 (List.mem_map.mpr ⟨x, hx, hx'.trans hkey.symm⟩)
        rw [if_neg hne]
      rw [if_pos hkey, hrest, add_comm (f r), add_right_comm, add_comm (f old)]
    · have hne : key y ≠ key r := by
        intro hy
        exact hnd.1 (List.mem_map.mpr ⟨old, hold, hkey.trans hy.symm⟩)
      rw [if_neg hne, add_assoc, ih hnd.2 hold hkey, ← add_assoc]

/-- Replacing a row moves a sum by the new row's share in place of the old one's. -/
theorem sum_set {r old : ρ} (h : t.get? (key r) = some old) (f : ρ → M) :
    (t.set r).sum f + f old = t.sum f + f r := by
  simp only [sum, set, map_map]
  exact list_sum_replace f r t.nodup (mem_of_get? h) (key_of_get? h)

/-- Appending a row adds its share. -/
theorem sum_insert {r : ρ} (h : key r ∉ t.rows.map key) (f : ρ → M) :
    (t.insert r).sum f = t.sum f + f r := by
  rw [sum, rows_insert h, map_append, sum_append, map_singleton,
    sum_singleton, sum]

omit [DecidableEq κ] in
/-- How many rows meet `p`, as a sum. -/
theorem countP_eq_sum (t : Table key) (p : ρ → Bool) :
    t.rows.countP p = t.sum (fun r => if p r then 1 else 0) := by
  unfold sum
  generalize t.rows = rows
  induction rows with
  | nil => rfl
  | cons r rows ih => rw [countP_cons, map_cons, sum_cons, ih, add_comm]

/-- Replacing a row counts the new row in place of the old one. -/
theorem countP_set {r old : ρ} (h : t.get? (key r) = some old) (p : ρ → Bool) :
    (t.set r).rows.countP p + (if p old then 1 else 0)
      = t.rows.countP p + (if p r then 1 else 0) := by
  rw [countP_eq_sum, countP_eq_sum]
  exact sum_set h _

end Sum

section Ordered

variable {M : Type*} [AddCommMonoid M] [PartialOrder M] [IsOrderedAddMonoid M]

variable {t : Table key}

theorem sum_nonneg {f : ρ → M} (h : ∀ r ∈ t.rows, 0 ≤ f r) : 0 ≤ t.sum f := by
  refine List.sum_nonneg (fun x hx => ?_)
  obtain ⟨r, hr, rfl⟩ := List.mem_map.mp hx
  exact h r hr

/-- One row's share is at most the sum, when no share is negative. -/
theorem le_sum {f : ρ → M} (h : ∀ r ∈ t.rows, 0 ≤ f r) {r : ρ} (hr : r ∈ t.rows) :
    f r ≤ t.sum f := by
  refine List.single_le_sum (fun x hx => ?_) _ (List.mem_map_of_mem hr)
  obtain ⟨y, hy, rfl⟩ := List.mem_map.mp hx
  exact h y hy

/-- A sum of shares none of which is larger is not larger. -/
theorem sum_le_sum {f g : ρ → M} (h : ∀ r ∈ t.rows, f r ≤ g r) : t.sum f ≤ t.sum g :=
  List.sum_le_sum h

end Ordered

theorem sum_add {M : Type*} [AddCommMonoid M] (t : Table key) (f g : ρ → M) :
    t.sum (fun r => f r + g r) = t.sum f + t.sum g := sum_map_add

theorem sum_sub {G : Type*} [AddCommGroup G] (t : Table key) (f g : ρ → G) :
    t.sum (fun r => f r - g r) = t.sum f - t.sum g := by
  unfold sum
  induction t.rows with
  | nil => rw [map_nil, map_nil, map_nil, sum_nil, sub_zero]
  | cons r rows ih =>
    rw [map_cons, map_cons, map_cons, sum_cons, sum_cons, sum_cons,
      ih, sub_add_sub_comm]

/-! ## Fresh keys -/

section Fresh

variable {natKey : ρ → ℕ}

def freshKey (t : Table natKey) : ℕ := t.rows.foldr (fun r n => max (natKey r + 1) n) 0

private theorem lt_foldr_max (natKey : ρ → ℕ) {l : List ρ} {r : ρ} (h : r ∈ l) :
    natKey r < l.foldr (fun r n => max (natKey r + 1) n) 0 := by
  induction l with
  | nil => exact absurd h not_mem_nil
  | cons y ys ih =>
    rw [foldr_cons]
    rcases mem_cons.mp h with rfl | h
    · exact lt_max_of_lt_left (Nat.lt_succ_self _)
    · exact lt_max_of_lt_right (ih h)

theorem lt_freshKey {t : Table natKey} {r : ρ} (h : r ∈ t.rows) : natKey r < t.freshKey :=
  lt_foldr_max natKey h

theorem freshKey_notMem (t : Table natKey) : t.freshKey ∉ t.rows.map natKey := by
  intro h
  obtain ⟨r, hr, hk⟩ := List.mem_map.mp h
  exact absurd (lt_freshKey hr) (by omega)

end Fresh

end Table
