/-
Reading a feed by watermark.

Items are stored in any order; a reader asks for what comes after everything it has been shown, gets
the lowest items first and up to some limit, and asks again. What it is shown only goes up, so it is
shown everything in the end exactly as long as nothing is missing below what it was shown already.
-/
import Mathlib.Data.List.Sort

namespace Feed

open List

variable {α : Type*} [LinearOrder α] {stored shown : List α} {limit : ℕ}

/-- What comes after everything shown, lowest first. -/
def pending (stored shown : List α) : List α :=
  (stored.filter (fun a => decide (∀ b ∈ shown, b < a))).insertionSort (· ≤ ·)

/-- What has been shown after one more page. -/
def read (stored : List α) (limit : ℕ) (shown : List α) : List α :=
  shown ++ (pending stored shown).take limit

/-- What has been shown after some more pages. -/
def reads (stored : List α) (limit : ℕ) : ℕ → List α → List α
  | 0, shown => shown
  | n + 1, shown => reads stored limit n (read stored limit shown)

/-- The item is missing below what was shown. -/
def Missed (a : α) (shown : List α) : Prop := a ∉ shown ∧ ∃ b ∈ shown, a ≤ b

theorem not_missed_iff {a : α} : ¬ Missed a shown ↔ a ∈ shown ∨ ∀ b ∈ shown, b < a := by
  unfold Missed
  push Not
  exact ⟨fun h => or_iff_not_imp_left.mpr h, fun h hout => h.resolve_left hout⟩

/-! ## One page -/

theorem mem_pending {a : α} : a ∈ pending stored shown ↔ a ∈ stored ∧ ∀ b ∈ shown, b < a := by
  unfold pending
  rw [mem_insertionSort, mem_filter, decide_eq_true_iff]

/-- A page goes up. -/
theorem pending_pairwise (hstored : stored.Nodup) : (pending stored shown).Pairwise (· < ·) := by
  have hsorted : (pending stored shown).Pairwise (· ≤ ·) := pairwise_insertionSort _ _
  have hnodup : (pending stored shown).Nodup :=
    (perm_insertionSort _ _).nodup_iff.mpr (hstored.filter _)
  exact (hsorted.and hnodup).imp fun h => lt_of_le_of_ne h.1 h.2

/-- With one more page, what was shown still goes up. -/
theorem read_pairwise (hstored : stored.Nodup) (hshown : shown.Pairwise (· < ·)) :
    (read stored limit shown).Pairwise (· < ·) := by
  refine pairwise_append.mpr ⟨hshown, (pending_pairwise hstored).take, fun b hb a ha => ?_⟩
  exact (mem_pending.mp (mem_of_mem_take ha)).2 b hb

/-- A page that leaves something out leaves out only what is above it. -/
theorem lt_of_notMem_take (hstored : stored.Nodup) {a b : α} (ha : a ∈ pending stored shown)
    (hout : a ∉ (pending stored shown).take limit) (hb : b ∈ (pending stored shown).take limit) :
    b < a := by
  have hsplit : (pending stored shown).Pairwise (· < ·) := pending_pairwise hstored
  rw [← take_append_drop limit (pending stored shown)] at hsplit ha
  have hdrop : a ∈ (pending stored shown).drop limit :=
    (mem_append.mp ha).resolve_left hout
  exact (pairwise_append.mp hsplit).2.2 b hb a hdrop

/-- A page skips nothing. -/
theorem not_missed_read (hstored : stored.Nodup) {a : α} (ha : a ∈ stored) (h : ¬ Missed a shown) :
    ¬ Missed a (read stored limit shown) := by
  rcases not_missed_iff.mp h with hmem | habove
  · exact fun hmissed => hmissed.1 (mem_append.mpr (.inl hmem))
  · -- `a` comes after all that was shown before, so it is on the page if anything above it is
    rintro ⟨hout, b, hb, hle⟩
    have hmem : a ∈ pending stored shown := mem_pending.mpr ⟨ha, habove⟩
    have hnot : a ∉ (pending stored shown).take limit := fun h =>
      hout (mem_append.mpr (.inr h))
    rcases mem_append.mp hb with hb | hb
    · exact absurd hle (not_le_of_gt (habove b hb))
    · exact absurd hle (not_le_of_gt (lt_of_notMem_take hstored hmem hnot hb))

/-! ## All pages -/

/-- What is shown by further pages comes after what was shown. -/
theorem mem_reads {a : α} (n : ℕ) (h : a ∈ reads stored limit n shown) :
    a ∈ shown ∨ ∀ b ∈ shown, b < a := by
  induction n generalizing shown with
  | zero => exact .inl h
  | succ n ih =>
    rcases ih h with hread | hread
    · rcases mem_append.mp hread with hmem | hpage
      · exact .inl hmem
      · exact .inr (mem_pending.mp (mem_of_mem_take hpage)).2
    · exact .inr fun b hb => hread b (mem_append.mpr (.inl hb))

/-- Each page that is not empty leaves less to show. -/
theorem pending_read_length (hlimit : 0 < limit) (h : pending stored shown ≠ []) :
    (pending stored (read stored limit shown)).length < (pending stored shown).length := by
  obtain ⟨a, rest, hcons⟩ := exists_cons_of_ne_nil h
  have ha : a ∈ pending stored shown := hcons ▸ mem_cons_self
  have hpage : a ∈ read stored limit shown := by
    refine mem_append.mpr (.inr ?_)
    obtain ⟨k, rfl⟩ := Nat.exists_eq_add_of_lt hlimit
    rw [hcons]
    exact mem_cons_self
  unfold pending
  rw [length_insertionSort, length_insertionSort]
  -- what is still pending was pending, and `a` no longer is
  have hfilter : stored.filter (fun c => decide (∀ b ∈ read stored limit shown, b < c))
      = (stored.filter (fun c => decide (∀ b ∈ shown, b < c))).filter
          (fun c => decide (∀ b ∈ read stored limit shown, b < c)) := by
    rw [filter_filter]
    refine filter_congr fun c _ => ?_
    rw [← Bool.decide_and]
    exact decide_eq_decide.mpr ⟨fun hc => ⟨hc, fun b hb => hc b (mem_append.mpr (.inl hb))⟩,
      And.left⟩
  rw [hfilter]
  refine length_filter_lt_length_iff_exists.mpr ⟨a, ?_, ?_⟩
  · exact (mem_insertionSort _).mp ha
  · rw [decide_eq_true_iff]
    exact fun hall => lt_irrefl a (hall a hpage)

/-- An item that is not missing below what was shown is shown after as many pages as there is left to
show. -/
theorem mem_reads_of_not_missed (hstored : stored.Nodup) (hlimit : 0 < limit) (n : ℕ) {a : α}
    (ha : a ∈ stored) (h : ¬ Missed a shown) (hn : (pending stored shown).length ≤ n) :
    a ∈ reads stored limit n shown := by
  induction n generalizing shown with
  | zero =>
    have hnone : pending stored shown = [] := eq_nil_of_length_eq_zero (Nat.le_zero.mp hn)
    refine (not_missed_iff.mp h).resolve_right fun habove => ?_
    exact not_mem_nil (hnone ▸ mem_pending.mpr ⟨ha, habove⟩)
  | succ n ih =>
    refine ih (not_missed_read hstored ha h) ?_
    by_cases hnone : pending stored shown = []
    · have hread : read stored limit shown = shown := by
        unfold read
        rw [hnone, take_nil, append_nil]
      rw [hread, hnone]
      exact Nat.zero_le _
    · exact Nat.le_of_lt_succ ((pending_read_length hlimit hnone).trans_le hn)

/-- Reading on shows everything in the end exactly if nothing is missing below what was shown. -/
theorem reads_all_iff (hstored : stored.Nodup) (hlimit : 0 < limit) :
    (∃ n, ∀ a ∈ stored, a ∈ reads stored limit n shown) ↔ ∀ a ∈ stored, ¬ Missed a shown := by
  constructor
  · rintro ⟨n, hall⟩ a ha
    exact not_missed_iff.mpr (mem_reads n (hall a ha))
  · exact fun h => ⟨_, fun a ha => mem_reads_of_not_missed hstored hlimit _ ha (h a ha) le_rfl⟩

end Feed
