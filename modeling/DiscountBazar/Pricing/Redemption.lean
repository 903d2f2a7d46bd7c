/-
What redeeming wallet money does to a bill.

The wallet's amount is divided by the sellers' totals as the tip is, but each share is held
between 0 and its total, and what is left of each total is rounded up to whole rupees once
more. The bill is kept where no share has to be held and the paise of the shares cost nothing
in the rounding.
-/
import DiscountBazar.Pricing.Splits

namespace DiscountBazar.Pricing

open Shares Breakdown List

/-! ## Rounding up what is left -/

theorem mathCeil_eq_add (a : ℤ) : mathCeil a = a + -a % 100 := by
  unfold mathCeil
  omega

/-- A total that lacks some paise to a whole rupee lacks, after a share is taken, the share's
paise as well; where they make a rupee, one is given back. -/
theorem mathCeil_sub_add (total share : ℤ) :
    mathCeil (total - share) + share
      = mathCeil total + share % 100 - (if 100 ≤ -total % 100 + share % 100 then 100 else 0) := by
  rw [mathCeil_eq_add, mathCeil_eq_add]
  split <;> omega

/-- A share's paise and what its total lacks to a whole rupee make a rupee. -/
def Carries (p : ℤ × ℤ) : Bool := decide (100 ≤ -p.1 % 100 + p.2 % 100)

/-- The paise of the shares are whole rupees, one for each share that carries. -/
def PaiseCarried (totals shares : List ℤ) : Prop :=
  (shares.map (· % 100)).sum = 100 * ((totals.zip shares).countP Carries : ℤ)

instance (totals shares : List ℤ) : Decidable (PaiseCarried totals shares) :=
  inferInstanceAs (Decidable (_ = _))

theorem sum_mathCeil_sub {totals shares : List ℤ} (h : shares.length = totals.length) :
    (zipWith (fun total share => mathCeil (total - share)) totals shares).sum + shares.sum
      = (totals.map mathCeil).sum + (shares.map (· % 100)).sum
        - 100 * ((totals.zip shares).countP Carries : ℤ) := by
  induction totals generalizing shares with
  | nil =>
    rw [eq_nil_of_length_eq_zero h]
    rfl
  | cons total totals ih =>
    obtain ⟨share, shares, rfl⟩ := exists_cons_of_length_eq_add_one h
    have hrest := ih (Nat.succ.inj h)
    have hhead := mathCeil_sub_add total share
    simp only [zipWith_cons_cons, sum_cons, map_cons, zip_cons_cons,
      countP_cons, Carries, decide_eq_true_eq] at hrest ⊢
    split_ifs at hhead ⊢ <;> push_cast <;> linarith

theorem bill_kept_iff {totals shares : List ℤ} (h : shares.length = totals.length) :
    (zipWith (fun total share => mathCeil (total - share)) totals shares).sum + shares.sum
        = (totals.map mathCeil).sum
      ↔ PaiseCarried totals shares := by
  rw [sum_mathCeil_sub h]
  unfold PaiseCarried
  constructor <;> intro hsum <;> linarith

/-! ## The shares of the wallet -/

section Allocation

variable {wallet : ℤ} {totals : List ℤ}

/-- The exact shares rounded to the paisa, the last of them what the others leave. -/
def paisaShares (wallet : ℤ) (totals : List ℤ) : List ℤ :=
  withRest wallet (totals.map (fun t => ⌊paiseShare wallet totals t + 1 / 2⌋))

def RestWithin (wallet : ℤ) (totals : List ℤ) : Prop :=
  paiseShare wallet totals (totals.getLastD 0)
    - ((totals.dropLast.map (paiseShare wallet totals)).map roundGain).sum ≤ totals.getLastD 0

instance (wallet : ℤ) (totals : List ℤ) : Decidable (RestWithin wallet totals) :=
  inferInstanceAs (Decidable (_ ≤ _))

theorem walletShares_eq (wallet base so : ℤ) (ts : List ℤ) :
    walletShares wallet base so ts
      = zipWith (fun a t => max 0 (min a t))
          (withRest (wallet - so) (ts.map (fun t => shareOf wallet t base))) ts := by
  fun_induction walletShares wallet base so ts with
  | case1 so => rfl
  | case2 so total => rfl
  | case3 so total rest hrest ih =>
    obtain ⟨next, rest, rfl⟩ := exists_cons_of_ne_nil hrest
    rw [ih, ← sub_sub]
    rfl

theorem walletShares_within (wallet base so : ℤ) {ts : List ℤ} (h : ∀ t ∈ ts, 0 ≤ t) :
    Forall₂ (fun share total => 0 ≤ share ∧ share ≤ total) (walletShares wallet base so ts) ts := by
  fun_induction walletShares wallet base so ts with
  | case1 so => exact Forall₂.nil
  | case2 so total =>
    have htotal := forall_mem_singleton.mp h
    exact Forall₂.cons ⟨le_max_left .., max_le htotal (min_le_right ..)⟩ Forall₂.nil
  | case3 so total rest hrest ih =>
    obtain ⟨htotal, htotals⟩ := forall_mem_cons.mp h
    exact Forall₂.cons ⟨le_max_left .., max_le htotal (min_le_right ..)⟩ (ih htotals)

theorem paiseShare_le (hwallet : wallet ≤ totals.sum) (hpos : 0 < totals.sum) {total : ℤ}
    (htotal : 0 ≤ total) : paiseShare wallet totals total ≤ total := by
  have hwallet' : (wallet : ℚ) ≤ totals.sum := by exact_mod_cast hwallet
  have hpos' : (0 : ℚ) < totals.sum := by exact_mod_cast hpos
  have htotal' : (0 : ℚ) ≤ total := by exact_mod_cast htotal
  rw [paiseShare_eq, div_le_iff₀ hpos', mul_comm]
  exact mul_le_mul_of_nonneg_left hwallet' htotal'

theorem walletShares_concat {init : List ℤ} {last : ℤ} (hwallet : 0 < wallet)
    (hle : wallet ≤ (init ++ [last]).sum) (htotals : ∀ t ∈ init ++ [last], 0 ≤ t) :
    walletShares wallet (init ++ [last]).sum 0 (init ++ [last])
      = init.map (fun t => ⌊paiseShare wallet (init ++ [last]) t + 1 / 2⌋)
        ++ [max 0 (min (wallet - (init.map
            (fun t => ⌊paiseShare wallet (init ++ [last]) t + 1 / 2⌋)).sum) last)] := by
  have hshares : ∀ part : List ℤ, (∀ t ∈ part, t ∈ init ++ [last]) →
      zipWith (fun a t => max 0 (min a t))
          (part.map (fun t => ⌊paiseShare wallet (init ++ [last]) t + 1 / 2⌋)) part
        = part.map (fun t => ⌊paiseShare wallet (init ++ [last]) t + 1 / 2⌋) := by
    intro part hpart
    induction part with
    | nil => rfl
    | cons t part ih =>
      obtain ⟨ht, hrest⟩ := forall_mem_cons.mp hpart
      have hpos := paiseShare_nonneg hwallet.le htotals (htotals t ht)
      have hwithin : ⌊paiseShare wallet (init ++ [last]) t + 1 / 2⌋ ≤ t :=
        mathRound_le (paiseShare_le hle (hwallet.trans_le hle) (htotals t ht))
      have hnonneg : 0 ≤ ⌊paiseShare wallet (init ++ [last]) t + 1 / 2⌋ :=
        Int.floor_nonneg.mpr (by linarith)
      rw [map_cons, zipWith_cons_cons, ih hrest, min_eq_left hwithin,
        max_eq_right hnonneg]
  have hround := shareOf_map hwallet.le htotals (fun t (ht : t ∈ init) => mem_append_left [last] ht)
  rw [map_map] at hround
  rw [walletShares_eq, sub_zero, map_append, map_singleton, withRest_concat, hround,
    zipWith_append (by rw [length_map])]
  exact congrArg₂ _ (hshares init (fun t ht => mem_append_left _ ht)) rfl

/-- Redeeming keeps the bill: each share is within its total, the shares make what can be
redeemed, and together with what is left they make the rounded totals. -/
structure BillKept (totals shares : List ℤ) (redeemed : ℤ) : Prop where
  within : Forall₂ (fun share total => 0 ≤ share ∧ share ≤ total) shares totals
  whole : shares.sum = redeemed
  kept : (zipWith (fun total share => mathCeil (total - share)) totals shares).sum + shares.sum
    = (totals.map mathCeil).sum

structure SharesFit (wallet : ℤ) (totals : List ℤ) : Prop where
  fits : RestFits wallet totals
  within : RestWithin wallet totals
  carried : PaiseCarried totals (paisaShares wallet totals)

theorem paisaShares_concat (wallet : ℤ) (init : List ℤ) (last : ℤ) :
    paisaShares wallet (init ++ [last])
      = init.map (fun t => ⌊paiseShare wallet (init ++ [last]) t + 1 / 2⌋)
        ++ [wallet - (init.map (fun t => ⌊paiseShare wallet (init ++ [last]) t + 1 / 2⌋)).sum] := by
  unfold paisaShares
  rw [map_append, map_singleton, withRest_concat]

theorem rest_held_iff {init : List ℤ} {last : ℤ} (hbase : (init ++ [last]).sum ≠ 0) :
    (0 ≤ wallet - (init.map (fun t => ⌊paiseShare wallet (init ++ [last]) t + 1 / 2⌋)).sum ∧
        wallet - (init.map (fun t => ⌊paiseShare wallet (init ++ [last]) t + 1 / 2⌋)).sum ≤ last)
      ↔ RestFits wallet (init ++ [last]) ∧ RestWithin wallet (init ++ [last]) := by
  have hrest : ((wallet - (init.map (fun t => ⌊paiseShare wallet (init ++ [last]) t + 1 / 2⌋)).sum
        : ℤ) : ℚ)
      = paiseShare wallet (init ++ [last]) last
        - ((init.map (paiseShare wallet (init ++ [last]))).map roundGain).sum := by
    have h := @rest_of_totals wallet init last hbase
    rw [map_map] at h
    exact h
  unfold RestFits RestWithin
  rw [dropLast_concat, getLastD_concat]
  refine and_congr ?_ ?_
  · rw [← @Int.cast_nonneg_iff ℚ, hrest, sub_nonneg]
  · rw [← @Int.cast_le ℚ, hrest]

theorem walletShares_kept_iff (hwallet : 0 < wallet) (hle : wallet ≤ totals.sum)
    (htotals : ∀ t ∈ totals, 0 ≤ t) :
    BillKept totals (walletShares wallet totals.sum 0 totals) wallet ↔ SharesFit wallet totals := by
  have hne : totals ≠ [] := by
    rintro rfl
    rw [sum_nil] at hle
    omega
  obtain ⟨init, last, rfl⟩ : ∃ init last, totals = init ++ [last] :=
    ⟨_, _, (dropLast_append_getLast hne).symm⟩
  have hbase : (init ++ [last]).sum ≠ 0 := by omega
  have hlast : 0 ≤ last := htotals last (mem_append_right _ (mem_singleton_self last))
  have hcode := walletShares_concat hwallet hle htotals
  have hpaisa := paisaShares_concat wallet init last
  have hheld := @rest_held_iff wallet init last hbase
  have hlength : (walletShares wallet (init ++ [last]).sum 0 (init ++ [last])).length
      = (init ++ [last]).length := walletShares_length _ _ _ _
  constructor
  · intro h
    have hsum := h.whole
    rw [hcode, sum_append, sum_singleton] at hsum
    have hwithin := hheld.mp (by omega)
    refine ⟨hwithin.1, hwithin.2, ?_⟩
    have hsame : walletShares wallet (init ++ [last]).sum 0 (init ++ [last])
        = paisaShares wallet (init ++ [last]) := by
      have := hheld.mpr hwithin
      rw [hcode, hpaisa, min_eq_left this.2, max_eq_right this.1]
    rw [← hsame]
    exact (bill_kept_iff hlength).mp h.kept
  · intro h
    have hrest := hheld.mpr ⟨h.fits, h.within⟩
    have hsame : walletShares wallet (init ++ [last]).sum 0 (init ++ [last])
        = paisaShares wallet (init ++ [last]) := by
      rw [hcode, hpaisa, min_eq_left hrest.2, max_eq_right hrest.1]
    refine ⟨?_, ?_, (bill_kept_iff hlength).mpr (by rw [hsame]; exact h.carried)⟩
    · exact walletShares_within _ _ _ htotals
    · rw [hsame, hpaisa, sum_append, sum_singleton]
      omega

/-- What can be redeemed is nothing, or is redeemed in shares that fit. -/
def Redeemable (flags : Flags) (wallet : ℤ) (totals : List ℤ) : Prop :=
  (∀ t ∈ totals, 0 ≤ t) ∧
    (min wallet totals.sum = 0 ∨
      (flags.walletRedemptionReducesPayable = true ∧ 0 < min wallet totals.sum ∧
        SharesFit (min wallet totals.sum) totals))

theorem BillKept.totals_nonneg {shares : List ℤ} {redeemed : ℤ}
    (h : BillKept totals shares redeemed) : ∀ t ∈ totals, 0 ≤ t := by
  have hwithin := h.within
  clear h
  induction hwithin with
  | nil => exact fun t ht => absurd ht not_mem_nil
  | cons hhead _ ih => exact forall_mem_cons.mpr ⟨hhead.1.trans hhead.2, ih⟩

theorem nothing_kept_iff {redeemed : ℤ} :
    BillKept totals (totals.map (fun _ => 0)) redeemed ↔ (∀ t ∈ totals, 0 ≤ t) ∧ redeemed = 0 := by
  have hsum : (totals.map (fun _ => (0 : ℤ))).sum = 0 := by
    rw [map_const', sum_replicate, nsmul_zero]
  constructor
  · exact fun h => ⟨h.totals_nonneg, h.whole.symm.trans hsum⟩
  · rintro ⟨htotals, rfl⟩
    refine ⟨?_, hsum, ?_⟩
    · rw [forall₂_map_left_iff]
      exact forall₂_same.mpr (fun t ht => ⟨le_refl 0, htotals t ht⟩)
    · rw [hsum, add_zero, zipWith_map_right, zipWith_self]
      simp only [sub_zero]

theorem allocation_kept_iff (flags : Flags) (wallet : ℤ) (totals : List ℤ) :
    BillKept totals (allocation flags wallet totals) (min wallet totals.sum)
      ↔ Redeemable flags wallet totals := by
  unfold allocation Redeemable
  split
  next hnone =>
    rw [nothing_kept_iff]
    refine and_congr_right (fun htotals => ?_)
    have hsum := sum_nonneg htotals
    have hnot : ¬(flags.walletRedemptionReducesPayable = true ∧ 0 < min wallet totals.sum ∧
        SharesFit (min wallet totals.sum) totals) := by
      rintro ⟨hflag, hpos, -⟩
      rcases hnone with hoff | hwallet | hmin
      · rw [hflag] at hoff
        cases hoff
      · exact absurd (hpos.trans_le (min_le_left ..)) (not_lt.mpr hwallet)
      · exact absurd hpos (not_lt.mpr hmin)
    rw [or_iff_left hnot]
  next hsome =>
    rw [not_or, not_or, not_le, not_le, Bool.not_eq_false] at hsome
    obtain ⟨hflag, -, hpos⟩ := hsome
    constructor
    · intro h
      exact ⟨h.totals_nonneg, .inr ⟨hflag, hpos,
        (walletShares_kept_iff hpos (min_le_right ..) h.totals_nonneg).mp h⟩⟩
    · rintro ⟨htotals, hzero | ⟨-, -, hfit⟩⟩
      · exact absurd hzero hpos.ne'
      · exact (walletShares_kept_iff hpos (min_le_right ..) htotals).mpr hfit

end Allocation

/-! ## The pass -/

section Pass

variable (flags : Flags) (amount : ℚ) (entries : List SellerEntry)

/-- What redeeming has taken of the orders keeps what the customer pays in all. -/
structure Redeemed (before after : List SellerEntry) (wallet : ℤ) : Prop where
  within : Forall₂ (fun share total => 0 ≤ share ∧ share ≤ total)
    (growth walletAmount before after) (totals before)
  whole : (growth walletAmount before after).sum = min wallet (totals before).sum
  kept : (totals after).sum + (growth walletAmount before after).sum
    = ((totals before).map mathCeil).sum

theorem growth_walletAmount :
    growth walletAmount entries (roundUpAll (applyWalletAllocation flags entries amount))
      = allocation flags (round2 amount) (totals entries) := by
  have hround : ∀ after, growth walletAmount entries (roundUpAll after)
      = growth walletAmount entries after := by
    intro after
    unfold growth roundUpAll
    rw [zipWith_map_right]
    rfl
  rw [hround]
  rcases applyWalletAllocation_cases flags amount entries with ⟨hpass, hnone⟩ | ⟨wallet, base, hpass, hshares⟩
  · rw [hpass, hnone, growth, zipWith_self, totals, map_map]
    exact map_congr_left (fun e _ => sub_self _)
  · have hlength := walletShares_length wallet base 0 (totals entries)
    rw [show (totals entries).length = entries.length from length_map ..] at hlength
    rw [hpass, hshares, allocateWallet_eq]
    exact @growth_zipWith walletAmount redeem (fun _ _ => rfl) entries _ hlength

theorem totals_roundUpAll :
    totals (roundUpAll (applyWalletAllocation flags entries amount))
      = zipWith (fun total share => mathCeil (total - share)) (totals entries)
          (allocation flags (round2 amount) (totals entries)) := by
  have hround : ∀ after, totals (roundUpAll after) = (totals after).map mathCeil := by
    intro after
    unfold totals roundUpAll
    rw [map_map, map_map]
    rfl
  rw [hround, applyWalletAllocation_totals, map_zipWith]

end Pass

/-- A wallet of 90 rupees keeps the bill of two orders of 100 and 200 rupees. -/
example : Redeemable {} 9000 [10000, 20000] := by
  refine ⟨by decide, .inr ⟨rfl, by decide, ⟨?_, ?_, ?_⟩⟩⟩ <;> decide +kernel

end DiscountBazar.Pricing
