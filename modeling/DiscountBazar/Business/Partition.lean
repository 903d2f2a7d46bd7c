/-
Days as spans of time (`businessTime.js`).

A day is meant to run from its local midnight to the millisecond before the next. `localToInstant`
looks the offset up twice for each of the two ends, and what it finds the second time is what it
takes; a change of the offset near midnight can make these differ.
-/
import DiscountBazar.Business.Days
import Mathlib.Data.Int.ModEq

namespace DiscountBazar.Business

/-! ## Offsets -/

def hourLength : ℤ := 3600000

/-- What `Intl` tells of a zone: its offset from UTC at each moment. In a day it changes once at
most, and by an hour at most. -/
def OneChangeADay (offset : ℤ → ℤ) : Prop :=
  ∀ t : ℤ, ∃ c o, offset t - hourLength ≤ o ∧ o ≤ offset t + hourLength ∧
    ∀ u, t ≤ u → u < t + dayLength → offset u = if u < c then offset t else o

/-- `tzOffsetMs`: the local time, which `Intl` writes in whole seconds, less the moment in whole
seconds. The latter is rounded towards 1970. -/
def tzOffsetMs (offset : ℤ → ℤ) : Zone :=
  fun t => (t + offset t) / 1000 * 1000 - (t - Int.tmod t 1000)

/-- The offset that is found for the first moment of a day. -/
def startOffset (zone : Zone) (key : ℤ) : ℤ :=
  zone (key * dayLength - zone (key * dayLength))

/-- The offset that is found for the last moment before a day. -/
def endOffset (zone : Zone) (key : ℤ) : ℤ :=
  zone (key * dayLength - 1 - zone (key * dayLength - 1))

theorem dayStart_eq (zone : Zone) (key : ℤ) :
    @Eq ℤ (dayStart zone key) (key * dayLength - startOffset zone key) := by
  unfold dayStart localToInstant startOffset
  simp only [add_zero]

theorem dayEnd_eq (zone : Zone) (key : ℤ) :
    @Eq ℤ (dayEnd zone key) ((key + 1) * dayLength - 1 - endOffset zone (key + 1)) := by
  have hlast : key * dayLength + 86399999 = (key + 1) * dayLength - 1 := by
    unfold dayLength
    omega
  unfold dayEnd localToInstant endOffset
  simp only [hlast]

/-! ## Neighbouring days -/

section Drift

variable {offset : ℤ → ℤ} (h : OneChangeADay offset)

include h

theorem offset_near {t u : ℤ} (htu : t ≤ u) (hu : u < t + dayLength) :
    offset t - hourLength ≤ offset u ∧ offset u ≤ offset t + hourLength := by
  obtain ⟨c, o, hlow, hhigh, hoffset⟩ := h t
  have hhour : 0 ≤ hourLength := by decide
  rw [hoffset u htu hu]
  split
  · omega
  · omega

theorem tzOffsetMs_near {t u : ℤ} (htu : t ≤ u) (hu : u < t + 2 * dayLength - 1) :
    tzOffsetMs offset t - 3 * hourLength < tzOffsetMs offset u ∧
      tzOffsetMs offset u < tzOffsetMs offset t + 3 * hourLength := by
  have hround : ∀ x, offset x - 2000 < tzOffsetMs offset x ∧ tzOffsetMs offset x < offset x + 2000 := by
    intro x
    have hlow := Int.lt_tmod_of_pos x (show (0 : ℤ) < 1000 by decide)
    have hhigh := Int.tmod_lt_of_pos x (show (0 : ℤ) < 1000 by decide)
    unfold tzOffsetMs
    omega
  have hday : dayLength = 86400000 := rfl
  have hhour : hourLength = 3600000 := rfl
  have hfirst := offset_near h (t := t) (u := t + (u - t) / 2) (by omega) (by omega)
  have hsecond := offset_near h (t := t + (u - t) / 2) (u := u) (by omega) (by omega)
  have ht := hround t
  have hu' := hround u
  omega

theorem startOffset_near (key : ℤ) :
    startOffset (tzOffsetMs offset) (key + 1) < startOffset (tzOffsetMs offset) key + dayLength := by
  have hday : dayLength = 86400000 := rfl
  have hhour : hourLength = 3600000 := rfl
  have hnext : (key + 1) * dayLength = key * dayLength + dayLength := add_one_mul key dayLength
  have hnaive := tzOffsetMs_near h (t := key * dayLength) (u := (key + 1) * dayLength)
    (by omega) (by omega)
  have hguess := tzOffsetMs_near h (t := key * dayLength - tzOffsetMs offset (key * dayLength))
    (u := (key + 1) * dayLength - tzOffsetMs offset ((key + 1) * dayLength)) (by omega) (by omega)
  unfold startOffset
  omega

theorem endOffset_near (key : ℤ) :
    endOffset (tzOffsetMs offset) (key + 1) < endOffset (tzOffsetMs offset) key + dayLength := by
  have hday : dayLength = 86400000 := rfl
  have hhour : hourLength = 3600000 := rfl
  have hnext : (key + 1) * dayLength = key * dayLength + dayLength := add_one_mul key dayLength
  have hnaive := tzOffsetMs_near h (t := key * dayLength - 1) (u := (key + 1) * dayLength - 1)
    (by omega) (by omega)
  have hguess := tzOffsetMs_near h
    (t := key * dayLength - 1 - tzOffsetMs offset (key * dayLength - 1))
    (u := (key + 1) * dayLength - 1 - tzOffsetMs offset ((key + 1) * dayLength - 1))
    (by omega) (by omega)
  unfold endOffset
  omega

theorem dayStart_lt (a b : ℤ) (hab : a < b) :
    dayStart (tzOffsetMs offset) a < dayStart (tzOffsetMs offset) b := by
  refine strictMono_int_of_lt_succ (α := ℤ) (f := dayStart (tzOffsetMs offset)) (fun key => ?_) hab
  have hnear := startOffset_near h key
  rw [dayStart_eq, dayStart_eq, add_mul, one_mul]
  omega

theorem dayEnd_lt (a b : ℤ) (hab : a < b) :
    dayEnd (tzOffsetMs offset) a < dayEnd (tzOffsetMs offset) b := by
  refine strictMono_int_of_lt_succ (α := ℤ) (f := dayEnd (tzOffsetMs offset)) (fun key => ?_) hab
  have hnear := endOffset_near h (key + 1)
  rw [dayEnd_eq, dayEnd_eq, add_mul (key + 1) 1, one_mul]
  omega

end Drift

/-! ## The day of a moment -/

/-- The moment lies in the span of its own day and of no other, and the next day starts where that
one ends. -/
def OnItsDayAlone (offset : ℤ → ℤ) (t : ℤ) : Prop :=
  let first : ℤ → ℤ := dayStart (tzOffsetMs offset)
  let last : ℤ → ℤ := dayEnd (tzOffsetMs offset)
  (∀ key : ℤ, first key ≤ t ∧ t ≤ last key ↔ key = dateKeyOf offset t) ∧
    last (dateKeyOf offset t) + 1 = first (dateKeyOf offset t + 1)

/-- With the offsets that are found for the midnights around it, the moment is still between them,
and the two that are found for the second midnight are one. -/
def MidnightsFound (offset : ℤ → ℤ) (t : ℤ) : Prop :=
  let zone := tzOffsetMs offset
  let key := dateKeyOf offset t
  key * dayLength ≤ t + startOffset zone key ∧ key * dayLength ≤ t + endOffset zone key ∧
    t + endOffset zone (key + 1) < (key + 1) * dayLength ∧
    startOffset zone (key + 1) = endOffset zone (key + 1)

/-- Spans that start and end at one midnight and the next, as far as the offset that is found for
each of these goes. -/
theorem span_unique_iff {first last starts ends : ℤ → ℤ} (day : ℤ)
    (hfirst : ∀ key, first key = key * day - starts key)
    (hlast : ∀ key, last key = (key + 1) * day - 1 - ends (key + 1))
    (hstarts : ∀ a b, a < b → first a < first b) (hends : ∀ a b, a < b → last a < last b)
    (t key : ℤ) :
    ((∀ other, first other ≤ t ∧ t ≤ last other ↔ other = key) ∧ last key + 1 = first (key + 1)) ↔
      key * day ≤ t + starts key ∧ key * day ≤ t + ends key ∧
        t + ends (key + 1) < (key + 1) * day ∧ starts (key + 1) = ends (key + 1) := by
  have hstart := hfirst key
  have hend := hlast key
  have hbefore := hlast (key - 1)
  have hnext := hfirst (key + 1)
  rw [sub_add_cancel] at hbefore
  constructor
  · rintro ⟨hspan, hjoin⟩
    obtain ⟨hlow, hhigh⟩ := (hspan key).mpr rfl
    have hearlier : first (key - 1) < first key := hstarts _ _ (by omega)
    have hout : ¬ (first (key - 1) ≤ t ∧ t ≤ last (key - 1)) := fun hin => by
      have hsame := (hspan (key - 1)).mp hin
      omega
    exact ⟨by omega, by omega, by omega, by omega⟩
  · rintro ⟨hlow, hprev, hhigh, hsame⟩
    refine ⟨fun other => ⟨?_, ?_⟩, by omega⟩
    · rintro ⟨hafter, huntil⟩
      by_contra hne
      rcases lt_or_gt_of_ne hne with hlt | hgt
      · have hmono : StrictMono last := fun a b => hends a b
        have hle : last other ≤ last (key - 1) := hmono.monotone (by omega)
        omega
      · have hmono : StrictMono first := fun a b => hstarts a b
        have hle : first (key + 1) ≤ first other := hmono.monotone (by omega)
        omega
    · rintro rfl
      exact ⟨by omega, by omega⟩

theorem defaultZone_oneChangeADay : OneChangeADay defaultZone :=
  fun _ => ⟨0, 19800000, (by decide : (19800000 : ℤ) - hourLength ≤ 19800000),
    (by decide : (19800000 : ℤ) ≤ 19800000 + hourLength), fun _ _ _ => (ite_self _).symm⟩

/-- Havana in the spring of 2026: the clocks go from midnight of 8 March to one o'clock. -/
def havana : ℤ → ℤ := fun t => if t < 1772946000000 then -18000000 else -14400000

theorem havana_oneChangeADay : OneChangeADay havana := by
  intro t
  unfold havana
  refine ⟨1772946000000, -14400000, ?_, ?_, fun u htu _ => ?_⟩
  · unfold hourLength
    split
    · omega
    · omega
  · unfold hourLength
    split
    · omega
    · omega
  · split
    · split
      · rfl
      · omega
    · rfl

end DiscountBazar.Business
