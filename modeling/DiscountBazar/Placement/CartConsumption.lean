/-
What a placement takes out of the cart.

The ordered quantities are added up for each product and variant. Of the lines of a cart the first
of a product and variant gives up what it has of them, and those after it stay as they are.
-/
import DiscountBazar.Lib.Keys
import DiscountBazar.Placement.PlaceOrder

namespace DiscountBazar.Placement

open Pricing List

/-! ## Ordered and carted quantities -/

def lineKey (line : OrderItemInput) : ObjectId × String := (line.product, trim line.variantSku)

def cartedQty (lines : List OrderItemInput) (key : ObjectId × String) : ℕ :=
  sumAt lineKey OrderItemInput.quantity lines key

def orderedQty (items : List ItemInput) (key : ObjectId × String) : ℕ :=
  sumAt (fun item : ItemInput => lineKey item.toOrderItemInput) (fun item => item.quantity) items
    key

/-- The ordered quantity without the items that name their product under `id`. -/
def namedQty (items : List ItemInput) (key : ObjectId × String) : ℕ :=
  orderedQty (items.filter (fun item => !item.underId)) key

/-- What the first line of a product and variant holds. -/
def firstQty (lines : List OrderItemInput) (key : ObjectId × String) : ℕ :=
  ((lines.find? (fun line => decide (lineKey line = key))).map OrderItemInput.quantity).getD 0

/-- Nothing is ordered of the line's product and variant. -/
def unordered (items : List ItemInput) (line : OrderItemInput) : Bool :=
  decide (orderedQty items (lineKey line) = 0)

/-- The cart has lost what was ordered of it: of each product and variant the smaller of the ordered
and the carted quantity, and nothing of what was not ordered. -/
structure Consumed (items : List ItemInput) (before after : List OrderItemInput) : Prop where
  totals : ∀ key, cartedQty after key + min (orderedQty items key) (cartedQty before key)
    = cartedQty before key
  others : after.filter (unordered items) = before.filter (unordered items)

/-- The items that do not name their product under `id` are all that is ordered or cover the cart,
and so does the first line: it holds what is ordered, or all that the cart has. -/
def TakenFromFirst (items : List ItemInput) (lines : List OrderItemInput) : Prop :=
  ∀ key, min (orderedQty items key) (cartedQty lines key) ≤ namedQty items key ∧
    min (orderedQty items key) (cartedQty lines key) ≤ firstQty lines key

section Lines

variable {items : List ItemInput} {key : ObjectId × String}

theorem cartedQty_cons (line : OrderItemInput) (lines : List OrderItemInput)
    (key : ObjectId × String) : cartedQty (line :: lines) key
      = (if key = lineKey line then line.quantity else 0) + cartedQty lines key :=
  sumAt_cons lineKey OrderItemInput.quantity line lines key

theorem firstQty_cons (line : OrderItemInput) (lines : List OrderItemInput)
    (key : ObjectId × String) : firstQty (line :: lines) key
      = if key = lineKey line then line.quantity else firstQty lines key := by
  unfold firstQty
  by_cases h : lineKey line = key
  · rw [find?_cons_of_pos (by simpa using h), if_pos h.symm]
    rfl
  · rw [find?_cons_of_neg (by simpa using h), if_neg (Ne.symm h)]

theorem firstQty_le (lines : List OrderItemInput) (key : ObjectId × String) :
    firstQty lines key ≤ cartedQty lines key := by
  induction lines with
  | nil => exact le_refl 0
  | cons line lines ih =>
    rw [firstQty_cons, cartedQty_cons]
    split
    · exact Nat.le_add_right _ _
    · omega

theorem namedQty_le (items : List ItemInput) (key : ObjectId × String) :
    namedQty items key ≤ orderedQty items key := by
  unfold namedQty orderedQty
  induction items with
  | nil => exact le_refl 0
  | cons item items ih =>
    rw [filter_cons]
    split
    · rw [sumAt_cons, sumAt_cons]
      exact Nat.add_le_add_left ih _
    · rw [sumAt_cons]
      omega

theorem requestedQty_eq (items : List ItemInput) (line : OrderItemInput) :
    requestedQty items line = namedQty items (lineKey line) := by
  unfold requestedQty namedQty orderedQty sumAt
  rw [filter_filter]
  refine congrArg (fun l => (map _ l).sum) (filter_congr (fun item _ => ?_))
  rw [Bool.eq_iff_iff]
  simp [lineKey, and_comm, and_assoc]

theorem cartedQty_remainingLines (items : List ItemInput) (used : List (ObjectId × String))
    (lines : List OrderItemInput) (key : ObjectId × String) :
    cartedQty (remainingLines items used lines) key
        + (if key ∈ used then 0 else min (namedQty items key) (firstQty lines key))
      = cartedQty lines key := by
  fun_induction remainingLines items used lines with
  | case1 used =>
    have hnone : firstQty [] key = 0 := rfl
    rw [hnone, Nat.min_zero, ite_self, Nat.add_zero]
  | case2 used line lines lineKey' hkept ih =>
    rw [cartedQty_cons, cartedQty_cons, firstQty_cons, ← ih]
    rw [requestedQty_eq] at hkept
    by_cases hkey : key = lineKey line
    · subst hkey
      rcases hkept with hused | hnone
      · have hin : lineKey line ∈ used := hused
        rw [if_pos hin, if_pos hin]
        omega
      · rw [hnone, Nat.zero_min, Nat.zero_min]
        omega
    · rw [if_neg hkey, if_neg hkey]
      omega
  | case3 used line lines lineKey' htaken hpart ih =>
    rw [requestedQty_eq] at htaken hpart
    have hself : lineKey { line with quantity := line.quantity - requestedQty items line }
        = lineKey line := rfl
    rw [cartedQty_cons, cartedQty_cons, firstQty_cons, ← ih, hself]
    by_cases hkey : key = lineKey line
    · subst hkey
      have hunused : lineKey line ∉ used := fun h => htaken (.inl h)
      have hused : lineKey line ∈ lineKey' :: used := mem_cons_self
      rw [if_pos rfl, if_pos rfl, if_pos rfl, if_neg hunused, if_pos hused]
      dsimp only
      rw [requestedQty_eq]
      omega
    · have hmem : key ∈ lineKey' :: used ↔ key ∈ used := mem_cons.trans (or_iff_right hkey)
      rw [if_neg hkey, if_neg hkey, if_neg hkey, if_congr hmem rfl rfl]
      omega
  | case4 used line lines lineKey' htaken hall ih =>
    rw [requestedQty_eq] at htaken hall
    rw [cartedQty_cons, firstQty_cons, ← ih]
    by_cases hkey : key = lineKey line
    · subst hkey
      have hunused : lineKey line ∉ used := fun h => htaken (.inl h)
      have hused : lineKey line ∈ lineKey' :: used := mem_cons_self
      rw [if_pos rfl, if_pos rfl, if_neg hunused, if_pos hused]
      omega
    · have hmem : key ∈ lineKey' :: used ↔ key ∈ used := mem_cons.trans (or_iff_right hkey)
      rw [if_neg hkey, if_neg hkey, if_congr hmem rfl rfl]
      omega

theorem filter_remainingLines (items : List ItemInput) (used : List (ObjectId × String))
    (lines : List OrderItemInput) :
    (remainingLines items used lines).filter (unordered items)
      = lines.filter (unordered items) := by
  have hordered : ∀ line : OrderItemInput, requestedQty items line ≠ 0 →
      ¬ unordered items line = true := by
    intro line hline hnone
    rw [requestedQty_eq] at hline
    have hle := namedQty_le items (lineKey line)
    rw [of_decide_eq_true hnone] at hle
    exact hline (Nat.le_zero.mp hle)
  fun_induction remainingLines items used lines with
  | case1 used => rfl
  | case2 used line lines lineKey' hkept ih => rw [filter_cons, filter_cons, ih]
  | case3 used line lines lineKey' htaken hpart ih =>
    have hline := hordered line (fun h => htaken (.inr h))
    have hless : ¬ unordered items
        { line with quantity := line.quantity - requestedQty items line } = true := hline
    rw [filter_cons_of_neg hline, filter_cons_of_neg hless, ih]
  | case4 used line lines lineKey' htaken hall ih =>
    rw [filter_cons_of_neg (hordered line (fun h => htaken (.inr h))), ih]

end Lines

/-- A cart loses what is ordered directly exactly where the items name their products and the first
lines hold enough. -/
theorem cart_consumed_iff (carts : ObjectId → List OrderItemInput) (customerId : ObjectId)
    (items : List ItemInput) :
    Consumed items (carts customerId)
        (consumeCartItems carts customerId .directItems items customerId)
      ↔ TakenFromFirst items (carts customerId) := by
  have hafter : consumeCartItems carts customerId .directItems items customerId
      = remainingLines items [] (carts customerId) := Function.update_self ..
  have hleft := cartedQty_remainingLines items [] (carts customerId)
  rw [hafter]
  constructor
  · intro h key
    have htotal := h.totals key
    have hkey := hleft key
    rw [if_neg not_mem_nil] at hkey
    omega
  · intro h
    refine ⟨fun key => ?_, filter_remainingLines items [] (carts customerId)⟩
    have hkey := hleft key
    rw [if_neg not_mem_nil] at hkey
    have hcond := h key
    have hnamed := namedQty_le items key
    have hfirst := firstQty_le (carts customerId) key
    omega

/-- One piece and then two pieces of a product are in the cart. -/
def splitCart : List OrderItemInput :=
  [{ product := 1, quantity := 1 }, { product := 1, quantity := 2 }]

/-- Of two pieces that are ordered the cart loses one. -/
theorem split_cart_keeps_ordered :
    ¬ ∀ (carts : ObjectId → List OrderItemInput) (customerId : ObjectId) (items : List ItemInput),
      Consumed items (carts customerId)
        (consumeCartItems carts customerId .directItems items customerId) := by
  intro h
  have htotal := (h (fun _ => splitCart) 7 [{ product := 1, quantity := 2 }]).totals (1, "")
  exact absurd htotal (by decide)

end DiscountBazar.Placement
