/-
The figures of a product are what its active ratings add up to, once all submissions and moderations
have ended.

What a call has changed of the ratings and not yet of the figures it owes them; the figures and what is
owed to them are at every moment what a rebuild would give. So the claim comes down to what each
write is worth at the moment it is made.
-/
import DiscountBazar.Ratings.ProductRatings
import Mathlib.Algebra.Group.Pi.Lemmas

namespace DiscountBazar.Ratings

open Tasks Function Runs Table
open Contract (Sound)
open Delta Debts

/-! ## Totals -/

def weight (productId : ObjectId) (rating : ProductRating) : Totals :=
  if isActiveOf productId rating then (totals ⟨rating.stars, 1⟩) else 0

def activeTotals (productId : ObjectId) (ratings : ProductRatings) : Totals :=
  ratings.sum (weight productId)

theorem foldl_countRating (rows : List ProductRating) (figures : ℤ × (Stars → ℤ)) :
    ((rows.length : ℤ), rows.foldl countRating figures)
      = (0, figures) + (rows.map (fun rating => totals ⟨rating.stars, 1⟩)).sum := by
  induction rows generalizing figures with
  | nil => simp
  | cons rating rows ih =>
    have hcount : (0, countRating figures rating) + (1, 0)
        = (0, figures) + totals ⟨rating.stars, 1⟩ := by
      refine Prod.ext (by simp [totals]) (Prod.ext (by simp [totals, countRating]) ?_)
      funext stars
      by_cases h : stars = rating.stars
      · subst h
        simp [totals, countRating]
      · simp [totals, countRating, h]
    have hlength : (((rating :: rows).length : ℤ), (rating :: rows).foldl countRating figures)
        = ((rows.length : ℤ), rows.foldl countRating (countRating figures rating)) + (1, 0) := by
      simp [List.foldl_cons]
    rw [hlength, ih, List.map_cons, List.sum_cons, ← add_assoc, ← hcount]
    abel

theorem rebuild_totals (productId : ObjectId) (ratings : ProductRatings) :
    (rebuildProductRatingAggregate productId ratings).totals = activeTotals productId ratings := by
  have hfold := foldl_countRating (ratings.rows.filter (isActiveOf productId)) (0, fun _ => 0)
  have hzero : ((0, (0, fun _ => 0)) : Totals) = 0 := rfl
  rw [hzero, zero_add] at hfold
  have hsum : ((ratings.rows.filter (isActiveOf productId)).map
      (fun rating => totals ⟨rating.stars, 1⟩)).sum = activeTotals productId ratings := by
    unfold activeTotals sum weight
    induction ratings.rows with
    | nil => rfl
    | cons rating rows ih =>
      by_cases h : isActiveOf productId rating = true
      · rw [List.filter_cons_of_pos h, List.map_cons, List.map_cons, List.sum_cons, List.sum_cons,
          if_pos h, ih]
      · rw [List.filter_cons_of_neg h, List.map_cons, List.sum_cons, if_neg h, zero_add, ih]
  exact hfold.trans hsum

structure Nonneg (totals : Totals) : Prop where
  count : 0 ≤ totals.1
  sum : 0 ≤ totals.2.1
  distribution : ∀ stars, 0 ≤ totals.2.2 stars

instance (totals : Totals) : Decidable (Nonneg totals) :=
  decidable_of_iff (0 ≤ totals.1 ∧ 0 ≤ totals.2.1 ∧ ∀ stars, 0 ≤ totals.2.2 stars)
    ⟨fun h => ⟨h.1, h.2.1, h.2.2⟩, fun h => ⟨h.count, h.sum, h.distribution⟩⟩

theorem Nonneg.add {a b : Totals} (ha : Nonneg a) (hb : Nonneg b) : Nonneg (a + b) :=
  ⟨add_nonneg ha.count hb.count, add_nonneg ha.sum hb.sum,
    fun stars => add_nonneg (ha.distribution stars) (hb.distribution stars)⟩

theorem nonneg_zero : Nonneg 0 := ⟨le_refl 0, le_refl 0, fun _ => le_refl 0⟩

theorem nonneg_one (stars : Stars) : Nonneg (totals ⟨stars, 1⟩) := by
  refine ⟨by simp [totals], by simp [totals, Stars.rating]; omega, fun other => ?_⟩
  by_cases h : other = stars
  · subst h
    simp [totals]
  · simp [totals, h]

theorem nonneg_activeTotals (productId : ObjectId) (ratings : ProductRatings) :
    Nonneg (activeTotals productId ratings) := by
  unfold activeTotals sum
  induction ratings.rows with
  | nil => exact nonneg_zero
  | cons rating rows ih =>
    rw [List.map_cons, List.sum_cons]
    refine Nonneg.add ?_ ih
    unfold weight
    split
    · exact nonneg_one rating.stars
    · exact nonneg_zero

variable {delta : Delta}

theorem updatedAggregate_totals {aggregate : Aggregate}
    (h : Nonneg (aggregate.totals + delta.totals)) :
    (updatedAggregate aggregate delta).totals = aggregate.totals + delta.totals := by
  have hcount := h.count
  have hsum := h.sum
  refine Prod.ext (max_eq_right hcount) (Prod.ext (max_eq_right hsum) ?_)
  funext stars
  have hstars := h.distribution stars
  by_cases hsame : stars = delta.stars
  · simp only [Aggregate.totals, totals, updatedAggregate, Prod.snd_add, Pi.add_apply, hsame,
      Pi.single_eq_same, if_true] at hstars ⊢
    exact max_eq_right hstars
  · simp [Aggregate.totals, totals, updatedAggregate, hsame]

/-- The average goes with the other figures. -/
def Averaged (aggregate : Aggregate) : Prop :=
  aggregate.ratingAverage = averageOf aggregate.ratingSum aggregate.ratingCount

theorem Averaged.eq_of_totals {a b : Aggregate} (ha : Averaged a) (hb : Averaged b)
    (h : a.totals = b.totals) : a = b := by
  obtain ⟨aSum, aCount, aAverage, aDistribution⟩ := a
  obtain ⟨bSum, bCount, bAverage, bDistribution⟩ := b
  unfold Aggregate.totals at h
  unfold Averaged at ha hb
  dsimp only at h ha hb
  obtain ⟨hcount, hrest⟩ := Prod.mk.inj h
  obtain ⟨hsum, hdistribution⟩ := Prod.mk.inj hrest
  rw [hsum, hcount] at ha
  rw [hsum, hcount, hdistribution, ha.trans hb.symm]

/-! ## What a change of a rating is worth -/

theorem weight_eq (productId : ObjectId) (rating : ProductRating) :
    weight productId rating
      = if rating.status = .active then worth rating.productId ⟨rating.stars, 1⟩ productId else 0 := by
  unfold weight isActiveOf worth
  by_cases hproduct : rating.productId = productId
  · subst hproduct
    simp
  · simp [hproduct]

theorem activeTotals_added (ratings : ProductRatings) (rating : NewRating) (productId : ObjectId) :
    activeTotals productId (added ratings rating)
      = activeTotals productId ratings + worth rating.productId ⟨rating.stars, 1⟩ productId := by
  have hsum := sum_insert (r := rating.document ratings.freshKey) (freshKey_notMem ratings)
    (weight productId)
  have hactive : (rating.document ratings.freshKey).status = .active := rfl
  rw [weight_eq, if_pos hactive] at hsum
  exact hsum

/-- What `updateRatingStatus` moves, for each product. -/
def moderationWorth (loaded : ProductRating) (status : RatingStatus) : ObjectId → Totals :=
  match moderationDelta loaded status with
  | some delta => worth loaded.productId delta
  | none => 0

variable {loaded : ProductRating}

theorem moderationWorth_of_some {status : RatingStatus}
    (h : moderationDelta loaded status = some delta) :
    moderationWorth loaded status = worth loaded.productId delta := by
  unfold moderationWorth
  rw [h]

theorem moderationWorth_of_none {status : RatingStatus} (h : moderationDelta loaded status = none) :
    moderationWorth loaded status = 0 := by
  unfold moderationWorth
  rw [h]

theorem worth_neg (productId : ObjectId) (stars : Stars) :
    worth productId ⟨stars, -1⟩ = -worth productId ⟨stars, 1⟩ := by
  have htotals : totals ⟨stars, -1⟩ = -totals ⟨stars, 1⟩ := by
    refine Prod.ext (by simp [totals]) (Prod.ext (by simp [totals]) ?_)
    exact Pi.single_neg (f := fun _ : Stars => ℤ) stars 1
  unfold worth
  rw [htotals, Pi.single_neg]

/-- The rating that was read is there, of the same product and with as many stars. -/
def Known (loaded : ProductRating) (ratings : ProductRatings) : Prop :=
  ∃ current, ratings.get? loaded.id = some current ∧ current.productId = loaded.productId ∧
    current.stars = loaded.stars

def CountsAsRead (loaded : ProductRating) (ratings : ProductRatings) : Prop :=
  match ratings.get? loaded.id with
  | some current => current.status = .active ↔ loaded.status = .active
  | none => True

instance (loaded : ProductRating) (ratings : ProductRatings) :
    Decidable (CountsAsRead loaded ratings) := by
  unfold CountsAsRead
  split
  · infer_instance
  · infer_instance

variable {ratings : ProductRatings}

theorem activeTotals_withStatus (hknown : Known loaded ratings)
    (hread : CountsAsRead loaded ratings) (status : RatingStatus) (productId : ObjectId) :
    activeTotals productId (withStatus ratings loaded status)
      = activeTotals productId ratings + moderationWorth loaded status productId := by
  obtain ⟨current, hget, hproduct, hstars⟩ := hknown
  unfold CountsAsRead at hread
  rw [hget] at hread
  have hkey : ratings.get? ({ current with status } : ProductRating).id = some current :=
    (congrArg ratings.get? (key_of_get? hget)).trans hget
  have hset : withStatus ratings loaded status = ratings.set { current with status } := by
    unfold withStatus
    rw [hget]
  have hold : weight productId current
      = if loaded.status = .active then worth loaded.productId ⟨loaded.stars, 1⟩ productId else 0 := by
    rw [weight_eq, hproduct, hstars]
    exact if_congr hread rfl rfl
  have hnew : weight productId { current with status }
      = if status = .active then worth loaded.productId ⟨loaded.stars, 1⟩ productId else 0 := by
    rw [weight_eq]
    dsimp only
    rw [hproduct, hstars]
  have hsum := sum_set hkey (weight productId)
  rw [hold, hnew] at hsum
  unfold activeTotals moderationWorth moderationDelta
  rw [hset]
  by_cases hloaded : loaded.status = .active
  · rw [if_pos hloaded] at hsum
    by_cases hstatus : status = .active
    · rw [if_pos hstatus] at hsum
      rw [if_neg (by simp [hstatus]), if_neg (by simp [hloaded])]
      exact (add_right_cancel hsum).trans (add_zero _).symm
    · rw [if_neg hstatus, add_zero] at hsum
      rw [if_pos ⟨hloaded, hstatus⟩]
      dsimp only
      rw [worth_neg, Pi.neg_apply, ← sub_eq_add_neg]
      exact eq_sub_of_add_eq hsum
  · rw [if_neg hloaded, add_zero] at hsum
    by_cases hstatus : status = .active
    · rw [if_pos hstatus] at hsum
      rw [if_neg (by simp [hloaded]), if_pos ⟨hloaded, hstatus⟩]
      exact hsum
    · rw [if_neg hstatus] at hsum
      rw [if_neg (by simp [hloaded]), if_neg (by simp [hstatus])]
      exact hsum

/-! ## The invariant -/

/-- The figures of a product, with what is owed to them, are what its active ratings add up to. -/
structure Accounted (aggregate : Aggregate) (owed active : Totals) : Prop where
  totals : aggregate.totals + owed = active
  averaged : Averaged aggregate
  nonneg : Nonneg aggregate.totals

def Inv (shop : Shop) : Prop :=
  ∀ productId aggregate, shop.products productId = some aggregate →
    Accounted aggregate (shop.debts.owed productId) (activeTotals productId shop.ratings)

variable {shop : Shop} {productId : ObjectId}

theorem inv_moved (h : Inv shop)
    (hactive : ∀ other, activeTotals other ratings
      = activeTotals other shop.ratings + worth productId delta other)
    (hclamp : ∀ aggregate, shop.products productId = some aggregate →
      Nonneg (aggregate.totals + delta.totals)) :
    Inv { shop with ratings, products := moved shop.products productId delta } := by
  intro other aggregate hother
  dsimp only at hother ⊢
  rw [hactive]
  unfold moved at hother
  cases hproduct : shop.products productId with
  | none =>
    rw [hproduct] at hother
    dsimp only at hother
    have hne : other ≠ productId := by
      intro hsame
      rw [hsame, hproduct] at hother
      cases hother
    rw [worth, Pi.single_eq_of_ne hne, add_zero]
    exact h other aggregate hother
  | some old =>
    rw [hproduct] at hother
    by_cases hsame : other = productId
    · subst hsame
      dsimp only at hother
      rw [update_self] at hother
      cases hother
      obtain ⟨htotals, -, -⟩ := h other old hproduct
      have hmoved := updatedAggregate_totals (hclamp old hproduct)
      refine ⟨?_, rfl, hmoved ▸ hclamp old hproduct⟩
      rw [hmoved, ← htotals, worth, Pi.single_eq_same]
      abel
    · dsimp only at hother
      rw [update_of_ne hsame] at hother
      rw [worth, Pi.single_eq_of_ne hsame, add_zero]
      exact h other aggregate hother

/-- Owing what a change of the ratings is worth accounts for it. -/
theorem inv_owe (h : Inv shop) (task : ℕ) {amount : ObjectId → Totals}
    (hactive : ∀ other, activeTotals other ratings
      = activeTotals other shop.ratings + amount other) :
    Inv { shop with ratings, debts := shop.debts.owe task amount } := by
  intro other aggregate hother
  obtain ⟨htotals, haveraged, hnonneg⟩ := h other aggregate hother
  refine ⟨?_, haveraged, hnonneg⟩
  dsimp only
  rw [hactive, owed_owe, Pi.add_apply, ← add_assoc, htotals]

/-- A write of figures that were read as they are pays what the call owes them. -/
theorem inv_write (h : Inv shop) (task : ℕ) {read : Aggregate}
    (hread : ∀ current, shop.products productId = some current → current = read)
    (hclamp : ∀ current, shop.products productId = some current →
      Nonneg (read.totals + delta.totals)) :
    Inv { shop with
      products :=
        match shop.products productId with
        | some _ => update shop.products productId (some (updatedAggregate read delta))
        | none => shop.products
      debts := shop.debts.owe task (-worth productId delta) } := by
  intro other aggregate hother
  dsimp only at hother ⊢
  rw [owed_owe, Pi.add_apply, Pi.neg_apply]
  cases hproduct : shop.products productId with
  | none =>
    rw [hproduct] at hother
    dsimp only at hother
    have hne : other ≠ productId := by
      intro hsame
      rw [hsame, hproduct] at hother
      cases hother
    rw [worth, Pi.single_eq_of_ne hne, neg_zero, add_zero]
    exact h other aggregate hother
  | some old =>
    rw [hproduct] at hother
    dsimp only at hother
    by_cases hsame : other = productId
    · subst hsame
      rw [update_self] at hother
      cases hother
      obtain ⟨htotals, -, -⟩ := h other old hproduct
      have hmoved := updatedAggregate_totals (hclamp old hproduct)
      refine ⟨?_, rfl, hmoved ▸ hclamp old hproduct⟩
      rw [hmoved, ← htotals, hread old hproduct, worth, Pi.single_eq_same]
      abel
    · rw [update_of_ne hsame] at hother
      rw [worth, Pi.single_eq_of_ne hsame, neg_zero, add_zero]
      exact h other aggregate hother

theorem inv_forget (h : Inv shop) {task : ℕ} (howes : shop.debts.owes task = worth productId delta)
    (hgone : shop.products productId = none) :
    Inv { shop with debts := shop.debts.owe task (-shop.debts.owes task) } := by
  intro other aggregate hother
  dsimp only at hother ⊢
  have hne : other ≠ productId := by
    intro hsame
    rw [hsame, hgone] at hother
    cases hother
  rw [owed_owe, howes, Pi.add_apply, Pi.neg_apply, worth, Pi.single_eq_of_ne hne, neg_zero,
    add_zero]
  exact h other aggregate hother

/-! ## The condition on a call -/

/-- What the others owe the figures leaves them enough for a change, if they owe anything. -/
def Enough (aggregate : Aggregate) (others : Totals) (delta : Delta) : Prop :=
  others ≠ 0 → Nonneg (aggregate.totals + delta.totals)

instance (aggregate : Aggregate) (others : Totals) (delta : Delta) :
    Decidable (Enough aggregate others delta) := inferInstanceAs (Decidable (_ → _))

/-- The figures of a product, if it is there, meet a condition. -/
def OfProduct (shop : Shop) (productId : ObjectId) (P : Aggregate → Prop) : Prop :=
  match shop.products productId with
  | some aggregate => P aggregate
  | none => True

instance (shop : Shop) (productId : ObjectId) (P : Aggregate → Prop) [DecidablePred P] :
    Decidable (OfProduct shop productId P) := by
  unfold OfProduct
  split
  · infer_instance
  · infer_instance

theorem ofProduct_iff {P : Aggregate → Prop} :
    OfProduct shop productId P ↔ ∀ aggregate, shop.products productId = some aggregate → P aggregate := by
  unfold OfProduct
  split
  next aggregate hproduct =>
    constructor
    · intro h other hother
      cases hproduct.symm.trans hother
      exact h
    · intro h
      exact h aggregate hproduct
  next hproduct =>
    refine iff_of_true trivial (fun aggregate haggregate => ?_)
    rw [hproduct] at haggregate
    cases haggregate

/-- What a moderation moves, the figures have enough for. -/
def EnoughFor (shop : Shop) (productId : ObjectId) (delta : Option Delta) : Prop :=
  match delta with
  | some delta =>
    OfProduct shop productId (fun aggregate =>
      Enough aggregate (shop.debts.owed productId) delta)
  | none => True

instance (shop : Shop) (productId : ObjectId) (delta : Option Delta) :
    Decidable (EnoughFor shop productId delta) := by
  unfold EnoughFor
  split
  · infer_instance
  · infer_instance

/-- The condition on a call. A moderation is written while the rating counts, or not, as it did when it was
read. Outside a transaction no call fails once the rating is saved, and the figures are written
while they are as they were read. While others owe the figures something, nothing is clamped. -/
def Fair (_ : ℕ) (kind : Kind) (c : Choice) (shop : Shop) : Prop :=
  match kind with
  | .moderate loaded status =>
    c.outcome.takesEffect = true → CountsAsRead loaded shop.ratings ∧
      EnoughFor shop loaded.productId (moderationDelta loaded status)
  | .saveRating rating =>
    c.outcome.isLost = true → isRated shop.ratings rating.orderItemId rating.customerId = true
  | .saveStatus loaded status =>
    (c.outcome.isLost = true → moderationDelta loaded status = none) ∧
      (c.outcome.takesEffect = true → CountsAsRead loaded shop.ratings)
  | .findProduct _ => c.outcome = .done
  | .writeProduct productId read delta =>
    c.outcome.takesEffect = true ∧
      OfProduct shop productId (fun aggregate => aggregate = read ∧
        Enough read (shop.debts.owed productId - delta.totals) delta)
  | _ => True

instance (task : ℕ) (kind : Kind) (c : Choice) (shop : Shop) : Decidable (Fair task kind c shop) := by
  unfold Fair
  split
  · infer_instance
  · infer_instance
  · infer_instance
  · infer_instance
  · infer_instance
  · infer_instance

/-- Where nobody else owes the figures anything, they have enough for what the ratings lose. -/
theorem nonneg_of_enough {aggregate : Aggregate} {others active : Totals}
    (henough : Enough aggregate others delta)
    (htotals : aggregate.totals + others + delta.totals = active) (hactive : Nonneg active) :
    Nonneg (aggregate.totals + delta.totals) := by
  by_cases hothers : others = 0
  · rw [hothers, add_zero] at htotals
    rw [htotals]
    exact hactive
  · exact henough hothers

/-! ## What a call keeps -/

theorem Known.added (h : Known loaded ratings) (rating : NewRating) :
    Known loaded (added ratings rating) := by
  obtain ⟨current, hget, hrest⟩ := h
  refine ⟨current, ?_, hrest⟩
  have hne : (rating.document ratings.freshKey).id ≠ loaded.id := by
    intro hsame
    have hmem := List.mem_map_of_mem (f := ProductRating.id) (mem_of_get? hget)
    rw [key_of_get? hget, ← hsame] at hmem
    exact freshKey_notMem ratings hmem
  exact (get?_insert_ne (freshKey_notMem ratings) hne).trans hget

theorem Known.withStatus {loaded other : ProductRating} (h : Known loaded ratings)
    (status : RatingStatus) :
    Known loaded (withStatus ratings other status) := by
  obtain ⟨current, hget, hproduct, hstars⟩ := h
  unfold Ratings.withStatus
  cases hother : ratings.get? other.id with
  | none => exact ⟨current, hget, hproduct, hstars⟩
  | some row =>
    dsimp only
    have hrow := key_of_get? hother
    by_cases hid : loaded.id = other.id
    · rw [hid, hother] at hget
      cases hget
      have hkey : ratings.get? ({ current with status } : ProductRating).id = some current :=
        (congrArg ratings.get? hrow).trans hother
      have hset := get?_set_self hkey
      refine ⟨{ current with status }, ?_, hproduct, hstars⟩
      rw [hid, ← hrow]
      exact hset
    · have hne : ({ row with status } : ProductRating).id ≠ loaded.id :=
        fun hsame => hid (hsame.symm.trans hrow)
      exact ⟨current, (get?_set_ne hne).trans hget, hproduct, hstars⟩

/-- What the others do to a task: what it owes stays, and so does the rating that it has read. -/
structure Others (i : ℕ) (shop shop' : Shop) : Prop where
  owes : shop'.debts.owes i = shop.debts.owes i
  known : ∀ loaded, Known loaded shop.ratings → Known loaded shop'.ratings

theorem Others.refl (i : ℕ) (shop : Shop) : Others i shop shop := ⟨rfl, fun _ => id⟩

theorem Others.trans {i : ℕ} {shop shop' shop'' : Shop} (h : Others i shop shop')
    (h' : Others i shop' shop'') : Others i shop shop'' :=
  ⟨h'.owes.trans h.owes, fun loaded hloaded => h'.known loaded (h.known loaded hloaded)⟩

variable {i : ℕ} {c : Choice} {shop : Shop}

theorem effect_others {j : ℕ} (hj : j ≠ i) (c : Choice) (shop : Shop) (kind : Kind) :
    Others j shop (effect i c shop kind).2 := by
  have howe : ∀ amount, (shop.debts.owe i amount).owes j = shop.debts.owes j :=
    fun amount => owes_owe_ne shop.debts amount hj
  cases kind with
  | submit rating =>
    unfold effect
    dsimp only
    split
    · exact Others.refl j shop
    · exact ⟨rfl, fun _ h => h.added rating⟩
  | saveRating rating =>
    unfold effect
    dsimp only
    split
    · exact Others.refl j shop
    · exact ⟨howe _, fun _ h => h.added rating⟩
  | moderate loaded status => exact ⟨rfl, fun _ h => h.withStatus status⟩
  | saveStatus loaded status =>
    refine ⟨?_, fun _ h => h.withStatus status⟩
    unfold effect
    dsimp only
    split
    · exact howe _
    · rfl
  | findProduct productId =>
    unfold effect
    dsimp only
    split
    · exact Others.refl j shop
    · exact ⟨howe _, fun _ => id⟩
  | writeProduct productId read delta => exact ⟨howe _, fun _ => id⟩
  | findOrder | findExisting | startSession | findRating => exact Others.refl j shop

def Prepared (i : ℕ) (shop : Shop) : Kind → Prop
  | .moderate loaded _ | .saveStatus loaded _ => Known loaded shop.ratings
  | .findProduct productId => ∃ delta, shop.debts.owes i = worth productId delta
  | _ => True

theorem inv_moderate (h : Inv shop) (hknown : Known loaded shop.ratings) (status : RatingStatus)
    (hread : CountsAsRead loaded shop.ratings)
    (henough : EnoughFor shop loaded.productId (moderationDelta loaded status)) :
    Inv { shop with
      ratings := withStatus shop.ratings loaded status
      products := adjusted shop.products loaded.productId (moderationDelta loaded status) } := by
  have hactive := activeTotals_withStatus hknown hread status
  cases hdelta : moderationDelta loaded status with
  | some delta =>
    rw [moderationWorth_of_some hdelta] at hactive
    rw [hdelta] at henough
    refine inv_moved h hactive (fun aggregate haggregate => ?_)
    refine nonneg_of_enough (ofProduct_iff.mp henough aggregate haggregate) ?_
      (nonneg_activeTotals loaded.productId (withStatus shop.ratings loaded status))
    rw [hactive, (h loaded.productId aggregate haggregate).totals]
    rw [worth, Pi.single_eq_same]
  | none =>
    rw [moderationWorth_of_none hdelta] at hactive
    intro other aggregate hother
    dsimp only at hother ⊢
    rw [hactive, Pi.zero_apply, add_zero]
    exact h other aggregate hother

theorem inv_saveStatus (h : Inv shop) (hknown : Known loaded shop.ratings) (status : RatingStatus)
    (hread : CountsAsRead loaded shop.ratings) :
    Inv { shop with
      ratings := withStatus shop.ratings loaded status
      debts :=
        match moderationDelta loaded status with
        | some delta => shop.debts.owe i (worth loaded.productId delta)
        | none => shop.debts } := by
  have hactive := activeTotals_withStatus hknown hread status
  cases hdelta : moderationDelta loaded status with
  | some delta =>
    rw [moderationWorth_of_some hdelta] at hactive
    exact inv_owe h i hactive
  | none =>
    rw [moderationWorth_of_none hdelta] at hactive
    intro other aggregate hother
    dsimp only at hother ⊢
    rw [hactive, Pi.zero_apply, add_zero]
    exact h other aggregate hother

theorem effect_inv (h : Inv shop) {kind : Kind} (hfair : Fair i kind c shop)
    (htakes : c.outcome.takesEffect = true) (hprepared : Prepared i shop kind) :
    Inv (effect i c shop kind).2 := by
  cases kind with
  | submit rating =>
    unfold effect
    dsimp only
    split
    · exact h
    · refine inv_moved h (activeTotals_added shop.ratings rating) (fun aggregate haggregate => ?_)
      exact (h rating.productId aggregate haggregate).nonneg.add (nonneg_one rating.stars)
  | saveRating rating =>
    unfold effect
    dsimp only
    split
    · exact h
    · exact inv_owe h i (activeTotals_added shop.ratings rating)
  | moderate loaded status =>
    obtain ⟨hread, henough⟩ := hfair htakes
    exact inv_moderate h hprepared status hread henough
  | saveStatus loaded status => exact inv_saveStatus h hprepared status (hfair.2 htakes)
  | findProduct productId =>
    obtain ⟨delta, howes⟩ := hprepared
    unfold effect
    dsimp only
    split
    next => exact h
    next hgone => exact inv_forget h howes hgone
  | writeProduct productId read delta =>
    have hcurrent := ofProduct_iff.mp hfair.2
    refine inv_write h i (fun current hproduct => (hcurrent current hproduct).1)
      (fun current hproduct => ?_)
    obtain ⟨hread, henough⟩ := hcurrent current hproduct
    refine nonneg_of_enough henough ?_ (nonneg_activeTotals productId shop.ratings)
    rw [← (h productId current hproduct).totals, hread]
    abel
  | findOrder | findExisting | startSession | findRating => exact h

def fairContract : Contract ratingSystem where
  inv := Inv
  rely := Others
  idle := fun i shop => shop.debts.owes i = 0
  may := Fair

/-! ## The handlers -/

variable {s : Shop}

/-- The rule for one call. -/
theorem sound_perform {kind : Kind} {Q : kind.Reply → Shop → Prop} {E : RatingError → Shop → Prop}
    (hprepared : ∀ s', Others i s s' → Prepared i s' kind)
    (hok : ∀ c s' a, Others i s s' → Fair i kind c s' → (effect i c s' kind).1 = .ok a →
      Q a (effect i c s' kind).2)
    (herror : ∀ c s' e, Others i s s' → Fair i kind c s' → (effect i c s' kind).1 = .error e →
      E e (effect i c s' kind).2)
    (hrefused : ∀ c s' e, Others i s s' → Fair i kind c s' → c.outcome = .refused e → E e s')
    (hlost : ∀ c s' e, Others i s s' → Fair i kind c s' → c.outcome = .lost e →
      E e (effect i c s' kind).2) :
    fairContract.Sound i Q E (Prog.perform kind) s :=
  Sound.perform_outcome (o := Choice.outcome) (f := fun c s => effect i c s kind)
    (fun _ _ => rfl) Others.refl
    (fun c s' hrely hinv hmay htakes =>
      ⟨effect_inv hinv hmay htakes (hprepared s' hrely), fun _ hj => effect_others hj c s' kind⟩)
    (fun c s' a hrely _ hmay _ => hok c s' a hrely hmay)
    (fun c s' e hrely _ hmay _ => herror c s' e hrely hmay)
    (fun c s' e hrely _ hmay => hrefused c s' e hrely hmay)
    (fun c s' e hrely _ hmay => hlost c s' e hrely hmay)

/-- The task owes nothing. -/
abbrev Clear (i : ℕ) (shop : Shop) : Prop := shop.debts.owes i = 0

/-- A call after which the task owes what it owed before. -/
theorem sound_debtless {kind : Kind} (hs : Clear i s)
    (hprepared : ∀ s', Others i s s' → Prepared i s' kind)
    (hdebts : ∀ c s', (effect i c s' kind).2.debts = s'.debts) :
    fairContract.Leaving i (Clear i) (Prog.perform kind) s := by
  have hkeeps : ∀ c s', Others i s s' → Clear i (effect i c s' kind).2 := by
    intro c s' hrely
    unfold Clear
    rw [hdebts, hrely.owes]
    exact hs
  exact sound_perform hprepared (fun c s' _ hrely _ _ => hkeeps c s' hrely)
    (fun c s' _ hrely _ _ => hkeeps c s' hrely) (fun _ s' _ hrely _ _ => hrely.owes.trans hs)
    (fun c s' _ hrely _ _ => hkeeps c s' hrely)

theorem startSession_sound (hs : Clear i s) :
    fairContract.Leaving i (Clear i) startSession s :=
  Sound.tryCatch (D := fun _ => Clear i)
    (sound_debtless hs (fun _ _ => trivial) (fun _ _ => rfl))
    (fun _ _ hs => Sound.ret hs)

theorem updateProductAggregate_sound (howes : s.debts.owes i = worth productId delta) :
    fairContract.Leaving i (Clear i) (updateProductAggregate productId delta) s := by
  have hnothing : worth productId delta + -worth productId delta = 0 := add_neg_cancel _
  unfold updateProductAggregate
  refine Sound.bind (R := fun product s =>
    (product = none → Clear i s) ∧ (product ≠ none → s.debts.owes i = worth productId delta))
    ?_ (fun product s hproduct => ?_)
  · refine sound_perform (fun s' hrely => ⟨delta, hrely.owes.trans howes⟩)
      (fun c s' a hrely _ ha => ?_) (fun c s' e _ _ he => ?_)
      (fun c s' e _ hfair hout => ?_) (fun c s' e _ hfair hout => ?_)
    · unfold effect at ha ⊢
      dsimp only at ha ⊢
      split at ha
      next aggregate hget =>
        cases ha
        exact ⟨fun hnone => (by cases hnone), fun _ => hrely.owes.trans howes⟩
      next hget =>
        cases ha
        refine ⟨fun _ => ?_, fun hsome => absurd rfl hsome⟩
        exact (owes_owe_self _ _ _).trans (add_neg_cancel _)
    · unfold effect at he
      dsimp only at he
      split at he
      · cases he
      · cases he
    · cases hout.symm.trans hfair
    · cases hout.symm.trans hfair
  · cases product with
    | none => exact Sound.ret (hproduct.1 rfl)
    | some aggregate =>
      have howes' : s.debts.owes i = worth productId delta := hproduct.2 (by simp)
      have hpaid : ∀ c s', Others i s s' →
          Clear i (effect i c s' (.writeProduct productId aggregate delta)).2 := by
        intro c s' hrely
        refine (owes_owe_self _ _ _).trans ?_
        rw [hrely.owes, howes', hnothing]
      refine sound_perform (fun _ _ => trivial) (fun c s' _ hrely _ _ => hpaid c s' hrely)
        (fun _ _ _ _ _ he => by cases he) (fun c s' e _ hfair hout => ?_)
        (fun c s' _ hrely _ _ => hpaid c s' hrely)
      have htakes := hfair.1
      rw [hout] at htakes
      cases htakes

theorem createRating_sound (rating : NewRating) (hs : Clear i s) :
    fairContract.Leaving i (Clear i) (createRating rating) s := by
  unfold createRating
  refine Sound.bind (R := fun _ => Clear i) (startSession_sound hs) (fun session s hs => ?_)
  refine Sound.ite (fun _ => ?_) (fun _ => ?_)
  · refine sound_debtless hs (fun _ _ => trivial) (fun c s' => ?_)
    unfold effect
    dsimp only
    split
    · rfl
    · rfl
  · refine Sound.bind
      (R := fun _ s => s.debts.owes i = worth rating.productId ⟨rating.stars, 1⟩) ?_
      (fun _ s howes => updateProductAggregate_sound howes)
    refine sound_perform (fun _ _ => trivial) (fun c s' _ hrely _ ha => ?_)
      (fun c s' _ hrely _ he => ?_) (fun _ s' _ hrely _ _ => hrely.owes.trans hs)
      (fun c s' e hrely hfair hout => ?_)
    · unfold effect at ha ⊢
      dsimp only at ha ⊢
      split at ha
      next => cases ha
      next hnew =>
        rw [if_neg hnew]
        refine (owes_owe_self _ _ _).trans ?_
        rw [hrely.owes, hs, zero_add]
    · unfold effect at he ⊢
      dsimp only at he ⊢
      split at he
      next hrated =>
        rw [if_pos hrated]
        exact hrely.owes.trans hs
      next => cases he
    · have hrated := hfair (by rw [hout]; rfl)
      unfold effect
      dsimp only
      rw [if_pos hrated]
      exact hrely.owes.trans hs

theorem changeStatus_sound (status : RatingStatus) (hs : Clear i s)
    (hknown : Known loaded s.ratings) :
    fairContract.Leaving i (Clear i) (changeStatus loaded status) s := by
  unfold changeStatus
  refine Sound.bind (R := fun _ s => Clear i s ∧ Known loaded s.ratings)
    ?_ (fun session s hs => ?_)
  · have hframe := (startSession_sound hs).frame (F := fun s => Known loaded s.ratings)
      (fun _ _ _ hrely h => Others.known hrely loaded h) hknown
    exact hframe.mono (fun _ _ h => h) (fun _ _ h => h.1)
  · refine Sound.ite (fun _ => ?_) (fun _ => ?_)
    · exact sound_debtless hs.1 (fun s' hrely => hrely.known loaded hs.2) (fun _ _ => rfl)
    · refine Sound.bind (R := fun _ s => s.debts.owes i = moderationWorth loaded status) ?_
        (fun _ s howes => ?_)
      · refine sound_perform (fun s' hrely => hrely.known loaded hs.2) (fun c s' _ hrely _ _ => ?_)
          (fun _ _ _ _ _ he => by cases he) (fun _ s' _ hrely _ _ => hrely.owes.trans hs.1)
          (fun c s' e hrely hfair hout => ?_)
        · have howes' : s'.debts.owes i = 0 := hrely.owes.trans hs.1
          unfold effect
          dsimp only
          cases hdelta : moderationDelta loaded status with
          | some delta =>
            rw [moderationWorth_of_some hdelta]
            refine (owes_owe_self _ _ _).trans ?_
            rw [howes', zero_add]
          | none =>
            rw [moderationWorth_of_none hdelta]
            exact howes'
        · have hnothing := hfair.1 (by rw [hout]; rfl)
          unfold effect
          dsimp only
          rw [hnothing]
          exact hrely.owes.trans hs.1
      · cases hdelta : moderationDelta loaded status with
        | some delta =>
          rw [moderationWorth_of_some hdelta] at howes
          exact updateProductAggregate_sound howes
        | none =>
          rw [moderationWorth_of_none hdelta] at howes
          exact Sound.ret howes

theorem updateRatingStatus_sound (id : ObjectId) (status : Option RatingStatus) (hs : Clear i s) :
    fairContract.Leaving i (Clear i) (updateRatingStatus id status) s := by
  unfold updateRatingStatus
  cases status with
  | none => exact Sound.throw hs
  | some status =>
    refine Sound.bind
      (R := fun rating s => Clear i s ∧ ∀ loaded, rating = some loaded → Known loaded s.ratings)
      ?_ (fun rating s hrating => ?_)
    · refine sound_perform (fun _ _ => trivial) (fun c s' a hrely _ ha => ?_)
        (fun _ _ _ _ _ he => by cases he) (fun _ s' _ hrely _ _ => hrely.owes.trans hs)
        (fun _ s' _ hrely _ _ => hrely.owes.trans hs)
      refine ⟨hrely.owes.trans hs, fun loaded hloaded => ?_⟩
      have hread : s'.ratings.get? id = a := Except.ok.inj ha
      have hget := hread.trans hloaded
      exact ⟨loaded, (congrArg s'.ratings.get? (key_of_get? hget)).trans hget, rfl, rfl⟩
    · cases rating with
      | none => exact Sound.throw hrating.1
      | some loaded =>
        refine Sound.ite (fun _ => Sound.ret hrating.1) (fun _ => ?_)
        exact changeStatus_sound status hrating.1 (hrating.2 loaded rfl)

theorem submitRating_sound (rating : NewRating) (hs : Clear i s) :
    fairContract.Leaving i (Clear i) (submitRating rating) s := by
  have hexisting : ∀ s, Clear i s → fairContract.Leaving i (Clear i)
      (Prog.perform (Kind.findExisting rating.orderItemId rating.customerId)) s :=
    fun s hs => sound_debtless hs (fun _ _ => trivial) (fun _ _ => rfl)
  unfold submitRating
  refine Sound.bind (R := fun _ => Clear i) (hexisting s hs) (fun existing s hs => ?_)
  refine Sound.ite (fun _ => Sound.throw hs) (fun _ => ?_)
  refine Sound.tryCatch (D := fun _ => Clear i) (createRating_sound rating hs)
    (fun e s hs => ?_)
  unfold resolveDuplicate
  refine Sound.ite (fun _ => ?_) (fun _ => Sound.throw hs)
  exact Sound.bind (hexisting s hs) (fun _ _ hs => Sound.ret hs)

theorem submitProductRating_sound (request : SubmitRequest) (hs : Clear i s) :
    fairContract.Leaving i (Clear i) (submitProductRating request) s := by
  unfold submitProductRating
  split
  · exact Sound.throw hs
  · exact Sound.throw hs
  next orderItemId stars =>
    refine Sound.bind (R := fun _ => Clear i)
      (sound_debtless hs (fun _ _ => trivial) (fun _ _ => rfl)) (fun order s hs => ?_)
    cases order with
    | none => exact Sound.throw hs
    | some order =>
      dsimp only
      split
      · exact Sound.throw hs
      · exact submitRating_sound _ hs

/-! ## Runs -/

theorem command_sound (command : Command) (hs : Clear i s) :
    fairContract.Leaving i (Clear i) command.program s := by
  cases command with
  | submit request => exact submitProductRating_sound request hs
  | moderate id status => exact updateRatingStatus_sound id status hs

theorem fairContract_lawful : fairContract.Lawful where
  refl := Others.refl
  trans := fun _ _ _ _ => Others.trans
  idle := fun _ _ _ hrely hidle => hrely.owes.trans hidle
  outside := fun e => e.elim
  entry := fun command _ _ _ hidle _ =>
    (command_sound command hidle).mono (fun _ _ _ => trivial) (fun _ _ _ => trivial)

theorem fairContract_leaves : fairContract.Leaves Clear where
  stable := fun _ _ _ hrely hs => Others.owes hrely |>.trans hs
  entry := fun command _ _ _ hidle _ => command_sound command hidle

/-- The figures of every product are what a rebuild computes. -/
def Consistent (shop : Shop) : Prop :=
  ∀ productId aggregate, shop.products productId = some aggregate →
    aggregate = rebuildProductRatingAggregate productId shop.ratings

theorem Inv.consistent (h : Inv shop) (hpaid : ∀ task, shop.debts.owes task = 0) :
    Consistent shop := by
  intro productId aggregate hproduct
  obtain ⟨htotals, haveraged, -⟩ := h productId aggregate hproduct
  rw [owed_eq_zero hpaid, Pi.zero_apply, add_zero] at htotals
  exact haveraged.eq_of_totals rfl (htotals.trans (rebuild_totals productId shop.ratings).symm)

theorem Consistent.inv (h : Consistent shop) (hpaid : shop.debts = empty) :
    Inv shop := by
  intro productId aggregate hproduct
  have hrebuilt := h productId aggregate hproduct
  have htotals : aggregate.totals = activeTotals productId shop.ratings := by
    rw [hrebuilt, rebuild_totals]
  refine ⟨?_, hrebuilt ▸ rfl, htotals ▸ nonneg_activeTotals productId shop.ratings⟩
  rw [hpaid, owed_empty, Pi.zero_apply, add_zero, htotals]

theorem ends_consistent {p : Pool} (hp : fairContract.Ends Clear p) (hquiet : p.Quiet) :
    Consistent p.shared := by
  refine Inv.consistent hp.inv (fun task => ?_)
  cases htask : p.tasks[task]? with
  | some t => exact hp.post_of_isOver htask (hquiet t (List.mem_of_getElem? htask))
  | none => exact hp.idle task (List.getElem?_eq_none_iff.mp htask)

/-- Submissions and moderations in any order and number, whose calls meet the condition: whenever all of
them have ended, the figures of every product are what a rebuild computes from the active ratings. -/
theorem aggregates_match_rebuild (ratings : ProductRatings) (products : ObjectId → Option Aggregate)
    (hstart : Consistent { ratings, products }) (acts : List Act)
    (hfair : Guarded ratingSystem.step (OnOps Fair) ⟨{ ratings, products }, []⟩ acts) :
    Along ratingSystem.step (fun p => p.Quiet → Consistent p.shared)
      ⟨{ ratings, products }, []⟩ acts := by
  have hends : fairContract.Ends Clear (⟨{ ratings, products }, []⟩ : Pool) :=
    ⟨hstart.inv rfl, fun _ _ h => absurd h (by simp), fun _ _ => rfl⟩
  have hmeets := Contract.guarded_meets (K := fairContract)
    (guarded_of_forall (fun p a => ?_) _ _) hfair
  · exact (along_of_guarded (fun _ _ h hm => fairContract_lawful.step_ends fairContract_leaves h hm)
      hends hmeets).mono (fun _ h hquiet => ends_consistent h hquiet)
  · cases a with
    | outside e => exact e.elim
    | run | start => trivial

/-! ## Runs of two products -/

def oneProduct (id : ObjectId) : Option Aggregate := if id = 1 then some {} else none

theorem oneProduct_consistent : Consistent { ratings := empty, products := oneProduct } := by
  intro productId aggregate hproduct
  unfold oneProduct at hproduct
  dsimp only at hproduct
  split at hproduct
  · cases hproduct
    rfl
  · cases hproduct

def itemDelivered : DeliveredOrder where
  orderStatus := "delivered"
  status := "delivered"
  deliveredAt := some 0
  updatedAt := none
  items := [⟨5, 1, .none⟩]

/-- Customer 9 gives item 5 four stars. -/
def rateItem : List Act :=
  [.start (.submit ⟨9, some 5, some 4, 0⟩), .run 0 { order := some itemDelivered }, .run 0 {},
    .run 0 {}, .run 0 {}]

/-- Then the rating is hidden by one request. -/
def hideOnce : List Act :=
  rateItem ++ [.start (.moderate 0 (some .hidden)), .run 1 {}, .run 1 {}, .run 1 {}]

/-- A second customer rates the product, and two requests to hide the first rating have both read it
before either of them writes. -/
def hideTwice : List Act :=
  rateItem ++
    [.start (.submit ⟨10, some 5, some 2, 0⟩), .run 1 { order := some itemDelivered }, .run 1 {},
      .run 1 {}, .run 1 {},
      .start (.moderate 0 (some .hidden)), .start (.moderate 0 (some .hidden)), .run 2 {}, .run 3 {},
      .run 2 {}, .run 2 {}, .run 3 {}, .run 3 {}]

theorem aggregates_match_rebuild_hideOnce :
    Along ratingSystem.step (fun p => p.Quiet → Consistent p.shared)
      ⟨{ ratings := empty, products := oneProduct }, []⟩ hideOnce :=
  aggregates_match_rebuild empty oneProduct oneProduct_consistent hideOnce (by decide +kernel)

/-- Two ratings were given and one of them hidden, and the product counts none. -/
theorem hidden_twice :
    ¬ ∀ ratings products acts, Consistent { ratings, products } →
      Along ratingSystem.step (fun p => p.Quiet → Consistent p.shared)
        ⟨{ ratings, products }, []⟩ acts := by
  intro h
  have hlast := (h empty oneProduct hideTwice oneProduct_consistent).last (by decide +kernel)
  have hcounts : ((exec ratingSystem.step
      ⟨{ ratings := empty, products := oneProduct }, []⟩ hideTwice).shared.products 1).map
        Aggregate.ratingCount = some 0 := by decide +kernel
  have hrebuilt : (rebuildProductRatingAggregate 1 (exec ratingSystem.step
      ⟨{ ratings := empty, products := oneProduct }, []⟩ hideTwice).shared.ratings).ratingCount
        = 1 := by decide +kernel
  obtain ⟨aggregate, hproduct, hcount⟩ := Option.map_eq_some_iff.mp hcounts
  rw [hlast 1 aggregate hproduct, hrebuilt] at hcount
  cases hcount

end DiscountBazar.Ratings
