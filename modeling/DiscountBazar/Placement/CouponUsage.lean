/-
A coupon's usage counts its live checkout groups.

A use is counted with the placement, in its transaction, and given back with the one
compensation that locks the group after its last order is cancelled. `Books` is the
invariant: the usage is the number of the coupon's groups that have not been given back, and
for each group that should be, somebody still owes it. With nothing owed the usage is the
number of groups with a live order. That the owing is kept up is the condition.
-/
import DiscountBazar.Placement.CouponReversal
import DiscountBazar.Pricing.Passes

namespace DiscountBazar.Placement.Reversal

open Tasks Pricing Transaction Function Runs
open Contract (Sound)
open Prog (perform)
open Finance (WorkflowStatus)
open List Nat Coupon

/-! ## The property -/

def liveGroups (s : Shop) (couponId : ObjectId) : List CheckoutGroup :=
  s.world.groups.filter (fun g =>
    decide (g.coupon = some couponId ∧ 0 < activeCount s.world.orders g.checkoutGroupId))

/-- The reversal of the group is under way or still to come. -/
def UnderWay (s : Shop) (group : ObjectId) : Prop :=
  (∃ i, s.duty i = .compensate group ∨ s.duty i = .decrement group) ∨
    ∃ o ∈ s.world.orders, o.checkoutGroupId = group ∧ s.owed o.orderId = true

def UsageAgrees (s : Shop) : Prop :=
  ∀ coupon ∈ s.world.store.coupons.coupons,
    (∀ g ∈ s.world.groups, g.coupon = some coupon.id → ¬ UnderWay s g.checkoutGroupId) →
    coupon.usedCount = (liveGroups s coupon.id).length

def WithinLimit (s : Shop) : Prop :=
  ∀ coupon ∈ s.world.store.coupons.coupons, ∀ limit, coupon.usageLimit = some limit →
    coupon.usedCount ≤ limit

/-! ## The condition -/

def Outcome.takesEffect : Outcome → Bool
  | .refused _ => false
  | _ => true

/-- There is nothing to give back for the group: it has no coupon, is reversed, or has a live
order. -/
def Settled (s : Shop) (group : ObjectId) : Prop :=
  couponOf s group = none ∨ s.reversed group = true ∨ 0 < activeCount s.world.orders group

instance (s : Shop) (group : ObjectId) : Decidable (Settled s group) :=
  inferInstanceAs (Decidable (_ ∨ _ ∨ _))

/-- There is nothing to give back for the group that task `i` cancelled an order of. -/
def DutySettled (s : Shop) (i : ℕ) : Prop :=
  match s.duty i with
  | .compensate group => Settled s group
  | _ => True

instance (s : Shop) (i : ℕ) : Decidable (DutySettled s i) :=
  match h : s.duty i with
  | .compensate group =>
    decidable_of_iff (Settled s group) (by unfold DutySettled; rw [h])
  | .decrement _ => isTrue (by unfold DutySettled; rw [h]; trivial)
  | .none => isTrue (by unfold DutySettled; rw [h]; trivial)

/-- Each order that these ids and this filter cancel leaves its group with nothing to give
back. -/
def SettledAfter (s : Shop) (orderIds : List ObjectId) (filter : WorkflowStatus → Bool) : Prop :=
  ∀ o ∈ s.world.orders, o.orderId ∈ orderIds → isLive o = true → filter o.workflowStatus = true →
    Settled (s.withOrders (cancelOrders s.world.orders orderIds filter)) o.checkoutGroupId

instance (s : Shop) (orderIds : List ObjectId) (filter : WorkflowStatus → Bool) :
    Decidable (SettledAfter s orderIds filter) :=
  inferInstanceAs (Decidable (∀ o ∈ s.world.orders, _))

/-- The condition on an operation: where it ends a reversal that is owed, there is nothing to
give back. -/
def ReversalKept (i : ℕ) (kind : Kind) (outcome : Outcome) (s : Shop) : Prop :=
  match kind with
  | .failPayment orderIds =>
    outcome.takesEffect = true → SettledAfter s orderIds (fun status => decide (status = .created))
  | .cancel orderId filter =>
    match outcome with
    | .lost _ => SettledAfter s [orderId] filter
    | _ => True
  | .prepare _ | .countActive _ => outcome = .done ∨ DutySettled s i
  | .lockGroup existing =>
    match outcome with
    | .done => s.deleted existing.checkoutGroupId = false ∨ Settled s existing.checkoutGroupId
    | .refused _ => DutySettled s i
    | .lost _ => Settled s existing.checkoutGroupId
  | .decrement _ _ => outcome.takesEffect = true
  | .saveState orderId pending =>
    outcome.takesEffect = true → pending = false → s.owed orderId = true →
      ∀ o ∈ s.world.orders, o.orderId = orderId → Settled s o.checkoutGroupId
  | _ => True

instance (i : ℕ) : (kind : Kind) → (outcome : Outcome) → (s : Shop) →
    Decidable (ReversalKept i kind outcome s)
  | .failPayment _, _, _ => inferInstanceAs (Decidable (_ → SettledAfter _ _ _))
  | .cancel _ _, .lost _, _ => inferInstanceAs (Decidable (SettledAfter _ _ _))
  | .cancel _ _, .done, _ => isTrue trivial
  | .cancel _ _, .refused _, _ => isTrue trivial
  | .prepare _, _, _ => inferInstanceAs (Decidable (_ ∨ DutySettled _ _))
  | .countActive _, _, _ => inferInstanceAs (Decidable (_ ∨ DutySettled _ _))
  | .lockGroup _, .done, _ => inferInstanceAs (Decidable (_ ∨ Settled _ _))
  | .lockGroup _, .refused _, _ => inferInstanceAs (Decidable (DutySettled _ _))
  | .lockGroup _, .lost _, _ => inferInstanceAs (Decidable (Settled _ _))
  | .decrement _ _, outcome, _ => inferInstanceAs (Decidable (outcome.takesEffect = true))
  | .saveState _ _, _, _ => inferInstanceAs (Decidable (_ → _ → _ → ∀ o ∈ _, _))
  | .place _, _, _ => isTrue trivial
  | .cancelDirectly _ _, _, _ => isTrue trivial
  | .updateGroup _, _, _ => isTrue trivial
  | .recordExternal _, _, _ => isTrue trivial
  | .lease _, _, _ => isTrue trivial
  | .saveSteps _ _, _, _ => isTrue trivial

/-! ## The limit -/

theorem WithinLimit.increment {coupons : List Coupon} {couponId : Option ObjectId}
    (h : ∀ c ∈ coupons, ∀ limit, c.usageLimit = some limit → c.usedCount ≤ limit) :
    ∀ c ∈ coupons.map (fun c => if some c.id = couponId then use c else c),
      ∀ limit, c.usageLimit = some limit → c.usedCount ≤ limit := by
  intro c' hc' limit hlimit
  obtain ⟨c, hc, rfl⟩ := mem_map.mp hc'
  by_cases hid : some c.id = couponId
  · rw [if_pos hid] at hlimit ⊢
    unfold use at hlimit ⊢
    by_cases hused : c.usedUp = true
    · rw [if_pos hused] at hlimit ⊢
      exact h c hc limit hlimit
    · rw [if_neg hused] at hlimit ⊢
      dsimp only at hlimit ⊢
      unfold usedUp at hused
      rw [hlimit, Option.any_some, decide_eq_true_eq] at hused
      omega
  · rw [if_neg hid] at hlimit ⊢
    exact h c hc limit hlimit

theorem WithinLimit.decrement {coupons : List Coupon} {couponId : ObjectId}
    (h : ∀ c ∈ coupons, ∀ limit, c.usageLimit = some limit → c.usedCount ≤ limit) :
    ∀ c ∈ coupons.map (fun c =>
        if c.id = couponId then { c with usedCount := c.usedCount - 1 } else c),
      ∀ limit, c.usageLimit = some limit → c.usedCount ≤ limit := by
  intro c' hc' limit hlimit
  obtain ⟨c, hc, rfl⟩ := mem_map.mp hc'
  by_cases hid : c.id = couponId
  · rw [if_pos hid] at hlimit ⊢
    exact (sub_le _ _).trans (h c hc limit hlimit)
  · rw [if_neg hid] at hlimit ⊢
    exact h c hc limit hlimit

/-! ## A placement -/

/-- What a placement does to the coupons. -/
structure Counted (w w' : World) (placed : Placed) : Prop where
  flags : w'.store.flags = w.store.flags
  coupons : w'.store.coupons = incrementCouponUsage w.store.coupons placed.checkoutGroup.coupon
  usable : ∀ id, placed.checkoutGroup.coupon = some id →
    ∃ coupon ∈ w.store.coupons.coupons, coupon.id = id ∧ coupon.usedUp = false
  groups : w'.groups = w.groups ++ [placed.checkoutGroup]
  orders : w'.orders = w.orders ++ placed.orders
  nonempty : placed.orders ≠ []
  own : ∀ o ∈ placed.orders, o.checkoutGroupId = placed.checkoutGroup.checkoutGroupId ∧
    o.coupon = placed.checkoutGroup.coupon ∧ isLive o = true

variable {w w' : World} {r : Request} {placed : Placed}

theorem placeOrder_flags (h : placeOrder w r = .ok (w', placed)) :
    w'.store.flags = w.store.flags := by
  unfold placeOrder placeOrderTransaction at h
  obtain ⟨-, -, h⟩ := bind_eq_ok.mp h
  obtain ⟨⟨items, source, snapshot⟩, -, h⟩ := bind_eq_ok.mp h
  obtain ⟨⟨stock, orders⟩, -, h⟩ := bind_eq_ok.mp h
  obtain ⟨funds, -, h⟩ := bind_eq_ok.mp h
  obtain ⟨rfl, rfl⟩ := Prod.mk.inj (pure_eq_ok.mp h)
  rfl

theorem priceOrder_snapshot {w : World} {items : List ItemInput} {source : PlacementSource}
    {snapshot : PricingSnapshot} (h : priceOrder w r = .ok (items, source, snapshot)) :
    buildCheckoutPricingSnapshot w.store (pricingRequest r.customerId r.payload items)
      = .ok snapshot := by
  unfold priceOrder at h
  obtain ⟨-, -, h⟩ := bind_eq_ok.mp h
  obtain ⟨⟨items', source'⟩, -, h⟩ := bind_eq_ok.mp h
  obtain ⟨-, -, h⟩ := bind_eq_ok.mp h
  obtain ⟨snapshot', hsnapshot, h⟩ := bind_eq_ok.mp h
  obtain ⟨-, -, h⟩ := bind_eq_ok.mp h
  cases pure_eq_ok.mp h
  exact hsnapshot

theorem placeOrder_counted (hengine : w.store.flags.serverSideCouponEngine = true)
    (h : placeOrder w r = .ok (w', placed)) : Counted w w' placed := by
  have hcommitted := committed_of_placeOrder h
  obtain ⟨items, source, snapshot, hprice, stock, hplace, hgroup, -, -, -, hcoupons⟩ :=
    hcommitted.priced
  have hsnapshot := priceOrder_snapshot hprice
  have hcoupon : placed.checkoutGroup.coupon = snapshot.couponId := by
    rw [hgroup]
    rfl
  refine ⟨placeOrder_flags h, ?_, ?_, hcommitted.groups, hcommitted.orders, ?_, ?_⟩
  · rw [hcoupons, hcoupon, countedCoupon, if_pos hengine]
  · intro id hid
    rw [hcoupon] at hid
    exact buildCheckoutPricingSnapshot_coupon hengine hsnapshot hid
  · intro hnil
    have hbreakdowns := placeEntries_breakdowns hplace
    dsimp only at hbreakdowns
    rw [hnil, map_nil, eq_comm, map_eq_nil_iff] at hbreakdowns
    exact buildCheckoutPricingSnapshot_entries hsnapshot hbreakdowns
  · intro o ho
    obtain ⟨entry, -, index, rfl⟩ := mem_placeEntries hplace ho
    rw [hgroup]
    refine ⟨rfl, rfl, ?_⟩
    unfold isLive buildOrder
    dsimp only
    split <;> rfl

/-! ## The books -/

/-- How many groups carry a coupon and have not given its use back. -/
def uses (s : Shop) (couponId : ObjectId) : ℕ :=
  (s.world.groups.filter (fun g =>
    decide (g.coupon = some couponId ∧ s.decremented g.checkoutGroupId = false))).length

/-- Somebody still owes the reversal of the group. -/
def Owed (s : Shop) (group : ObjectId) : Prop :=
  (∃ i, s.duty i = .compensate group) ∨
    ∃ o ∈ s.world.orders, o.checkoutGroupId = group ∧ s.owed o.orderId = true

structure Books (s : Shop) : Prop where
  engine : s.world.store.flags.serverSideCouponEngine = true
  couponIds : (s.world.store.coupons.coupons.map Coupon.id).Nodup
  groupIds : (s.world.groups.map CheckoutGroup.checkoutGroupId).Nodup
  orderIds : (s.world.orders.map Order.orderId).Nodup
  ordersOf : ∀ o ∈ s.world.orders, ∃ g ∈ s.world.groups,
    g.checkoutGroupId = o.checkoutGroupId ∧ g.coupon = o.coupon
  counted : ∀ c ∈ s.world.store.coupons.coupons, c.usedCount = uses s c.id
  reversedKnown : ∀ g, s.reversed g = true →
    g ∈ s.world.groups.map CheckoutGroup.checkoutGroupId
  reversedDead : ∀ g, s.reversed g = true → activeCount s.world.orders g = 0
  decrementedReversed : ∀ g, s.decremented g = true → s.reversed g = true
  dutyDecrement : ∀ i g, s.duty i = .decrement g → s.reversed g = true ∧ s.decremented g = false
  dutyUnique : ∀ i j g, s.duty i = .decrement g → s.duty j = .decrement g → i = j
  toDecrement : ∀ g ∈ s.world.groups, g.coupon ≠ none → s.reversed g.checkoutGroupId = true →
    s.decremented g.checkoutGroupId = false → ∃ i, s.duty i = .decrement g.checkoutGroupId
  toReverse : ∀ g ∈ s.world.groups, g.coupon ≠ none →
    activeCount s.world.orders g.checkoutGroupId = 0 → s.reversed g.checkoutGroupId = false →
    Owed s g.checkoutGroupId

theorem Books.agrees {s : Shop} (h : Books s) : UsageAgrees s := by
  intro c hc hquiet
  rw [h.counted c hc]
  unfold uses liveGroups
  congr 1
  refine filter_congr (fun g hg => ?_)
  by_cases hcoupon : g.coupon = some c.id
  · simp only [hcoupon, true_and, decide_eq_decide]
    constructor
    · intro hnot
      by_contra hdead
      have hdead' : activeCount s.world.orders g.checkoutGroupId = 0 := by omega
      have hsome : g.coupon ≠ none := by
        rw [hcoupon]
        rintro ⟨⟩
      apply hquiet g hg hcoupon
      cases hreversed : s.reversed g.checkoutGroupId with
      | true =>
        obtain ⟨i, hi⟩ := h.toDecrement g hg hsome hreversed hnot
        exact .inl ⟨i, .inr hi⟩
      | false =>
        rcases h.toReverse g hg hsome hdead' hreversed with ⟨i, hi⟩ | howed
        · exact .inl ⟨i, .inl hi⟩
        · exact .inr howed
    · intro hlive
      by_contra hdec
      have hdead := h.reversedDead _ (h.decrementedReversed _ (by simpa using hdec))
      omega
  · simp [hcoupon]

/-! ### Groups and orders -/

section Lookup

variable {s : Shop}

theorem Books.couponOf_eq (h : Books s) {g : CheckoutGroup} (hg : g ∈ s.world.groups) :
    couponOf s g.checkoutGroupId = g.coupon := by
  unfold couponOf
  cases hfind : s.world.groups.find? (fun g' => decide (g'.checkoutGroupId = g.checkoutGroupId)) with
  | none =>
    have hne := find?_eq_none.mp hfind g hg
    simp at hne
  | some g' =>
    have hid : g'.checkoutGroupId = g.checkoutGroupId := by simpa using find?_some hfind
    have hg' := mem_of_find?_eq_some hfind
    rw [inj_on_of_nodup_map h.groupIds hg' hg hid]
    rfl

theorem Settled.reversed (h : Books s) {g : CheckoutGroup} (hg : g ∈ s.world.groups)
    (hcoupon : g.coupon ≠ none) (hsettled : Settled s g.checkoutGroupId)
    (hdead : activeCount s.world.orders g.checkoutGroupId = 0) :
    s.reversed g.checkoutGroupId = true := by
  rcases hsettled with hnone | hreversed | hlive
  · rw [h.couponOf_eq hg] at hnone
    exact absurd hnone hcoupon
  · exact hreversed
  · omega

theorem activeCount_eq_zero {orders : List Order} {group : ObjectId} :
    activeCount orders group = 0 ↔
      ∀ o ∈ orders, o.checkoutGroupId = group → isLive o = false := by
  unfold activeCount
  rw [length_eq_zero_iff, filter_eq_nil_iff]
  refine forall_congr' (fun o => forall_congr' (fun _ => ?_))
  rw [Bool.and_eq_true, decide_eq_true_eq, not_and, Bool.not_eq_true]

theorem activeCount_append (orders placed : List Order) (group : ObjectId) :
    activeCount (orders ++ placed) group = activeCount orders group + activeCount placed group := by
  unfold activeCount
  rw [filter_append, length_append]

end Lookup

/-! ### Changes of what is owed -/

section Duty

variable {s : Shop} {i : ℕ}

theorem setDuty_self (s : Shop) (i : ℕ) (duty : Duty) : (s.setDuty i duty).duty i = duty :=
  update_self _ _ _

theorem setDuty_ne (s : Shop) {i j : ℕ} (h : j ≠ i) (duty : Duty) :
    (s.setDuty i duty).duty j = s.duty j := update_of_ne h _ _

theorem duty_setDuty_eq_iff {duty d : Duty} {j : ℕ} :
    (s.setDuty i duty).duty j = d ↔ j = i ∧ duty = d ∨ j ≠ i ∧ s.duty j = d := by
  by_cases hij : j = i
  · subst hij
    simp [setDuty_self]
  · simp [setDuty_ne s hij, hij]

theorem flagged_iff {f : ObjectId → Bool} {a b : ObjectId} :
    update f a true b = true ↔ b = a ∨ f b = true := by
  by_cases hba : b = a
  · simp [hba]
  · simp [hba]

theorem unflagged_iff {f : ObjectId → Bool} {a b : ObjectId} :
    update f a true b = false ↔ b ≠ a ∧ f b = false := by
  rw [← Bool.not_eq_true, flagged_iff, not_or, Bool.not_eq_true]

variable {duty : Duty}

theorem setDuty_decrement_unique
    (h : ∀ j j' g, s.duty j = .decrement g → s.duty j' = .decrement g → j = j')
    (hfree : ∀ g, duty = .decrement g → ∀ j, s.duty j ≠ .decrement g) (j j' : ℕ) (g : ObjectId)
    (hj : (s.setDuty i duty).duty j = .decrement g)
    (hj' : (s.setDuty i duty).duty j' = .decrement g) : j = j' := by
  rw [duty_setDuty_eq_iff] at hj hj'
  rcases hj with ⟨hij, hd⟩ | ⟨_, hj⟩
  · rcases hj' with ⟨hij', _⟩ | ⟨_, hj'⟩
    · rw [hij, hij']
    · exact absurd hj' (hfree g hd j')
  · rcases hj' with ⟨_, hd⟩ | ⟨_, hj'⟩
    · exact absurd hj (hfree g hd j)
    · exact h j j' g hj hj'

theorem Owed.setDuty {group : ObjectId} (h : Owed s group)
    (hi : s.duty i = .compensate group → duty = .compensate group) :
    Owed (s.setDuty i duty) group := by
  rcases h with ⟨j, hj⟩ | hrecord
  · refine .inl ⟨j, duty_setDuty_eq_iff.mpr ?_⟩
    by_cases hij : j = i
    · exact .inl ⟨hij, hi (hij ▸ hj)⟩
    · exact .inr ⟨hij, hj⟩
  · exact .inr hrecord

/-- A task that does not have to decrement takes on something else, or gives up what there is no
need of. -/
theorem Books.setDuty (h : Books s) (hold : ∀ g, s.duty i ≠ .decrement g)
    (hnew : ∀ g, duty ≠ .decrement g)
    (hgive : ∀ g, s.duty i = .compensate g → duty = .compensate g ∨ Settled s g) :
    Books (s.setDuty i duty) where
  engine := h.engine
  couponIds := h.couponIds
  groupIds := h.groupIds
  orderIds := h.orderIds
  ordersOf := h.ordersOf
  counted := h.counted
  reversedKnown := h.reversedKnown
  reversedDead := h.reversedDead
  decrementedReversed := h.decrementedReversed
  dutyDecrement := by
    intro j g hj
    rcases duty_setDuty_eq_iff.mp hj with ⟨_, hd⟩ | ⟨_, hj⟩
    · exact absurd hd (hnew g)
    · exact h.dutyDecrement j g hj
  dutyUnique := setDuty_decrement_unique h.dutyUnique (fun g hd => absurd hd (hnew g))
  toDecrement := by
    intro g hg hcoupon hreversed hdec
    obtain ⟨j, hj⟩ := h.toDecrement g hg hcoupon hreversed hdec
    have hij : j ≠ i := by
      rintro rfl
      exact hold _ hj
    exact ⟨j, duty_setDuty_eq_iff.mpr (.inr ⟨hij, hj⟩)⟩
  toReverse := by
    intro g hg hcoupon hdead hreversed
    refine (h.toReverse g hg hcoupon hdead hreversed).setDuty (fun hi => ?_)
    rcases hgive _ hi with hsame | hsettled
    · exact hsame
    · have := hsettled.reversed h hg hcoupon hdead
      rw [show s.reversed g.checkoutGroupId = false from hreversed] at this
      cases this

theorem Books.owe (h : Books s) (orderId : ObjectId) (records : ObjectId → Option Processing) :
    Books { s with records, owed := update s.owed orderId true } :=
  { h with
    toReverse := by
      intro g hg hcoupon hdead hreversed
      rcases h.toReverse g hg hcoupon hdead hreversed with hduty | ⟨o, ho, hgroup, howed⟩
      · exact .inl hduty
      · refine .inr ⟨o, ho, hgroup, ?_⟩
        exact flagged_iff.mpr (.inr howed) }

theorem Books.disown (h : Books s) {orderId : ObjectId} (records : ObjectId → Option Processing)
    (hsettled : s.owed orderId = true → ∀ o ∈ s.world.orders, o.orderId = orderId →
      Settled s o.checkoutGroupId) :
    Books { s with records, owed := update s.owed orderId false } :=
  { h with
    toReverse := by
      intro g hg hcoupon hdead hreversed
      rcases h.toReverse g hg hcoupon hdead hreversed with hduty | ⟨o, ho, hgroup, howed⟩
      · exact .inl hduty
      · refine .inr ⟨o, ho, hgroup, ?_⟩
        dsimp only
        by_cases hid : o.orderId = orderId
        · have hrev := (hgroup ▸ hsettled (hid ▸ howed) o ho hid :
            Settled s g.checkoutGroupId).reversed h hg hcoupon hdead
          rw [show s.reversed g.checkoutGroupId = false from hreversed] at hrev
          cases hrev
        · rw [update_of_ne hid]
          exact howed }

theorem Books.setRecords (h : Books s) (records : ObjectId → Option Processing) :
    Books { s with records } := { h with }

end Duty

/-! ### Changes of the orders -/

section Orders

variable {s : Shop} {f : Order → Order}

/-- A change of the orders keeps what they are and revives none. -/
structure KeepsOrders (f : Order → Order) : Prop where
  orderId : ∀ o, (f o).orderId = o.orderId
  group : ∀ o, (f o).checkoutGroupId = o.checkoutGroupId
  coupon : ∀ o, (f o).coupon = o.coupon
  live : ∀ o, isLive (f o) = true → isLive o = true

theorem KeepsOrders.dead (hf : KeepsOrders f) {orders : List Order} {group : ObjectId}
    (hdead : activeCount orders group = 0) : activeCount (orders.map f) group = 0 := by
  rw [activeCount_eq_zero] at hdead ⊢
  intro o' ho' hgroup
  obtain ⟨o, ho, rfl⟩ := mem_map.mp ho'
  cases hlive : isLive (f o) with
  | false => rfl
  | true =>
    have hdead' := hdead o ho ((hf.group o).symm.trans hgroup)
    rw [hf.live o hlive] at hdead'
    cases hdead'

theorem Owed.mapOrders (hf : KeepsOrders f) {group : ObjectId} (h : Owed s group) :
    Owed (s.withOrders (s.world.orders.map f)) group := by
  rcases h with hduty | ⟨o, ho, hgroup, howed⟩
  · exact .inl hduty
  · refine .inr ⟨f o, mem_map_of_mem ho, (hf.group o).trans hgroup, ?_⟩
    rw [hf.orderId]
    exact howed

theorem Books.mapOrders (h : Books s) (hf : KeepsOrders f)
    (howed : ∀ o ∈ s.world.orders, isLive o = true → isLive (f o) = false →
      Owed s o.checkoutGroupId ∨
        Settled (s.withOrders (s.world.orders.map f)) o.checkoutGroupId) :
    Books (s.withOrders (s.world.orders.map f)) where
  engine := h.engine
  couponIds := h.couponIds
  groupIds := h.groupIds
  orderIds := by
    change ((s.world.orders.map f).map Order.orderId).Nodup
    rw [map_map, show Order.orderId ∘ f = Order.orderId from funext hf.orderId]
    exact h.orderIds
  ordersOf := by
    intro o' ho'
    obtain ⟨o, ho, rfl⟩ := mem_map.mp ho'
    obtain ⟨g, hg, hid, hcoupon⟩ := h.ordersOf o ho
    exact ⟨g, hg, hid.trans (hf.group o).symm, hcoupon.trans (hf.coupon o).symm⟩
  counted := h.counted
  reversedKnown := h.reversedKnown
  reversedDead := fun g hg => hf.dead (h.reversedDead g hg)
  decrementedReversed := h.decrementedReversed
  dutyDecrement := h.dutyDecrement
  dutyUnique := h.dutyUnique
  toDecrement := h.toDecrement
  toReverse := by
    intro g hg hcoupon hdead hreversed
    by_cases hbefore : activeCount s.world.orders g.checkoutGroupId = 0
    · exact (h.toReverse g hg hcoupon hbefore hreversed).mapOrders hf
    · -- some order of the group was live and is not any more
      obtain ⟨o, ho, hgroup, hlive⟩ : ∃ o ∈ s.world.orders, o.checkoutGroupId = g.checkoutGroupId ∧
          isLive o = true := by
        by_contra hnone
        refine hbefore (activeCount_eq_zero.mpr (fun o ho hgroup => ?_))
        by_contra hlive
        exact hnone ⟨o, ho, hgroup, by simpa using hlive⟩
      have hgone : isLive (f o) = false :=
        activeCount_eq_zero.mp hdead (f o) (mem_map_of_mem ho) ((hf.group o).trans hgroup)
      rcases howed o ho hlive hgone with howes | hsettled
      · rw [hgroup] at howes
        exact howes.mapOrders hf
      · rw [hgroup] at hsettled
        rcases hsettled with hnone | hrev | hpos
        · rw [show couponOf (s.withOrders (s.world.orders.map f)) g.checkoutGroupId = g.coupon from
            h.couponOf_eq hg] at hnone
          exact absurd hnone hcoupon
        · rw [hreversed] at hrev
          cases hrev
        · rw [show activeCount (s.withOrders (s.world.orders.map f)).world.orders g.checkoutGroupId
            = 0 from hdead] at hpos
          cases hpos

/-- The change that a cancellation makes. -/
theorem keepsOrders_cancel (orderIds : List ObjectId) (filter : WorkflowStatus → Bool) :
    KeepsOrders (fun o =>
      if o.orderId ∈ orderIds ∧ isLive o = true ∧ filter o.workflowStatus = true then
        { o with workflowStatus := .cancelled }
      else o) := by
  refine ⟨fun o => ?_, fun o => ?_, fun o => ?_, fun o h => ?_⟩
  · split <;> rfl
  · split <;> rfl
  · split <;> rfl
  · split at h
    · cases h
    · exact h

theorem keepsOrders_advance (orderId : ObjectId) (status : WorkflowStatus) :
    KeepsOrders (fun o =>
      if o.orderId = orderId ∧ isLive o = true then { o with workflowStatus := status } else o) := by
  refine ⟨fun o => ?_, fun o => ?_, fun o => ?_, fun o h => ?_⟩
  · split <;> rfl
  · split <;> rfl
  · split <;> rfl
  · split at h
    next hcond => exact hcond.2
    next => exact h

theorem Books.cancel (h : Books s) {orderIds : List ObjectId} {filter : WorkflowStatus → Bool}
    (howed : ∀ o ∈ s.world.orders, o.orderId ∈ orderIds → isLive o = true →
      filter o.workflowStatus = true → Owed s o.checkoutGroupId ∨
        Settled (s.withOrders (cancelOrders s.world.orders orderIds filter)) o.checkoutGroupId) :
    Books (s.withOrders (cancelOrders s.world.orders orderIds filter)) := by
  refine h.mapOrders (keepsOrders_cancel orderIds filter) (fun o ho hlive hgone => ?_)
  split at hgone
  next hcond => exact howed o ho hcond.1 hlive hcond.2.2
  next =>
    rw [hlive] at hgone
    cases hgone

theorem Books.advance (h : Books s) {orderId : ObjectId} {status : WorkflowStatus}
    (hstatus : status ≠ .cancelled) :
    Books (s.withOrders (s.world.orders.map (fun o =>
      if o.orderId = orderId ∧ isLive o = true then { o with workflowStatus := status } else o))) := by
  refine h.mapOrders (keepsOrders_advance orderId status) (fun o ho hlive hgone => ?_)
  split at hgone
  · unfold isLive at hgone
    simp [hstatus] at hgone
  · rw [hlive] at hgone
    cases hgone

end Orders

/-! ### A placement, a lock and a decrement -/

theorem incrementCouponUsage_ids (store : CouponStore) (couponId : Option ObjectId) :
    (incrementCouponUsage store couponId).coupons.map Coupon.id = store.coupons.map Coupon.id := by
  unfold incrementCouponUsage use
  rw [map_map]
  refine map_congr_left (fun c _ => ?_)
  dsimp only [comp]
  split
  · split <;> rfl
  · rfl

theorem decrementCouponUsage_ids (store : CouponStore) (couponId : ObjectId) :
    (decrementCouponUsage store couponId).coupons.map Coupon.id = store.coupons.map Coupon.id := by
  unfold decrementCouponUsage
  rw [map_map]
  refine map_congr_left (fun c _ => ?_)
  dsimp only [comp]
  split <;> rfl

section Writes

variable {s : Shop} {i : ℕ}

theorem Books.place (h : Books s) {w : World} {placed : Placed} (hcounted : Counted s.world w placed)
    (hfresh : idsFresh s.world placed = true) : Books { s with world := w } := by
  obtain ⟨hgroup, horders⟩ := of_decide_eq_true hfresh
  have hnot : ∀ p : ObjectId → Bool, (∀ g, p g = true → s.reversed g = true) →
      p placed.checkoutGroup.checkoutGroupId = false := by
    intro p hp
    cases hpg : p placed.checkoutGroup.checkoutGroupId with
    | false => rfl
    | true => exact absurd (h.reversedKnown _ (hp _ hpg)) hgroup
  have holdGroup : ∀ g ∈ s.world.groups, activeCount w.orders g.checkoutGroupId
      = activeCount s.world.orders g.checkoutGroupId := by
    intro g hg
    rw [hcounted.orders, activeCount_append, add_eq_left, activeCount_eq_zero]
    intro o ho hid
    rw [(hcounted.own o ho).1] at hid
    exact absurd (hid ▸ mem_map_of_mem hg) hgroup
  have huses : ∀ c, uses { s with world := w } c
      = uses s c + (if placed.checkoutGroup.coupon = some c then 1 else 0) := by
    intro c
    unfold uses
    dsimp only
    rw [hcounted.groups, filter_append, length_append]
    congr 1
    rw [filter_singleton]
    by_cases hcoupon : placed.checkoutGroup.coupon = some c
    · simp [hcoupon, hnot s.decremented h.decrementedReversed]
    · simp [hcoupon]
  refine
    { engine := ?_, couponIds := ?_, groupIds := ?_, orderIds := ?_, ordersOf := ?_, counted := ?_
      reversedKnown := ?_, reversedDead := ?_, decrementedReversed := h.decrementedReversed
      dutyDecrement := h.dutyDecrement, dutyUnique := h.dutyUnique, toDecrement := ?_
      toReverse := ?_ }
  · dsimp only
    rw [hcounted.flags]
    exact h.engine
  · dsimp only
    rw [hcounted.coupons, incrementCouponUsage_ids]
    exact h.couponIds
  · dsimp only
    rw [hcounted.groups, map_append, map_singleton]
    exact h.groupIds.append (nodup_singleton _) (disjoint_singleton.mpr hgroup)
  · dsimp only
    rw [hcounted.orders, map_append]
    exact horders
  · intro o ho
    dsimp only at ho ⊢
    rw [hcounted.orders] at ho
    rw [hcounted.groups]
    rcases mem_append.mp ho with hold | hnew
    · obtain ⟨g, hg, hid⟩ := h.ordersOf o hold
      exact ⟨g, mem_append_left _ hg, hid⟩
    · obtain ⟨hid, hcoupon, -⟩ := hcounted.own o hnew
      exact ⟨_, mem_append_right _ (mem_singleton_self _), hid.symm, hcoupon.symm⟩
  · intro c' hc'
    dsimp only at hc'
    rw [hcounted.coupons] at hc'
    obtain ⟨c, hc, rfl⟩ := mem_map.mp hc'
    rw [huses]
    by_cases hid : some c.id = placed.checkoutGroup.coupon
    · obtain ⟨c₀, hc₀, hid₀, husable⟩ := hcounted.usable c.id hid.symm
      have hsame : c₀ = c := inj_on_of_nodup_map h.couponIds hc₀ hc hid₀
      subst hsame
      unfold use
      rw [if_pos hid, husable]
      rw [if_neg (by decide), if_pos hid.symm]
      dsimp only
      rw [h.counted _ hc]
    · rw [if_neg hid, if_neg (Ne.symm hid), add_zero]
      exact h.counted c hc
  · intro g hg
    dsimp only
    rw [hcounted.groups, map_append]
    exact mem_append_left _ (h.reversedKnown g hg)
  · intro g hg
    obtain ⟨g₀, hg₀, rfl⟩ := mem_map.mp (h.reversedKnown g hg)
    exact (holdGroup g₀ hg₀).trans (h.reversedDead _ hg)
  · intro g hg hcoupon hreversed hdec
    dsimp only at hg
    rw [hcounted.groups] at hg
    rcases mem_append.mp hg with hold | hnew
    · exact h.toDecrement g hold hcoupon hreversed hdec
    · cases mem_singleton.mp hnew
      rw [show s.reversed _ = false from hnot s.reversed (fun _ h => h)] at hreversed
      cases hreversed
  · intro g hg hcoupon hdead hreversed
    dsimp only at hg hdead
    rw [hcounted.groups] at hg
    rcases mem_append.mp hg with hold | hnew
    · rw [holdGroup g hold] at hdead
      rcases h.toReverse g hold hcoupon hdead hreversed with hduty | ⟨o, ho, hid, howed⟩
      · exact .inl hduty
      · refine .inr ⟨o, ?_, hid, howed⟩
        dsimp only
        rw [hcounted.orders]
        exact mem_append_left _ ho
    · cases mem_singleton.mp hnew
      obtain ⟨o, ho⟩ := exists_mem_of_ne_nil _ hcounted.nonempty
      obtain ⟨hid, -, hlive⟩ := hcounted.own o ho
      rw [hcounted.orders] at hdead
      rw [activeCount_eq_zero.mp hdead o (mem_append_right _ ho) hid] at hlive
      cases hlive

theorem Books.lock (h : Books s) {g : CheckoutGroup} (hg : g ∈ s.world.groups) {orderId : ObjectId}
    (horder : ∀ o ∈ s.world.orders, o.orderId = orderId → o.checkoutGroupId = g.checkoutGroupId)
    (hduty : ∀ g', s.duty i = .decrement g' → False)
    (hown : ∀ g', s.duty i = .compensate g' → g' = g.checkoutGroupId)
    (hdead : activeCount s.world.orders g.checkoutGroupId = 0)
    (hnot : s.reversed g.checkoutGroupId = false) :
    Books { s.setDuty i (if g.coupon.isSome then .decrement g.checkoutGroupId else .none) with
      reversed := update s.reversed g.checkoutGroupId true
      owed := update s.owed orderId false } where
  engine := h.engine
  couponIds := h.couponIds
  groupIds := h.groupIds
  orderIds := h.orderIds
  ordersOf := h.ordersOf
  counted := h.counted
  reversedKnown := by
    intro g' hg'
    rcases flagged_iff.mp hg' with hid | hg'
    · rw [hid]
      exact mem_map_of_mem hg
    · exact h.reversedKnown g' hg'
  reversedDead := by
    intro g' hg'
    rcases flagged_iff.mp hg' with hid | hg'
    · rw [hid]
      exact hdead
    · exact h.reversedDead g' hg'
  decrementedReversed := fun g' hg' => flagged_iff.mpr (.inr (h.decrementedReversed g' hg'))
  dutyDecrement := by
    intro j g' hj
    rcases duty_setDuty_eq_iff.mp hj with ⟨_, hd⟩ | ⟨_, hj⟩
    · split at hd
      · cases hd
        refine ⟨flagged_iff.mpr (.inl rfl), ?_⟩
        change s.decremented g.checkoutGroupId = false
        by_contra hdec
        have hreversed := h.decrementedReversed _ (by simpa using hdec)
        rw [hnot] at hreversed
        cases hreversed
      · cases hd
    · obtain ⟨hreversed, hdec⟩ := h.dutyDecrement j g' hj
      exact ⟨flagged_iff.mpr (.inr hreversed), hdec⟩
  dutyUnique := by
    refine setDuty_decrement_unique h.dutyUnique (fun g' hd j hj => ?_)
    split at hd
    · -- nobody had the decrement of a group that was not reversed
      cases hd
      have hreversed := (h.dutyDecrement j _ hj).1
      rw [hnot] at hreversed
      cases hreversed
    · cases hd
  toDecrement := by
    intro g' hg' hcoupon hreversed hdec
    rcases flagged_iff.mp hreversed with hid | hreversed
    · have hsame : g' = g := inj_on_of_nodup_map h.groupIds hg' hg hid
      subst hsame
      refine ⟨i, duty_setDuty_eq_iff.mpr (.inl ⟨rfl, ?_⟩)⟩
      rw [if_pos (Option.isSome_iff_ne_none.mpr hcoupon)]
    · obtain ⟨j, hj⟩ := h.toDecrement g' hg' hcoupon hreversed hdec
      have hij : j ≠ i := fun hij => hduty _ (hij ▸ hj)
      exact ⟨j, duty_setDuty_eq_iff.mpr (.inr ⟨hij, hj⟩)⟩
  toReverse := by
    intro g' hg' hcoupon hdead' hreversed
    obtain ⟨hid, hreversed⟩ := unflagged_iff.mp hreversed
    rcases h.toReverse g' hg' hcoupon hdead' hreversed with ⟨j, hj⟩ | ⟨o, ho, hgroup, howed⟩
    · have hij : j ≠ i := fun hij => hid (hown _ (hij ▸ hj))
      exact .inl ⟨j, duty_setDuty_eq_iff.mpr (.inr ⟨hij, hj⟩)⟩
    · refine .inr ⟨o, ho, hgroup, ?_⟩
      dsimp only
      rw [update_of_ne (fun heq => hid (hgroup.symm.trans (horder o ho heq)))]
      exact howed

theorem length_filter_one {α β : Type*} [DecidableEq β] (key : α → β) (p : α → Bool) {l : List α}
    (hl : (l.map key).Nodup) {a : α} (ha : a ∈ l) (hp : p a = true) :
    (l.filter p).length = (l.filter (fun x => p x && decide (key x ≠ key a))).length + 1 := by
  induction l with
  | nil => cases ha
  | cons x xs ih =>
    rw [map_cons, nodup_cons] at hl
    rcases mem_cons.mp ha with rfl | hmem
    · have hrest : xs.filter (fun x => p x && decide (key x ≠ key a)) = xs.filter p := by
        refine filter_congr (fun y hy => ?_)
        have hne : key y ≠ key a := fun heq => hl.1 (heq ▸ mem_map_of_mem hy)
        simp [hne]
      rw [filter_cons_of_pos hp, filter_cons_of_neg (by simp), hrest,
        length_cons]
    · have hne : key x ≠ key a := fun heq => hl.1 (heq ▸ mem_map_of_mem hmem)
      cases hpx : p x with
      | true =>
        rw [filter_cons_of_pos hpx, filter_cons_of_pos (by simp [hpx, hne]),
          length_cons, length_cons, ih hl.2 hmem]
      | false =>
        rw [filter_cons_of_neg (by simp [hpx]), filter_cons_of_neg (by simp [hpx]),
          ih hl.2 hmem]

theorem Books.decrement (h : Books s) {g : CheckoutGroup} (hg : g ∈ s.world.groups)
    {couponId : ObjectId} (hcoupon : g.coupon = some couponId)
    (hduty : s.duty i = .decrement g.checkoutGroupId) :
    Books { (s.withCoupons (decrementCouponUsage s.world.store.coupons couponId)).setDuty i .none with
      decremented := update s.decremented g.checkoutGroupId true } where
  engine := h.engine
  couponIds := by
    change ((decrementCouponUsage s.world.store.coupons couponId).coupons.map Coupon.id).Nodup
    rw [decrementCouponUsage_ids]
    exact h.couponIds
  groupIds := h.groupIds
  orderIds := h.orderIds
  ordersOf := h.ordersOf
  counted := by
    intro c' hc'
    obtain ⟨c, hc, rfl⟩ := mem_map.mp hc'
    by_cases hid : c.id = couponId
    · rw [if_pos hid]
      have hone := length_filter_one CheckoutGroup.checkoutGroupId (fun g' =>
        decide (g'.coupon = some c.id ∧ s.decremented g'.checkoutGroupId = false)) h.groupIds hg
        (by rw [hid]; simp [hcoupon, (h.dutyDecrement i _ hduty).2])
      dsimp only
      rw [h.counted c hc, uses, hone, Nat.add_sub_cancel, uses]
      congr 1
      refine filter_congr (fun g' _ => ?_)
      by_cases hsame : g'.checkoutGroupId = g.checkoutGroupId
      · simp [hsame]
      · simp [hsame]
    · rw [if_neg hid, h.counted c hc]
      unfold uses
      congr 1
      refine filter_congr (fun g' hg' => ?_)
      by_cases hsame : g'.checkoutGroupId = g.checkoutGroupId
      · have heq : g' = g := inj_on_of_nodup_map h.groupIds hg' hg hsame
        rw [heq, hcoupon]
        simp [Ne.symm hid]
      · simp [hsame]
  reversedKnown := h.reversedKnown
  reversedDead := h.reversedDead
  decrementedReversed := by
    intro g' hg'
    rcases flagged_iff.mp hg' with hid | hg'
    · rw [hid]
      exact (h.dutyDecrement i _ hduty).1
    · exact h.decrementedReversed g' hg'
  dutyDecrement := by
    intro j g' hj
    rcases duty_setDuty_eq_iff.mp hj with ⟨_, hd⟩ | ⟨hij, hj⟩
    · cases hd
    · have hid : g' ≠ g.checkoutGroupId := by
        rintro rfl
        exact hij (h.dutyUnique j i _ hj hduty)
      obtain ⟨hreversed, hdec⟩ := h.dutyDecrement j g' hj
      exact ⟨hreversed, unflagged_iff.mpr ⟨hid, hdec⟩⟩
  dutyUnique := setDuty_decrement_unique h.dutyUnique (by rintro g' ⟨⟩)
  toDecrement := by
    intro g' hg' hcoupon' hreversed hdec
    obtain ⟨hid, hdec⟩ := unflagged_iff.mp hdec
    obtain ⟨j, hj⟩ := h.toDecrement g' hg' hcoupon' hreversed hdec
    have hij : j ≠ i := by
      rintro rfl
      rw [hduty] at hj
      exact hid (Duty.decrement.inj hj).symm
    exact ⟨j, duty_setDuty_eq_iff.mpr (.inr ⟨hij, hj⟩)⟩
  toReverse := by
    intro g' hg' hcoupon' hdead hreversed
    have howed : Owed s g'.checkoutGroupId := h.toReverse g' hg' hcoupon' hdead hreversed
    have hset : Owed (s.setDuty i .none) g'.checkoutGroupId := by
      refine howed.setDuty (fun hi => ?_)
      rw [hduty] at hi
      cases hi
    exact hset

end Writes

/-! ## One operation -/

/-- What task `j` may assume of the others. -/
structure Rely (j : ℕ) (s s' : Shop) : Prop where
  duty : s'.duty j = s.duty j
  groups : ∀ g ∈ s.world.groups, g ∈ s'.world.groups
  orders : ∀ o ∈ s.world.orders, ∃ o' ∈ s'.world.orders, o'.orderId = o.orderId ∧
    o'.checkoutGroupId = o.checkoutGroupId
  dead : ∀ g ∈ s.world.groups, activeCount s.world.orders g.checkoutGroupId = 0 →
    activeCount s'.world.orders g.checkoutGroupId = 0

section Rely

variable {j : ℕ} {s s' s'' : Shop}

theorem Rely.refl : Rely j s s :=
  ⟨rfl, fun _ h => h, fun o ho => ⟨o, ho, rfl, rfl⟩, fun _ _ h => h⟩

theorem Rely.trans (h : Rely j s s') (h' : Rely j s' s'') : Rely j s s'' where
  duty := h'.duty.trans h.duty
  groups := fun g hg => h'.groups g (h.groups g hg)
  orders := by
    intro o ho
    obtain ⟨o', ho', hid, hgroup⟩ := h.orders o ho
    obtain ⟨o'', ho'', hid', hgroup'⟩ := h'.orders o' ho'
    exact ⟨o'', ho'', hid'.trans hid, hgroup'.trans hgroup⟩
  dead := fun g hg hdead => h'.dead g (h.groups g hg) (h.dead g hg hdead)

theorem Rely.ofDuty (hworld : s'.world = s.world) (hduty : s'.duty j = s.duty j) : Rely j s s' := by
  refine ⟨hduty, ?_, ?_, ?_⟩
  · rw [hworld]
    exact fun _ h => h
  · rw [hworld]
    exact fun o ho => ⟨o, ho, rfl, rfl⟩
  · rw [hworld]
    exact fun _ _ h => h

theorem Rely.ofCoupons (hgroups : s'.world.groups = s.world.groups)
    (horders : s'.world.orders = s.world.orders) (hduty : s'.duty j = s.duty j) : Rely j s s' := by
  refine ⟨hduty, ?_, ?_, ?_⟩
  · rw [hgroups]
    exact fun _ h => h
  · rw [horders]
    exact fun o ho => ⟨o, ho, rfl, rfl⟩
  · rw [horders]
    exact fun _ _ h => h

theorem Rely.ofOrders {f : Order → Order} (hf : KeepsOrders f) (hgroups : s'.world.groups = s.world.groups)
    (horders : s'.world.orders = s.world.orders.map f) (hduty : s'.duty j = s.duty j) :
    Rely j s s' := by
  refine ⟨hduty, ?_, ?_, ?_⟩
  · rw [hgroups]
    exact fun _ h => h
  · rw [horders]
    exact fun o ho => ⟨f o, mem_map_of_mem ho, hf.orderId o, hf.group o⟩
  · rw [horders]
    exact fun _ _ hdead => hf.dead hdead

theorem Rely.ofPlace {w : World} {placed : Placed} (hcounted : Counted s.world w placed)
    (hfresh : idsFresh s.world placed = true) : Rely j s { s with world := w } := by
  obtain ⟨hgroup, -⟩ := of_decide_eq_true hfresh
  refine ⟨rfl, ?_, ?_, ?_⟩
  · dsimp only
    rw [hcounted.groups]
    exact fun _ h => mem_append_left _ h
  · dsimp only
    rw [hcounted.orders]
    exact fun o ho => ⟨o, mem_append_left _ ho, rfl, rfl⟩
  · intro g hg hdead
    dsimp only
    rw [hcounted.orders, activeCount_append, hdead, zero_add, activeCount_eq_zero]
    intro o ho hid
    rw [(hcounted.own o ho).1] at hid
    exact absurd (hid ▸ mem_map_of_mem hg) hgroup

end Rely

/-- The operations as a contract: the books, what a task assumes of the others, and the
condition. -/
def reversalContract : Contract reversalSystem where
  inv := Books
  rely := Rely
  idle := fun i s => s.duty i = .none
  may := ReversalKept

/-- Task `i` may fail here: it has no decrement to do, and what it would reverse is settled. -/
def CanGiveUp (i : ℕ) (s : Shop) : Prop :=
  (∀ g, s.duty i ≠ .decrement g) ∧ ∀ g, s.duty i = .compensate g → Settled s g

section Operation

variable {i : ℕ} {kind : Kind} {s t t' : Shop}

theorem canGiveUp_of_none (h : s.duty i = .none) : CanGiveUp i s := by
  refine ⟨fun g hg => ?_, fun g hg => ?_⟩
  · rw [h] at hg
    cases hg
  · rw [h] at hg
    cases hg

theorem canGiveUp_of_settled (h : ∀ g, s.duty i ≠ .decrement g) (hsettled : DutySettled s i) :
    CanGiveUp i s := by
  refine ⟨h, fun g hg => ?_⟩
  unfold DutySettled at hsettled
  rw [hg] at hsettled
  exact hsettled

theorem CanGiveUp.books (h : CanGiveUp i s) (hbooks : Books s) : Books (s.setDuty i .none) :=
  hbooks.setDuty h.1 (by rintro g ⟨⟩) (fun g hg => .inr (h.2 g hg))

variable {Q : kind.Reply → Shop → Prop}

/-- An operation of a task: what its effect keeps, and that the task may fail where it may. -/
theorem sound_op
    (heffect : ∀ t r t' outcome, Rely i s t → Books t → ReversalKept i kind outcome t →
      outcome.takesEffect = true → effect i kind t = some (r, t') →
      Books t' ∧ (∀ j, j ≠ i → Rely j t t') ∧
        (outcome = .done → (∀ a, r = .ok a → Q a t') ∧ ∀ e, r = .error e → t'.duty i = .none) ∧
        (∀ e, outcome = .lost e → CanGiveUp i t'))
    (hrefused : ∀ t e, Rely i s t → ReversalKept i kind (.refused e) t → CanGiveUp i t) :
    reversalContract.Sound i Q (fun _ t => t.duty i = .none) (perform kind) s := by
  refine Sound.perform (fun t hrely hbooks outcome hmay r t' hstep => ?_)
  cases outcome with
  | done =>
    obtain ⟨hbooks', hother, hdone, -⟩ := heffect t r t' .done hrely hbooks hmay rfl hstep
    exact ⟨hbooks', hother, hdone rfl⟩
  | refused e =>
    obtain ⟨rfl, rfl⟩ := Prod.mk.inj (Option.some.inj hstep)
    refine ⟨(hrefused t e hrely hmay).books hbooks, fun j hj => Rely.ofDuty rfl ?_, ?_, ?_⟩
    · exact setDuty_ne t hj _
    · rintro a ⟨⟩
    · exact fun _ _ => setDuty_self t i _
  | lost e =>
    obtain ⟨⟨r₁, t₁⟩, hstep₁, heq⟩ := Option.map_eq_some_iff.mp hstep
    obtain ⟨rfl, rfl⟩ := Prod.mk.inj heq
    obtain ⟨hbooks', hother, -, hlost⟩ := heffect t r₁ t₁ (.lost e) hrely hbooks hmay rfl hstep₁
    refine ⟨(hlost e rfl).books hbooks', fun j hj => ?_, ?_, ?_⟩
    · exact (hother j hj).trans (Rely.ofDuty rfl (setDuty_ne t₁ hj _))
    · rintro a ⟨⟩
    · exact fun _ _ => setDuty_self t₁ i _

/-- An operation of a task that owes nothing, and still owes nothing after it. -/
theorem sound_free (hs : s.duty i = .none)
    (heffect : ∀ t r t' outcome, Books t → ReversalKept i kind outcome t →
      outcome.takesEffect = true → effect i kind t = some (r, t') →
      Books t' ∧ (∀ j, Rely j t t') ∧ ∀ a, r = .ok a → t'.duty i = .none → Q a t') :
    reversalContract.Sound i Q (fun _ t => t.duty i = .none) (perform kind) s := by
  refine sound_op (fun t r t' outcome hrely hbooks hmay htakes hstep => ?_)
    (fun t e hrely _ => canGiveUp_of_none (hrely.duty.trans hs))
  obtain ⟨hbooks', hall, hQ⟩ := heffect t r t' outcome hbooks hmay htakes hstep
  have hduty : t'.duty i = .none := (hall i).duty.trans (hrely.duty.trans hs)
  exact ⟨hbooks', fun j _ => hall j, fun _ => ⟨fun a ha => hQ a ha hduty, fun _ _ => hduty⟩,
    fun _ _ => canGiveUp_of_none hduty⟩

end Operation

/-! ## The operations of the paths -/

section Paths

variable {i : ℕ} {s : Shop}

theorem place_sound (hs : s.duty i = .none) (r : Request) :
    reversalContract.Leaving i (fun t => t.duty i = .none) (perform (Kind.place r)) s := by
  refine sound_free hs (fun t r' t' outcome hbooks _ _ hstep => ?_)
  unfold effect at hstep
  dsimp only at hstep
  split at hstep
  · cases hstep
    exact ⟨hbooks, fun _ => Rely.refl, fun _ _ h => h⟩
  next w placed hplace =>
    split at hstep
    next hfresh =>
      cases hstep
      have hcounted := placeOrder_counted hbooks.engine hplace
      exact ⟨hbooks.place hcounted hfresh, fun _ => Rely.ofPlace hcounted hfresh, fun _ _ h => h⟩
    next => cases hstep

theorem failPayment_sound (hs : s.duty i = .none) (orderIds : List ObjectId) :
    reversalContract.Leaving i (fun t => t.duty i = .none)
      (perform (Kind.failPayment orderIds)) s := by
  refine sound_free hs (fun t r' t' outcome hbooks hmay htakes hstep => ?_)
  cases hstep
  have hsettled := hmay htakes
  exact ⟨hbooks.cancel (fun o ho hid hlive hstatus => .inr (hsettled o ho hid hlive hstatus)),
    fun _ => Rely.ofOrders
      (keepsOrders_cancel orderIds (fun status => decide (status = .created))) rfl rfl rfl,
    fun _ _ h => h⟩

theorem recordExternal_sound (hs : s.duty i = .none) (orderId : ObjectId) :
    reversalContract.Leaving i (fun t => t.duty i = .none)
      (perform (Kind.recordExternal orderId)) s := by
  refine sound_free hs (fun t r' t' outcome hbooks _ _ hstep => ?_)
  cases hstep
  exact ⟨hbooks.setRecords _, fun _ => Rely.ofDuty rfl rfl, fun _ _ h => h⟩

theorem saveSteps_sound (hs : s.duty i = .none) (orderId : ObjectId) (compensation : Bool) :
    reversalContract.Leaving i (fun t => t.duty i = .none)
      (perform (Kind.saveSteps orderId compensation)) s := by
  refine sound_free hs (fun t r' t' outcome hbooks _ _ hstep => ?_)
  cases hstep
  exact ⟨hbooks.setRecords _, fun _ => Rely.ofDuty rfl rfl, fun _ _ h => h⟩

theorem saveState_sound (hs : s.duty i = .none) (orderId : ObjectId) (pending : Bool) :
    reversalContract.Leaving i (fun t => t.duty i = .none)
      (perform (Kind.saveState orderId pending)) s := by
  refine sound_free hs (fun t r' t' outcome hbooks hmay htakes hstep => ?_)
  cases hstep
  refine ⟨?_, fun _ => Rely.ofDuty rfl rfl, fun _ _ h => h⟩
  cases pending with
  | true => exact hbooks.setRecords _
  | false => exact hbooks.disown _ (hmay htakes rfl)

theorem updateGroup_sound (hs : s.duty i = .none) (existing : Order) :
    reversalContract.Leaving i (fun t => t.duty i = .none)
      (perform (Kind.updateGroup existing)) s := by
  refine sound_free hs (fun t r' t' outcome hbooks _ _ hstep => ?_)
  cases hstep
  exact ⟨hbooks, fun _ => Rely.refl, fun _ _ h => h⟩

theorem cancelDirectly_sound (hs : s.duty i = .none) (orderId : ObjectId)
    (filter : WorkflowStatus → Bool) :
    reversalContract.Leaving i (fun t => t.duty i = .none)
      (perform (Kind.cancelDirectly orderId filter)) s := by
  refine sound_free hs (fun t r' t' outcome hbooks _ _ hstep => ?_)
  unfold effect at hstep
  dsimp only at hstep
  split at hstep
  · cases hstep
    exact ⟨hbooks, fun _ => Rely.refl, fun _ _ h => h⟩
  · split at hstep
    · cases hstep
      refine ⟨?_, fun _ => Rely.ofOrders (keepsOrders_cancel [orderId] filter) rfl rfl rfl,
        fun _ _ h => h⟩
      -- the record owes the reversal from the cancellation on
      refine (hbooks.owe orderId _).cancel (fun o ho hid _ _ => .inl (.inr ⟨o, ho, rfl, ?_⟩))
      dsimp only
      rw [mem_singleton.mp hid, update_self]
    · cases hstep
      exact ⟨hbooks, fun _ => Rely.refl, fun _ _ h => h⟩

/-- The order that task `i` compensates for: it owes at most the reversal of its group. -/
def Serving (i : ℕ) (orderId group : ObjectId) (s : Shop) : Prop :=
  (s.duty i = .none ∨ s.duty i = .compensate group) ∧
    ∃ o ∈ s.world.orders, o.orderId = orderId ∧ o.checkoutGroupId = group

variable {orderId group : ObjectId}

theorem Serving.rely {t : Shop} (h : Serving i orderId group s) (hrely : Rely i s t) :
    Serving i orderId group t := by
  obtain ⟨hduty, o, ho, hid, hgroup⟩ := h
  obtain ⟨o', ho', hid', hgroup'⟩ := hrely.orders o ho
  rw [← hrely.duty] at hduty
  exact ⟨hduty, o', ho', hid'.trans hid, hgroup'.trans hgroup⟩

theorem Serving.free (h : Serving i orderId group s) :
    ∀ g, s.duty i ≠ .decrement g := by
  intro g hg
  rcases h.1 with hnone | hcompensate
  · rw [hnone] at hg
    cases hg
  · rw [hcompensate] at hg
    cases hg

theorem cancel_sound (hs : s.duty i = .none) (orderId : ObjectId) (filter : WorkflowStatus → Bool) :
    reversalContract.Sound i
      (fun found t => match found with
        | none => t.duty i = .none
        | some o => Serving i o.orderId o.checkoutGroupId t)
      (fun _ t => t.duty i = .none) (perform (Kind.cancel orderId filter)) s := by
  refine sound_op (fun t r t' outcome hrely hbooks hmay htakes hstep => ?_)
    (fun t e hrely _ => canGiveUp_of_none (hrely.duty.trans hs))
  have hfree : t.duty i = .none := hrely.duty.trans hs
  have hsame : Books t ∧ (∀ j, j ≠ i → Rely j t t) ∧ CanGiveUp i t :=
    ⟨hbooks, fun _ _ => Rely.refl, canGiveUp_of_none hfree⟩
  unfold effect at hstep
  dsimp only at hstep
  split at hstep
  · cases hstep
    exact ⟨hsame.1, hsame.2.1, fun _ => ⟨by rintro a ⟨⟩; exact hfree, by rintro e ⟨⟩⟩,
      fun _ _ => hsame.2.2⟩
  next o hfind =>
    have ho : o ∈ t.world.orders := mem_of_find?_eq_some hfind
    have hid : o.orderId = orderId := by simpa using find?_some hfind
    split at hstep
    next hcond =>
      cases hstep
      have hduty : ∀ g, t.duty i ≠ .decrement g := (canGiveUp_of_none hfree).1
      have hf := keepsOrders_cancel [orderId] filter
      refine ⟨?_, fun j hj => Rely.ofOrders hf rfl rfl (setDuty_ne _ hj _),
        fun _ => ⟨?_, by rintro e ⟨⟩⟩, ?_⟩
      · refine (hbooks.setDuty hduty (by rintro g ⟨⟩) (fun g hg => ?_)).cancel
          (fun o' ho' hid' _ _ => .inl (.inl ⟨i, ?_⟩))
        · rw [hfree] at hg
          cases hg
        · have heq : o' = o := inj_on_of_nodup_map hbooks.orderIds ho' ho
            ((mem_singleton.mp hid').trans hid.symm)
          rw [heq]
          exact setDuty_self t i _
      · rintro a ⟨⟩
        refine ⟨.inr (setDuty_self _ i _), ?_⟩
        exact ⟨_, mem_map_of_mem ho, hf.orderId o, hf.group o⟩
      · rintro e rfl
        refine ⟨fun g hg => ?_, fun g hg => ?_⟩
        · rw [setDuty_self] at hg
          cases hg
        · rw [setDuty_self] at hg
          cases hg
          exact hmay o ho (mem_singleton.mpr hid) hcond.1 hcond.2
    next =>
      cases hstep
      exact ⟨hsame.1, hsame.2.1, fun _ => ⟨by rintro a ⟨⟩; exact hfree, by rintro e ⟨⟩⟩,
        fun _ _ => hsame.2.2⟩

theorem lease_sound (hs : s.duty i = .none) (orderId : ObjectId) :
    reversalContract.Sound i
      (fun found t => t.duty i = .none ∧ (found.isSome = true → ∃ o ∈ t.world.orders, o.orderId = orderId))
      (fun _ t => t.duty i = .none) (perform (Kind.lease orderId)) s := by
  refine sound_free hs (fun t r' t' outcome hbooks _ _ hstep => ?_)
  cases hstep
  refine ⟨hbooks, fun _ => Rely.refl, ?_⟩
  rintro a ⟨⟩ hduty
  refine ⟨hduty, fun hsome => ?_⟩
  cases hfind : findOrder t.world.orders orderId with
  | none =>
    rw [hfind] at hsome
    cases hsome
  | some o => exact ⟨o, mem_of_find?_eq_some hfind, by simpa using find?_some hfind⟩

/-- Task `i` compensates for an order whose group carries the coupon of the order. -/
def Counting (i : ℕ) (existing : Order) (s : Shop) : Prop :=
  Serving i existing.orderId existing.checkoutGroupId s ∧
    ∃ g ∈ s.world.groups, g.checkoutGroupId = existing.checkoutGroupId ∧
      g.coupon = existing.coupon

variable {existing : Order}

theorem Counting.rely {t : Shop} (h : Counting i existing s) (hrely : Rely i s t) :
    Counting i existing t := by
  obtain ⟨hserving, g, hg, hid⟩ := h
  exact ⟨hserving.rely hrely, g, hrely.groups g hg, hid⟩

theorem Serving.own (h : Serving i orderId group s) :
    ∀ g, s.duty i = .compensate g → g = group := by
  intro g hg
  rcases h.1 with hnone | hcompensate
  · rw [hnone] at hg
    cases hg
  · rw [hcompensate] at hg
    cases hg
    rfl

theorem Serving.order (h : Serving i orderId group s) (hbooks : Books s) :
    ∀ o ∈ s.world.orders, o.orderId = orderId → o.checkoutGroupId = group := by
  intro o ho hid
  obtain ⟨-, o', ho', hid', hgroup⟩ := h
  have hsame : o = o' := inj_on_of_nodup_map hbooks.orderIds ho ho' (hid.trans hid'.symm)
  rw [hsame, hgroup]

theorem Serving.done (h : Serving i orderId group s) (hbooks : Books s) (hsettled : Settled s group) :
    Books { s.setDuty i .none with owed := update s.owed orderId false } := by
  have hset : Books (s.setDuty i .none) :=
    hbooks.setDuty h.free (by rintro g ⟨⟩) (fun g hg => .inr (h.own g hg ▸ hsettled))
  refine hset.disown s.records (fun _ o ho hid => ?_)
  rw [h.order hbooks o ho hid]
  exact hsettled

theorem prepare_sound (hs : Serving i orderId group s) :
    reversalContract.Sound i
      (fun found t => ∃ existing, found = some existing ∧ Counting i existing t)
      (fun _ t => t.duty i = .none) (perform (Kind.prepare orderId)) s := by
  have hgiveUp : ∀ t, Rely i s t → DutySettled t i → CanGiveUp i t := by
    intro t hrely hsettled
    exact canGiveUp_of_settled (hs.rely hrely).free hsettled
  refine sound_op (fun t r t' outcome hrely hbooks hmay htakes hstep => ?_)
    (fun t e hrely hmay => hgiveUp t hrely (hmay.resolve_left (by rintro ⟨⟩)))
  cases hstep
  refine ⟨hbooks, fun _ _ => Rely.refl, fun _ => ⟨?_, by rintro e ⟨⟩⟩, ?_⟩
  · rintro a ⟨⟩
    have hserving := hs.rely hrely
    obtain ⟨-, o, ho, hid, hgroup⟩ := hserving
    cases hfind : findOrder t.world.orders orderId with
    | none =>
      have hne := find?_eq_none.mp hfind o ho
      simp [hid] at hne
    | some existing =>
      have hexisting : existing ∈ t.world.orders := mem_of_find?_eq_some hfind
      have hid' : existing.orderId = orderId := by simpa using find?_some hfind
      refine ⟨existing, rfl, ?_, hbooks.ordersOf existing hexisting⟩
      rw [hid', (hs.rely hrely).order hbooks existing hexisting hid']
      exact hs.rely hrely
  · rintro e rfl
    exact hgiveUp t hrely (hmay.resolve_left (by rintro ⟨⟩))

theorem countActive_sound (hs : Counting i existing s) :
    reversalContract.Sound i
      (fun active t => if active = 0 then
          Counting i existing t ∧ activeCount t.world.orders existing.checkoutGroupId = 0
        else t.duty i = .none)
      (fun _ t => t.duty i = .none) (perform (Kind.countActive existing)) s := by
  have hgiveUp : ∀ t, Rely i s t → DutySettled t i → CanGiveUp i t := by
    intro t hrely hsettled
    exact canGiveUp_of_settled (hs.rely hrely).1.free hsettled
  refine sound_op (fun t r t' outcome hrely hbooks hmay htakes hstep => ?_)
    (fun t e hrely hmay => hgiveUp t hrely (hmay.resolve_left (by rintro ⟨⟩)))
  have hcounting := hs.rely hrely
  unfold effect at hstep
  dsimp only at hstep
  by_cases hdead : activeCount t.world.orders existing.checkoutGroupId = 0
  · rw [if_pos hdead] at hstep
    cases hstep
    refine ⟨hbooks, fun _ _ => Rely.refl, fun _ => ⟨?_, by rintro e ⟨⟩⟩, ?_⟩
    · rintro a ⟨⟩
      rw [if_pos hdead]
      exact ⟨hcounting, hdead⟩
    · rintro e rfl
      exact hgiveUp t hrely (hmay.resolve_left (by rintro ⟨⟩))
  · rw [if_neg hdead] at hstep
    cases hstep
    refine ⟨hcounting.1.done hbooks (.inr (.inr (by omega))),
      fun j hj => Rely.ofDuty rfl (setDuty_ne _ hj _), fun _ => ⟨?_, by rintro e ⟨⟩⟩,
      fun _ _ => canGiveUp_of_none (setDuty_self _ i _)⟩
    rintro a ⟨⟩
    rw [if_neg hdead]
    exact setDuty_self _ i _

/-- What task `i` has locked the group of the order for. -/
def Locked (i : ℕ) (existing : Order) (s : Shop) : Prop :=
  (∃ g ∈ s.world.groups, g.checkoutGroupId = existing.checkoutGroupId ∧
    g.coupon = existing.coupon) ∧
    s.duty i = if existing.coupon.isSome then .decrement existing.checkoutGroupId else .none

theorem lockGroup_sound (hs : Counting i existing s)
    (hdead : activeCount s.world.orders existing.checkoutGroupId = 0) :
    reversalContract.Sound i
      (fun lock t => match lock with
        | none => t.duty i = .none
        | some groupCoupon => groupCoupon = existing.coupon ∧ Locked i existing t)
      (fun _ t => t.duty i = .none) (perform (Kind.lockGroup existing)) s := by
  refine sound_op (fun t r t' outcome hrely hbooks hmay htakes hstep => ?_)
    (fun t e hrely hmay => canGiveUp_of_settled (hs.rely hrely).1.free hmay)
  have hcounting := hs.rely hrely
  obtain ⟨hserving, g, hg, hid, hcoupon⟩ := hcounting
  have hdead' : activeCount t.world.orders existing.checkoutGroupId = 0 := by
    obtain ⟨-, g₀, hg₀, hid₀, -⟩ := hs
    rw [← hid₀] at hdead ⊢
    exact hrely.dead g₀ hg₀ hdead
  have hcouponOf : couponOf t existing.checkoutGroupId = existing.coupon := by
    rw [← hid, hbooks.couponOf_eq hg, hcoupon]
  unfold effect at hstep
  dsimp only at hstep
  split at hstep
  next hmatch =>
    cases hstep
    have horder := hserving.order hbooks
    have hown := hserving.own
    have hnot := hmatch.2.1
    have hzero := hdead'
    rw [← hid] at horder hown hzero hnot
    have hlock := hbooks.lock hg horder (fun g' hg' => hserving.free g' hg') hown hzero hnot
    rw [hid, hcoupon] at hlock
    rw [hcouponOf]
    refine ⟨hlock, fun j hj => Rely.ofDuty rfl (setDuty_ne _ hj _),
      fun _ => ⟨?_, by rintro e ⟨⟩⟩, ?_⟩
    · rintro a ⟨⟩
      exact ⟨rfl, ⟨g, hg, hid, hcoupon⟩, setDuty_self _ i _⟩
    · rintro e rfl
      refine canGiveUp_of_none ?_
      -- the answer may be lost only where there is no coupon to give back
      have hsettled : Settled t existing.checkoutGroupId := hmay
      have hnone : existing.coupon = none := by
        rcases hsettled with hnone | hreversed | hlive
        · rw [← hcouponOf, hnone]
        · rw [hmatch.2.1] at hreversed
          cases hreversed
        · omega
      have hself := setDuty_self t i
        (if existing.coupon.isSome = true then .decrement existing.checkoutGroupId else .none)
      rw [hnone] at hself ⊢
      exact hself
  next hmatch =>
    cases hstep
    have hsettled : Settled t existing.checkoutGroupId := by
      cases outcome with
      | refused e => cases htakes
      | lost e => exact hmay
      | done =>
        rcases hmay with hthere | hsettled
        · -- the document is there, so the group is reversed
          refine .inr (.inl ?_)
          by_contra hnot
          exact hmatch ⟨hthere, by simpa using hnot, hid ▸ mem_map_of_mem hg⟩
        · exact hsettled
    refine ⟨hserving.done hbooks hsettled, fun j hj => Rely.ofDuty rfl (setDuty_ne _ hj _),
      fun _ => ⟨?_, by rintro e ⟨⟩⟩, fun _ _ => canGiveUp_of_none (setDuty_self _ i _)⟩
    rintro a ⟨⟩
    exact setDuty_self _ i _

theorem decrement_sound {couponId : ObjectId} (hcouponId : existing.coupon = some couponId)
    (hs : Locked i existing s) :
    reversalContract.Leaving i (fun t => t.duty i = .none)
      (perform (Kind.decrement existing couponId)) s := by
  refine sound_op (fun t r t' outcome hrely hbooks hmay htakes hstep => ?_) ?_
  · cases hstep
    obtain ⟨⟨g, hg, hid, hcoupon⟩, hduty⟩ := hs
    rw [hcouponId, Option.isSome_some, if_pos rfl, ← hid, ← hrely.duty] at hduty
    have hbooks' := hbooks.decrement (hrely.groups g hg) (hcoupon.trans hcouponId) hduty
    rw [hid] at hbooks'
    exact ⟨hbooks', fun j hj => Rely.ofCoupons rfl rfl (setDuty_ne _ hj _),
      fun _ => ⟨fun _ _ => setDuty_self _ i _, by rintro e ⟨⟩⟩,
      fun _ _ => canGiveUp_of_none (setDuty_self _ i _)⟩
  · intro t e _ hmay
    cases hmay

/-! ## The programs -/

theorem compensate_sound (hs : Serving i orderId group s) :
    reversalContract.Leaving i (fun t => t.duty i = .none)
      (compensateOrderCancellation orderId) s := by
  unfold compensateOrderCancellation
  refine (prepare_sound hs).bind ?_
  rintro found t ⟨existing, rfl, hcounting⟩
  dsimp only
  refine (countActive_sound hcounting).bind (fun active u hactive => ?_)
  split
  next hzero =>
    rw [if_pos hzero] at hactive
    refine (lockGroup_sound hactive.1 hactive.2).bind (fun lock v hlock => ?_)
    cases lock with
    | none => exact updateGroup_sound hlock existing
    | some groupCoupon =>
      obtain ⟨rfl, hlocked⟩ := hlock
      dsimp only
      cases hcoupon : existing.coupon with
      | none =>
        have hduty := hlocked.2
        rw [hcoupon] at hduty
        exact hduty
      | some couponId => exact decrement_sound hcoupon hlocked
  next hzero =>
    rw [if_neg hzero] at hactive
    exact hactive

theorem cancelAndCompensate_sound (hs : s.duty i = .none) (orderId : ObjectId)
    (filter : WorkflowStatus → Bool) :
    reversalContract.Leaving i (fun t => t.duty i = .none)
      (cancelAndCompensate orderId filter) s := by
  unfold cancelAndCompensate
  refine (cancel_sound hs orderId filter).bind (fun found t hfound => ?_)
  cases found with
  | none => exact hfound
  | some o =>
    refine (compensate_sound hfound).bind (fun _ u hu => ?_)
    exact recordExternal_sound hu o.orderId

theorem processCancellation_sound (hs : s.duty i = .none) (orderId : ObjectId) (pending : Bool) :
    reversalContract.Leaving i (fun t => t.duty i = .none)
      (processCancellation orderId pending) s := by
  unfold processCancellation
  refine (lease_sound hs orderId).bind ?_
  rintro found t ⟨hfree, hfound⟩
  cases found with
  | none => exact hfree
  | some processing =>
    obtain ⟨o, ho, hid⟩ := hfound rfl
    dsimp only
    have hcompensated : reversalContract.Leaving i (fun u => u.duty i = .none)
        (if processing.compensation then (pure true : M Bool)
          else ((compensateOrderCancellation orderId).bind (fun _ => .ret true)).tryCatch
            (fun _ => pure false)) t := by
      split
      · exact hfree
      · refine Sound.tryCatch ?_ (fun _ _ hu => hu)
        have hserving : Serving i orderId o.checkoutGroupId t := ⟨.inl hfree, o, ho, hid, rfl⟩
        exact (compensate_sound hserving).bind (fun _ _ hu => hu)
    refine Sound.bind (R := fun _ u => u.duty i = .none) ?_
      (fun pending u hu => saveState_sound hu orderId pending)
    refine Sound.tryCatch (D := fun _ u => u.duty i = .none) ?_
      (fun _ _ hu => Sound.ret hu)
    refine hcompensated.bind (fun compensation u hu => ?_)
    exact (saveSteps_sound hu orderId compensation).bind (fun _ _ hv => hv)

theorem recordExternals_sound (hs : s.duty i = .none) (orderIds : List ObjectId) :
    reversalContract.Leaving i (fun t => t.duty i = .none) (recordExternals orderIds) s := by
  induction orderIds generalizing s with
  | nil => exact hs
  | cons orderId orderIds ih =>
    exact (recordExternal_sound hs orderId).bind (fun _ _ hu => ih hu)

theorem path_sound (hs : s.duty i = .none) (path : Path) :
    reversalContract.Leaving i (fun t => t.duty i = .none) path.program s := by
  cases path with
  | place r => exact (place_sound hs r).bind (fun _ _ hu => hu)
  | cancelAndCompensate orderId filter => exact cancelAndCompensate_sound hs orderId filter
  | cancelDirectly orderId filter => exact cancelDirectly_sound hs orderId filter
  | processCancellation orderId pending => exact processCancellation_sound hs orderId pending
  | paymentFailed orderIds =>
    exact (failPayment_sound hs orderIds).bind (fun _ _ hu => recordExternals_sound hu orderIds)

end Paths

/-! ## Every run -/

variable {s s' : Shop}

theorem elsewhere_books {e : Elsewhere} (hbooks : Books s) (h : elsewhere s e = some s') :
    Books s' ∧ ∀ i, Rely i s s' := by
  cases e with
  | shop store stock funds carts =>
    cases h
    exact ⟨{ hbooks with }, fun _ => Rely.ofCoupons rfl rfl rfl⟩
  | advance orderId status =>
    unfold elsewhere at h
    dsimp only at h
    split at h
    next => cases h
    next hstatus =>
      cases h
      exact ⟨hbooks.advance hstatus,
        fun _ => Rely.ofOrders (keepsOrders_advance orderId status) rfl rfl rfl⟩
  | expire group =>
    cases h
    exact ⟨{ hbooks with }, fun _ => Rely.ofDuty rfl rfl⟩

theorem reversalContract_lawful : reversalContract.Lawful where
  refl := fun _ _ => Rely.refl
  trans := fun _ _ _ _ h h' => h.trans h'
  idle := fun _ _ _ hrely hidle => hrely.duty.trans hidle
  outside := fun _ _ _ hbooks _ h => elsewhere_books hbooks h
  entry := fun path _ _ _ hidle _ =>
    (path_sound hidle path).mono (fun _ _ _ => trivial) (fun _ _ _ => trivial)

/-- Before the first placement: no coupon is used, and the coupon engine is on. -/
structure Opening (w : World) : Prop where
  engine : w.store.flags.serverSideCouponEngine = true
  couponIds : (w.store.coupons.coupons.map Coupon.id).Nodup
  unused : ∀ c ∈ w.store.coupons.coupons, c.usedCount = 0
  groups : w.groups = []
  orders : w.orders = []

theorem Opening.books {w : World} (h : Opening w) : Books { world := w } where
  engine := h.engine
  couponIds := h.couponIds
  groupIds := by
    rw [h.groups]
    exact nodup_nil
  orderIds := by
    rw [h.orders]
    exact nodup_nil
  ordersOf := by
    rw [h.orders]
    rintro o ⟨⟩
  counted := by
    intro c hc
    unfold uses
    rw [h.unused c hc, h.groups]
    rfl
  reversedKnown := by rintro g ⟨⟩
  reversedDead := by rintro g ⟨⟩
  decrementedReversed := by rintro g ⟨⟩
  dutyDecrement := by rintro i g ⟨⟩
  dutyUnique := by rintro i j g ⟨⟩
  toDecrement := by
    rw [h.groups]
    rintro g ⟨⟩
  toReverse := by
    rw [h.groups]
    rintro g ⟨⟩

theorem Opening.withinLimit {w : World} (h : Opening w) : WithinLimit { world := w } := by
  intro c hc limit _
  rw [h.unused c hc]
  exact zero_le limit

theorem effect_withinLimit {i : ℕ} {kind : Kind} {r : Except ServiceError kind.Reply}
    (h : WithinLimit s) (hstep : effect i kind s = some (r, s')) : WithinLimit s' := by
  unfold effect at hstep
  cases kind with
  | place request =>
    dsimp only at hstep
    split at hstep
    · cases hstep
      exact h
    next w placed hplace =>
      split at hstep
      next hfresh =>
        cases hstep
        obtain ⟨_, _, _, -, _, -, -, -, -, -, hcoupons⟩ := (committed_of_placeOrder hplace).priced
        unfold WithinLimit
        dsimp only
        rw [hcoupons]
        exact WithinLimit.increment h
      next => cases hstep
  | cancel | cancelDirectly =>
    dsimp only at hstep
    split at hstep
    · cases hstep
      exact h
    · split at hstep
      · cases hstep
        exact h
      · cases hstep
        exact h
  | lockGroup existing =>
    dsimp only at hstep
    split at hstep
    · cases hstep
      exact h
    · cases hstep
      exact h
  | countActive existing =>
    cases hstep
    unfold WithinLimit
    split
    · exact h
    · exact h
  | decrement existing couponId =>
    cases hstep
    exact WithinLimit.decrement h
  | failPayment orderIds | prepare orderId | updateGroup existing | recordExternal orderId
  | lease orderId | saveSteps orderId compensation | saveState orderId pending =>
    cases hstep
    exact h

theorem performOp_withinLimit {i : ℕ} {kind : Kind} {outcome : Outcome}
    {r : Except ServiceError kind.Reply} (h : WithinLimit s)
    (hstep : performOp i kind outcome s = some (r, s')) : WithinLimit s' := by
  cases outcome with
  | done => exact effect_withinLimit h hstep
  | refused e =>
    cases hstep
    exact h
  | lost e =>
    obtain ⟨⟨r₁, s₁⟩, hstep₁, heq⟩ := Option.map_eq_some_iff.mp hstep
    cases heq
    have hlimit : WithinLimit s₁ := effect_withinLimit h hstep₁
    exact hlimit

theorem elsewhere_withinLimit {e : Elsewhere} (h : WithinLimit s) (hstep : elsewhere s e = some s')
    : WithinLimit s' := by
  cases e with
  | shop | expire =>
    cases hstep
    exact h
  | advance orderId status =>
    unfold elsewhere at hstep
    dsimp only at hstep
    split at hstep
    next => cases hstep
    next =>
      cases hstep
      exact h

def opened (w : World) : Pool Kind Kind.Reply ServiceError Shop := ⟨{ world := w }, []⟩

/-- In every run no coupon is used more often than it may be; in every run in which each
operation that ends a reversal leaves nothing to give back, the usage of each coupon is the
number of its live groups wherever no reversal is under way. -/
theorem usage_counts_live_groups {w : World} (hw : Opening w)
    (as : List (Action Outcome Elsewhere Path)) :
    Along reversalSystem.step (fun p => WithinLimit p.shared) (opened w) as ∧
      (Guarded reversalSystem.step (OnOps ReversalKept) (opened w) as →
        Along reversalSystem.step (fun p => UsageAgrees p.shared) (opened w) as) := by
  constructor
  · have hstep : ∀ p a, WithinLimit p.shared → WithinLimit (reversalSystem.step p a).shared :=
      fun p a => System.step_keeps (I := WithinLimit) (fun _ _ _ _ _ _ h hs => performOp_withinLimit h hs)
        (fun _ _ _ h hs => elsewhere_withinLimit h hs) p a
    exact along_of_step
      (I := fun p : Pool Kind Kind.Reply ServiceError Shop => WithinLimit p.shared) hstep hw.withinLimit as
  · intro hkept
    have hmeets : Guarded reversalSystem.step reversalContract.Meets (opened w) as :=
      Contract.guarded_meets (guarded_of_forall (fun _ a => by cases a <;> trivial) _ _) hkept
    have hholds := reversalContract_lawful.along
      (Contract.holds_start hw.books (fun _ => rfl)) hmeets
    exact hholds.mono (fun _ h => h.inv.agrees)

/-- A coupon of 20 rupees that may be used once. -/
def warmCoupon : Coupon where
  id := 4
  code := "WARM"
  discountType := .fixed
  discountValue := 20
  usageLimit := some 1
  validFrom := 0
  validTill := 10

def couponShop : World :=
  { scarfShop with store := { scarfShop.store with coupons := { coupons := [warmCoupon] } } }

def couponRequest (paymentMode : String) : Request :=
  let payload := (scarfRequest paymentMode 0).payload
  { customerId := 1, payload := { payload with coupon := { couponId := some (some 4) } } }

theorem couponShop_opening : Opening couponShop where
  engine := rfl
  couponIds := nodup_singleton _
  unused := by
    intro c hc
    rw [mem_singleton.mp hc]
    rfl
  groups := rfl
  orders := rfl

/-- The coupon's one use is counted, and given back when the seller rejects. -/
def rejectedRun : List (Action Outcome Elsewhere Path) :=
  .start (.place (couponRequest "COD")) :: .run 0 .done ::
    .start (.cancelAndCompensate 0 (fun status => decide (status = .sellerPending))) ::
      replicate 6 (.run 1 .done)

theorem usage_counts_rejected :
    Along reversalSystem.step (fun p => WithinLimit p.shared) (opened couponShop) rejectedRun ∧
      Along reversalSystem.step (fun p => UsageAgrees p.shared) (opened couponShop)
        rejectedRun := by
  obtain ⟨hlimit, hagrees⟩ := usage_counts_live_groups couponShop_opening rejectedRun
  exact ⟨hlimit, hagrees (by decide +kernel)⟩

def failedPaymentRun (r : Request) : List (Action Outcome Elsewhere Path) :=
  [.start (.place r), .run 0 .done, .start (.paymentFailed [0]), .run 1 .done, .run 1 .done]

theorem perform_place {i : ℕ} {s : Shop} {w' : World}
    (hplace : placeOrder s.world r = .ok (w', placed)) (hfresh : idsFresh s.world placed = true) :
    reversalSystem.perform i (Kind.place r) .done s
      = some (.ok placed, { s with world := w' }) := by
  unfold reversalSystem performOp effect
  dsimp only
  rw [hplace]
  exact if_pos hfresh

/-- The orders are cancelled, and nothing else of the placement is taken back. -/
theorem exec_failedPaymentRun (hplace : placeOrder w r = .ok (w', placed))
    (hfresh : idsFresh w placed = true) :
    (exec reversalSystem.step (opened w) (failedPaymentRun r)).shared
      = { Shop.withOrders { world := w' }
            (cancelOrders w'.orders [0] (fun status => decide (status = .created))) with
          records := update (fun _ => none) 0 (some ⟨true, true⟩) } := by
  have hplaced : reversalSystem.step ⟨{ world := w }, [(Path.place r).program]⟩ (.run 0 .done)
      = ⟨{ world := w' }, [.ret ()]⟩ := by
    have hperform : reversalSystem.perform 0 (Kind.place r) .done { world := w }
        = some (.ok placed, { world := w' }) := perform_place hplace hfresh
    unfold System.step
    dsimp only [Path.program, Prog.discard, perform, Prog.bind, getElem?_cons_zero]
    rw [hperform]
    rfl
  have hstarted : reversalSystem.step (opened w) (.start (.place r))
      = ⟨{ world := w }, [(Path.place r).program]⟩ := rfl
  unfold failedPaymentRun
  rw [exec_cons, exec_cons, hstarted, hplaced]
  rfl

/-- An order whose payment fails is cancelled and its coupon stays used: nobody compensates,
because the record that is left says that the compensation is done. -/
theorem usage_kept_after_failed_payment :
    ¬(Along reversalSystem.step (fun p => WithinLimit p.shared) (opened couponShop)
        (failedPaymentRun (couponRequest "ONLINE")) ∧
      Along reversalSystem.step (fun p => UsageAgrees p.shared) (opened couponShop)
        (failedPaymentRun (couponRequest "ONLINE"))) := by
  rintro ⟨-, hagrees⟩
  have hrun : (placeOrder couponShop (couponRequest "ONLINE")).toOption.any (fun result =>
      idsFresh couponShop result.2 && result.1.store.coupons.coupons.any (fun c =>
        decide (c.usedCount ≠ (liveGroups (Shop.withOrders { world := result.1 }
          (cancelOrders result.1.orders [0] (fun status => decide (status = .created))))
            c.id).length))) = true := by
    decide +kernel
  cases hplace : placeOrder couponShop (couponRequest "ONLINE") with
  | error e =>
    rw [hplace] at hrun
    cases hrun
  | ok result =>
    rw [hplace, Except.toOption, Option.any_some, Bool.and_eq_true] at hrun
    obtain ⟨hfresh, hdiffers⟩ := hrun
    obtain ⟨c, hc, hne⟩ := any_eq_true.mp hdiffers
    have hlast := hagrees.last
    rw [exec_failedPaymentRun hplace hfresh] at hlast
    refine of_decide_eq_true hne (hlast c hc (fun g _ _ hunder => ?_))
    rcases hunder with ⟨i, hduty | hduty⟩ | ⟨o, -, -, howed⟩
    · cases hduty
    · cases hduty
    · cases howed

end DiscountBazar.Placement.Reversal
