/-
How often one customer may use a coupon (`getUserCouponUsageCount`, `computeOrderDiscount`).

The uses of a customer are counted over orders, in the transaction that places the next one. Two
placements with one coupon both write the coupon's document, so of two that overlap one aborts: what
a placement has counted is still there when it commits, but for orders that were cancelled since. So
no customer has more live checkouts with a coupon than its limit. A customer with fewer is served as
well, as long as every checkout makes one order; one with lines of several sellers counts as several.
-/
import Mathlib.Data.Finset.Card
import DiscountBazar.Lib.Snapshot
import DiscountBazar.Placement.CouponUsage

namespace DiscountBazar.Placement.UserLimit

open Pricing Snapshot Reversal Transaction Function Runs
open Finance (WorkflowStatus)
open List CheckoutGroup

/-! ## Counting -/

def usesCoupon (customerId couponId : ObjectId) (o : Order) : Bool :=
  decide (o.customer = customerId ∧ o.coupon = some couponId) && isLive o

def getUserCouponUsageCount (orders : List Order) (customerId couponId : ObjectId) : ℕ :=
  (orders.filter (usesCoupon customerId couponId)).length

/-- The world as a placement reads it. -/
def counting (w : World) : World :=
  { w with store := { w.store with coupons := { w.store.coupons with
      userUsage := getUserCouponUsageCount w.orders } } }

def couponGroups (orders : List Order) (customerId couponId : ObjectId) : List ObjectId :=
  (orders.filter (usesCoupon customerId couponId)).map Order.checkoutGroupId

/-- How many live checkouts of the customer use the coupon. -/
def liveCheckouts (orders : List Order) (customerId couponId : ObjectId) : ℕ :=
  (couponGroups orders customerId couponId).dedup.length

/-! ## Transactions -/

/-- A document that two transactions may both write. -/
inductive Document where
  | coupon (id : ObjectId)
  | group (id : ObjectId)
  | order (id : ObjectId)
  | product (id : ObjectId)
  | cart (customer : ObjectId)
  | funds (customer : ObjectId)
  deriving DecidableEq

/-- What a transaction, or a single write, does. -/
inductive Call where
  | place (r : Request)
  | cancel (orderIds : List ObjectId) (filter : WorkflowStatus → Bool)
  | decrement (couponId : ObjectId)
  | advance (orderId : ObjectId) (status : WorkflowStatus)
  /-- what other paths do to the catalogue, the stock, the funds and the carts -/
  | elsewhere (store : Store) (stock : Inventory.Products) (funds : Funds)
      (carts : ObjectId → List OrderItemInput)

/-- The filter of `incrementCouponUsage` finds the coupon. -/
def incrementsCoupon (store : CouponStore) (id : ObjectId) : Bool :=
  store.coupons.any (fun c => decide (c.id = id) && !c.usedUp)

/-- The products that a placement takes from the shelf. -/
def soldProducts (placed : Placed) : List ObjectId :=
  placed.orders.flatMap (fun o => o.items.map HydratedItem.productId)

def placementWrites (w w' : World) (r : Request) (placed : Placed) : List Document :=
  (placed.checkoutGroup.coupon.toList.filter (incrementsCoupon w.store.coupons)).map Document.coupon
    ++ .group r.checkoutGroupId :: placed.orders.map (fun o => .order o.orderId)
    ++ (soldProducts placed).map Document.product
    ++ (if w'.carts r.customerId = w.carts r.customerId then [] else [.cart r.customerId])
    ++ (if 0 < placed.walletDebit then [.funds r.customerId] else [])

/-- The world after a placement that was computed on an earlier one commits. -/
def commitPlacement (w' : World) (r : Request) (placed : Placed) (now : World) : World where
  store := { now.store with
    coupons := incrementCouponUsage now.store.coupons placed.checkoutGroup.coupon }
  stock := fun id => if id ∈ soldProducts placed then w'.stock id else now.stock id
  funds := (redeem now.store.flags.walletRedemptionReducesPayable now.funds r.customerId
    r.checkoutGroupId placed.walletDebit).toOption.getD now.funds
  carts := update now.carts r.customerId (w'.carts r.customerId)
  groups := now.groups ++ [placed.checkoutGroup]
  orders := now.orders ++ placed.orders

/-- The orders with these ids that the filter of a cancellation takes. -/
def cancellable (orders : List Order) (orderIds : List ObjectId) (filter : WorkflowStatus → Bool) :
    List ObjectId :=
  (orders.filter (fun o =>
    decide (o.orderId ∈ orderIds) && isLive o && filter o.workflowStatus)).map Order.orderId

/-- What a placement changes; none that is refused, or whose ids are taken. -/
def placement (r : Request) (w : World) : Option (Effect World Document) :=
  match placeOrder (counting w) r with
  | .error _ => none
  | .ok (w', placed) =>
    if idsFresh w placed then some
      { writes := placementWrites w w' r placed
        apply := commitPlacement w' r placed }
    else none

def transaction : Call → World → Option (Effect World Document)
  | .place r, w => placement r w
  | .cancel orderIds filter, w =>
    let taken := cancellable w.orders orderIds filter
    some
      { writes := taken.map Document.order
        apply := fun now => { now with orders := cancelOrders now.orders taken (fun _ => true) } }
  | .decrement couponId, _ => some
      { writes := [.coupon couponId]
        apply := fun now => { now with store := { now.store with
          coupons := decrementCouponUsage now.store.coupons couponId } } }
  | .advance orderId status, _ =>
    if status = .cancelled then none
    else some
      { writes := [.order orderId]
        apply := fun now => { now with orders := now.orders.map (fun o =>
          if o.orderId = orderId ∧ isLive o = true then { o with workflowStatus := status } else o) } }
  | .elsewhere store stock funds carts, _ => some
      { writes := []
        apply := fun now => { now with
          store := { store with
            flags := now.store.flags
            coupons := { store.coupons with coupons := now.store.coupons.coupons } }
          stock, funds, carts } }

/-! ## The property -/

/-- How `computeOrderDiscount` refuses a customer who has used the coupon. -/
def alreadyUsed : ServiceError := ⟨"You have already used this coupon", some 400⟩

def WithinUserLimit (w : World) : Prop :=
  ∀ coupon ∈ w.store.coupons.coupons, ∀ limit, coupon.perUserLimit = some limit →
    ∀ customer, liveCheckouts w.orders customer coupon.id ≤ limit

/-- A customer who is refused for having used a coupon has as many live checkouts with it as it
allows. -/
def RefusedRightly (w : World) : Prop :=
  ∀ (r : CouponRequest) (customer : ObjectId) (items : List HydratedItem) (coupon : Coupon) (limit : ℕ),
    loadCoupon (counting w).store.coupons r = .ok (some coupon) → coupon.perUserLimit = some limit →
    computeOrderDiscount (counting w).store.coupons r (some customer) items = .error alreadyUsed →
    limit ≤ liveCheckouts w.orders customer coupon.id

/-! ## The condition -/

def itemSellers (products : ObjectId → Option Product) (items : List ItemInput) :
    List ObjectId :=
  (items.filterMap (fun item => (products item.product).map Product.sellerId)).dedup

def OneSeller (w : World) (r : Request) : Prop :=
  match resolveOrderItemsInput w.carts r.customerId r.payload with
  | .ok (items, _) => (itemSellers w.store.products items).length ≤ 1
  | .error _ => True

instance (w : World) (r : Request) : Decidable (OneSeller w r) :=
  match h : resolveOrderItemsInput w.carts r.customerId r.payload with
  | .ok (items, _) =>
    decidable_of_iff ((itemSellers w.store.products items).length ≤ 1)
      (by unfold OneSeller; rw [h])
  | .error _ => isTrue (by unfold OneSeller; rw [h]; trivial)

def CountsOnce (w : World) (r : Request) : Prop :=
  match loadCoupon w.store.coupons r.payload.coupon with
  | .ok (some coupon) => (∀ limit ∈ coupon.perUserLimit, limit = 1) ∨ OneSeller w r
  | _ => True

instance (w : World) (r : Request) : Decidable (CountsOnce w r) :=
  match h : loadCoupon w.store.coupons r.payload.coupon with
  | .ok (some coupon) =>
    decidable_of_iff ((∀ limit ∈ coupon.perUserLimit, limit = 1) ∨ OneSeller w r)
      (by unfold CountsOnce; rw [h])
  | .ok none => isTrue (by unfold CountsOnce; rw [h]; trivial)
  | .error _ => isTrue (by unfold CountsOnce; rw [h]; trivial)

def CommitsOnce (t : Running World Call) (_ : World) : Prop :=
  match t.request with
  | .place r => CountsOnce t.snapshot r
  | _ => True

instance : (t : Running World Call) → (w : World) → Decidable (CommitsOnce t w)
  | ⟨.place r, snapshot, _⟩, _ => inferInstanceAs (Decidable (CountsOnce snapshot r))
  | ⟨.cancel _ _, _, _⟩, _ => isTrue trivial
  | ⟨.decrement _, _, _⟩, _ => isTrue trivial
  | ⟨.advance _ _, _, _⟩, _ => isTrue trivial
  | ⟨.elsewhere _ _ _ _, _, _⟩, _ => isTrue trivial

/-! ## Lists of checkouts -/

section Lists

theorem length_couponGroups (orders : List Order) (customerId couponId : ObjectId) :
    (couponGroups orders customerId couponId).length
      = getUserCouponUsageCount orders customerId couponId :=
  length_map ..

theorem couponGroups_append (orders placed : List Order) (customerId couponId : ObjectId) :
    couponGroups (orders ++ placed) customerId couponId
      = couponGroups orders customerId couponId ++ couponGroups placed customerId couponId := by
  unfold couponGroups
  rw [filter_append, map_append]

theorem couponGroups_eq_nil {orders : List Order} {customerId couponId : ObjectId}
    (h : ∀ o ∈ orders, ¬(o.customer = customerId ∧ o.coupon = some couponId)) :
    couponGroups orders customerId couponId = [] := by
  unfold couponGroups
  rw [map_eq_nil_iff, filter_eq_nil_iff]
  intro o ho huses
  unfold usesCoupon at huses
  rw [Bool.and_eq_true, decide_eq_true_eq] at huses
  exact h o ho huses.1

/-- A change that revives no order takes checkouts off the list at most. -/
theorem couponGroups_map_sublist {f : Order → Order} (hf : KeepsOrders f)
    (hcustomer : ∀ o, (f o).customer = o.customer) (orders : List Order)
    (customerId couponId : ObjectId) :
    (couponGroups (orders.map f) customerId couponId).Sublist
      (couponGroups orders customerId couponId) := by
  have huses : ∀ o, usesCoupon customerId couponId (f o) = true →
      usesCoupon customerId couponId o = true := by
    intro o h
    unfold usesCoupon at h ⊢
    rw [Bool.and_eq_true, hcustomer, hf.coupon] at h
    rw [Bool.and_eq_true]
    exact ⟨h.1, hf.live o h.2⟩
  induction orders with
  | nil => exact Sublist.refl _
  | cons o orders ih =>
    unfold couponGroups at ih ⊢
    rw [map_cons]
    by_cases hafter : usesCoupon customerId couponId (f o) = true
    · rw [filter_cons_of_pos hafter, filter_cons_of_pos (huses o hafter), map_cons,
        map_cons, hf.group]
      exact ih.cons_cons _
    · rw [filter_cons_of_neg hafter]
      by_cases hbefore : usesCoupon customerId couponId o = true
      · rw [filter_cons_of_pos hbefore, map_cons]
        exact ih.cons _
      · rw [filter_cons_of_neg hbefore]
        exact ih

theorem length_dedup_le_of_sublist {l l' : List ObjectId} (h : l.Sublist l') :
    l.dedup.length ≤ l'.dedup.length := by
  rw [← card_toFinset, ← card_toFinset]
  refine Finset.card_le_card (fun a ha => ?_)
  rw [mem_toFinset] at ha ⊢
  exact h.subset ha

theorem length_dedup_append_le {l l' : List ObjectId} {g : ObjectId} (h : ∀ a ∈ l', a = g) :
    (l ++ l').dedup.length ≤ l.dedup.length + 1 := by
  rw [← card_toFinset, ← card_toFinset]
  refine (Finset.card_le_card ?_).trans (Finset.card_insert_le g l.toFinset)
  intro a ha
  rw [mem_toFinset, mem_append] at ha
  rw [Finset.mem_insert, mem_toFinset]
  rcases ha with ha | ha
  · exact .inr ha
  · exact .inl (h a ha)

theorem nodup_of_length_le_one {l : List ObjectId} (h : l.length ≤ 1) : l.Nodup := by
  match l, h with
  | [], _ => exact nodup_nil
  | [a], _ => exact nodup_singleton a

theorem liveCheckouts_le (orders : List Order) (customerId couponId : ObjectId) :
    liveCheckouts orders customerId couponId
      ≤ getUserCouponUsageCount orders customerId couponId := by
  rw [← length_couponGroups]
  exact (dedup_sublist _).length_le

end Lists

/-! ## A refusal -/

section Refusal

theorem text_ne {a b c : String} (ha : a.toList ≠ []) (h : a.toList.head? ≠ c.toList.head?) :
    a ++ b ≠ c := by
  rintro rfl
  rw [String.toList_append, head?_append_of_ne_nil _ ha] at h
  exact h rfl

theorem error_ne {message text : String} {code code' : Option ℕ} (h : message ≠ text) {α : Type} :
    (.error ⟨message, code⟩ : Except ServiceError α) ≠ .error ⟨text, code'⟩ := by
  intro heq
  injection heq with heq
  injection heq with htext _
  exact h htext

theorem checkMonthlyVolume_ne (store : CouponStore) (coupon : Coupon) (customer : Option ObjectId) :
    checkMonthlyVolume store coupon customer ≠ .error alreadyUsed := by
  unfold checkMonthlyVolume
  dsimp only
  split
  · split
    · rw [String.append_assoc]
      exact error_ne (text_ne (by decide) (by decide))
    · split
      · simp only [String.append_assoc]
        exact error_ne (text_ne (by decide) (by decide))
      · rintro ⟨⟩
  · rintro ⟨⟩

theorem categoryMessage_ne (store : CouponStore) (coupon : Coupon) :
    categoryMessage store coupon ≠ "You have already used this coupon" := by
  unfold categoryMessage
  split
  · decide
  · exact text_ne (by decide) (by decide)

variable {customer : Option ObjectId} {items : List HydratedItem}

theorem checkCoupon_alreadyUsed {store : CouponStore} {coupon : Coupon}
    (h : checkCoupon store coupon customer items = .error alreadyUsed) :
    coupon.usedUpBy store customer = true := by
  unfold checkCoupon at h
  simp only [bind, Except.bind, pure, Except.pure, throw, throwThe, MonadExceptOf.throw] at h
  split at h
  · exact absurd h (error_ne (by decide))
  split at h
  · exact absurd h (error_ne (by decide))
  split at h
  · assumption
  split at h
  next hvolume => exact absurd (hvolume.trans h) (checkMonthlyVolume_ne store coupon customer)
  split at h
  · simp only [String.append_assoc] at h
    exact absurd h (error_ne (text_ne (by decide) (by decide)))
  split at h
  · exact absurd h (error_ne (categoryMessage_ne store coupon))
  split at h
  · simp only [String.append_assoc] at h
    exact absurd h (error_ne (text_ne (by decide) (by decide)))
  · cases h

theorem computeOrderDiscount_alreadyUsed {store : CouponStore} {r : CouponRequest} {coupon : Coupon}
    (hload : loadCoupon store r = .ok (some coupon))
    (h : computeOrderDiscount store r customer items = .error alreadyUsed) :
    coupon.usedUpBy store customer = true := by
  unfold computeOrderDiscount at h
  rw [hload] at h
  split at h
  · cases h
  split at h
  · exact absurd h (error_ne (by decide))
  cases hcheck : checkCoupon store coupon customer items with
  | error e =>
    simp only [bind, Except.bind, hcheck] at h
    injection h with h
    rw [h] at hcheck
    exact checkCoupon_alreadyUsed hcheck
  | ok _ =>
    simp only [bind, Except.bind, hcheck] at h
    split at h
    · exact absurd h (error_ne (by decide))
    · cases h

end Refusal

/-! ## The books -/

structure UserBooks (careful : Prop) (w : World) : Prop where
  engine : w.store.flags.serverSideCouponEngine = true
  couponIds : (w.store.coupons.coupons.map Coupon.id).Nodup
  positive : ∀ c ∈ w.store.coupons.coupons, ∀ limit, c.perUserLimit = some limit → 1 ≤ limit
  groupsOf : ∀ o ∈ w.orders, o.checkoutGroupId ∈ w.groups.map checkoutGroupId
  within : WithinUserLimit w
  once : careful → ∀ c ∈ w.store.coupons.coupons, ∀ limit, c.perUserLimit = some limit → limit ≠ 1 →
    ∀ customer, (couponGroups w.orders customer c.id).Nodup

variable {w : World}

theorem UserBooks.refusedRightly (h : UserBooks True w) : RefusedRightly w := by
  intro r customer items coupon limit hload hlimit hrefused
  have hused := computeOrderDiscount_alreadyUsed hload hrefused
  have hcoupon : coupon ∈ w.store.coupons.coupons := loadCoupon_mem hload
  unfold Coupon.usedUpBy at hused
  rw [hlimit] at hused
  obtain ⟨hpos, hle⟩ := of_decide_eq_true hused
  have hle : limit ≤ (couponGroups w.orders customer coupon.id).length := by
    rw [length_couponGroups]
    exact hle
  unfold liveCheckouts
  by_cases hone : limit = 1
  · -- one live order is one live checkout
    subst hone
    rw [Nat.one_le_iff_ne_zero, Ne, length_eq_zero_iff, dedup_eq_nil]
    intro hnil
    rw [hnil, length_nil] at hle
    omega
  · rw [(h.once trivial coupon hcoupon limit hlimit hone customer).dedup]
    exact hle

def userLimits (w : World) : List (ObjectId × Option ℕ) :=
  w.store.coupons.coupons.map (fun c => (c.id, c.perUserLimit))

theorem userLimits_increment (store : CouponStore) (couponId : Option ObjectId) :
    (incrementCouponUsage store couponId).coupons.map (fun c => (c.id, c.perUserLimit))
      = store.coupons.map (fun c => (c.id, c.perUserLimit)) := by
  unfold incrementCouponUsage Coupon.use
  rw [map_map]
  refine map_congr_left (fun c _ => ?_)
  dsimp only [comp]
  split
  · split <;> rfl
  · rfl

theorem userLimits_decrement (store : CouponStore) (couponId : ObjectId) :
    (decrementCouponUsage store couponId).coupons.map (fun c => (c.id, c.perUserLimit))
      = store.coupons.map (fun c => (c.id, c.perUserLimit)) := by
  unfold decrementCouponUsage
  rw [map_map]
  refine map_congr_left (fun c _ => ?_)
  dsimp only [comp]
  split <;> rfl

structure Since (snap : World) (written : List (List Document)) (now : World) : Prop where
  engine : now.store.flags.serverSideCouponEngine = snap.store.flags.serverSideCouponEngine
  limits : userLimits now = userLimits snap
  groups : ∀ g ∈ now.groups.map checkoutGroupId,
    g ∈ snap.groups.map checkoutGroupId ∨ Document.group g ∈ written.flatten
  fewer : ∀ customer couponId, Document.coupon couponId ∉ written.flatten →
    (couponGroups now.orders customer couponId).Sublist (couponGroups snap.orders customer couponId)

theorem Since.refl (w : World) : Since w [] w where
  engine := rfl
  limits := rfl
  groups := fun _ h => .inl h
  fewer := fun _ _ _ => Sublist.refl _

/-! ### Changes that add no order -/

section Milder

theorem map_id_eq (w : World) :
    w.store.coupons.coupons.map Coupon.id = (userLimits w).map Prod.fst := by
  unfold userLimits
  rw [map_map]
  rfl

theorem coupon_of_limits {w w' : World} (h : userLimits w' = userLimits w) {c : Coupon}
    (hc : c ∈ w'.store.coupons.coupons) :
    ∃ c₀ ∈ w.store.coupons.coupons, c₀.id = c.id ∧ c₀.perUserLimit = c.perUserLimit := by
  have hmem : (c.id, c.perUserLimit) ∈ userLimits w' :=
    mem_map_of_mem (f := fun c : Coupon => (c.id, c.perUserLimit)) hc
  rw [h] at hmem
  obtain ⟨c₀, hc₀, heq⟩ := mem_map.mp hmem
  exact ⟨c₀, hc₀, congrArg Prod.fst heq, congrArg Prod.snd heq⟩

/-- The limits and groups stay, and live orders at most go. -/
structure Milder (w w' : World) : Prop where
  engine : w'.store.flags.serverSideCouponEngine = w.store.flags.serverSideCouponEngine
  limits : userLimits w' = userLimits w
  groups : w'.groups = w.groups
  groupsOf : ∀ o ∈ w'.orders, ∃ o₀ ∈ w.orders, o₀.checkoutGroupId = o.checkoutGroupId
  fewer : ∀ customer couponId,
    (couponGroups w'.orders customer couponId).Sublist (couponGroups w.orders customer couponId)

variable {careful : Prop} {w w' : World}

theorem UserBooks.milder (h : UserBooks careful w) (hw : Milder w w') : UserBooks careful w' where
  engine := hw.engine.trans h.engine
  couponIds := by
    rw [map_id_eq, hw.limits, ← map_id_eq]
    exact h.couponIds
  positive := by
    intro c hc limit hlimit
    obtain ⟨c₀, hc₀, -, hsame⟩ := coupon_of_limits hw.limits hc
    exact h.positive c₀ hc₀ limit (hsame.trans hlimit)
  groupsOf := by
    intro o ho
    obtain ⟨o₀, ho₀, hgroup⟩ := hw.groupsOf o ho
    rw [hw.groups, ← hgroup]
    exact h.groupsOf o₀ ho₀
  within := by
    intro c hc limit hlimit customer
    obtain ⟨c₀, hc₀, hid, hsame⟩ := coupon_of_limits hw.limits hc
    have hbefore := h.within c₀ hc₀ limit (hsame.trans hlimit) customer
    rw [hid] at hbefore
    exact (length_dedup_le_of_sublist (hw.fewer customer c.id)).trans hbefore
  once := by
    intro hcareful c hc limit hlimit hone customer
    obtain ⟨c₀, hc₀, hid, hsame⟩ := coupon_of_limits hw.limits hc
    have hbefore := h.once hcareful c₀ hc₀ limit (hsame.trans hlimit) hone customer
    rw [hid] at hbefore
    exact (hw.fewer customer c.id).nodup hbefore

theorem Since.milder {snap : World} {written : List (List Document)} (h : Since snap written w)
    (hw : Milder w w') (writes : List Document) : Since snap (written ++ [writes]) w' where
  engine := hw.engine.trans h.engine
  limits := hw.limits.trans h.limits
  groups := by
    intro g hg
    rw [hw.groups] at hg
    refine (h.groups g hg).imp_right (fun hwritten => ?_)
    rw [flatten_append]
    exact mem_append_left _ hwritten
  fewer := by
    intro customer couponId hnot
    rw [flatten_append, mem_append, not_or] at hnot
    exact (hw.fewer customer couponId).trans (h.fewer customer couponId hnot.1)

theorem Milder.mapOrders {f : Order → Order} (hf : KeepsOrders f)
    (hcustomer : ∀ o, (f o).customer = o.customer) :
    Milder w { w with orders := w.orders.map f } where
  engine := rfl
  limits := rfl
  groups := rfl
  groupsOf := by
    intro o ho
    obtain ⟨o₀, ho₀, rfl⟩ := mem_map.mp ho
    exact ⟨o₀, ho₀, (hf.group o₀).symm⟩
  fewer := fun customer couponId => couponGroups_map_sublist hf hcustomer w.orders customer couponId

theorem Milder.ofOrders (hengine : w'.store.flags = w.store.flags) (hlimits : userLimits w' = userLimits w)
    (hgroups : w'.groups = w.groups) (horders : w'.orders = w.orders) : Milder w w' where
  engine := by rw [hengine]
  limits := hlimits
  groups := hgroups
  groupsOf := fun o ho => ⟨o, horders ▸ ho, rfl⟩
  fewer := fun customer couponId => by rw [horders]

theorem transaction_milder {call : Call} {snap now : World} {effect : Effect World Document}
    (h : transaction call snap = some effect) (hcall : ∀ r, call ≠ .place r) :
    Milder now (effect.apply now) := by
  cases call with
  | place r => exact absurd rfl (hcall r)
  | cancel orderIds filter =>
    cases h
    have hkeeps := keepsOrders_cancel (cancellable snap.orders orderIds filter) (fun _ => true)
    refine Milder.mapOrders hkeeps (fun o => ?_)
    split <;> rfl
  | decrement couponId =>
    cases h
    exact Milder.ofOrders rfl (userLimits_decrement _ _) rfl rfl
  | advance orderId status =>
    by_cases hstatus : status = .cancelled
    · rw [transaction, if_pos hstatus] at h
      cases h
    · rw [transaction, if_neg hstatus] at h
      cases h
      refine Milder.mapOrders (keepsOrders_advance orderId status) (fun o => ?_)
      split <;> rfl
  | elsewhere store stock funds carts =>
    cases h
    exact Milder.ofOrders rfl rfl rfl rfl

end Milder

/-! ### A placement -/

section Place

variable {products : ObjectId → Option Product}

theorem sellerId_of_hydrate {item : OrderItemInput} {hydrated : HydratedItem}
    (h : hydrateItem products item = .ok hydrated) :
    (products item.product).map Product.sellerId = some hydrated.sellerId := by
  unfold hydrateItem at h
  split at h
  · cases h
  next p hp =>
    rw [ite_throw_eq_ok, ite_throw_eq_ok] at h
    obtain ⟨-, -, h⟩ := h
    obtain ⟨v, -, h⟩ := bind_eq_ok.mp h
    rw [pure_eq_ok.mp h, hp]
    rfl

theorem length_sellerIds_le {items : List ItemInput} {hydrated : List HydratedItem}
    (h : hydrateOrderItems products (items.map ItemInput.toOrderItemInput) = .ok hydrated) :
    (sellerIds hydrated).length ≤ (itemSellers products items).length := by
  refine ((sellerIds_nodup hydrated).subperm (fun s hs => ?_)).length_le
  obtain ⟨line, hline, rfl⟩ := mem_sellerIds.mp hs
  obtain ⟨input, hinput, hhydrate⟩ := mem_of_mapM h hline
  obtain ⟨item, hitem, rfl⟩ := mem_map.mp hinput
  unfold itemSellers
  rw [mem_dedup, mem_filterMap]
  exact ⟨item, hitem, sellerId_of_hydrate hhydrate⟩

variable {snap w' : World} {r : Request} {placed : Placed}

theorem priceOrder_items {w : World} {items : List ItemInput} {source : PlacementSource}
    {snapshot : PricingSnapshot} (h : priceOrder w r = .ok (items, source, snapshot)) :
    resolveOrderItemsInput w.carts r.customerId r.payload = .ok (items, source) := by
  unfold priceOrder at h
  obtain ⟨-, -, h⟩ := bind_eq_ok.mp h
  obtain ⟨⟨items', source'⟩, hitems, h⟩ := bind_eq_ok.mp h
  obtain ⟨-, -, h⟩ := bind_eq_ok.mp h
  obtain ⟨snapshot', -, h⟩ := bind_eq_ok.mp h
  obtain ⟨-, -, h⟩ := bind_eq_ok.mp h
  cases pure_eq_ok.mp h
  exact hitems

theorem length_orders_le (h : placeOrder (counting snap) r = .ok (w', placed)) (hone : OneSeller snap r) :
    placed.orders.length ≤ 1 := by
  obtain ⟨items, source, snapshot, hprice, stock, hplace, -⟩ := (committed_of_placeOrder h).priced
  have hitems : resolveOrderItemsInput snap.carts r.customerId r.payload = .ok (items, source) := by
    have hresolved := priceOrder_items hprice
    exact hresolved
  have hbuilt := priceOrder_snapshot hprice
  obtain ⟨hydrated, hhydrate, -, hlength⟩ := buildCheckoutPricingSnapshot_sellers hbuilt
  have horders := congrArg length (placeEntries_breakdowns hplace)
  rw [length_map, length_map, hlength] at horders
  dsimp only at horders
  unfold OneSeller at hone
  rw [hitems] at hone
  rw [horders]
  exact (length_sellerIds_le hhydrate).trans hone

/-- What a placement that commits has made and counted. -/
structure MadeOrders (snap : World) (r : Request) (placed : Placed) : Prop where
  group : placed.checkoutGroup.checkoutGroupId = r.checkoutGroupId
  own : ∀ o ∈ placed.orders, o.customer = r.customerId ∧ o.checkoutGroupId = r.checkoutGroupId ∧
    o.coupon = placed.checkoutGroup.coupon
  coupon : ∀ id, placed.checkoutGroup.coupon = some id → ∃ coupon,
    loadCoupon snap.store.coupons r.payload.coupon = .ok (some coupon) ∧ coupon.id = id ∧
    coupon.usedUp = false ∧
    ∀ limit, coupon.perUserLimit = some limit → 1 ≤ limit →
      getUserCouponUsageCount snap.orders r.customerId id < limit

theorem madeOrders (hengine : snap.store.flags.serverSideCouponEngine = true)
    (h : placeOrder (counting snap) r = .ok (w', placed)) : MadeOrders snap r placed := by
  have hcommitted := committed_of_placeOrder h
  obtain ⟨items, source, snapshot, hprice, stock, hplace, hgroup, -⟩ := hcommitted.priced
  have hcounted := placeOrder_counted (w := counting snap) hengine h
  have hid : placed.checkoutGroup.checkoutGroupId = r.checkoutGroupId := by
    rw [hgroup]
    rfl
  refine ⟨hid, fun o ho => ?_, fun id hcoupon => ?_⟩
  · obtain ⟨hgroupOf, hcoupon, -⟩ := hcounted.own o ho
    obtain ⟨entry, -, i, hbuilt⟩ := mem_placeEntries hplace ho
    refine ⟨?_, hgroupOf.trans hid, hcoupon⟩
    rw [hbuilt]
    rfl
  · have hsnapshot : snapshot.couponId = some id := by
      rw [← hcoupon, hgroup]
      rfl
    have hpricing : (counting snap).store.flags.serverSideCouponEngine = true := hengine
    obtain ⟨coupon, lines, hload, hid', hcheck⟩ :=
      buildCheckoutPricingSnapshot_checked hpricing (priceOrder_snapshot hprice) hsnapshot
    obtain ⟨-, hused, hfree, -⟩ := checkCoupon_eq_ok.mp hcheck
    refine ⟨coupon, hload, hid', hused, fun limit hlimit hpos => ?_⟩
    unfold Coupon.usedUpBy pricingRequest at hfree
    rw [hlimit] at hfree
    have hnot := of_decide_eq_false hfree
    by_contra hle
    rw [not_lt, ← hid'] at hle
    exact hnot ⟨hpos, hle⟩

theorem placement_eq_some {effect : Effect World Document} (h : placement r snap = some effect) :
    ∃ w' placed, placeOrder (counting snap) r = .ok (w', placed) ∧ idsFresh snap placed = true ∧
      effect = { writes := placementWrites snap w' r placed, apply := commitPlacement w' r placed } := by
  unfold placement at h
  split at h
  · cases h
  next w' placed hplace =>
    split at h
    next hfresh => exact ⟨w', placed, hplace, hfresh, (Option.some.inj h).symm⟩
    next => cases h

theorem group_mem_writes : Document.group r.checkoutGroupId ∈ placementWrites snap w' r placed := by
  unfold placementWrites
  simp

theorem coupon_mem_writes (h : MadeOrders snap r placed) {id : ObjectId}
    (hid : placed.checkoutGroup.coupon = some id) :
    Document.coupon id ∈ placementWrites snap w' r placed := by
  obtain ⟨coupon, hload, hcoupon, hfree, -⟩ := h.coupon id hid
  have hincrements : incrementsCoupon snap.store.coupons id = true := by
    refine any_eq_true.mpr ⟨coupon, loadCoupon_mem hload, ?_⟩
    rw [hfree, hcoupon]
    simp
  unfold placementWrites
  rw [hid]
  simp [hincrements]

theorem notMem_of_conflicts {written : List (List Document)} {writes : List Document}
    (h : conflicts written writes = false) {document : Document} (hmem : document ∈ writes) :
    document ∉ written.flatten := by
  intro hwritten
  obtain ⟨documents, hdocuments, hin⟩ := mem_flatten.mp hwritten
  have hconflict : conflicts written writes = true :=
    any_eq_true.mpr ⟨documents, hdocuments,
      any_eq_true.mpr ⟨document, hin, decide_eq_true hmem⟩⟩
  rw [h] at hconflict
  cases hconflict

variable {careful : Prop} {now : World} {written : List (List Document)}

theorem countedCoupon_limit (hsince : Since snap written now) (hbooks : UserBooks careful now)
    (hmade : MadeOrders snap r placed) {c : Coupon} (hc : c ∈ now.store.coupons.coupons)
    (hcoupon : placed.checkoutGroup.coupon = some c.id) :
    ∃ coupon, loadCoupon snap.store.coupons r.payload.coupon = .ok (some coupon) ∧
      coupon.perUserLimit = c.perUserLimit ∧
      ∀ limit, c.perUserLimit = some limit →
        getUserCouponUsageCount snap.orders r.customerId c.id < limit := by
  obtain ⟨coupon, hload, hid, -, hcount⟩ := hmade.coupon c.id hcoupon
  obtain ⟨c₀, hc₀, hid₀, hsame⟩ := coupon_of_limits hsince.limits.symm (loadCoupon_mem hload)
  have heq : c₀ = c := inj_on_of_nodup_map hbooks.couponIds hc₀ hc (hid₀.trans hid)
  rw [heq] at hsame
  exact ⟨coupon, hload, hsame.symm, fun limit hlimit =>
    hcount limit (hsame.symm.trans hlimit) (hbooks.positive c hc limit hlimit)⟩

theorem liveCheckouts_lt (hsince : Since snap written now) (hbooks : UserBooks careful now)
    (hmade : MadeOrders snap r placed)
    (hfree : conflicts written (placementWrites snap w' r placed) = false) {c : Coupon}
    (hc : c ∈ now.store.coupons.coupons) (hcoupon : placed.checkoutGroup.coupon = some c.id)
    {limit : ℕ} (hlimit : c.perUserLimit = some limit) :
    liveCheckouts now.orders r.customerId c.id < limit := by
  obtain ⟨coupon, -, -, hcount⟩ := countedCoupon_limit hsince hbooks hmade hc hcoupon
  have hunwritten := notMem_of_conflicts hfree (coupon_mem_writes hmade hcoupon)
  have hfewer := hsince.fewer r.customerId c.id hunwritten
  refine lt_of_le_of_lt (length_dedup_le_of_sublist hfewer) ?_
  exact lt_of_le_of_lt (liveCheckouts_le snap.orders r.customerId c.id) (hcount limit hlimit)

theorem length_orders_once (hsince : Since snap written now) (hbooks : UserBooks careful now)
    (hmade : MadeOrders snap r placed) (hplace : placeOrder (counting snap) r = .ok (w', placed))
    {c : Coupon} (hc : c ∈ now.store.coupons.coupons)
    (hcoupon : placed.checkoutGroup.coupon = some c.id) {limit : ℕ}
    (hlimit : c.perUserLimit = some limit) (hone : limit ≠ 1) (hok : CountsOnce snap r) :
    placed.orders.length ≤ 1 := by
  obtain ⟨coupon, hload, hsame, -⟩ := countedCoupon_limit hsince hbooks hmade hc hcoupon
  unfold CountsOnce at hok
  rw [hload] at hok
  rcases hok with hsingle | hseller
  · exact absurd (hsingle limit (hsame.trans hlimit)) hone
  · exact length_orders_le hplace hseller

theorem group_fresh (hsince : Since snap written now) (hmade : MadeOrders snap r placed)
    (hfresh : idsFresh snap placed = true)
    (hfree : conflicts written (placementWrites snap w' r placed) = false) :
    r.checkoutGroupId ∉ now.groups.map checkoutGroupId := by
  intro hmem
  rcases hsince.groups _ hmem with hsnap | hwritten
  · rw [← hmade.group] at hsnap
    exact (of_decide_eq_true hfresh).1 hsnap
  · exact notMem_of_conflicts hfree group_mem_writes hwritten

variable {customer couponId g : ObjectId}

theorem mem_couponGroups {orders : List Order} (h : g ∈ couponGroups orders customer couponId) :
    ∃ o ∈ orders, o.customer = customer ∧ o.coupon = some couponId ∧ o.checkoutGroupId = g := by
  obtain ⟨o, ho, rfl⟩ := mem_map.mp h
  obtain ⟨ho, huses⟩ := mem_filter.mp ho
  unfold usesCoupon at huses
  rw [Bool.and_eq_true, decide_eq_true_eq] at huses
  exact ⟨o, ho, huses.1.1, huses.1.2, rfl⟩

theorem couponGroups_placed (hmade : MadeOrders snap r placed)
    (h : g ∈ couponGroups placed.orders customer couponId) :
    customer = r.customerId ∧ placed.checkoutGroup.coupon = some couponId ∧ g = r.checkoutGroupId := by
  obtain ⟨o, ho, rfl, hcoupon, rfl⟩ := mem_couponGroups h
  obtain ⟨hcustomer, hgroup, hown⟩ := hmade.own o ho
  exact ⟨hcustomer, hown.symm.trans hcoupon, hgroup⟩

theorem UserBooks.place (hsince : Since snap written now) (hbooks : UserBooks careful now)
    (hplace : placeOrder (counting snap) r = .ok (w', placed)) (hfresh : idsFresh snap placed = true)
    (hfree : conflicts written (placementWrites snap w' r placed) = false)
    (hok : careful → CountsOnce snap r) : UserBooks careful (commitPlacement w' r placed now) := by
  have hengine : snap.store.flags.serverSideCouponEngine = true := by
    rw [← hsince.engine]
    exact hbooks.engine
  have hmade := madeOrders hengine hplace
  have hlimits : userLimits (commitPlacement w' r placed now) = userLimits now :=
    userLimits_increment now.store.coupons placed.checkoutGroup.coupon
  have horders : ∀ customer couponId,
      couponGroups (commitPlacement w' r placed now).orders customer couponId
        = couponGroups now.orders customer couponId ++ couponGroups placed.orders customer couponId :=
    fun customer couponId => couponGroups_append now.orders placed.orders customer couponId
  have hnew : ∀ c ∈ (commitPlacement w' r placed now).store.coupons.coupons,
      ∃ c₀ ∈ now.store.coupons.coupons, c₀.id = c.id ∧ c₀.perUserLimit = c.perUserLimit :=
    fun c hc => coupon_of_limits hlimits hc
  refine
    { engine := hbooks.engine, couponIds := ?_, positive := ?_, groupsOf := ?_, within := ?_, once := ?_ }
  · rw [map_id_eq, hlimits, ← map_id_eq]
    exact hbooks.couponIds
  · intro c hc limit hlimit
    obtain ⟨c₀, hc₀, -, hsame⟩ := hnew c hc
    exact hbooks.positive c₀ hc₀ limit (hsame.trans hlimit)
  · intro o ho
    change o ∈ now.orders ++ placed.orders at ho
    change _ ∈ (now.groups ++ [placed.checkoutGroup]).map checkoutGroupId
    rw [map_append, mem_append]
    rcases mem_append.mp ho with ho | ho
    · exact .inl (hbooks.groupsOf o ho)
    · refine .inr (mem_singleton.mpr ?_)
      rw [(hmade.own o ho).2.1, hmade.group]
  · intro c hc limit hlimit customer
    obtain ⟨c₀, hc₀, hid, hsame⟩ := hnew c hc
    have hbefore := hbooks.within c₀ hc₀ limit (hsame.trans hlimit) customer
    unfold liveCheckouts
    rw [horders]
    by_cases hnone : couponGroups placed.orders customer c.id = []
    · rw [hnone, append_nil, ← hid]
      exact hbefore
    · obtain ⟨g, hg⟩ := exists_mem_of_ne_nil _ hnone
      obtain ⟨rfl, hcoupon, -⟩ := couponGroups_placed hmade hg
      rw [← hid] at hcoupon
      have hlt := liveCheckouts_lt hsince hbooks hmade hfree hc₀ hcoupon (hsame.trans hlimit)
      rw [hid] at hlt
      refine (length_dedup_append_le (g := r.checkoutGroupId) (fun a ha => ?_)).trans hlt
      exact (couponGroups_placed hmade ha).2.2
  · intro hcareful c hc limit hlimit hone customer
    obtain ⟨c₀, hc₀, hid, hsame⟩ := hnew c hc
    have hbefore := hbooks.once hcareful c₀ hc₀ limit (hsame.trans hlimit) hone customer
    rw [hid] at hbefore
    rw [horders]
    by_cases hnone : couponGroups placed.orders customer c.id = []
    · rw [hnone, append_nil]
      exact hbefore
    · obtain ⟨g, hg⟩ := exists_mem_of_ne_nil _ hnone
      obtain ⟨rfl, hcoupon, -⟩ := couponGroups_placed hmade hg
      rw [← hid] at hcoupon
      have hsingle := length_orders_once hsince hbooks hmade hplace hc₀ hcoupon
        (hsame.trans hlimit) hone (hok hcareful)
      refine hbefore.append (nodup_of_length_le_one ?_) (fun a hold hplaced => ?_)
      · unfold couponGroups
        rw [length_map]
        exact (length_filter_le ..).trans hsingle
      · obtain ⟨o, ho, -, -, rfl⟩ := mem_couponGroups hold
        obtain ⟨-, -, hgroup⟩ := couponGroups_placed hmade hplaced
        have hnot := group_fresh hsince hmade hfresh hfree
        rw [← hgroup] at hnot
        exact hnot (hbooks.groupsOf o ho)

theorem Since.place (hsince : Since snap written now) (hbooks : UserBooks careful now)
    (hplace : placeOrder (counting snap) r = .ok (w', placed)) {earlier : World}
    {since : List (List Document)} (h : Since earlier since now) :
    Since earlier (since ++ [placementWrites snap w' r placed]) (commitPlacement w' r placed now) := by
  have hengine : snap.store.flags.serverSideCouponEngine = true := by
    rw [← hsince.engine]
    exact hbooks.engine
  have hmade := madeOrders hengine hplace
  refine { engine := h.engine, limits := ?_, groups := ?_, fewer := ?_ }
  · exact (userLimits_increment now.store.coupons placed.checkoutGroup.coupon).trans h.limits
  · intro g hg
    change g ∈ (now.groups ++ [placed.checkoutGroup]).map checkoutGroupId at hg
    rw [map_append, mem_append] at hg
    rw [flatten_append, mem_append]
    rcases hg with hg | hg
    · exact (h.groups g hg).imp_right .inl
    · rw [map_singleton, mem_singleton, hmade.group] at hg
      subst hg
      refine .inr (.inr ?_)
      rw [flatten_singleton]
      exact group_mem_writes
  · intro customer couponId hnot
    rw [flatten_append, flatten_singleton, mem_append, not_or] at hnot
    have hnone : couponGroups placed.orders customer couponId = [] := by
      refine couponGroups_eq_nil (fun o ho huses => hnot.2 ?_)
      exact coupon_mem_writes hmade ((hmade.own o ho).2.2.symm.trans huses.2)
    change (couponGroups (now.orders ++ placed.orders) customer couponId).Sublist _
    rw [couponGroups_append, hnone, append_nil]
    exact h.fewer customer couponId hnot.1

end Place

/-! ## Every run -/

variable {effect : Effect World Document}

theorem transaction_cases {call : Call} {snap : World} (h : transaction call snap = some effect) :
    (∃ r w' placed, call = .place r ∧ placeOrder (counting snap) r = .ok (w', placed) ∧
        idsFresh snap placed = true ∧
        effect = { writes := placementWrites snap w' r placed, apply := commitPlacement w' r placed }) ∨
      ∀ now, Milder now (effect.apply now) := by
  by_cases hcall : ∃ r, call = .place r
  · obtain ⟨r, rfl⟩ := hcall
    have hplacement : placement r snap = some effect := h
    obtain ⟨w', placed, hplace, hfresh, heffect⟩ := placement_eq_some hplacement
    exact .inl ⟨r, w', placed, rfl, hplace, hfresh, heffect⟩
  · exact .inr (fun now => transaction_milder h (fun r hr => hcall ⟨r, hr⟩))

theorem userBooks_tracking (careful : Prop) :
    Tracking transaction (UserBooks careful) Since (fun t now => careful → CommitsOnce t now) where
  refl := fun w _ => Since.refl w
  commit := by
    intro t now written effect hbooks hsince heffect hfree hok
    rcases transaction_cases heffect with ⟨r, w', placed, hcall, hplace, hfresh, rfl⟩ | hmilder
    · refine UserBooks.place hsince hbooks hplace hfresh hfree (fun hcareful => ?_)
      have honce := hok hcareful
      unfold CommitsOnce at honce
      rw [hcall] at honce
      exact honce
    · exact hbooks.milder (hmilder now)
  extend := by
    intro t now written effect hbooks hsince heffect _ earlier since h
    rcases transaction_cases heffect with ⟨r, w', placed, -, hplace, -, rfl⟩ | hmilder
    · exact Since.place hsince hbooks hplace h
    · exact h.milder (hmilder now) effect.writes

/-- Before the first placement. A coupon allows one use or more, or any number. -/
structure UserOpening (w : World) : Prop where
  engine : w.store.flags.serverSideCouponEngine = true
  couponIds : (w.store.coupons.coupons.map Coupon.id).Nodup
  positive : ∀ c ∈ w.store.coupons.coupons, ∀ limit, c.perUserLimit = some limit → 1 ≤ limit
  orders : w.orders = []

theorem UserOpening.books (h : UserOpening w) (careful : Prop) : UserBooks careful w where
  engine := h.engine
  couponIds := h.couponIds
  positive := h.positive
  groupsOf := by
    rw [h.orders]
    rintro o ⟨⟩
  within := by
    intro c hc limit hlimit customer
    rw [h.orders]
    exact Nat.zero_le _
  once := by
    intro _ c hc limit _ _ customer
    rw [h.orders]
    exact nodup_nil

def openedShop (w : World) : Snapshot.State World Document Call := { store := w }

theorem tracked_opened (hw : UserOpening w) (careful : Prop) :
    Tracked (UserBooks careful) Since (openedShop w) where
  store := hw.books careful
  running := by rintro t ⟨⟩

/-- In every run no customer has more live checkouts with a coupon than it allows; in every run in
which each checkout with a coupon for several uses is of one seller, no customer with fewer is
refused for having used it. -/
theorem user_limit_exact {w : World} (hw : UserOpening w) (as : List (Snapshot.Action Call)) :
    Along (step transaction) (fun s => WithinUserLimit s.store) (openedShop w) as ∧
      (Guarded (step transaction) (CommitsWith transaction CommitsOnce) (openedShop w) as →
        Along (step transaction) (fun s => RefusedRightly s.store) (openedShop w) as) := by
  constructor
  · have hguard : Guarded (step transaction) (CommitsWith transaction
        (fun t now => False → CommitsOnce t now)) (openedShop w) as := by
      refine guarded_of_forall (fun s a => ?_) _ _
      cases a with
      | start | abort => trivial
      | commit index => exact fun t _ _ hfalse => hfalse.elim
    have htracked := along_of_tracking (userBooks_tracking False) (tracked_opened hw False) hguard
    exact htracked.mono (fun _ h => h.store.within)
  · intro honce
    have hguard : Guarded (step transaction) (CommitsWith transaction
        (fun t now => True → CommitsOnce t now)) (openedShop w) as := by
      refine honce.mono (fun s a ha => ?_)
      cases a with
      | start | abort => trivial
      | commit index => exact fun t ht heffect _ => ha t ht heffect
    have htracked := along_of_tracking (userBooks_tracking True) (tracked_opened hw True) hguard
    exact htracked.mono (fun _ h => h.store.refusedRightly)

def twiceCoupon : Coupon :=
  { warmCoupon with usageLimit := none, perUserLimit := some 2 }

/-- A shop with scarves of one seller, hats of another, and the coupon. -/
def twoSellers : World where
  store := { scarfShop.store with
    flags := { walletRedemptionReducesPayable := false }
    settings := { minOrderValueAfterCoupon := false }
    products := fun id =>
      if id = 3 then some { name := "Scarf", price := 200, headerId := 1, sellerId := 7 }
      else if id = 5 then some { name := "Hat", price := 200, headerId := 1, sellerId := 8 }
      else none
    coupons := { coupons := [twiceCoupon] } }
  stock := fun id => if id = 3 ∨ id = 5 then some { stock := 5 } else none
  funds := scarfShop.funds

/-- These products, one of each, with the coupon; the lines name them under `id`. -/
def twiceRequest (products : List ObjectId) (group : ObjectId) (orderId : ℕ → ObjectId) : Request where
  customerId := 1
  payload :=
    { items := products.map (fun id => { product := id, quantity := 1, underId := true })
      paymentMode := "COD"
      coupon := { couponId := some (some 4) } }
  checkoutGroupId := group
  orderId

theorem twoSellers_opening : UserOpening twoSellers where
  engine := rfl
  couponIds := nodup_singleton _
  positive := by
    intro c hc limit hlimit
    cases mem_singleton.mp hc
    cases hlimit
    decide
  orders := rfl

/-- Two checkouts of one seller that overlap: the second finds the coupon written. -/
def overlapping : List (Snapshot.Action Call) :=
  [.start (.place (twiceRequest [3] 1 id)), .start (.place (twiceRequest [3] 2 (· + 10))),
    .commit 0, .commit 1]

theorem user_limit_overlapping :
    Along (step transaction) (fun s => WithinUserLimit s.store) (openedShop twoSellers)
        overlapping ∧
      Along (step transaction) (fun s => RefusedRightly s.store) (openedShop twoSellers)
        overlapping := by
  obtain ⟨hwithin, hrefused⟩ := user_limit_exact twoSellers_opening overlapping
  exact ⟨hwithin, hrefused (by decide +kernel)⟩

def twoOrders : List (Snapshot.Action Call) :=
  [.start (.place (twiceRequest [3, 5] 1 id)), .commit 0]

def refusedEarly (w : World) (r : CouponRequest) (customer : ObjectId) (items : List HydratedItem) :
    Bool :=
  match loadCoupon (counting w).store.coupons r,
      computeOrderDiscount (counting w).store.coupons r (some customer) items with
  | .ok (some coupon), .error e =>
    decide (e = alreadyUsed) && coupon.perUserLimit.any (fun limit =>
      decide (liveCheckouts w.orders customer coupon.id < limit))
  | _, _ => false

theorem RefusedRightly.not_early (h : RefusedRightly w) (r : CouponRequest) (customer : ObjectId)
    (items : List HydratedItem) : refusedEarly w r customer items = false := by
  unfold refusedEarly
  split
  next coupon e hload hrefused =>
    cases hlimit : coupon.perUserLimit with
    | none => rw [Option.any_none, Bool.and_false]
    | some limit =>
      rw [Option.any_some, Bool.and_eq_false_iff]
      by_cases hused : e = alreadyUsed
      · subst hused
        have hle := h r customer items coupon limit hload hlimit hrefused
        exact .inr (decide_eq_false (by omega))
      · exact .inl (decide_eq_false hused)
  next => rfl

/-- The lines of the checkout of two sellers at the server's prices. -/
def scarfAndHat : List HydratedItem :=
  [{ productId := 3, productName := "Scarf", quantity := 1, price := 20000, headerCategoryId := 1,
     sellerId := 7, variantSku := "", productDeliveryFee := 0 },
   { productId := 5, productName := "Hat", quantity := 1, price := 20000, headerCategoryId := 1,
     sellerId := 8, variantSku := "", productDeliveryFee := 0 }]

theorem sellerIds_scarfAndHat : sellerIds scarfAndHat = [7, 8] :=
  mergeSort_of_pairwise (by decide)

def afterCheckout (orders : List Order) : World :=
  { twoSellers with
    store := { twoSellers.store with
      coupons := incrementCouponUsage twoSellers.store.coupons (some 4) }
    orders }

def twoSellersSnapshot : PricingSnapshot :=
  snapshotOf (some ⟨4, 2000, false⟩) (roundUpAll (applyWalletAllocation twoSellers.store.flags
    (beforeWallet (counting twoSellers).store scarfAndHat false 0
      ([7, 8].map (fun s => entryAt (counting twoSellers).store scarfAndHat 2000 s 0))) 0))

theorem snapshot_twoSellers :
    buildCheckoutPricingSnapshot (counting twoSellers).store
      (pricingRequest 1 (twiceRequest [3, 5] 1 id).payload (twiceRequest [3, 5] 1 id).payload.items)
        = .ok twoSellersSnapshot := by
  refine buildCheckoutPricingSnapshot_eq_ok.mpr ⟨some ⟨4, 2000, false⟩, _, ?_, rfl⟩
  refine priceBeforeWallet_eq_ok.mpr ⟨scarfAndHat, _, ?_, by decide, ?_, ?_, rfl⟩
  · exact ok_of_toOption (by decide +kernel)
  · exact ok_of_toOption (by decide +kernel)
  · rw [sellerIds_scarfAndHat]
    rfl

/-- A placement succeeds where each of its steps does. -/
theorem placeOrder_of_parts {r : Request} {items : List ItemInput} {source : PlacementSource}
    {snapshot : PricingSnapshot} {stock : Inventory.Products} {orders : List Order} {funds : Funds}
    (hmode : assertModeAllowed w.store.settings r.payload = .ok ())
    (hprice : priceOrder w r = .ok (items, source, snapshot))
    (hplace : placeEntries r snapshot 0 w.stock snapshot.sellerBreakdownEntries = .ok (stock, orders))
    (hredeem : redeem w.store.flags.walletRedemptionReducesPayable w.funds r.customerId r.checkoutGroupId
      (walletDebitAmount w.store.flags snapshot r.payload.redeemed) = .ok funds) :
    ∃ w', placeOrder w r = .ok (w',
      { checkoutGroup := buildCheckoutGroup r snapshot orders
        orders
        walletDebit := max 0 (walletDebitAmount w.store.flags snapshot r.payload.redeemed) }) := by
  unfold placeOrder placeOrderTransaction
  rw [hmode, hprice]
  simp only [bind, Except.bind, hplace, hredeem]
  exact ⟨_, rfl⟩

theorem placeOrder_twoSellers : ∃ w' placed,
    placeOrder (counting twoSellers) (twiceRequest [3, 5] 1 id) = .ok (w', placed) ∧
      placed.checkoutGroup.coupon = some 4 ∧ idsFresh twoSellers placed = true ∧
      refusedEarly (afterCheckout placed.orders) { couponId := some (some 4) } 1 scarfAndHat = true := by
  have hprice : priceOrder (counting twoSellers) (twiceRequest [3, 5] 1 id)
      = .ok ((twiceRequest [3, 5] 1 id).payload.items, .directItems, twoSellersSnapshot) := by
    unfold priceOrder
    refine bind_eq_ok.mpr ⟨(), ok_of_toOption (by decide +kernel), ?_⟩
    refine bind_eq_ok.mpr ⟨_, rfl, ?_⟩
    refine bind_eq_ok.mpr ⟨(), ok_of_toOption (by decide +kernel), ?_⟩
    refine bind_eq_ok.mpr ⟨_, snapshot_twoSellers, ?_⟩
    exact bind_eq_ok.mpr ⟨(), ok_of_toOption (by decide +kernel), rfl⟩
  have horders : (placeEntries (twiceRequest [3, 5] 1 id) twoSellersSnapshot 0 (counting twoSellers).stock
      twoSellersSnapshot.sellerBreakdownEntries).toOption.any (fun result =>
        decide ((result.2.map Order.orderId).Nodup) &&
          refusedEarly (afterCheckout result.2) { couponId := some (some 4) } 1 scarfAndHat) = true := by
    decide +kernel
  cases hplace : placeEntries (twiceRequest [3, 5] 1 id) twoSellersSnapshot 0 (counting twoSellers).stock
      twoSellersSnapshot.sellerBreakdownEntries with
  | error e =>
    rw [hplace] at horders
    cases horders
  | ok result =>
    rw [hplace, Except.toOption, Option.any_some, Bool.and_eq_true, decide_eq_true_eq] at horders
    have hdebit : walletDebitAmount (counting twoSellers).store.flags twoSellersSnapshot
        (twiceRequest [3, 5] 1 id).payload.redeemed ≤ 0 := by decide +kernel
    have hmode : assertModeAllowed (counting twoSellers).store.settings
        (twiceRequest [3, 5] 1 id).payload = .ok () := ok_of_toOption (by decide +kernel)
    obtain ⟨stock, orders⟩ := result
    obtain ⟨w', hplaced⟩ := placeOrder_of_parts hmode hprice hplace (if_pos hdebit)
    refine ⟨w', _, hplaced, rfl, ?_, ?_⟩
    · exact decide_eq_true ⟨not_mem_nil, horders.1⟩
    · exact horders.2

theorem exec_start_commit {call : Call} (h : transaction call w = some effect) :
    (exec (step transaction) (openedShop w) [.start call, .commit 0]).store
      = effect.apply w := by
  have heffect : Snapshot.State.effect? transaction
      ({ store := w, running := [some ⟨call, w, 0⟩] } : Snapshot.State World Document Call)
      ⟨call, w, 0⟩ = some effect := by
    unfold Snapshot.State.effect?
    dsimp only
    rw [h]
    rfl
  rw [exec_cons, exec_cons, exec_nil, show step transaction (openedShop w) (.start call)
      = { store := w, running := [some ⟨call, w, 0⟩] } from rfl]
  unfold step
  simp only [getElem?_cons_zero, Option.join_some, heffect]

/-- One checkout of two sellers makes two orders, and the customer is refused the second use. -/
theorem refused_after_one_checkout :
    ¬(Along (step transaction) (fun s => WithinUserLimit s.store) (openedShop twoSellers)
        twoOrders ∧
      Along (step transaction) (fun s => RefusedRightly s.store) (openedShop twoSellers)
        twoOrders) := by
  rintro ⟨-, hrefused⟩
  obtain ⟨w', placed, hplace, hcoupon, hfresh, hearly⟩ := placeOrder_twoSellers
  have hplacement : placement (twiceRequest [3, 5] 1 id) twoSellers
      = some { writes := placementWrites twoSellers w' (twiceRequest [3, 5] 1 id) placed
               apply := commitPlacement w' (twiceRequest [3, 5] 1 id) placed } := by
    unfold placement
    rw [hplace]
    exact if_pos hfresh
  have htransaction : transaction (.place (twiceRequest [3, 5] 1 id)) twoSellers
      = some { writes := placementWrites twoSellers w' (twiceRequest [3, 5] 1 id) placed
               apply := commitPlacement w' (twiceRequest [3, 5] 1 id) placed } := hplacement
  have hrun := exec_start_commit htransaction
  have hnot := RefusedRightly.not_early hrefused.last { couponId := some (some 4) } 1 scarfAndHat
  rw [twoOrders, hrun] at hnot
  have hsame : refusedEarly (commitPlacement w' (twiceRequest [3, 5] 1 id) placed twoSellers)
      { couponId := some (some 4) } 1 scarfAndHat
        = refusedEarly (afterCheckout placed.orders) { couponId := some (some 4) } 1 scarfAndHat := by
    unfold commitPlacement
    rw [hcoupon]
    rfl
  rw [hsame, hearly] at hnot
  cases hnot

end DiscountBazar.Placement.UserLimit
