/-
The rules of a coupon where it is used (`couponController.js`, `couponService.js`).

The admin creates, edits and deletes coupons while orders use them up. A coupon that a checkout
accepts is one of these, and what `computeOrderDiscount` asks of the cart and of the customer is set
against what is stored on it.
-/
import DiscountBazar.Pricing.Conserved
import DiscountBazar.Pricing.CouponRules

namespace DiscountBazar.Pricing

open Transaction Runs Option Table

/-! ## The coupons -/

/-- The days of the server's time zone: `setHours(23, 59, 59, 999)` and the first of the month. -/
structure Calendar where
  dayOf : Date → ℤ
  endOf : ℤ → Date
  inDay : ∀ day, dayOf (endOf day) = day
  monthStart : Date → Date

def Calendar.endOfDay (cal : Calendar) (t : Date) : Date := cal.endOf (cal.dayOf t)

/-- A coupon ends with the day that the admin enters. -/
def Calendar.toEndOfDay (cal : Calendar) (input : CouponInput) : CouponInput :=
  { input with validTill := input.validTill.map (Option.map (Option.map cal.endOfDay)) }

structure CouponDoc where
  id : ObjectId
  usedCount : ℕ := 0
  value : CouponValue
  deriving DecidableEq

abbrev Coupons := Table CouponDoc.id

def CouponDoc.coupon (d : CouponDoc) : Coupon where
  id := d.id
  code := d.value.code
  discountType := d.value.discountType
  discountValue := d.value.discountValue
  maxDiscount := d.value.maxDiscount
  couponType := d.value.couponType
  minOrderValue := d.value.minOrderValue
  minItems := d.value.minItems
  applicableCategories := d.value.applicableCategories
  monthlyVolumeThreshold := d.value.monthlyVolumeThreshold
  usageLimit := d.value.usageLimit
  perUserLimit := d.value.perUserLimit
  usedCount := d.usedCount
  validFrom := d.value.validFrom
  validTill := d.value.validTill
  isActive := d.value.isActive.getD true

def createCoupon (cal : Calendar) (headers : ObjectId → Bool) (id : ObjectId) (body : CouponInput)
    (coupons : Coupons) : Except String Coupons := do
  let value ← normalizeCouponInput headers (cal.toEndOfDay body) none
  if coupons.rows.any (fun d => decide (d.value.code = value.code)) then
    throw "Coupon code already exists"
  else pure (coupons.insert { id, value := { value with isActive := some (value.isActive.getD true) } })

def updateCoupon (cal : Calendar) (headers : ObjectId → Bool) (id : ObjectId) (body : CouponInput)
    (coupons : Coupons) : Except String Coupons :=
  match coupons.get? id with
  | none => throw "Coupon not found"
  | some d => do
    let value ← normalizeCouponInput headers (cal.toEndOfDay body) (some d.value)
    if coupons.rows.any (fun d' => decide (d'.id ≠ id ∧ d'.value.code = value.code)) then
      throw "Coupon code already exists"
    else
      pure (coupons.set
        { d with value := { value with isActive := value.isActive <|> d.value.isActive } })

inductive CouponOp where
  | createCoupon (headers : ObjectId → Bool) (id : ObjectId) (body : CouponInput)
  | updateCoupon (headers : ObjectId → Bool) (id : ObjectId) (body : CouponInput)
  | deleteCoupon (id : ObjectId)
  /-- Orders move the counter. -/
  | countUse (id : ObjectId) (usedCount : ℕ)

def couponStep (cal : Calendar) (coupons : Coupons) : CouponOp → Coupons
  | .createCoupon headers id body =>
    match createCoupon cal headers id body coupons with
    | .ok coupons' => coupons'
    | .error _ => coupons
  | .updateCoupon headers id body =>
    match updateCoupon cal headers id body coupons with
    | .ok coupons' => coupons'
    | .error _ => coupons
  | .deleteCoupon id => coupons.filter (fun d => decide (d.id ≠ id))
  | .countUse id usedCount =>
    match coupons.get? id with
    | none => coupons
    | some d => coupons.set { d with usedCount }

/-! ## The checkout -/

/-- An order, as far as coupons look at it. -/
structure OrderRow where
  customer : ObjectId
  coupon : Option ObjectId := none
  createdAt : Date
  grandTotal : ℚ := 0
  pricingTotal : ℚ := 0
  /-- `status` is one of the `CANCELLED_ORDER_STATUSES`, or `workflowStatus` is `CANCELLED`. -/
  cancelled : Bool := false

def getUserCouponUsageCount (orders : List OrderRow) (customer coupon : ObjectId) : ℕ :=
  (orders.filter (fun o =>
    decide (o.customer = customer ∧ o.coupon = some coupon) && !o.cancelled)).length

def getMonthlyVolumeForCustomer (orders : List OrderRow) (monthStart now : Date)
    (customer : ObjectId) : ℚ :=
  ((orders.filter (fun o =>
    decide (o.customer = customer ∧ monthStart ≤ o.createdAt ∧ o.createdAt ≤ now))).map
      (fun o => orNumber o.grandTotal o.pricingTotal)).sum

/-- A coupon is asked for on a cart at server prices. -/
structure CouponCheckout where
  orders : List OrderRow
  now : Date
  categoryName : ObjectId → Option String := fun _ => none
  request : CouponRequest
  customerId : Option ObjectId
  items : List HydratedItem
  hydrated : ∃ products orderItems, hydrateOrderItems products orderItems = .ok items

def CouponCheckout.counted (q : CouponCheckout) (cal : Calendar) (customer : ObjectId) : ℚ :=
  getMonthlyVolumeForCustomer q.orders (cal.monthStart q.now) q.now customer

def CouponCheckout.store (q : CouponCheckout) (cal : Calendar) (coupons : Coupons) : CouponStore where
  coupons := coupons.rows.map CouponDoc.coupon
  now := q.now
  userUsage := getUserCouponUsageCount q.orders
  monthlyVolume := q.counted cal
  categoryName := q.categoryName

/-- What the customer's orders of the month come to without the cancelled ones. -/
def CouponCheckout.spent (q : CouponCheckout) (cal : Calendar) (customer : ObjectId) : ℚ :=
  getMonthlyVolumeForCustomer (q.orders.filter (fun o => !o.cancelled)) (cal.monthStart q.now) q.now
    customer

/-- The conditions that are stored on the coupon, for a customer who spent `volume`. -/
structure ConditionsHold (q : CouponCheckout) (volume : ObjectId → ℚ) (coupon : Coupon) : Prop where
  active : coupon.isActive = true
  begun : coupon.validFrom ≤ q.now
  notOver : q.now ≤ coupon.validTill
  uses : ∀ limit ∈ coupon.usageLimit, coupon.usedCount < limit
  perUser : ∀ limit ∈ coupon.perUserLimit, ∀ customer ∈ q.customerId,
    getUserCouponUsageCount q.orders customer coupon.id < limit
  monthly : ∀ threshold ∈ coupon.monthlyVolumeThreshold, ∃ customer ∈ q.customerId,
    threshold ≤ volume customer
  items : coupon.minItems ≤ (q.items.map HydratedItem.quantity).sum
  category : coupon.applicableCategories ≠ [] →
    ∃ item ∈ q.items, item.headerCategoryId ∈ coupon.applicableCategories
  minOrder : coupon.minOrderValue ≤ fromPaise (cartSubtotal q.items)

/-- The discount is one that the coupon allows. -/
structure Applied (q : CouponCheckout) (cal : Calendar) (coupon : Coupon) (discount : ℤ) : Prop where
  nonneg : 0 ≤ discount
  withinCart : discount ≤ cartSubtotal q.items
  withinCap : ∀ cap ∈ coupon.maxDiscount, fromPaise discount ≤ cap
  withinValue : coupon.discountType = .fixed → fromPaise discount ≤ coupon.discountValue
  conditions : ConditionsHold q (q.spent cal) coupon

/-- Every field that is sent is sent as it is stored; none has to be. -/
def Own (body : CouponInput) (v : CouponValue) : Prop := body.over v.fields = v.fields

/-- What is accepted at the checkout is what the admin set, and an edit that sets nothing new
changes nothing. -/
structure RulesApplied (q : CouponCheckout) (cal : Calendar) (coupons : Coupons) : Prop where
  accepted : ∀ result, computeOrderDiscount (q.store cal coupons) q.request q.customerId q.items
    = .ok (some result) →
    ∃ d ∈ coupons.rows, d.id = result.couponId ∧ Applied q cal d.coupon result.discountAmount
  edits : ∀ d ∈ coupons.rows, ∀ headers body, Own body d.value →
    couponStep cal coupons (.updateCoupon headers d.id body) = coupons

/-! ## What is stored -/

/-- Every coupon has passed the rules, and ends with a day. -/
def Stored (cal : Calendar) (coupons : Coupons) : Prop :=
  ∀ d ∈ coupons.rows, (∃ headers c, Checked headers c d.value) ∧
    cal.endOfDay d.value.validTill = d.value.validTill

section Calendar

variable {cal : Calendar} {headers : ObjectId → Bool} {body : CouponInput} {v : CouponValue}

theorem Calendar.endOfDay_endOfDay (t : Date) : cal.endOfDay (cal.endOfDay t) = cal.endOfDay t := by
  unfold Calendar.endOfDay
  rw [cal.inDay]

theorem normalizeCouponInput_ends {existing : Option CouponValue}
    (h : normalizeCouponInput headers (cal.toEndOfDay body) existing = .ok v)
    (hends : ∀ e ∈ existing, cal.endOfDay e.validTill = e.validTill) :
    cal.endOfDay v.validTill = v.validTill := by
  have hdates := (checkCouponInput_eq_ok.mp h).1.dates
  unfold readDates at hdates
  simp only [bind_eq_ok, ite_throw_eq_ok, pure_eq_ok] at hdates
  obtain ⟨_, -, _, hlast, -, heq⟩ := hdates
  obtain ⟨t, ht, hlast⟩ := required_eq_ok.mp hlast
  cases heq
  cases hlast
  unfold CouponInput.over Calendar.toEndOfDay at ht
  dsimp only at ht
  cases hsent : body.validTill with
  | none =>
    rw [hsent] at ht
    cases existing with
    | none => cases ht
    | some e =>
      have htill : e.validTill = v.validTill := some.inj (some.inj ht)
      rw [← htill]
      exact hends e rfl
  | some sent =>
    rw [hsent] at ht
    rcases sent with _ | _ | t'
    · cases ht
    · cases ht
    · have htill : cal.endOfDay t' = v.validTill := some.inj (some.inj ht)
      rw [← htill]
      exact Calendar.endOfDay_endOfDay t'

theorem Own.toEndOfDay (h : Own body v) (hends : cal.endOfDay v.validTill = v.validTill) :
    (cal.toEndOfDay body).over v.fields = v.fields := by
  have hover : (cal.toEndOfDay body).over v.fields = { body.over v.fields with
      validTill := body.validTill.map (Option.map (Option.map cal.endOfDay)) <|> v.fields.validTill } :=
    rfl
  have hsent : body.validTill = none ∨ body.validTill = v.fields.validTill := by
    have htill := congrArg CouponInput.validTill h
    unfold CouponInput.over at htill
    dsimp only at htill
    cases hbody : body.validTill with
    | none => exact .inl rfl
    | some sent =>
      rw [hbody] at htill
      exact .inr htill
  rw [hover, show body.over v.fields = v.fields from h]
  rcases hsent with hsent | hsent
  · rw [hsent]
    rfl
  · rw [hsent]
    unfold CouponValue.fields
    dsimp only
    rw [map_some, map_some, map_some, hends]
    rfl

theorem createCoupon_eq_ok {id : ObjectId} {coupons coupons' : Coupons} :
    createCoupon cal headers id body coupons = .ok coupons' ↔
      ∃ value, normalizeCouponInput headers (cal.toEndOfDay body) none = .ok value ∧
        (∀ d ∈ coupons.rows, d.value.code ≠ value.code) ∧
        coupons' = coupons.insert
          { id, value := { value with isActive := some (value.isActive.getD true) } } := by
  unfold createCoupon
  simp only [bind_eq_ok, ite_throw_eq_ok, pure_eq_ok, List.any_eq_true, decide_eq_true_eq, not_exists,
    not_and, ne_eq]

theorem updateCoupon_eq_ok {id : ObjectId} {coupons coupons' : Coupons} :
    updateCoupon cal headers id body coupons = .ok coupons' ↔
      ∃ d, coupons.get? id = some d ∧ ∃ value,
        normalizeCouponInput headers (cal.toEndOfDay body) (some d.value) = .ok value ∧
        (∀ d' ∈ coupons.rows, d'.id ≠ id → d'.value.code ≠ value.code) ∧
        coupons' = coupons.set
          { d with value := { value with isActive := value.isActive <|> d.value.isActive } } := by
  unfold updateCoupon
  cases hget : coupons.get? id with
  | none => simp [throw, throwThe, MonadExceptOf.throw]
  | some d =>
    simp only [bind_eq_ok, ite_throw_eq_ok, pure_eq_ok, List.any_eq_true, decide_eq_true_eq,
      not_exists, not_and, ne_eq, some.injEq, exists_eq_left']

theorem edit_own {coupons : Coupons} (hstored : Stored cal coupons) {d : CouponDoc}
    (hd : d ∈ coupons.rows) (hown : Own body d.value) :
    couponStep cal coupons (.updateCoupon headers d.id body) = coupons := by
  obtain ⟨⟨headers', c, hchecked⟩, hends⟩ := hstored d hd
  unfold couponStep
  dsimp only
  split
  next coupons' hupdate =>
    obtain ⟨d', hget, value, hvalue, -, rfl⟩ := updateCoupon_eq_ok.mp hupdate
    rw [get?_of_mem hd] at hget
    cases hget
    unfold normalizeCouponInput at hvalue
    rw [elim_some, hown.toEndOfDay hends] at hvalue
    cases hchecked.again hvalue
    have hsame : (d.value.isActive <|> d.value.isActive) = d.value.isActive := by
      cases d.value.isActive <;> rfl
    rw [hsame]
    exact set_of_mem hd
  next => rfl

end Calendar

/-- A coupon is stored with the value that passed the rules, but for its `isActive`. -/
theorem Checked.stored {headers : ObjectId → Bool} {c : CouponInput} {v : CouponValue}
    (h : Checked headers c v) (active : Option Bool) :
    Checked headers c { v with isActive := active } :=
  ⟨h.code, h.title, h.description, h.couponType, h.discountType, h.discount, h.minOrder, h.minItems,
    h.categories, h.threshold, h.usageLimit, h.perUserLimit, h.dates⟩

theorem couponStep_stored {cal : Calendar} (coupons : Coupons) (op : CouponOp)
    (h : Stored cal coupons) : Stored cal (couponStep cal coupons op) := by
  cases op with
  | createCoupon headers id body =>
    unfold couponStep
    dsimp only
    split
    next coupons' hcreate =>
      obtain ⟨value, hvalue, -, rfl⟩ := createCoupon_eq_ok.mp hcreate
      have hends := normalizeCouponInput_ends hvalue (fun e he => nomatch he)
      intro d hd
      rcases mem_of_mem_insert hd with hd | rfl
      · exact h d hd
      · exact ⟨⟨_, _, (checkCouponInput_eq_ok.mp hvalue).1.stored _⟩, hends⟩
    next => exact h
  | updateCoupon headers id body =>
    unfold couponStep
    dsimp only
    split
    next coupons' hupdate =>
      obtain ⟨d, hget, value, hvalue, -, rfl⟩ := updateCoupon_eq_ok.mp hupdate
      have hends := normalizeCouponInput_ends hvalue (fun e he => by
        cases he
        exact (h d (mem_of_get? hget)).2)
      intro d' hd'
      rcases mem_set.mp hd' with ⟨hd', -⟩ | ⟨rfl, -⟩
      · exact h d' hd'
      · exact ⟨⟨_, _, (checkCouponInput_eq_ok.mp hvalue).1.stored _⟩, hends⟩
    next => exact h
  | deleteCoupon id => exact fun d hd => h d (List.mem_of_mem_filter hd)
  | countUse id usedCount =>
    unfold couponStep
    dsimp only
    split
    next => exact h
    next d hget =>
      intro d' hd'
      rcases mem_set.mp hd' with ⟨hd', -⟩ | ⟨rfl, -⟩
      · exact h d' hd'
      · exact h d (mem_of_get? hget)

theorem stored_of_ops {cal : Calendar} (ops : List CouponOp) :
    Stored cal (exec (couponStep cal) empty ops) :=
  exec_induction couponStep_stored (fun _ hd => absurd hd List.not_mem_nil) ops

/-! ## What the rules leave -/

section Left

variable {headers : ObjectId → Bool} {c : CouponInput} {v : CouponValue}

theorem optional_mem {α β : Type} {check : α → Option β} {message : String} {o : Option (Option α)}
    {r : Option β} (h : optional check message o = .ok r) {b : β} (hb : b ∈ r) :
    ∃ a, check a = some b := by
  cases o with
  | none =>
    cases h
    cases hb
  | some o =>
    obtain ⟨b', hread, rfl⟩ := map_eq_ok.mp h
    cases hb
    obtain ⟨a, -, ha⟩ := required_eq_ok.mp hread
    exact ⟨a, ha⟩

theorem of_guard {p : ℚ → Bool} {a b : ℚ} (h : guard p a = some b) : p b = true := by
  obtain ⟨rfl, hp⟩ := guard_eq_some_iff.mp h
  exact hp

theorem Checked.threshold_pos (h : Checked headers c v) :
    ∀ t ∈ v.monthlyVolumeThreshold, v.couponType = .monthlyVolume ∧ 0 < t := by
  intro t ht
  have hread := h.threshold
  unfold readThreshold at hread
  split at hread
  next hvolume =>
    obtain ⟨t', hread, heq⟩ := map_eq_ok.mp hread
    rw [← heq] at ht
    cases ht
    obtain ⟨a, -, ha⟩ := required_eq_ok.mp hread
    exact ⟨hvolume, of_decide_eq_true (of_guard ha)⟩
  next =>
    rw [← Except.ok.inj hread] at ht
    cases ht

theorem Checked.categoryBased (h : Checked headers c v) :
    v.applicableCategories ≠ [] → v.couponType = .categoryBased := by
  intro hne
  have hread := h.categories
  unfold readCategories at hread
  dsimp only at hread
  split at hread
  next hcategory => exact hcategory
  next => exact absurd (Except.ok.inj hread).symm hne

theorem Checked.perUser_pos (h : Checked headers c v) : ∀ limit ∈ v.perUserLimit, 0 < limit := by
  intro limit hlimit
  obtain ⟨q, hq⟩ := optional_mem h.perUserLimit hlimit
  unfold atLeast at hq
  split at hq
  next hwhole =>
    have hnat := some.inj hq
    omega
  next => cases hq

/-- The value and the cap of each kind of discount. -/
def WellSet (discountType : DiscountType) (value : ℚ) (cap : Option ℚ) : Prop :=
  match discountType with
  | .percentage => 0 < value ∧ value ≤ 100 ∧ ∀ q ∈ cap, 0 < q
  | .fixed => 0 < value ∧ cap = none
  | .freeDelivery => cap = none

theorem Checked.wellSet (h : Checked headers c v) :
    WellSet v.discountType v.discountValue v.maxDiscount := by
  have hread := h.discount
  unfold readDiscount at hread
  cases hkind : v.discountType with
  | percentage =>
    rw [hkind] at hread
    simp only [bind_eq_ok, pure_eq_ok] at hread
    obtain ⟨_, hvalue, _, hcap, heq⟩ := hread
    obtain ⟨rfl, rfl⟩ := Prod.ext_iff.mp heq
    obtain ⟨a, -, ha⟩ := required_eq_ok.mp hvalue
    obtain ⟨hpos, hle⟩ := of_decide_eq_true (of_guard ha)
    refine ⟨hpos, hle, fun q hq => ?_⟩
    obtain ⟨a', ha'⟩ := optional_mem hcap hq
    exact of_decide_eq_true (of_guard ha')
  | fixed =>
    rw [hkind] at hread
    simp only [bind_eq_ok, pure_eq_ok] at hread
    obtain ⟨_, hvalue, heq⟩ := hread
    obtain ⟨rfl, hnone⟩ := Prod.ext_iff.mp heq
    obtain ⟨a, -, ha⟩ := required_eq_ok.mp hvalue
    exact ⟨of_decide_eq_true (of_guard ha), hnone⟩
  | freeDelivery =>
    rw [hkind] at hread
    exact (Prod.ext_iff.mp (Except.ok.inj hread)).2.symm

/-- Whatever is created, edited and deleted, a stored coupon has a value and a cap of its kind and ends
with a day, and an edit that changes nothing leaves it as it is, if it is accepted. -/
theorem stored_coupons_wellSet {cal : Calendar} (ops : List CouponOp) :
    Along (couponStep cal) (fun coupons => ∀ d ∈ coupons.rows,
      WellSet d.value.discountType d.value.discountValue d.value.maxDiscount ∧
        cal.endOfDay d.value.validTill = d.value.validTill ∧
        ∀ headers v, normalizeCouponInput headers {} (some d.value) = .ok v → v = d.value) empty
      ops := by
  refine (along_of_step couponStep_stored (stored_of_ops []) ops).mono (fun _ h d hd => ?_)
  obtain ⟨⟨_, _, hchecked⟩, hends⟩ := h d hd
  exact ⟨hchecked.wellSet, hends, fun _ _ h => hchecked.again h⟩

/-- Coupons for free delivery are so by either of their kinds. -/
theorem Checked.isFreeDelivery (h : Checked headers c v) :
    (v.discountType = .freeDelivery ∨ v.couponType = .freeDelivery)
      ↔ v.discountType = .freeDelivery := by
  refine or_iff_left_of_imp fun hfree => ?_
  have hread := h.discountType
  unfold readDiscountType at hread
  rw [if_pos hfree] at hread
  exact (Except.ok.inj hread).symm

end Left

/-! ## The conditions -/

section Conditions

variable {q : CouponCheckout} {cal : Calendar} {coupons : Coupons} {d : CouponDoc}
  {headers : ObjectId → Bool} {c : CouponInput}

theorem inForce_iff (coupon : Coupon) (now : Date) : coupon.inForce now = true ↔
    coupon.isActive = true ∧ coupon.validFrom ≤ now ∧ now ≤ coupon.validTill := by
  unfold Coupon.inForce
  rw [Bool.and_eq_true, Bool.and_eq_true, decide_eq_true_iff, decide_eq_true_iff, and_assoc]

theorem usedUp_iff (coupon : Coupon) : coupon.usedUp = false ↔
    ∀ limit ∈ coupon.usageLimit, coupon.usedCount < limit := by
  unfold Coupon.usedUp
  cases coupon.usageLimit with
  | none => simp
  | some limit => simp

theorem usedUpBy_iff {coupon : Coupon} {store : CouponStore} {customerId : Option ObjectId}
    (hpos : ∀ limit ∈ coupon.perUserLimit, 0 < limit) : coupon.usedUpBy store customerId = false ↔
      ∀ limit ∈ coupon.perUserLimit, ∀ customer ∈ customerId,
        store.userUsage customer coupon.id < limit := by
  unfold Coupon.usedUpBy
  cases customerId with
  | none => simp
  | some customer =>
    cases hlimit : coupon.perUserLimit with
    | none => simp
    | some limit =>
      have hlimit := hpos limit hlimit
      simp [hlimit]

theorem checkMonthlyVolume_iff {coupon : Coupon} {store : CouponStore}
    {customerId : Option ObjectId} (hpos : ∀ t ∈ coupon.monthlyVolumeThreshold,
      coupon.couponType = .monthlyVolume ∧ 0 < t) :
    checkMonthlyVolume store coupon customerId = .ok () ↔
      ∀ t ∈ coupon.monthlyVolumeThreshold, ∃ customer ∈ customerId,
        t ≤ store.monthlyVolume customer := by
  unfold checkMonthlyVolume
  dsimp only
  cases hthreshold : coupon.monthlyVolumeThreshold with
  | none => simp [pure_eq_ok]
  | some t =>
    obtain ⟨hkind, ht⟩ := hpos t hthreshold
    rw [getD_some, if_pos ⟨hkind, ht⟩]
    cases customerId with
    | none => simp [throw, throwThe, MonadExceptOf.throw]
    | some customer => simp [ite_throw_eq_ok, pure_eq_ok]

theorem isCategoryEligible_iff {coupon : Coupon} {items : List HydratedItem}
    (hkind : coupon.applicableCategories ≠ [] → coupon.couponType = .categoryBased) :
    isCategoryEligible coupon items = true ↔ (coupon.applicableCategories ≠ [] →
      ∃ item ∈ items, item.headerCategoryId ∈ coupon.applicableCategories) := by
  unfold isCategoryEligible
  by_cases hnone : coupon.applicableCategories = []
  · simp [hnone]
  · simp [hnone, hkind hnone]

theorem CouponCheckout.subtotal_nonneg (q : CouponCheckout) : 0 ≤ cartSubtotal q.items := by
  obtain ⟨products, orderItems, hitems⟩ := q.hydrated
  exact (cartSubtotal_le (hydrateOrderItems_priced hitems)).1

theorem checkCoupon_iff (h : Checked headers c d.value) :
    checkCoupon (q.store cal coupons) d.coupon q.customerId q.items = .ok ()
      ↔ ConditionsHold q (q.counted cal) d.coupon := by
  have hcart : 0 ≤ fromPaise (cartSubtotal q.items) := fromPaise_nonneg q.subtotal_nonneg
  have hminOrder : (d.coupon.minOrderValue = 0 ∨
      d.coupon.minOrderValue ≤ fromPaise (cartSubtotal q.items)) ↔
      d.coupon.minOrderValue ≤ fromPaise (cartSubtotal q.items) :=
    or_iff_right_of_imp fun hzero => hzero.trans_le hcart
  rw [checkCoupon_eq_ok, inForce_iff, usedUp_iff, usedUpBy_iff h.perUser_pos,
    checkMonthlyVolume_iff h.threshold_pos, isCategoryEligible_iff h.categoryBased, hminOrder]
  constructor
  · rintro ⟨⟨hactive, hbegun, hnotOver⟩, huses, hperUser, hmonthly, hitems, hcategory, hmin⟩
    exact ⟨hactive, hbegun, hnotOver, huses, hperUser, hmonthly, hitems, hcategory, hmin⟩
  · rintro ⟨hactive, hbegun, hnotOver, huses, hperUser, hmonthly, hitems, hcategory, hmin⟩
    exact ⟨⟨hactive, hbegun, hnotOver⟩, huses, hperUser, hmonthly, hitems, hcategory, hmin⟩

end Conditions

/-! ## The discount -/

section Discount

variable {coupon : Coupon} {subtotal : ℤ}

/-- The percentage of the cart, in paise. -/
def couponShare (coupon : Coupon) (subtotal : ℤ) : ℤ :=
  roundCurrency (fromPaise subtotal * coupon.discountValue / 100)

/-- The coupon takes something off the cart, or is for free delivery. -/
def Gives (coupon : Coupon) (subtotal : ℤ) : Prop :=
  match coupon.discountType with
  | .percentage => 0 < couponShare coupon subtotal ∧ ∀ cap ∈ coupon.maxDiscount, 0 < roundCurrency cap
  | .fixed => 0 < roundCurrency coupon.discountValue ∧ 0 < subtotal
  | .freeDelivery => True

theorem couponShare_le (hcart : 0 ≤ subtotal) (hpos : 0 < coupon.discountValue)
    (hle : coupon.discountValue ≤ 100) :
    0 ≤ couponShare coupon subtotal ∧ couponShare coupon subtotal ≤ subtotal := by
  have hsum : 0 ≤ fromPaise subtotal := fromPaise_nonneg hcart
  constructor
  · exact roundCurrency_nonneg (by positivity)
  · have hpart : fromPaise subtotal * coupon.discountValue / 100 ≤ fromPaise subtotal := by
      rw [div_le_iff₀ (by norm_num)]
      exact mul_le_mul_of_nonneg_left hle hsum
    exact (roundCurrency_mono hpart).trans_eq (roundCurrency_fromPaise subtotal)

/-- A percentage of the cart, capped. -/
theorem couponDiscount_percentage (hcart : 0 ≤ subtotal) (hkind : coupon.discountType = .percentage)
    (hfree : coupon.isFreeDelivery = false)
    (hset : WellSet .percentage coupon.discountValue coupon.maxDiscount) :
    couponDiscount coupon subtotal = coupon.maxDiscount.elim (couponShare coupon subtotal)
      (fun cap => min (couponShare coupon subtotal) (roundCurrency cap)) := by
  obtain ⟨hpos, hle, hcap⟩ := hset
  obtain ⟨hnonneg, hwithin⟩ := couponShare_le hcart hpos hle
  have hraw : rawDiscount coupon subtotal = fromPaise (couponShare coupon subtotal) := by
    unfold rawDiscount
    rw [hfree, hkind]
    rfl
  unfold couponDiscount
  dsimp only
  rw [hraw]
  cases hmax : coupon.maxDiscount with
  | none =>
    dsimp only [elim_none]
    rw [roundCurrency_fromPaise, max_eq_right hnonneg, min_eq_left hwithin]
  | some cap =>
    have hcap := hcap cap hmax
    have hmin : roundCurrency (min (fromPaise (couponShare coupon subtotal)) cap)
        = min (couponShare coupon subtotal) (roundCurrency cap) := by
      rw [(show Monotone roundCurrency from fun _ _ => roundCurrency_mono).map_min,
        roundCurrency_fromPaise]
    dsimp only [elim_some]
    rw [if_pos hcap, hmin, max_eq_right (le_min hnonneg (roundCurrency_nonneg hcap.le)),
      min_eq_left ((min_le_left _ _).trans hwithin)]

theorem couponDiscount_fixed (hkind : coupon.discountType = .fixed)
    (hfree : coupon.isFreeDelivery = false)
    (hset : WellSet .fixed coupon.discountValue coupon.maxDiscount) :
    couponDiscount coupon subtotal = min (roundCurrency coupon.discountValue) subtotal := by
  unfold couponDiscount rawDiscount
  rw [hfree, hkind, hset.2]
  dsimp only
  rw [if_neg Bool.false_ne_true, roundCurrency_fromPaise,
    max_eq_right (roundCurrency_nonneg hset.1.le)]

variable (hcart : 0 ≤ subtotal)
  (hset : WellSet coupon.discountType coupon.discountValue coupon.maxDiscount)
  (hfree : coupon.isFreeDelivery = decide (coupon.discountType = .freeDelivery))

include hcart hset hfree

theorem gives_iff : (0 < couponDiscount coupon subtotal ∨ coupon.isFreeDelivery = true)
    ↔ Gives coupon subtotal := by
  unfold Gives
  cases hkind : coupon.discountType with
  | percentage =>
    rw [hkind] at hset hfree
    rw [couponDiscount_percentage hcart hkind hfree hset, hfree]
    cases coupon.maxDiscount with
    | none => simp
    | some cap => simp
  | fixed =>
    rw [hkind] at hset hfree
    rw [couponDiscount_fixed hkind hfree hset, hfree]
    simp
  | freeDelivery =>
    rw [hkind] at hfree
    exact iff_of_true (.inr hfree) trivial

theorem withinCap_iff : (∀ cap ∈ coupon.maxDiscount, fromPaise (couponDiscount coupon subtotal) ≤ cap)
    ↔ ∀ cap ∈ coupon.maxDiscount, fromPaise (roundCurrency cap) ≤ cap ∨
        fromPaise (couponShare coupon subtotal) ≤ cap := by
  refine forall₂_congr fun cap hcap => ?_
  cases hkind : coupon.discountType with
  | percentage =>
    rw [hkind] at hset hfree
    rw [couponDiscount_percentage hcart hkind hfree hset, show coupon.maxDiscount = some cap from hcap,
      elim_some, fromPaise_min, min_le_iff, or_comm]
  | fixed =>
    rw [hkind] at hset
    exact absurd (hset.2.symm.trans hcap) (by simp)
  | freeDelivery =>
    rw [hkind] at hset
    exact absurd (hset.symm.trans hcap) (by simp)

omit hcart in
theorem withinValue_iff (subtotal : ℤ) :
    (coupon.discountType = .fixed →
        fromPaise (couponDiscount coupon subtotal) ≤ coupon.discountValue)
      ↔ (coupon.discountType = .fixed →
        fromPaise (roundCurrency coupon.discountValue) ≤ coupon.discountValue ∨
          fromPaise subtotal ≤ coupon.discountValue) := by
  refine forall_congr' fun hkind => ?_
  rw [hkind] at hset hfree
  rw [couponDiscount_fixed hkind hfree hset, fromPaise_min, min_le_iff]

end Discount

/-! ## The condition -/

/-- Cancelled orders do not lift the customer over the threshold, and a cap or a fixed amount of
parts of a paisa is not reached, or is not rounded up. -/
structure Exact (q : CouponCheckout) (cal : Calendar) (coupon : Coupon) : Prop where
  volume : ∀ t ∈ coupon.monthlyVolumeThreshold, ∀ customer ∈ q.customerId,
    t ≤ q.counted cal customer → t ≤ q.spent cal customer
  cap : ∀ cap ∈ coupon.maxDiscount, fromPaise (roundCurrency cap) ≤ cap ∨
    fromPaise (couponShare coupon (cartSubtotal q.items)) ≤ cap
  value : coupon.discountType = .fixed →
    fromPaise (roundCurrency coupon.discountValue) ≤ coupon.discountValue ∨
      fromPaise (cartSubtotal q.items) ≤ coupon.discountValue

/-- It is asked of a coupon whose conditions hold where cancelled orders count, and that takes
something off the cart. -/
def Honoured (q : CouponCheckout) (cal : Calendar) (coupons : Coupons) : Prop :=
  q.items ≠ [] → ∀ coupon, loadCoupon (q.store cal coupons) q.request = .ok (some coupon) →
    ConditionsHold q (q.counted cal) coupon → Gives coupon (cartSubtotal q.items) →
      Exact q cal coupon

theorem loadCoupon_of_isEmpty {store : CouponStore} {r : CouponRequest} (h : r.isEmpty = true) :
    loadCoupon store r = .ok none := by
  unfold CouponRequest.isEmpty at h
  rw [Bool.and_eq_true, beq_iff_eq, isNone_iff_eq_none] at h
  have hcode : toUpperCase (trim "") = "" := by decide
  unfold loadCoupon
  simp only [h.1, h.2, hcode, if_true]
  rfl

section Accepted

variable {q : CouponCheckout} {cal : Calendar} {coupons : Coupons} {d : CouponDoc}
  {headers : ObjectId → Bool} {c : CouponInput}

theorem CouponDoc.coupon_isFreeDelivery (h : Checked headers c d.value) :
    d.coupon.isFreeDelivery = decide (d.coupon.discountType = .freeDelivery) :=
  decide_eq_decide.mpr h.isFreeDelivery

theorem applied_iff (h : Checked headers c d.value)
    (hcounted : ConditionsHold q (q.counted cal) d.coupon) :
    Applied q cal d.coupon (couponDiscount d.coupon (cartSubtotal q.items))
      ↔ Exact q cal d.coupon := by
  have hcart := q.subtotal_nonneg
  have hfree := CouponDoc.coupon_isFreeDelivery h
  have hcap := withinCap_iff hcart h.wellSet hfree
  have hvalue := withinValue_iff h.wellSet hfree (cartSubtotal q.items)
  constructor
  · intro happlied
    refine ⟨fun t ht customer hcustomer _ => ?_, hcap.mp happlied.withinCap,
      hvalue.mp happlied.withinValue⟩
    obtain ⟨customer', hcustomer', hspent⟩ := happlied.conditions.monthly t ht
    cases hcustomer.symm.trans hcustomer'
    exact hspent
  · intro hexact
    refine ⟨le_min (le_max_left _ _) hcart, couponDiscount_le _ _, hcap.mpr hexact.cap,
      hvalue.mpr hexact.value, { hcounted with monthly := fun t ht => ?_ }⟩
    obtain ⟨customer, hcustomer, hspent⟩ := hcounted.monthly t ht
    exact ⟨customer, hcustomer, hexact.volume t ht customer hcustomer hspent⟩

end Accepted

/-- The rules that the admin set are the rules applied exactly where cancelled orders make no
difference to the customer's month and parts of a paisa none to the discount. -/
theorem rules_applied_iff (cal : Calendar) (ops : List CouponOp) (q : CouponCheckout) :
    RulesApplied q cal (exec (couponStep cal) empty ops)
      ↔ Honoured q cal (exec (couponStep cal) empty ops) := by
  have hstored : Stored cal (exec (couponStep cal) empty ops) := stored_of_ops ops
  generalize exec (couponStep cal) empty ops = coupons at hstored ⊢
  have hfound : ∀ coupon, loadCoupon (q.store cal coupons) q.request = .ok (some coupon) →
      ∃ d ∈ coupons.rows, coupon = d.coupon ∧ ∃ headers c, Checked headers c d.value := by
    intro coupon hload
    obtain ⟨d, hd, rfl⟩ := List.mem_map.mp (loadCoupon_mem hload)
    exact ⟨d, hd, rfl, (hstored d hd).1⟩
  constructor
  · intro h hne coupon hload hcounted hgives
    obtain ⟨d, hd, rfl, headers, c, hchecked⟩ := hfound coupon hload
    have hempty : q.request.isEmpty = false := by
      by_contra hempty
      rw [loadCoupon_of_isEmpty (eq_true_of_ne_false hempty)] at hload
      cases hload
    have hgiven := (gives_iff q.subtotal_nonneg hchecked.wellSet
      (CouponDoc.coupon_isFreeDelivery hchecked)).mpr hgives
    obtain ⟨d', hd', hid, happlied⟩ := h.accepted _ (computeOrderDiscount_ok.mpr
      (.inr ⟨hempty, hne, d.coupon, hload, (checkCoupon_iff hchecked).mpr hcounted, hgiven, rfl⟩))
    cases coupons.eq_of_key_eq hd' hd hid
    exact (applied_iff hchecked hcounted).mp happlied
  · intro h
    refine ⟨fun result hresult => ?_, fun d hd headers body hown => edit_own hstored hd hown⟩
    rcases computeOrderDiscount_ok.mp hresult with
      ⟨-, hnone⟩ | ⟨-, hne, coupon, hload, hcheck, hgiven, hsome⟩
    · cases hnone
    · obtain ⟨d, hd, rfl, headers, c, hchecked⟩ := hfound coupon hload
      cases hsome
      have hcounted := (checkCoupon_iff hchecked).mp hcheck
      have hgives := (gives_iff q.subtotal_nonneg hchecked.wellSet
        (CouponDoc.coupon_isFreeDelivery hchecked)).mp hgiven
      exact ⟨d, hd, rfl, (applied_iff hchecked hcounted).mpr (h hne _ hload hcounted hgives)⟩

/-- Five and a half hours ahead of UTC; the month is one of the year 1970. -/
def indianTime : Calendar where
  dayOf t := (t + 19800000) / 86400000
  endOf day := day * 86400000 + 66599999
  inDay day := by omega
  monthStart _ := -19800000

def vipCoupon : CouponOp :=
  .createCoupon (fun _ => true) 1
    { code := some (some "vip"), couponType := some (some "monthly_volume")
      discountValue := some (some (some 10)), monthlyVolumeThreshold := some (some (some 500))
      validFrom := some (some (some 0)), validTill := some (some (some 1000)) }

/-- The customer's only order of the month, of 600 rupees, was cancelled. -/
def vipCheckout : CouponCheckout where
  orders := [{ customer := 7, createdAt := 100, grandTotal := 600, cancelled := true }]
  now := 500
  request := { couponCode := "VIP" }
  customerId := some 7
  items := teaLines
  hydrated := ⟨_, _, teaRequest_started.hydrated⟩

theorem cancelled_order_counts :
    ¬ ∀ (cal : Calendar) (ops : List CouponOp) (q : CouponCheckout),
      RulesApplied q cal (exec (couponStep cal) empty ops) := by
  intro happlied
  have haccepted : computeOrderDiscount (vipCheckout.store indianTime
      (exec (couponStep indianTime) empty [vipCoupon])) vipCheckout.request
      vipCheckout.customerId vipCheckout.items = .ok (some ⟨1, 2800, false⟩) :=
    ok_of_toOption (by decide +kernel)
  obtain ⟨d, hd, -, happlied⟩ := (happlied indianTime [vipCoupon] vipCheckout).accepted _ haccepted
  have hthreshold : ∀ d ∈ (exec (couponStep indianTime) empty [vipCoupon]).rows,
      d.coupon.monthlyVolumeThreshold = some 500 := by decide +kernel
  obtain ⟨customer, hcustomer, hspent⟩ := happlied.conditions.monthly 500 (hthreshold d hd)
  cases hcustomer
  revert hspent
  decide +kernel

end DiscountBazar.Pricing
