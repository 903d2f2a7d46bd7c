/-
Coupons (`couponService.js`): the discount of a coupon on a cart.

The discount is a function of the coupon, of the cart at server prices, and of what the
store knows of the customer; the usage counter is read here and written elsewhere. The
snapshot that is frozen onto orders is left out but for the coupon's id.
-/
import DiscountBazar.Pricing.Breakdown

namespace DiscountBazar.Pricing

open Transaction

inductive DiscountType where
  | percentage | fixed | freeDelivery
  deriving DecidableEq

inductive CouponType where
  | bulkOrder | minOrderValue | freeDelivery | categoryBased | monthlyVolume | generic
  deriving DecidableEq

/-- `Coupon`; `none` is a limit that is not set. -/
structure Coupon where
  id : ObjectId
  code : String
  discountType : DiscountType := .percentage
  discountValue : ℚ
  maxDiscount : Option ℚ := none
  couponType : CouponType := .generic
  minOrderValue : ℚ := 0
  minItems : ℕ := 0
  applicableCategories : List ObjectId := []
  monthlyVolumeThreshold : Option ℚ := none
  usageLimit : Option ℕ := none
  perUserLimit : Option ℕ := some 1
  usedCount : ℕ := 0
  validFrom : Date
  validTill : Date
  isActive : Bool := true
  deriving DecidableEq

/-- What the store knows when a coupon is checked: the coupons, the time, the orders of a
customer that use a coupon, what the customer spent this month, and category names. -/
structure CouponStore where
  coupons : List Coupon := []
  now : Date := 0
  userUsage : ObjectId → ObjectId → ℕ := fun _ _ => 0
  monthlyVolume : ObjectId → ℚ := fun _ => 0
  categoryName : ObjectId → Option String := fun _ => none

structure CouponRequest where
  couponCode : String := ""
  couponId : Option (Option ObjectId) := none
  deriving DecidableEq

def CouponRequest.isEmpty (r : CouponRequest) : Bool := r.couponCode == "" && r.couponId.isNone

/-! ## Text -/

/-- The characters that `trim` takes off. -/
def isSpace (c : Char) : Bool :=
  (9 ≤ c.toNat && c.toNat ≤ 13) || (8192 ≤ c.toNat && c.toNat ≤ 8202) ||
    [32, 160, 5760, 8232, 8233, 8239, 8287, 12288, 65279].contains c.toNat

def trim (s : String) : String :=
  String.ofList ((s.toList.dropWhile isSpace).reverse.dropWhile isSpace).reverse

/-- `toUpperCase` on ASCII letters. -/
def toUpperCase (s : String) : String := String.ofList (s.toList.map Char.toUpper)

/-! ## Messages -/

/-- The digits before the decimal point as `en-IN` groups them: three, then twos. -/
def groupIndian (digits : List Char) : List Char :=
  let rec twos : List Char → List Char
    | a :: b :: c :: rest => a :: b :: ',' :: twos (c :: rest)
    | rest => rest
  match digits.reverse with
  | a :: b :: c :: d :: rest => (a :: b :: c :: ',' :: twos (d :: rest)).reverse
  | _ => digits

/-- `toLocaleString("en-IN")` of a number that is not negative: at most three decimals. -/
def toLocaleString (value : ℚ) : String :=
  let thousandths := (mathRound (value * 1000)).toNat
  let whole := String.ofList (groupIndian (toString (thousandths / 1000)).toList)
  let decimals := (toString (1000 + thousandths % 1000)).toList.drop 1
  let decimals := (decimals.reverse.dropWhile (· == '0')).reverse
  if decimals.isEmpty then whole else whole ++ "." ++ String.ofList decimals

def money (value : ℚ) : String := "₹" ++ toLocaleString value

/-! ## Rules -/

/-- `computeCartSubtotalFromHydrated`. -/
def cartSubtotal (items : List HydratedItem) : ℤ :=
  (items.map (fun item => item.price * (item.quantity : ℤ))).sum

def isCategoryEligible (coupon : Coupon) (items : List HydratedItem) : Bool :=
  if coupon.couponType ≠ .categoryBased then true
  else if coupon.applicableCategories = [] then true
  else items.any (fun item => decide (item.headerCategoryId ∈ coupon.applicableCategories))

def loadCoupon (store : CouponStore) (r : CouponRequest) : Except ServiceError (Option Coupon) :=
  let code := toUpperCase (trim r.couponCode)
  let coupon : Option Coupon :=
    match r.couponId with
    | some (some id) => store.coupons.find? (fun c => decide (c.id = id))
    | _ => if code = "" then none else store.coupons.find? (fun c => c.code == code)
  match coupon with
  | some c =>
    if code ≠ "" ∧ r.couponId ≠ none ∧ toUpperCase c.code ≠ code then
      throw ⟨"Only one coupon can be used per order", some 400⟩
    else pure (some c)
  | none => pure none

structure CouponResult where
  couponId : ObjectId
  discountAmount : ℤ
  freeDelivery : Bool
  deriving DecidableEq

def Coupon.isFreeDelivery (coupon : Coupon) : Bool :=
  decide (coupon.discountType = .freeDelivery ∨ coupon.couponType = .freeDelivery)

def rawDiscount (coupon : Coupon) (subtotal : ℤ) : ℚ :=
  if coupon.isFreeDelivery then 0
  else
    match coupon.discountType with
    | .percentage => fromPaise (roundCurrency (fromPaise subtotal * coupon.discountValue / 100))
    | .fixed => fromPaise (roundCurrency coupon.discountValue)
    | .freeDelivery => 0

def couponDiscount (coupon : Coupon) (subtotal : ℤ) : ℤ :=
  let capped :=
    match coupon.maxDiscount with
    | some cap => if 0 < cap then min (rawDiscount coupon subtotal) cap
        else rawDiscount coupon subtotal
    | none => rawDiscount coupon subtotal
  min (max 0 (roundCurrency capped)) subtotal

def Coupon.inForce (coupon : Coupon) (now : Date) : Bool :=
  coupon.isActive && decide (coupon.validFrom ≤ now) && decide (now ≤ coupon.validTill)

def Coupon.usedUp (coupon : Coupon) : Bool :=
  coupon.usageLimit.any (fun limit => decide (limit ≤ coupon.usedCount))

def Coupon.usedUpBy (coupon : Coupon) (store : CouponStore) (customerId : Option ObjectId) : Bool :=
  match customerId, coupon.perUserLimit with
  | some customer, some limit => decide (0 < limit ∧ limit ≤ store.userUsage customer coupon.id)
  | _, _ => false

def checkMonthlyVolume (store : CouponStore) (coupon : Coupon) (customerId : Option ObjectId) :
    Except ServiceError Unit :=
  let threshold := coupon.monthlyVolumeThreshold.getD 0
  if coupon.couponType = .monthlyVolume ∧ 0 < threshold then
    match customerId with
    | none => throw ⟨"Log in to use this coupon — it is for customers who spent " ++
        money threshold ++ " this month", some 400⟩
    | some customer =>
      let spent := store.monthlyVolume customer
      if spent < threshold then
        throw ⟨"This coupon is for customers who spent " ++ money threshold ++
          " this month. You have spent " ++ money spent ++ " so far — " ++
          money (threshold - spent) ++ " more to unlock it.", some 400⟩
      else pure ()
  else pure ()

def categoryMessage (store : CouponStore) (coupon : Coupon) : String :=
  match coupon.applicableCategories.filterMap store.categoryName with
  | [] => "This coupon is valid only on selected categories"
  | names => "This coupon works only with products from: " ++ String.intercalate ", " names

def checkCoupon (store : CouponStore) (coupon : Coupon) (customerId : Option ObjectId)
    (items : List HydratedItem) : Except ServiceError Unit := do
  if coupon.inForce store.now = false then throw ⟨"This coupon is not active", some 400⟩
  if coupon.usedUp then throw ⟨"This coupon has reached its usage limit", some 400⟩
  if coupon.usedUpBy store customerId then throw ⟨"You have already used this coupon", some 400⟩
  checkMonthlyVolume store coupon customerId
  let totalItems := (items.map HydratedItem.quantity).sum
  if totalItems < coupon.minItems then
    throw ⟨"Add at least " ++ toString coupon.minItems ++ " items to use this coupon (your cart has " ++
      toString totalItems ++ ")", some 400⟩
  if isCategoryEligible coupon items = false then throw ⟨categoryMessage store coupon, some 400⟩
  if coupon.minOrderValue ≠ 0 ∧ fromPaise (cartSubtotal items) < coupon.minOrderValue then
    throw ⟨"Minimum order value should be " ++ money coupon.minOrderValue ++ " (your cart is " ++
      money (fromPaise (cartSubtotal items)) ++ ")", some 400⟩

/-- `computeOrderDiscount`; `none` where no coupon is asked for. -/
def computeOrderDiscount (store : CouponStore) (r : CouponRequest) (customerId : Option ObjectId)
    (items : List HydratedItem) : Except ServiceError (Option CouponResult) :=
  if r.isEmpty then pure none
  else if items = [] then throw ⟨"Cannot apply a coupon to an empty cart", some 400⟩
  else do
    match ← loadCoupon store r with
    | none => throw ⟨"Invalid coupon code", some 404⟩
    | some coupon =>
      checkCoupon store coupon customerId items
      let discountAmount := couponDiscount coupon (cartSubtotal items)
      if discountAmount ≤ 0 ∧ coupon.isFreeDelivery = false then
        throw ⟨"This coupon does not provide any discount on current cart", some 400⟩
      else pure (some ⟨coupon.id, discountAmount, coupon.isFreeDelivery⟩)

theorem couponDiscount_le (coupon : Coupon) (subtotal : ℤ) :
    couponDiscount coupon subtotal ≤ subtotal := min_le_right _ _

variable {store : CouponStore} {customerId : Option ObjectId} {items : List HydratedItem}

theorem computeOrderDiscount_ok {r : CouponRequest} {result : Option CouponResult} :
    computeOrderDiscount store r customerId items = .ok result ↔
      (r.isEmpty = true ∧ result = none) ∨
        (r.isEmpty = false ∧ items ≠ [] ∧ ∃ coupon, loadCoupon store r = .ok (some coupon) ∧
          checkCoupon store coupon customerId items = .ok () ∧
          (0 < couponDiscount coupon (cartSubtotal items) ∨ coupon.isFreeDelivery = true) ∧
          result = some ⟨coupon.id, couponDiscount coupon (cartSubtotal items),
            coupon.isFreeDelivery⟩) := by
  unfold computeOrderDiscount
  by_cases hempty : r.isEmpty = true
  · simp [hempty, pure_eq_ok]
  · rw [if_neg hempty, ite_throw_eq_ok, bind_eq_ok]
    simp only [hempty, Bool.false_eq_true, false_and, false_or, true_and]
    refine and_congr_right (fun _ => ⟨?_, ?_⟩)
    · rintro ⟨loaded, hload, h⟩
      cases loaded with
      | none => cases h
      | some coupon =>
        obtain ⟨⟨⟩, hcheck, h⟩ := bind_eq_ok.mp h
        rw [ite_throw_eq_ok, pure_eq_ok, not_and_or, not_le,
          Bool.not_eq_false] at h
        exact ⟨coupon, hload, hcheck, h⟩
    · rintro ⟨coupon, hload, hcheck, h⟩
      refine ⟨_, hload, bind_eq_ok.mpr ⟨(), hcheck, ?_⟩⟩
      rw [ite_throw_eq_ok, pure_eq_ok, not_and_or, not_le,
        Bool.not_eq_false]
      exact h

theorem loadCoupon_mem {r : CouponRequest} {coupon : Coupon}
    (h : loadCoupon store r = .ok (some coupon)) : coupon ∈ store.coupons := by
  unfold loadCoupon at h
  dsimp only at h
  split at h
  next c hc =>
    rw [ite_throw_eq_ok] at h
    cases pure_eq_ok.mp h.2
    split at hc
    · exact List.mem_of_find?_eq_some hc
    · split at hc
      · cases hc
      · exact List.mem_of_find?_eq_some hc
  next => cases h

/-- A guard that throws in front of what follows it. -/
theorem guard_throw_eq_ok {ε α β : Type} {p : Prop} [Decidable p] {e : ε} {f : β → Except ε α}
    {x : Except ε α} {a : α} :
    (if p then throw e >>= f else x) = .ok a ↔ ¬p ∧ x = .ok a := by
  by_cases h : p
  · simp [h, bind, Except.bind, throw, throwThe, MonadExceptOf.throw]
  · simp [h]

theorem checkCoupon_eq_ok {coupon : Coupon} : checkCoupon store coupon customerId items = .ok () ↔
      coupon.inForce store.now = true ∧ coupon.usedUp = false ∧
        coupon.usedUpBy store customerId = false ∧
        checkMonthlyVolume store coupon customerId = .ok () ∧
        coupon.minItems ≤ (items.map HydratedItem.quantity).sum ∧
        isCategoryEligible coupon items = true ∧
        (coupon.minOrderValue = 0 ∨ coupon.minOrderValue ≤ fromPaise (cartSubtotal items)) := by
  unfold checkCoupon
  simp only [guard_throw_eq_ok, bind_eq_ok, ite_throw_eq_ok,
    pure_eq_ok, Bool.not_eq_false, Bool.not_eq_true, not_lt, not_and_or, not_not,
    Unique.exists_iff, and_true]

end DiscountBazar.Pricing
