/-
The coupons that the admin sets (`couponRules.js`, `couponController.js`).

An edit is laid over the stored coupon and the two are checked as a whole, so every stored coupon
is what one check has passed. Checking it again gives it again: what the rules of its strategy have
left of the fields passes the rules once more.
-/
import DiscountBazar.Pricing.Coupon
import DiscountBazar.Sellers.Contacts
import Mathlib.Data.List.Dedup
import Mathlib.Data.Rat.Defs

namespace DiscountBazar.Pricing

open Transaction List Except

/-! ## The request -/

/-- A field of a request: not sent, sent as `null` or an empty text, or sent with a value. -/
abbrev Field (α : Type) := Option (Option α)

/-- The `ALLOWED_FIELDS`. A number is `none` where it is NaN, and so is a date; an id is `none` where
it is no id, and empty ones are left out. -/
structure CouponInput where
  code : Field String := none
  title : Field String := none
  description : Field String := none
  discountType : Field String := none
  discountValue : Field (Option ℚ) := none
  maxDiscount : Field (Option ℚ) := none
  couponType : Field String := none
  minOrderValue : Field (Option ℚ) := none
  minItems : Field (Option ℚ) := none
  applicableCategories : Field (List (Option ObjectId)) := none
  monthlyVolumeThreshold : Field (Option ℚ) := none
  usageLimit : Field (Option ℚ) := none
  perUserLimit : Field (Option ℚ) := none
  validFrom : Field (Option Date) := none
  validTill : Field (Option Date) := none
  isActive : Field Bool := none

/-- `{ ...base, ...picked }`. -/
def CouponInput.over (picked base : CouponInput) : CouponInput where
  code := picked.code <|> base.code
  title := picked.title <|> base.title
  description := picked.description <|> base.description
  discountType := picked.discountType <|> base.discountType
  discountValue := picked.discountValue <|> base.discountValue
  maxDiscount := picked.maxDiscount <|> base.maxDiscount
  couponType := picked.couponType <|> base.couponType
  minOrderValue := picked.minOrderValue <|> base.minOrderValue
  minItems := picked.minItems <|> base.minItems
  applicableCategories := picked.applicableCategories <|> base.applicableCategories
  monthlyVolumeThreshold := picked.monthlyVolumeThreshold <|> base.monthlyVolumeThreshold
  usageLimit := picked.usageLimit <|> base.usageLimit
  perUserLimit := picked.perUserLimit <|> base.perUserLimit
  validFrom := picked.validFrom <|> base.validFrom
  validTill := picked.validTill <|> base.validTill
  isActive := picked.isActive <|> base.isActive

def CouponType.word : CouponType → String
  | .generic => "generic"
  | .minOrderValue => "min_order_value"
  | .bulkOrder => "bulk_order"
  | .categoryBased => "category_based"
  | .monthlyVolume => "monthly_volume"
  | .freeDelivery => "free_delivery"

def COUPON_TYPES : List CouponType :=
  [.generic, .minOrderValue, .bulkOrder, .categoryBased, .monthlyVolume, .freeDelivery]

def DiscountType.word : DiscountType → String
  | .percentage => "percentage"
  | .fixed => "fixed"
  | .freeDelivery => "free_delivery"

def DISCOUNT_TYPES : List DiscountType := [.percentage, .fixed, .freeDelivery]

/-- What `normalizeCouponInput` returns; `isActive` is `none` where it is left out. -/
@[ext]
structure CouponValue where
  code : String
  title : String
  description : String
  couponType : CouponType
  discountType : DiscountType
  discountValue : ℚ
  maxDiscount : Option ℚ
  minOrderValue : ℚ
  minItems : ℕ
  applicableCategories : List ObjectId
  monthlyVolumeThreshold : Option ℚ
  usageLimit : Option ℕ
  perUserLimit : Option ℕ
  validFrom : Date
  validTill : Date
  isActive : Option Bool
  deriving DecidableEq

/-- The fields as they are read back from the database. -/
def CouponValue.fields (v : CouponValue) : CouponInput where
  code := some (some v.code)
  title := some (some v.title)
  description := some (some v.description)
  discountType := some (some v.discountType.word)
  discountValue := some (some (some v.discountValue))
  maxDiscount := some (v.maxDiscount.map some)
  couponType := some (some v.couponType.word)
  minOrderValue := some (some (some v.minOrderValue))
  minItems := some (some (some v.minItems))
  applicableCategories := some (some (v.applicableCategories.map some))
  monthlyVolumeThreshold := some (v.monthlyVolumeThreshold.map some)
  usageLimit := some (v.usageLimit.map (fun limit : ℕ => some (limit : ℚ)))
  perUserLimit := some (v.perUserLimit.map (fun limit : ℕ => some (limit : ℚ)))
  validFrom := some (some (some v.validFrom))
  validTill := some (some (some v.validTill))
  isActive := v.isActive.map some

/-! ## The rules -/

/-- A value that has to be there and to pass a check. -/
def required {α β : Type} (check : α → Option β) (message : String) (v : Option (Option α)) :
    Except String β :=
  match v.join.bind check with
  | some b => pure b
  | none => throw message

/-- A value that has to pass a check if it is there. -/
def optional {α β : Type} (check : α → Option β) (message : String) :
    Option (Option α) → Except String (Option β)
  | none => pure none
  | some v => some <$> required check message (some v)

def positive (q : ℚ) : Option ℚ := Option.guard (fun q => decide (0 < q)) q

def percent (q : ℚ) : Option ℚ := Option.guard (fun q => decide (0 < q ∧ q ≤ 100)) q

def notNegative (q : ℚ) : Option ℚ := Option.guard (fun q => decide (0 ≤ q)) q

/-- A whole number that is no less than `least`. -/
def atLeast (least : ℕ) (q : ℚ) : Option ℕ :=
  if q.den = 1 ∧ (least : ℤ) ≤ q.num then some q.num.toNat else none

/-- `[A-Z0-9_-]`. -/
def isCodeChar (c : Char) : Bool :=
  decide (65 ≤ c.toNat ∧ c.toNat ≤ 90) || decide (48 ≤ c.toNat ∧ c.toNat ≤ 57) ||
    decide (c.toNat = 95) || decide (c.toNat = 45)

def isCode (code : String) : Bool :=
  decide (3 ≤ code.length ∧ code.length ≤ 30) && code.toList.all isCodeChar

def readCode (v : Option String) : Except String String :=
  let code := toUpperCase (trim (v.getD ""))
  if code = "" then throw "Promo code is required"
  else if isCode code = false then throw "Promo code must be 3–30 letters, numbers, - or _"
  else pure code

def readCouponType (v : Option String) : Except String CouponType :=
  match COUPON_TYPES.find? (fun t => decide (t.word = v.getD "generic")) with
  | some couponType => pure couponType
  | none => throw "Unknown coupon strategy"

def readDiscountType (couponType : CouponType) (v : Option String) : Except String DiscountType :=
  if couponType = .freeDelivery then pure .freeDelivery
  else
    match DISCOUNT_TYPES.find? (fun t => decide (t.word = v.getD "percentage")) with
    | some discountType => pure discountType
    | none => throw "Unknown discount kind"

def readDiscount (discountType : DiscountType) (value cap : Option (Option ℚ)) :
    Except String (ℚ × Option ℚ) :=
  match discountType with
  | .percentage => do
    let value ← required percent "Percentage discount must be between 1 and 100" value
    let cap ← optional positive "Max discount must be more than ₹0 (or left empty)" cap
    pure (value, cap)
  | .fixed => do
    let value ← required positive "Discount amount must be more than ₹0" value
    pure (value, none)
  | .freeDelivery => pure (0, none)

def readMinOrder (couponType : CouponType) (discountType : DiscountType) (discountValue : ℚ)
    (v : Option (Option ℚ)) : Except String ℚ := do
  let minOrder ← optional notNegative "Minimum order value cannot be negative" v
  let minOrderValue := minOrder.getD 0
  if couponType = .minOrderValue ∧ ¬ 0 < minOrderValue then
    throw "Minimum order value coupons need a minimum cart total"
  else if discountType = .fixed ∧ 0 < minOrderValue ∧ minOrderValue < discountValue then
    throw "Discount amount cannot be more than the minimum order value"
  else pure minOrderValue

def readMinItems (couponType : CouponType) (v : Option (Option ℚ)) : Except String ℕ :=
  if couponType = .bulkOrder then
    required (atLeast 2) "Bulk order coupons need a minimum of at least 2 items" v
  else pure 0

/-- `headers` are the main categories there are. -/
def readCategories (headers : ObjectId → Bool) (couponType : CouponType)
    (v : Option (List (Option ObjectId))) : Except String (List ObjectId) :=
  let ids := v.getD []
  if couponType = .categoryBased then
    if ids = [] then throw "Select at least one category for a category-based coupon"
    else if none ∈ ids then throw "Invalid category"
    else if ((ids.reduceOption.dedup).filter headers).length ≠ ids.reduceOption.dedup.length then
      throw "Some selected categories no longer exist"
    else pure (ids.reduceOption.reverse.dedup).reverse
  else pure []

def readThreshold (couponType : CouponType) (v : Option (Option ℚ)) : Except String (Option ℚ) :=
  if couponType = .monthlyVolume then
    some <$> required positive "VIP coupons need the monthly spend a customer must reach" v
  else pure none

def readDates (first last : Option (Option Date)) : Except String (Date × Date) := do
  let validFrom ← required some "Start date is required" first
  let validTill ← required some "End date is required" last
  if validTill < validFrom then throw "End date must be after the start date"
  else pure (validFrom, validTill)

/-- The rules, on the fields as they are laid over the stored ones. -/
def checkCouponInput (headers : ObjectId → Bool) (c : CouponInput) : Except String CouponValue := do
  let code ← readCode c.code.join
  let couponType ← readCouponType c.couponType.join
  let discountType ← readDiscountType couponType c.discountType.join
  let discount ← readDiscount discountType c.discountValue.join c.maxDiscount.join
  let minOrderValue ← readMinOrder couponType discountType discount.1 c.minOrderValue.join
  let minItems ← readMinItems couponType c.minItems.join
  let applicableCategories ← readCategories headers couponType c.applicableCategories.join
  let monthlyVolumeThreshold ← readThreshold couponType c.monthlyVolumeThreshold.join
  let usageLimit ← optional (atLeast 1)
    "Total uses must be a whole number of 1 or more (or left empty)" c.usageLimit.join
  let perUserLimit ← optional (atLeast 1)
    "Uses per customer must be a whole number of 1 or more (or left empty for unlimited)"
    c.perUserLimit.join
  let dates ← readDates c.validFrom.join c.validTill.join
  pure
    { code, couponType, discountType, minOrderValue, minItems, applicableCategories,
      monthlyVolumeThreshold, usageLimit, perUserLimit
      title := trim (c.title.join.getD "")
      description := trim (c.description.join.getD "")
      discountValue := discount.1
      maxDiscount := discount.2
      validFrom := dates.1
      validTill := dates.2
      isActive := c.isActive.map (fun active => active.getD false) }

def normalizeCouponInput (headers : ObjectId → Bool) (input : CouponInput)
    (existing : Option CouponValue) : Except String CouponValue :=
  checkCouponInput headers (input.over (existing.elim {} CouponValue.fields))

/-! ## What passes the rules -/

/-- The fields of `c` pass the rules as `v`. -/
structure Checked (headers : ObjectId → Bool) (c : CouponInput) (v : CouponValue) : Prop where
  code : readCode c.code.join = .ok v.code
  title : v.title = trim (c.title.join.getD "")
  description : v.description = trim (c.description.join.getD "")
  couponType : readCouponType c.couponType.join = .ok v.couponType
  discountType : readDiscountType v.couponType c.discountType.join = .ok v.discountType
  discount : readDiscount v.discountType c.discountValue.join c.maxDiscount.join
    = .ok (v.discountValue, v.maxDiscount)
  minOrder : readMinOrder v.couponType v.discountType v.discountValue c.minOrderValue.join
    = .ok v.minOrderValue
  minItems : readMinItems v.couponType c.minItems.join = .ok v.minItems
  categories : readCategories headers v.couponType c.applicableCategories.join
    = .ok v.applicableCategories
  threshold : readThreshold v.couponType c.monthlyVolumeThreshold.join
    = .ok v.monthlyVolumeThreshold
  usageLimit : optional (atLeast 1)
    "Total uses must be a whole number of 1 or more (or left empty)" c.usageLimit.join
    = .ok v.usageLimit
  perUserLimit : optional (atLeast 1)
    "Uses per customer must be a whole number of 1 or more (or left empty for unlimited)"
    c.perUserLimit.join = .ok v.perUserLimit
  dates : readDates c.validFrom.join c.validTill.join = .ok (v.validFrom, v.validTill)

theorem checkCouponInput_eq_ok {headers : ObjectId → Bool} {c : CouponInput} {v : CouponValue} :
    checkCouponInput headers c = .ok v ↔
      Checked headers c v ∧ v.isActive = c.isActive.map (fun active => active.getD false) := by
  unfold checkCouponInput
  simp only [bind_eq_ok, pure_eq_ok]
  constructor
  · rintro ⟨code, hcode, couponType, hcouponType, discountType, hdiscountType, ⟨value, cap⟩, hdiscount,
      minOrder, hminOrder, minItems, hminItems, categories, hcategories, threshold, hthreshold,
      usageLimit, husageLimit, perUserLimit, hperUserLimit, ⟨first, last⟩, hdates, rfl⟩
    exact ⟨⟨hcode, rfl, rfl, hcouponType, hdiscountType, hdiscount, hminOrder, hminItems, hcategories,
      hthreshold, husageLimit, hperUserLimit, hdates⟩, rfl⟩
  · rintro ⟨h, hactive⟩
    refine ⟨_, h.code, _, h.couponType, _, h.discountType, _, h.discount, _, h.minOrder, _, h.minItems,
      _, h.categories, _, h.threshold, _, h.usageLimit, _, h.perUserLimit, _, h.dates, ?_⟩
    rw [← h.title, ← h.description, ← hactive]

/-! ### Checked again -/

section Again

variable {α β : Type} {check : α → Option β} {message : String}

variable {v : Option (Option α)}

theorem required_eq_ok {b : β} :
    required check message v = .ok b ↔ ∃ a, v = some (some a) ∧ check a = some b := by
  unfold required
  rcases v with _ | _ | a
  · simp [throw, throwThe, MonadExceptOf.throw]
  · simp [throw, throwThe, MonadExceptOf.throw]
  · cases hcheck : check a with
    | none => simp [hcheck, throw, throwThe, MonadExceptOf.throw]
    | some b' => simp [hcheck, pure, Except.pure]

theorem required_again {back : β → α} (hback : ∀ a b, check a = some b → check (back b) = some b)
    {b : β} (h : required check message v = .ok b) :
    required check message (some (some (back b))) = .ok b := by
  obtain ⟨a, -, ha⟩ := required_eq_ok.mp h
  exact required_eq_ok.mpr ⟨back b, rfl, hback a b ha⟩

theorem optional_again {back : β → α} (hback : ∀ a b, check a = some b → check (back b) = some b)
    {o : Option β} (h : optional check message v = .ok o) :
    optional check message (o.map (fun b => some (back b))) = .ok o := by
  cases v with
  | none => cases h; rfl
  | some v =>
    obtain ⟨b, hb, rfl⟩ := map_eq_ok.mp h
    exact map_eq_ok.mpr ⟨b, required_again hback hb, rfl⟩

end Again

theorem guard_again {p : ℚ → Bool} (a b : ℚ) (h : Option.guard p a = some b) :
    Option.guard p b = some b := by
  rw [Option.guard_eq_some_iff] at h ⊢
  exact ⟨rfl, h.1 ▸ h.2⟩

theorem atLeast_again {least : ℕ} (q : ℚ) (n : ℕ) (h : atLeast least q = some n) :
    atLeast least (n : ℚ) = some n := by
  unfold atLeast at h ⊢
  split at h
  next hq =>
    cases h
    have hnat : (least : ℤ) ≤ ((q.num.toNat : ℕ) : ℚ).num := by
      rw [Rat.num_natCast]
      omega
    rw [if_pos ⟨Rat.den_natCast _, hnat⟩, Rat.num_natCast]
    rfl
  next => cases h

theorem dropWhile_of_none {α : Type} {p : α → Bool} {l : List α} (h : ∀ a ∈ l, p a = false) :
    l.dropWhile p = l := by
  cases l with
  | nil => rfl
  | cons a l => exact dropWhile_cons_of_neg (by simp [h a mem_cons_self])

theorem trim_trim (s : String) : trim (trim s) = trim s := by
  unfold trim
  rw [String.toList_ofList, Sellers.dropWhile_reverse_comm isSpace
    (dropWhile_idempotent isSpace s.toList), reverse_reverse, dropWhile_idempotent]

/-- The characters of a code are in upper case and no space. -/
theorem code_normal {code : String} (h : isCode code = true) : toUpperCase (trim code) = code := by
  unfold isCode at h
  rw [Bool.and_eq_true, all_eq_true] at h
  have hspace : ∀ c ∈ code.toList, isSpace c = false := by
    intro c hc
    have hchar := h.2 c hc
    simp only [isCodeChar, Bool.or_eq_true, decide_eq_true_eq] at hchar
    simp only [isSpace, contains_cons, contains_nil, Bool.or_eq_false_iff,
      Bool.and_eq_false_iff, decide_eq_false_iff_not, beq_eq_false_iff_ne, and_true, ne_eq]
    omega
  have hupper : ∀ c ∈ code.toList, c.toUpper = c := by
    intro c hc
    have hchar := h.2 c hc
    simp only [isCodeChar, Bool.or_eq_true, decide_eq_true_eq] at hchar
    unfold Char.toUpper
    split
    next hlower =>
      exfalso
      have hlow : 97 ≤ c.toNat := hlower.1
      omega
    next => rfl
  have htrim : trim code = code := by
    unfold trim
    rw [dropWhile_of_none hspace, dropWhile_of_none (fun c hc => hspace c (mem_reverse.mp hc)),
      reverse_reverse, String.ofList_toList]
  rw [htrim, toUpperCase, map_congr_left hupper, map_id', String.ofList_toList]

theorem readCode_again {o : Option String} {code : String} (h : readCode o = .ok code) :
    readCode (some code) = .ok code := by
  unfold readCode at h ⊢
  rw [ite_throw_eq_ok, ite_throw_eq_ok, pure_eq_ok] at h ⊢
  obtain ⟨hne, hcode, rfl⟩ := h
  rw [Option.getD_some, code_normal (by simpa using hcode)]
  exact ⟨hne, hcode, rfl⟩

theorem readCouponType_word (couponType : CouponType) :
    readCouponType (some couponType.word) = .ok couponType := by
  cases couponType <;> rfl

variable {couponType : CouponType}

theorem readDiscountType_again {o : Option String} {d : DiscountType}
    (h : readDiscountType couponType o = .ok d) :
    readDiscountType couponType (some d.word) = .ok d := by
  unfold readDiscountType at h ⊢
  split at h
  next hfree =>
    rw [if_pos hfree]
    exact h
  next hother =>
    rw [if_neg hother]
    cases d <;> rfl

variable {discountType : DiscountType}

theorem readDiscount_again {o o' : Option (Option ℚ)} {value : ℚ} {cap : Option ℚ}
    (h : readDiscount discountType o o' = .ok (value, cap)) :
    readDiscount discountType (some (some value)) (cap.map some) = .ok (value, cap) := by
  unfold readDiscount at h ⊢
  cases discountType with
  | percentage =>
    simp only [bind_eq_ok, pure_eq_ok] at h ⊢
    obtain ⟨_, hvalue, _, hcap, heq⟩ := h
    cases heq
    exact ⟨_, required_again guard_again hvalue, _, optional_again guard_again hcap, rfl⟩
  | fixed =>
    simp only [bind_eq_ok, pure_eq_ok] at h ⊢
    obtain ⟨_, hvalue, heq⟩ := h
    cases heq
    exact ⟨_, required_again guard_again hvalue, rfl⟩
  | freeDelivery => exact h

variable {o : Option (Option ℚ)}

theorem readMinOrder_again {value : ℚ} {minOrder : ℚ}
    (h : readMinOrder couponType discountType value o = .ok minOrder) :
    readMinOrder couponType discountType value (some (some minOrder)) = .ok minOrder := by
  unfold readMinOrder at h ⊢
  obtain ⟨read, hread, h⟩ := bind_eq_ok.mp h
  rw [ite_throw_eq_ok, ite_throw_eq_ok, pure_eq_ok] at h
  obtain ⟨hneeds, hfits, rfl⟩ := h
  have hagain : optional notNegative "Minimum order value cannot be negative"
      (some (some (read.getD 0))) = .ok (some (read.getD 0)) := by
    cases read with
    | none => rfl
    | some q => exact optional_again guard_again hread
  refine bind_eq_ok.mpr ⟨_, hagain, ?_⟩
  rw [ite_throw_eq_ok, ite_throw_eq_ok, pure_eq_ok]
  exact ⟨hneeds, hfits, rfl⟩

theorem readMinItems_again {n : ℕ} (h : readMinItems couponType o = .ok n) :
    readMinItems couponType (some (some (n : ℚ))) = .ok n := by
  unfold readMinItems at h ⊢
  split at h
  next hbulk =>
    rw [if_pos hbulk]
    exact required_again atLeast_again h
  next hother =>
    rw [if_neg hother]
    exact h

theorem readThreshold_again {t : Option ℚ} (h : readThreshold couponType o = .ok t) :
    readThreshold couponType (t.map some) = .ok t := by
  unfold readThreshold at h ⊢
  split at h
  next hvolume =>
    rw [if_pos hvolume]
    obtain ⟨q, hq, rfl⟩ := map_eq_ok.mp h
    exact map_eq_ok.mpr ⟨q, required_again guard_again hq, rfl⟩
  next hother =>
    rw [if_neg hother]
    exact h

theorem readDates_again {o o' : Option (Option Date)} {first last : Date}
    (h : readDates o o' = .ok (first, last)) :
    readDates (some (some first)) (some (some last)) = .ok (first, last) := by
  unfold readDates at h ⊢
  simp only [bind_eq_ok, ite_throw_eq_ok, pure_eq_ok] at h ⊢
  obtain ⟨_, hfirst, _, hlast, hle, heq⟩ := h
  cases heq
  exact ⟨_, required_eq_ok.mpr ⟨_, rfl, rfl⟩, _, required_eq_ok.mpr ⟨_, rfl, rfl⟩, hle, rfl⟩

theorem reduceOption_some {α : Type} (l : List α) : (l.map some).reduceOption = l := by
  change (l.map some).filterMap id = l
  rw [filterMap_map, Function.id_comp, filterMap_some]

variable {headers headers' : ObjectId → Bool}

theorem readCategories_again {o : Option (List (Option ObjectId))} {ids ids' : List ObjectId}
    (h : readCategories headers couponType o = .ok ids)
    (h' : readCategories headers' couponType (some (ids.map some)) = .ok ids') : ids' = ids := by
  unfold readCategories at h h'
  dsimp only at h h'
  split at h
  next hcategory =>
    rw [if_pos hcategory] at h'
    rw [ite_throw_eq_ok, ite_throw_eq_ok, ite_throw_eq_ok, pure_eq_ok] at h h'
    obtain ⟨-, -, -, rfl⟩ := h
    rw [h'.2.2.2, Option.getD_some, reduceOption_some, reverse_reverse,
      (nodup_dedup _).dedup]
  next hother =>
    rw [if_neg hother] at h'
    cases h
    cases h'
    rfl

/-- What passed the rules passes them as the same, unless one of its categories is gone. -/
theorem Checked.again {c : CouponInput} {v v' : CouponValue} (h : Checked headers c v)
    (h' : checkCouponInput headers' v.fields = .ok v') : v' = v := by
  obtain ⟨h', hactive⟩ := checkCouponInput_eq_ok.mp h'
  have hisActive : v'.isActive = v.isActive := by
    rw [hactive]
    show (v.isActive.map some).map _ = v.isActive
    rw [Option.map_map]
    exact Option.map_id'
  have hcode := ok.inj (h'.code.symm.trans (readCode_again h.code))
  have htitle : v'.title = v.title := by
    rw [h'.title]
    show trim v.title = v.title
    rw [h.title, trim_trim]
  have hdescription : v'.description = v.description := by
    rw [h'.description]
    show trim v.description = v.description
    rw [h.description, trim_trim]
  have hcouponType := ok.inj (h'.couponType.symm.trans (readCouponType_word _))
  have hdiscountType := h'.discountType
  have hdiscount := h'.discount
  have hminOrder := h'.minOrder
  have hminItems := h'.minItems
  have hcategories := h'.categories
  have hthreshold := h'.threshold
  rw [hcouponType] at hdiscountType hminOrder hminItems hcategories hthreshold
  replace hdiscountType := ok.inj
    (hdiscountType.symm.trans (readDiscountType_again h.discountType))
  rw [hdiscountType] at hdiscount hminOrder
  replace hdiscount := ok.inj (hdiscount.symm.trans (readDiscount_again h.discount))
  obtain ⟨hvalue, hcap⟩ := Prod.ext_iff.mp hdiscount
  dsimp only at hvalue hcap
  rw [hvalue] at hminOrder
  replace hminOrder := ok.inj (hminOrder.symm.trans (readMinOrder_again h.minOrder))
  replace hminItems := ok.inj (hminItems.symm.trans (readMinItems_again h.minItems))
  replace hcategories := readCategories_again h.categories hcategories
  replace hthreshold := ok.inj (hthreshold.symm.trans (readThreshold_again h.threshold))
  have husage := optional_again atLeast_again h.usageLimit
  replace husage := ok.inj (h'.usageLimit.symm.trans husage)
  have hperUser := optional_again atLeast_again h.perUserLimit
  replace hperUser := ok.inj (h'.perUserLimit.symm.trans hperUser)
  obtain ⟨hfirst, hlast⟩ := Prod.ext_iff.mp
    (ok.inj (h'.dates.symm.trans (readDates_again h.dates)))
  exact CouponValue.ext hcode htitle hdescription hcouponType hdiscountType hvalue hcap hminOrder
    hminItems hcategories hthreshold husage hperUser hfirst hlast hisActive

end DiscountBazar.Pricing
