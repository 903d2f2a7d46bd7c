/-
Ratings of products (`productRatingController.js`).

A rating is one document for each item of a delivered order, and the product carries what its active
ratings add up to. Both handlers change a rating and then move the product's figures by what the change
is worth, in one transaction, or, where no session can be had, in separate calls.
-/
import DiscountBazar.Finance.Types
import DiscountBazar.Lib.Debts
import DiscountBazar.Lib.Tasks
import Mathlib.Algebra.Group.Prod
import Mathlib.Data.Fintype.Basic

namespace DiscountBazar.Ratings

open Tasks Function
open Prog (perform)

/-! ## Documents -/

/-- `RATING_STATUSES`. -/
inductive RatingStatus where
  | active | flagged | hidden | removed
  deriving DecidableEq

/-- A number of stars, counted from none. -/
abbrev Stars := Fin 5

/-- The `rating` it stands for, from 1 to 5. -/
def Stars.rating (stars : Stars) : ℤ := stars.val + 1

structure ProductRating where
  id : ObjectId
  orderItemId : ObjectId
  customerId : ObjectId
  productId : ObjectId
  stars : Stars
  status : RatingStatus := .active

abbrev ProductRatings := Table ProductRating.id

structure Aggregate where
  ratingSum : ℤ := 0
  ratingCount : ℤ := 0
  ratingAverage : ℚ := 0
  ratingDistribution : Stars → ℤ := fun _ => 0
  deriving DecidableEq

/-- `Number(x.toFixed(2))`. -/
def toFixed2 (x : ℚ) : ℚ := mathRound (x * 100) / 100

def averageOf (ratingSum ratingCount : ℤ) : ℚ :=
  if 0 < ratingCount then toFixed2 (ratingSum / ratingCount) else 0

/-- How a change of one rating moves the figures: `deltaCount` is 1 or -1, and `deltaSum` and
`deltaDist` go with it. -/
structure Delta where
  stars : Stars
  sign : ℤ

/-- The new figures of `updateProductAggregate`. -/
def updatedAggregate (aggregate : Aggregate) (delta : Delta) : Aggregate :=
  let currentSum := max 0 (aggregate.ratingSum + delta.sign * delta.stars.rating)
  let currentCount := max 0 (aggregate.ratingCount + delta.sign)
  { ratingSum := currentSum
    ratingCount := currentCount
    ratingAverage := averageOf currentSum currentCount
    ratingDistribution := fun stars =>
      if stars = delta.stars then max 0 (aggregate.ratingDistribution stars + delta.sign)
      else aggregate.ratingDistribution stars }

/-- One rating of the loop in `rebuildProductRatingAggregate`. -/
def countRating (figures : ℤ × (Stars → ℤ)) (rating : ProductRating) : ℤ × (Stars → ℤ) :=
  (figures.1 + rating.stars.rating,
    update figures.2 rating.stars (figures.2 rating.stars + 1))

def isActiveOf (productId : ObjectId) (rating : ProductRating) : Bool :=
  decide (rating.productId = productId) && decide (rating.status = .active)

def rebuildProductRatingAggregate (productId : ObjectId) (ratings : ProductRatings) : Aggregate :=
  let activeRatings := ratings.rows.filter (isActiveOf productId)
  let ratingCount := (activeRatings.length : ℤ)
  let figures := activeRatings.foldl countRating (0, fun _ => 0)
  { ratingSum := figures.1
    ratingCount := ratingCount
    ratingAverage := averageOf figures.1 ratingCount
    ratingDistribution := figures.2 }

/-! ## The shared state -/

/-- Count, sum and distribution. -/
abbrev Totals := ℤ × ℤ × (Stars → ℤ)

def Aggregate.totals (aggregate : Aggregate) : Totals :=
  (aggregate.ratingCount, aggregate.ratingSum, aggregate.ratingDistribution)

/-- What a change of one rating is worth. -/
def Delta.totals (delta : Delta) : Totals :=
  (delta.sign, delta.sign * delta.stars.rating, Pi.single delta.stars delta.sign)

/-- The ratings, the figures of the products there are, and, as history, what tasks that have changed a
rating outside a transaction still owe the figures. -/
structure Shop where
  ratings : ProductRatings
  products : ObjectId → Option Aggregate
  debts : Debts ℕ (ObjectId → Totals) := Table.empty

/-! ## Calls -/

inductive RatingError where
  /-- an answer with this status and text -/
  | response (statusCode : ℕ) (message : String)
  /-- `E11000`, of the index on `orderItemId` and `customerId` -/
  | duplicateKey
  | unavailable
  deriving DecidableEq

inductive ItemReturnStatus where
  | none | requested | approved | rejected | completed
  deriving DecidableEq

structure OrderItem where
  id : ObjectId
  product : ObjectId
  returnStatus : ItemReturnStatus := .none

structure DeliveredOrder where
  orderStatus : String
  status : String
  deliveredAt : Option Date
  updatedAt : Option Date
  items : List OrderItem

structure NewRating where
  orderItemId : ObjectId
  customerId : ObjectId
  productId : ObjectId
  stars : Stars

inductive Kind where
  /-- `Order.findOne({ customer, "items._id" })` -/
  | findOrder (customerId orderItemId : ObjectId)
  /-- `ProductRating.findOne({ orderItemId, customerId })` -/
  | findExisting (orderItemId customerId : ObjectId)
  | startSession
  /-- the transaction of `submitProductRating` -/
  | submit (rating : NewRating)
  | saveRating (rating : NewRating)
  | findRating (id : ObjectId)
  /-- the transaction of `updateRatingStatus`, of a rating that was read as `loaded` -/
  | moderate (loaded : ProductRating) (status : RatingStatus)
  | saveStatus (loaded : ProductRating) (status : RatingStatus)
  | findProduct (productId : ObjectId)
  /-- the `$set` of `updateProductAggregate`, of a product that was read as `read` -/
  | writeProduct (productId : ObjectId) (read : Aggregate) (delta : Delta)

@[reducible] def Kind.Reply : Kind → Type
  | .findOrder _ _ => Option DeliveredOrder
  | .findExisting _ _ | .startSession => Bool
  | .findRating _ => Option ProductRating
  | .findProduct _ => Option Aggregate
  | _ => Unit

/-- How a call goes, what the order is, and whether a session can be had. -/
structure Choice where
  outcome : Outcome RatingError := .done
  order : Option DeliveredOrder := none
  session : Bool := true

def isRated (ratings : ProductRatings) (orderItemId customerId : ObjectId) : Bool :=
  ratings.rows.any (fun rating =>
    decide (rating.orderItemId = orderItemId) && decide (rating.customerId = customerId))

def NewRating.document (rating : NewRating) (id : ObjectId) : ProductRating where
  id := id
  orderItemId := rating.orderItemId
  customerId := rating.customerId
  productId := rating.productId
  stars := rating.stars

def added (ratings : ProductRatings) (rating : NewRating) : ProductRatings :=
  ratings.insert (rating.document ratings.freshKey)

/-- The ratings after the save of a document that was read as `loaded`: its status is written. -/
def withStatus (ratings : ProductRatings) (loaded : ProductRating) (status : RatingStatus) :
    ProductRatings :=
  match ratings.get? loaded.id with
  | some current => ratings.set { current with status }
  | none => ratings

def moved (products : ObjectId → Option Aggregate) (productId : ObjectId) (delta : Delta) :
    ObjectId → Option Aggregate :=
  match products productId with
  | some aggregate => update products productId (some (updatedAggregate aggregate delta))
  | none => products

/-- What `updateRatingStatus` moves: a rating that was active and is not any more counts no longer, one
that was not and is counts again. -/
def moderationDelta (loaded : ProductRating) (status : RatingStatus) : Option Delta :=
  if loaded.status = .active ∧ status ≠ .active then some ⟨loaded.stars, -1⟩
  else if loaded.status ≠ .active ∧ status = .active then some ⟨loaded.stars, 1⟩
  else none

/-- The figures after the adjustment of `updateRatingStatus`. -/
def adjusted (products : ObjectId → Option Aggregate) (productId : ObjectId) :
    Option Delta → ObjectId → Option Aggregate
  | some delta => moved products productId delta
  | none => products

def worth (productId : ObjectId) (delta : Delta) : ObjectId → Totals :=
  Pi.single productId delta.totals

def effect (task : ℕ) (c : Choice) (shop : Shop) :
    (kind : Kind) → Except RatingError kind.Reply × Shop
  | .findOrder _ _ => (.ok c.order, shop)
  | .findExisting orderItemId customerId =>
    (.ok (isRated shop.ratings orderItemId customerId), shop)
  | .startSession => (.ok c.session, shop)
  | .submit rating =>
    if isRated shop.ratings rating.orderItemId rating.customerId then (.error .duplicateKey, shop)
    else
      (.ok (),
        { shop with
          ratings := added shop.ratings rating
          products := moved shop.products rating.productId ⟨rating.stars, 1⟩ })
  | .saveRating rating =>
    if isRated shop.ratings rating.orderItemId rating.customerId then (.error .duplicateKey, shop)
    else
      (.ok (),
        { shop with
          ratings := added shop.ratings rating
          debts := shop.debts.owe task (worth rating.productId ⟨rating.stars, 1⟩) })
  | .findRating id => (.ok (shop.ratings.get? id), shop)
  | .moderate loaded status =>
    (.ok (),
      { shop with
        ratings := withStatus shop.ratings loaded status
        products := adjusted shop.products loaded.productId (moderationDelta loaded status) })
  | .saveStatus loaded status =>
    (.ok (),
      { shop with
        ratings := withStatus shop.ratings loaded status
        debts :=
          match moderationDelta loaded status with
          | some delta => shop.debts.owe task (worth loaded.productId delta)
          | none => shop.debts })
  | .findProduct productId =>
    match shop.products productId with
    | some aggregate => (.ok (some aggregate), shop)
    -- nothing is owed to a product that is gone
    | none => (.ok none, { shop with debts := shop.debts.owe task (-shop.debts.owes task) })
  | .writeProduct productId read delta =>
    (.ok (),
      { shop with
        products :=
          match shop.products productId with
          | some _ => update shop.products productId (some (updatedAggregate read delta))
          | none => shop.products
        debts := shop.debts.owe task (-worth productId delta) })

def performOp (task : ℕ) (kind : Kind) (c : Choice) (shop : Shop) :
    Option (Except RatingError kind.Reply × Shop) :=
  some (c.outcome.perform (effect task c shop kind) shop)

/-! ## The handlers -/

/-- `toLowerCase` on ASCII letters. -/
def toLowerCase (s : String) : String := String.ofList (s.toList.map Char.toLower)

abbrev M := Prog Kind Kind.Reply RatingError

def isOrderDelivered (order : DeliveredOrder) : Bool :=
  decide (order.orderStatus = "DELIVERED") || decide (toLowerCase order.orderStatus = "delivered") ||
    decide (toLowerCase order.status = "delivered")

def getOrderDeliveredAt (order : DeliveredOrder) (now : Date) : Date :=
  order.deliveredAt.getD (order.updatedAt.getD now)

/-- `isWithinRatingWindow`: seven days. -/
def isWithinRatingWindow (deliveredAt now : Date) : Bool :=
  decide (now - deliveredAt ≤ 7 * (1000 * 60 * 60 * 24))

/-- The product of the item, if the order and the item can be rated. -/
def rateable (order : DeliveredOrder) (orderItemId : ObjectId) (now : Date) :
    Except RatingError ObjectId :=
  if isOrderDelivered order = false then
    .error (.response 400 "Product rating is only available for delivered orders")
  else if isWithinRatingWindow (getOrderDeliveredAt order now) now = false then
    .error (.response 410 "Rating window of 7 days has expired for this order")
  else
    match order.items.find? (fun item => decide (item.id = orderItemId)) with
    | none => .error (.response 404 "Order item not found in order")
    | some item =>
      if item.returnStatus = .completed ∨ item.returnStatus = .approved then
        .error (.response 400 "Cannot rate returned or refunded items")
      else .ok item.product

theorem five_ne_zero : NeZero 5 := ⟨Nat.succ_ne_zero 4⟩

/-- `Number.isInteger(rating)` between 1 and 5. -/
def validRating (rating : Option ℚ) : Option Stars :=
  match rating with
  | some value =>
    if value.den = 1 ∧ 1 ≤ value.num ∧ value.num ≤ 5 then
      some (@Fin.ofNat 5 five_ne_zero (value.num - 1).toNat)
    else none
  | none => none

/-- A session, or none where it cannot be had. -/
def startSession : M Bool := (perform Kind.startSession).tryCatch (fun _ => pure false)

/-- `updateProductAggregate` outside a transaction. -/
def updateProductAggregate (productId : ObjectId) (delta : Delta) : M Unit := do
  let product ← perform (Kind.findProduct productId)
  match product with
  | none => pure ()
  | some aggregate => perform (Kind.writeProduct productId aggregate delta)

/-- A request to rate an item; what is no valid id or number is `none`. -/
structure SubmitRequest where
  customerId : ObjectId
  orderItemId : Option ObjectId
  rating : Option ℚ
  now : Date

def createRating (rating : NewRating) : M Unit := do
  let session ← startSession
  if session then perform (Kind.submit rating)
  else do
    perform (Kind.saveRating rating)
    updateProductAggregate rating.productId ⟨rating.stars, 1⟩

/-- The answer to a rating that came twice. -/
def resolveDuplicate (rating : NewRating) (e : RatingError) : M Unit :=
  if e = .duplicateKey then
    (perform (Kind.findExisting rating.orderItemId rating.customerId)).discard
  else .throw e

/-- The part of `submitProductRating` once the product is known. -/
def submitRating (rating : NewRating) : M Unit := do
  let existing ← perform (Kind.findExisting rating.orderItemId rating.customerId)
  if existing then .throw (.response 409 "You have already rated this product item")
  else (createRating rating).tryCatch (resolveDuplicate rating)

def submitProductRating (request : SubmitRequest) : M Unit :=
  match request.orderItemId, validRating request.rating with
  | none, _ => .throw (.response 400 "Valid orderItemId is required")
  | _, none => .throw (.response 400 "Rating must be an integer between 1 and 5")
  | some orderItemId, some stars => do
      let order ← perform (Kind.findOrder request.customerId orderItemId)
      match order with
      | none => .throw (.response 403 "Order item not found or unauthorized")
      | some order =>
        match rateable order orderItemId request.now with
        | .error e => .throw e
        | .ok productId => submitRating ⟨orderItemId, request.customerId, productId, stars⟩

/-- A status is written, and the figures move with it. -/
def changeStatus (loaded : ProductRating) (status : RatingStatus) : M Unit := do
  let session ← startSession
  if session then perform (Kind.moderate loaded status)
  else do
    perform (Kind.saveStatus loaded status)
    match moderationDelta loaded status with
    | some delta => updateProductAggregate loaded.productId delta
    | none => pure ()

/-- `updateRatingStatus`; a status that is none of `RATING_STATUSES` is `none`. -/
def updateRatingStatus (id : ObjectId) (status : Option RatingStatus) : M Unit :=
  match status with
  | none => .throw (.response 400 "Invalid rating status")
  | some status => do
      let rating ← perform (Kind.findRating id)
      match rating with
      | none => .throw (.response 404 "Product rating not found")
      | some loaded => if loaded.status = status then pure () else changeStatus loaded status

inductive Command where
  | submit (request : SubmitRequest)
  | moderate (id : ObjectId) (status : Option RatingStatus)

def Command.program : Command → M Unit
  | .submit request => submitProductRating request
  | .moderate id status => updateRatingStatus id status

def ratingSystem : System Kind Kind.Reply RatingError Shop Choice Empty Command where
  perform := performOp
  outside := fun e => e.elim
  entry := Command.program
  mayStart := fun _ _ => true

abbrev Pool := Tasks.Pool Kind Kind.Reply RatingError Shop

abbrev Act := Action Choice Empty Command

end DiscountBazar.Ratings
