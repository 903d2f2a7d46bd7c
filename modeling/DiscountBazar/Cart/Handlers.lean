/-
The cart of one customer (`cartController.js`, `reorderService.js`).

Every handler loads the cart, edits it and saves it. A save writes what was edited: lines that were
only added are pushed, whatever the cart holds by then; a quantity that was changed alone is written
where the version of the cart is still the one that was read; everything else writes all lines anew,
under the same condition, and moves the version on.
-/
import DiscountBazar.Catalog.Availability
import DiscountBazar.Lib.Tasks

namespace DiscountBazar.Cart

open Tasks Catalog
open Prog (perform)

/-! ## The cart -/

structure CartItem where
  productId : ObjectId
  variantSku : String := ""
  quantity : ℤ
  deriving DecidableEq

/-- A `Cart`; `version` is its `__v`. -/
structure CartDoc where
  items : List CartItem
  version : ℕ := 0

def CartItem.same (a b : CartItem) : Bool :=
  decide (a.productId = b.productId) && decide (skuKey a.variantSku = skuKey b.variantSku)

/-- The catalog and the cart, and, as history, the quantity of every line that was set, beside what
could be sold of it at that moment. -/
structure Shop where
  products : ObjectId → Option Product
  cart : Option CartDoc := none
  sets : List (ℤ × ℤ) := []

def Shop.available (shop : Shop) (item : CartItem) : ℤ :=
  getAvailableStock (shop.products item.productId) item.variantSku

def Shop.record (shop : Shop) (lines : List CartItem) : List (ℤ × ℤ) :=
  shop.sets ++ lines.map (fun line => (line.quantity, shop.available line))

/-! ## Calls -/

inductive CartError where
  /-- an answer with this status and text -/
  | response (statusCode : ℕ) (message : String)
  /-- a text that is no id -/
  | castError
  | duplicateKey
  | versionError
  | documentNotFound
  | unavailable

structure OrderItem where
  product : Option ObjectId
  /-- `variantSlot || variantSku` -/
  variant : String := ""
  quantity : ℤ := 1

structure HistoricalOrder where
  seller : Option ObjectId
  items : List OrderItem

inductive Kind where
  /-- `getCustomerVisibleProductById` -/
  | findVisible (id : Option ObjectId)
  | findCart
  /-- `Product.findById(id).select("sellerId")` -/
  | findSellerOf (id : ObjectId)
  | findOrder
  /-- the seller of the order can be bought from -/
  | findStore (sellerId : ObjectId)
  /-- `productMap` -/
  | findProducts (sellerId : ObjectId)
  /-- the save of a new cart -/
  | insertCart (lines : List CartItem)
  /-- a save that has only pushed lines -/
  | pushLines (lines : List CartItem)
  /-- a save that has changed the quantity of one line -/
  | setQuantity (read : CartDoc) (index : ℕ) (line : CartItem)
  /-- a save with `cart.items = [...]` -/
  | replaceItems (read : CartDoc) (lines : List CartItem)
  /-- a save of all lines, with the ones that were set -/
  | updateItems (read : CartDoc) (items set : List CartItem)

@[reducible] def Kind.Reply : Kind → Type
  | .findVisible _ => Option Product
  | .findCart => Option CartDoc
  | .findSellerOf _ => Option ObjectId
  | .findOrder => Option HistoricalOrder
  | .findStore _ => Bool
  | .findProducts _ => ObjectId → Option Product
  | _ => Unit

/-- How a call goes, what the order is, and whether its seller can be bought from. -/
structure Choice where
  outcome : Outcome CartError := .done
  order : Option HistoricalOrder := none
  store : Bool := true

def visibleOf (products : ObjectId → Option Product) (sellerId id : ObjectId) : Option Product :=
  (products id).filter (fun product => product.visible && decide (product.sellerId = sellerId))

/-- The lines after the quantity of one is written. -/
def withQuantity (items : List CartItem) (index : ℕ) (quantity : ℤ) : List CartItem :=
  items.modify index (fun item => { item with quantity })

def saveItems (shop : Shop) (read : CartDoc) (items set : List CartItem) :
    Except CartError Unit × Shop :=
  match shop.cart with
  | some stored =>
    if stored.version = read.version then
      (.ok (),
        { shop with cart := some ⟨items, stored.version + 1⟩, sets := shop.record set })
    else (.error .versionError, shop)
  | none => (.error .documentNotFound, shop)

def effect (c : Choice) (shop : Shop) : (kind : Kind) → Except CartError kind.Reply × Shop
  | .findVisible id =>
    match id with
    | some id => (.ok ((shop.products id).filter Product.visible), shop)
    | none => (.error .castError, shop)
  | .findCart => (.ok shop.cart, shop)
  | .findSellerOf id => (.ok ((shop.products id).map Product.sellerId), shop)
  | .findOrder => (.ok c.order, shop)
  | .findStore _ => (.ok c.store, shop)
  | .findProducts sellerId => (.ok (visibleOf shop.products sellerId), shop)
  | .insertCart lines =>
    match shop.cart with
    | some _ => (.error .duplicateKey, shop)
    | none => (.ok (), { shop with cart := some ⟨lines, 0⟩, sets := shop.record lines })
  | .pushLines lines =>
    match shop.cart with
    | some stored =>
      (.ok (),
        { shop with
          cart := some ⟨stored.items ++ lines, stored.version + 1⟩
          sets := shop.record lines })
    | none => (.error .documentNotFound, shop)
  | .setQuantity read index line =>
    match shop.cart with
    | some stored =>
      if stored.version = read.version then
        (.ok (),
          { shop with
            cart := some { stored with items := withQuantity stored.items index line.quantity }
            sets := shop.record [line] })
      else (.error .versionError, shop)
    | none => (.error .documentNotFound, shop)
  | .replaceItems read lines => saveItems shop read lines lines
  | .updateItems read items set => saveItems shop read items set

def performOp (_ : ℕ) (kind : Kind) (c : Choice) (shop : Shop) :
    Option (Except CartError kind.Reply × Shop) :=
  some (c.outcome.perform (effect c shop kind) shop)

/-! ## Requests -/

abbrev M := Prog Kind Kind.Reply CartError

structure IdText where
  id : Option ObjectId
  exact : Bool := true

/-- `String(id) === text`. -/
def IdText.names (text : IdText) (id : ObjectId) : Bool := text.exact && decide (text.id = some id)

structure LineRequest where
  productId : IdText
  quantity : ℤ := 1
  variantSku : String := ""

/-- The quantity passes `addToCartSchema`, `replaceCartSchema` or `updateCartItemSchema`. -/
def validQuantity (min quantity : ℤ) : Bool := decide (min ≤ quantity) && decide (quantity ≤ 99)

def outOfStockError (product : Product) : CartError :=
  .response 400 (orElse product.name "Item" ++ " is currently out of stock")

def tooManyError (availableStock : ℤ) : CartError :=
  .response 400 ("Only " ++ toString availableStock ++ " units available in stock")

def invalidQuantityError (min : ℤ) : CartError :=
  .response 400 ("\"quantity\" must be between " ++ toString min ++ " and 99")

def itemsOf (cart : Option CartDoc) : List CartItem := cart.elim [] CartDoc.items

/-- The single-seller restriction: the first line's product tells the seller of the cart. -/
def checkSeller (items : List CartItem) (sellerId : ObjectId) : M Unit := do
  match items.head? with
  | none => pure ()
  | some first => do
      let existing ← perform (Kind.findSellerOf first.productId)
      if existing.isSome ∧ existing ≠ some sellerId then .throw (.response 409 "SELLER_CONFLICT")
      else pure ()

def saveLine (cart : Option CartDoc) (line : CartItem) (itemIndex : Option ℕ) : M Unit :=
  match cart, itemIndex with
  | none, _ => perform (Kind.insertCart [line])
  | some _, none => perform (Kind.pushLines [line])
  | some read, some index => perform (Kind.setQuantity read index line)

def addToCart (request : LineRequest) : M Unit :=
  let variantSku := trim request.variantSku
  if validQuantity 1 request.quantity = false then .throw (invalidQuantityError 1)
  else do
    let product ← perform (Kind.findVisible request.productId.id)
    match request.productId.id, product with
    | some productId, some product => do
        let cart ← perform Kind.findCart
        checkSeller (itemsOf cart) product.sellerId
        let availableStock := getAvailableStock (some product) variantSku
        if availableStock ≤ 0 then .throw (outOfStockError product)
        else
          -- the variant is compared as it is written
          let itemIndex := (itemsOf cart).findIdx? (fun item =>
            request.productId.names item.productId && decide (trim item.variantSku = variantSku))
          let existing := itemIndex.bind (fun index => (itemsOf cart)[index]?)
          let quantity := existing.elim 0 CartItem.quantity + request.quantity
          if availableStock < quantity then .throw (tooManyError availableStock)
          else
            match existing with
            | some item => saveLine cart { item with quantity } itemIndex
            | none => saveLine cart ⟨productId, variantSku, quantity⟩ none
    | _, _ => .throw (.response 404 "Product is not available for purchase")

def replaceCart (request : LineRequest) : M Unit :=
  let variantSku := trim request.variantSku
  if validQuantity 1 request.quantity = false then .throw (invalidQuantityError 1)
  else do
    let product ← perform (Kind.findVisible request.productId.id)
    match request.productId.id, product with
    | some productId, some product =>
      let availableStock := getAvailableStock (some product) variantSku
      if availableStock ≤ 0 then .throw (outOfStockError product)
      else if availableStock < request.quantity then .throw (tooManyError availableStock)
      else do
        let cart ← perform Kind.findCart
        let line : CartItem := ⟨productId, variantSku, request.quantity⟩
        match cart with
        | none => perform (Kind.insertCart [line])
        | some read => perform (Kind.replaceItems read [line])
    | _, _ => .throw (.response 404 "Product is not available for purchase")

/-- The line an update is about: of the variant or, failing that, one of the product where no
variant is given or the line has none. -/
def lineToUpdate (items : List CartItem) (request : LineRequest) : Option ℕ :=
  let exactly := items.findIdx? (fun item =>
    request.productId.names item.productId &&
      decide (skuKey item.variantSku = skuKey request.variantSku))
  let loosely := items.findIdx? (fun item =>
    request.productId.names item.productId &&
      (decide (skuKey request.variantSku = "") || decide (trim item.variantSku = "")))
  exactly.or loosely

/-- The stock check of `updateQuantity`; it is left out for a product that customers do not see. -/
def checkStock (product : Option Product) (variantSku : String) (quantity : ℤ) : M Unit :=
  match product with
  | none => pure ()
  | some product =>
    let availableStock := getAvailableStock (some product) variantSku
    if availableStock ≤ 0 then .throw (outOfStockError product)
    else if availableStock < quantity then .throw (tooManyError availableStock)
    else pure ()

def updateQuantity (request : LineRequest) : M Unit :=
  if validQuantity 0 request.quantity = false then .throw (invalidQuantityError 0)
  else do
    let cart ← perform Kind.findCart
    match cart with
    | none => .throw (.response 404 "Cart not found")
    | some read =>
      match lineToUpdate read.items request with
      | none => .throw (.response 404 "Product not in cart")
      | some index =>
        match read.items[index]? with
        | none => .throw (.response 404 "Product not in cart")
        | some item =>
          if 0 < request.quantity then do
            let product ← perform (Kind.findVisible request.productId.id)
            checkStock product (orElse item.variantSku request.variantSku) request.quantity
            perform (Kind.updateItems read
              (withQuantity read.items index request.quantity)
              [{ item with quantity := request.quantity }])
          else perform (Kind.updateItems read (read.items.eraseIdx index) [])

/-- The lines `removeFromCart` takes out. -/
def shouldRemove (productId : IdText) (variantSku : String) (item : CartItem) : Bool :=
  productId.names item.productId &&
    (decide (skuKey variantSku = "") || decide (skuKey item.variantSku = skuKey variantSku) ||
      decide (skuKey item.variantSku = ""))

def removeFromCart (productId : IdText) (variantSku : String) : M Unit := do
  let cart ← perform Kind.findCart
  match cart with
  | none => .throw (.response 404 "Cart not found")
  | some read =>
    perform (Kind.updateItems read
      (read.items.filter (fun item => !shouldRemove productId variantSku item)) [])

/-! ## Reordering -/

/-- A line that can be ordered again. -/
structure EligibleLine where
  productId : ObjectId
  variantSku : String
  quantity : ℤ
  availableStock : ℤ

def EligibleLine.item (line : EligibleLine) : CartItem :=
  ⟨line.productId, trim line.variantSku, line.quantity⟩

def matchVariant (product : Product) (rawVariantSku : String) : Option Variant :=
  product.variants.find? (fun v =>
    decide (skuKey v.sku = toLowerCase rawVariantSku) ||
      decide (skuKey v.name = toLowerCase rawVariantSku))

/-- The SKU an item is ordered again with, or nothing if its variant is gone. -/
def effectiveSku (product : Product) (rawVariantSku : String) : Option String :=
  if rawVariantSku = "" then some ""
  else (matchVariant product rawVariantSku).map (fun variant => orElse variant.sku rawVariantSku)

def eligibleLine (productMap : ObjectId → Option Product) (item : OrderItem) :
    Option EligibleLine :=
  match item.product with
  | none => none
  | some productId =>
    match productMap productId with
    | none => none
    | some product =>
      match effectiveSku product (trim item.variant) with
      | none => none
      | some variantSku =>
        let availableStock := getAvailableStock (some product) variantSku
        if availableStock ≤ 0 then none
        else
          let addedQty := min (max 1 item.quantity) availableStock
          some ⟨productId, variantSku, addedQty, availableStock⟩

def mergeLine (items : List CartItem) (line : EligibleLine) : List CartItem :=
  match items.findIdx? line.item.same with
  | some index =>
    items.modify index (fun item =>
      { item with quantity := min (item.quantity + line.quantity) line.availableStock })
  | none => items ++ [line.item]

def mergeLines (items : List CartItem) (lines : List EligibleLine) : List CartItem :=
  lines.foldl mergeLine items

def mergedLines (merged : List CartItem) (lines : List EligibleLine) : List CartItem :=
  merged.filter (fun item => lines.any (fun line => line.item.same item))

/-- The save after a merge: where the lines that were there are as before, the others are pushed. -/
def saveMerged (read : CartDoc) (lines : List EligibleLine) : M Unit :=
  let merged := mergeLines read.items lines
  if merged.take read.items.length = read.items ∧ read.items.length < merged.length then
    perform (Kind.pushLines (merged.drop read.items.length))
  else perform (Kind.updateItems read merged (mergedLines merged lines))

/-- The end of `reorderOrder`: the cart is overwritten or merged into. -/
def mutateCart (cart : Option CartDoc) (clearExisting : Bool) (lines : List EligibleLine) :
    M Unit :=
  match cart, clearExisting with
  | none, true => perform (Kind.insertCart (lines.map EligibleLine.item))
  | none, false => perform (Kind.insertCart (mergeLines [] lines))
  | some read, true => perform (Kind.replaceItems read (lines.map EligibleLine.item))
  | some read, false => saveMerged read lines

def checkCart (clearExisting : Bool) (cart : Option CartDoc) (sellerId : ObjectId) : M Unit :=
  if clearExisting then pure () else checkSeller (itemsOf cart) sellerId

def reorderOrder (clearExisting : Bool) : M Unit := do
  let order ← perform Kind.findOrder
  match order with
  | none => .throw (.response 404 "Order not found")
  | some order =>
    if order.items = [] then
      .throw (.response 400 "Historical order contains no items to reorder")
    else
      match order.seller with
      | none => .throw (.response 400 "Order has no associated seller")
      | some sellerId => do
          let store ← perform (Kind.findStore sellerId)
          if store = false then
            .throw (.response 400
              "The store that fulfilled this order is currently unavailable")
          else do
            let cart ← perform Kind.findCart
            checkCart clearExisting cart sellerId
            let productMap ← perform (Kind.findProducts sellerId)
            let lines := order.items.filterMap (eligibleLine productMap)
            if lines = [] then pure () else mutateCart cart clearExisting lines

/-! ## The system -/

inductive Command where
  | add (request : LineRequest)
  | replace (request : LineRequest)
  | update (request : LineRequest)
  | remove (productId : IdText) (variantSku : String)
  | reorder (clearExisting : Bool)

def Command.program : Command → M Unit
  | .add request => addToCart request
  | .replace request => replaceCart request
  | .update request => updateQuantity request
  | .remove productId variantSku => removeFromCart productId variantSku
  | .reorder clearExisting => reorderOrder clearExisting

/-- A product is written by others, or deleted: it is sold, restocked, edited, moved to another
seller. -/
structure Event where
  productId : ObjectId
  product : Option Product

def outside (e : Event) (shop : Shop) : Option Shop :=
  some { shop with products := Function.update shop.products e.productId e.product }

def cartSystem : System Kind Kind.Reply CartError Shop Choice Event Command where
  perform := performOp
  outside := outside
  entry := Command.program
  mayStart := fun _ _ => true

abbrev Act := Action Choice Event Command

end DiscountBazar.Cart
