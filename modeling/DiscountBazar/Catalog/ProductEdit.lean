/-
A seller's edit of a product (`updateProduct` in `productController.js`).

An edit reads the product, copies the saved stock of its variants onto the payload and writes both
back where `updatedAt` is still the one that was read; else it reads the product again and copies
anew, three times at most. Every writer of a product sets `updatedAt` to the millisecond of its
write.
-/
import DiscountBazar.Catalog.Availability
import DiscountBazar.Lib.Tasks

namespace DiscountBazar.Catalog

open Tasks
open Prog (perform)

/-! ## Variants -/

/-- `sameSku`: neither is empty, and they are equal in lower case. -/
def sameSku (a b : String) : Bool :=
  decide (a ≠ "") && decide (b ≠ "") && decide (skuKey a = skuKey b)

def sameId (variant saved : Variant) : Bool := variant.id.isSome && decide (saved.id = variant.id)

/-- The saved variants; the stock of a legacy product without any lives on the product itself. -/
def savedVariants (saved : Product) : List Variant :=
  match saved.variants with
  | [] => [{ sku := saved.sku, stock := saved.stock }]
  | variants => variants

/-- The saved variant whose stock `keepSavedStock` copies. -/
def existingVariant (saved : Product) (variant : Variant) : Option Variant :=
  (savedVariants saved).find? (fun ev => sameId variant ev || sameSku variant.sku ev.sku)

/-- `reduce((sum, v) => sum + Math.max(0, Number(v.stock) || 0), 0)`. -/
def variantStockSum (variants : List Variant) : ℤ :=
  (variants.map (fun v => max 0 (v.stock.getD 0))).sum

/-! ## The payload -/

/-- What of a payload bears on stock: `variants`, if it is an array, the keys of the form
`variants.<index>.stock`, and `sku`. -/
structure ProductData where
  variants : Option (List Variant) := none
  stockPaths : List (ℕ × ℤ) := []
  sku : Option String := none
  stock : ℤ := 0

def keptStock (saved : Product) (variant : Variant) : ℤ :=
  match existingVariant saved variant with
  | some existing => existing.stock.getD 0
  | none => max 0 (variant.stock.getD 0)

def keepSavedStock (data : ProductData) (saved : Product) : ProductData :=
  match data.variants with
  | none | some [] => { data with stock := saved.stock.getD 0 }
  | some variants =>
    let kept := variants.map (fun v => { v with stock := some (keptStock saved v) })
    { data with variants := some kept, stock := variantStockSum kept }

def isBlankSku (sku : String) : Bool := decide (trim sku = "")

/-- `toUpperCase` on ASCII letters. -/
def toUpperCase (s : String) : String := String.ofList (s.toList.map Char.toUpper)

/-- `fillBlankVariantSkus`, with the SKUs that are made for blank ones. -/
def fillBlankVariantSkus (made : ℕ → String) (variants : List Variant) : List Variant :=
  variants.mapIdx (fun i v =>
    { v with sku := if isBlankSku v.sku then made i else toUpperCase (trim v.sku) })

/-! ## The shared state -/

structure Stored where
  doc : Product
  updatedAt : Option Date

/-- The product, the time in milliseconds, and, as history, what every variant that an edit kept
could sell just before its write and just after. -/
structure Shelf where
  clock : Date
  product : Option Stored
  kept : List (ℤ × ℤ) := []

/-- What can be sold of a variant: its own stock, or the master stock when it has none of its
own. -/
def sellable (product : Product) (variant : Variant) : ℤ :=
  match variant.stock with
  | some stock => max 0 stock
  | none => masterStock product

def savedAs (saved : Product) (variant : Variant) : Option Variant :=
  match (savedVariants saved).filter (sameId variant) with
  | [ev] => some ev
  | [] =>
    match (savedVariants saved).filter (fun ev => sameSku variant.sku ev.sku) with
    | [ev] => some ev
    | _ => none
  | _ => none

/-- What the variants that are kept sell before and after; a product without variants sells its own
stock. -/
def keptStocks (before after : Product) : List (ℤ × ℤ) :=
  if before.variants = [] ∧ after.variants = [] then [(masterStock before, masterStock after)]
  else
    after.variants.filterMap (fun v =>
      (savedAs before v).map (fun ev => (sellable before ev, sellable after v)))

/-! ## Calls -/

inductive EditError where
  /-- an answer with this status and text -/
  | response (statusCode : ℕ) (message : String)
  | unavailable

inductive Kind where
  /-- `Product.findOne({ _id, sellerId })` -/
  | findProduct
  /-- uploads, slug, brand, item master: what else can end an edit -/
  | check
  /-- `makeProductSku` for the blank variants -/
  | makeSkus
  /-- `ensureUniqueSku` -/
  | ensureUniqueSku (raw : String)
  /-- the write of the data with the stock of the product that was read as `current` -/
  | write (data : ProductData) (current : Stored)

@[reducible] def Kind.Reply : Kind → Type
  | .findProduct => Option Stored
  | .makeSkus => ℕ → String
  | .ensureUniqueSku _ => String
  | .write _ _ => Bool
  | _ => Unit

structure Choice where
  outcome : Outcome EditError := .done
  made : ℕ → String := fun _ => ""
  sku : String := ""

/-- The variants after the keys of the payload that name the stock of one. -/
def applyPaths (paths : List (ℕ × ℤ)) (variants : List Variant) : List Variant :=
  paths.foldl (fun vs path => vs.modify path.1 (fun v => { v with stock := some path.2 })) variants

/-- An id that no variant has, nor any number above it. -/
def newId (variants : List Variant) : ℕ :=
  variants.foldr (fun v next => max next (v.id.getD 0 + 1)) 0

def withIds (first : ℕ) (variants : List Variant) : List Variant :=
  variants.mapIdx (fun i v => { v with id := some (v.id.getD (first + i)) })

/-- The variants after `$set` of the data. -/
def editedVariants (data : ProductData) (doc : Product) : List Variant :=
  match data.variants with
  | some variants => withIds (newId (doc.variants ++ variants)) variants
  | none => applyPaths data.stockPaths doc.variants

/-- The product after `$set` of the data. -/
def edited (data : ProductData) (doc : Product) : Product :=
  { doc with
    variants := editedVariants data doc
    stock := some data.stock
    sku := data.sku.getD doc.sku }

/-- A payload that names an array and an entry of it is refused. -/
def conflicts (data : ProductData) : Bool := data.variants.isSome && !data.stockPaths.isEmpty

def effect (c : Choice) (s : Shelf) : (kind : Kind) → Except EditError kind.Reply × Shelf
  | .findProduct => (.ok s.product, s)
  | .check => (.ok (), s)
  | .makeSkus => (.ok c.made, s)
  | .ensureUniqueSku _ => (.ok c.sku, s)
  | .write data current =>
    if conflicts data then (.error .unavailable, s)
    else
      match s.product with
      | some stored =>
        if stored.updatedAt = current.updatedAt then
          let after := edited (keepSavedStock data current.doc) stored.doc
          (.ok true,
            { s with
              product := some ⟨after, some s.clock⟩
              kept := s.kept ++ keptStocks stored.doc after })
        else (.ok false, s)
      | none => (.ok false, s)

def performOp (_ : ℕ) (kind : Kind) (c : Choice) (s : Shelf) :
    Option (Except EditError kind.Reply × Shelf) :=
  some (c.outcome.perform (effect c s kind) s)

/-! ## The handler -/

abbrev M := Prog Kind Kind.Reply EditError

def changedError : EditError :=
  .response 409 "Stock for this product changed while saving. Please try again."

def notFoundError : EditError := .response 404 "Product not found or unauthorized"

/-- The guarded write, with the attempts that are left. -/
def tryWrite : ℕ → ProductData → Stored → M Unit
  | 0, _, _ => .throw changedError
  | attempts + 1, data, current => do
      let updated ← perform (Kind.write data current)
      if updated then pure ()
      else do
        let next ← perform Kind.findProduct
        match next with
        | none => .throw notFoundError
        -- the stock is copied onto what was copied before
        | some next => tryWrite attempts (keepSavedStock data current.doc) next

def rawSku (data : ProductData) (variants : List Variant) (saved : Product) : String :=
  match data.sku with
  | some sku => if isBlankSku sku then firstSku else toUpperCase (trim sku)
  | none => firstSku
where
  firstSku : String := orElse ((variants.head?.map Variant.sku).getD "") saved.sku

def prepareVariants (data : ProductData) (saved : Product) : M ProductData :=
  match data.variants with
  | none | some [] => pure data
  | some variants => do
      let made ← perform Kind.makeSkus
      let variants := fillBlankVariantSkus made variants
      let sku ← perform (Kind.ensureUniqueSku (rawSku data variants saved))
      pure { data with variants := some variants, sku := some sku }

/-- `updateProduct`, of a seller. -/
def updateProduct (payload : ProductData) : M Unit := do
  perform Kind.check
  let product ← perform Kind.findProduct
  match product with
  | none => .throw notFoundError
  | some product => do
      let data ← prepareVariants payload product.doc
      perform Kind.check
      tryWrite 3 data product

/-- Time passes; a sale, a release, an adjustment or anything else writes the product, or deletes
it. -/
inductive Event where
  | elapse (milliseconds : ℕ)
  | write (doc : Product)
  | delete

def outside : Event → Shelf → Option Shelf
  | .elapse milliseconds, s => some { s with clock := s.clock + milliseconds }
  | .write doc, s =>
    match s.product with
    | some _ => some { s with product := some ⟨doc, some s.clock⟩ }
    | none => none
  | .delete, s => some { s with product := none }

def editSystem : System Kind Kind.Reply EditError Shelf Choice Event ProductData where
  perform := performOp
  outside := outside
  entry := updateProduct
  mayStart := fun _ _ => true

abbrev Act := Action Choice Event ProductData

end DiscountBazar.Catalog
