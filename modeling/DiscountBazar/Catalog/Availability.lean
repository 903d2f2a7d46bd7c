/-
What of a product can be sold (`getAvailableStock` in `cartController.js`).

A variant that keeps a stock of its own sells that; one that does not, and the product itself, sell
the master stock.
-/
import DiscountBazar.Finance.Types

namespace DiscountBazar.Catalog

/-- `trim` of spaces. -/
def trim (s : String) : String :=
  String.ofList ((s.toList.dropWhile Char.isWhitespace).reverse.dropWhile Char.isWhitespace).reverse

/-- `toLowerCase` on ASCII letters. -/
def toLowerCase (s : String) : String := String.ofList (s.toList.map Char.toLower)

/-- How the stock check compares variants. -/
def skuKey (sku : String) : String := toLowerCase (trim sku)

/-- `a || b`. -/
def orElse (a b : String) : String := if a = "" then b else a

/-- An entry of `variants`; a stock that is missing or `null` is `none`. -/
structure Variant where
  id : Option ObjectId := none
  sku : String := ""
  name : String := ""
  stock : Option ℤ
  /-- `status` is "out_of_stock", or `inStock` is false -/
  outOfStock : Bool := false
  deriving DecidableEq

structure Product where
  sellerId : ObjectId
  name : String := ""
  sku : String := ""
  stock : Option ℤ
  variants : List Variant := []
  outOfStock : Bool := false
  /-- it passes `CUSTOMER_VISIBLE_PRODUCT_MATCH` -/
  visible : Bool := true

def masterStock (product : Product) : ℤ :=
  match product.stock with
  | some stock => max 0 stock
  | none => 999

def findVariant (variants : List Variant) (variantSku : String) : Option Variant :=
  if variantSku = "" then none
  else variants.find? (fun item => decide (skuKey (orElse item.sku item.name) = skuKey variantSku))

/-- `getAvailableStock`, of a product there is. -/
def stockOf (product : Product) (variantSku : String) : ℤ :=
  if product.outOfStock then 0
  else
    match findVariant product.variants variantSku with
    | some variant =>
      if variant.outOfStock then 0
      else
        match variant.stock with
        | some stock => max 0 stock
        | none => masterStock product
    | none => masterStock product

def getAvailableStock (product : Option Product) (variantSku : String) : ℤ :=
  match product with
  | some product => stockOf product variantSku
  | none => 0

end DiscountBazar.Catalog
