/-
What a reorder reports, and what the cart gains by it.

Each item of the order is checked by itself and reported as added, as added in part, or as
unavailable. The lines are merged into the cart afterwards, where what a line of the cart holds
already counts towards the stock; the report does not know of it.
-/
import DiscountBazar.Cart.Consistency
import DiscountBazar.Lib.Keys

namespace DiscountBazar.Cart

open Tasks Catalog Prog List Option Int EligibleLine

/-! ## The report -/

structure AddedItem where
  productId : ObjectId
  variantSku : String
  quantity : ℤ

structure AdjustedItem where
  productId : ObjectId
  variantSku : String
  requestedQuantity : ℤ
  addedQuantity : ℤ
  availableStock : ℤ

inductive UnavailableReason where
  | productUnavailable | variantUnavailable | outOfStock

structure UnavailableItem where
  productId : Option ObjectId
  variantSku : String := ""
  reason : UnavailableReason

inductive Report where
  | added (item : AddedItem)
  | adjusted (item : AdjustedItem)
  | unavailable (item : UnavailableItem)

/-- One round of the loop over the items; its line for the cart is `eligibleLine`. -/
def report (productMap : ObjectId → Option Product) (item : OrderItem) : Report :=
  match item.product with
  | none => .unavailable { productId := none, reason := .productUnavailable }
  | some productId =>
    match productMap productId with
    | none => .unavailable { productId := some productId, reason := .productUnavailable }
    | some product =>
      match effectiveSku product (trim item.variant) with
      | none => .unavailable ⟨some productId, trim item.variant, .variantUnavailable⟩
      | some variantSku =>
        let availableStock := getAvailableStock (some product) variantSku
        if availableStock ≤ 0 then .unavailable ⟨some productId, variantSku, .outOfStock⟩
        else
          let requestedQty := max 1 item.quantity
          let addedQty := min requestedQty availableStock
          if addedQty < requestedQty then
            .adjusted ⟨productId, variantSku, requestedQty, addedQty, availableStock⟩
          else .added ⟨productId, variantSku, addedQty⟩

inductive ReorderStatus where
  | nothing | some | full

/-- The `summary` of a reorder. -/
structure ReorderSummary where
  addedItems : List AddedItem := []
  adjustedItems : List AdjustedItem := []
  unavailableItems : List UnavailableItem := []

namespace ReorderSummary

def push (summary : ReorderSummary) : Report → ReorderSummary
  | .added item => { summary with addedItems := summary.addedItems ++ [item] }
  | .adjusted item => { summary with adjustedItems := summary.adjustedItems ++ [item] }
  | .unavailable item => { summary with unavailableItems := summary.unavailableItems ++ [item] }

def addedCount (summary : ReorderSummary) : ℕ :=
  summary.addedItems.length + summary.adjustedItems.length

def status (summary : ReorderSummary) : ReorderStatus :=
  if summary.addedCount = 0 then .nothing
  else if summary.unavailableItems = [] ∧ summary.adjustedItems = [] then .full
  else .some

def reports (summary : ReorderSummary) : List Report :=
  summary.addedItems.map .added ++ summary.adjustedItems.map .adjusted
    ++ summary.unavailableItems.map .unavailable

end ReorderSummary

/-- The summary that `reorderOrder` answers with. -/
def reorderSummary (productMap : ObjectId → Option Product) (items : List OrderItem) :
    ReorderSummary :=
  items.foldl (fun summary item => summary.push (report productMap item)) {}

/-! ## What is to hold -/

def CartItem.key (item : CartItem) : ObjectId × String := (item.productId, skuKey item.variantSku)

def cartedQty (items : List CartItem) (key : ObjectId × String) : ℤ :=
  sumAt CartItem.key CartItem.quantity items key

namespace Report

def productId : Report → Option ObjectId
  | .added item => some item.productId
  | .adjusted item => some item.productId
  | .unavailable item => item.productId

def line : Report → Option CartItem
  | .added item => some ⟨item.productId, trim item.variantSku, item.quantity⟩
  | .adjusted item => some ⟨item.productId, trim item.variantSku, item.addedQuantity⟩
  | .unavailable _ => none

end Report

/-- What the summary says is added of a product and variant. -/
def reportedQty (summary : ReorderSummary) (key : ObjectId × String) : ℤ :=
  cartedQty (summary.reports.filterMap Report.line) key

/-- The variant that checkout prices a text at: of this SKU or else of this name. -/
def orderedVariant (product : Product) (rawVariantSku : String) : Option Variant :=
  (product.variants.find? (fun v => decide (trim v.sku = rawVariantSku))).or
    (product.variants.find? (fun v => decide (trim v.name = rawVariantSku)))

def orderedSku (product : Product) (rawVariantSku : String) : Option String :=
  if rawVariantSku = "" then some ""
  else (orderedVariant product rawVariantSku).map (fun v => orElse v.sku rawVariantSku)

def productOf (productMap : ObjectId → Option Product) (item : OrderItem) : Option Product :=
  item.product.bind productMap

/-- The report is of the item, and adds nothing under the SKU of another variant. -/
structure ReportOf (productMap : ObjectId → Option Product) (item : OrderItem) (r : Report) :
    Prop where
  product : r.productId = item.product
  variant : ∀ line product sku, r.line = some line → productOf productMap item = some product →
    orderedSku product (trim item.variant) = some sku → line.variantSku = trim sku

/-- The summary is true of a reorder that takes the cart from `kept` to `after`: every item is
reported in one of the lists, under the variant that was ordered, and what is reported as added the
cart has gained. -/
structure Truthful (productMap : ObjectId → Option Product) (items : List OrderItem)
    (summary : ReorderSummary) (kept after : List CartItem) : Prop where
  once : summary.reports.Perm (items.map (report productMap))
  reportOf : ∀ item ∈ items, ReportOf productMap item (report productMap item)
  gained : ∀ key, cartedQty after key - cartedQty kept key = reportedQty summary key

/-! ## When it holds -/

/-- The first variant that answers to the text in any case, by its SKU or by its name, has the SKU
of the variant that was ordered. -/
def FindsOrdered (product : Product) (rawVariantSku : String) : Prop :=
  rawVariantSku ≠ "" → ∀ v w, orderedVariant product rawVariantSku = some v →
    matchVariant product rawVariantSku = some w →
    trim (orElse w.sku rawVariantSku) = trim (orElse v.sku rawVariantSku)

def VariantsClear (productMap : ObjectId → Option Product) (items : List OrderItem) : Prop :=
  ∀ item ∈ items, ∀ product, productOf productMap item = some product →
    (eligibleLine productMap item).isSome → FindsOrdered product (trim item.variant)

/-- What the first line of a product and variant holds. -/
def firstQty (items : List CartItem) (key : ObjectId × String) : ℤ :=
  ((items.find? (fun item => decide (item.key = key))).map CartItem.quantity).getD 0

/-- Each line fits into the stock beside what is `held` of its product and variant and the lines
before it. -/
def Room (held : ObjectId × String → ℤ) : List EligibleLine → Prop
  | [] => True
  | line :: lines =>
    held line.item.key + line.quantity ≤ line.availableStock ∧
      Room (fun key => held key + if key = line.item.key then line.quantity else 0) lines

/-! ## The loop -/

section Loop

variable {productMap : ObjectId → Option Product} {items : List OrderItem}

theorem reports_push (summary : ReorderSummary) (r : Report) :
    (summary.push r).reports.Perm (summary.reports ++ [r]) := by
  cases r with
  | added item =>
    simp only [ReorderSummary.push, ReorderSummary.reports, map_append, map_cons,
      map_nil, append_assoc]
    exact Perm.append_left _
      (perm_append_comm.trans (Perm.of_eq (append_assoc ..)))
  | adjusted item =>
    simp only [ReorderSummary.push, ReorderSummary.reports, map_append, map_cons,
      map_nil, append_assoc]
    exact Perm.append_left _ (Perm.append_left _ perm_append_comm)
  | unavailable item =>
    simp only [ReorderSummary.push, ReorderSummary.reports, map_append, map_cons,
      map_nil, append_assoc]
    exact Perm.refl _

theorem reports_foldl (summary : ReorderSummary) (items : List OrderItem) :
    (items.foldl (fun summary item => summary.push (report productMap item)) summary).reports.Perm
      (summary.reports ++ items.map (report productMap)) := by
  induction items generalizing summary with
  | nil =>
    rw [map_nil, append_nil]
    exact Perm.refl _
  | cons item items ih =>
    have hrest := ih (summary.push (report productMap item))
    have hpush := (reports_push summary (report productMap item)).append_right
      (items.map (report productMap))
    rw [append_assoc, singleton_append] at hpush
    exact hrest.trans hpush

theorem reorderSummary_reports (productMap : ObjectId → Option Product) (items : List OrderItem) :
    (reorderSummary productMap items).reports.Perm (items.map (report productMap)) :=
  reports_foldl {} items

theorem report_spec (productMap : ObjectId → Option Product) (item : OrderItem) :
    (report productMap item).productId = item.product ∧
      (report productMap item).line = (eligibleLine productMap item).map EligibleLine.item := by
  unfold report eligibleLine
  cases item.product with
  | none => exact ⟨rfl, rfl⟩
  | some productId =>
    dsimp only
    cases productMap productId with
    | none => exact ⟨rfl, rfl⟩
    | some product =>
      dsimp only
      cases effectiveSku product (trim item.variant) with
      | none => exact ⟨rfl, rfl⟩
      | some variantSku =>
        dsimp only
        split
        · exact ⟨rfl, rfl⟩
        · split
          · exact ⟨rfl, rfl⟩
          · exact ⟨rfl, rfl⟩

theorem eligibleLine_spec {item : OrderItem} {line : EligibleLine}
    (h : eligibleLine productMap item = some line) :
    (∃ product, productOf productMap item = some product ∧
      effectiveSku product (trim item.variant) = some line.variantSku) ∧
      line.quantity ≤ line.availableStock := by
  unfold eligibleLine at h
  unfold productOf
  split at h
  · cases h
  next productId hid =>
    split at h
    · cases h
    next product hproduct =>
      split at h
      · cases h
      next variantSku hsku =>
        dsimp only at h
        split at h
        · cases h
        next hstock =>
          cases h
          rw [hid]
          exact ⟨⟨product, hproduct, hsku⟩, min_le_right _ _⟩

/-- The reports are under the ordered variants exactly where these are found. -/
theorem reportOf_iff : (∀ item ∈ items, ReportOf productMap item (report productMap item)) ↔
    VariantsClear productMap items := by
  constructor
  · intro h item hitem product hproduct hline hraw v w hv hw
    obtain ⟨line, hline⟩ := isSome_iff_exists.mp hline
    obtain ⟨⟨product', hproduct', hsku⟩, -⟩ := eligibleLine_spec hline
    cases hproduct.symm.trans hproduct'
    have hreport : (report productMap item).line = some line.item := by
      rw [(report_spec productMap item).2, hline]
      rfl
    have hordered : orderedSku product (trim item.variant)
        = some (orElse v.sku (trim item.variant)) := by
      rw [orderedSku, if_neg hraw, hv]
      rfl
    rw [effectiveSku, if_neg hraw, hw] at hsku
    have hunder := (h item hitem).variant line.item product _ hreport hproduct hordered
    exact (congrArg trim (some.inj hsku)).trans hunder
  · intro h item hitem
    refine ⟨(report_spec productMap item).1,
      fun cartLine product sku hreport hproduct hordered => ?_⟩
    rw [(report_spec productMap item).2] at hreport
    obtain ⟨line, hline, rfl⟩ := map_eq_some_iff.mp hreport
    obtain ⟨⟨product', hproduct', hsku⟩, -⟩ := eligibleLine_spec hline
    cases hproduct.symm.trans hproduct'
    have hclear := h item hitem product hproduct (isSome_iff_exists.mpr ⟨line, hline⟩)
    unfold effectiveSku at hsku
    unfold orderedSku at hordered
    by_cases hraw : trim item.variant = ""
    · rw [if_pos hraw] at hsku hordered
      exact congrArg trim (some.inj (hsku.symm.trans hordered))
    · rw [if_neg hraw] at hsku hordered
      obtain ⟨w, hw, heff⟩ := map_eq_some_iff.mp hsku
      obtain ⟨v, hv, rfl⟩ := map_eq_some_iff.mp hordered
      exact (congrArg trim heff.symm).trans (hclear hraw v w hv hw)

theorem cartedQty_perm {items items' : List CartItem} (h : items.Perm items')
    (key : ObjectId × String) : cartedQty items key = cartedQty items' key :=
  ((h.filter _).map _).sum_eq

theorem reportedQty_eq (productMap : ObjectId → Option Product) (items : List OrderItem)
    (key : ObjectId × String) : reportedQty (reorderSummary productMap items) key
      = cartedQty ((items.filterMap (eligibleLine productMap)).map item) key := by
  have hlines : (items.map (report productMap)).filterMap Report.line
      = (items.filterMap (eligibleLine productMap)).map item := by
    rw [filterMap_map, map_filterMap]
    exact congrArg (items.filterMap ·) (funext (fun item => (report_spec productMap item).2))
  unfold reportedQty
  rw [cartedQty_perm ((reorderSummary_reports productMap items).filterMap Report.line), hlines]

end Loop

/-! ## The merge -/

section Merge

variable {line : EligibleLine} {lines : List EligibleLine} {key : ObjectId × String}

theorem CartItem.same_iff {a b : CartItem} : a.same b = true ↔ b.key = a.key := by
  unfold CartItem.same CartItem.key
  rw [Bool.and_eq_true, decide_eq_true_iff, decide_eq_true_iff, Prod.mk.injEq]
  exact and_congr eq_comm eq_comm

theorem mergeLine_cons (item : CartItem) (items : List CartItem) (line : EligibleLine) :
    mergeLine (item :: items) line
      = if item.key = line.item.key then
          { item with quantity := min (item.quantity + line.quantity) line.availableStock } :: items
        else item :: mergeLine items line := by
  unfold mergeLine
  rw [findIdx?_cons]
  by_cases h : item.key = line.item.key
  · rw [if_pos (CartItem.same_iff.mpr h), if_pos h]
    rfl
  · rw [if_neg (fun hsame => h (CartItem.same_iff.mp hsame)), if_neg h]
    cases findIdx? line.item.same items with
    | none => rfl
    | some index => rfl

theorem cartedQty_cons (item : CartItem) (items : List CartItem) (key : ObjectId × String) :
    cartedQty (item :: items) key
      = (if key = item.key then item.quantity else 0) + cartedQty items key :=
  sumAt_cons CartItem.key CartItem.quantity item items key

theorem firstQty_cons (item : CartItem) (items : List CartItem) (key : ObjectId × String) :
    firstQty (item :: items) key
      = if key = item.key then item.quantity else firstQty items key := by
  unfold firstQty
  by_cases h : item.key = key
  · rw [find?_cons_of_pos (by simpa using h), if_pos h.symm]
    rfl
  · rw [find?_cons_of_neg (by simpa using h), if_neg (Ne.symm h)]

theorem firstQty_mergeLine (items : List CartItem) (h : line.quantity ≤ line.availableStock)
    (key : ObjectId × String) : firstQty (mergeLine items line) key
      = if key = line.item.key then min (firstQty items key + line.quantity) line.availableStock
        else firstQty items key := by
  induction items with
  | nil =>
    have hnone : firstQty [] key = 0 := rfl
    have hone : mergeLine [] line = [line.item] := rfl
    have hquantity : line.item.quantity = line.quantity := rfl
    rw [hone, firstQty_cons, hnone, zero_add, min_eq_left h, hquantity]
  | cons item items ih =>
    rw [mergeLine_cons]
    by_cases hsame : item.key = line.item.key
    · have hself : CartItem.key { item with
          quantity := min (item.quantity + line.quantity) line.availableStock } = item.key := rfl
      rw [if_pos hsame, firstQty_cons, firstQty_cons, hself, ← hsame]
      by_cases hkey : key = item.key
      · rw [if_pos hkey, if_pos hkey, if_pos hkey]
      · rw [if_neg hkey, if_neg hkey, if_neg hkey]
    · rw [if_neg hsame, firstQty_cons, firstQty_cons, ih]
      by_cases hkey : key = item.key
      · rw [if_pos hkey, if_pos hkey, if_neg (fun h' => hsame (hkey.symm.trans h'))]
      · rw [if_neg hkey, if_neg hkey]

theorem cartedQty_mergeLine (items : List CartItem) (h : line.quantity ≤ line.availableStock)
    (key : ObjectId × String) :
    cartedQty (mergeLine items line) key - cartedQty items key
      = firstQty (mergeLine items line) key - firstQty items key := by
  induction items with
  | nil =>
    have hone : mergeLine [] line = [line.item] := rfl
    have hcarted : cartedQty [] key = 0 := rfl
    have hfirst : firstQty [] key = 0 := rfl
    rw [hone, cartedQty_cons, firstQty_cons, hcarted, hfirst, add_zero]
  | cons item items ih =>
    rw [mergeLine_cons, cartedQty_cons, firstQty_cons]
    split
    next hsame =>
      have hself : CartItem.key { item with
          quantity := min (item.quantity + line.quantity) line.availableStock } = item.key := rfl
      rw [cartedQty_cons, firstQty_cons, hself]
      split
      · omega
      · omega
    next hother =>
      rw [cartedQty_cons, firstQty_cons]
      split
      next hkey =>
        -- the lines after the first of a key are merged into by other keys only
        rw [firstQty_mergeLine items h, if_neg (fun h' => hother (hkey.symm.trans h'))] at ih
        omega
      next => omega

theorem cartedQty_mergeLines (items : List CartItem)
    (h : ∀ line ∈ lines, line.quantity ≤ line.availableStock) (key : ObjectId × String) :
    cartedQty (mergeLines items lines) key - cartedQty items key
      = firstQty (mergeLines items lines) key - firstQty items key := by
  induction lines generalizing items with
  | nil =>
    have hnil : mergeLines items [] = items := rfl
    rw [hnil]
    omega
  | cons line lines ih =>
    have hfirst := cartedQty_mergeLine items (h line mem_cons_self) key
    have hrest : cartedQty (mergeLines items (line :: lines)) key
          - cartedQty (mergeLine items line) key
        = firstQty (mergeLines items (line :: lines)) key - firstQty (mergeLine items line) key :=
      ih _ (fun other hother => h other (mem_cons_of_mem _ hother))
    omega

theorem firstQty_mergeLines_le (items : List CartItem)
    (h : ∀ line ∈ lines, line.quantity ≤ line.availableStock) (key : ObjectId × String) :
    firstQty (mergeLines items lines) key
      ≤ firstQty items key + cartedQty (lines.map item) key := by
  induction lines generalizing items with
  | nil => exact le_add_of_nonneg_right (le_refl 0)
  | cons line lines ih =>
    have hrest : firstQty (mergeLines items (line :: lines)) key
        ≤ firstQty (mergeLine items line) key + cartedQty (lines.map item) key :=
      ih _ (fun other hother => h other (mem_cons_of_mem _ hother))
    have hquantity : line.item.quantity = line.quantity := rfl
    rw [firstQty_mergeLine items (h line mem_cons_self)] at hrest
    rw [map_cons, cartedQty_cons, hquantity]
    by_cases hkey : key = line.item.key
    · rw [if_pos hkey] at hrest ⊢
      have hcap := min_le_left (firstQty items key + line.quantity) line.availableStock
      omega
    · rw [if_neg hkey] at hrest ⊢
      omega

theorem gained_iff {items : List CartItem}
    (h : ∀ line ∈ lines, line.quantity ≤ line.availableStock) :
    (∀ key, cartedQty (mergeLines items lines) key - cartedQty items key
      = cartedQty (lines.map item) key) ↔ Room (firstQty items) lines := by
  induction lines generalizing items with
  | nil =>
    refine iff_of_true (fun key => ?_) trivial
    exact sub_self _
  | cons line lines ih =>
    have hline := h line mem_cons_self
    have hlines := fun other hother => h other (mem_cons_of_mem line hother)
    have hfirst := firstQty_mergeLine items hline
    have hstep := cartedQty_mergeLine items hline
    -- a line that fits adds all it has to the first line of its key
    have hadded : firstQty items line.item.key + line.quantity ≤ line.availableStock →
        firstQty (mergeLine items line)
          = fun key => firstQty items key + if key = line.item.key then line.quantity else 0 := by
      intro hfits
      funext key
      rw [hfirst]
      by_cases hkey : key = line.item.key
      · rw [if_pos hkey, if_pos hkey, hkey, min_eq_left hfits]
      · rw [if_neg hkey, if_neg hkey, add_zero]
    have hcons : ∀ key, cartedQty ((line :: lines).map item) key
        = (if key = line.item.key then line.quantity else 0)
          + cartedQty (lines.map item) key :=
      fun key => cartedQty_cons line.item _ key
    have hmerge : mergeLines items (line :: lines) = mergeLines (mergeLine items line) lines := rfl
    unfold Room
    rw [hmerge]
    constructor
    · intro hgained
      have hfits : firstQty items line.item.key + line.quantity ≤ line.availableStock := by
        have hkey := hgained line.item.key
        have hle := firstQty_mergeLines_le (mergeLine items line) hlines line.item.key
        have hgains := cartedQty_mergeLines (mergeLine items line) hlines line.item.key
        have hline' := hstep line.item.key
        rw [hfirst, if_pos rfl] at hle hgains hline'
        rw [hcons, if_pos rfl] at hkey
        have hcap := min_le_right (firstQty items line.item.key + line.quantity) line.availableStock
        omega
      refine ⟨hfits, ?_⟩
      rw [← hadded hfits]
      refine (ih hlines).mp (fun key => ?_)
      have hkey := hgained key
      have hline' := hstep key
      rw [hcons] at hkey
      rw [hadded hfits] at hline'
      dsimp only at hline'
      omega
    · rintro ⟨hfits, hroom⟩ key
      rw [← hadded hfits] at hroom
      have hrest := (ih hlines).mpr hroom key
      have hline' := hstep key
      rw [hadded hfits] at hline'
      dsimp only at hline'
      rw [hcons]
      omega

end Merge

/-! ## The reorder -/

section Run

variable {shop shop' : Shop} {c : Choice} {clearExisting : Bool} {lines : List EligibleLine}

def answer (c : Choice) (kind : Kind) (shop : Shop) : Except CartError kind.Reply × Shop :=
  effect c shop kind

def keptItems (clearExisting : Bool) (items : List CartItem) (lines : List EligibleLine) :
    List CartItem :=
  if clearExisting ∧ lines ≠ [] then [] else items

theorem mutateCart_run (c : Choice) (shop : Shop) (clearExisting : Bool)
    (lines : List EligibleLine) :
    ∃ shop', (mutateCart shop.cart clearExisting lines).run (answer c) shop = (.ok (), shop') ∧
      itemsOf shop'.cart = if clearExisting then lines.map item
        else mergeLines (itemsOf shop.cart) lines := by
  cases hcart : shop.cart with
  | none =>
    cases clearExisting with
    | true =>
      unfold mutateCart
      rw [run_perform]
      unfold answer effect
      rw [hcart]
      exact ⟨_, rfl, rfl⟩
    | false =>
      unfold mutateCart
      rw [run_perform]
      unfold answer effect
      rw [hcart]
      exact ⟨_, rfl, rfl⟩
  | some read =>
    cases clearExisting with
    | true =>
      unfold mutateCart
      rw [run_perform]
      unfold answer effect saveItems
      rw [hcart]
      dsimp only
      rw [if_pos rfl]
      exact ⟨_, rfl, rfl⟩
    | false =>
      unfold mutateCart saveMerged
      dsimp only
      split
      next hpushed =>
        rw [run_perform]
        unfold answer effect
        rw [hcart]
        refine ⟨_, rfl, ?_⟩
        have hrest := take_append_drop read.items.length (mergeLines read.items lines)
        rw [hpushed.1] at hrest
        exact hrest
      next =>
        rw [run_perform]
        unfold answer effect saveItems
        rw [hcart]
        dsimp only
        rw [if_pos rfl]
        exact ⟨_, rfl, rfl⟩

theorem checkCart_run (c : Choice) (shop : Shop) (clearExisting : Bool) (cart : Option CartDoc)
    (sellerId : ObjectId) :
    ((checkCart clearExisting cart sellerId).run (answer c) shop).2 = shop := by
  unfold checkCart checkSeller
  split
  · rfl
  · split
    · rfl
    · rw [run_bind, run_perform]
      dsimp only [answer, effect]
      split
      · rfl
      · rfl

def reorderedItems (clearExisting : Bool) (items : List CartItem) (lines : List EligibleLine) :
    List CartItem :=
  if lines = [] then items
  else if clearExisting then lines.map item
  else mergeLines items lines

theorem reorderOrder_run {order : HistoricalOrder} {sellerId : ObjectId}
    (horder : c.order = some order) (hseller : order.seller = some sellerId)
    (hrun : (reorderOrder clearExisting).run (answer c) shop = (.ok (), shop')) :
    itemsOf shop'.cart = reorderedItems clearExisting (itemsOf shop.cart)
      (order.items.filterMap (eligibleLine (visibleOf shop.products sellerId))) := by
  unfold reorderedItems
  obtain ⟨found, s, hfound, hrun⟩ := run_bind_eq_ok.mp hrun
  rw [run_perform] at hfound
  cases hfound
  rw [horder] at hrun
  dsimp only at hrun
  split at hrun
  · cases hrun
  rw [hseller] at hrun
  dsimp only at hrun
  obtain ⟨store, s, hstore, hrun⟩ := run_bind_eq_ok.mp hrun
  rw [run_perform] at hstore
  cases hstore
  split at hrun
  · cases hrun
  obtain ⟨cart, s, hcart, hrun⟩ := run_bind_eq_ok.mp hrun
  rw [run_perform] at hcart
  cases hcart
  obtain ⟨u, s, hcheck, hrun⟩ := run_bind_eq_ok.mp hrun
  have hs : s = shop := by
    rw [← checkCart_run c shop clearExisting shop.cart sellerId, hcheck]
  subst hs
  obtain ⟨productMap, s', hproducts, hrun⟩ := run_bind_eq_ok.mp hrun
  rw [run_perform] at hproducts
  cases hproducts
  split at hrun
  next hnone =>
    cases hrun
    rw [if_pos hnone]
  next hsome =>
    rw [if_neg hsome]
    obtain ⟨shop'', hmutate, hitems⟩ := mutateCart_run c s clearExisting
      (order.items.filterMap (eligibleLine (visibleOf s.products sellerId)))
    cases hmutate.symm.trans hrun
    exact hitems

theorem reordered_gained_iff {items : List CartItem}
    (h : ∀ line ∈ lines, line.quantity ≤ line.availableStock) :
    (∀ key, cartedQty (reorderedItems clearExisting items lines) key
        - cartedQty (keptItems clearExisting items lines) key
      = cartedQty (lines.map item) key) ↔
      clearExisting = true ∨ Room (firstQty items) lines := by
  unfold reorderedItems keptItems
  by_cases hnone : lines = []
  · subst hnone
    refine iff_of_true (fun key => ?_) (.inr trivial)
    rw [if_pos rfl, if_neg (fun h => h.2 rfl)]
    exact sub_self _
  · rw [if_neg hnone]
    cases clearExisting with
    | true =>
      refine iff_of_true (fun key => ?_) (.inl rfl)
      rw [if_pos rfl, if_pos ⟨rfl, hnone⟩]
      exact sub_zero _
    | false =>
      rw [if_neg Bool.false_ne_true, if_neg (fun h => Bool.false_ne_true h.1), gained_iff h]
      exact (or_iff_right Bool.false_ne_true).symm

theorem reorder_truthful_iff {order : HistoricalOrder} {sellerId : ObjectId}
    (horder : c.order = some order) (hseller : order.seller = some sellerId)
    (hrun : (reorderOrder clearExisting).run (answer c) shop = (.ok (), shop')) :
    Truthful (visibleOf shop.products sellerId) order.items
        (reorderSummary (visibleOf shop.products sellerId) order.items)
        (keptItems clearExisting (itemsOf shop.cart)
          (order.items.filterMap (eligibleLine (visibleOf shop.products sellerId))))
        (itemsOf shop'.cart) ↔
      VariantsClear (visibleOf shop.products sellerId) order.items ∧
        (clearExisting = true ∨ Room (firstQty (itemsOf shop.cart))
          (order.items.filterMap (eligibleLine (visibleOf shop.products sellerId)))) := by
  have hlines : ∀ line ∈ order.items.filterMap (eligibleLine (visibleOf shop.products sellerId)),
      line.quantity ≤ line.availableStock := by
    intro line hline
    obtain ⟨item, -, hitem⟩ := mem_filterMap.mp hline
    exact (eligibleLine_spec hitem).2
  rw [reorderOrder_run horder hseller hrun, ← reportOf_iff, ← reordered_gained_iff hlines]
  constructor
  · intro h
    refine ⟨h.reportOf, fun key => ?_⟩
    rw [h.gained key, reportedQty_eq]
  · rintro ⟨hreports, hgained⟩
    refine ⟨reorderSummary_reports _ _, hreports, fun key => ?_⟩
    rw [hgained key, reportedQty_eq]

end Run

def shirtOrder : HistoricalOrder where
  seller := some 1
  items := [{ product := some 7, variant := "RED", quantity := 4 }]

theorem reorder_truthful_of_empty :
    Truthful (visibleOf wardrobe.products 1) shirtOrder.items
      (reorderSummary (visibleOf wardrobe.products 1) shirtOrder.items) []
      [⟨7, "RED", 4⟩] := by
  have hrun : (reorderOrder false).run (answer { order := some shirtOrder }) wardrobe
      = (.ok (), { wardrobe with cart := some ⟨[⟨7, "RED", 4⟩], 0⟩, sets := [(4, 5)] }) := by
    rfl
  refine (reorder_truthful_iff rfl rfl hrun).mpr ⟨?_, .inr ⟨by decide +kernel, trivial⟩⟩
  intro item hitem product hproduct _ _ v w hv hw
  cases mem_singleton.mp hitem
  have hshirt : productOf (visibleOf wardrobe.products 1)
      { product := some 7, variant := "RED", quantity := 4 } = some shirt := rfl
  cases hshirt.symm.trans hproduct
  have hordered : orderedVariant shirt (trim "RED") = some { sku := "RED", stock := some 5 } := by
    decide +kernel
  have hmatched : matchVariant shirt (trim "RED") = some { sku := "RED", stock := some 5 } := by
    decide +kernel
  cases hordered.symm.trans hv
  cases hmatched.symm.trans hw
  rfl

/-- With three of five red shirts in the cart four are reported as added, and two are. -/
theorem reorder_overstated :
    ¬ ∀ (shop shop' : Shop) (c : Choice) (order : HistoricalOrder) (sellerId : ObjectId)
        (clearExisting : Bool), c.order = some order → order.seller = some sellerId →
      (reorderOrder clearExisting).run (answer c) shop = (.ok (), shop') →
      Truthful (visibleOf shop.products sellerId) order.items
        (reorderSummary (visibleOf shop.products sellerId) order.items)
        (keptItems clearExisting (itemsOf shop.cart)
          (order.items.filterMap (eligibleLine (visibleOf shop.products sellerId))))
        (itemsOf shop'.cart) := by
  intro h
  have hgained := (h { wardrobe with cart := some ⟨[⟨7, "RED", 3⟩], 0⟩ }
    { wardrobe with cart := some ⟨[⟨7, "RED", 5⟩], 1⟩, sets := [(5, 5)] }
    { order := some shirtOrder } shirtOrder 1 false rfl rfl rfl).gained (7, "red")
  exact absurd hgained (by decide +kernel)

end DiscountBazar.Cart
