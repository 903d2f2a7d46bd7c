/-
The inspection of a returned parcel, from the request to the counters
(`cancellationInventoryService.js`).

What the store sends is read with JavaScript's `Number`: null, false and an empty text are 0.
Whatever it sends, each unit of an accepted inspection is sellable, damaged or missing, and
the answer counts a sellable unit of a product that is gone as missing. The master stock of a
product is then the sum of its variants, whatever was added to it: it rises by the restored
units exactly when it lagged behind that sum by the units that no counter takes.
-/
import DiscountBazar.Inventory.ReleaseOnce

namespace DiscountBazar.Inventory

open Function List Option Prod Product World

/-! ## The request -/

/-- A value of the request; an array or an object is the text that JavaScript reads it as. -/
inductive RawValue where
  | undefined | null
  | boolean (b : Bool)
  | number (x : Option ℚ)
  | text (s : String)

/-- `Number(v)`; `none` is NaN or an infinity, and `parse` is what it makes of a text. -/
def RawValue.toNumber (parse : String → Option ℚ) : RawValue → Option ℚ
  | .undefined => none
  | .null => some 0
  | .boolean b => some (if b then 1 else 0)
  | .number x => x
  | .text s => parse s

/-- `v ?? 0`. -/
def RawValue.orZero : RawValue → RawValue
  | .undefined => .number (some 0)
  | .null => .number (some 0)
  | v => v

/-- `Number.isInteger`, with the integer it is. -/
def wholeNumber (x : Option ℚ) : Option ℤ :=
  x.bind (fun q => if q.den = 1 then some q.num else none)

/-- An entry of the request; one that is not an object has no field. -/
structure RawItem where
  itemIndex : RawValue := .undefined
  sellableQty : RawValue := .undefined
  damagedQty : RawValue := .undefined
  missingQty : RawValue := .undefined

/-- An entry as `normalizeInspection` reads it. -/
def RawItem.row (parse : String → Option ℚ) (raw : RawItem) : InspectionRow where
  itemIndex := wholeNumber (raw.itemIndex.toNumber parse)
  sellableQty := wholeNumber (raw.sellableQty.orZero.toNumber parse)
  damagedQty := wholeNumber (raw.damagedQty.orZero.toNumber parse)
  missingQty := wholeNumber (raw.missingQty.orZero.toNumber parse)

/-- `normalizeInspection` of what was sent; `none` is not an array. -/
def normalizeRaw (parse : String → Option ℚ) (items : List Line)
    (rawItems : Option (List RawItem)) : Except ServiceError Inspection :=
  normalizeInspection items ((rawItems.getD []).map (RawItem.row parse))

/-! ## The restoration -/

/-- A line in the answer of `restoreInspectedInventory`. -/
structure InspectedItem where
  itemIndex : ℕ
  product : ObjectId
  name : String
  variantSku : String
  quantity : ℕ
  restoredQty : ℕ
  damagedQty : ℕ
  missingQty : ℕ
  deriving DecidableEq

/-- A product's new stock, for the catalogue. -/
structure StockUpdate where
  product : ObjectId
  stock : ℤ
  variantSku : String
  deriving DecidableEq

/-- `inspection[index] || {}`. -/
def entryOf (inspection : Inspection) (index : ℕ) : InspectedLine :=
  (inspection index).getD ⟨0, 0, 0⟩

def sellableItem (inspection : Inspection) (item : Line × ℕ) : Line × ℕ :=
  ({ item.1 with quantity := (entryOf inspection item.2).sellableQty }, item.2)

def restoreSellable (i : ℕ) (w : World) (item : Line × ℕ) : Option Product × World :=
  if item.1.quantity = 0 then (none, w)
  else
    match w.incrementProductStock i item.2 item.1 with
    | (none, w') => (none, w')
    | (some p, w') => (some p.healReleased, w'.keepMasterStock item.1.product p)

/-- The answer for a line, whose product took the units back or not. -/
def inspectedItem (inspection : Inspection) (item : Line × ℕ) (updated : Bool) : InspectedItem :=
  let entry := entryOf inspection item.2
  let restoredQty := if updated then entry.sellableQty else 0
  { itemIndex := item.2
    product := item.1.product
    name := item.1.productName
    variantSku := item.1.variantSku
    quantity := item.1.quantity
    restoredQty := restoredQty
    damagedQty := entry.damagedQty
    missingQty := entry.missingQty + (entry.sellableQty - restoredQty) }

/-- The loop of `restoreInspectedInventory`. -/
def restoreInspectedItems (i : ℕ) (inspection : Inspection) :
    World → List (Line × ℕ) → (List InspectedItem × List StockUpdate) × World
  | w, [] => (([], []), w)
  | w, item :: items =>
    let updated := restoreSellable i w (sellableItem inspection item)
    let rest := restoreInspectedItems i inspection updated.2 items
    let update := updated.1.map (fun p => ⟨item.1.product, p.stock, item.1.variantSku⟩)
    ((inspectedItem inspection item updated.1.isSome :: rest.1.1, update.toList ++ rest.1.2),
      rest.2)

/-- `restoreInspectedInventory` in the caller's transaction. -/
def World.restoreInspectedInventory (w : World) (i : ℕ) (inspection : Inspection) :
    Except ServiceError ((List InspectedItem × List StockUpdate) × World) :=
  match w.claimReservationRelease i with
  | (false, _) => throw ⟨"Stock for this order has already been released", some 409⟩
  | (true, w') => pure (restoreInspectedItems i inspection w' w'.order.items.zipIdx)

/-- The two functions on what a store sends; an error leaves the world as it was. -/
def World.inspect (w : World) (i : ℕ) (parse : String → Option ℚ)
    (rawItems : Option (List RawItem)) :
    Except ServiceError (List InspectedItem × List StockUpdate) × World :=
  match normalizeRaw parse w.order.items rawItems with
  | .error e => (.error e, w)
  | .ok inspection =>
    match w.restoreInspectedInventory i inspection with
    | .error e => (.error e, w)
    | .ok (answer, w') => (.ok answer, w')

/-! ## Statements -/

def units (lines : List Line) : ℕ := (lines.map Line.quantity).sum

def linesOf (id : ObjectId) (lines : List Line) : List Line :=
  lines.filter (fun l => decide (l.product = id))

def restoredUnits (id : ObjectId) (items : List InspectedItem) : ℕ :=
  ((items.filter (fun r => decide (r.product = id))).map InspectedItem.restoredQty).sum

/-- Each line has an entry, whose units are the ordered ones. -/
def Normalized (items : List Line) (inspection : Inspection) : Prop :=
  ∀ item ∈ items.zipIdx, ∃ entry, inspection item.2 = some entry ∧
    entry.sellableQty + entry.damagedQty + entry.missingQty = item.1.quantity

structure AnswersFor (item : Line × ℕ) (r : InspectedItem) : Prop where
  index : r.itemIndex = item.2
  product : r.product = item.1.product
  quantity : r.quantity = item.1.quantity
  accounted : r.restoredQty + r.damagedQty + r.missingQty = item.1.quantity

/-- Each product that is there has its stock raised by the restored units, and nothing is
restored of one that is gone. -/
structure RaisedBy (items : List InspectedItem) (products products' : Products) : Prop where
  gone : ∀ id, products id = none → products' id = none ∧ restoredUnits id items = 0
  raised : ∀ id p, products id = some p →
    ∃ p', products' id = some p' ∧ p'.stock = p.stock + restoredUnits id items

/-- What is sent is refused without effect; or every unit is accounted for, in the inspection
and in the answer, and the products' stock is raised by what the answer says. -/
def InspectionExact (w : World) (i : ℕ) (parse : String → Option ℚ)
    (rawItems : Option (List RawItem)) : Prop :=
  (∃ e, w.inspect i parse rawItems = (.error e, w)) ∨
    ∃ inspection answer w', normalizeRaw parse w.order.items rawItems = .ok inspection ∧
      w.inspect i parse rawItems = (.ok answer, w') ∧ Normalized w.order.items inspection ∧
      Forall₂ AnswersFor w.order.items.zipIdx answer.1 ∧
      RaisedBy answer.1 w.products w'.products

/-- The line goes to this variant, if to none before it. -/
def names (v : Variant) (l : Line) : Bool := decide (l.variantSku ≠ "") && tracked l.variantSku v

/-- The units of the lines that do not show in the variants' sum: those that fill up a
counter below 0, and those of lines that no counter takes. -/
def lostUnits : List Variant → List Line → ℤ
  | [], lines => units lines
  | v :: vs, lines =>
    min (units (lines.filter (names v)) : ℤ) (max 0 (-(v.stock.getD 0))) +
      lostUnits vs (lines.filter (fun l => !names v l))

/-- If a variant of the product counts and the lines have units, then its master stock lags
behind the sum of its variants by the lost units. -/
def Lags (p : Product) (lines : List Line) : Prop :=
  p.variants.any (fun v => v.stock.isSome) = true → units lines ≠ 0 →
    p.stock + lostUnits p.variants lines = variantStockSum p.variants

instance (p : Product) (lines : List Line) : Decidable (Lags p lines) :=
  inferInstanceAs (Decidable (_ → _ → _))

/-! ## Reading the request -/

variable {inspection : Inspection}

theorem normalized_of_ok {items : List Line} {rows : List InspectionRow}
    (h : normalizeInspection items rows = .ok inspection) : Normalized items inspection := by
  unfold normalizeInspection at h
  obtain ⟨byIndex, -, hrest⟩ := Transaction.bind_eq_ok.mp h
  obtain ⟨u, hcheck, hpure⟩ := Transaction.bind_eq_ok.mp hrest
  cases Transaction.pure_eq_ok.mp hpure
  exact checkInspection_ok hcheck

variable {item : Line × ℕ}

theorem answersFor_inspectedItem {items : List Line} (h : Normalized items inspection)
    (hitem : item ∈ items.zipIdx) (updated : Bool) :
    AnswersFor item (inspectedItem inspection item updated) := by
  obtain ⟨entry, hentry, hsum⟩ := h item hitem
  have hof : entryOf inspection item.2 = entry := by
    rw [entryOf, hentry, getD_some]
  refine ⟨rfl, rfl, rfl, ?_⟩
  unfold inspectedItem
  rw [hof, ← hsum]
  dsimp only
  cases updated with
  | false =>
    rw [if_neg Bool.false_ne_true]
    omega
  | true =>
    rw [if_pos rfl]
    omega

/-! ## The loop -/

theorem inspectedItem_zero (b b' : Bool) (h : (sellableItem inspection item).1.quantity = 0) :
    inspectedItem inspection item b = inspectedItem inspection item b' := by
  have hzero : (entryOf inspection item.2).sellableQty = 0 := h
  unfold inspectedItem
  dsimp only
  rw [hzero, ite_self, ite_self]

theorem restoreSellable_world (i : ℕ) (w : World) (item : Line × ℕ) :
    (restoreSellable i w item).2 = w.restoreItem i item := by
  unfold restoreSellable World.restoreItem
  split
  · rfl
  · cases w.incrementProductStock i item.2 item.1 with
    | mk updated w' => cases updated <;> rfl

theorem restoreSellable_isSome {i : ℕ} {w : World} (h : item.1.quantity ≠ 0) :
    (restoreSellable i w item).1.isSome = (w.products item.1.product).isSome := by
  unfold restoreSellable
  rw [if_neg h, World.incrementProductStock]
  cases w.products item.1.product with
  | none | some => rfl

theorem keepMasterStock_products (w : World) (i index : ℕ) (l : Line) (p : Product) :
    ((w.restock i index l p).keepMasterStock l.product (p.increment l)).products =
      update w.products l.product (some (p.incrementProductStock l)) := by
  have hheal : ∀ q : Product, { q with stock := q.healReleased.stock } = q.healReleased :=
    fun q => Product.ext rfl (healReleased_variants q).symm
  unfold World.keepMasterStock World.restock Product.incrementProductStock
  split
  next hsame =>
    have : (p.increment l).healReleased = p.increment l :=
      Product.ext hsame (healReleased_variants _)
    rw [this]
  next =>
    dsimp only
    rw [update_self, map_some, hheal, update_idem]

theorem restoreItem_products (i : ℕ) (w : World) (item : Line × ℕ) :
    (w.restoreItem i item).products = restoreLine w.products item.1 := by
  unfold World.restoreItem restoreLine World.incrementProductStock restore
  by_cases hzero : item.1.quantity = 0
  · rw [if_pos hzero]
    simp only [if_pos hzero, Option.map_id', update_eq_self]
  · rw [if_neg hzero]
    cases hp : w.products item.1.product with
    | none =>
      have hsame : update w.products item.1.product none = w.products := by
        rw [← hp, update_eq_self]
      exact hsame.symm
    | some p =>
      simp only [if_neg hzero, map_some]
      exact keepMasterStock_products w i item.2 item.1 p

theorem restoreItem_isSome (i : ℕ) (w : World) (item : Line × ℕ) (id : ObjectId) :
    ((w.restoreItem i item).products id).isSome = (w.products id).isSome := by
  rw [restoreItem_products, restoreLine]
  by_cases hid : id = item.1.product
  · rw [hid, update_self, isSome_map]
  · rw [update_of_ne hid]

/-- What the loop answers and what it does to the products, for all lines at once. -/
theorem restoreInspectedItems_eq (i : ℕ) (inspection : Inspection) (w : World)
    (items : List (Line × ℕ)) :
    (restoreInspectedItems i inspection w items).1.1 =
        items.map (fun item =>
          inspectedItem inspection item (w.products item.1.product).isSome) ∧
      (restoreInspectedItems i inspection w items).2 =
        w.restoreItems i (items.map (sellableItem inspection)) := by
  induction items generalizing w with
  | nil => exact ⟨rfl, rfl⟩
  | cons item items ih =>
    obtain ⟨hrows, hworld⟩ := ih (w.restoreItem i (sellableItem inspection item))
    unfold restoreInspectedItems
    dsimp only
    rw [restoreSellable_world, hrows, hworld]
    refine ⟨?_, rfl⟩
    rw [map_cons]
    have hfirst : inspectedItem inspection item
          (restoreSellable i w (sellableItem inspection item)).1.isSome =
        inspectedItem inspection item (w.products item.1.product).isSome := by
      by_cases hzero : (sellableItem inspection item).1.quantity = 0
      · exact inspectedItem_zero _ _ hzero
      · rw [restoreSellable_isSome hzero]
        rfl
    rw [hfirst]
    refine congrArg _ (map_congr_left (fun other _ => ?_))
    rw [restoreItem_isSome]

theorem restoreItems_products (i : ℕ) (w : World) (items : List (Line × ℕ)) :
    (w.restoreItems i items).products = restoreLines w.products (items.map fst) := by
  induction items generalizing w with
  | nil => rfl
  | cons item items ih =>
    rw [map_cons, restoreLines, foldl_cons, ← restoreItem_products]
    exact ih (w.restoreItem i item)

theorem sellableItems_eq (items : List Line) (inspection : Inspection) :
    sellableItems items inspection = items.zipIdx.map (sellableItem inspection) := by
  refine map_congr_left (fun item _ => ?_)
  unfold sellableItem entryOf
  cases inspection item.2 <;> rfl

theorem inspectReturnedParcel_eq (w : World) (i : ℕ) (allowed : List InventoryStatus)
    (inspection : Inspection) (h : w.inventory ∈ allowed) :
    w.inspectReturnedParcel i allowed inspection =
      (({ w with inventory := .inspected } : World).restoreInspectedInventory i inspection).map
        snd := by
  unfold World.inspectReturnedParcel World.restoreInspectedInventory
  rw [if_neg (not_not.mpr h)]
  cases World.claimReservationRelease { w with inventory := .inspected } i with
  | mk claimed w' =>
    cases claimed with
    | false => rfl
    | true =>
      change Except.ok _ = Except.ok _
      rw [(restoreInspectedItems_eq ..).2, sellableItems_eq]

/-! ## The counters -/

theorem units_cons (l : Line) (lines : List Line) :
    units (l :: lines) = l.quantity + units lines := rfl

theorem names_inc (v : Variant) (n : ℤ) : names (v.inc n) = names v := by
  funext l
  rw [names, names, tracked_inc]

theorem foldl_released_cons (v : Variant) (vs : List Variant) (lines : List Line) :
    lines.foldl (fun ws l => released l ws) (v :: vs) =
      v.inc (units (lines.filter (names v))) ::
        (lines.filter (fun l => !names v l)).foldl (fun ws l => released l ws) vs := by
  induction lines generalizing v vs with
  | nil =>
    change v :: vs = v.inc 0 :: vs
    rw [inc_zero]
  | cons l lines ih =>
    rw [foldl_cons]
    by_cases hl : names v l = true
    · have hhit : released l (v :: vs) = v.inc l.quantity :: vs := by
        rw [released, if_pos (by simpa [names] using hl)]
      rw [hhit, ih, names_inc, inc_inc, filter_cons_of_pos hl,
        filter_cons_of_neg (by simp [hl]), units_cons]
      push_cast
      rfl
    · have hmiss : released l (v :: vs) = v :: released l vs := by
        rw [released, if_neg (by simpa [names] using hl)]
      rw [hmiss, ih, filter_cons_of_neg hl, filter_cons_of_pos (by simpa using hl),
        foldl_cons]

theorem units_filter (f : Line → Bool) (lines : List Line) :
    units lines = units (lines.filter f) + units (lines.filter (fun l => !f l)) := by
  induction lines with
  | nil => rfl
  | cons l lines ih =>
    rw [units_cons, ih]
    cases hl : f l with
    | true =>
      rw [filter_cons_of_pos hl, filter_cons_of_neg (by simp [hl]), units_cons]
      omega
    | false =>
      rw [filter_cons_of_neg (by simp [hl]), filter_cons_of_pos (by simp [hl]),
        units_cons]
      omega

theorem names_of_none {v : Variant} (h : v.stock = none) (l : Line) : names v l = false := by
  rw [names, tracked, h, isSome_none, Bool.and_false, Bool.and_false]

/-- What a counter gains of the units that are added to it. -/
theorem max_stock_inc (v : Variant) (lines : List Line) :
    max 0 ((v.inc (units (lines.filter (names v)))).stock.getD 0) +
        min (units (lines.filter (names v)) : ℤ) (max 0 (-(v.stock.getD 0))) =
      max 0 (v.stock.getD 0) + units (lines.filter (names v)) := by
  cases hv : v.stock with
  | none =>
    have hnone : lines.filter (names v) = [] :=
      filter_eq_nil_iff.mpr (fun l _ => by rw [names_of_none hv]; exact Bool.false_ne_true)
    rw [hnone, Variant.inc, hv]
    rfl
  | some s =>
    rw [Variant.inc, hv, map_some, getD_some, getD_some]
    omega

theorem variantStockSum_released (vs : List Variant) (lines : List Line) :
    variantStockSum (lines.foldl (fun ws l => released l ws) vs) + lostUnits vs lines =
      variantStockSum vs + units lines := by
  induction vs generalizing lines with
  | nil =>
    have hnil : lines.foldl (fun ws l => released l ws) [] = [] := by
      induction lines with
      | nil => rfl
      | cons l lines ih => exact ih
    rw [hnil]
    rfl
  | cons v vs ih =>
    have hrest := ih (lines.filter (fun l => !names v l))
    have hfirst := max_stock_inc v lines
    have hunits := units_filter (names v) lines
    rw [foldl_released_cons, variantStockSum_cons, variantStockSum_cons, lostUnits]
    omega

theorem released_zero {l : Line} (h : l.quantity = 0) (vs : List Variant) : released l vs = vs := by
  induction vs with
  | nil => rfl
  | cons v vs ih =>
    have hinc : v.inc l.quantity = v := by
      rw [h]
      exact inc_zero v
    rw [released, ih, hinc, ite_self]

theorem foldl_released_zero {lines : List Line} (h : units lines = 0) (vs : List Variant) :
    lines.foldl (fun ws l => released l ws) vs = vs := by
  induction lines with
  | nil => rfl
  | cons l lines ih =>
    rw [units_cons] at h
    rw [foldl_cons, released_zero (by omega)]
    exact ih (by omega)

/-! ## One product -/

theorem foldl_restore_variants (p : Product) (lines : List Line) :
    (lines.foldl restore p).variants =
      lines.foldl (fun ws l => released l ws) p.variants := by
  induction lines generalizing p with
  | nil => rfl
  | cons l lines ih =>
    rw [foldl_cons, foldl_cons, ih]
    refine congrArg (foldl _ · lines) ?_
    by_cases hzero : l.quantity = 0
    · rw [restore, if_pos hzero, released_zero hzero]
    · exact restore_variants p l hzero

/-- The master stock after the release of some lines: it keeps what it is without units to
release, is the sum of the variants if one counts, and is raised otherwise. -/
theorem foldl_restore_stock (p : Product) (lines : List Line) :
    (lines.foldl restore p).stock =
      if p.variants.any (fun v => v.stock.isSome) = true ∧ units lines ≠ 0 then
        variantStockSum (lines.foldl (fun ws l => released l ws) p.variants)
      else p.stock + units lines := by
  induction lines generalizing p with
  | nil =>
    rw [if_neg (fun h => h.2 rfl)]
    exact (add_zero _).symm
  | cons l lines ih =>
    have hvariants : (p.restore l).variants = released l p.variants :=
      foldl_restore_variants p [l]
    rw [foldl_cons, ih, hvariants, any_released, foldl_cons, units_cons]
    by_cases hzero : l.quantity = 0
    · rw [hzero, zero_add, restore, if_pos hzero]
    · rw [restore_stock p l hzero]
      by_cases hcounts : p.variants.any (fun v => v.stock.isSome) = true
      · have hsome : l.quantity + units lines ≠ 0 := by omega
        rw [if_pos hcounts, if_pos (⟨hcounts, hsome⟩ : _ ∧ _)]
        split
        next => rfl
        next hnone =>
          have hunits : units lines = 0 := not_not.mp (fun h => hnone ⟨hcounts, h⟩)
          rw [foldl_released_zero hunits, hunits]
          exact add_zero _
      · rw [if_neg hcounts, if_neg (fun h => hcounts h.1), if_neg (fun h => hcounts h.1)]
        push_cast
        ring

theorem raised_iff (p : Product) (lines : List Line) :
    (lines.foldl restore p).stock = p.stock + units lines ↔ Lags p lines := by
  rw [foldl_restore_stock, Lags]
  have hsum := variantStockSum_released p.variants lines
  by_cases h : p.variants.any (fun v => v.stock.isSome) = true ∧ units lines ≠ 0
  · rw [if_pos h]
    constructor
    · intro heq _ _
      omega
    · intro hlags
      have := hlags h.1 h.2
      omega
  · rw [if_neg h]
    exact iff_of_true rfl (fun hcounts hunits => absurd ⟨hcounts, hunits⟩ h)

/-! ## All products -/

theorem restoreLines_apply (products : Products) (lines : List Line) (id : ObjectId) :
    restoreLines products lines id =
      (products id).map (fun p => (linesOf id lines).foldl restore p) := by
  induction lines generalizing products with
  | nil => exact map_id'.symm
  | cons l lines ih =>
    rw [restoreLines, foldl_cons]
    refine (ih (restoreLine products l)).trans ?_
    unfold restoreLine linesOf
    by_cases hid : l.product = id
    · rw [← hid, update_self, Option.map_map, filter_cons_of_pos (by simp)]
      rfl
    · rw [update_of_ne (Ne.symm hid), filter_cons_of_neg (by simpa using hid)]

theorem restoredUnits_map (exist : ObjectId → Bool) (inspection : Inspection) (id : ObjectId)
    (items : List (Line × ℕ)) :
    restoredUnits id (items.map (fun item =>
        inspectedItem inspection item (exist item.1.product))) =
      if exist id then units (linesOf id ((items.map (sellableItem inspection)).map fst))
      else 0 := by
  induction items with
  | nil => exact (ite_self 0).symm
  | cons item items ih =>
    unfold restoredUnits linesOf at ih ⊢
    rw [map_cons, map_cons, map_cons]
    by_cases hid : item.1.product = id
    · have hrow : (inspectedItem inspection item (exist item.1.product)).product = id := hid
      have hline : (sellableItem inspection item).1.product = id := hid
      rw [filter_cons_of_pos (by simpa using hrow),
        filter_cons_of_pos (by simpa using hline), map_cons, sum_cons, ih,
        units_cons, hid]
      change (if exist id then _ else 0) + _ = _
      cases exist id <;> rfl
    · have hrow : (inspectedItem inspection item (exist item.1.product)).product ≠ id := hid
      have hline : (sellableItem inspection item).1.product ≠ id := hid
      rw [filter_cons_of_neg (by simpa using hrow),
        filter_cons_of_neg (by simpa using hline), ih]

theorem raisedBy_iff (i : ℕ) (inspection : Inspection) (w : World) (items : List (Line × ℕ)) :
    RaisedBy (restoreInspectedItems i inspection w items).1.1 w.products
        (restoreInspectedItems i inspection w items).2.products ↔
      ∀ id p, w.products id = some p →
        Lags p (linesOf id ((items.map (sellableItem inspection)).map fst)) := by
  obtain ⟨hrows, hworld⟩ := restoreInspectedItems_eq i inspection w items
  have hunits : ∀ id, restoredUnits id (restoreInspectedItems i inspection w items).1.1 =
      if (w.products id).isSome then
        units (linesOf id ((items.map (sellableItem inspection)).map fst)) else 0 := by
    intro id
    rw [hrows]
    exact restoredUnits_map (fun id => (w.products id).isSome) inspection id items
  have hstock : ∀ id, (restoreInspectedItems i inspection w items).2.products id =
      (w.products id).map (fun p =>
        (linesOf id ((items.map (sellableItem inspection)).map fst)).foldl
          restore p) := by
    intro id
    rw [hworld, restoreItems_products, restoreLines_apply]
  constructor
  · intro h id p hp
    obtain ⟨p', hp', hraised⟩ := h.raised id p hp
    rw [hstock, hp, map_some, some.injEq] at hp'
    rw [hunits, hp, isSome_some, if_pos rfl, ← hp'] at hraised
    exact (raised_iff p _).mp hraised
  · intro h
    refine ⟨fun id hgone => ?_, fun id p hp => ?_⟩
    · rw [hstock, hunits, hgone]
      exact ⟨rfl, rfl⟩
    · rw [hstock, hunits, hp, isSome_some, if_pos rfl]
      exact ⟨_, rfl, (raised_iff p _).mpr (h id p hp)⟩

/-! ## The inspection -/

theorem claimReservationRelease_of_ne {w : World} {i : ℕ}
    (h : w.order.reservation ≠ .released) :
    ∃ w', w.claimReservationRelease i = (true, w') ∧ w'.products = w.products ∧
      w'.order.items = w.order.items :=
  ⟨_, if_neg h, rfl, rfl⟩

/-- Whatever is sent: it is refused without effect, or accounts for every unit and raises the
stock by what was restored; if and only if each product that is there lags behind the sum of
its variants by the units its counters do not show. -/
theorem inspection_exact_iff (w : World) (i : ℕ) (parse : String → Option ℚ)
    (rawItems : Option (List RawItem)) :
    InspectionExact w i parse rawItems ↔
      ∀ inspection, normalizeRaw parse w.order.items rawItems = .ok inspection →
        w.order.reservation ≠ .released → ∀ id p, w.products id = some p →
          Lags p (linesOf id ((sellableItems w.order.items inspection).map fst)) := by
  cases hraw : normalizeRaw parse w.order.items rawItems with
  | error e =>
    refine iff_of_true (.inl ⟨e, ?_⟩) (fun _ h => nomatch h)
    unfold inspect
    rw [hraw]
  | ok inspection =>
    have hnormalized : Normalized w.order.items inspection := normalized_of_ok hraw
    by_cases hreleased : w.order.reservation = .released
    · have hlost : w.claimReservationRelease i = (false, w) := if_pos hreleased
      refine iff_of_true
        (.inl ⟨⟨"Stock for this order has already been released", some 409⟩, ?_⟩)
        (fun _ _ h => absurd hreleased h)
      unfold inspect restoreInspectedInventory
      rw [hraw, hlost]
      rfl
    · obtain ⟨w₁, hclaim, hproducts, hitems⟩ :=
        claimReservationRelease_of_ne (i := i) hreleased
      have hrun : w.inspect i parse rawItems =
          (.ok (restoreInspectedItems i inspection w₁ w.order.items.zipIdx).1,
            (restoreInspectedItems i inspection w₁ w.order.items.zipIdx).2) := by
        unfold inspect restoreInspectedInventory
        rw [hraw]
        dsimp only
        rw [hclaim, ← hitems]
        rfl
      have hraised := raisedBy_iff i inspection w₁ w.order.items.zipIdx
      rw [hproducts, ← sellableItems_eq] at hraised
      constructor
      · rintro (⟨e, he⟩ | ⟨_, answer, w', -, hok, -, -, hby⟩) _ ⟨⟩ -
        · rw [hrun] at he
          cases he
        · rw [hrun] at hok
          cases hok
          exact hraised.mp hby
      · intro hlags
        refine .inr ⟨inspection, _, _, hraw, hrun, hnormalized, ?_,
          hraised.mpr (hlags inspection rfl hreleased)⟩
        rw [(restoreInspectedItems_eq ..).1, forall₂_map_right_iff, forall₂_same]
        exact fun item hitem => answersFor_inspectedItem hnormalized hitem _

/-- Two half-kilo bags of tea; the seller has dropped that size since. -/
def teaReturned : World where
  order :=
    { items := [⟨5, "Tea", "500G", 2⟩]
      reservation := .committed
      workflowStatus := .cancelled }
  inventory := .awaitingInspection
  products := update (fun _ => none) 5 (some ⟨4, [⟨"1KG", some 4⟩]⟩)

/-- Both are sellable; the number of missing ones is left out. -/
def teaRequest : List RawItem :=
  [{ itemIndex := .number (some 0), sellableQty := .number (some 2), damagedQty := .null }]

/-- The answer says that two were restored, and the stock is what it was: the self-heal sets
it back to the other size. -/
theorem tea_not_restored :
    (teaReturned.inspect 0 (fun _ => none) (some teaRequest)).1.toOption =
        some ([⟨0, 5, "Tea", "500G", 2, 2, 0, 0⟩], [⟨5, 4, "500G"⟩]) ∧
      ¬ InspectionExact teaReturned 0 (fun _ => none) (some teaRequest) := by
  have hanswer : (teaReturned.inspect 0 (fun _ => none) (some teaRequest)).1.toOption =
      some ([⟨0, 5, "Tea", "500G", 2, 2, 0, 0⟩], [⟨5, 4, "500G"⟩]) := by decide +kernel
  have hstock : (teaReturned.inspect 0 (fun _ => none) (some teaRequest)).2.products 5 =
      some ⟨4, [⟨"1KG", some 4⟩]⟩ := by decide +kernel
  refine ⟨hanswer, ?_⟩
  rintro (⟨e, he⟩ | ⟨_, answer, w', -, hok, -, -, hby⟩)
  · rw [he] at hanswer
    cases hanswer
  · rw [hok] at hanswer hstock
    cases hanswer
    obtain ⟨p', hp', hraised⟩ := hby.raised 5 _ rfl
    cases hp'.symm.trans hstock
    exact absurd hraised (by decide +kernel)

end DiscountBazar.Inventory
