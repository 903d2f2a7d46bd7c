/-
A cart holds products of one seller, one line for each product and variant, and no line is set to
more than can be sold.

The version of the cart protects every save that depends on lines that are there: while it stands,
the lines are of the products that were read. What it does not protect are lines that are pushed,
and what no save looks at are the products behind the lines; the condition on a call is about these.
-/
import DiscountBazar.Cart.Handlers

namespace DiscountBazar.Cart

open Tasks Catalog Runs
open Contract (Sound)
open List (getElem_modify mem_append mem_append_left mem_map mem_singleton not_mem_nil)

/-! ## What is to hold -/

/-- Two products, as far as they are there, are of one seller. -/
def sameSeller : Option Product → Option Product → Bool
  | some p, some q => decide (p.sellerId = q.sellerId)
  | _, _ => true

/-- The products of the lines, as far as they are there, are of one seller. -/
def OneSeller (products : ObjectId → Option Product) (items : List CartItem) : Prop :=
  ∀ a ∈ items, ∀ b ∈ items, sameSeller (products a.productId) (products b.productId) = true

def OneLineEach (items : List CartItem) : Prop := items.Pairwise (fun a b => a.same b = false)

def Positive (items : List CartItem) : Prop := ∀ item ∈ items, 0 < item.quantity

/-- Every quantity that was set was positive and could be sold. -/
def WithinStock (sets : List (ℤ × ℤ)) : Prop := ∀ set ∈ sets, 0 < set.1 ∧ set.1 ≤ set.2

structure Consistent (shop : Shop) : Prop where
  oneSeller : OneSeller shop.products (itemsOf shop.cart)
  oneLine : OneLineEach (itemsOf shop.cart)
  positive : Positive (itemsOf shop.cart)
  within : WithinStock shop.sets

instance (products : ObjectId → Option Product) (items : List CartItem) :
    Decidable (OneSeller products items) :=
  inferInstanceAs (Decidable (∀ a ∈ items, ∀ b ∈ items,
    sameSeller (products a.productId) (products b.productId) = true))

instance (items : List CartItem) : Decidable (OneLineEach items) :=
  inferInstanceAs (Decidable (items.Pairwise (fun a b => a.same b = false)))

/-! ## The condition on a call -/

def Saleable (shop : Shop) (lines : List CartItem) : Prop :=
  ∀ line ∈ lines, line.quantity ≤ shop.available line

instance (shop : Shop) (lines : List CartItem) : Decidable (Saleable shop lines) :=
  inferInstanceAs (Decidable (∀ line ∈ lines, line.quantity ≤ shop.available line))

/-- No line of the cart is of the product and variant of one that is pushed. -/
def Fresh (shop : Shop) (lines : List CartItem) : Prop :=
  ∀ item ∈ itemsOf shop.cart, ∀ line ∈ lines, item.same line = false

instance (shop : Shop) (lines : List CartItem) : Decidable (Fresh shop lines) :=
  inferInstanceAs (Decidable (∀ item ∈ itemsOf shop.cart, ∀ line ∈ lines, item.same line = false))

def Current (shop : Shop) (read : CartDoc) : Prop :=
  shop.cart.map CartDoc.version = some read.version

instance (shop : Shop) (read : CartDoc) : Decidable (Current shop read) :=
  inferInstanceAs (Decidable (_ = _))

/-- The condition on a call. Lines that take the place of a cart are of one seller, and no two of
one product and variant; lines that are added are of the seller of the lines that are there, and
pushed where none is of their product and variant; and every line that is set can be sold as the
save is made. -/
def Fits (_ : ℕ) (kind : Kind) (c : Choice) (shop : Shop) : Prop :=
  match kind with
  | .insertCart lines =>
    c.outcome.takesEffect = true → shop.cart = none →
      OneSeller shop.products lines ∧ OneLineEach lines ∧ Saleable shop lines
  | .replaceItems read lines =>
    c.outcome.takesEffect = true → Current shop read →
      OneSeller shop.products lines ∧ OneLineEach lines ∧ Saleable shop lines
  | .pushLines lines =>
    c.outcome.takesEffect = true →
      OneSeller shop.products (itemsOf shop.cart ++ lines) ∧ Fresh shop lines ∧
        Saleable shop lines
  | .setQuantity read _ line =>
    c.outcome.takesEffect = true → Current shop read → Saleable shop [line]
  | .updateItems read _ set =>
    c.outcome.takesEffect = true → Current shop read →
      OneSeller shop.products (itemsOf shop.cart ++ set) ∧ Saleable shop set
  | _ => True

instance (task : ℕ) (kind : Kind) (c : Choice) (shop : Shop) :
    Decidable (Fits task kind c shop) := by
  unfold Fits
  split
  · infer_instance
  · infer_instance
  · infer_instance
  · infer_instance
  · infer_instance
  · infer_instance

/-- A product of the cart is not moved away from the seller of the others. -/
def Stays (e : Event) (shop : Shop) : Prop :=
  OneSeller (Function.update shop.products e.productId e.product) (itemsOf shop.cart)

instance (e : Event) (shop : Shop) : Decidable (Stays e shop) :=
  inferInstanceAs (Decidable (OneSeller _ _))

/-! ## Lines -/

theorem CartItem.same_self (a : CartItem) : a.same a = true := by
  unfold CartItem.same
  rw [decide_eq_true rfl, decide_eq_true rfl]
  rfl

theorem CartItem.same_comm (a b : CartItem) : a.same b = b.same a := by
  unfold CartItem.same
  rw [decide_eq_decide.mpr eq_comm, decide_eq_decide.mpr (eq_comm (a := skuKey a.variantSku))]

theorem OneSeller.of_products {products : ObjectId → Option Product} {items items' : List CartItem}
    (h : OneSeller products items)
    (hsub : ∀ x ∈ items', ∃ y ∈ items, y.productId = x.productId) : OneSeller products items' := by
  intro a ha b hb
  obtain ⟨x, hx, hxa⟩ := hsub a ha
  obtain ⟨y, hy, hyb⟩ := hsub b hb
  rw [← hxa, ← hyb]
  exact h x hx y hy

theorem WithinStock.record {shop : Shop} (h : WithinStock shop.sets) {lines : List CartItem}
    (hpositive : Positive lines) (hsaleable : Saleable shop lines) :
    WithinStock (shop.record lines) := by
  intro set hset
  rcases mem_append.mp hset with hold | hnew
  · exact h set hold
  · obtain ⟨line, hline, rfl⟩ := mem_map.mp hnew
    exact ⟨hpositive line hline, hsaleable line hline⟩

variable {items : List CartItem} {x : CartItem}

theorem mem_modify {index : ℕ} {f : CartItem → CartItem} (h : x ∈ items.modify index f) :
    x ∈ items ∨ ∃ y ∈ items, x = f y := by
  obtain ⟨k, hk, rfl⟩ := List.mem_iff_getElem.mp h
  rw [List.length_modify] at hk
  rw [getElem_modify]
  split
  · exact .inr ⟨items[k], List.getElem_mem hk, rfl⟩
  · exact .inl (List.getElem_mem hk)

theorem OneLineEach.modify (h : OneLineEach items) (index : ℕ) (quantity : CartItem → ℤ) :
    OneLineEach (items.modify index (fun item => { item with quantity := quantity item })) := by
  unfold OneLineEach at h ⊢
  rw [List.pairwise_iff_getElem] at h ⊢
  intro i j hi hj hij
  rw [List.length_modify] at hi hj
  have hsame := h i j hi hj hij
  rw [getElem_modify, getElem_modify]
  split
  · split
    · exact hsame
    · exact hsame
  · split
    · exact hsame
    · exact hsame

/-! ## The merge of an order -/

variable {productMap : ObjectId → Option Product} {line : EligibleLine}

theorem eligibleLine_pos {item : OrderItem} (h : eligibleLine productMap item = some line) :
    0 < line.quantity ∧ 0 < line.availableStock := by
  unfold eligibleLine at h
  split at h
  · cases h
  · split at h
    · cases h
    · split at h
      · cases h
      · dsimp only at h
        split at h
        · cases h
        next hstock =>
          cases h
          have hpos := not_le.mp hstock
          exact ⟨lt_min (lt_of_lt_of_le one_pos (le_max_left _ _)) hpos, hpos⟩

theorem mergeLine_oneLineEach (h : OneLineEach items) (line : EligibleLine) :
    OneLineEach (mergeLine items line) := by
  unfold mergeLine
  split
  next index hindex => exact h.modify index _
  next hnone =>
    have hfresh := List.findIdx?_eq_none_iff.mp hnone
    refine List.pairwise_append.mpr ⟨h, List.pairwise_singleton _ _, fun a ha b hb => ?_⟩
    rw [mem_singleton.mp hb, CartItem.same_comm]
    exact hfresh a ha

theorem mergeLine_positive (h : Positive items)
    (hline : 0 < line.quantity ∧ 0 < line.availableStock) : Positive (mergeLine items line) := by
  unfold mergeLine
  split
  next index hindex =>
    intro x hx
    rcases mem_modify hx with hold | ⟨y, hy, rfl⟩
    · exact h x hold
    · exact lt_min (Int.add_pos (h y hy) hline.1) hline.2
  next =>
    intro x hx
    rcases mem_append.mp hx with hold | hnew
    · exact h x hold
    · rw [mem_singleton.mp hnew]
      exact hline.1

theorem mem_mergeLine (h : x ∈ mergeLine items line) :
    (∃ y ∈ items, y.productId = x.productId ∧ ∀ a : CartItem, a.same y = a.same x) ∨
      line.item.same x = true := by
  unfold mergeLine at h
  split at h
  next =>
    rcases mem_modify h with hold | ⟨y, hy, rfl⟩
    · exact .inl ⟨x, hold, rfl, fun _ => rfl⟩
    · exact .inl ⟨y, hy, rfl, fun _ => rfl⟩
  next =>
    rcases mem_append.mp h with hold | hnew
    · exact .inl ⟨x, hold, rfl, fun _ => rfl⟩
    · rw [mem_singleton.mp hnew]
      exact .inr line.item.same_self

variable {lines : List EligibleLine}

theorem mergeLines_oneLineEach (h : OneLineEach items) :
    OneLineEach (mergeLines items lines) := by
  induction lines generalizing items with
  | nil => exact h
  | cons line lines ih => exact ih (mergeLine_oneLineEach h line)

theorem mergeLines_positive (h : Positive items)
    (hlines : ∀ line ∈ lines, 0 < line.quantity ∧ 0 < line.availableStock) :
    Positive (mergeLines items lines) := by
  induction lines generalizing items with
  | nil => exact h
  | cons line lines ih =>
    exact ih (mergeLine_positive h (hlines line List.mem_cons_self))
      (fun other hother => hlines other (List.mem_cons_of_mem line hother))

theorem mem_mergeLines (h : x ∈ mergeLines items lines) :
    (∃ y ∈ items, y.productId = x.productId ∧ ∀ a : CartItem, a.same y = a.same x) ∨
      ∃ line ∈ lines, line.item.same x = true := by
  induction lines generalizing items with
  | nil => exact .inl ⟨x, h, rfl, fun _ => rfl⟩
  | cons line lines ih =>
    rcases ih h with ⟨y, hy, hproduct, hsame⟩ | ⟨other, hother, hsame⟩
    · rcases mem_mergeLine hy with ⟨z, hz, hproduct', hsame'⟩ | hline
      · exact .inl ⟨z, hz, hproduct'.trans hproduct, fun a => (hsame' a).trans (hsame a)⟩
      · exact .inr ⟨line, List.mem_cons_self, (hsame line.item).symm.trans hline⟩
    · exact .inr ⟨other, List.mem_cons_of_mem line hother, hsame⟩

theorem mergeLines_products (items : List CartItem) (h : x ∈ mergeLines items lines) :
    ∃ y ∈ items ++ mergedLines (mergeLines items lines) lines, y.productId = x.productId := by
  rcases mem_mergeLines h with ⟨y, hy, hproduct, -⟩ | ⟨line, hline, hsame⟩
  · exact ⟨y, mem_append_left _ hy, hproduct⟩
  · refine ⟨x, List.mem_append_right _ (List.mem_filter.mpr ⟨h, ?_⟩), rfl⟩
    exact List.any_eq_true.mpr ⟨line, hline, hsame⟩

/-! ## What a call keeps -/

/-- What of a cart stands while its version does. -/
def productsOf (cart : CartDoc) : List ObjectId := cart.items.map CartItem.productId

def Known (shop : Shop) (read : CartDoc) : Prop :=
  ∃ stored, shop.cart = some stored ∧ read.version ≤ stored.version ∧
    (stored.version = read.version → productsOf stored = productsOf read)

theorem known_of_cart {shop : Shop} {cart : CartDoc} (h : shop.cart = some cart) :
    Known shop cart :=
  ⟨cart, h, le_refl _, fun _ => rfl⟩

def Others (shop shop' : Shop) : Prop := ∀ cart, shop.cart = some cart → Known shop' cart

variable {shop shop' : Shop}

theorem Others.of_cart (h : shop'.cart = shop.cart) : Others shop shop' :=
  fun _ hcart => known_of_cart (h.trans hcart)

theorem Others.refl (shop : Shop) : Others shop shop := Others.of_cart rfl

theorem Known.others {read : CartDoc} (h : Known shop read) (hothers : Others shop shop') :
    Known shop' read := by
  obtain ⟨stored, hstored, hle, hsame⟩ := h
  obtain ⟨stored', hstored', hle', hsame'⟩ := hothers stored hstored
  refine ⟨stored', hstored', hle.trans hle', fun hversion => ?_⟩
  have hback : stored'.version = stored.version :=
    le_antisymm (hversion.le.trans hle) hle'
  exact (hsame' hback).trans (hsame (hback.symm.trans hversion))

theorem Others.trans {shop shop' shop'' : Shop} (h : Others shop shop')
    (h' : Others shop' shop'') : Others shop shop'' :=
  fun cart hcart => (h cart hcart).others h'

variable {stored : CartDoc}

theorem others_of_version {cart : CartDoc} (hstored : shop.cart = some stored)
    (hcart : shop'.cart = some cart) (hversion : cart.version = stored.version + 1) :
    Others shop shop' := by
  intro read hread
  cases hstored.symm.trans hread
  refine ⟨cart, hcart, hversion ▸ Nat.le_succ _, fun hsame => ?_⟩
  exact absurd (hversion.symm.trans hsame) (Nat.succ_ne_self _)

/-- What an edit makes of the lines that were read. -/
structure Edits (read items set : List CartItem) : Prop where
  oneLine : OneLineEach items
  positive : Positive items
  setPositive : Positive set
  products : ∀ x ∈ items, ∃ y ∈ read ++ set, y.productId = x.productId

def Prepared (shop : Shop) : Kind → Prop
  | .insertCart lines | .replaceItems _ lines => Positive lines
  | .pushLines lines => Positive lines ∧ OneLineEach lines
  | .setQuantity _ _ line => 0 < line.quantity
  | .updateItems read items set => Known shop read ∧ Edits read.items items set
  | _ => True

variable {i : ℕ} {c : Choice} {shop : Shop}

theorem withQuantity_oneLineEach (h : OneLineEach items) (index : ℕ) (quantity : ℤ) :
    OneLineEach (withQuantity items index quantity) :=
  h.modify index (fun _ => quantity)

theorem withQuantity_positive (h : Positive items) (index : ℕ) {quantity : ℤ}
    (hquantity : 0 < quantity) : Positive (withQuantity items index quantity) := by
  intro x hx
  rcases mem_modify hx with hold | ⟨y, -, rfl⟩
  · exact h x hold
  · exact hquantity

theorem withQuantity_products {index : ℕ} {quantity : ℤ} (h : x ∈ withQuantity items index quantity)
    : ∃ y ∈ items, y.productId = x.productId := by
  rcases mem_modify h with hold | ⟨y, hy, rfl⟩
  · exact ⟨x, hold, rfl⟩
  · exact ⟨y, hy, rfl⟩

theorem withQuantity_productsOf (cart : CartDoc) (index : ℕ) (quantity : ℤ) :
    productsOf { cart with items := withQuantity cart.items index quantity } = productsOf cart := by
  unfold productsOf withQuantity
  refine List.ext_getElem (by simp) (fun k hk hk' => ?_)
  rw [List.getElem_map, List.getElem_map, getElem_modify]
  split
  · rfl
  · rfl

theorem Consistent.replaced (h : Consistent shop) {lines : List CartItem} {version : ℕ}
    (hfits : OneSeller shop.products lines ∧ OneLineEach lines ∧ Saleable shop lines)
    (hpositive : Positive lines) :
    Consistent { shop with cart := some ⟨lines, version⟩, sets := shop.record lines } where
  oneSeller := hfits.1
  oneLine := hfits.2.1
  positive := hpositive
  within := h.within.record hpositive hfits.2.2

theorem Consistent.pushed (h : Consistent shop) {stored : CartDoc} {lines : List CartItem}
    (hstored : shop.cart = some stored)
    (hseller : OneSeller shop.products (stored.items ++ lines))
    (hfresh : ∀ item ∈ stored.items, ∀ line ∈ lines, item.same line = false)
    (hsaleable : Saleable shop lines) (hpositive : Positive lines) (honeLine : OneLineEach lines) :
    Consistent { shop with
      cart := some ⟨stored.items ++ lines, stored.version + 1⟩
      sets := shop.record lines } := by
  have hlines := h.oneLine
  have hquantities := h.positive
  rw [hstored] at hlines hquantities
  refine ⟨hseller, ?_, fun item hitem => ?_, h.within.record hpositive hsaleable⟩
  · exact List.pairwise_append.mpr ⟨hlines, honeLine, hfresh⟩
  · rcases mem_append.mp hitem with hold | hnew
    · exact hquantities item hold
    · exact hpositive item hnew

variable {line : CartItem}

theorem Consistent.quantity (h : Consistent shop) (hstored : shop.cart = some stored) (index : ℕ)
    (hpositive : 0 < line.quantity) (hsaleable : Saleable shop [line]) :
    Consistent { shop with
      cart := some { stored with items := withQuantity stored.items index line.quantity }
      sets := shop.record [line] } := by
  have hsellers := h.oneSeller
  have hlines := h.oneLine
  have hquantities := h.positive
  rw [hstored] at hsellers hlines hquantities
  have hline : Positive [line] := fun item hitem => mem_singleton.mp hitem ▸ hpositive
  exact
    { oneSeller := hsellers.of_products (fun _ => withQuantity_products)
      oneLine := withQuantity_oneLineEach hlines index line.quantity
      positive := withQuantity_positive hquantities index hpositive
      within := h.within.record hline hsaleable }

theorem Consistent.edited (h : Consistent shop) {read : CartDoc} {items set : List CartItem}
    (hedits : Edits read.items items set) (hproducts : productsOf stored = productsOf read)
    (hseller : OneSeller shop.products (stored.items ++ set)) (hsaleable : Saleable shop set) :
    Consistent { shop with
      cart := some ⟨items, stored.version + 1⟩
      sets := shop.record set } := by
  refine ⟨hseller.of_products (fun x hx => ?_), hedits.oneLine, hedits.positive,
    h.within.record hedits.setPositive hsaleable⟩
  obtain ⟨y, hy, hproduct⟩ := hedits.products x hx
  rcases mem_append.mp hy with hread | hset
  · -- the line that was read is of the product of one that is there
    have hmem : y.productId ∈ productsOf stored :=
      hproducts ▸ List.mem_map_of_mem (f := CartItem.productId) hread
    obtain ⟨z, hz, hsame⟩ := mem_map.mp hmem
    exact ⟨z, mem_append_left _ hz, hsame.trans hproduct⟩
  · exact ⟨y, List.mem_append_right _ hset, hproduct⟩

theorem current_of_version {read : CartDoc} (hstored : shop.cart = some stored)
    (hversion : stored.version = read.version) : Current shop read := by
  unfold Current
  rw [hstored, Option.map_some, hversion]

theorem effect_consistent (h : Consistent shop) {kind : Kind} (hfits : Fits i kind c shop)
    (htakes : c.outcome.takesEffect = true) (hprepared : Prepared shop kind) :
    Consistent (effect c shop kind).2 := by
  cases kind with
  | findVisible id =>
    cases id with
    | none | some => exact h
  | findCart | findSellerOf | findOrder | findStore | findProducts => exact h
  | insertCart lines =>
    unfold effect
    dsimp only
    split
    next => exact h
    next hnone => exact h.replaced (hfits htakes hnone) hprepared
  | pushLines lines =>
    obtain ⟨hseller, hfresh, hsaleable⟩ := hfits htakes
    unfold effect
    dsimp only
    split
    next stored hstored =>
      unfold Fresh at hfresh
      rw [hstored] at hseller hfresh
      exact h.pushed hstored hseller hfresh hsaleable hprepared.1 hprepared.2
    next => exact h
  | setQuantity read index line =>
    unfold effect
    dsimp only
    split
    next stored hstored =>
      split
      next hversion =>
        have hsaleable := hfits htakes (current_of_version hstored hversion)
        exact h.quantity hstored index hprepared hsaleable
      next => exact h
    next => exact h
  | replaceItems read lines =>
    unfold effect saveItems
    dsimp only
    split
    next stored hstored =>
      split
      next hversion =>
        exact h.replaced (hfits htakes (current_of_version hstored hversion)) hprepared
      next => exact h
    next => exact h
  | updateItems read items set =>
    obtain ⟨⟨known, hknown, -, hproducts⟩, hedits⟩ := hprepared
    unfold effect saveItems
    dsimp only
    split
    next stored hstored =>
      cases hknown.symm.trans hstored
      split
      next hversion =>
        obtain ⟨hseller, hsaleable⟩ := hfits htakes (current_of_version hstored hversion)
        rw [hstored] at hseller
        exact h.edited hedits (hproducts hversion) hseller hsaleable
      next => exact h
    next => exact h

theorem effect_others (c : Choice) (shop : Shop) (kind : Kind) :
    Others shop (effect c shop kind).2 := by
  have hsave : ∀ read items set, Others shop (saveItems shop read items set).2 := by
    intro read items set
    unfold saveItems
    split
    next stored hstored =>
      split
      · exact others_of_version hstored rfl rfl
      · exact Others.refl shop
    next => exact Others.refl shop
  cases kind with
  | findVisible id =>
    cases id with
    | none | some => exact Others.refl shop
  | findCart | findSellerOf | findOrder | findStore | findProducts => exact Others.refl shop
  | insertCart lines =>
    unfold effect
    dsimp only
    split
    next => exact Others.refl shop
    next hnone =>
      intro cart hcart
      rw [hnone] at hcart
      cases hcart
  | pushLines lines =>
    unfold effect
    dsimp only
    split
    next stored hstored => exact others_of_version hstored rfl rfl
    next => exact Others.refl shop
  | setQuantity read index line =>
    unfold effect
    dsimp only
    split
    next stored hstored =>
      split
      · intro cart hcart
        cases hstored.symm.trans hcart
        exact ⟨_, rfl, le_refl _, fun _ => withQuantity_productsOf stored index line.quantity⟩
      · exact Others.refl shop
    next => exact Others.refl shop
  | replaceItems read lines => exact hsave read lines lines
  | updateItems read items set => exact hsave read items set

/-- Calls that meet the condition keep the cart consistent. -/
def fittingContract : Contract cartSystem where
  inv := Consistent
  rely := fun _ => Others
  may := Fits
  mayOutside := Stays

/-! ## The handlers -/

variable {kind : Kind}

/-- The rule for one call. -/
theorem sound_perform {Q : kind.Reply → Shop → Prop} {s : Shop}
    (hprepared : ∀ s', Others s s' → Prepared s' kind)
    (hok : ∀ c s' a, Others s s' → Consistent s' → (effect c s' kind).1 = .ok a →
      Q a (effect c s' kind).2) :
    fittingContract.Sound i Q (fun _ _ => True) (Prog.perform kind) s :=
  Sound.perform_outcome (o := Choice.outcome) (f := fun c s => effect c s kind)
    (fun _ _ => rfl) (fun _ => Others.refl)
    (fun c s' hrely hinv hmay htakes =>
      ⟨effect_consistent (i := i) hinv hmay htakes (hprepared s' hrely),
        fun _ _ => effect_others c s' kind⟩)
    (fun c s' a hrely hinv _ _ => hok c s' a hrely hinv) (fun _ _ _ _ _ _ _ _ => trivial)
    (fun _ _ _ _ _ _ _ => trivial) (fun _ _ _ _ _ _ _ => trivial)

theorem sound_read (s : Shop) (hprepared : ∀ s', Prepared s' kind) :
    fittingContract.Keeps i (Prog.perform kind) s :=
  sound_perform (fun s' _ => hprepared s') (fun _ _ _ _ _ _ => trivial)

theorem sound_save {s : Shop} (hprepared : ∀ s', Others s s' → Prepared s' kind) :
    fittingContract.Keeps i (Prog.perform kind) s :=
  sound_perform hprepared (fun _ _ _ _ _ _ => trivial)

def ReadCart (cart : Option CartDoc) (s : Shop) : Prop :=
  (∀ read, cart = some read → Known s read) ∧ OneLineEach (itemsOf cart) ∧ Positive (itemsOf cart)

theorem readCart_stable {cart : Option CartDoc} (j : ℕ) (s s' : Shop)
    (hrely : fittingContract.rely j s s') (h : ReadCart cart s) : ReadCart cart s' :=
  ⟨fun read hread => (h.1 read hread).others hrely, h.2⟩

theorem findCart_sound (s : Shop) :
    fittingContract.Sound i ReadCart (fun _ _ => True) (Prog.perform Kind.findCart) s := by
  refine sound_perform (fun _ _ => trivial) (fun c s' cart _ hinv hread => ?_)
  have hcart : s'.cart = cart := Except.ok.inj hread
  exact ⟨fun read hsome => known_of_cart (hcart.trans hsome), hcart ▸ hinv.oneLine,
    hcart ▸ hinv.positive⟩

theorem checkSeller_sound (items : List CartItem) (sellerId : ObjectId) (s : Shop) :
    fittingContract.Keeps i (checkSeller items sellerId) s := by
  unfold checkSeller
  split
  · exact Sound.ret trivial
  · exact Sound.bind (sound_read s (fun _ => trivial)) (fun existing s _ =>
      Sound.ite_throw
        (fun _ => Sound.ret trivial))

theorem positive_singleton (h : 0 < line.quantity) : Positive [line] :=
  fun _ hitem => mem_singleton.mp hitem ▸ h

theorem saveLine_sound (cart : Option CartDoc) (itemIndex : Option ℕ)
    (hpositive : 0 < line.quantity) (s : Shop) :
    fittingContract.Keeps i (saveLine cart line itemIndex)
      s := by
  unfold saveLine
  split
  · exact sound_save (fun _ _ => positive_singleton hpositive)
  · exact sound_save (fun _ _ => ⟨positive_singleton hpositive, List.pairwise_singleton _ _⟩)
  · exact sound_save (fun _ _ => hpositive)

theorem quantity_pos {quantity : ℤ} (h : ¬ validQuantity 1 quantity = false) : 0 < quantity := by
  have hvalid : validQuantity 1 quantity = true := Bool.not_eq_false _ |>.mp h
  exact of_decide_eq_true (Bool.and_eq_true_iff.mp hvalid).1

theorem addToCart_sound (request : LineRequest) (s : Shop) :
    fittingContract.Keeps i (addToCart request) s := by
  unfold addToCart
  refine Sound.ite_throw (fun hvalid => ?_)
  have hquantity := quantity_pos hvalid
  refine Sound.bind (sound_read s (fun _ => trivial)) (fun product s _ => ?_)
  split
  next productId product _ =>
    refine Sound.bind (findCart_sound s) (fun cart s hcart => ?_)
    refine Sound.bind (checkSeller_sound _ _ s) (fun _ s _ => ?_)
    refine Sound.ite_throw (fun _ => ?_)
    refine Sound.ite_throw (fun _ => ?_)
    split
    next item hitem =>
      obtain ⟨index, -, hget⟩ := Option.bind_eq_some_iff.mp hitem
      have hitemPos := hcart.2.2 item (List.mem_of_getElem? hget)
      rw [hitem]
      exact saveLine_sound cart _ (Int.add_pos hitemPos hquantity) s
    next hnone =>
      rw [hnone]
      exact saveLine_sound cart none (by rw [Option.elim_none, zero_add]; exact hquantity) s
  next => exact Sound.throw trivial

theorem replaceCart_sound (request : LineRequest) (s : Shop) :
    fittingContract.Keeps i (replaceCart request) s := by
  unfold replaceCart
  refine Sound.ite_throw (fun hvalid => ?_)
  have hquantity := quantity_pos hvalid
  refine Sound.bind (sound_read s (fun _ => trivial)) (fun product s _ => ?_)
  split
  next productId product _ =>
    refine Sound.ite_throw (fun _ => ?_)
    refine Sound.ite_throw (fun _ => ?_)
    refine Sound.bind (findCart_sound s) (fun cart s _ => ?_)
    cases cart with
    | none | some => exact sound_save (fun _ _ => positive_singleton hquantity)
  next => exact Sound.throw trivial

theorem checkStock_sound (product : Option Product) (variantSku : String) (quantity : ℤ) (s : Shop)
    {F : Shop → Prop} (hs : F s) :
    fittingContract.Sound i (fun _ => F) (fun _ _ => True) (checkStock product variantSku quantity)
      s := by
  unfold checkStock
  cases product with
  | none => exact Sound.ret hs
  | some product =>
    exact Sound.ite_throw (fun _ =>
      Sound.ite_throw (fun _ => Sound.ret hs))

theorem edits_of_sublist {read items : List CartItem} (hsub : items.Sublist read)
    (honeLine : OneLineEach read) (hpositive : Positive read) : Edits read items [] where
  oneLine := honeLine.sublist hsub
  positive := fun item hitem => hpositive item (hsub.subset hitem)
  setPositive := fun _ hitem => absurd hitem not_mem_nil
  products := fun item hitem => ⟨item, mem_append_left _ (hsub.subset hitem), rfl⟩

theorem updateQuantity_sound (request : LineRequest) (s : Shop) :
    fittingContract.Keeps i (updateQuantity request) s := by
  unfold updateQuantity
  refine Sound.ite_throw (fun _ => ?_)
  refine Sound.bind (findCart_sound s) (fun cart s hcart => ?_)
  cases cart with
  | none => exact Sound.throw trivial
  | some read =>
    obtain ⟨hknown, honeLine, hpositive⟩ := hcart
    have hread : Known s read := hknown read rfl
    dsimp only
    split
    · exact Sound.throw trivial
    next index _ =>
      split
      · exact Sound.throw trivial
      next item _ =>
        refine Sound.ite (fun hquantity => ?_) (fun _ => ?_)
        · refine Sound.bind (R := fun _ s => Known s read)
            (sound_perform (fun _ _ => trivial) (fun c s' product hrely _ hfound => ?_))
            (fun product s hread => ?_)
          · -- the search leaves the cart
            refine (hread.others hrely).others ?_
            exact effect_others c s' (.findVisible request.productId.id)
          · refine Sound.bind
              (checkStock_sound (F := fun s => Known s read) product _ _ s hread)
              (fun _ s hread => ?_)
            refine sound_save (fun s' hrely => ⟨hread.others hrely, ?_⟩)
            exact
              { oneLine := withQuantity_oneLineEach honeLine index _
                positive := withQuantity_positive hpositive index hquantity
                setPositive := positive_singleton hquantity
                products := fun x hx => by
                  obtain ⟨y, hy, hsame⟩ := withQuantity_products hx
                  exact ⟨y, mem_append_left _ hy, hsame⟩ }
        · refine sound_save (fun s' hrely => ⟨hread.others hrely, ?_⟩)
          exact edits_of_sublist (List.eraseIdx_sublist _ _) honeLine hpositive

theorem removeFromCart_sound (productId : IdText) (variantSku : String) (s : Shop) :
    fittingContract.Keeps i (removeFromCart productId variantSku) s := by
  unfold removeFromCart
  refine Sound.bind (findCart_sound s) (fun cart s hcart => ?_)
  cases cart with
  | none => exact Sound.throw trivial
  | some read =>
    obtain ⟨hknown, honeLine, hpositive⟩ := hcart
    refine sound_save (fun s' hrely => ⟨(hknown read rfl).others hrely, ?_⟩)
    exact edits_of_sublist List.filter_sublist honeLine hpositive

theorem eligible_positive {items : List OrderItem} :
    ∀ line ∈ items.filterMap (eligibleLine productMap),
      0 < line.quantity ∧ 0 < line.availableStock := by
  intro line hline
  obtain ⟨item, -, hitem⟩ := List.mem_filterMap.mp hline
  exact eligibleLine_pos hitem

theorem mutateCart_sound {cart : Option CartDoc} (clearExisting : Bool)
    (hlines : ∀ line ∈ lines, 0 < line.quantity ∧ 0 < line.availableStock) {s : Shop}
    (hcart : ReadCart cart s) :
    fittingContract.Keeps i (mutateCart cart clearExisting lines) s := by
  obtain ⟨hknown, honeLine, hpositive⟩ := hcart
  have hitems : Positive (lines.map EligibleLine.item) := by
    intro item hitem
    obtain ⟨line, hline, rfl⟩ := mem_map.mp hitem
    exact (hlines line hline).1
  have hmergedLine : OneLineEach (mergeLines (itemsOf cart) lines) :=
    mergeLines_oneLineEach honeLine
  have hmergedPos := mergeLines_positive hpositive hlines
  cases cart with
  | none =>
    cases clearExisting with
    | true => exact sound_save (fun _ _ => hitems)
    | false => exact sound_save (fun _ _ => hmergedPos)
  | some read =>
    cases clearExisting with
    | true => exact sound_save (fun _ _ => hitems)
    | false =>
      refine Sound.ite (fun _ => ?_) (fun _ => ?_)
      · refine sound_save (fun _ _ => ⟨fun item hitem => ?_, ?_⟩)
        · exact hmergedPos item (List.mem_of_mem_drop hitem)
        · exact hmergedLine.sublist (List.drop_sublist _ _)
      · refine sound_save (fun s' hrely => ⟨(hknown read rfl).others hrely, ?_⟩)
        exact
          { oneLine := hmergedLine
            positive := hmergedPos
            setPositive := fun item hitem => hmergedPos item (List.mem_filter.mp hitem).1
            products := fun _ hx => mergeLines_products read.items hx }

theorem reorderOrder_sound (clearExisting : Bool) (s : Shop) :
    fittingContract.Keeps i (reorderOrder clearExisting) s := by
  unfold reorderOrder
  refine Sound.bind (sound_read s (fun _ => trivial)) (fun order s _ => ?_)
  cases order with
  | none => exact Sound.throw trivial
  | some order =>
    refine Sound.ite_throw (fun _ => ?_)
    split
    · exact Sound.throw trivial
    next sellerId _ =>
      refine Sound.bind (sound_read s (fun _ => trivial)) (fun store s _ => ?_)
      refine Sound.ite_throw (fun _ => ?_)
      refine Sound.bind (findCart_sound s) (fun cart s hcart => ?_)
      have hcheck : fittingContract.Sound i (fun _ => ReadCart cart) (fun _ _ => True)
          (checkCart clearExisting cart sellerId) s := by
        refine Sound.ite (fun _ => Sound.ret hcart) (fun _ => ?_)
        have hframe := (checkSeller_sound (i := i) (itemsOf cart) sellerId s).frame
          (F := ReadCart cart) readCart_stable hcart
        exact hframe.mono (fun _ _ h => h.2) (fun _ _ _ => trivial)
      refine Sound.bind hcheck (fun _ s hcart => ?_)
      have hproducts : fittingContract.Keeps i
          (Prog.perform (Kind.findProducts sellerId)) s := sound_read s (fun _ => trivial)
      have hframe := hproducts.frame (F := ReadCart cart) readCart_stable hcart
      refine Sound.bind (hframe.mono (fun _ _ h => h.2) (fun _ _ _ => trivial))
        (fun productMap s hcart => ?_)
      refine Sound.ite (fun _ => Sound.ret trivial) (fun _ => ?_)
      exact mutateCart_sound clearExisting eligible_positive hcart

/-! ## Every interleaving -/

theorem fittingContract_lawful : fittingContract.Lawful where
  refl := fun _ => Others.refl
  trans := fun _ _ _ _ => Others.trans
  idle := fun _ _ _ _ _ => trivial
  outside := by
    intro e s s' h hstays hout
    cases hout
    exact ⟨⟨hstays, h.oneLine, h.positive, h.within⟩, fun _ => Others.of_cart rfl⟩
  entry := by
    intro command i s _ _ _
    cases command with
    | add request => exact addToCart_sound request s
    | replace request => exact replaceCart_sound request s
    | update request => exact updateQuantity_sound request s
    | remove productId variantSku => exact removeFromCart_sound productId variantSku s
    | reorder clearExisting => exact reorderOrder_sound clearExisting s

def shirt : Product where
  sellerId := 1
  name := "Shirt"
  stock := some 5
  variants := [{ sku := "RED", stock := some 5 }]

def wardrobe : Shop where
  products := fun id => if id = 7 then some shirt else none

theorem wardrobe_consistent : Consistent wardrobe where
  oneSeller := fun _ hitem => absurd hitem not_mem_nil
  oneLine := List.Pairwise.nil
  positive := fun _ hitem => absurd hitem not_mem_nil
  within := fun _ hset => absurd hset not_mem_nil

def addTwice (variantSku : String) : List Act :=
  [.start (.add ⟨⟨some 7, true⟩, 3, "RED"⟩), .run 0 {}, .run 0 {}, .run 0 {},
    .start (.add ⟨⟨some 7, true⟩, 2, variantSku⟩), .run 1 {}, .run 1 {}, .run 1 {}, .run 1 {}]

end DiscountBazar.Cart
