/-
Placing an order (`orderPlacementService.js`): the transaction of `placeOrderAtomic`.

One call prices the cart, makes an order for each seller with its stock reserved, debits
the wallet, empties the cart and counts the coupon, all in one transaction: it returns the
store it leaves, or throws and leaves none. The ids it draws and the moment it runs at are
arguments. Addresses but for their location, time slots, notifications, the rows of the
legacy `Transaction` collection and the group's per-seller summary are left out.
-/
import DiscountBazar.Pricing.Checkout
import DiscountBazar.Inventory.Release
import DiscountBazar.Placement.CustomerFunds

namespace DiscountBazar.Placement

open Pricing Transaction
open Finance (PaymentMode OrderPaymentStatus WorkflowStatus)
open Inventory (ReservationStatus)
open List

/-! ## Requests -/

/-- A line of a payload. A client may send the product under `id`, where the check for
several sellers does not look. -/
structure ItemInput extends OrderItemInput where
  underId : Bool := false
  deriving DecidableEq

structure Payload where
  items : List ItemInput := []
  location : Option Location := none
  paymentMode : String := ""
  walletOnly : Bool := false
  tipAmount : ℚ := 0
  discountTotal : ℚ := 0
  walletAmount : ℚ := 0
  coupon : CouponRequest := {}
  deriving DecidableEq

def upperMode (raw : String) : String := toUpperCase (trim raw)

def isFullyWalletPayload (p : Payload) : Bool := upperMode p.paymentMode == "WALLET"

def normalizePaymentMode (raw : String) : PaymentMode :=
  if upperMode raw = "ONLINE" then .online else .cod

namespace Payload

/-- The flag that the normalized payload keeps. -/
def mustUseWalletOnly (p : Payload) : Bool := isFullyWalletPayload p || p.walletOnly

/-- `Math.max(0, Math.round(walletAmount))`, in paise. -/
def redeemed (p : Payload) : ℤ := max 0 (mathRound p.walletAmount) * 100

end Payload

def assertPaymentModeEnabled (settings : Settings) : PaymentMode → Except ServiceError Unit
  | .online =>
    if settings.onlineEnabled = false then
      throw ⟨"Online payment is currently unavailable. Please choose Cash on Delivery.", some 400⟩
    else pure ()
  | .cod =>
    if settings.codEnabled = false then
      throw ⟨"Cash on Delivery is currently unavailable. Please pay online.", some 400⟩
    else pure ()
  | .wallet => pure ()

def assertModeAllowed (settings : Settings) (p : Payload) : Except ServiceError Unit :=
  if p.mustUseWalletOnly then pure ()
  else assertPaymentModeEnabled settings (normalizePaymentMode p.paymentMode)

/-! ## Documents -/

/-- `order.stockReservation`. -/
structure StockReservation where
  status : ReservationStatus
  reservedAt : Date
  expiresAt : Option Date

/-- `ONLINE_RESERVATION_MS` as the environment leaves it. -/
def ONLINE_RESERVATION_MS : ℤ := 900000

/-- `DEFAULT_SELLER_TIMEOUT_MS` as the environment leaves it. -/
def DEFAULT_SELLER_TIMEOUT_MS : ℤ := 3600000

def computeStockReservationWindow (now : Date) : PaymentMode → StockReservation
  | .online => ⟨.reserved, now, some (now + ONLINE_RESERVATION_MS)⟩
  | _ => ⟨.committed, now, none⟩

inductive PaymentMethod where
  | wallet | online | cash

structure Order where
  orderId : ObjectId
  customer : ObjectId
  seller : ObjectId
  items : List HydratedItem
  paymentMode : PaymentMode
  paymentStatus : OrderPaymentStatus
  paymentMethod : PaymentMethod
  paymentCompleted : Bool
  paymentBreakdown : Breakdown
  walletAmount : ℚ
  coupon : Option ObjectId
  workflowStatus : WorkflowStatus
  sellerPendingExpiresAt : Option Date
  expiresAt : Option Date
  stockReservation : StockReservation
  checkoutGroupId : ObjectId
  checkoutGroupSize : ℕ
  checkoutGroupIndex : ℕ
  idempotencyKey : Option String

inductive GroupStatus where
  | created | paymentPending

structure CheckoutGroup where
  checkoutGroupId : ObjectId
  customer : ObjectId
  paymentMode : PaymentMode
  paymentStatus : OrderPaymentStatus
  status : GroupStatus
  stockReservation : StockReservation
  pricingSummary : Aggregate
  walletAmount : ℤ
  sellerCount : ℕ
  orderIds : List ObjectId
  tipAmount : ℚ
  coupon : Option ObjectId
  expiresAt : Option Date
  idempotencyKey : Option String

/-- What a placement reads and writes. -/
structure World where
  store : Store
  stock : Inventory.Products
  funds : Funds
  carts : ObjectId → List OrderItemInput := fun _ => []
  groups : List CheckoutGroup := []
  orders : List Order := []

/-- A call, with the ids it draws and its moment. -/
structure Request where
  customerId : ObjectId
  payload : Payload
  idempotencyKey : Option String := none
  now : Date := 0
  checkoutGroupId : ObjectId := 0
  orderId : ℕ → ObjectId := id

/-! ## The cart -/

inductive PlacementSource where
  | directItems | cart

def resolveOrderItemsInput (carts : ObjectId → List OrderItemInput) (customerId : ObjectId)
    (p : Payload) : Except ServiceError (List ItemInput × PlacementSource) :=
  if p.items ≠ [] then pure (p.items, .directItems)
  else if carts customerId = [] then throw ⟨"Cannot place order with empty cart", some 400⟩
  else pure ((carts customerId).map (fun item => { item with underId := false }), .cart)

/-- The sellers that the check for several of them sees. -/
def guardedSellers (products : ObjectId → Option Product) (items : List ItemInput) :
    List ObjectId :=
  ((items.filter (fun item => !item.underId)).filterMap (fun item =>
    (products item.product).map Product.sellerId)).dedup

def assertSingleSeller (products : ObjectId → Option Product) (items : List ItemInput) :
    Except ServiceError Unit :=
  if 1 < (guardedSellers products items).length then
    throw ⟨"Cart contains products from multiple sellers. Please clear your cart and place a new order.",
      some 400⟩
  else pure ()

def requestedQty (items : List ItemInput) (line : OrderItemInput) : ℕ :=
  ((items.filter (fun item => !item.underId && decide (item.product = line.product) &&
    (trim item.variantSku == trim line.variantSku))).map
      (fun item => item.quantity)).sum

/-- The lines that stay in the cart; of two equal lines only the first is used up. -/
def remainingLines (items : List ItemInput) :
    List (ObjectId × String) → List OrderItemInput → List OrderItemInput
  | _, [] => []
  | used, line :: lines =>
    let key := (line.product, trim line.variantSku)
    if key ∈ used ∨ requestedQty items line = 0 then line :: remainingLines items used lines
    else if requestedQty items line < line.quantity then
      { line with quantity := line.quantity - requestedQty items line }
        :: remainingLines items (key :: used) lines
    else remainingLines items (key :: used) lines

def consumeCartItems (carts : ObjectId → List OrderItemInput) (customerId : ObjectId)
    (source : PlacementSource) (items : List ItemInput) : ObjectId → List OrderItemInput :=
  match source with
  | .cart => Function.update carts customerId []
  | .directItems => Function.update carts customerId (remainingLines items [] (carts customerId))

/-! ## Coupon usage -/

/-- `incrementCouponUsage` on the coupon itself: nothing where the limit is reached. -/
def Coupon.use (c : Coupon) : Coupon :=
  if c.usedUp then c else { c with usedCount := c.usedCount + 1 }

def incrementCouponUsage (store : CouponStore) (couponId : Option ObjectId) : CouponStore :=
  { store with coupons := store.coupons.map (fun c =>
      if some c.id = couponId then Coupon.use c else c) }

/-! ## One order -/

/-- What a seller's order takes from the wallet. -/
def proportionateWallet (snapshot : PricingSnapshot) (entry : SellerEntry) (walletAmount : ℤ) : ℚ :=
  if 0 < entry.breakdown.walletAmount then fromPaise entry.breakdown.walletAmount
  else fromPaise entry.breakdown.grandTotal /
    orNumber (fromPaise snapshot.aggregateBreakdown.grandTotal) 1 * fromPaise walletAmount

def amountStillDue (snapshot : PricingSnapshot) (entry : SellerEntry) (walletAmount : ℤ) : ℚ :=
  if entry.breakdown.walletNettedInGrandTotal then fromPaise entry.breakdown.grandTotal
  else max 0 (fromPaise entry.breakdown.grandTotal - proportionateWallet snapshot entry walletAmount)

def isOrderFullyWalletCovered (snapshot : PricingSnapshot) (entry : SellerEntry)
    (walletAmount : ℤ) : Bool :=
  decide (0 < proportionateWallet snapshot entry walletAmount ∧
    amountStillDue snapshot entry walletAmount ≤ 0)

/-- A seller workflow starts at once where nothing is to be paid online. -/
def shouldStartSellerWorkflow (mode : PaymentMode) : Bool := decide (mode = .cod)

def sellerPendingUntil (mode : PaymentMode) (now : Date) : Option Date :=
  if shouldStartSellerWorkflow mode then some (now + DEFAULT_SELLER_TIMEOUT_MS) else none

def buildOrder (r : Request) (snapshot : PricingSnapshot) (index : ℕ) (entry : SellerEntry) : Order :=
  let mode := normalizePaymentMode r.payload.paymentMode
  let covered := isOrderFullyWalletCovered snapshot entry r.payload.redeemed
  let reservation := computeStockReservationWindow r.now mode
  { orderId := r.orderId index
    customer := r.customerId
    seller := entry.sellerId
    items := entry.items
    paymentMode := if covered then .wallet else mode
    paymentStatus :=
      if covered then .paid
      else if mode = .online then .created
      else .pendingCashCollection
    paymentMethod := if covered then .wallet else if mode = .online then .online else .cash
    paymentCompleted := covered
    paymentBreakdown := entry.breakdown
    walletAmount := proportionateWallet snapshot entry r.payload.redeemed
    coupon := snapshot.couponId
    -- the group's mode decides the workflow, whatever the order's own mode is
    workflowStatus := if shouldStartSellerWorkflow mode then .sellerPending else .created
    sellerPendingExpiresAt := sellerPendingUntil mode r.now
    expiresAt := reservation.expiresAt.or (sellerPendingUntil mode r.now)
    stockReservation := reservation
    checkoutGroupId := r.checkoutGroupId
    checkoutGroupSize := snapshot.sellerBreakdownEntries.length
    checkoutGroupIndex := index
    idempotencyKey := r.idempotencyKey }

def stockLines (entry : SellerEntry) : List Inventory.Line :=
  entry.items.map (fun item =>
    { product := item.productId
      productName := item.productName
      variantSku := item.variantSku
      quantity := item.quantity })

/-- One round of the loop over the sellers: reserve the stock, then make the order. -/
def placeEntry (r : Request) (snapshot : PricingSnapshot) (stock : Inventory.Products) (index : ℕ)
    (entry : SellerEntry) : Except ServiceError (Inventory.Products × Order) := do
  let stock ← Inventory.reserveStockForItems stock (stockLines entry)
  if r.payload.mustUseWalletOnly ∧
      isOrderFullyWalletCovered snapshot entry r.payload.redeemed = false then
    throw ⟨"Your wallet balance does not cover this order. Please choose another payment method.",
      some 400⟩
  else pure (stock, buildOrder r snapshot index entry)

def placeEntries (r : Request) (snapshot : PricingSnapshot) :
    ℕ → Inventory.Products → List SellerEntry → Except ServiceError (Inventory.Products × List Order)
  | _, stock, [] => pure (stock, [])
  | index, stock, entry :: entries => do
      let (stock, order) ← placeEntry r snapshot stock index entry
      let (stock, orders) ← placeEntries r snapshot (index + 1) stock entries
      pure (stock, order :: orders)

/-! ## The transaction -/

def assertBalance (funds : Funds) (customerId : ObjectId) (walletAmount : ℤ) :
    Except ServiceError Unit :=
  if 0 < walletAmount then
    if funds.hasUser customerId = false then throw ⟨"User not found", none⟩
    else if funds.getCustomerBalance customerId < walletAmount then
      throw ⟨"Insufficient wallet balance", none⟩
    else pure ()
  else pure ()

/-- The arguments of the pricing, as a placement gives them. -/
def pricingRequest (customerId : ObjectId) (p : Payload) (items : List ItemInput) : PricingRequest where
  orderItems := items.map ItemInput.toOrderItemInput
  location := p.location
  tipAmount := max 0 p.tipAmount
  discountTotal := max 0 p.discountTotal
  walletAmount := fromPaise p.redeemed
  coupon := p.coupon
  customerId := some customerId

def walletDebitAmount (flags : Flags) (snapshot : PricingSnapshot) (walletAmount : ℤ) : ℤ :=
  if flags.walletRedemptionReducesPayable then
    (snapshot.sellerBreakdownEntries.map (fun e => e.breakdown.walletAmount)).sum
  else walletAmount

def buildCheckoutGroup (r : Request) (snapshot : PricingSnapshot) (orders : List Order) :
    CheckoutGroup :=
  let mode := normalizePaymentMode r.payload.paymentMode
  let reservation := computeStockReservationWindow r.now mode
  { checkoutGroupId := r.checkoutGroupId
    customer := r.customerId
    paymentMode := mode
    paymentStatus := if mode = .online then .created else .pendingCashCollection
    status := if mode = .online then .paymentPending else .created
    stockReservation := reservation
    pricingSummary := snapshot.aggregateBreakdown
    walletAmount := r.payload.redeemed
    sellerCount := snapshot.sellerBreakdownEntries.length
    orderIds := orders.map Order.orderId
    tipAmount := max 0 r.payload.tipAmount
    coupon := snapshot.couponId
    expiresAt := reservation.expiresAt
    idempotencyKey := r.idempotencyKey }

structure Placed where
  checkoutGroup : CheckoutGroup
  orders : List Order
  walletDebit : ℤ

/-- The part of the transaction that decides on the price: the items and their snapshot. -/
def priceOrder (w : World) (r : Request) :
    Except ServiceError (List ItemInput × PlacementSource × PricingSnapshot) := do
  assertBalance w.funds r.customerId r.payload.redeemed
  let (items, source) ← resolveOrderItemsInput w.carts r.customerId r.payload
  assertSingleSeller w.store.products items
  let snapshot ← buildCheckoutPricingSnapshot w.store (pricingRequest r.customerId r.payload items)
  assertMinimumOrderMet snapshot.minimumOrder
  pure (items, source, snapshot)

/-- The coupon that a placement counts: the one it validated, or, without the server's
engine, the one the client sent. -/
def countedCoupon (flags : Flags) (p : Payload) (snapshot : PricingSnapshot) : Option ObjectId :=
  if flags.serverSideCouponEngine then snapshot.couponId else p.coupon.couponId.join

/-- The transaction of `placeOrderAtomic`. -/
def placeOrderTransaction (w : World) (r : Request) : Except ServiceError (World × Placed) := do
  let (items, source, snapshot) ← priceOrder w r
  let (stock, orders) ← placeEntries r snapshot 0 w.stock snapshot.sellerBreakdownEntries
  let debit := walletDebitAmount w.store.flags snapshot r.payload.redeemed
  let funds ← redeem w.store.flags.walletRedemptionReducesPayable w.funds r.customerId
    r.checkoutGroupId debit
  let checkoutGroup := buildCheckoutGroup r snapshot orders
  let coupons := incrementCouponUsage w.store.coupons
    (countedCoupon w.store.flags r.payload snapshot)
  let w : World :=
    { store := { w.store with coupons }
      stock
      funds
      carts := consumeCartItems w.carts r.customerId source items
      groups := w.groups ++ [checkoutGroup]
      orders := w.orders ++ orders }
  pure (w, { checkoutGroup, orders, walletDebit := max 0 debit })

/-- A placement without idempotency: the payment mode is checked before the transaction. -/
def placeOrder (w : World) (r : Request) : Except ServiceError (World × Placed) := do
  assertModeAllowed w.store.settings r.payload
  placeOrderTransaction w r

/-! ## What a placement that commits has done -/

section Committed

variable {w w' : World} {r : Request} {placed : Placed}

variable {snapshot : PricingSnapshot} {stock : Inventory.Products} {index : ℕ}

theorem placeEntry_eq_ok {entry : SellerEntry} {result : Inventory.Products × Order} :
    placeEntry r snapshot stock index entry = .ok result ↔
      Inventory.reserveStockForItems stock (stockLines entry) = .ok result.1 ∧
        (r.payload.mustUseWalletOnly = true →
          isOrderFullyWalletCovered snapshot entry r.payload.redeemed = true) ∧
        result.2 = buildOrder r snapshot index entry := by
  unfold placeEntry
  simp only [bind_eq_ok, ite_throw_eq_ok, pure_eq_ok, not_and,
    Bool.not_eq_false]
  constructor
  · rintro ⟨stock', hstock, hcovered, rfl⟩
    exact ⟨hstock, hcovered, rfl⟩
  · rintro ⟨hstock, hcovered, horder⟩
    exact ⟨result.1, hstock, hcovered, Prod.ext rfl horder⟩

variable {entries : List SellerEntry} {result : Inventory.Products × List Order}

theorem mem_placeEntries (h : placeEntries r snapshot index stock entries = .ok result)
    {order : Order} (horder : order ∈ result.2) :
    ∃ entry ∈ entries, ∃ i, order = buildOrder r snapshot i entry := by
  induction entries generalizing index stock result with
  | nil =>
    rw [pure_eq_ok.mp h] at horder
    exact absurd horder not_mem_nil
  | cons entry entries ih =>
    unfold placeEntries at h
    obtain ⟨first, hfirst, h⟩ := bind_eq_ok.mp h
    obtain ⟨rest, hrest, h⟩ := bind_eq_ok.mp h
    rw [pure_eq_ok.mp h] at horder
    rcases mem_cons.mp horder with rfl | horder
    · exact ⟨entry, mem_cons_self .., index, (placeEntry_eq_ok.mp hfirst).2.2⟩
    · obtain ⟨e, he, i, hi⟩ := ih hrest horder
      exact ⟨e, mem_cons_of_mem _ he, i, hi⟩

theorem placeEntries_breakdowns (h : placeEntries r snapshot index stock entries = .ok result) :
    result.2.map Order.paymentBreakdown = entries.map SellerEntry.breakdown := by
  induction entries generalizing index stock result with
  | nil =>
    rw [pure_eq_ok.mp h]
    rfl
  | cons entry entries ih =>
    unfold placeEntries at h
    obtain ⟨first, hfirst, h⟩ := bind_eq_ok.mp h
    obtain ⟨rest, hrest, h⟩ := bind_eq_ok.mp h
    rw [pure_eq_ok.mp h]
    rw [map_cons, map_cons, ih hrest, (placeEntry_eq_ok.mp hfirst).2.2]
    rfl

/-- What a transaction that commits has gone through. -/
structure Committed (w : World) (r : Request) (w' : World) (placed : Placed) : Prop where
  priced : ∃ items source snapshot, priceOrder w r = .ok (items, source, snapshot) ∧
    ∃ stock, placeEntries r snapshot 0 w.stock snapshot.sellerBreakdownEntries
        = .ok (stock, placed.orders) ∧
      placed.checkoutGroup = buildCheckoutGroup r snapshot placed.orders ∧
      placed.walletDebit = max 0 (walletDebitAmount w.store.flags snapshot r.payload.redeemed) ∧
      redeem w.store.flags.walletRedemptionReducesPayable w.funds r.customerId r.checkoutGroupId
        (walletDebitAmount w.store.flags snapshot r.payload.redeemed) = .ok w'.funds ∧
      w'.stock = stock ∧
      w'.store.coupons = incrementCouponUsage w.store.coupons
        (countedCoupon w.store.flags r.payload snapshot)
  groups : w'.groups = w.groups ++ [placed.checkoutGroup]
  orders : w'.orders = w.orders ++ placed.orders

theorem committed_of_transaction (h : placeOrderTransaction w r = .ok (w', placed)) :
    Committed w r w' placed := by
  unfold placeOrderTransaction at h
  obtain ⟨⟨items, source, snapshot⟩, hprice, h⟩ := bind_eq_ok.mp h
  obtain ⟨⟨stock, orders⟩, hplace, h⟩ := bind_eq_ok.mp h
  obtain ⟨funds, hredeem, h⟩ := bind_eq_ok.mp h
  obtain ⟨rfl, rfl⟩ := Prod.mk.inj (pure_eq_ok.mp h)
  exact
    { priced := ⟨items, source, snapshot, hprice, stock, hplace, rfl, rfl, hredeem, rfl, rfl⟩
      groups := rfl
      orders := rfl }

theorem committed_of_placeOrder (h : placeOrder w r = .ok (w', placed)) :
    Committed w r w' placed := by
  unfold placeOrder at h
  obtain ⟨-, -, h⟩ := bind_eq_ok.mp h
  exact committed_of_transaction h

theorem Committed.built (h : Committed w r w' placed) {order : Order} (horder : order ∈ placed.orders) :
    ∃ snapshot entry i, order = buildOrder r snapshot i entry := by
  obtain ⟨-, -, snapshot, -, stock, hplace, -⟩ := h.priced
  obtain ⟨entry, -, i, hi⟩ := mem_placeEntries hplace horder
  exact ⟨snapshot, entry, i, hi⟩

end Committed

/-! ## Orders that owe nothing -/

/-- The order is with the seller: it waits for the seller's answer until a deadline, and
its stock is sold and not held for a payment. -/
def Order.ReachedSeller (o : Order) : Prop :=
  o.workflowStatus = .sellerPending ∧ o.sellerPendingExpiresAt.isSome = true ∧
    o.stockReservation.status = .committed

instance (o : Order) : Decidable o.ReachedSeller := inferInstanceAs (Decidable (_ ∧ _ ∧ _))

theorem buildOrder_reachedSeller (r : Request) (snapshot : PricingSnapshot) (index : ℕ)
    (entry : SellerEntry) :
    (buildOrder r snapshot index entry).ReachedSeller ↔
      normalizePaymentMode r.payload.paymentMode ≠ .online := by
  unfold Order.ReachedSeller buildOrder
  by_cases h : upperMode r.payload.paymentMode = "ONLINE"
  · simp [normalizePaymentMode, h, shouldStartSellerWorkflow]
  · simp [normalizePaymentMode, h, shouldStartSellerWorkflow, sellerPendingUntil,
      computeStockReservationWindow]

/-- A paid order of a placement has reached the seller exactly when the payload did not
ask to pay online. -/
theorem paid_reachedSeller_iff {w w' : World} {r : Request} {placed : Placed}
    (h : placeOrder w r = .ok (w', placed)) :
    ∀ order ∈ placed.orders, order.paymentStatus = .paid →
      (order.ReachedSeller ↔ normalizePaymentMode r.payload.paymentMode ≠ .online) := by
  intro order horder _
  obtain ⟨snapshot, entry, i, rfl⟩ := (committed_of_placeOrder h).built horder
  exact buildOrder_reachedSeller r snapshot i entry

/-- A shop with one product of 200 rupees, and a customer with 500 rupees. -/
def scarfShop : World where
  store := { products := fun id =>
    if id = 3 then some { name := "Scarf", price := 200, headerId := 1, sellerId := 7 } else none }
  stock := fun id => if id = 3 then some { stock := 5 } else none
  funds := { db := { Finance.Db.fresh Table.empty with users := fun _ => 50000 } }

def scarfRequest (paymentMode : String) (walletAmount : ℚ) : Request where
  customerId := 1
  payload := { items := [{ product := 3, quantity := 1 }], paymentMode, walletAmount }

/-- Paid by the wallet under cash on delivery, and with the seller. -/
theorem paid_reachedSeller_scarf :
    ∃ w' placed, placeOrder scarfShop (scarfRequest "COD" 300) = .ok (w', placed) ∧
      ∃ order ∈ placed.orders, order.paymentStatus = .paid ∧ order.ReachedSeller := by
  have hok : (placeOrder scarfShop (scarfRequest "COD" 300)).toOption.any (fun result =>
      result.2.orders.any (fun o => decide (o.paymentStatus = .paid))) = true := by decide +kernel
  cases h : placeOrder scarfShop (scarfRequest "COD" 300) with
  | error e =>
    rw [h] at hok
    cases hok
  | ok result =>
    rw [h] at hok
    obtain ⟨order, horder, hpaid⟩ := any_eq_true.mp hok
    refine ⟨result.1, result.2, rfl, order, horder, of_decide_eq_true hpaid, ?_⟩
    exact (paid_reachedSeller_iff h order horder (of_decide_eq_true hpaid)).mpr (by decide +kernel)

/-- The same order with a client that says `ONLINE` is paid and stays where it is: no seller
is asked, no deadline runs, and the stock is held for a payment that nobody owes. -/
theorem paid_order_left_online :
    ∃ w' placed, placeOrder scarfShop (scarfRequest "ONLINE" 300) = .ok (w', placed) ∧
      ∃ order ∈ placed.orders, order.paymentStatus = .paid ∧ ¬order.ReachedSeller := by
  have hok : (placeOrder scarfShop (scarfRequest "ONLINE" 300)).toOption.any (fun result =>
      result.2.orders.any (fun o => decide (o.paymentStatus = .paid ∧ ¬o.ReachedSeller))) = true := by
    decide +kernel
  cases h : placeOrder scarfShop (scarfRequest "ONLINE" 300) with
  | error e =>
    rw [h] at hok
    cases hok
  | ok result =>
    rw [h] at hok
    obtain ⟨order, horder, hpaid⟩ := any_eq_true.mp hok
    exact ⟨result.1, result.2, rfl, order, horder, of_decide_eq_true hpaid⟩

end DiscountBazar.Placement
