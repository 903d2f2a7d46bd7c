/-
What the returns of an order refund, against what was paid for it.

A refund is the list price of the items of the request, or the amount that an approval has
stored. The ledger has room for one credit for each order. Prices and quantities of an order's
items never change, and the loop over a request takes each item at most once.
-/
import DiscountBazar.Pricing.Coverage
import DiscountBazar.Returns.StateMachine
import Mathlib.Algebra.BigOperators.Ring.Finset

namespace DiscountBazar.Returns

open Tasks Finance Transaction Runs Pricing
open Contract (Sound)
open List Int

/-! ## Items -/

/-- The part of an item that a return leaves alone: its price and its quantity. -/
def lineOf (item : OrderItem) : ℤ × ℚ := (item.price, item.quantity)

def lineAmount (line : ℤ × ℚ) : ℚ := line.1 * line.2

def linesAmount (lines : List (ℤ × ℚ)) : ℚ := (lines.map lineAmount).sum

/-- Lines with no negative price or quantity. -/
def Sane (lines : List (ℤ × ℚ)) : Prop := ∀ line ∈ lines, 0 ≤ line.1 ∧ 0 ≤ line.2

def openPrice (item : OrderItem) : ℚ :=
  if item.returnStatus = .none then lineAmount (lineOf item) else 0

def openAmount (items : List OrderItem) : ℚ := (items.map openPrice).sum

theorem itemsAmount_append (a b : List ReturnItem) :
    itemsAmount (a ++ b) = itemsAmount a + itemsAmount b := by
  unfold itemsAmount
  rw [map_append, sum_append]

theorem sum_map_set {α : Type} (f : α → ℚ) {items : List α} {index : ℕ} {original item : α}
    (h : items[index]? = some original) :
    ((items.set index item).map f).sum = (items.map f).sum - f original + f item := by
  induction items generalizing index with
  | nil => cases h
  | cons first rest ih =>
    cases index with
    | zero =>
      cases h
      simp only [set_cons_zero, map_cons, sum_cons]
      ring
    | succ index =>
      rw [getElem?_cons_succ] at h
      rw [set_cons_succ, map_cons, map_cons, sum_cons, sum_cons, ih h]
      ring

theorem map_set_eq {α β : Type} {f : α → β} {items : List α} {index : ℕ} {original item : α}
    (h : items[index]? = some original) (hf : f item = f original) :
    (items.set index item).map f = items.map f := by
  induction items generalizing index with
  | nil => cases h
  | cons first rest ih =>
    cases index with
    | zero =>
      cases h
      rw [set_cons_zero, map_cons, map_cons, hf]
    | succ index =>
      rw [getElem?_cons_succ] at h
      rw [set_cons_succ, map_cons, map_cons, ih h]

theorem isReturnEligible_none {item : OrderItem} {deliveredAt now : Date} {status : LegacyStatus}
    (h : (isReturnEligible item deliveredAt status now).returnEligible ≠ false) :
    item.returnStatus = .none := by
  by_contra hne
  apply h
  unfold isReturnEligible
  dsimp only
  split
  · rfl
  split
  · rfl
  rfl

section Selection

variable {status : LegacyStatus} {deliveredAt now : Date} {reason : String}

variable {items items' : List OrderItem} {selected selected' : List ReturnItem}

/-- One round of the loop: what is asked for is taken off what is open. -/
theorem selectReturnItem_amount {entry : ReturnEntry} (hsane : Sane (items.map lineOf))
    (h : selectReturnItem status deliveredAt reason now items selected entry
      = .ok (items', selected')) :
    items'.map lineOf = items.map lineOf ∧
      itemsAmount selected' + openAmount items' ≤ itemsAmount selected + openAmount items := by
  unfold selectReturnItem at h
  split at h
  · exact absurd h throw_ne_ok
  next index htarget =>
    split at h
    · exact absurd h throw_ne_ok
    next original horiginal =>
      simp only [ite_throw_eq_ok, pure_eq_ok, Prod.mk.injEq, not_or, not_le, not_lt] at h
      obtain ⟨heligible, -, ⟨-, hquantity⟩, rfl, rfl⟩ := h
      have hopen := isReturnEligible_none heligible
      refine ⟨map_set_eq horiginal rfl, ?_⟩
      have hset : openAmount (items.set index { original with
            returnStatus := .requested, returnedAt := some now, returnReason := some reason })
          = openAmount items - lineAmount (lineOf original) := by
        unfold openAmount
        rw [sum_map_set openPrice horiginal]
        simp [openPrice, hopen]
      have hprice : (0 : ℚ) ≤ original.price := by
        have hmem := mem_map_of_mem (f := lineOf) (mem_of_getElem? horiginal)
        exact_mod_cast (hsane _ hmem).1
      have hline : (original.price : ℚ) * requestedQuantity original entry
          ≤ lineAmount (lineOf original) := mul_le_mul_of_nonneg_left hquantity hprice
      rw [hset, itemsAmount_append]
      simp only [itemsAmount, map_cons, map_nil, sum_cons, sum_nil, add_zero]
      linarith

variable {entries : List ReturnEntry}

theorem selectReturnItems_amount (hsane : Sane (items.map lineOf))
    (h : selectReturnItems status deliveredAt reason now items selected entries
      = .ok (items', selected')) :
    items'.map lineOf = items.map lineOf ∧
      itemsAmount selected' + openAmount items' ≤ itemsAmount selected + openAmount items := by
  induction entries generalizing items selected with
  | nil =>
    cases pure_eq_ok.mp h
    exact ⟨rfl, le_refl _⟩
  | cons entry rest ih =>
    obtain ⟨⟨items₁, selected₁⟩, hfirst, hrest⟩ := bind_eq_ok.mp h
    obtain ⟨hlines, hamount⟩ := selectReturnItem_amount hsane hfirst
    rw [← hlines] at hsane
    obtain ⟨hlines', hamount'⟩ := ih hsane hrest
    exact ⟨hlines'.trans hlines, hamount'.trans hamount⟩

theorem openAmount_le {items : List OrderItem} (hsane : Sane (items.map lineOf)) :
    0 ≤ openAmount items ∧ openAmount items ≤ linesAmount (items.map lineOf) := by
  have hline : ∀ item ∈ items, 0 ≤ lineAmount (lineOf item) := by
    intro item hitem
    obtain ⟨hprice, hquantity⟩ := hsane _ (mem_map_of_mem hitem)
    exact mul_nonneg (by exact_mod_cast hprice) hquantity
  constructor
  · refine sum_nonneg (fun x hx => ?_)
    obtain ⟨item, hitem, rfl⟩ := mem_map.mp hx
    unfold openPrice
    split
    · exact hline item hitem
    · exact le_refl 0
  · unfold linesAmount openAmount
    rw [map_map]
    refine sum_le_sum (fun item hitem => ?_)
    unfold openPrice
    split
    · exact le_refl _
    · exact hline item hitem

theorem selected_le {selected : List ReturnItem} (hsane : Sane (items.map lineOf))
    (h : selectReturnItems status deliveredAt reason now items [] entries = .ok (items', selected)) :
    items'.map lineOf = items.map lineOf ∧
      itemsAmount selected ≤ linesAmount (items.map lineOf) := by
  obtain ⟨hlines, hamount⟩ := selectReturnItems_amount hsane h
  have hopen := openAmount_le hsane
  have hopen' : 0 ≤ openAmount items' := (openAmount_le (by rwa [hlines])).1
  refine ⟨hlines, ?_⟩
  simp only [itemsAmount, map_nil, sum_nil, zero_add] at hamount ⊢
  linarith [hopen.2]

end Selection

/-! ## The bound -/

/-- What was paid for items after the discount, which is spread over the goods of the order. -/
def paidFor (b : Breakdown) (returnItems : List ReturnItem) : ℚ :=
  itemsAmount returnItems - itemsAmount returnItems / b.productSubtotal * b.discountTotal

def credited (s : ReturnDesk) : ℤ := (s.credits.map ReturnCredit.amount).sum

/-- The credits are no more than what was paid for the items they are for, and no more than what
was paid for the order. -/
structure RefundsWithin (b : Breakdown) (s : ReturnDesk) : Prop where
  items : (credited s : ℚ) ≤ (s.credits.map (fun credit => paidFor b credit.returnItems)).sum
  order : s.credits ≠ [] → credited s ≤ b.totalPayment

/-- The condition on a refund: the stored amount is none that an approval of other items has left
behind; and the items are free, or the order has no discount, its share of the tip is not
negative, and the list price of the items does not round up. -/
def RefundCovered (b : Breakdown) (order : Order) : Prop :=
  order.returnRefundAmount ≤ itemsAmount order.returnItems ∧
    (itemsAmount order.returnItems ≤ 0 ∨
      b.discountTotal ≤ 0 ∧ 0 ≤ b.tipTotal ∧ fract (itemsAmount order.returnItems) < 1 / 2)

instance (b : Breakdown) (order : Order) : Decidable (RefundCovered b order) :=
  inferInstanceAs (Decidable (_ ∧ (_ ∨ _ ∧ _ ∧ _)))

/-- The condition on a call that takes effect: a refund that comes to a checked return, the
first of its order. -/
def EffectCovered (b : Breakdown) : Kind → ReturnDesk → Prop
  | .refund, s =>
    s.order.returnStatus = .qcPassed → s.credits = [] → RefundCovered b s.order.toOrder
  | _, _ => True

instance (b : Breakdown) (kind : Kind) (s : ReturnDesk) : Decidable (EffectCovered b kind s) := by
  unfold EffectCovered
  split <;> infer_instance

def CallCovered (b : Breakdown) (kind : Kind) (c : Choice) (s : ReturnDesk) : Prop :=
  c.outcome.takesEffect = true → EffectCovered b kind s

instance (b : Breakdown) (kind : Kind) (c : Choice) (s : ReturnDesk) :
    Decidable (CallCovered b kind c s) := inferInstanceAs (Decidable (_ → _))

/-- The invariant: the lines of the order are those it was sold with, a request stays within
them, and the ledger has at most one credit, within what was paid. -/
structure Books (b : Breakdown) (lines : List (ℤ × ℚ)) (s : ReturnDesk) : Prop where
  sold : s.order.items.map lineOf = lines
  request : itemsAmount s.order.returnItems ≤ linesAmount lines
  one : s.credits.length ≤ 1
  items : ∀ credit ∈ s.credits, (credit.amount : ℚ) ≤ paidFor b credit.returnItems
  order : ∀ credit ∈ s.credits, credit.amount ≤ b.totalPayment

section Bound

variable {b : Breakdown} {lines : List (ℤ × ℚ)} {s : ReturnDesk}

theorem Books.refundsWithin (h : Books b lines s) : RefundsWithin b s := by
  obtain ⟨-, -, hone, hitems, horder⟩ := h
  cases hcredits : s.credits with
  | nil =>
    refine ⟨?_, fun hne => absurd hcredits hne⟩
    simp [credited, hcredits]
  | cons credit rest =>
    have hrest : rest = [] := by
      rw [hcredits, length_cons] at hone
      exact length_eq_zero_iff.mp (by omega)
    subst hrest
    have hmem : credit ∈ s.credits := by
      rw [hcredits]
      exact mem_cons_self ..
    refine ⟨?_, fun _ => ?_⟩
    · simpa [credited, hcredits] using hitems credit hmem
    · simpa [credited, hcredits] using horder credit hmem

theorem Books.of_same {s' : ReturnDesk} (h : Books b lines s)
    (hitems : s'.order.items = s.order.items)
    (hreturn : s'.order.returnItems = s.order.returnItems) (hcredits : s'.credits = s.credits) :
    Books b lines s' where
  sold := by rw [hitems, h.sold]
  request := by rw [hreturn]; exact h.request
  one := by rw [hcredits]; exact h.one
  items := by rw [hcredits]; exact h.items
  order := by rw [hcredits]; exact h.order

theorem mathRound_le_of_fract {x : ℚ} (h : fract x < 1 / 2) : (mathRound x : ℚ) ≤ x := by
  have hfloor : mathRound x = ⌊x⌋ := by
    unfold mathRound
    rw [floor_eq_iff]
    have hx := floor_add_fract x
    have hnonneg := fract_nonneg x
    constructor
    · linarith
    · linarith
  rw [hfloor]
  exact floor_le x

theorem mathRound_mono {x y : ℚ} (h : x ≤ y) : mathRound x ≤ mathRound y := by
  unfold mathRound
  exact floor_le_floor (by linarith)

theorem refund_le {order : Order} (h : RefundCovered b order) (hpos : 0 < refundAmount order) :
    (mathRound (refundAmount order) : ℚ) ≤ itemsAmount order.returnItems ∧
      b.discountTotal ≤ 0 ∧ 0 ≤ b.tipTotal := by
  obtain ⟨hstored, hfree⟩ := h
  have hle : refundAmount order ≤ itemsAmount order.returnItems := by
    unfold refundAmount
    split
    · exact hstored
    · exact le_refl _
  rcases hfree with hfree | ⟨hdiscount, htip, hfract⟩
  · exact absurd hpos (not_lt.mpr (hle.trans hfree))
  · refine ⟨?_, hdiscount, htip⟩
    have hround : (mathRound (refundAmount order) : ℚ) ≤ mathRound (itemsAmount order.returnItems) := by
      exact_mod_cast mathRound_mono hle
    exact hround.trans (mathRound_le_of_fract hfract)

theorem itemsAmount_le_paidFor {returnItems : List ReturnItem} (hdiscount : b.discountTotal ≤ 0)
    (hsubtotal : 0 ≤ b.productSubtotal) (hitems : 0 ≤ itemsAmount returnItems) :
    itemsAmount returnItems ≤ paidFor b returnItems := by
  unfold paidFor
  have hshare : 0 ≤ itemsAmount returnItems / b.productSubtotal :=
    div_nonneg hitems (by exact_mod_cast hsubtotal)
  have hdiscount' : (b.discountTotal : ℚ) ≤ 0 := by exact_mod_cast hdiscount
  have hmul := mul_nonpos_of_nonneg_of_nonpos hshare hdiscount'
  linarith

theorem completeRefund_books (hcovers : Covers b)
    (hlines : linesAmount lines ≤ b.productSubtotal) (hsubtotal : 0 ≤ b.productSubtotal) (h : Books b lines s)
    (hok : s.order.returnStatus = .qcPassed → s.credits = [] → RefundCovered b s.order.toOrder) :
    Books b lines (completeRefund s).2 := by
  unfold completeRefund
  split
  · exact h
  next hstatus =>
    split
    next hpos =>
      split
      · exact h
      next hcredits =>
        have hnil : s.credits = [] := not_not.mp hcredits
        obtain ⟨hamount, hdiscount, htip⟩ := refund_le (hok (not_not.mp hstatus) hnil) hpos
        have hitems : 0 ≤ itemsAmount s.order.returnItems := by
          have hround : (0 : ℚ) ≤ mathRound (refundAmount s.order.toOrder) := by
            exact_mod_cast mathRound_nonneg hpos.le
          exact hround.trans hamount
        have hgoods : mathRound (refundAmount s.order.toOrder) ≤ b.productSubtotal := by
          have hle := (hamount.trans h.request).trans hlines
          exact_mod_cast hle
        have hpaid := hcovers.goods
        have hdelivery := hcovers.delivery
        refine ⟨h.sold, h.request, ?_, ?_, ?_⟩
        · dsimp only
          rw [hnil]
          exact le_refl 1
        · dsimp only
          rw [hnil, nil_append, forall_mem_singleton]
          exact hamount.trans (itemsAmount_le_paidFor hdiscount hsubtotal hitems)
        · dsimp only
          rw [hnil, nil_append, forall_mem_singleton]
          dsimp only
          omega
    next => exact h.of_same rfl rfl rfl

theorem save_books {writer : Writer} {loaded edited : ReturnOrder} {c : Choice} (h : Books b lines s)
    (hitems : edited.items ≠ loaded.items → edited.items.map lineOf = lines)
    (hreturn : edited.returnItems ≠ loaded.returnItems →
      itemsAmount edited.returnItems ≤ linesAmount lines) :
    Books b lines (effect c (.saveOrder writer loaded edited) s).2 := by
  unfold effect
  dsimp only
  split
  · exact h
  · refine ⟨?_, ?_, h.one, h.items, h.order⟩
    · change (written loaded.items edited.items s.order.items).map lineOf = lines
      unfold written
      split
      · exact h.sold
      next hne => exact hitems hne
    · change itemsAmount (written loaded.returnItems edited.returnItems s.order.returnItems) ≤ _
      unfold written
      split
      · exact h.request
      next hne => exact hreturn hne

/-- A call of any handler but a new request. -/
theorem effect_books {kind : Kind} {c : Choice} (hcovers : Covers b)
    (hlines : linesAmount lines ≤ b.productSubtotal) (hsubtotal : 0 ≤ b.productSubtotal)
    (h : Books b lines s) (hordinary : Ordinary kind)
    (hok : EffectCovered b kind s) : Books b lines (effect c kind s).2 := by
  cases kind with
  | saveOrder writer loaded edited =>
    obtain ⟨-, hitems, hreturn, -⟩ := hordinary
    exact save_books h (fun hne => absurd hitems hne) (fun hne => absurd hreturn hne)
  | refund => exact completeRefund_books hcovers hlines hsubtotal h hok
  | searchPickup | revertPickup =>
    unfold effect
    dsimp only
    split
    · exact h.of_same rfl rfl rfl
    · exact h
  | markDropPending | findOrder | findSetting | findPartner _ | assertRiderCanTakeOrder _
  | randomCode | findOtp _ | findActiveOtp _ _ | countAttempt _ _ _ | consumeOtp _ _ _
  | consumeOtps _ _ | createOtp _ _ =>
    exact h.of_same rfl rfl rfl

end Bound

/-! ## Runs -/

section Runs

variable (hashCode : String → String) (config : SearchConfig) (b : Breakdown)
  (lines : List (ℤ × ℚ))

/-- Every call keeps the books; nobody relies on more. -/
def booksContract : Contract (returnSystem hashCode config) where
  inv := Books b lines
  rely := fun _ _ _ => True
  may := fun _ kind c s => CallCovered b kind c s

variable {hashCode config b lines}

theorem books_of_effect {i : ℕ} {kind : Kind} {c : Choice} {s s' : ReturnDesk}
    {r : Except ServiceError kind.Reply} (h : Books b lines s)
    (heffect : c.outcome.takesEffect = true → Books b lines (effect c kind s).2)
    (hperform : (returnSystem hashCode config).perform i kind c s = some (r, s')) :
    Books b lines s' := by
  rcases performOp_eq_some (i := i) hperform with ⟨-, rfl⟩ | ⟨hdone, rfl, -⟩
  · exact h
  · exact heffect hdone

theorem createReturnRequest_sound {i : ℕ} (hsane : Sane lines) (customerId : ObjectId)
    (payload : ReturnPayload) (now : Date) (s : ReturnDesk) :
    (booksContract hashCode config b lines).Keeps i
      (createReturnRequest customerId payload now) s := by
  unfold createReturnRequest
  refine Sound.ite (fun _ => trivial) (fun _ => Sound.ite (fun _ => trivial) (fun _ => ?_))
  -- the lines of the order that is read are those of the order that is written
  refine Sound.bind (R := fun order _ => order.items.map lineOf = lines) ?_ ?_
  · refine Sound.perform (fun s' _ hinv c _ r s'' hstep => ?_)
    have hsame : Books b lines (effect c .findOrder s').2 := hinv
    refine ⟨books_of_effect hinv (fun _ => hsame) hstep, fun _ _ => trivial, ?_, fun _ _ => trivial⟩
    rintro order rfl
    rcases performOp_eq_some (i := i) hstep with ⟨⟨e, herror⟩, -⟩ | ⟨-, -, hanswer | ⟨e, herror⟩⟩
    · cases herror
    · cases hanswer
      exact hinv.sold
    · cases herror
  intro order s' horder
  refine Sound.ite (fun _ => trivial) (fun _ => Sound.ite (fun _ => trivial) (fun _ => ?_))
  cases hselect : selectReturnItems order.status (order.deliveredAt.getD order.updatedAt)
      payload.reason now order.items [] payload.items with
  | error e => trivial
  | ok selection =>
    obtain ⟨items, selectedItems⟩ := selection
    rw [← horder] at hsane
    obtain ⟨hlines, hamount⟩ := selected_le hsane hselect
    rw [horder] at hlines hamount
    refine Sound.ite (fun _ => trivial) (fun _ =>
      Sound.perform (fun s' _ hinv c _ r s'' hstep => ?_))
    refine ⟨books_of_effect hinv (fun _ => ?_) hstep, fun _ _ => trivial, fun _ _ => trivial,
      fun _ _ => trivial⟩
    exact save_books hinv (fun _ => hlines) (fun _ => hamount)

theorem books_lawful (hsane : Sane lines) (hcovers : Covers b)
    (hlines : linesAmount lines ≤ b.productSubtotal) (hsubtotal : 0 ≤ b.productSubtotal) :
    (booksContract hashCode config b lines).Lawful where
  refl := fun _ _ => trivial
  trans := fun _ _ _ _ _ _ => trivial
  idle := fun _ _ _ _ _ => trivial
  outside := fun e => nomatch e
  entry := by
    intro incoming i s hinv _ _
    refine Sound.ite (fun _ => ?_) (fun _ => trivial)
    by_cases h : ∃ payload, incoming.request = .requestReturn payload
    · obtain ⟨payload, hrequest⟩ := h
      rw [hrequest]
      exact createReturnRequest_sound hsane _ payload _ s
    · have hordinary := handle_ordinary hashCode config incoming.user incoming.now (not_exists.mp h)
      refine (Contract.sound_of_all (I := fun _ => True) (fun _ _ _ _ => trivial) ?_ hordinary
        trivial).mono (fun _ _ _ => trivial) (fun _ _ _ => trivial)
      intro kind hkind s hinv _ c hmay r s' hstep
      refine ⟨books_of_effect hinv (fun hdone => ?_) hstep, fun _ _ => trivial, trivial⟩
      exact effect_books hcovers hlines hsubtotal hinv hkind (hmay hdone)

def soldLine (item : HydratedItem) : ℤ × ℚ := (item.price, item.quantity)

variable {items : List HydratedItem}

theorem sane_soldLine (h : ∀ item ∈ items, item.Priced) :
    Sane (items.map soldLine) := by
  intro line hline
  obtain ⟨item, hitem, rfl⟩ := mem_map.mp hline
  exact ⟨(h item hitem).1, Nat.cast_nonneg _⟩

theorem linesAmount_nonneg (h : Sane lines) : 0 ≤ linesAmount lines := by
  refine sum_nonneg (fun x hx => ?_)
  obtain ⟨line, hline, rfl⟩ := mem_map.mp hx
  obtain ⟨hprice, hquantity⟩ := h line hline
  exact mul_nonneg (by exact_mod_cast hprice) hquantity

theorem linesAmount_le_subtotal (h : ∀ item ∈ items, item.Priced) :
    linesAmount (items.map soldLine) ≤ merchandiseSubtotal items := by
  unfold linesAmount merchandiseSubtotal
  rw [map_map, cast_list_sum, map_map]
  refine sum_le_sum (fun item hitem => ?_)
  have hquantity : item.quantity ≤ normalizeLineQuantity item.quantity := by
    unfold normalizeLineQuantity
    split <;> omega
  have hprice : (0 : ℚ) ≤ item.price := by exact_mod_cast (h item hitem).1
  have hquantity' : (item.quantity : ℚ) ≤ normalizeLineQuantity item.quantity := by
    exact_mod_cast hquantity
  simp only [Function.comp_apply, lineAmount, soldLine, cast_mul, cast_natCast]
  exact mul_le_mul_of_nonneg_left hquantity' hprice

/-- On an order with the items of a seller's part of a priced checkout, in every run whose
refunds meet the condition: the returns credit no more than what was paid for their items, and
no more than what was paid for the order. -/
theorem returns_bounded (hashCode : String → String) (config : SearchConfig) {store : Store}
    {r : PricingRequest} {snapshot : PricingSnapshot}
    (hprice : buildCheckoutPricingSnapshot store r = .ok snapshot) {e : SellerEntry}
    (he : e ∈ snapshot.sellerBreakdownEntries) (order : ReturnOrder)
    (hitems : order.items.map lineOf = e.items.map soldLine) (hnever : order.returnItems = [])
    (as : List (Action Choice Empty Incoming))
    (hok : Guarded (returnSystem hashCode config).step
      (OnOps (fun _ kind c s => CallCovered e.breakdown kind c s)) (desk order) as) :
    Along (returnSystem hashCode config).step (fun p => RefundsWithin e.breakdown p.shared)
      (desk order) as := by
  obtain ⟨hcovers, hsubtotal, hpriced⟩ := snapshot_covered hprice e he
  have hsane := sane_soldLine hpriced
  have hlines : linesAmount (e.items.map soldLine) ≤ e.breakdown.productSubtotal := by
    rw [hsubtotal]
    exact linesAmount_le_subtotal hpriced
  have hnonneg : 0 ≤ e.breakdown.productSubtotal := by
    rw [hsubtotal]
    exact merchandiseSubtotal_nonneg hpriced
  have hbooks : Books e.breakdown (e.items.map soldLine) (desk order).shared := by
    refine ⟨hitems, ?_, Nat.zero_le 1, nofun, nofun⟩
    change itemsAmount order.returnItems ≤ _
    rw [hnever]
    exact linesAmount_nonneg hsane
  have hlawful : (booksContract hashCode config e.breakdown (e.items.map soldLine)).Lawful :=
    books_lawful hsane hcovers hlines hnonneg
  have hout : Guarded (returnSystem hashCode config).step (OnEvents (fun _ _ => True))
      (desk order) as := by
    refine guarded_of_forall (fun p a => ?_) _ as
    cases a <;> trivial
  have hmeets : Guarded (returnSystem hashCode config).step
      (booksContract hashCode config e.breakdown (e.items.map soldLine)).Meets (desk order) as :=
    Contract.guarded_meets hout hok
  refine (hlawful.along (Contract.holds_start hbooks (fun _ => trivial)) hmeets).mono ?_
  exact fun p hp => hp.inv.refundsWithin

end Runs

def shirtStore (coupons : List Coupon) : Store where
  products := fun id =>
    if id = 21 then some { name := "Shirt", price := 200, headerId := 1, sellerId := 3 } else none
  coupons := { coupons }

def shirtRequest (couponId : Option ObjectId) : PricingRequest where
  orderItems := [{ product := 21, quantity := 2 }]
  coupon := { couponId := couponId.map some }
  customerId := some 7

/-- An entry the shirts were sold with, which `check` says something of. -/
def shirtEntry (coupons : List Coupon) (couponId : Option ObjectId)
    (check : SellerEntry → Bool) : Bool :=
  (buildCheckoutPricingSnapshot (shirtStore coupons) (shirtRequest couponId)).toOption.any
    (fun snapshot => snapshot.sellerBreakdownEntries.any (fun e =>
      decide (deliveredShirt.items.map lineOf = e.items.map soldLine) && check e))

theorem of_shirtEntry {coupons : List Coupon} {couponId : Option ObjectId}
    {check : SellerEntry → Bool} (h : shirtEntry coupons couponId check = true) :
    ∃ snapshot e, buildCheckoutPricingSnapshot (shirtStore coupons) (shirtRequest couponId)
        = .ok snapshot ∧ e ∈ snapshot.sellerBreakdownEntries ∧
      deliveredShirt.items.map lineOf = e.items.map soldLine ∧ check e = true := by
  unfold shirtEntry at h
  cases hprice : buildCheckoutPricingSnapshot (shirtStore coupons)
      (shirtRequest couponId) with
  | error e =>
    rw [hprice] at h
    cases h
  | ok snapshot =>
    rw [hprice] at h
    obtain ⟨e, he, hcheck⟩ := any_eq_true.mp h
    obtain ⟨hitems, hcheck⟩ := Bool.and_eq_true_iff.mp hcheck
    exact ⟨snapshot, e, rfl, he, of_decide_eq_true hitems, hcheck⟩

theorem returns_bounded_shirt :
    ∃ snapshot e, buildCheckoutPricingSnapshot (shirtStore []) (shirtRequest none)
        = .ok snapshot ∧ e ∈ snapshot.sellerBreakdownEntries ∧
      Along (returnSystem id {}).step (fun p => RefundsWithin e.breakdown p.shared)
        (desk deliveredShirt) shirtReturn := by
  have hsold : shirtEntry [] none (fun e => decide (Guarded (returnSystem id {}).step
      (OnOps (fun _ kind c s => CallCovered e.breakdown kind c s)) (desk deliveredShirt)
      shirtReturn)) = true := by decide +kernel
  obtain ⟨snapshot, e, hprice, he, hitems, hok⟩ := of_shirtEntry hsold
  exact ⟨snapshot, e, hprice, he,
    returns_bounded id {} hprice he deliveredShirt hitems rfl shirtReturn (of_decide_eq_true hok)⟩

/-- Twenty rupees off. -/
def festiveCoupon : Coupon where
  id := 4
  code := "FESTIVE"
  discountType := .fixed
  discountValue := 20
  validFrom := 0
  validTill := 10

/-- Both shirts are returned and refunded at their list price, though a coupon was used. -/
theorem refunded_above_paid :
    ¬ ∀ (hashCode : String → String) (config : SearchConfig) (store : Store)
      (r : PricingRequest) (snapshot : PricingSnapshot),
      buildCheckoutPricingSnapshot store r = .ok snapshot →
      ∀ e ∈ snapshot.sellerBreakdownEntries, ∀ order : ReturnOrder,
        order.items.map lineOf = e.items.map soldLine → order.returnItems = [] →
        ∀ as : List (Action Choice Empty Incoming),
          Along (returnSystem hashCode config).step
            (fun p => RefundsWithin e.breakdown p.shared) (desk order) as := by
  intro h
  have hsold : shirtEntry [festiveCoupon] (some 4) (fun e => decide (
      let s := (exec (returnSystem id {}).step (desk deliveredShirt) shirtReturn).shared
      (s.credits.map (fun credit => paidFor e.breakdown credit.returnItems)).sum < credited s))
      = true := by decide +kernel
  obtain ⟨snapshot, e, hprice, he, hitems, hmore⟩ := of_shirtEntry hsold
  have hwithin := (h id {} _ _ snapshot hprice e he deliveredShirt hitems rfl shirtReturn).last
  exact absurd hwithin.items (not_le.mpr (of_decide_eq_true hmore))

end DiscountBazar.Returns
