/-
Every rupee moves at most once.

Whatever the tasks of the engine do, in whatever order and however often they fail: an
allocation has at most one credit to the customer's wallet and at most one debit of the
platform, the record has at most one allocation of gateway money, and its allocations
together never exceed what the customer paid. None of this rests on the statuses, which
late writes do overwrite: the credits and debits are guarded by their ledger keys, and
the amounts by the two conditional updates that add allocations.
-/
import DiscountBazar.Cancellation.RefundMoves
import DiscountBazar.Cancellation.RefundPrograms

namespace DiscountBazar.Cancellation

open Finance Tasks Transaction Table
open Contract (Sound)
open Nat World Allocation

/-! ## Movements and keys -/

def platformMoves (w : World) (id : ObjectId) : ℕ :=
  w.moves.count ⟨id, .platformDebit⟩ + w.moves.count ⟨id, .platformShortfall⟩

def customerMoves (w : World) (id : ObjectId) : ℕ := w.moves.count ⟨id, .customerCredit⟩

/-- At most one movement of each kind, and its ledger key is taken. -/
structure MovesInv (w : World) : Prop where
  customer_le : ∀ id, customerMoves w id ≤ 1
  customer_key : ∀ id, 0 < customerMoves w id → ¬ keyFree w.db (some (w.customerKey id))
  platform_le : ∀ id, platformMoves w id ≤ 1
  platform_key : ∀ id, 0 < platformMoves w id → ¬ keyFree w.db (some (w.platformKey id))

theorem not_keyFree_append {db db' : Db} {rows : List LedgerEntry} {key : IdempotencyKey}
    (h : db'.ledger = db.ledger ++ rows) (hkey : ¬ keyFree db (some key)) :
    ¬ keyFree db' (some key) := by
  intro hfree
  apply hkey
  intro row hrow
  exact hfree row (by rw [h]; exact List.mem_append_left rows hrow)

theorem not_keyFree_of_keyed {db db' : Db} {key : IdempotencyKey} (h : World.Keyed db db' key) :
    ¬ keyFree db' (some key) := by
  obtain ⟨row, hledger, hrow⟩ := h.ledger
  intro hfree
  exact hfree row (by rw [hledger]; exact List.mem_append_right _ (List.mem_singleton_self row)) hrow

section Moved

variable {w : World} {db : Db} {id : ObjectId} {kind : MoveKind}

theorem customerMoves_moved (other : ObjectId) :
    customerMoves (w.moved db id kind) other
      = customerMoves w other + if id = other ∧ kind = .customerCredit then 1 else 0 := by
  unfold customerMoves moved
  rw [List.count_append, List.count_singleton]
  by_cases h : id = other ∧ kind = .customerCredit
  · rw [if_pos h, h.1, h.2, if_pos (beq_self_eq_true _)]
  · rw [if_neg h, if_neg]
    intro heq
    have hmove := eq_of_beq heq
    exact h ⟨congrArg Move.allocationId hmove, congrArg Move.kind hmove⟩

theorem platformMoves_moved (other : ObjectId) :
    platformMoves (w.moved db id kind) other
      = platformMoves w other
        + if id = other ∧ (kind = .platformDebit ∨ kind = .platformShortfall) then 1 else 0 := by
  unfold platformMoves moved
  rw [List.count_append, List.count_append, List.count_singleton, List.count_singleton]
  by_cases hid : id = other
  · subst hid
    cases kind <;> simp <;> omega
  · have hne : ∀ k, ((⟨id, kind⟩ : Move) == ⟨other, k⟩) = false := by
      intro k
      simp [hid]
    have hno : ¬ (id = other ∧ (kind = .platformDebit ∨ kind = .platformShortfall)) :=
      fun h => hid h.1
    rw [hne, hne, if_neg hno]
    simp

theorem MovesInv.credit (h : MovesInv w) (hfree : keyFree w.db (some (w.customerKey id)))
    (hkeyed : World.Keyed w.db db (w.customerKey id)) :
    MovesInv (w.moved db id .customerCredit) := by
  obtain ⟨row, hledger, -⟩ := hkeyed.ledger
  have hzero : customerMoves w id = 0 := by
    by_contra hpos
    exact h.customer_key id (pos_of_ne_zero hpos) hfree
  refine ⟨fun other => ?_, fun other hpos => ?_, fun other => ?_, fun other hpos => ?_⟩
  · rw [customerMoves_moved]
    by_cases hid : id = other
    · subst hid
      rw [hzero, if_pos ⟨rfl, rfl⟩]
    · rw [if_neg (fun h => hid h.1)]
      exact h.customer_le other
  · rw [customerMoves_moved] at hpos
    by_cases hid : id = other
    · subst hid
      exact not_keyFree_of_keyed hkeyed
    · rw [if_neg (fun h => hid h.1)] at hpos
      exact not_keyFree_append hledger (h.customer_key other hpos)
  · rw [platformMoves_moved, if_neg (by rintro ⟨-, h | h⟩ <;> cases h)]
    exact h.platform_le other
  · rw [platformMoves_moved, if_neg (by rintro ⟨-, h | h⟩ <;> cases h)] at hpos
    exact not_keyFree_append hledger (h.platform_key other hpos)

theorem MovesInv.debit (h : MovesInv w) (hfree : keyFree w.db (some (w.platformKey id)))
    (hkeyed : World.Keyed w.db db (w.platformKey id))
    (hkind : kind = .platformDebit ∨ kind = .platformShortfall) :
    MovesInv (w.moved db id kind) := by
  obtain ⟨row, hledger, -⟩ := hkeyed.ledger
  have hzero : platformMoves w id = 0 := by
    by_contra hpos
    exact h.platform_key id (pos_of_ne_zero hpos) hfree
  have hcustomer : ∀ other, ¬ (id = other ∧ kind = .customerCredit) := by
    rintro other ⟨-, rfl⟩
    rcases hkind with h | h <;> cases h
  refine ⟨fun other => ?_, fun other hpos => ?_, fun other => ?_, fun other hpos => ?_⟩
  · rw [customerMoves_moved, if_neg (hcustomer other)]
    exact h.customer_le other
  · rw [customerMoves_moved, if_neg (hcustomer other)] at hpos
    exact not_keyFree_append hledger (h.customer_key other hpos)
  · rw [platformMoves_moved]
    by_cases hid : id = other
    · subst hid
      rw [hzero, if_pos ⟨rfl, hkind⟩]
    · rw [if_neg (fun h => hid h.1)]
      exact h.platform_le other
  · rw [platformMoves_moved] at hpos
    by_cases hid : id = other
    · subst hid
      exact not_keyFree_of_keyed hkeyed
    · rw [if_neg (fun h => hid h.1)] at hpos
      exact not_keyFree_append hledger (h.platform_key other hpos)

end Moved

theorem MovesInv.congr {w w' : World} (h : MovesInv w) (hmoves : w'.moves = w.moves)
    (hid : w'.record.id = w.record.id) (rows : List LedgerEntry)
    (hledger : w'.db.ledger = w.db.ledger ++ rows) : MovesInv w' := by
  have hcustomer : ∀ id, customerMoves w' id = customerMoves w id := by
    intro id
    rw [customerMoves, hmoves, customerMoves]
  have hplatform : ∀ id, platformMoves w' id = platformMoves w id := by
    intro id
    rw [platformMoves, hmoves, platformMoves]
  refine ⟨fun id => ?_, fun id hpos => ?_, fun id => ?_, fun id hpos => ?_⟩
  · rw [hcustomer]
    exact h.customer_le id
  · rw [hcustomer] at hpos
    rw [customerKey, hid]
    exact not_keyFree_append hledger (h.customer_key id hpos)
  · rw [hplatform]
    exact h.platform_le id
  · rw [hplatform] at hpos
    rw [platformKey, hid]
    exact not_keyFree_append hledger (h.platform_key id hpos)

/-! ## Shares -/

def shares (w : World) : List (RefundSource × ℤ) :=
  w.record.refund.allocations.rows.map (fun a => (a.source, a.amount))

def shareOf (source : RefundSource) (l : List (RefundSource × ℤ)) : ℤ :=
  ((l.filter (fun p => decide (p.1 = source))).map Prod.snd).sum

def gatewayShares (l : List (RefundSource × ℤ)) : ℕ := l.countP (fun p => decide (p.1 = .gateway))

section Shares

variable (source : RefundSource) (l l' : List (RefundSource × ℤ))

theorem shareOf_append : shareOf source (l ++ l') = shareOf source l + shareOf source l' := by
  simp only [shareOf, List.filter_append, List.map_append, List.sum_append]

theorem gatewayShares_append : gatewayShares (l ++ l') = gatewayShares l + gatewayShares l' :=
  List.countP_append

theorem shareOf_add : shareOf .wallet l + shareOf .gateway l = (l.map Prod.snd).sum := by
  induction l with
  | nil => rfl
  | cons p l ih =>
    obtain ⟨s, a⟩ := p
    have hcons : ∀ t, shareOf t ((s, a) :: l) = (if s = t then a else 0) + shareOf t l := by
      intro t
      by_cases h : s = t
      · simp [shareOf, h]
      · simp [shareOf, h]
    rw [hcons, hcons, List.map_cons, List.sum_cons, ← ih]
    cases s with
    | wallet | gateway => simp; omega

end Shares

variable {w : World}

theorem shares_mapAllocations {f : Allocation → Allocation} {hf : ∀ a, (f a).id = a.id}
    (hshare : ∀ a, ((f a).source, (f a).amount) = (a.source, a.amount)) {refund : Refund}
    (hr : refund.allocations = (w.record.refund.mapAllocations f hf).allocations) :
    shares (w.withRefund refund) = shares w := by
  unfold shares
  rw [withRefund, hr, Refund.mapAllocations, map, List.map_map]
  exact List.map_congr_left (fun a _ => hshare a)

theorem shares_updateAllocation (w : World) (id : ObjectId) (f : Allocation → Allocation)
    (hf : ∀ a, (f a).id = a.id) (hshare : ∀ a, ((f a).source, (f a).amount) = (a.source, a.amount)) :
    shares (w.updateAllocation id f hf) = shares w := by
  refine shares_mapAllocations (fun a => ?_) rfl
  split
  · exact hshare a
  · rfl

theorem shares_mapSeen {seen : Refund} (f : Allocation → Allocation → Allocation)
    (hf : ∀ a s, (f a s).id = a.id)
    (hshare : ∀ a s, ((f a s).source, (f a s).amount) = (a.source, a.amount)) {refund : Refund}
    (hr : refund.allocations = (w.record.refund.mapSeen seen f hf).allocations) :
    shares (w.withRefund refund) = shares w := by
  refine shares_mapAllocations (fun a => ?_) hr
  cases seen.allocations.get? a.id with
  | none => rfl
  | some s => exact hshare a s

theorem rows_addAllocations (r : Refund) (ps : List PlannedAllocation) :
    (r.addAllocations ps).allocations.rows.map (fun a => (a.source, a.amount))
      = r.allocations.rows.map (fun a => (a.source, a.amount))
        ++ ps.map (fun p => (p.source, p.amount)) := by
  unfold Refund.addAllocations
  generalize r.allocations = t
  induction ps generalizing t with
  | nil => simp
  | cons p ps ih =>
    have hfresh : (Allocation.planned t.freshKey p).id ∉ t.rows.map Allocation.id :=
      t.freshKey_notMem
    rw [List.foldl_cons, ih, rows_insert hfresh, List.map_append, List.map_cons, List.append_assoc]
    rfl

/-! ## What the customer paid -/

/-- The charges of an order and what was captured of them. -/
structure PlanInv (c : PaymentMode × ℤ × ℤ) (captured : Prop) (l : List (RefundSource × ℤ)) :
    Prop where
  gateway : gatewayShares l ≤ 1
  wallet_le : shareOf .wallet l ≤ c.2.1
  gateway_le : (captured → shareOf .gateway l ≤ c.2.2) ∧ (¬ captured → shareOf .gateway l ≤ 0)

variable {c : PaymentMode × ℤ × ℤ}

theorem PlanInv.mono (hc : 0 ≤ c.2.2) {p q : Prop} (hpq : p → q) {l : List (RefundSource × ℤ)}
    (h : PlanInv c p l) : PlanInv c q l := by
  refine ⟨h.gateway, h.wallet_le, fun _ => ?_, fun hq => h.gateway_le.2 (fun hp => hq (hpq hp))⟩
  by_cases hp : p
  · exact h.gateway_le.1 hp
  · exact (h.gateway_le.2 hp).trans hc

theorem planInv_parts {captured p q : Prop} [Decidable p] [Decidable q] {a b : ℤ}
    {d : RefundDestination} (hc : 0 ≤ c.2.1 ∧ 0 ≤ c.2.2) (ha : a ≤ c.2.1) (hb : b ≤ c.2.2)
    (hq : q → captured) :
    PlanInv c captured
      (((if p then [(⟨.wallet, a, .wallet⟩ : PlannedAllocation)] else []) ++
        (if q then [(⟨.gateway, b, d⟩ : PlannedAllocation)] else [])).map
          (fun x : PlannedAllocation => (x.source, x.amount))) := by
  refine ⟨?_, ?_, fun _ => ?_, fun hno => ?_⟩
  · by_cases hp : p <;> by_cases hq' : q <;> simp [gatewayShares, hp, hq']
  · by_cases hp : p <;> by_cases hq' : q <;> simp [shareOf, hp, hq', ha, hc.1]
  · by_cases hp : p <;> by_cases hq' : q <;> simp [shareOf, hp, hq', hb, hc.2]
  · have hnot : ¬ q := fun h => hno (hq h)
    by_cases hp : p <;> simp [shareOf, hp, hnot]

theorem gatewayShare_le_charged (order : Order) (policy : CancellationPolicy)
    (stage : Option CancellationStage) (waiveDeductions : Bool)
    (hg : 0 ≤ order.paymentBreakdown.grandTotal) :
    gatewayShare order policy stage waiveDeductions ≤ order.paymentBreakdown.grandTotal := by
  refine (gatewayShare_le order policy stage waiveDeductions).trans ?_
  unfold paidGateway
  split
  · exact le_refl _
  · exact hg

theorem planInv_computeRefundPlan (order : Order) (policy : CancellationPolicy)
    (stage : Option CancellationStage) (waiveDeductions : Bool) (hw : 0 ≤ paidWallet order)
    (hg : 0 ≤ order.paymentBreakdown.grandTotal) :
    PlanInv (charged order) (isGatewayPaymentCaptured order = true)
      ((computeRefundPlan order policy stage waiveDeductions).allocations.map
        (fun p => (p.source, p.amount))) := by
  rw [computeRefundPlan_allocations]
  exact planInv_parts ⟨hw, hg⟩ (walletShare_le order policy stage waiveDeductions)
    (gatewayShare_le_charged order policy stage waiveDeductions hg)
    (captured_of_gatewayShare_pos order policy stage waiveDeductions)

theorem gatewayAmount_le {order : Order} {policy : CancellationPolicy}
    {stage : Option CancellationStage} {waiveDeductions : Bool} {p : PlannedAllocation}
    (hg : 0 ≤ order.paymentBreakdown.grandTotal)
    (hp : p ∈ (computeRefundPlan order policy stage waiveDeductions).allocations)
    (hsource : p.source = .gateway) : p.amount ≤ order.paymentBreakdown.grandTotal := by
  rw [computeRefundPlan_allocations] at hp
  rcases List.mem_append.mp hp with hp | hp
  · split at hp
    · rw [List.mem_singleton.mp hp] at hsource
      cases hsource
    · exact absurd hp List.not_mem_nil
  · split at hp
    · rw [List.mem_singleton.mp hp]
      exact gatewayShare_le_charged order policy stage waiveDeductions hg
    · exact absurd hp List.not_mem_nil

/-! ## The invariant -/

/-- The invariant of the engine's money, for an order that was charged `c`. -/
structure MoneyInv (c : PaymentMode × ℤ × ℤ) (w : World) : Prop where
  nonneg : 0 ≤ c.2.1 ∧ 0 ≤ c.2.2
  order : ∃ o, w.order? = some o ∧ charged o = c ∧
    (isGatewayPaymentCaptured o = true → w.capturedPayments ≠ [])
  moves : MovesInv w
  plan : PlanInv c (w.capturedPayments ≠ []) (shares w)

section Frame

variable {c : PaymentMode × ℤ × ℤ} {w w' : World}

/-- A write that leaves the stores, the movements, the payments and the shares alone. -/
theorem MoneyInv.congr (h : MoneyInv c w) (hdb : w'.db = w.db)
    (hid : w'.record.id = w.record.id) (horder : w'.record.order = w.record.order)
    (hmoves : w'.moves = w.moves) (hpayments : w'.capturedPayments = w.capturedPayments)
    (hshares : shares w' = shares w) : MoneyInv c w' := by
  refine ⟨h.nonneg, ?_, ?_, ?_⟩
  · rw [order?, hdb, horder, hpayments]
    exact h.order
  · refine h.moves.congr hmoves hid [] ?_
    rw [hdb, List.append_nil]
  · rw [hpayments, hshares]
    exact h.plan

theorem MoneyInv.withRefund (h : MoneyInv c w) {refund : Refund}
    (hshares : shares (w.withRefund refund) = shares w) : MoneyInv c (w.withRefund refund) :=
  h.congr rfl rfl rfl rfl rfl hshares

theorem MoneyInv.updateAllocation (h : MoneyInv c w) (id : ObjectId)
    (f : Allocation → Allocation) (hf : ∀ a, (f a).id = a.id)
    (hshare : ∀ a, ((f a).source, (f a).amount) = (a.source, a.amount)) :
    MoneyInv c (w.updateAllocation id f hf) :=
  h.withRefund (shares_updateAllocation w id f hf hshare)

theorem MoneyInv.markClaimed (h : MoneyInv c w) (id : ObjectId) : MoneyInv c (w.markClaimed id) :=
  h.updateAllocation id (fun a => a.claimed w.now) (fun a => a.claimed_id w.now) (fun _ => rfl)

theorem MoneyInv.markCompleted (h : MoneyInv c w) (id : ObjectId) :
    MoneyInv c (w.markCompleted id) :=
  h.updateAllocation id (fun a => a.completed w.now) (fun a => a.completed_id w.now) (fun _ => rfl)

theorem MoneyInv.updateOrder (h : MoneyInv c w) {f : Order → Order} (hid : ∀ o, (f o).id = o.id)
    (hcharged : ∀ o, charged (f o) = charged o)
    (hcaptured : ∀ o, isGatewayPaymentCaptured (f o) = true → isGatewayPaymentCaptured o = true) :
    MoneyInv c (w.updateOrder f) := by
  obtain ⟨o, hget, hcharge, hcap⟩ := h.order
  have hkey : o.id = w.record.order := key_of_get? hget
  unfold World.updateOrder
  rw [hget]
  refine ⟨h.nonneg, ⟨f o, ?_, (hcharged o).trans hcharge, fun hf => hcap (hcaptured o hf)⟩, ?_,
    h.plan⟩
  · have hold : w.db.orders.get? (f o).id = some o := by
      rw [hid, hkey]
      exact hget
    have hself := get?_set_self hold
    rw [hid, hkey] at hself
    exact hself
  · exact h.moves.congr rfl rfl [] (List.append_nil _).symm

theorem MoneyInv.markOrderGatewayRefunded (h : MoneyInv c w) :
    MoneyInv c w.markOrderGatewayRefunded := by
  refine h.updateOrder (fun _ => rfl) (fun _ => rfl) (fun o hcap => ?_)
  unfold isGatewayPaymentCaptured at hcap ⊢
  simp only [decide_eq_true_eq, reduceCtorEq, or_false] at hcap ⊢
  exact ⟨hcap.1, .inl hcap.2⟩

variable {order : Order} {allocation : Allocation}

theorem MoneyInv.debitPlatform (h : MoneyInv c w)
    (hok : w.debitPlatformForGatewayRefund order allocation = .ok w') : MoneyInv c w' := by
  rcases debitPlatform_cases hok with ⟨-, rfl⟩ | ⟨db, kind, hfree, hkind, hkeyed, rfl⟩
  · exact h
  · refine ⟨h.nonneg, ?_, h.moves.debit hfree hkeyed hkind, h.plan⟩
    rw [order?, moved, hkeyed.orders]
    exact h.order

theorem MoneyInv.creditCustomer (h : MoneyInv c w)
    (hok : w.creditCustomerWallet order allocation = .ok w') : MoneyInv c w' := by
  rcases creditCustomer_cases hok with ⟨-, rfl⟩ | ⟨db, hfree, hkeyed, rfl⟩
  · exact h
  · refine ⟨h.nonneg, ?_, h.moves.credit hfree hkeyed, h.plan⟩
    rw [order?, moved, hkeyed.orders]
    exact h.order

theorem MoneyInv.walletTransaction (h : MoneyInv c w)
    (hok : w.walletTransaction order allocation = .ok w') : MoneyInv c w' := by
  rcases walletTransaction_cases hok with rfl | ⟨w₁, w₂, -, hplatform, hcredit, rfl⟩
  · exact h
  · have hclaimed := h.markClaimed allocation.id
    have hpaid : MoneyInv c w₁ := by
      rcases debitGatewaySource_cases hplatform with ⟨-, rfl⟩ | ⟨-, v, hdebit, rfl⟩
      · exact hclaimed
      · exact (hclaimed.debitPlatform hdebit).markOrderGatewayRefunded
    exact (hpaid.creditCustomer hcredit).markCompleted allocation.id

theorem MoneyInv.completeTransaction (h : MoneyInv c w)
    (hok : w.completeTransaction order allocation = .ok w') : MoneyInv c w' := by
  rcases completeTransaction_cases hok with rfl | ⟨w₁, hdebit, rfl⟩
  · exact h
  · have hdone := h.markCompleted allocation.id
    exact (hdone.debitPlatform hdebit).markOrderGatewayRefunded

theorem MoneyInv.addAllocations (h : MoneyInv c w) (ps : List PlannedAllocation) {refund : Refund}
    (hr : refund.allocations = (w.record.refund.addAllocations ps).allocations)
    (hplan : PlanInv c (w.capturedPayments ≠ [])
      (shares w ++ ps.map (fun p => (p.source, p.amount)))) :
    MoneyInv c (w.withRefund refund) := by
  refine ⟨h.nonneg, h.order, h.moves.congr rfl rfl [] (List.append_nil _).symm, ?_⟩
  have hshares : shares (w.withRefund refund)
      = shares w ++ ps.map (fun p => (p.source, p.amount)) := by
    unfold shares
    rw [World.withRefund, hr, rows_addAllocations]
  rw [hshares]
  exact hplan

theorem MoneyInv.freezePlan (h : MoneyInv c w) {plan : RefundPlan}
    (hplan : PlanInv c (w.capturedPayments ≠ [])
      (plan.allocations.map (fun p => (p.source, p.amount)))) :
    MoneyInv c (w.freezePlan plan).2 := by
  unfold World.freezePlan
  split
  next hfree =>
    refine h.addAllocations plan.allocations rfl ?_
    have hnil : shares w = [] := by
      rw [shares, hfree.1, List.map_nil]
    rw [hnil, List.nil_append]
    exact hplan
  next => exact h

/-- A late capture is added to a record with no gateway share, so the new share is the only
one. -/
theorem MoneyInv.pushLateCapture (h : MoneyInv c w) {gateway : PlannedAllocation}
    (paidGateway seenAmount : ℤ) (hsource : gateway.source = .gateway)
    (hle : gateway.amount ≤ c.2.2) (hcaptured : w.capturedPayments ≠ []) :
    MoneyInv c (w.pushLateCapture gateway paidGateway seenAmount).2 := by
  unfold World.pushLateCapture
  split
  next hnone =>
    refine h.addAllocations [gateway] rfl ?_
    have hsources : ∀ p ∈ shares w, p.1 ≠ .gateway := by
      intro p hp
      obtain ⟨a, ha, rfl⟩ := List.mem_map.mp hp
      exact hnone a ha
    have hzero : shareOf .gateway (shares w) = 0 := by
      rw [shareOf, List.filter_eq_nil_iff.mpr]
      · rfl
      · intro p hp
        simpa using hsources p hp
    have hcount : gatewayShares (shares w) = 0 := by
      rw [gatewayShares, List.countP_eq_zero]
      intro p hp
      simpa using hsources p hp
    refine ⟨?_, ?_, fun _ => ?_, fun hno => absurd hcaptured hno⟩
    · rw [gatewayShares_append, hcount]
      simp [gatewayShares, hsource]
    · rw [shareOf_append]
      have hnew : shareOf .wallet [(gateway.source, gateway.amount)] = 0 := by
        simp [shareOf, hsource]
      rw [List.map_singleton, hnew, add_zero]
      exact h.plan.wallet_le
    · rw [shareOf_append, hzero, zero_add]
      simpa [shareOf, hsource] using hle
  next => exact h

theorem MoneyInv.handleOnlineOrderFinance (h : MoneyInv c w) (hmode : c.1 = .online)
    (hcaptured : w.capturedPayments ≠ []) {db : Db}
    (hok : Finance.handleOnlineOrderFinance w.db w.record.order = .ok (db, order)) :
    MoneyInv c { w with db := db } := by
  obtain ⟨o, hget, ⟨-, rfl⟩ | ⟨-, -, -, rfl⟩⟩ := handleOnlineOrderFinance_eq_ok.mp ⟨order, hok⟩
  · exact h
  · obtain ⟨o', hget', hcharge, -⟩ := h.order
    obtain rfl : o = o' := Option.some.inj (hget.symm.trans hget')
    have hkey : o.id = w.record.order := key_of_get? hget
    have honline : o.paymentMode = .online := by
      rw [← hmode, ← hcharge]
      rfl
    refine ⟨h.nonneg, ⟨o.captured, ?_, ?_, fun _ => hcaptured⟩, ?_, h.plan⟩
    · have hold : w.db.orders.get? o.captured.id = some o := by
        rw [← hget, ← hkey]
        rfl
      have hself := get?_set_self hold
      rw [show o.captured.id = w.record.order from hkey] at hself
      exact hself
    · rw [← hcharge]
      simp [charged, paidWallet, orderCharges, Order.captured, honline]
    · exact h.moves.congr rfl rfl _ rfl

end Frame

/-! ## The operations -/

/-- What the operations that add shares or capture the order need. -/
def MoneyOk (c : PaymentMode × ℤ × ℤ) (w : World) : Op → Prop
  | .db (.freezePlan plan) =>
    PlanInv c (w.capturedPayments ≠ []) (plan.allocations.map (fun p => (p.source, p.amount)))
  | .db (.pushLateCapture gateway _ _) =>
    gateway.source = .gateway ∧ gateway.amount ≤ c.2.2 ∧ w.capturedPayments ≠ []
  | .db .handleOnlineOrderFinance => c.1 = .online ∧ w.capturedPayments ≠ []
  | _ => True

def quiet : Op → Prop
  | .db (.freezePlan _) => False
  | .db (.pushLateCapture _ _ _) => False
  | .db .handleOnlineOrderFinance => False
  | _ => True

section Operations

variable {c : PaymentMode × ℤ × ℤ} {w : World}

variable {r : Except ServiceError World}

theorem MoneyInv.commit (h : MoneyInv c w) (hok : ∀ w', r = .ok w' → MoneyInv c w') :
    MoneyInv c (Cancellation.commit w r).2 := by
  cases r with
  | ok w' => exact hok w' rfl
  | error e => exact h

theorem MoneyInv.runDb (h : MoneyInv c w) (op : DbOp) (hop : MoneyOk c w (.db op)) :
    MoneyInv c (op.run w).2 := by
  cases op with
  | findRecord | findOrder | findCapturedPaymentForOrder => exact h
  | holdForInspection | awaitPaymentConfirmation => exact h.withRefund rfl
  | freezePlan plan => exact h.freezePlan hop
  | markCancellationReversalApplied =>
    exact h.updateOrder (fun _ => rfl) (fun _ => rfl) (fun _ hcap => hcap)
  | setAllocation id fields =>
    exact h.updateAllocation id (fun a => a.set fields) (fun a => a.set_id fields) (fun _ => rfl)
  | walletTransaction order allocation => exact h.commit (fun _ => h.walletTransaction)
  | completeTransaction order allocation => exact h.commit (fun _ => h.completeTransaction)
  | setRefundStatus previous next lastError =>
    simp only [DbOp.run, World.setRefundStatus]
    split
    · exact h.withRefund rfl
    · exact h
  | saveReset seen =>
    refine h.withRefund
      (shares_mapSeen resetFrom resetFrom_id (fun a s => ?_) rfl)
    unfold resetFrom
    split <;> rfl
  | saveResolved seen note =>
    refine h.congr rfl rfl rfl rfl rfl
      (shares_mapSeen (fun a s => a.resolvedFrom s note w.now)
        (fun a s => a.resolvedFrom_id s note w.now) (fun a s => ?_) rfl)
    unfold resolvedFrom
    split <;> rfl
  | pushLateCapture gateway paidGateway seenAmount =>
    exact h.pushLateCapture paidGateway seenAmount hop.1 hop.2.1 hop.2.2
  | capturePayment gatewayPaymentId =>
    obtain ⟨o, hget, hcharge, -⟩ := h.order
    have hne : (w.capturePayment gatewayPaymentId).capturedPayments ≠ [] :=
      List.cons_ne_nil _ _
    exact ⟨h.nonneg, ⟨o, hget, hcharge, fun _ => hne⟩, h.moves.congr rfl rfl []
      (List.append_nil _).symm, h.plan.mono h.nonneg.2 (fun _ => hne)⟩
  | handleOnlineOrderFinance =>
    refine h.commit (fun w' hok => ?_)
    cases hfin : Finance.handleOnlineOrderFinance w.db w.record.order with
    | error e =>
      rw [hfin] at hok
      cases hok
    | ok r =>
      rw [hfin] at hok
      cases hok
      exact h.handleOnlineOrderFinance hop.1 hop.2 hfin

theorem MoneyInv.hangUp (h : MoneyInv c w) (i : ℕ) : MoneyInv c (w.hangUp i) :=
  h.congr rfl rfl rfl rfl rfl rfl

theorem MoneyInv.performOp (h : MoneyInv c w) {i : ℕ} {op : Op} {outcome : Outcome}
    (hop : MoneyOk c w op) {r : Except RefundError op.Reply} {w' : World}
    (hstep : Cancellation.performOp i op outcome w = some (r, w')) : MoneyInv c w' := by
  cases op with
  | db op =>
    rcases performOp_db hstep with hrun | ⟨e, -, rfl | rfl⟩
    · rw [show w' = (op.run w).2 from congrArg Prod.snd hrun]
      exact h.runDb op hop
    · exact h.runDb op hop
    · exact h
  | claimAllocation id =>
    have hclaimed := h.markClaimed id
    rcases performOp_claimAllocation hstep with ⟨-, -, rfl⟩ | ⟨-, rfl | ⟨-, rfl⟩⟩
    · exact hclaimed.congr rfl rfl rfl rfl rfl rfl
    · exact h
    · exact hclaimed
  | findRefunds gatewayPaymentId =>
    obtain ⟨call, -, ⟨ids, -, -, ⟨-, rfl⟩ | ⟨-, rfl⟩⟩ | ⟨e, -, rfl⟩⟩ :=
      performOp_findRefunds hstep
    · exact h.hangUp i
    · exact h.congr rfl rfl rfl rfl rfl rfl
    · exact h.hangUp i
  | sendRefund gatewayPaymentId allocation =>
    obtain ⟨call, -, ⟨status, refund, -, hsent⟩ | ⟨e, -, rfl⟩⟩ := performOp_sendRefund hstep
    · rw [show w' = (w.acceptRefund i gatewayPaymentId allocation status).2 from
        congrArg Prod.snd hsent]
      exact h.congr rfl rfl rfl rfl rfl rfl
    · exact h.hangUp i
  | awaitRefund =>
    obtain ⟨-, rfl⟩ := performOp_awaitRefund hstep
    exact h.hangUp i
  | getRefundStatus gatewayRefundId =>
    rw [performOp_asks (show asks (.getRefundStatus gatewayRefundId) from trivial) hstep]
    exact h
  | getCancellationPolicy =>
    rw [performOp_asks (show asks (.getCancellationPolicy) from trivial) hstep]
    exact h
  | reconcileOrderPaymentStatus =>
    rw [performOp_asks (show asks (.reconcileOrderPaymentStatus) from trivial) hstep]
    exact h
  | dateNow =>
    rw [performOp_asks (show asks (.dateNow) from trivial) hstep]
    exact h

theorem MoneyInv.outside (h : MoneyInv c w) {e : Event} {w' : World}
    (hstep : outside e w = some w') : MoneyInv c w' := by
  cases e with
  | elsewhere db =>
    simp only [World.outside] at hstep
    split at hstep
    next hok =>
      cases hstep
      obtain ⟨o, hget, hcharge, -⟩ := h.order
      unfold elsewhere at hok
      rw [hget] at hok
      cases hget' : db.orders.get? w.record.order with
      | none =>
        rw [hget'] at hok
        simp at hok
      | some o' =>
        rw [hget'] at hok
        simp only [Bool.and_eq_true, decide_eq_true_eq, Bool.or_eq_true,
          Bool.not_eq_true', List.isEmpty_eq_false_iff] at hok
        obtain ⟨⟨hbegins, -⟩, hcharge', hcaptured⟩ := hok
        obtain ⟨rows, hrows⟩ := List.isPrefixOf_iff_prefix.mp hbegins
        refine ⟨h.nonneg, ⟨o', hget', hcharge'.trans hcharge, fun hcap => ?_⟩,
          h.moves.congr rfl rfl rows hrows.symm, h.plan⟩
        rcases hcaptured with hno | hne
        · rw [hcap] at hno
          cases hno
        · exact hne
    next => cases hstep
  | inspected | settled | tick =>
    cases hstep
    exact h.congr rfl rfl rfl rfl rfl rfl
  | crash task =>
    cases hstep
    exact h.hangUp task

theorem captured_commit (hw : w.capturedPayments ≠ []) (hok : ∀ w', r = .ok w' → w'.books = w.books) :
    (commit w r).2.capturedPayments ≠ [] := by
  cases r with
  | ok w' =>
    have hsame : w'.capturedPayments = w.capturedPayments := congrArg Prod.fst (hok w' rfl)
    change w'.capturedPayments ≠ []
    rw [hsame]
    exact hw
  | error e => exact hw

theorem captured_runDb (hw : w.capturedPayments ≠ []) (op : DbOp) :
    (op.run w).2.capturedPayments ≠ [] := by
  cases op with
  | walletTransaction order allocation =>
    exact captured_commit hw (fun _ => books_walletTransaction)
  | completeTransaction order allocation =>
    exact captured_commit hw (fun _ => books_completeTransaction)
  | handleOnlineOrderFinance =>
    refine captured_commit hw (fun w' hok => ?_)
    cases hfin : Finance.handleOnlineOrderFinance w.db w.record.order with
    | error e =>
      rw [hfin] at hok
      cases hok
    | ok r =>
      rw [hfin] at hok
      cases hok
      rfl
  | markCancellationReversalApplied =>
    have hsame := congrArg Prod.fst (books_updateOrder w (fun order =>
      { order with
        financeFlags := { order.financeFlags with cancellationReversalApplied := true } }))
    change (w.updateOrder _).capturedPayments ≠ []
    rw [show (w.updateOrder _).capturedPayments = w.capturedPayments from hsame]
    exact hw
  | freezePlan plan =>
    simp only [DbOp.run, World.freezePlan]
    split
    · exact hw
    · exact hw
  | setRefundStatus previous next lastError =>
    simp only [DbOp.run, World.setRefundStatus]
    split
    · exact hw
    · exact hw
  | pushLateCapture gateway paidGateway seenAmount =>
    simp only [DbOp.run, World.pushLateCapture]
    split
    · exact hw
    · exact hw
  | capturePayment gatewayPaymentId => exact List.cons_ne_nil _ _
  | _ => exact hw

theorem captured_performOp (hw : w.capturedPayments ≠ []) {i : ℕ} {op : Op} {outcome : Outcome}
    {r : Except RefundError op.Reply} {w' : World}
    (hstep : performOp i op outcome w = some (r, w')) : w'.capturedPayments ≠ [] := by
  cases op with
  | db op =>
    rcases performOp_db hstep with hrun | ⟨e, -, rfl | rfl⟩
    · rw [show w' = (op.run w).2 from congrArg Prod.snd hrun]
      exact captured_runDb hw op
    · exact captured_runDb hw op
    · exact hw
  | claimAllocation id =>
    rcases performOp_claimAllocation hstep with ⟨-, -, rfl⟩ | ⟨-, rfl | ⟨-, rfl⟩⟩
    · exact hw
    · exact hw
    · exact hw
  | findRefunds gatewayPaymentId =>
    obtain ⟨call, -, ⟨ids, -, -, ⟨-, rfl⟩ | ⟨-, rfl⟩⟩ | ⟨e, -, rfl⟩⟩ :=
      performOp_findRefunds hstep
    · exact hw
    · exact hw
    · exact hw
  | sendRefund gatewayPaymentId allocation =>
    obtain ⟨call, -, ⟨status, refund, -, hsent⟩ | ⟨e, -, rfl⟩⟩ := performOp_sendRefund hstep
    · rw [show w' = (w.acceptRefund i gatewayPaymentId allocation status).2 from
        congrArg Prod.snd hsent]
      exact hw
    · exact hw
  | awaitRefund =>
    obtain ⟨-, rfl⟩ := performOp_awaitRefund hstep
    exact hw
  | getRefundStatus gatewayRefundId =>
    rw [performOp_asks (show asks (.getRefundStatus gatewayRefundId) from trivial) hstep]
    exact hw
  | getCancellationPolicy =>
    rw [performOp_asks (show asks .getCancellationPolicy from trivial) hstep]
    exact hw
  | reconcileOrderPaymentStatus =>
    rw [performOp_asks (show asks .reconcileOrderPaymentStatus from trivial) hstep]
    exact hw
  | dateNow =>
    rw [performOp_asks (show asks .dateNow from trivial) hstep]
    exact hw

theorem captured_outside (hw : w.capturedPayments ≠ []) {e : Event} {w' : World}
    (hstep : outside e w = some w') : w'.capturedPayments ≠ [] := by
  cases e with
  | elsewhere db =>
    simp only [outside] at hstep
    split at hstep
    · cases hstep
      exact hw
    · cases hstep
  | _ =>
    cases hstep
    exact hw

end Operations

/-! ## The programs -/

/-- The contract of the engine's money. A task relies on a captured payment to stay
captured. -/
def moneyContract (maxGatewayAttempts : ℕ) (c : PaymentMode × ℤ × ℤ) :
    Contract (engine maxGatewayAttempts) where
  inv := MoneyInv c
  rely _ w w' := w.capturedPayments ≠ [] → w'.capturedPayments ≠ []

section Programs

variable {maxGatewayAttempts : ℕ} {c : PaymentMode × ℤ × ℤ} {i : ℕ}

/-- What a task knows of an order it has read. -/
def Knows (c : PaymentMode × ℤ × ℤ) (order : Order) (w : World) : Prop :=
  charged order = c ∧ (isGatewayPaymentCaptured order = true → w.capturedPayments ≠ [])

/-- What stays once it is known: it speaks of captured payments only. -/
def Stable (P : World → Prop) : Prop :=
  ∀ w w' : World, (w.capturedPayments ≠ [] → w'.capturedPayments ≠ []) → P w → P w'

theorem stable_knows (order : Order) : Stable (Knows c order) :=
  fun _ _ hcap h => ⟨h.1, fun h' => hcap (h.2 h')⟩

theorem stable_true : Stable (fun _ => True) := fun _ _ _ _ => trivial

/-- One operation, which needs what is known to meet its condition. -/
theorem sound_op (op : Op) {P : World → Prop} (hstable : Stable P)
    (hop : ∀ w, MoneyInv c w → P w → MoneyOk c w op) {Q : op.Reply → World → Prop}
    (hreply : ∀ w outcome a w', MoneyInv c w → P w' → performOp i op outcome w = some (.ok a, w') →
      Q a w') {w : World} (hP : P w) :
    (moneyContract maxGatewayAttempts c).Sound i Q (fun _ _ => True) (Prog.perform op) w := by
  refine Sound.perform (fun w' hrely hinv outcome _ r w'' hstep => ?_)
  have hP' : P w' := hstable w w' hrely hP
  have hP'' : P w'' := hstable w' w'' (fun hcap => captured_performOp hcap hstep) hP'
  refine ⟨hinv.performOp (hop w' hinv hP') hstep, fun j _ hcap => captured_performOp hcap hstep,
    fun a ha => ?_, fun _ _ => trivial⟩
  subst ha
  exact hreply w' outcome a w'' hinv hP'' hstep

theorem moneyOk_of_quiet (op : Op) (hop : quiet op) (w : World) : MoneyOk c w op := by
  unfold MoneyOk
  split
  · exact absurd hop id
  · exact absurd hop id
  · exact absurd hop id
  · trivial

/-- An operation that needs nothing keeps what is known. -/
theorem sound_quiet (op : Op) (hop : quiet op) {P : World → Prop} (hstable : Stable P) {w : World}
    (hP : P w) :
    (moneyContract maxGatewayAttempts c).Sound i (fun _ => P) (fun _ _ => True)
      (Prog.perform op) w :=
  sound_op op hstable (fun w _ _ => moneyOk_of_quiet op hop w) (fun _ _ _ _ _ h _ => h) hP

/-- A read of the order is a read of the charges, and of a captured payment if it shows one. -/
theorem sound_findOrder {P : World → Prop} (hstable : Stable P) {w : World} (hP : P w) :
    (moneyContract maxGatewayAttempts c).Sound i
      (fun o w => P w ∧ ∀ order, o = some order → Knows c order w) (fun _ _ => True)
      findOrder w := by
  refine sound_op (.db .findOrder) hstable
    (fun w _ _ => moneyOk_of_quiet (.db .findOrder) trivial w)
    (fun w outcome a w' hinv hP' hstep => ⟨hP', fun order ha => ?_⟩) hP
  subst ha
  rcases performOp_db hstep with hrun | ⟨e, he, -⟩
  · obtain ⟨o, hget, hcharge, hcap⟩ := hinv.order
    have hread : some order = w.order? := Except.ok.inj (congrArg Prod.fst hrun)
    have hw : w' = w := congrArg Prod.snd hrun
    obtain rfl : o = order := Option.some.inj (hget.symm.trans hread.symm)
    rw [hw]
    exact ⟨hcharge, hcap⟩
  · cases he

theorem sound_all {α : Type} {p : Engine α} (hp : p.All quiet) (w : World) :
    (moneyContract maxGatewayAttempts c).Keeps i p w :=
  Contract.sound_of_all (fun _ _ _ _ => trivial)
    (fun op hop (w : World) (hinv : MoneyInv c w) _ _ _ _ _ hstep =>
      ⟨hinv.performOp (moneyOk_of_quiet op hop w) hstep,
        fun _ _ hcap => captured_performOp hcap hstep, trivial⟩) hp trivial

theorem sound_freezeRefundPlan (hc : 0 ≤ c.2.1 ∧ 0 ≤ c.2.2) {record : CancellationRecord}
    {policy : CancellationPolicy} {order : Order} {w : World} (horder : Knows c order w) :
    (moneyContract maxGatewayAttempts c).Keeps i (freezeRefundPlan record policy order) w := by
  refine Sound.bind (sound_op (.db (.freezePlan _)) (stable_knows order)
    (fun w _ hknows => ?_)
    (fun _ _ _ _ _ _ _ => trivial) horder) (fun _ w _ => ?_)
  · obtain ⟨hcharge, hcap⟩ := hknows
    subst hcharge
    exact (planInv_computeRefundPlan order policy (planStage record) record.fullRefund hc.1
      hc.2).mono hc.2 hcap
  · exact Sound.bind
      (sound_quiet (.db .markCancellationReversalApplied) trivial stable_true trivial)
      (fun _ _ _ => trivial)

theorem sound_planRefund (hc : 0 ≤ c.2.1 ∧ 0 ≤ c.2.2) (record : CancellationRecord) (w : World) :
    (moneyContract maxGatewayAttempts c).Keeps i (planRefund record) w := by
  unfold planRefund
  refine Sound.bind (sound_quiet .getCancellationPolicy trivial stable_true trivial)
    (fun policy w _ => ?_)
  refine Sound.bind (sound_findOrder stable_true trivial) (fun o w ho => ?_)
  cases o with
  | none => trivial
  | some order =>
    dsimp only
    split
    · refine Sound.bind (sound_quiet .reconcileOrderPaymentStatus trivial stable_true trivial)
        (fun outcome w _ => ?_)
      refine Sound.bind (sound_findOrder stable_true trivial) (fun o w ho => ?_)
      cases o with
      | none => trivial
      | some order =>
        refine Sound.bind
          (sound_quiet .dateNow trivial (stable_knows order) (ho.2 order rfl))
          (fun now w hknows => ?_)
        split
        · exact Sound.bind
            (sound_quiet (.db (.awaitPaymentConfirmation _)) trivial stable_true trivial)
            (fun _ _ _ => trivial)
        · exact sound_freezeRefundPlan hc hknows
    · exact sound_freezeRefundPlan hc (ho.2 order rfl)

theorem quiet_of_routine {op : Op} (hop : routine op) : quiet op := by
  unfold quiet
  split
  · exact hop
  · exact hop
  · exact hop
  · trivial

theorem quiet_claimAndRefund (order : Order) (allocation : Allocation)
    (gatewayPaymentId : ObjectId) :
    (claimAndRefund order allocation gatewayPaymentId).All quiet := by
  open Prog in
  have hrefund : (refundPayment gatewayPaymentId allocation).All quiet :=
    All.bind (All.perform trivial) (fun _ => All.bind (All.perform trivial) (fun _ => All.ret))
  have hfind : (findOrRefund gatewayPaymentId allocation).All quiet := by
    refine All.bind (All.tryCatch (All.perform trivial) (fun e => All.ite All.throw All.throw))
      (fun refunds => ?_)
    split
    · exact All.ret
    · exact hrefund
  have hattempt : (refundAtGateway order allocation gatewayPaymentId).All quiet := by
    refine All.bind hfind (fun result => All.bind (All.perform trivial) (fun _ => ?_))
    exact All.ite (All.perform trivial) All.ret
  refine All.bind (All.perform trivial) (fun claimed => All.ite ?_ All.ret)
  exact All.tryCatch hattempt
    (fun e => All.bind (All.perform trivial) (fun _ => All.ite All.ret All.throw))

theorem sound_addLateCaptureAllocation (hc : 0 ≤ c.2.1 ∧ 0 ≤ c.2.2) (w : World) :
    (moneyContract maxGatewayAttempts c).Keeps i addLateCaptureAllocation w := by
  refine Sound.bind (sound_quiet .getCancellationPolicy trivial stable_true trivial)
    (fun policy w _ => ?_)
  refine Sound.bind (sound_quiet (.db .findRecord) trivial stable_true trivial)
    (fun record w _ => ?_)
  refine Sound.bind (sound_findOrder stable_true trivial) (fun o w ho => ?_)
  cases o with
  | none => trivial
  | some order =>
    dsimp only
    split
    · trivial
    next hcaptured =>
      split
      · trivial
      · split
        · trivial
        · split
          next => trivial
          next gateway hfind =>
            refine sound_op (.db (.pushLateCapture gateway _ _)) (stable_knows order)
              (fun w _ hknows => ?_) (fun _ _ _ _ _ _ _ => trivial) (ho.2 order rfl)
            obtain ⟨rfl, hcap⟩ := hknows
            have hsource : gateway.source = .gateway := by
              simpa using List.find?_some hfind
            have hmem := List.mem_of_find?_eq_some hfind
            have hcaptured' : isGatewayPaymentCaptured order = true := by
              simp only [Bool.or_eq_true, Bool.not_eq_true', not_or] at hcaptured
              simpa using hcaptured.1
            refine ⟨hsource, ?_, hcap hcaptured'⟩
            exact gatewayAmount_le hc.2 hmem hsource

theorem sound_captureOrderPayment (hmode : c.1 = .online) (gatewayPaymentId : Option ObjectId)
    (w : World) :
    (moneyContract maxGatewayAttempts c).Keeps i (captureOrderPayment gatewayPaymentId) w := by
  have hfirst : (moneyContract maxGatewayAttempts c).Sound i (fun _ w => w.capturedPayments ≠ [])
      (fun _ _ => True) (onDb (.capturePayment gatewayPaymentId)) w := by
    refine sound_op (.db (.capturePayment gatewayPaymentId)) stable_true
      (fun w _ _ => moneyOk_of_quiet (.db (.capturePayment gatewayPaymentId)) trivial w)
      (fun w outcome a w' _ _ hstep => ?_) trivial
    rcases performOp_db hstep with hrun | ⟨e, he, -⟩
    · rw [show w' = w.capturePayment gatewayPaymentId from congrArg Prod.snd hrun]
      exact List.cons_ne_nil _ _
    · cases he
  refine Sound.bind hfirst (fun _ w hcap => ?_)
  exact sound_op (.db .handleOnlineOrderFinance) (fun _ _ hmono h => hmono h)
    (fun w _ hcap => ⟨hmode, hcap⟩) (fun _ _ _ _ _ _ _ => trivial) hcap

theorem handles_money (hc : 0 ≤ c.2.1 ∧ 0 ≤ c.2.2) :
    Handles (moneyContract maxGatewayAttempts c) i (fun _ => True) (fun _ _ => True) where
  stable := fun _ _ _ _ => trivial
  known := fun _ _ _ _ _ _ => trivial
  read := fun _ _ _ _ => trivial
  routine := fun op hop w (hinv : MoneyInv c w) _ _ _ _ _ hstep =>
    ⟨hinv.performOp (moneyOk_of_quiet op (quiet_of_routine hop) w) hstep,
      fun _ _ hcap => captured_performOp hcap hstep, trivial⟩
  wallet := fun order allocation _ _ _ _ =>
    sound_quiet (.db (.walletTransaction order allocation)) trivial stable_true trivial
  attempt := fun order allocation gatewayPaymentId w _ _ _ =>
    sound_all (quiet_claimAndRefund order allocation gatewayPaymentId) w
  plan := fun record w _ => sound_planRefund hc record w
  late := fun w _ => sound_addLateCaptureAllocation hc w
  capture := fun gatewayPaymentId w (hinv : MoneyInv c w) _ hstart => by
    refine sound_captureOrderPayment ?_ gatewayPaymentId w
    obtain ⟨o, hget, hcharge, -⟩ := hinv.order
    have honline : o.paymentMode = .online := by
      have hany : (some o).any (fun o => decide (o.paymentMode = .online)) = true := hget ▸ hstart
      simpa using hany
    rw [← hcharge]
    exact honline

theorem lawful_money (hc : 0 ≤ c.2.1 ∧ 0 ≤ c.2.2) :
    (moneyContract maxGatewayAttempts c).Lawful where
  refl := fun _ _ hcap => hcap
  trans := fun _ _ _ _ h h' hcap => h' (h hcap)
  idle := fun _ _ _ _ h => h
  outside := fun _ _ _ hinv _ hstep =>
    ⟨MoneyInv.outside hinv hstep, fun _ hcap => captured_outside hcap hstep⟩
  entry := fun k _ _ hinv _ hstart => (handles_money hc).entry k hinv trivial hstart

end Programs

/-! ## Every rupee at most once -/

/-- A record as the cancellation services open it, for an order whose charges are not
negative and whose captures and online refunds go back to a captured payment. -/
structure Opened (w : World) : Prop where
  order : ∃ o, w.order? = some o ∧ 0 ≤ paidWallet o ∧ 0 ≤ o.paymentBreakdown.grandTotal ∧
    (isGatewayPaymentCaptured o = true ∨ o.financeFlags.onlineRefundApplied = true →
      w.capturedPayments ≠ []) ∧
    (w.record.refund = {} ∨ ∃ now, w.record.refund = externalRefund o now)
  moves : w.moves = []

/-- Each allocation was credited and debited at most once, one allocation at most is about
gateway money, and the allocations are within what the customer has paid. -/
structure MovesOnce (w : World) : Prop where
  credit : ∀ id, customerMoves w id ≤ 1
  debit : ∀ id, platformMoves w id ≤ 1
  gateway : (w.record.refund.allocations.rows.filter
    (fun a => decide (a.source = .gateway))).length ≤ 1
  total : ∃ order, w.order? = some order ∧
    w.record.refund.allocations.sum amount
      ≤ paidWallet order
        + (if w.capturedPayments = [] then 0 else order.paymentBreakdown.grandTotal)

theorem movesOnce_of_moneyInv (h : MoneyInv c w) :
    MovesOnce w := by
  obtain ⟨o, hget, hcharge, -⟩ := h.order
  refine ⟨h.moves.customer_le, h.moves.platform_le, ?_, o, hget, ?_⟩
  · have hcount := h.plan.gateway
    rw [gatewayShares, shares, List.countP_map] at hcount
    rw [← List.countP_eq_length_filter]
    exact hcount
  · have hsum : w.record.refund.allocations.sum amount
        = shareOf .wallet (shares w) + shareOf .gateway (shares w) := by
      rw [shareOf_add, shares, List.map_map]
      rfl
    have hwallet : shareOf .wallet (shares w) ≤ paidWallet o := by
      rw [show paidWallet o = c.2.1 by rw [← hcharge]; rfl]
      exact h.plan.wallet_le
    rw [hsum]
    by_cases hcap : w.capturedPayments = []
    · rw [if_pos hcap]
      have hgateway := h.plan.gateway_le.2 (fun hne => hne hcap)
      omega
    · rw [if_neg hcap]
      have hgateway : shareOf .gateway (shares w) ≤ o.paymentBreakdown.grandTotal := by
        rw [show o.paymentBreakdown.grandTotal = c.2.2 by rw [← hcharge]; rfl]
        exact h.plan.gateway_le.1 hcap
      omega

theorem planInv_externalRefund (order : Order) (now : Date) (hw : 0 ≤ paidWallet order)
    (hg : 0 ≤ order.paymentBreakdown.grandTotal) :
    PlanInv (charged order) (order.financeFlags.onlineRefundApplied = true)
      ((externalRefund order now).allocations.rows.map (fun a => (a.source, a.amount))) := by
  have hwallet : (orderCharges order).walletAmount ≤ paidWallet order := by
    unfold paidWallet
    split
    · exact le_max_left _ _
    · exact le_refl _
  unfold externalRefund charged
  dsimp only
  by_cases hlegacy : order.financeFlags.cancellationReversalApplied = true
  · rw [if_pos hlegacy, hlegacy]
    simp only [Refund.mapAllocations, map, List.map_map, Bool.true_and, true_and]
    have hshare : ((fun a : Allocation => (a.source, a.amount)) ∘ fun a : Allocation =>
        a.completed now) = fun a : Allocation => (a.source, a.amount) := rfl
    rw [hshare, rows_addAllocations, roundCurrency_fromPaise]
    exact planInv_parts ⟨hw, hg⟩ hwallet (le_refl _) id
  · rw [if_neg hlegacy]
    exact ⟨zero_le 1, hw, fun _ => hg, fun _ => le_refl 0⟩

theorem moneyInv_of_opened (h : Opened w) : ∃ c, 0 ≤ c.2.1 ∧ 0 ≤ c.2.2 ∧ MoneyInv c w := by
  obtain ⟨o, hget, hwallet, htotal, hcap, hrefund⟩ := h.order
  refine ⟨charged o, hwallet, htotal, ⟨hwallet, htotal⟩, ⟨o, hget, rfl, fun h => hcap (.inl h)⟩,
    ?_, ?_⟩
  · have hcustomer : ∀ id, customerMoves w id = 0 := by
      intro id
      rw [customerMoves, h.moves, List.count_nil]
    have hplatform : ∀ id, platformMoves w id = 0 := by
      intro id
      rw [platformMoves, h.moves, List.count_nil, List.count_nil]
    refine ⟨fun id => ?_, fun id hpos => ?_, fun id => ?_, fun id hpos => ?_⟩
    · rw [hcustomer]
      exact zero_le 1
    · rw [hcustomer] at hpos
      exact absurd hpos (lt_irrefl 0)
    · rw [hplatform]
      exact zero_le 1
    · rw [hplatform] at hpos
      exact absurd hpos (lt_irrefl 0)
  · rcases hrefund with hempty | ⟨now, hexternal⟩
    · have hnil : shares w = [] := by
        rw [shares, hempty]
        rfl
      rw [hnil]
      exact ⟨zero_le 1, hwallet, fun _ => htotal, fun _ => le_refl 0⟩
    · rw [shares, hexternal]
      exact (planInv_externalRefund o now hwallet htotal).mono htotal (fun h => hcap (.inr h))

/-- Along every run from a record as it was opened, every rupee moves at most once. -/
theorem refund_moves_once (maxGatewayAttempts : ℕ) {w : World} (hw : Opened w)
    (actions : List (Action Outcome Event Entry)) :
    Runs.Along (engine maxGatewayAttempts).step (fun p => MovesOnce p.shared) ⟨w, []⟩ actions := by
  obtain ⟨c, hwallet, htotal, hinv⟩ := moneyInv_of_opened hw
  have hlawful : (moneyContract maxGatewayAttempts c).Lawful := lawful_money ⟨hwallet, htotal⟩
  have hguard : Runs.Guarded (engine maxGatewayAttempts).step
      (moneyContract maxGatewayAttempts c).Meets ⟨w, []⟩ actions :=
    Runs.guarded_of_forall (fun p a => by cases a <;> simp [Contract.Meets, moneyContract]) _ _
  exact (hlawful.along (Contract.holds_start hinv (fun _ => trivial)) hguard).mono
    (fun p hp => movesOnce_of_moneyInv hp.inv)

def paidOnline : Order :=
  (Order.placed 1 7 none none .online (PaymentBreakdown.placed 10000 0 0 0 0)).captured

/-- Its cancellation record, just opened. -/
def paidOnlineWorld : World where
  db := Db.fresh (empty.insert paidOnline)
  record := { id := 3, order := 1 }
  capturedPayments := [some 9]

theorem opened_paidOnlineWorld : Opened paidOnlineWorld :=
  ⟨⟨paidOnline, by decide +kernel, by decide +kernel, by decide +kernel,
    fun _ => List.cons_ne_nil _ _, .inl rfl⟩, rfl⟩

/-- Two workers plan and pay the refund at the same time, and the first loses the answer of
its transaction. -/
theorem refund_moves_once_two_workers :
    Runs.Along (engine 5).step (fun p => MovesOnce p.shared) ⟨paidOnlineWorld, []⟩
      [.start .processCancellationRefund, .start .processCancellationRefund,
        .run 0 .done, .run 1 .done, .run 0 (.policy {}), .run 1 (.policy {}),
        .run 0 .done, .run 1 .done, .run 0 .done, .run 1 .done, .run 0 .done, .run 1 .done,
        .run 0 .done, .run 1 .done, .run 0 .done, .run 1 .done,
        .run 0 (.lost { message := "timeout" }), .run 1 .done, .run 0 .done, .run 1 .done] :=
  refund_moves_once 5 opened_paidOnlineWorld _

end DiscountBazar.Cancellation
