/-
The refund plan of any order document (`computeRefundPlan`).

An order may keep its charges in `paymentBreakdown`, in the older `pricing`, in both or in
neither, and amounts that are not rounded; a policy may lack fields. The plan reads what is
there, and what it plans is exact: its parts make what is refundable, and none of them is more
than what was paid that way. For orders and policies as the rest of the development has them it
is the plan of the refund engine.
-/
import DiscountBazar.Cancellation.Eligibility

namespace DiscountBazar.Cancellation

namespace Stored

open Finance

/-! ## Documents -/

/-- The fields of `order.paymentBreakdown` that charges are read from. -/
structure Breakdown where
  grandTotal : Option ℚ := none
  walletAmount : Option ℚ := none
  deliveryFeeCharged : Option ℚ := none
  handlingFeeCharged : Option ℚ := none
  tipTotal : Option ℚ := none

/-- The fields of `order.pricing`. -/
structure Pricing where
  total : Option ℚ := none
  walletAmount : Option ℚ := none
  deliveryFee : Option ℚ := none
  platformFee : Option ℚ := none
  tip : Option ℚ := none

structure Order where
  paymentMode : Option PaymentMode := none
  onlinePaymentCaptured : Bool := false
  paymentStatus : Option OrderPaymentStatus := none
  paymentBreakdown : Breakdown := {}
  pricing : Pricing := {}

/-- A policy as a plan reads it; a flag that is missing is off. -/
structure Policy where
  refundDeliveryFeeBeforePickup : Bool := false
  refundHandlingFeeBeforePickup : Bool := false
  refundTipBeforePickup : Bool := false
  refundDeliveryFeeAfterPickup : Bool := false
  refundHandlingFeeAfterPickup : Bool := false
  refundTipAfterPickup : Bool := false
  cancellationFeeAfterAcceptance : Option ℚ := none
  cancellationFeeAfterPickup : Option ℚ := none
  onlineRefundDestination : RefundDestination := .wallet
  refundAllocation : Option RefundAllocation := none

/-! ## The plan -/

/-- `num`: a number that is missing counts as 0. -/
def num (value : Option ℚ) : ℚ := value.getD 0

/-- `a || b` on fields. -/
def orField (a b : Option ℚ) : Option ℚ := if num a ≠ 0 then a else b

def isGatewayPaymentCaptured (order : Order) : Bool :=
  decide (order.paymentMode = some .online ∧
    (order.onlinePaymentCaptured = true ∨ order.paymentStatus = some .paid))

def orderCharges (order : Order) : OrderCharges where
  grandTotal := roundCurrency (num (order.paymentBreakdown.grandTotal <|> order.pricing.total))
  walletAmount := roundCurrency
    (num (orField order.paymentBreakdown.walletAmount order.pricing.walletAmount))
  deliveryFee := roundCurrency
    (num (orField order.paymentBreakdown.deliveryFeeCharged order.pricing.deliveryFee))
  handlingFee := roundCurrency
    (num (orField order.paymentBreakdown.handlingFeeCharged order.pricing.platformFee))
  tip := roundCurrency (num (orField order.paymentBreakdown.tipTotal order.pricing.tip))

def paidWallet (order : Order) : ℤ :=
  if order.paymentMode = some .wallet then
    max (orderCharges order).walletAmount (orderCharges order).grandTotal
  else (orderCharges order).walletAmount

/-- Whether the plan counts the gateway's money as captured. -/
def captured (order : Order) (assumeCaptured : Bool) : Bool :=
  isGatewayPaymentCaptured order || (assumeCaptured && decide (order.paymentMode = some .online))

def paidGateway (order : Order) (assumeCaptured : Bool) : ℤ :=
  if captured order assumeCaptured = true ∧ order.paymentMode = some .online then
    (orderCharges order).grandTotal
  else 0

/-- The charges that are to be withheld; the fee is not rounded yet. -/
structure Withheld where
  deliveryFee : ℤ := 0
  handlingFee : ℤ := 0
  tip : ℤ := 0
  cancellationFee : ℚ := 0

/-- The charges that are not refundable at this stage. -/
def withheld (charges : OrderCharges) (policy : Policy) (stage : Option CancellationStage)
    (waiveDeductions : Bool) : Withheld :=
  if waiveDeductions then {}
  else if stage = some .pickedUp then
    { deliveryFee := if policy.refundDeliveryFeeAfterPickup then 0 else charges.deliveryFee
      handlingFee := if policy.refundHandlingFeeAfterPickup then 0 else charges.handlingFee
      tip := if policy.refundTipAfterPickup then 0 else charges.tip
      cancellationFee := num policy.cancellationFeeAfterPickup }
  else
    { deliveryFee := if policy.refundDeliveryFeeBeforePickup then 0 else charges.deliveryFee
      handlingFee := if policy.refundHandlingFeeBeforePickup then 0 else charges.handlingFee
      tip := if policy.refundTipBeforePickup then 0 else charges.tip
      cancellationFee :=
        if beforeAcceptance stage then 0 else num policy.cancellationFeeAfterAcceptance }

def requestedDeduction (order : Order) (policy : Policy) (stage : Option CancellationStage)
    (waiveDeductions : Bool) : ℤ :=
  let deductions := withheld (orderCharges order) policy stage waiveDeductions
  roundCurrency (fromPaise deductions.deliveryFee + fromPaise deductions.handlingFee
    + fromPaise deductions.tip + deductions.cancellationFee)

/-- The wallet's and the gateway's part of what is refundable. -/
def splitRefund (allocation : Option RefundAllocation) (paidWallet paidGateway refundable : ℤ) :
    ℤ × ℤ :=
  match allocation with
  | some .gatewayFirst =>
    let gatewayRefund := roundCurrency (min (fromPaise paidGateway) (fromPaise refundable))
    (roundCurrency (min (fromPaise paidWallet) (fromPaise refundable - fromPaise gatewayRefund)),
      gatewayRefund)
  | _ =>
    let walletRefund := roundCurrency (min (fromPaise paidWallet) (fromPaise refundable))
    (walletRefund,
      roundCurrency (min (fromPaise paidGateway) (fromPaise refundable - fromPaise walletRefund)))

/-- What `computeRefundPlan` returns. -/
structure Plan where
  paymentMode : PaymentMode
  paidWallet : ℤ
  paidGateway : ℤ
  totalPaid : ℤ
  deductions : Deductions
  refundable : ℤ
  allocations : List PlannedAllocation
  refundRequired : Bool
  afterPickup : Bool

def computeRefundPlan (order : Order) (policy : Policy) (stage : Option CancellationStage)
    (assumeCaptured waiveDeductions : Bool) : Plan :=
  let wallet := paidWallet order
  let gateway := paidGateway order assumeCaptured
  let totalPaid := roundCurrency (fromPaise wallet + fromPaise gateway)
  let deductions := withheld (orderCharges order) policy stage waiveDeductions
  -- Deductions can only be withheld from money actually held.
  let deductionTotal := roundCurrency
    (min (fromPaise (requestedDeduction order policy stage waiveDeductions)) (fromPaise totalPaid))
  let refundable := roundCurrency (max 0 (fromPaise totalPaid - fromPaise deductionTotal))
  let refunds := splitRefund policy.refundAllocation wallet gateway refundable
  { paymentMode := order.paymentMode.getD .cod
    paidWallet := roundCurrency (fromPaise wallet)
    paidGateway := roundCurrency (fromPaise gateway)
    totalPaid
    deductions :=
      { deliveryFee := roundCurrency (fromPaise deductions.deliveryFee)
        handlingFee := roundCurrency (fromPaise deductions.handlingFee)
        tip := roundCurrency (fromPaise deductions.tip)
        cancellationFee := roundCurrency deductions.cancellationFee
        total := deductionTotal }
    refundable
    allocations :=
      (if 0 < refunds.1 then [⟨.wallet, refunds.1, .wallet⟩] else []) ++
      (if 0 < refunds.2 then [⟨.gateway, refunds.2, policy.onlineRefundDestination⟩] else [])
    refundRequired := decide (0 < refundable)
    afterPickup := decide (stage = some .pickedUp) }

/-! ## The plan is exact -/

structure Order.NonNeg (order : Order) : Prop where
  grandTotal : 0 ≤ num order.paymentBreakdown.grandTotal
  walletAmount : 0 ≤ num order.paymentBreakdown.walletAmount
  deliveryFeeCharged : 0 ≤ num order.paymentBreakdown.deliveryFeeCharged
  handlingFeeCharged : 0 ≤ num order.paymentBreakdown.handlingFeeCharged
  tipTotal : 0 ≤ num order.paymentBreakdown.tipTotal
  total : 0 ≤ num order.pricing.total
  pricingWallet : 0 ≤ num order.pricing.walletAmount
  deliveryFee : 0 ≤ num order.pricing.deliveryFee
  platformFee : 0 ≤ num order.pricing.platformFee
  tip : 0 ≤ num order.pricing.tip

structure Policy.NonNeg (policy : Policy) : Prop where
  afterAcceptance : 0 ≤ num policy.cancellationFeeAfterAcceptance
  afterPickup : 0 ≤ num policy.cancellationFeeAfterPickup

def Plan.paidThrough (plan : Plan) : RefundSource → ℤ
  | .wallet => plan.paidWallet
  | .gateway => plan.paidGateway

/-- The plan's parts make what is refundable, what is refundable is what was paid without what is
withheld, and no part is more than what was paid that way. -/
structure Exact (order : Order) (assumeCaptured : Bool) (requested : ℤ) (plan : Plan) : Prop where
  parts : (plan.allocations.map PlannedAllocation.amount).sum = plan.refundable
  refundable : plan.refundable = plan.totalPaid - min requested plan.totalPaid
  paid : plan.totalPaid = plan.paidWallet + plan.paidGateway
  part : ∀ a ∈ plan.allocations, 0 < a.amount ∧ a.amount ≤ plan.paidThrough a.source
  gateway : ∀ a ∈ plan.allocations, a.source = .gateway → captured order assumeCaptured = true

section Plan

variable {order : Order} {policy : Policy}

theorem orField_nonneg {a b : Option ℚ} (ha : 0 ≤ num a) (hb : 0 ≤ num b) : 0 ≤ num (orField a b) := by
  unfold orField
  split
  · exact ha
  · exact hb

theorem or_nonneg {a b : Option ℚ} (ha : 0 ≤ num a) (hb : 0 ≤ num b) : 0 ≤ num (a <|> b) := by
  cases a with
  | none => exact hb
  | some x => exact ha

theorem orderCharges_nonneg (h : order.NonNeg) :
    0 ≤ (orderCharges order).grandTotal ∧ 0 ≤ (orderCharges order).walletAmount ∧
      0 ≤ (orderCharges order).deliveryFee ∧ 0 ≤ (orderCharges order).handlingFee ∧
      0 ≤ (orderCharges order).tip := by
  refine ⟨?_, ?_, ?_, ?_, ?_⟩
  · exact roundCurrency_nonneg (or_nonneg h.grandTotal h.total)
  · exact roundCurrency_nonneg (orField_nonneg h.walletAmount h.pricingWallet)
  · exact roundCurrency_nonneg
      (orField_nonneg h.deliveryFeeCharged h.deliveryFee)
  · exact roundCurrency_nonneg
      (orField_nonneg h.handlingFeeCharged h.platformFee)
  · exact roundCurrency_nonneg (orField_nonneg h.tipTotal h.tip)

theorem paidWallet_nonneg (h : order.NonNeg) : 0 ≤ paidWallet order := by
  obtain ⟨-, hwallet, -⟩ := orderCharges_nonneg h
  unfold paidWallet
  split
  · exact hwallet.trans (le_max_left ..)
  · exact hwallet

theorem paidGateway_nonneg (h : order.NonNeg) (assumeCaptured : Bool) :
    0 ≤ paidGateway order assumeCaptured := by
  unfold paidGateway
  split
  · exact (orderCharges_nonneg h).1
  · exact le_refl 0

theorem captured_of_paidGateway {assumeCaptured : Bool} (h : 0 < paidGateway order assumeCaptured) :
    captured order assumeCaptured = true := by
  unfold paidGateway at h
  split at h
  next hcaptured => exact hcaptured.1
  next => exact absurd h (lt_irrefl 0)

theorem requestedDeduction_nonneg (horder : order.NonNeg) (hpolicy : policy.NonNeg)
    (stage : Option CancellationStage) (waiveDeductions : Bool) :
    0 ≤ requestedDeduction order policy stage waiveDeductions := by
  obtain ⟨-, -, hdelivery, hhandling, htip⟩ := orderCharges_nonneg horder
  have hnone : fromPaise 0 = 0 := fromPaise_zero
  have hwithheld : 0 ≤ (withheld (orderCharges order) policy stage waiveDeductions).deliveryFee ∧
      0 ≤ (withheld (orderCharges order) policy stage waiveDeductions).handlingFee ∧
      0 ≤ (withheld (orderCharges order) policy stage waiveDeductions).tip ∧
      0 ≤ (withheld (orderCharges order) policy stage waiveDeductions).cancellationFee := by
    have hif : ∀ (refunded : Bool) {charge : ℤ}, 0 ≤ charge → 0 ≤ if refunded then 0 else charge := by
      intro refunded charge hcharge
      split
      · exact le_refl 0
      · exact hcharge
    unfold withheld
    split
    · exact ⟨le_refl 0, le_refl 0, le_refl 0, le_refl 0⟩
    split
    · exact ⟨hif _ hdelivery, hif _ hhandling, hif _ htip, hpolicy.afterPickup⟩
    · refine ⟨hif _ hdelivery, hif _ hhandling, hif _ htip, ?_⟩
      dsimp only
      split
      · exact le_refl 0
      · exact hpolicy.afterAcceptance
  obtain ⟨hd, hh, ht, hf⟩ := hwithheld
  refine roundCurrency_nonneg ?_
  exact add_nonneg (add_nonneg (add_nonneg (fromPaise_nonneg hd)
    (fromPaise_nonneg hh)) (fromPaise_nonneg ht)) hf

theorem splitRefund_eq (allocation : Option RefundAllocation) (wallet gateway refundable : ℤ) :
    splitRefund allocation wallet gateway refundable
      = match allocation with
        | some .gatewayFirst =>
          (min wallet (refundable - min gateway refundable), min gateway refundable)
        | _ => (min wallet refundable, min gateway (refundable - min wallet refundable)) := by
  unfold splitRefund
  split <;> simp only [← fromPaise_min, ← fromPaise_sub, roundCurrency_fromPaise]

/-- In either order the parts make what is refundable, where it is within what was paid. -/
theorem splitRefund_spec (allocation : Option RefundAllocation) {wallet gateway refundable : ℤ}
    (hwallet : 0 ≤ wallet) (hgateway : 0 ≤ gateway) (hpos : 0 ≤ refundable)
    (hle : refundable ≤ wallet + gateway) :
    0 ≤ (splitRefund allocation wallet gateway refundable).1 ∧
      0 ≤ (splitRefund allocation wallet gateway refundable).2 ∧
      (splitRefund allocation wallet gateway refundable).1
        + (splitRefund allocation wallet gateway refundable).2 = refundable ∧
      (splitRefund allocation wallet gateway refundable).1 ≤ wallet ∧
      (splitRefund allocation wallet gateway refundable).2 ≤ gateway := by
  rw [splitRefund_eq]
  split <;> dsimp only <;> omega

def positiveParts (refunds : ℤ × ℤ) (destination : RefundDestination) : List PlannedAllocation :=
  (if 0 < refunds.1 then [⟨.wallet, refunds.1, .wallet⟩] else []) ++
    (if 0 < refunds.2 then [⟨.gateway, refunds.2, destination⟩] else [])

theorem sum_positiveParts {refunds : ℤ × ℤ} (hwallet : 0 ≤ refunds.1) (hgateway : 0 ≤ refunds.2)
    (destination : RefundDestination) :
    ((positiveParts refunds destination).map PlannedAllocation.amount).sum
      = refunds.1 + refunds.2 := by
  unfold positiveParts
  split <;> split <;> simp <;> omega

theorem mem_positiveParts {refunds : ℤ × ℤ} {destination : RefundDestination}
    {a : PlannedAllocation} (h : a ∈ positiveParts refunds destination) :
    0 < a.amount ∧ ((a.source = .wallet ∧ a.amount = refunds.1) ∨
      (a.source = .gateway ∧ a.amount = refunds.2)) := by
  unfold positiveParts at h
  rcases List.mem_append.mp h with hwallet | hgateway
  · split at hwallet
    next hpos =>
      rw [List.mem_singleton.mp hwallet]
      exact ⟨hpos, .inl ⟨rfl, rfl⟩⟩
    next => cases hwallet
  · split at hgateway
    next hpos =>
      rw [List.mem_singleton.mp hgateway]
      exact ⟨hpos, .inr ⟨rfl, rfl⟩⟩
    next => cases hgateway

end Plan

/-- An order of 500 rupees of which 120 were paid from the wallet of an older record, and 40 for
the delivery. -/
def oldOrder : Order where
  paymentMode := some .online
  paymentStatus := some .paid
  paymentBreakdown := { grandTotal := some 380, walletAmount := some 0 }
  pricing := { total := some 500, walletAmount := some 120, deliveryFee := some 40 }

def ofOrder (order : Finance.Order) : Order where
  paymentMode := some order.paymentMode
  onlinePaymentCaptured := order.financeFlags.onlinePaymentCaptured
  paymentStatus := some order.paymentStatus
  paymentBreakdown :=
    { grandTotal := some (fromPaise order.paymentBreakdown.grandTotal)
      walletAmount := some (fromPaise order.paymentBreakdown.walletAmount)
      deliveryFeeCharged := some (fromPaise order.paymentBreakdown.deliveryFeeCharged)
      handlingFeeCharged := some (fromPaise order.paymentBreakdown.handlingFeeCharged)
      tipTotal := some (fromPaise order.paymentBreakdown.tipTotal) }
  pricing :=
    { total := some (fromPaise order.pricingTotal)
      walletAmount := some (fromPaise order.pricing.walletAmount)
      deliveryFee := some (fromPaise order.pricing.deliveryFee)
      platformFee := some (fromPaise order.pricing.platformFee)
      tip := some (fromPaise order.pricing.tip) }

def ofPolicy (policy : CancellationPolicy) : Policy where
  refundDeliveryFeeBeforePickup := policy.refundDeliveryFeeBeforePickup
  refundHandlingFeeBeforePickup := policy.refundHandlingFeeBeforePickup
  refundTipBeforePickup := policy.refundTipBeforePickup
  refundDeliveryFeeAfterPickup := policy.refundDeliveryFeeAfterPickup
  refundHandlingFeeAfterPickup := policy.refundHandlingFeeAfterPickup
  refundTipAfterPickup := policy.refundTipAfterPickup
  cancellationFeeAfterAcceptance := some (fromPaise policy.cancellationFeeAfterAcceptance)
  cancellationFeeAfterPickup := some (fromPaise policy.cancellationFeeAfterPickup)
  onlineRefundDestination := policy.onlineRefundDestination
  refundAllocation := some policy.refundAllocation

section Engine

variable (order : Finance.Order) (policy : CancellationPolicy) (stage : Option CancellationStage)
  (waiveDeductions : Bool)

theorem num_orField (a b : ℤ) :
    num (orField (some (fromPaise a)) (some (fromPaise b))) = fromPaise (orAmount a b) := by
  have hzero : fromPaise a ≠ 0 ↔ a ≠ 0 := by
    rw [← fromPaise_zero, Ne, fromPaise_inj]
  have hnum : ∀ p : ℤ, num (some (fromPaise p)) = fromPaise p := fun _ => rfl
  unfold orField orAmount
  rw [hnum]
  by_cases h : a = 0
  · rw [if_neg (fun hnonzero => hzero.mp hnonzero h), if_neg (not_not.mpr h), hnum]
  · rw [if_pos (hzero.mpr h), if_pos h, hnum]

theorem orderCharges_ofOrder : orderCharges (ofOrder order) = Cancellation.orderCharges order := by
  unfold orderCharges Cancellation.orderCharges ofOrder
  simp only [num_orField]
  rfl

theorem captured_ofOrder :
    isGatewayPaymentCaptured (ofOrder order) = Cancellation.isGatewayPaymentCaptured order := by
  unfold isGatewayPaymentCaptured Cancellation.isGatewayPaymentCaptured ofOrder
  simp only [Option.some.injEq]

theorem paidWallet_ofOrder : paidWallet (ofOrder order) = Cancellation.paidWallet order := by
  unfold paidWallet Cancellation.paidWallet
  rw [orderCharges_ofOrder]
  simp only [ofOrder, Option.some.injEq]

theorem paidGateway_ofOrder : paidGateway (ofOrder order) false
    = if Cancellation.isGatewayPaymentCaptured order ∧ order.paymentMode = .online then
        (Cancellation.orderCharges order).grandTotal
      else 0 := by
  unfold paidGateway captured
  rw [orderCharges_ofOrder, captured_ofOrder, Bool.false_and, Bool.or_false]
  simp only [ofOrder, Option.some.injEq]

theorem withheld_ofPolicy (charges : OrderCharges) :
    withheld charges (ofPolicy policy) stage waiveDeductions
      = let deductions := requestedDeductions charges policy stage waiveDeductions
        { deliveryFee := deductions.deliveryFee
          handlingFee := deductions.handlingFee
          tip := deductions.tip
          cancellationFee := fromPaise deductions.cancellationFee } := by
  unfold withheld requestedDeductions
  split
  · simp only [fromPaise_zero]
  split
  · rfl
  · by_cases h : beforeAcceptance stage = true
    · simp only [h, if_true, fromPaise_zero]
      rfl
    · simp only [h]
      rfl

theorem requestedDeduction_ofOrder :
    requestedDeduction (ofOrder order) (ofPolicy policy) stage waiveDeductions
      = Cancellation.requestedDeduction order policy stage waiveDeductions := by
  unfold requestedDeduction Cancellation.requestedDeduction
  rw [orderCharges_ofOrder, withheld_ofPolicy]

theorem splitRefund_ofPolicy (wallet gateway refundable : ℤ) :
    splitRefund (ofPolicy policy).refundAllocation wallet gateway refundable
      = match policy.refundAllocation with
        | .gatewayFirst =>
          let gatewayRefund := roundCurrency (min (fromPaise gateway) (fromPaise refundable))
          (roundCurrency (min (fromPaise wallet) (fromPaise refundable - fromPaise gatewayRefund)),
            gatewayRefund)
        | .walletFirst =>
          let walletRefund := roundCurrency (min (fromPaise wallet) (fromPaise refundable))
          (walletRefund, roundCurrency
            (min (fromPaise gateway) (fromPaise refundable - fromPaise walletRefund))) := by
  unfold splitRefund ofPolicy
  cases policy.refundAllocation with
  | walletFirst | gatewayFirst => rfl

theorem computeRefundPlan_ofOrder :
    Cancellation.computeRefundPlan order policy stage waiveDeductions
      = let plan := computeRefundPlan (ofOrder order) (ofPolicy policy) stage false waiveDeductions
        { paidWallet := plan.paidWallet
          paidGateway := plan.paidGateway
          deductions := plan.deductions
          refundable := plan.refundable
          allocations := plan.allocations } := by
  unfold computeRefundPlan Cancellation.computeRefundPlan
  simp only [paidWallet_ofOrder, paidGateway_ofOrder, orderCharges_ofOrder, withheld_ofPolicy,
    requestedDeduction_ofOrder, splitRefund_ofPolicy, roundCurrency_fromPaise]
  rfl

end Engine

end Stored

end DiscountBazar.Cancellation
