/-
Refund rules (`cancellationEligibility.js`): which online payments count as captured, and
how a refund is split between the wallet and the gateway.

Amounts are paise. The plan is a pure function of the order, the policy and the stage; the
lemmas say what the two parts of it can be, so that the refund engine never unfolds it.
-/
import DiscountBazar.Finance.Types

namespace DiscountBazar.Cancellation

open Finance

/-! ## Vocabulary (`constants/cancellation.js`) -/

inductive RefundStatus where
  | notRequired | pending | processing | successful | failed | manualReview
  deriving DecidableEq

inductive RefundSource where
  | wallet | gateway
  deriving DecidableEq

inductive RefundDestination where
  | wallet | originalSource
  deriving DecidableEq

inductive RefundAllocation where
  | walletFirst | gatewayFirst

inductive CancellationStage where
  | awaitingPayment | pendingAcceptance | accepted | packed | riderAssigned | riderAtStore
  | pickedUp | delivered | cancelled | notApplicable
  deriving DecidableEq

/-- The part of the cancellation policy that refunds read, normalized. -/
structure CancellationPolicy where
  refundDeliveryFeeBeforePickup : Bool := true
  refundHandlingFeeBeforePickup : Bool := true
  refundTipBeforePickup : Bool := true
  refundDeliveryFeeAfterPickup : Bool := false
  refundHandlingFeeAfterPickup : Bool := true
  refundTipAfterPickup : Bool := true
  cancellationFeeAfterAcceptance : ℕ := 0
  cancellationFeeAfterPickup : ℕ := 0
  onlineRefundDestination : RefundDestination := .wallet
  refundAllocation : RefundAllocation := .walletFirst
  paymentVerificationWindowHours : ℕ := 48

/-! ## Payments -/

def isGatewayPaymentCaptured (order : Order) : Bool :=
  decide (order.paymentMode = .online ∧
    (order.financeFlags.onlinePaymentCaptured = true ∨ order.paymentStatus = .paid))

def isGatewayPaymentUnconfirmed (order : Order) : Bool :=
  decide (order.paymentMode = .online ∧ isGatewayPaymentCaptured order = false ∧
    order.paymentStatus ≠ .failed ∧ order.paymentStatus ≠ .refunded)

/-- What `orderCharges` returns. -/
structure OrderCharges where
  grandTotal : ℤ
  walletAmount : ℤ
  deliveryFee : ℤ
  handlingFee : ℤ
  tip : ℤ

def orderCharges (order : Order) : OrderCharges where
  grandTotal := roundCurrency (fromPaise order.paymentBreakdown.grandTotal)
  walletAmount := roundCurrency
    (fromPaise (orAmount order.paymentBreakdown.walletAmount order.pricing.walletAmount))
  deliveryFee := roundCurrency
    (fromPaise (orAmount order.paymentBreakdown.deliveryFeeCharged order.pricing.deliveryFee))
  handlingFee := roundCurrency
    (fromPaise (orAmount order.paymentBreakdown.handlingFeeCharged order.pricing.platformFee))
  tip := roundCurrency (fromPaise (orAmount order.paymentBreakdown.tipTotal order.pricing.tip))

/-- The wallet part of what the customer paid, as the plan computes it. -/
def paidWallet (order : Order) : ℤ :=
  if order.paymentMode = .wallet then
    max (orderCharges order).walletAmount (orderCharges order).grandTotal
  else (orderCharges order).walletAmount

/-! ## The plan -/

structure Deductions where
  deliveryFee : ℤ := 0
  handlingFee : ℤ := 0
  tip : ℤ := 0
  cancellationFee : ℤ := 0
  total : ℤ := 0

structure PlannedAllocation where
  source : RefundSource
  amount : ℤ
  destination : RefundDestination

/-- The part of `computeRefundPlan`'s result that the refund engine reads. -/
structure RefundPlan where
  paidWallet : ℤ
  paidGateway : ℤ
  deductions : Deductions
  refundable : ℤ
  allocations : List PlannedAllocation

def beforeAcceptance (stage : Option CancellationStage) : Bool :=
  decide (stage = some .awaitingPayment ∨ stage = some .pendingAcceptance)

/-- The charges that are not refundable at this stage. -/
def requestedDeductions (charges : OrderCharges) (policy : CancellationPolicy)
    (stage : Option CancellationStage) (waiveDeductions : Bool) : Deductions :=
  if waiveDeductions then {}
  else if stage = some .pickedUp then
    { deliveryFee := if policy.refundDeliveryFeeAfterPickup then 0 else charges.deliveryFee
      handlingFee := if policy.refundHandlingFeeAfterPickup then 0 else charges.handlingFee
      tip := if policy.refundTipAfterPickup then 0 else charges.tip
      cancellationFee := policy.cancellationFeeAfterPickup }
  else
    { deliveryFee := if policy.refundDeliveryFeeBeforePickup then 0 else charges.deliveryFee
      handlingFee := if policy.refundHandlingFeeBeforePickup then 0 else charges.handlingFee
      tip := if policy.refundTipBeforePickup then 0 else charges.tip
      cancellationFee :=
        if beforeAcceptance stage then 0 else policy.cancellationFeeAfterAcceptance }

def requestedDeduction (order : Order) (policy : CancellationPolicy)
    (stage : Option CancellationStage) (waiveDeductions : Bool) : ℤ :=
  let deductions := requestedDeductions (orderCharges order) policy stage waiveDeductions
  roundCurrency
    (fromPaise deductions.deliveryFee + fromPaise deductions.handlingFee
      + fromPaise deductions.tip + fromPaise deductions.cancellationFee)

/-- `computeRefundPlan`, without the preview of a capture. -/
def computeRefundPlan (order : Order) (policy : CancellationPolicy)
    (stage : Option CancellationStage) (waiveDeductions : Bool) : RefundPlan :=
  let charges := orderCharges order
  let paidWallet := paidWallet order
  let paidGateway :=
    if isGatewayPaymentCaptured order ∧ order.paymentMode = .online then charges.grandTotal else 0
  let totalPaid := roundCurrency (fromPaise paidWallet + fromPaise paidGateway)
  let deductions := requestedDeductions charges policy stage waiveDeductions
  -- Deductions can only be withheld from money actually held.
  let deductionTotal := roundCurrency
    (min (fromPaise (requestedDeduction order policy stage waiveDeductions)) (fromPaise totalPaid))
  let refundable := roundCurrency (max 0 (fromPaise totalPaid - fromPaise deductionTotal))
  let (walletRefund, gatewayRefund) :=
    match policy.refundAllocation with
    | .gatewayFirst =>
      let gatewayRefund := roundCurrency (min (fromPaise paidGateway) (fromPaise refundable))
      (roundCurrency
        (min (fromPaise paidWallet) (fromPaise refundable - fromPaise gatewayRefund)),
        gatewayRefund)
    | .walletFirst =>
      let walletRefund := roundCurrency (min (fromPaise paidWallet) (fromPaise refundable))
      (walletRefund,
        roundCurrency
          (min (fromPaise paidGateway) (fromPaise refundable - fromPaise walletRefund)))
  { paidWallet := roundCurrency (fromPaise paidWallet)
    paidGateway := roundCurrency (fromPaise paidGateway)
    deductions := { deductions with total := deductionTotal }
    refundable := refundable
    allocations :=
      (if 0 < walletRefund then [⟨.wallet, walletRefund, .wallet⟩] else []) ++
      (if 0 < gatewayRefund then
        [⟨.gateway, gatewayRefund, policy.onlineRefundDestination⟩] else []) }

/-! ## The two parts -/

section Plan

variable (order : Order) (policy : CancellationPolicy) (stage : Option CancellationStage)
  (waiveDeductions : Bool)

def paidGateway (order : Order) : ℤ :=
  if isGatewayPaymentCaptured order then order.paymentBreakdown.grandTotal else 0

@[simp] theorem orderCharges_grandTotal :
    (orderCharges order).grandTotal = order.paymentBreakdown.grandTotal :=
  roundCurrency_fromPaise _

def refundableAmount : ℤ :=
  max 0 (paidWallet order + paidGateway order
    - min (requestedDeduction order policy stage waiveDeductions)
      (paidWallet order + paidGateway order))

def walletShare : ℤ :=
  match policy.refundAllocation with
  | .gatewayFirst =>
    min (paidWallet order) (refundableAmount order policy stage waiveDeductions
      - min (paidGateway order) (refundableAmount order policy stage waiveDeductions))
  | .walletFirst => min (paidWallet order) (refundableAmount order policy stage waiveDeductions)

def gatewayShare : ℤ :=
  match policy.refundAllocation with
  | .gatewayFirst => min (paidGateway order) (refundableAmount order policy stage waiveDeductions)
  | .walletFirst =>
    min (paidGateway order) (refundableAmount order policy stage waiveDeductions
      - min (paidWallet order) (refundableAmount order policy stage waiveDeductions))

theorem captured_online {order : Order} (h : isGatewayPaymentCaptured order = true) :
    order.paymentMode = .online := (of_decide_eq_true h).1

theorem computeRefundPlan_allocations :
    (computeRefundPlan order policy stage waiveDeductions).allocations
      = (if 0 < walletShare order policy stage waiveDeductions then
          [⟨.wallet, walletShare order policy stage waiveDeductions, .wallet⟩] else []) ++
        (if 0 < gatewayShare order policy stage waiveDeductions then
          [⟨.gateway, gatewayShare order policy stage waiveDeductions,
            policy.onlineRefundDestination⟩] else []) := by
  have hgateway : (if isGatewayPaymentCaptured order = true ∧ order.paymentMode = .online then
      (orderCharges order).grandTotal else 0) = paidGateway order := by
    unfold paidGateway
    rw [orderCharges_grandTotal]
    by_cases hc : isGatewayPaymentCaptured order = true
    · rw [if_pos ⟨hc, captured_online hc⟩, if_pos hc]
    · rw [if_neg (fun h => hc h.1), if_neg hc]
  have hmin : ∀ p q : ℤ, roundCurrency (min (fromPaise p) (fromPaise q)) = min p q := by
    intro p q
    rw [← fromPaise_min, roundCurrency_fromPaise]
  have hminSub : ∀ p q r : ℤ,
      roundCurrency (min (fromPaise p) (fromPaise q - fromPaise r)) = min p (q - r) := by
    intro p q r
    rw [← fromPaise_sub, hmin]
  have hmax : ∀ p q : ℤ, roundCurrency (max 0 (fromPaise p - fromPaise q)) = max 0 (p - q) := by
    intro p q
    rw [max_comm, roundCurrency_sub_clamped, max_comm]
  unfold computeRefundPlan gatewayShare walletShare refundableAmount
  simp only [hgateway, hmin, hmax, roundCurrency_add]
  cases policy.refundAllocation with
  | walletFirst | gatewayFirst => simp only [hminSub]

theorem walletShare_le : walletShare order policy stage waiveDeductions ≤ paidWallet order := by
  unfold walletShare
  split
  · exact min_le_left _ _
  · exact min_le_left _ _

theorem gatewayShare_le : gatewayShare order policy stage waiveDeductions ≤ paidGateway order := by
  unfold gatewayShare
  split
  · exact min_le_left _ _
  · exact min_le_left _ _

theorem captured_of_gatewayShare_pos
    (h : 0 < gatewayShare order policy stage waiveDeductions) :
    isGatewayPaymentCaptured order = true := by
  by_contra hnot
  have hle := gatewayShare_le order policy stage waiveDeductions
  rw [paidGateway, if_neg hnot] at hle
  omega

end Plan

end DiscountBazar.Cancellation
