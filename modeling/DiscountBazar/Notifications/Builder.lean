/-
Who is notified of an event, and under which key (`notification.builder.js`,
`notification.constants.js`, `dedupeKeyForNotification`).

Every event has one definition or several, one for each role it tells; a definition names the
fields of the payload that hold its recipients. The key under which a notification is sent once is
made of the event's type, the role, the user and the first of a dozen references that is not empty.
A field that is absent from a payload is the empty text here. Titles and bodies, which the key does
not read, are left out.
-/
import DiscountBazar.Catalog.Availability
import DiscountBazar.Sellers.Contacts

namespace DiscountBazar.Notifications

open Sellers (trim)
open Catalog (toLowerCase orElse)

/-! ## Events and roles -/

inductive NotificationEvent where
  | orderPlaced | paymentSuccess | orderConfirmed | orderPacked | outForDelivery | orderDelivered
  | orderCancelled | refundInitiated | refundCompleted | newOrder | deliveryAssigned
  | newDeliveryBroadcast | newReturnBroadcast | orderReady
  | returnRequested | returnApproved | returnRejected | returnPickupAssigned | returnPickupOtp
  | returnDropOtp | returnCompleted | returnQcPassed | returnQcFailed
  | supportTicketMessage | supportTicketStatusUpdated | lowStockAlert | productModerationRequest
  | newSellerRegistration | newDeliveryRegistration | withdrawalRequested | withdrawalStatusUpdated
  | chatMessage | sellerReadyForPickup | pickupEtaUpdated
  | communicationIssueReported | communicationIssueEscalated
  | cancellationRequested | cancellationApproved | cancellationRejected | cancellationWithdrawn
  | cancellationTransferred | riderStopPickup | riderReturnParcel | cancelledParcelReturned
  | refundFailed
  deriving DecidableEq

def NotificationEvent.text : NotificationEvent → String
  | .orderPlaced => "ORDER_PLACED"
  | .paymentSuccess => "PAYMENT_SUCCESS"
  | .orderConfirmed => "ORDER_CONFIRMED"
  | .orderPacked => "ORDER_PACKED"
  | .outForDelivery => "OUT_FOR_DELIVERY"
  | .orderDelivered => "ORDER_DELIVERED"
  | .orderCancelled => "ORDER_CANCELLED"
  | .refundInitiated => "REFUND_INITIATED"
  | .refundCompleted => "REFUND_COMPLETED"
  | .newOrder => "NEW_ORDER"
  | .deliveryAssigned => "DELIVERY_ASSIGNED"
  | .newDeliveryBroadcast => "NEW_DELIVERY_BROADCAST"
  | .newReturnBroadcast => "NEW_RETURN_BROADCAST"
  | .orderReady => "ORDER_READY"
  | .returnRequested => "RETURN_REQUESTED"
  | .returnApproved => "RETURN_APPROVED"
  | .returnRejected => "RETURN_REJECTED"
  | .returnPickupAssigned => "RETURN_PICKUP_ASSIGNED"
  | .returnPickupOtp => "RETURN_PICKUP_OTP"
  | .returnDropOtp => "RETURN_DROP_OTP"
  | .returnCompleted => "RETURN_COMPLETED"
  | .returnQcPassed => "RETURN_QC_PASSED"
  | .returnQcFailed => "RETURN_QC_FAILED"
  | .supportTicketMessage => "SUPPORT_TICKET_MESSAGE"
  | .supportTicketStatusUpdated => "SUPPORT_TICKET_STATUS_UPDATED"
  | .lowStockAlert => "LOW_STOCK_ALERT"
  | .productModerationRequest => "PRODUCT_MODERATION_REQUEST"
  | .newSellerRegistration => "NEW_SELLER_REGISTRATION"
  | .newDeliveryRegistration => "NEW_DELIVERY_REGISTRATION"
  | .withdrawalRequested => "WITHDRAWAL_REQUESTED"
  | .withdrawalStatusUpdated => "WITHDRAWAL_STATUS_UPDATED"
  | .chatMessage => "CHAT_MESSAGE"
  | .sellerReadyForPickup => "SELLER_READY_FOR_PICKUP"
  | .pickupEtaUpdated => "PICKUP_ETA_UPDATED"
  | .communicationIssueReported => "COMMUNICATION_ISSUE_REPORTED"
  | .communicationIssueEscalated => "COMMUNICATION_ISSUE_ESCALATED"
  | .cancellationRequested => "CANCELLATION_REQUESTED"
  | .cancellationApproved => "CANCELLATION_APPROVED"
  | .cancellationRejected => "CANCELLATION_REJECTED"
  | .cancellationWithdrawn => "CANCELLATION_WITHDRAWN"
  | .cancellationTransferred => "CANCELLATION_TRANSFERRED"
  | .riderStopPickup => "RIDER_STOP_PICKUP"
  | .riderReturnParcel => "RIDER_RETURN_PARCEL"
  | .cancelledParcelReturned => "CANCELLED_PARCEL_RETURNED"
  | .refundFailed => "REFUND_FAILED"

inductive NotificationRole where
  | customer | seller | delivery | admin
  deriving DecidableEq

def NotificationRole.text : NotificationRole → String
  | .customer => "customer"
  | .seller => "seller"
  | .delivery => "delivery"
  | .admin => "admin"

/-! ## Payloads -/

/-- The references under `data`: `none` where the field is absent, so that nothing is spread. -/
structure DataRefs where
  orderId : Option String := none
  productId : Option String := none
  variantSku : Option String := none
  deriving DecidableEq

/-- What the caller of `notify` knows of an event. -/
structure Payload where
  eventId : String := ""
  messageId : String := ""
  messageCreatedAt : String := ""
  ticketId : String := ""
  orderId : String := ""
  productId : String := ""
  variantSku : String := ""
  checkoutGroupId : String := ""
  userId : String := ""
  customerId : String := ""
  sellerId : String := ""
  sellerIds : Option (List String) := none
  deliveryId : String := ""
  deliveryIds : Option (List String) := none
  adminId : String := ""
  adminIds : Option (List String) := none
  recipientId : String := ""
  recipientRole : String := ""
  fromRole : String := ""
  data : DataRefs := {}
  deriving DecidableEq

/-- `normalizeIdList` of one id. -/
def normalizeId (id : String) : List String := if id = "" then [] else [id]

/-- `normalizeIdList` of a list of ids, which may be absent. -/
def normalizeIdList (ids : Option (List String)) : List String :=
  (ids.getD []).filter (fun id => decide (id ≠ ""))

/-! ## Definitions of events -/

structure EventDefinition where
  role : NotificationRole
  recipientIds : Payload → List String

/-- `payload.userId || payload.customerId`. -/
def userOrCustomer (payload : Payload) : List String :=
  normalizeId (orElse payload.userId payload.customerId)

/-- `payload.customerId || payload.userId`. -/
def customerOrUser (payload : Payload) : List String :=
  normalizeId (orElse payload.customerId payload.userId)

/-- `payload.sellerId || payload.sellerIds`. -/
def sellerOrSellers (payload : Payload) : List String :=
  if payload.sellerId = "" then normalizeIdList payload.sellerIds else [payload.sellerId]

/-- `payload.adminIds || payload.adminId`: a list of no ids counts as present. -/
def adminsOrAdmin (payload : Payload) : List String :=
  match payload.adminIds with
  | some ids => normalizeIdList (some ids)
  | none => normalizeId payload.adminId

def toCustomer : EventDefinition := ⟨.customer, userOrCustomer⟩

def toReturningCustomer : EventDefinition := ⟨.customer, customerOrUser⟩

def toSeller : EventDefinition := ⟨.seller, fun payload => normalizeId payload.sellerId⟩

def toRider : EventDefinition := ⟨.delivery, fun payload => normalizeId payload.deliveryId⟩

def toRiders : EventDefinition := ⟨.delivery, fun payload => normalizeIdList payload.deliveryIds⟩

def toAdmins : EventDefinition := ⟨.admin, fun payload => normalizeIdList payload.adminIds⟩

def toChatRole (role : NotificationRole) : EventDefinition where
  role := role
  recipientIds payload :=
    if payload.recipientRole = role.text then normalizeId payload.recipientId else []

/-- `eventDefinition`: one definition, or those under `multi`. -/
def eventDefinition : NotificationEvent → List EventDefinition
  | .orderPlaced => [toCustomer]
  | .paymentSuccess => [toCustomer]
  | .orderConfirmed => [toCustomer]
  | .orderPacked => [toCustomer]
  | .outForDelivery => [toCustomer]
  | .orderDelivered => [toCustomer, toSeller, toRider]
  | .orderCancelled => [toCustomer, ⟨.seller, sellerOrSellers⟩]
  | .refundInitiated => [toCustomer]
  | .refundCompleted => [toCustomer]
  | .newOrder => [⟨.seller, sellerOrSellers⟩]
  | .deliveryAssigned => [toRider]
  | .newDeliveryBroadcast => [toRiders]
  | .orderReady => [toRider]
  | .returnRequested => [toSeller]
  | .returnApproved => [toReturningCustomer]
  | .returnRejected => [toReturningCustomer]
  | .newReturnBroadcast => [toRiders]
  | .returnPickupAssigned => [toRider]
  | .returnPickupOtp => [toReturningCustomer]
  | .returnDropOtp => [toSeller]
  | .returnCompleted => [toSeller]
  | .returnQcPassed => [toReturningCustomer]
  | .returnQcFailed => [toReturningCustomer]
  | .supportTicketMessage =>
    [⟨.admin, fun payload =>
        if toLowerCase payload.fromRole = "admin" then [] else normalizeIdList payload.adminIds⟩,
      ⟨.customer, fun payload =>
        if toLowerCase payload.fromRole = "admin" then userOrCustomer payload else []⟩]
  | .supportTicketStatusUpdated => [toCustomer]
  | .productModerationRequest => [toAdmins]
  | .newSellerRegistration => [toAdmins]
  | .newDeliveryRegistration => [toAdmins]
  | .lowStockAlert => [toSeller]
  | .withdrawalRequested => [⟨.admin, adminsOrAdmin⟩]
  | .withdrawalStatusUpdated =>
    [⟨.seller, fun payload => normalizeId (orElse payload.userId payload.sellerId)⟩]
  | .chatMessage => [toChatRole .customer, toChatRole .seller, toChatRole .delivery]
  | .sellerReadyForPickup => [toRider]
  | .pickupEtaUpdated => [toRider]
  | .communicationIssueReported => [toAdmins, toSeller]
  | .communicationIssueEscalated => [toAdmins]
  | .cancellationRequested => [toAdmins, toSeller]
  | .cancellationApproved => [toCustomer]
  | .cancellationRejected => [toCustomer]
  | .cancellationWithdrawn => [toAdmins, toSeller]
  | .cancellationTransferred => [toCustomer, toAdmins]
  | .riderStopPickup => [toRider]
  | .riderReturnParcel => [toRider]
  | .cancelledParcelReturned => [toSeller]
  | .refundFailed => [toCustomer, toAdmins]

/-- `eventData`, as far as it goes into a key: `payload.data` is spread over what the event says. -/
def eventData (eventType : NotificationEvent) (payload : Payload) : DataRefs :=
  let own : DataRefs :=
    match eventType with
    | .lowStockAlert =>
      { productId := some (trim payload.productId), variantSku := some (trim payload.variantSku) }
    | .newSellerRegistration | .newDeliveryRegistration | .withdrawalRequested
    | .supportTicketMessage | .supportTicketStatusUpdated => {}
    | _ => { orderId := some (trim payload.orderId) }
  { orderId := payload.data.orderId <|> own.orderId
    productId := payload.data.productId <|> own.productId
    variantSku := payload.data.variantSku <|> own.variantSku }

structure Notification where
  userId : String
  role : NotificationRole
  type : NotificationEvent
  data : DataRefs

def buildNotification (eventType : NotificationEvent) (payload : Payload) : List Notification :=
  (eventDefinition eventType).flatMap (fun definition =>
    (definition.recipientIds payload).map (fun recipientId =>
      { userId := recipientId
        role := definition.role
        type := eventType
        data := eventData eventType payload }))

/-! ## Keys -/

/-- The references of `dedupeKeyForNotification`, in its order. -/
def orderRefs (notification : Notification) (payload : Payload) : List String :=
  [payload.eventId, payload.messageId, payload.messageCreatedAt, payload.ticketId, payload.orderId,
    payload.productId, payload.variantSku, notification.data.orderId.getD "",
    notification.data.productId.getD "", notification.data.variantSku.getD "",
    payload.checkoutGroupId, payload.userId, notification.userId, "unknown"]

/-- The first reference that is not empty. -/
def orderRef (notification : Notification) (payload : Payload) : String :=
  ((orderRefs notification payload).find? (fun ref => decide (ref ≠ ""))).getD "unknown"

def dedupeKeyForNotification (eventType : NotificationEvent) (notification : Notification)
    (payload : Payload) : String :=
  ":".intercalate
    ["notify", eventType.text, notification.role.text, orElse notification.userId "unknown",
      orderRef notification payload]

/-! ## Preferences -/

/-- What a user wants to hear of. -/
structure NotificationPreference where
  orderUpdates : Bool := true
  deliveryUpdates : Bool := true
  chatMessages : Bool := true

def isOrderUpdateEvent (eventType : NotificationEvent) : Bool :=
  decide (eventType ∈ ([.orderPlaced, .paymentSuccess, .orderConfirmed, .orderPacked,
    .outForDelivery, .orderDelivered, .orderCancelled, .refundInitiated, .refundCompleted,
    .newOrder, .returnRequested, .returnApproved, .returnRejected, .returnCompleted] :
      List NotificationEvent))

def isDeliveryUpdateEvent (eventType : NotificationEvent) : Bool :=
  decide (eventType ∈ ([.deliveryAssigned, .orderReady, .returnPickupAssigned, .returnPickupOtp,
    .sellerReadyForPickup, .pickupEtaUpdated] : List NotificationEvent))

def isAllowedByPreference (eventType : NotificationEvent) (preference : NotificationPreference) :
    Bool :=
  if eventType = .chatMessage then preference.chatMessages
  else if isDeliveryUpdateEvent eventType = true then preference.deliveryUpdates
  else if isOrderUpdateEvent eventType = true then preference.orderUpdates
  else true

end DiscountBazar.Notifications
