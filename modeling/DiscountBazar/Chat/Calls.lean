/-
Order chat: the calls (`communicationService.js`).

Each call loads the order, decides access from it and then works on the database one operation at a
time; calls of both parties and runs of the reconciler interleave. The audit trail, sockets and
notifications are left out.
-/
import DiscountBazar.Chat.Conversations
import DiscountBazar.Pricing.Coupon

namespace DiscountBazar.Chat

open Finance Tasks Function
open Prog (perform)
open Pricing (trim)

abbrev M := Prog Kind Kind.Reply ChatError

def ofExcept {α : Type} : Except ChatError α → M α
  | .ok a => pure a
  | .error e => Prog.throw e

def svcErr {α : Type} (message : String) (statusCode : ℕ) (code : String)
    (access : Option Decision := none) : Except ChatError α :=
  .error (.svc ⟨message, statusCode, code, access⟩)

/-! ## Authorization -/

def requireRole (user : User) : Except ChatError Role :=
  match normalizeCommRole user.role with
  | some .customer => .ok .customer
  | some .seller => .ok .seller
  | some .rider => .ok .rider
  | _ => svcErr "Access denied" 403 "ROLE_NOT_ALLOWED"

def denialMessage : AccessReason → Option String
  | .channelInvalid => some "Unknown conversation type"
  | .channelNotForRole => some "This conversation is not available to your account"
  | .riderNotAssigned => some "A delivery partner has not been assigned to this order yet"
  | .statusNotEligible => some "Messaging is not available at this stage of the order"
  | .chatDisabled => some "In-app chat is currently disabled"
  | _ => none

def AccessReason.code : AccessReason → String
  | .channelInvalid => "CHANNEL_INVALID"
  | .channelNotForRole => "CHANNEL_NOT_FOR_ROLE"
  | .notAParty => "NOT_A_PARTY"
  | .notAssignedRider => "NOT_ASSIGNED_RIDER"
  | .riderNotAssigned => "RIDER_NOT_ASSIGNED"
  | .statusNotEligible => "STATUS_NOT_ELIGIBLE"
  | .chatDisabled => "CHAT_DISABLED"

def throwDenied {α : Type} (decision : Decision) : Except ChatError α :=
  match decision.reason with
  | some .notAParty | some .notAssignedRider => svcErr "Order not found" 404 "ACCESS_EXPIRED"
  | some reason =>
    svcErr ((denialMessage reason).getD "Access denied")
      (if reason = .channelInvalid then 400 else 403) reason.code (some decision)
  | none => svcErr "Access denied" 403 "ACCESS_DENIED" (some decision)

inductive Need where
  | view | send
  deriving DecidableEq

def Need.met (decision : Decision) : Need → Bool
  | .view => decision.allowed
  | .send => decision.canSend

/-- What `authorize` returns, besides the order and the configuration. -/
structure Access where
  role : Role
  decision : Decision

/-- `authorize`, once the order and the configuration are loaded. -/
def authorize (user : User) (order : Order) (config : Config) (channel : Option Channel)
    (need : Need) : Except ChatError Access := do
  let role ← requireRole user
  let decision := evaluateChannelAccess role user.id order channel config
  if need.met decision then .ok ⟨role, decision⟩
  else if decision.allowed = true ∧ need ≠ .view then
    -- visible, but closed or switched off
    svcErr ((decision.reason.bind denialMessage).getD "This conversation is read-only") 403
      ((decision.reason.map AccessReason.code).getD "READ_ONLY") (some decision)
  else throwDenied decision

def conversationKey (order : Order) (channel : Option Channel) : Option Key :=
  channel.bind fun c => order.deliveryBoy.map fun rider => ⟨order.orderId, c, rider⟩

def findConversation (order : Order) (channel : Option Channel) : M (Option Conversation) :=
  match conversationKey order channel with
  | none => pure none
  | some key => perform (Kind.findConversation key)

/-- `customerId` or `sellerId`, by the channel. -/
def counterpartOf (order : Order) : Channel → Option ObjectId
  | .customerRider => order.customer
  | .sellerRider => order.seller

def upsertConversation (order : Order) (key : Key) : M Conversation :=
  perform
    (Kind.upsertConversation key (counterpartOf order key.channel) order.assignmentVersion)

/-- The upsert once more, where another one came in between. -/
def retryUpsert (order : Order) (key : Key) : ChatError → M Conversation
  | .duplicateKey => upsertConversation order key
  | e => Prog.throw e

/-- `getOrCreateConversation`; without a rider there is no key to ask for. -/
def getOrCreateConversation (order : Order) (channel : Option Channel) : M Conversation :=
  match conversationKey order channel with
  | none => Prog.throw .database
  | some key => (upsertConversation order key).tryCatch (retryUpsert order key)

/-! ## Views -/

def serializeMessage (viewerId : ObjectId) (message : Message) : MessageView where
  id := message.id
  conversationId := message.conversationId
  seq := message.seq
  senderRole := message.senderRole
  mine := decide (message.senderId = viewerId)
  clientMessageId := if message.senderId = viewerId then some message.clientMessageId else none
  text := message.text
  createdAt := message.createdAt

def receiptSideForRole : Role → Side
  | .rider => .rider
  | _ => .counterpart

def Conversation.receipt (c : Conversation) : Side → Receipt
  | .rider => c.rider
  | .counterpart => c.counterpart

def otherSide : Side → Side
  | .rider => .counterpart
  | .counterpart => .rider

def conversationView (viewerRole : Role) (c : Conversation) : ConversationView :=
  let mySide := receiptSideForRole viewerRole
  { id := c.key
    status := c.status
    lastSeq := c.lastSeq
    lastMessageAt := c.lastMessageAt
    receipts :=
      { peerDeliveredSeq := (c.receipt (otherSide mySide)).deliveredSeq
        peerReadSeq := (c.receipt (otherSide mySide)).readSeq
        myReadSeq := (c.receipt mySide).readSeq } }

def publicDecision (decision : Decision) : PublicDecision :=
  ⟨decision.allowed, decision.canSend, decision.canCall, decision.readOnly, decision.reason⟩

/-! ## `listMessages` -/

/-- The query of a listing; `none` is what `parseInt` does not read. -/
structure ListOptions where
  limit : Option ℤ := none
  afterSeq : Option ℤ := none
  beforeSeq : Option ℤ := none
  deriving DecidableEq

def pageLimit (config : Config) (opts : ListOptions) : ℕ :=
  let asked := match opts.limit with
    | some n => if n = 0 then (config.historyPageSize : ℤ) else n
    | none => config.historyPageSize
  (min (max asked 1) 100).toNat

/-- The page is read forwards from a number the client has. -/
def forwardFrom (opts : ListOptions) : Option ℕ :=
  opts.afterSeq.bind fun n => if 0 ≤ n then some n.toNat else none

/-- The number below which the page is read backwards. -/
def backwardFrom (opts : ListOptions) : Option ℕ :=
  opts.beforeSeq.bind fun n => if 0 < n then some n.toNat else none

/-- The rows of a page, oldest first, and whether there are more. -/
def pageRows (config : Config) (opts : ListOptions) (c : Conversation) :
    M (List Message × Bool) :=
  let limit := pageLimit config opts
  match forwardFrom opts with
  | some afterSeq => do
      let rows ← perform (Kind.messagesAfter c.key afterSeq (limit + 1))
      pure (rows.take limit, decide (limit < rows.length))
  | none => do
      let rows ← perform (Kind.messagesBefore c.key (backwardFrom opts) (limit + 1))
      pure ((rows.take limit).reverse, decide (limit < rows.length))

def pageOf (config : Config) (opts : ListOptions) : Option Conversation → M (List Message × Bool)
  | none => pure ([], false)
  | some c => pageRows config opts c

def listMessages (user : User) (order : Order) (config : Config) (channel : Option Channel)
    (opts : ListOptions) : M Response := do
  let access ← ofExcept (authorize user order config channel .view)
  let conversation ← findConversation order channel
  let rows ← pageOf config opts conversation
  pure (.page
    { orderId := order.orderId
      channel := channel
      access := publicDecision access.decision
      conversation := conversation.map (conversationView access.role)
      messages := rows.1.map (serializeMessage user.id)
      hasMore := rows.2 })

/-! ## `sendMessage` -/

/-- The body of a message; `none` is what is not a string. -/
structure Body where
  clientMessageId : Option String
  text : Option String
  deriving DecidableEq

/-- `CLIENT_ID_PATTERN`. -/
def isClientId (s : String) : Bool :=
  decide (8 ≤ s.toList.length ∧ s.toList.length ≤ 64) &&
    s.toList.all (fun c => c.isAlphanum || decide (c = '_') || decide (c = '-'))

/-- `CONTROL_CHARS`. -/
def isControl (c : Char) : Bool :=
  let n := c.toNat
  decide (n ≤ 8) || decide (n = 11) || decide (n = 12) || decide (14 ≤ n ∧ n ≤ 31) ||
    decide (127 ≤ n ∧ n ≤ 159)

/-- `replace(/\r\n?/g, "\n")`. -/
def unifyNewlines : List Char → List Char
  | '\r' :: '\n' :: cs => '\n' :: unifyNewlines cs
  | '\r' :: cs => '\n' :: unifyNewlines cs
  | c :: cs => c :: unifyNewlines cs
  | [] => []

/-- `replace(/\n{3,}/g, "\n\n")`, after that many newlines. -/
def collapseNewlines : ℕ → List Char → List Char
  | _, [] => []
  | n, c :: cs =>
    if c = '\n' then
      if n < 2 then '\n' :: collapseNewlines (n + 1) cs else collapseNewlines n cs
    else c :: collapseNewlines 0 cs

def cleanText (text : String) : String :=
  trim (String.ofList
    (collapseNewlines 0 (unifyNewlines (text.toList.filter (fun c => !isControl c)))))

/-- `length`, in UTF-16 code units. -/
def utf16Length (s : String) : ℕ :=
  (s.toList.map (fun c => if c.toNat < 65536 then 1 else 2)).sum

/-- `validateMessageInput`, with the client message id. -/
def validateMessageInput (body : Body) (config : Config) : Except ChatError (String × String) :=
  match body.clientMessageId.filter isClientId, body.text with
  | none, _ => svcErr "A valid clientMessageId is required" 400 "INVALID_CLIENT_ID"
  | some _, none => svcErr "Only text messages are supported" 400 "UNSUPPORTED_CONTENT"
  | some clientMessageId, some text =>
    let cleaned := cleanText text
    if cleaned = "" then svcErr "Message cannot be empty" 400 "EMPTY_MESSAGE"
    else if config.messageMaxLength < utf16Length cleaned then
      svcErr (s!"Message is too long (max {config.messageMaxLength} characters)") 400
        "MESSAGE_TOO_LONG"
    else .ok (clientMessageId, cleaned)

def conversationClosed {α : Type} : M α :=
  ofExcept (svcErr "This conversation is closed" 409 "CONVERSATION_CLOSED")

/-- The stored copy of a message whose insert met a unique index. -/
def answerRaced (user : User) (message : Message) : ChatError → M Response
  | .duplicateKey => do
      let raced ← perform
        (Kind.findMessage message.conversationId message.senderId message.clientMessageId)
      match raced with
      | some stored => pure (.sent (serializeMessage user.id stored) true)
      | none => Prog.throw .duplicateKey
  | e => Prog.throw e

def storeMessage (user : User) (message : Message) : M Response :=
  (do
    perform (Kind.createMessage message)
    pure (Response.sent (serializeMessage user.id message) false) : M Response).tryCatch
      (answerRaced user message)

/-- What a call stores of itself: the id of its message, and the time. -/
structure Stamp where
  messageId : ObjectId
  now : Date
  deriving DecidableEq

/-- The message under the number that was taken for it. -/
def postMessage (user : User) (role : Role) (key : Key) (input : String × String) (stamp : Stamp) :
    Option Conversation → M Response
  | none => conversationClosed
  | some bumped => storeMessage user
      { id := stamp.messageId
        conversationId := key
        seq := bumped.lastSeq
        senderRole := role
        senderId := user.id
        clientMessageId := input.1
        text := input.2
        createdAt := stamp.now }

def answerOrPost (user : User) (role : Role) (key : Key) (input : String × String) (stamp : Stamp) :
    Option Message → M Response
  | some existing => pure (.sent (serializeMessage user.id existing) true)
  | none => do
      let bumped ← perform (Kind.nextSeq key stamp.now)
      postMessage user role key input stamp bumped

def sendIn (user : User) (role : Role) (input : String × String) (stamp : Stamp)
    (c : Conversation) : M Response :=
  if c.status = .active then do
    let existing ← perform (Kind.findMessage c.key user.id input.1)
    answerOrPost user role c.key input stamp existing
  else conversationClosed

/-- `sendMessage`. The configuration is read once for the body and once for the access. -/
def sendMessage (user : User) (order : Order) (bodyConfig config : Config)
    (channel : Option Channel) (body : Body) (stamp : Stamp) : M Response := do
  let input ← ofExcept (validateMessageInput body bodyConfig)
  let access ← ofExcept (authorize user order config channel .send)
  let conversation ← getOrCreateConversation order channel
  sendIn user access.role input stamp conversation

/-! ## `updateReceipts` -/

/-- The body of a receipt; `none` is what `parseInt` does not read. -/
structure ReceiptBody where
  deliveredUpToSeq : Option ℤ := none
  readUpToSeq : Option ℤ := none
  deriving DecidableEq

def clamp (lastSeq : ℕ) : Option ℤ → ℕ
  | none => 0
  | some n => if n ≤ 0 then 0 else min n.toNat lastSeq

def raiseReceipts (role : Role) (body : ReceiptBody) (c : Conversation) : M Response :=
  let readSeq := clamp c.lastSeq body.readUpToSeq
  let deliveredSeq := max (clamp c.lastSeq body.deliveredUpToSeq) readSeq
  if deliveredSeq = 0 then pure (.receipts (some (conversationView role c)))
  else do
    let updated ← perform
      (Kind.raiseReceipts c.key (receiptSideForRole role) deliveredSeq readSeq)
    pure (.receipts (updated.map (conversationView role)))

def receiptsOf (role : Role) (body : ReceiptBody) : Option Conversation → M Response
  | none => pure (.receipts none)
  | some c => raiseReceipts role body c

def updateReceipts (user : User) (order : Order) (config : Config) (channel : Option Channel)
    (body : ReceiptBody) : M Response := do
  let access ← ofExcept (authorize user order config channel .view)
  let conversation ← findConversation order channel
  receiptsOf access.role body conversation

/-! ## `getCommunicationState` -/

def firstText (texts : List (Option String)) (otherwise : String) : String :=
  ((texts.filterMap id).find? (fun s => decide (s ≠ ""))).getD otherwise

/-- What `counterpartNames` returns. -/
structure Names where
  customerRider : Option String := none
  sellerRider : Option String := none
  rider : Option Person := none

def Names.get (names : Names) : Channel → Option String
  | .customerRider => names.customerRider
  | .sellerRider => names.sellerRider

def counterpartNames (order : Order) (role : Role) : M Names :=
  if role = .rider then do
    let customer ← perform (Kind.findPerson .customer order.customer)
    let seller ← perform (Kind.findPerson .seller order.seller)
    pure
      { customerRider :=
          some (firstText [order.addressName, customer.bind Person.name] "Customer")
        sellerRider := some (firstText [seller.bind Person.name] "Store") }
  else if order.deliveryBoy.isSome then do
    let rider ← perform (Kind.findPerson .rider order.deliveryBoy)
    let label := firstText [rider.bind Person.name] "Delivery partner"
    pure
      { customerRider := some label
        sellerRider := some label
        rider := rider.map (fun r =>
          { r with name := some (firstText [r.name] "Delivery partner") }) }
  else pure {}

def unreadCount (role : Role) (userId : ObjectId) : Option Conversation → M ℕ
  | none => pure 0
  | some c =>
    let myRead := (c.receipt (receiptSideForRole role)).readSeq
    if c.lastSeq ≤ myRead then pure 0
    else perform (Kind.countMessages c.key myRead userId)

def visibleConversation (order : Order) (channel : Channel) (decision : Decision) :
    M (Option Conversation) :=
  if decision.allowed then findConversation order (some channel) else pure none

def channelState (user : User) (role : Role) (order : Order) (config : Config) (names : Names)
    (channel : Channel) : M ChannelState := do
  let decision := evaluateChannelAccess role user.id order (some channel) config
  let conversation ← visibleConversation order channel decision
  let unread ← unreadCount role user.id conversation
  let shown := publicDecision decision
  pure
    { channel := channel
      counterpartName :=
        if decision.riderId.isSome ∨ role = .rider then names.get channel else none
      -- history only makes sense if something was said
      access := if decision.readOnly = true ∧ conversation = none then
        { shown with allowed := false } else shown
      conversation := conversation.map (conversationView role)
      unread := unread }

def channelStates (user : User) (role : Role) (order : Order) (config : Config) (names : Names) :
    List Channel → M (List ChannelState)
  | [] => pure []
  | channel :: rest => do
      let one ← channelState user role order config names channel
      let others ← channelStates user role order config names rest
      pure (one :: others)

def preAssignment : List WorkflowStatus :=
  [.created, .sellerPending, .sellerAccepted, .deliverySearch]

def SELLER_READY_ALLOWED_STATUSES : List WorkflowStatus :=
  [.sellerAccepted, .deliverySearch, .deliveryAssigned, .pickupReady]

def assignmentDelayed (order : Order) (config : Config) (now : Date) : Bool :=
  decide (order.deliveryBoy = none) && decide (orderWorkflowStatus order = .deliverySearch) &&
    (order.sellerAcceptedAt.or order.createdAt).any (fun started =>
      decide ((config.riderAssignmentDelayMinutes : ℤ) * 60000 < now - started))

/-- The issues that a rider who took the order over is told of. -/
def handoverIssues (role : Role) (order : Order) : M (Option (List PriorIssue)) :=
  if role = .rider ∧ 1 < order.assignmentVersion then do
    let issues ← perform (Kind.findIssues order.orderId none 5)
    pure (some (issues.map (fun issue => ⟨issue.reason, issue.reporterRole, issue.createdAt⟩)))
  else pure none

def screenOf (user : User) (role : Role) (order : Order) (config : Config) (now : Date) :
    M Response := do
  let names ← counterpartNames order role
  let channels ← channelStates user role order config names (channelsForRole role)
  let issues ← perform (Kind.findIssues order.orderId (some user.id) 10)
  let handover ← handoverIssues role order
  let ws := orderWorkflowStatus order
  pure (.state
    { orderId := order.orderId
      role := role
      workflowStatus := ws
      assigned := order.deliveryBoy.isSome
      waitingForRider := order.deliveryBoy.isNone && decide (ws ∈ preAssignment)
      delayed := assignmentDelayed order config now
      assignmentVersion := order.assignmentVersion
      riderShown := if role = .rider then none else names.rider
      sellerReadyAt := order.sellerReadyAt
      sellerReadyEtaAt := order.sellerReadyEtaAt
      riderArrivedAt := order.pickupReadyAt
      pickupConfirmedAt := order.pickupConfirmedAt
      canMarkReady := decide (role = .seller ∧ order.sellerReadyAt = none ∧
        ws ∈ SELLER_READY_ALLOWED_STATUSES)
      channels := channels
      openIssues := issues.map (fun issue =>
        ⟨issue.id, issue.channel, issue.reason, issue.status, issue.createdAt⟩)
      config := config
      handover := handover })

def anyParty (user : User) (role : Role) (order : Order) : Bool :=
  (channelsForRole role).any (fun channel =>
    decide (partyCheck role user.id order (some channel) = none))

def getCommunicationState (user : User) (order : Order) (config : Config) (now : Date) :
    M Response := do
  let role ← ofExcept (requireRole user)
  if anyParty user role order then screenOf user role order config now
  else ofExcept (svcErr "Order not found" 404 "ACCESS_EXPIRED")

/-! ## `syncCommunicationState` -/

/-- What the reconciler does with an open conversation, given the order it has loaded. -/
def syncConversation (order : Order) (c : Conversation) : M Unit :=
  if order.deliveryBoy ≠ some c.key.riderId then perform (Kind.close c.key true)
  else if orderWorkflowStatus order ∈ activeStatuses c.key.channel then pure ()
  else perform (Kind.close c.key false)

def syncCommunicationState (order : Order) : M Unit := do
  let conversations ← perform (Kind.findOpen order.orderId)
  Prog.forEach (syncConversation order) conversations

/-! ## Calls -/

/-- What a call returns or throws is what its caller is told. -/
def answer (user : User) (order : Order) (p : M Response) : M Response := do
  let response ← p.tryCatch (fun e => pure (.failed e))
  perform (Kind.respond user order response)
  pure response

/-- The calls. One begins once it has loaded the order; before that it touches nothing. The
configuration it goes by may be a cached one. -/
inductive Call where
  | sendMessage (user : User) (order : Order) (bodyConfig config : Config)
      (channel : Option Channel) (body : Body) (stamp : Stamp)
  | listMessages (user : User) (order : Order) (config : Config) (channel : Option Channel)
      (opts : ListOptions)
  | updateReceipts (user : User) (order : Order) (config : Config) (channel : Option Channel)
      (body : ReceiptBody)
  | getCommunicationState (user : User) (order : Order) (config : Config) (now : Date)
  | syncCommunicationState (order : Order)
  deriving DecidableEq

def Call.order : Call → Order
  | .sendMessage _ order _ _ _ _ _ | .listMessages _ order _ _ _ | .updateReceipts _ order _ _ _
  | .getCommunicationState _ order _ _ | .syncCommunicationState order => order

def entry : Call → M Unit
  | .sendMessage user order bodyConfig config channel body stamp =>
    (answer user order (sendMessage user order bodyConfig config channel body stamp)).discard
  | .listMessages user order config channel opts =>
    (answer user order (listMessages user order config channel opts)).discard
  | .updateReceipts user order config channel body =>
    (answer user order (updateReceipts user order config channel body)).discard
  | .getCommunicationState user order config now =>
    (answer user order (getCommunicationState user order config now)).discard
  | .syncCommunicationState order => syncCommunicationState order

/-- What happens besides the calls: an order is assigned, unassigned or changes its status, settings
and issues change, and old messages run out. -/
inductive Event where
  | order (order : Order)
  | config (config : Config)
  | person (role : Role) (id : ObjectId) (person : Option Person)
  | issues (issues : List Issue)
  | expire (conversationId : Key) (seq : ℕ)
  deriving DecidableEq

def outside : Event → World → Option World
  | .order order, s => some { s with orders := update s.orders order.orderId (some order) }
  | .config config, s => some { s with config := config }
  | .person role id person, s =>
    let named := update (s.people role) id person
    some { s with people := update s.people role named }
  | .issues issues, s => some { s with issues := issues }
  | .expire conversationId seq, s =>
    let kept := s.messages.filter
      (fun m => decide ¬ (m.conversationId = conversationId ∧ m.seq = seq))
    some { s with messages := kept }

def mayStart (s : World) (call : Call) : Bool :=
  decide (s.orders call.order.orderId = some call.order)

def chat : System Kind Kind.Reply ChatError World (Outcome ChatError) Event Call where
  perform := performOp
  outside := outside
  entry := entry
  mayStart := mayStart

end DiscountBazar.Chat
