/-
Order chat: the documents and the operations on them (`orderConversation.js`,
`orderChatMessage.js`, and the queries of `communicationService.js`).

A conversation is stored once for an order, a channel and a rider, so its key stands for its id. Any
operation may fail, before its effect or after it.
-/
import DiscountBazar.Chat.Access
import DiscountBazar.Lib.Tasks
import Mathlib.Data.List.Sort

namespace DiscountBazar.Chat

open Finance Tasks

/-! ## Documents -/

inductive ConversationStatus where
  | active | closed | revoked
  deriving DecidableEq

/-- The side of a conversation that a receipt belongs to. -/
inductive Side where
  | rider | counterpart

structure Receipt where
  deliveredSeq : ℕ := 0
  readSeq : ℕ := 0

/-- The unique index of the conversations. -/
structure Key where
  orderId : ObjectId
  channel : Channel
  riderId : ObjectId
  deriving DecidableEq

structure Conversation where
  key : Key
  /-- `customerId` or `sellerId`, by the channel -/
  counterpartId : Option ObjectId
  assignmentVersion : ℕ
  status : ConversationStatus := .active
  lastSeq : ℕ := 0
  lastMessageAt : Option Date := none
  rider : Receipt := {}
  counterpart : Receipt := {}

structure Message where
  id : ObjectId
  conversationId : Key
  seq : ℕ
  senderRole : Role
  senderId : ObjectId
  clientMessageId : String
  text : String
  createdAt : Date
  deriving DecidableEq

inductive IssueStatus where
  | open | acknowledged | resolved
  deriving DecidableEq

structure Issue where
  id : ObjectId
  orderId : ObjectId
  channel : Channel
  reporterRole : Role
  reporterId : ObjectId
  reason : String
  status : IssueStatus := .open
  createdAt : Date
  deriving DecidableEq

/-- What is shown of a customer, a seller or a rider. -/
structure Person where
  name : Option String := none
  profileImage : Option String := none
  vehicleType : Option String := none
  deriving DecidableEq

/-- Who calls: the role of its account and its id. -/
structure User where
  role : String
  id : ObjectId
  deriving DecidableEq

/-! ## Answers -/

structure SvcErr where
  message : String
  statusCode : ℕ
  code : String
  access : Option Decision := none
  deriving DecidableEq

inductive ChatError where
  | svc (error : SvcErr)
  | duplicateKey
  | database
  deriving DecidableEq

/-- What `serializeMessage` shows. -/
structure MessageView where
  id : ObjectId
  conversationId : Key
  seq : ℕ
  senderRole : Role
  mine : Bool
  clientMessageId : Option String
  text : String
  createdAt : Date
  deriving DecidableEq

structure ReceiptView where
  peerDeliveredSeq : ℕ
  peerReadSeq : ℕ
  myReadSeq : ℕ
  deriving DecidableEq

structure ConversationView where
  id : Key
  status : ConversationStatus
  lastSeq : ℕ
  lastMessageAt : Option Date
  receipts : ReceiptView
  deriving DecidableEq

structure PublicDecision where
  allowed : Bool
  canSend : Bool
  canCall : Bool
  readOnly : Bool
  reason : Option AccessReason
  deriving DecidableEq

/-- What `listMessages` returns. -/
structure Page where
  orderId : ObjectId
  channel : Option Channel
  access : PublicDecision
  conversation : Option ConversationView
  messages : List MessageView
  hasMore : Bool
  deriving DecidableEq

structure ChannelState where
  channel : Channel
  counterpartName : Option String
  access : PublicDecision
  conversation : Option ConversationView
  unread : ℕ
  deriving DecidableEq

structure OpenIssue where
  id : ObjectId
  channel : Channel
  reason : String
  status : IssueStatus
  createdAt : Date
  deriving DecidableEq

/-- What a rider who took an order over is told of its issues. -/
structure PriorIssue where
  reason : String
  reporterRole : Role
  createdAt : Date
  deriving DecidableEq

/-- What `getCommunicationState` returns. -/
structure CommunicationState where
  orderId : ObjectId
  role : Role
  workflowStatus : WorkflowStatus
  assigned : Bool
  waitingForRider : Bool
  delayed : Bool
  assignmentVersion : ℕ
  riderShown : Option Person
  sellerReadyAt : Option Date
  sellerReadyEtaAt : Option Date
  riderArrivedAt : Option Date
  pickupConfirmedAt : Option Date
  canMarkReady : Bool
  channels : List ChannelState
  openIssues : List OpenIssue
  config : Config
  handover : Option (List PriorIssue)
  deriving DecidableEq

inductive Response where
  | sent (message : MessageView) (duplicate : Bool)
  | page (page : Page)
  | receipts (conversation : Option ConversationView)
  | state (state : CommunicationState)
  | failed (error : ChatError)
  deriving DecidableEq

/-- An answer as it was given, and the call it was given to, with the order that call had loaded. -/
structure Answer where
  task : ℕ
  user : User
  order : Order
  response : Response

/-- The database, with the orders and the people the calls read, and, as history, the answers that
have reached the callers. -/
structure World where
  orders : ObjectId → Option Order := fun _ => none
  config : Config := {}
  people : Role → ObjectId → Option Person := fun _ _ => none
  conversations : Table Conversation.key := Table.empty
  messages : List Message := []
  issues : List Issue := []
  answers : List Answer := []

/-! ## Operations -/

inductive Kind where
  | findPerson (role : Role) (id : Option ObjectId)
  | findIssues (orderId : ObjectId) (reporterId : Option ObjectId) (limit : ℕ)
  | findConversation (key : Key)
  /-- `findOneAndUpdate(key, { $setOnInsert: insert }, { upsert: true, new: true })` -/
  | upsertConversation (key : Key) (counterpartId : Option ObjectId) (assignmentVersion : ℕ)
  | findMessage (conversationId : Key) (senderId : ObjectId) (clientMessageId : String)
  /-- `$inc: { lastSeq: 1 }` on the conversation while it is active -/
  | nextSeq (conversationId : Key) (now : Date)
  | createMessage (message : Message)
  /-- `seq: { $gt: afterSeq }`, lowest first -/
  | messagesAfter (conversationId : Key) (afterSeq : ℕ) (limit : ℕ)
  /-- `seq: { $lt: beforeSeq }` where it is given, highest first -/
  | messagesBefore (conversationId : Key) (beforeSeq : Option ℕ) (limit : ℕ)
  | countMessages (conversationId : Key) (afterSeq : ℕ) (notFrom : ObjectId)
  /-- `$max` on the receipts of one side -/
  | raiseReceipts (conversationId : Key) (side : Side) (deliveredSeq readSeq : ℕ)
  | findOpen (orderId : ObjectId)
  /-- `updateOne({ _id, status: "active" }, { $set: { status } })`, to `revoked` or to `closed` -/
  | close (conversationId : Key) (revoked : Bool)
  | respond (user : User) (order : Order) (response : Response)

@[reducible] def Kind.Reply : Kind → Type
  | .findPerson _ _ => Option Person
  | .findIssues _ _ _ => List Issue
  | .findConversation _ => Option Conversation
  | .upsertConversation _ _ _ => Conversation
  | .findMessage _ _ _ => Option Message
  | .nextSeq _ _ => Option Conversation
  | .createMessage _ => Unit
  | .messagesAfter _ _ _ => List Message
  | .messagesBefore _ _ _ => List Message
  | .countMessages _ _ _ => ℕ
  | .raiseReceipts _ _ _ _ => Option Conversation
  | .findOpen _ => List Conversation
  | .close _ _ => Unit
  | .respond _ _ _ => Unit

/-- The messages of a conversation with a number above `afterSeq`, lowest first. -/
def World.after (s : World) (key : Key) (afterSeq : ℕ) : List Message :=
  (s.messages.filter (fun m => decide (m.conversationId = key ∧ afterSeq < m.seq))).insertionSort
    (fun m m' => m.seq ≤ m'.seq)

/-- The messages of a conversation with a number below `beforeSeq`, highest first. -/
def World.before (s : World) (key : Key) (beforeSeq : Option ℕ) : List Message :=
  (s.messages.filter (fun m =>
    decide (m.conversationId = key) && beforeSeq.all (fun n => decide (m.seq < n)))).insertionSort
    (fun m m' => m'.seq ≤ m.seq)

def World.openIssues (s : World) (orderId : ObjectId) (reporterId : Option ObjectId) : List Issue :=
  (s.issues.filter (fun issue =>
    decide (issue.orderId = orderId ∧ issue.status ≠ .resolved) &&
      reporterId.all (fun id => decide (issue.reporterId = id)))).insertionSort
    (fun issue issue' => issue'.createdAt ≤ issue.createdAt)

def World.sentAs (s : World) (key : Key) (senderId : ObjectId) (clientMessageId : String) :
    Option Message :=
  s.messages.find? (fun m =>
    decide (m.conversationId = key ∧ m.senderId = senderId ∧ m.clientMessageId = clientMessageId))

/-- One of the two unique indexes of the messages has the entry already. -/
def World.taken (s : World) (message : Message) : Bool :=
  s.messages.any (fun m =>
    decide (m.conversationId = message.conversationId ∧
      (m.seq = message.seq ∨
        m.senderId = message.senderId ∧ m.clientMessageId = message.clientMessageId)))

def Conversation.raised (c : Conversation) (side : Side) (deliveredSeq readSeq : ℕ) :
    Conversation :=
  match side with
  | .rider =>
    { c with
      rider := ⟨max c.rider.deliveredSeq deliveredSeq, max c.rider.readSeq readSeq⟩ }
  | .counterpart =>
    { c with
      counterpart :=
        ⟨max c.counterpart.deliveredSeq deliveredSeq, max c.counterpart.readSeq readSeq⟩ }

def World.upserted (s : World) (key : Key) (counterpartId : Option ObjectId)
    (assignmentVersion : ℕ) : Conversation × World :=
  match s.conversations.get? key with
  | some c => (c, s)
  | none =>
    let c : Conversation :=
      { key := key, counterpartId := counterpartId, assignmentVersion := assignmentVersion }
    (c, { s with conversations := s.conversations.insert c })

def Conversation.next (c : Conversation) (now : Date) : Conversation :=
  { c with lastSeq := c.lastSeq + 1, lastMessageAt := some now }

def World.numbered (s : World) (key : Key) (now : Date) : Option Conversation × World :=
  match (s.conversations.get? key).filter (fun c => decide (c.status = .active)) with
  | some c => (some (c.next now), { s with conversations := s.conversations.set (c.next now) })
  | none => (none, s)

def World.receipted (s : World) (key : Key) (side : Side) (deliveredSeq readSeq : ℕ) :
    Option Conversation × World :=
  match s.conversations.get? key with
  | some c =>
    let c' := c.raised side deliveredSeq readSeq
    (some c', { s with conversations := s.conversations.set c' })
  | none => (none, s)

def World.closed (s : World) (key : Key) (revoked : Bool) : World :=
  match (s.conversations.get? key).filter (fun c => decide (c.status = .active)) with
  | some c =>
    { s with
      conversations := s.conversations.set
        { c with status := if revoked then .revoked else .closed } }
  | none => s

def effect (task : ℕ) (s : World) : (kind : Kind) → Except ChatError kind.Reply × World
  | .findPerson role id => (.ok (id.bind (s.people role)), s)
  | .findIssues orderId reporterId limit => (.ok ((s.openIssues orderId reporterId).take limit), s)
  | .findConversation key => (.ok (s.conversations.get? key), s)
  | .upsertConversation key counterpartId assignmentVersion =>
    (.ok (s.upserted key counterpartId assignmentVersion).1,
      (s.upserted key counterpartId assignmentVersion).2)
  | .findMessage key senderId clientMessageId => (.ok (s.sentAs key senderId clientMessageId), s)
  | .nextSeq key now => (.ok (s.numbered key now).1, (s.numbered key now).2)
  | .createMessage message =>
    if s.taken message then (.error .duplicateKey, s)
    else (.ok (), { s with messages := s.messages ++ [message] })
  | .messagesAfter key afterSeq limit => (.ok ((s.after key afterSeq).take limit), s)
  | .messagesBefore key beforeSeq limit => (.ok ((s.before key beforeSeq).take limit), s)
  | .countMessages key afterSeq notFrom =>
    (.ok ((s.after key afterSeq).countP (fun m => decide (m.senderId ≠ notFrom))), s)
  | .raiseReceipts key side deliveredSeq readSeq =>
    (.ok (s.receipted key side deliveredSeq readSeq).1,
      (s.receipted key side deliveredSeq readSeq).2)
  | .findOpen orderId =>
    (.ok (s.conversations.rows.filter
      (fun c => decide (c.key.orderId = orderId ∧ c.status = .active))), s)
  | .close key revoked => (.ok (), s.closed key revoked)
  | .respond user order response =>
    (.ok (), { s with answers := s.answers ++ [⟨task, user, order, response⟩] })

/-- An answer that is lost has not reached the caller. -/
def outcomeOf : Kind → Outcome ChatError → Outcome ChatError
  | .respond _ _ _, .lost e => .refused e
  | _, outcome => outcome

def performOp (task : ℕ) (kind : Kind) (outcome : Outcome ChatError) (s : World) :
    Option (Except ChatError kind.Reply × World) :=
  some ((outcomeOf kind outcome).perform (effect task s kind) s)

end DiscountBazar.Chat
