/-
What a rider can see of an order's chats does not depend on what was said to another rider.

The rider under whose name a conversation is stored is part of its key, and a call only asks for the
conversation of the rider it has found on the order. So the calls of one rider, and what the database
shows of them, are the same in any two histories that differ in messages exchanged while another
rider had the order.
-/
import DiscountBazar.Chat.Calls
import DiscountBazar.Lib.Hidden

namespace DiscountBazar.Chat

open Finance Tasks Table World Option Except

/-! ## What a call asks for -/

def Kind.conversation? : Kind → Option Key
  | .findConversation key => some key
  | .findMessage key _ _ | .nextSeq key _ | .messagesAfter key _ _ | .messagesBefore key _ _
  | .countMessages key _ _ | .raiseReceipts key _ _ _ | .close key _
  | .upsertConversation key _ _ => some key
  | .createMessage message => some message.conversationId
  | .findPerson _ _ | .findIssues _ _ _ | .findOpen _ | .respond _ _ _ => none

def replies : (kind : Kind) → Except ChatError kind.Reply → Prop
  | .findConversation key => fun r => ∀ c, r = .ok (some c) → c.key = key
  | .upsertConversation key _ _ => fun r => ∀ c, r = .ok c → c.key = key
  | _ => fun _ => True

/-- The user has its part in the order: its customer, its seller or its rider. -/
def PartyOf (user : User) (order : Order) : Prop :=
  ∃ role, normalizeCommRole user.role = some role ∧ IsParty role user.id order

def Asks (user : User) (order : Order) (kind : Kind) : Prop :=
  ∃ key, kind.conversation? = some key ∧ key.orderId = order.orderId ∧
    order.deliveryBoy = some key.riderId ∧ PartyOf user order

/-- One that stores no message. -/
def Reads (user : User) (order : Order) (kind : Kind) : Prop :=
  Asks user order kind ∧ ∀ message, kind ≠ .createMessage message

variable {user : User}

theorem normalizeCommRole_of_requireRole {role : Role} (h : requireRole user = .ok role) :
    normalizeCommRole user.role = some role := by
  unfold requireRole at h
  split at h
  · cases h; assumption
  · cases h; assumption
  · cases h; assumption
  · cases h

theorem requireRole_rider (id : ObjectId) : requireRole ⟨"delivery", id⟩ = .ok .rider := by
  have hrole : normalizeCommRole "delivery" = some .rider := by decide +kernel
  unfold requireRole
  dsimp only
  rw [hrole]

variable {order : Order} {config : Config} {channel : Option Channel} {need : Need}
  {access : Access}

theorem authorize_ok (h : authorize user order config channel need = .ok access) :
    requireRole user = .ok access.role ∧
      access.decision = evaluateChannelAccess access.role user.id order channel config ∧
        need.met access.decision = true := by
  unfold authorize at h
  cases hrole : requireRole user with
  | error e =>
    rw [hrole] at h
    cases h
  | ok role =>
    rw [hrole] at h
    change (if need.met (evaluateChannelAccess role user.id order channel config) then _ else _)
      = _ at h
    split at h
    next hmet =>
      cases h
      exact ⟨rfl, rfl, hmet⟩
    next =>
      -- every refusal is an error
      split at h
      · cases h
      · unfold throwDenied at h
        split at h
        · cases h
        · cases h
        · cases h
        · cases h

theorem authorize_allowed (h : authorize user order config channel need = .ok access) :
    (evaluateChannelAccess access.role user.id order channel config).allowed = true := by
  obtain ⟨-, hdecision, hmet⟩ := authorize_ok h
  rw [← hdecision]
  cases need with
  | view => exact hmet
  | send =>
    rw [hdecision] at hmet ⊢
    exact allowed_of_canSend hmet

/-- Whoever is let in is a party, and the conversation is that of the order's rider. -/
theorem asks_of_authorize (h : authorize user order config channel need = .ok access) {key : Key}
    (hkey : conversationKey order channel = some key) {kind : Kind}
    (hkind : kind.conversation? = some key) : Asks user order kind := by
  obtain ⟨c, rider, rfl, hrider, hcheck, -⟩ := allowed_cases (authorize_allowed h)
  have hrole := normalizeCommRole_of_requireRole (authorize_ok h).1
  unfold conversationKey at hkey
  rw [hrider] at hkey
  cases hkey
  exact ⟨_, hkind, rfl, hrider, access.role, hrole, isParty_of_partyCheck hcheck⟩

section Only

variable {P : Kind → Prop}

theorem only_ofExcept {α : Type} {x : Except ChatError α} :
    (ofExcept x).Only replies P (fun y => y = x) := by
  cases x with
  | ok | error => exact rfl

variable {order : Order} {channel : Option Channel}

theorem findConversation_only
    (h : ∀ key, conversationKey order channel = some key → P (.findConversation key)) :
    (findConversation order channel).Only replies P
      (fun x => ∀ c, x = .ok (some c) → conversationKey order channel = some c.key) := by
  unfold findConversation
  cases hkey : conversationKey order channel with
  | none => exact fun c hc => by cases hc
  | some key =>
    refine .perform (h key hkey) fun r hr c hc => ?_
    rw [hr c hc]

variable {config : Config}

theorem pageOf_only {opts : ListOptions} {c : Option Conversation}
    (h : ∀ conv kind, c = some conv → kind.conversation? = some conv.key →
      (∀ message, kind ≠ .createMessage message) → P kind) :
    (pageOf config opts c).Only replies P (fun _ => True) := by
  cases c with
  | none => exact trivial
  | some conv =>
    unfold pageOf pageRows
    dsimp only
    cases forwardFrom opts with
    | some | none =>
      exact .bind (.perform (h conv _ rfl rfl (by simp)) fun _ _ => trivial)
        (fun _ _ => trivial) fun _ _ => trivial

variable {user : User}

theorem only_authorized {need : Need} {f : Access → M Response}
    (hf : ∀ access, authorize user order config channel need = .ok access →
      (f access).Only replies P (fun _ => True)) :
    (ofExcept (authorize user order config channel need) >>= f).Only replies P
      (fun x => x.isOk = true → PartyOf user order) := by
  refine .bind only_ofExcept (fun access haccess => ?_) fun _ _ h => by cases h
  obtain ⟨c, rider, -, -, hcheck, -⟩ := allowed_cases (authorize_allowed haccess.symm)
  have hrole := normalizeCommRole_of_requireRole (authorize_ok haccess.symm).1
  exact (hf access haccess.symm).mono (fun _ => id) fun _ _ _ =>
    ⟨access.role, hrole, isParty_of_partyCheck hcheck⟩

theorem listMessages_only (user : User) (order : Order) (config : Config)
    (channel : Option Channel) (opts : ListOptions) :
    (listMessages user order config channel opts).Only replies (Reads user order)
      (fun x => x.isOk = true → PartyOf user order) := by
  unfold listMessages
  refine only_authorized fun access haccess => ?_
  refine .bind (findConversation_only fun key hkey =>
    ⟨asks_of_authorize haccess hkey rfl, by simp⟩) (fun c hc => ?_) fun _ _ => trivial
  refine .bind (pageOf_only fun conv kind hconv hkind hread => ?_) (fun _ _ => trivial)
    fun _ _ => trivial
  subst hconv
  exact ⟨asks_of_authorize haccess (hc conv rfl) hkind, hread⟩

theorem getOrCreateConversation_only
    (h : ∀ key kind, conversationKey order channel = some key → kind.conversation? = some key →
      P kind) :
    (getOrCreateConversation order channel).Only replies P
      (fun x => ∀ c, x = .ok c → conversationKey order channel = some c.key) := by
  unfold getOrCreateConversation
  cases hkey : conversationKey order channel with
  | none => exact fun c hc => by cases hc
  | some key =>
    have hperform : (upsertConversation order key).Only replies P
        (fun x => ∀ c, x = .ok c → some key = some c.key) :=
      .perform (h key _ hkey rfl) fun r hr c hc => by rw [hr c hc]
    refine hperform.tryCatch (fun e _ => ?_) fun c hc => hc
    cases e with
    | duplicateKey => exact hperform
    | svc | database => exact fun c hc => by cases hc

theorem storeMessage_only {message : Message}
    (h : ∀ kind, kind.conversation? = some message.conversationId → P kind) :
    (storeMessage user message).Only replies P (fun _ => True) := by
  unfold storeMessage
  refine Prog.Only.tryCatch (Q := fun _ => True) ?_ (fun e _ => ?_) fun _ _ => trivial
  · exact .bind (.perform (h _ rfl) fun _ _ => trivial) (fun _ _ => trivial) fun _ _ => trivial
  · cases e with
    | duplicateKey =>
      refine .bind (.perform (h _ rfl) fun _ _ => trivial) (fun raced _ => ?_) fun _ _ => trivial
      cases raced with
      | some | none => exact trivial
    | svc | database => exact trivial

variable {role : Role}

theorem sendIn_only {input : String × String} {stamp : Stamp} {c : Conversation}
    (h : ∀ kind, kind.conversation? = some c.key → P kind) :
    (sendIn user role input stamp c).Only replies P (fun _ => True) := by
  unfold sendIn
  refine .ite (fun _ => ?_) fun _ => trivial
  refine .bind (.perform (h _ rfl) fun _ _ => trivial) (fun existing _ => ?_) fun _ _ => trivial
  cases existing with
  | some message => exact trivial
  | none =>
    refine .bind (.perform (h _ rfl) fun _ _ => trivial) (fun bumped _ => ?_) fun _ _ => trivial
    cases bumped with
    | none => exact trivial
    | some c' => exact storeMessage_only h

theorem sendMessage_only (user : User) (order : Order) (bodyConfig config : Config)
    (channel : Option Channel) (body : Body) (stamp : Stamp) :
    (sendMessage user order bodyConfig config channel body stamp).Only replies (Asks user order)
      (fun x => x.isOk = true → PartyOf user order) := by
  unfold sendMessage
  refine .bind only_ofExcept (fun input _ => ?_) fun _ _ h => by cases h
  refine only_authorized fun access haccess => ?_
  refine .bind (getOrCreateConversation_only fun key kind hkey hkind =>
    asks_of_authorize haccess hkey hkind) (fun c hc => ?_) fun _ _ => trivial
  exact sendIn_only fun kind hkind => asks_of_authorize haccess (hc c rfl) hkind

theorem updateReceipts_only (user : User) (order : Order) (config : Config)
    (channel : Option Channel) (body : ReceiptBody) :
    (updateReceipts user order config channel body).Only replies (Reads user order)
      (fun x => x.isOk = true → PartyOf user order) := by
  unfold updateReceipts
  refine only_authorized fun access haccess => ?_
  refine .bind (findConversation_only fun key hkey =>
    ⟨asks_of_authorize haccess hkey rfl, by simp⟩) (fun c hc => ?_) fun _ _ => trivial
  cases c with
  | none => exact trivial
  | some conv =>
    unfold receiptsOf raiseReceipts
    refine .ite (fun _ => trivial) fun _ => ?_
    exact .bind (.perform ⟨asks_of_authorize haccess (hc conv rfl) rfl, by simp⟩
      fun _ _ => trivial) (fun _ _ => trivial) fun _ _ => trivial

/-! ## The order screen -/

/-- An operation on people and issues, which no chat changes. -/
def Kind.isLookup : Kind → Bool
  | .findPerson _ _ | .findIssues _ _ _ => true
  | _ => false

theorem counterpartNames_only (order : Order) (role : Role) :
    (counterpartNames order role).Only replies (fun kind => kind.isLookup = true)
      (fun _ => True) := by
  unfold counterpartNames
  refine .ite (fun _ => ?_) fun _ => .ite (fun _ => ?_) fun _ => trivial
  · refine .bind (.perform rfl fun _ _ => trivial) (fun _ _ => ?_) fun _ _ => trivial
    exact .bind (.perform rfl fun _ _ => trivial) (fun _ _ => trivial) fun _ _ => trivial
  · exact .bind (.perform rfl fun _ _ => trivial) (fun _ _ => trivial) fun _ _ => trivial

theorem handoverIssues_only (role : Role) (order : Order) :
    (handoverIssues role order).Only replies (fun kind => kind.isLookup = true)
      (fun _ => True) := by
  unfold handoverIssues
  refine .ite (fun _ => ?_) fun _ => trivial
  exact .bind (.perform rfl fun _ _ => trivial) (fun _ _ => trivial) fun _ _ => trivial

/-- The replies there can be, where none is an error if `ok`. -/
def repliesIf (ok : Prop) (kind : Kind) (r : Except ChatError kind.Reply) : Prop :=
  replies kind r ∧ (ok → r.isOk = true)

theorem channelState_only (ok : Prop) (hrole : requireRole user = .ok role) {names : Names}
    {channel : Channel} :
    (channelState user role order config names channel).Only (repliesIf ok) (Reads user order)
      (fun x => ok → x.isOk = true) := by
  unfold channelState
  -- a decision to allow is what `authorize` asks for
  have hasks : ∀ key kind, conversationKey order (some channel) = some key →
      (evaluateChannelAccess role user.id order (some channel) config).allowed = true →
        kind.conversation? = some key → (∀ message, kind ≠ .createMessage message) →
          Reads user order kind := by
    intro key kind hkey hallowed hkind hread
    have haccess : authorize user order config (some channel) .view
        = .ok ⟨role, evaluateChannelAccess role user.id order (some channel) config⟩ := by
      unfold authorize
      rw [hrole]
      exact if_pos hallowed
    exact ⟨asks_of_authorize haccess hkey hkind, hread⟩
  have hfind : (visibleConversation order channel
      (evaluateChannelAccess role user.id order (some channel) config)).Only (repliesIf ok)
        (Reads user order) (fun x => (ok → x.isOk = true) ∧ ∀ c, x = .ok (some c) →
          conversationKey order (some channel) = some c.key ∧
            (evaluateChannelAccess role user.id order (some channel) config).allowed = true) := by
    unfold visibleConversation findConversation
    refine .ite (fun hallowed => ?_) fun _ => ⟨fun _ => rfl, fun c hc => by cases hc⟩
    cases hkey : conversationKey order (some channel) with
    | none => exact ⟨fun _ => rfl, fun c hc => by cases hc⟩
    | some key =>
      refine .perform (hasks key _ hkey hallowed rfl (by simp)) fun r hr => ⟨hr.2, fun c hc => ?_⟩
      rw [hr.1 c hc]
      exact ⟨rfl, hallowed⟩
  refine hfind.bind (fun c hc => ?_) fun _ he => he.1
  refine Prog.Only.bind (Q := fun x => ok → x.isOk = true) ?_ (fun _ _ _ => rfl) fun _ he => he
  cases c with
  | none => exact fun _ => rfl
  | some conv =>
    unfold unreadCount
    refine .ite (fun _ _ => rfl) fun _ => ?_
    exact .perform (hasks conv.key _ (hc.2 conv rfl).1 (hc.2 conv rfl).2 rfl (by simp))
      fun _ hr => hr.2

theorem channelStates_only (ok : Prop) (hrole : requireRole user = .ok role) {names : Names}
    (channels : List Channel) :
    (channelStates user role order config names channels).Only (repliesIf ok) (Reads user order)
      (fun x => ok → x.isOk = true) := by
  induction channels with
  | nil => exact fun _ => rfl
  | cons channel rest ih =>
    refine (channelState_only ok hrole).bind (fun _ _ => ?_) fun _ he => he
    exact ih.bind (fun _ _ _ => rfl) fun _ he => he

theorem screenOf_only (hrole : requireRole user = .ok role) (order : Order) (config : Config)
    (now : Date) :
    (screenOf user role order config now).Only replies
      (fun kind => kind.isLookup = true ∨ Reads user order kind) (fun _ => True) := by
  unfold screenOf
  refine .bind ((counterpartNames_only order role).mono (fun _ => .inl) fun _ => id)
    (fun names _ => ?_) fun _ _ => trivial
  have hchannels : (channelStates user role order config names (channelsForRole role)).Only replies
      (Reads user order) (fun x => False → x.isOk = true) :=
    (channelStates_only False hrole _).of_replies fun _ _ _ hr => ⟨hr, fun h => h.elim⟩
  refine .bind (hchannels.mono (fun _ => .inr) fun _ => id) (fun _ _ => ?_)
    fun _ _ => trivial
  refine .bind (.perform (.inl rfl) fun _ _ => trivial) (fun _ _ => ?_) fun _ _ => trivial
  exact .bind ((handoverIssues_only role order).mono (fun _ => .inl) fun _ => id)
    (fun _ _ => trivial) fun _ _ => trivial

theorem partyOf_of_anyParty (hrole : requireRole user = .ok role)
    (h : anyParty user role order = true) : PartyOf user order := by
  obtain ⟨channel, -, hcheck⟩ := List.any_eq_true.mp h
  exact ⟨role, normalizeCommRole_of_requireRole hrole,
    isParty_of_partyCheck (of_decide_eq_true hcheck)⟩

theorem getCommunicationState_only (user : User) (order : Order) (config : Config) (now : Date) :
    (getCommunicationState user order config now).Only replies
      (fun kind => kind.isLookup = true ∨ Reads user order kind)
      (fun x => x.isOk = true → PartyOf user order) := by
  unfold getCommunicationState
  refine .bind only_ofExcept (fun role hrole => ?_) fun _ _ h => by cases h
  refine .ite (fun hparty => ?_) fun _ h => by cases h
  exact (screenOf_only hrole.symm order config now).mono (fun _ => id) fun _ _ _ =>
    partyOf_of_anyParty hrole.symm hparty

end Only

/-! ## What a rider does not see -/

def Order.isWith (orderId rider : ObjectId) (order : Order) : Bool :=
  decide (order.orderId = orderId ∧ order.deliveryBoy = some rider)

def Key.isWith (orderId rider : ObjectId) (key : Key) : Bool :=
  decide (key.orderId = orderId ∧ key.riderId = rider)

def User.isRider (rider : ObjectId) (user : User) : Bool :=
  decide (normalizeCommRole user.role = some .rider ∧ user.id = rider)

def World.answersTo (s : World) (rider : ObjectId) : List Answer :=
  s.answers.filter (fun a => a.user.isRider rider)

section Veil

variable (rider other orderId : ObjectId)

/-- Two states look alike to `rider` if they differ only in the conversations of the order with
`other` and in answers to others. -/
structure Sees (s t : World) : Prop where
  orders : s.orders = t.orders
  people : s.people = t.people
  issues : s.issues = t.issues
  conversations : s.conversations.under (fun key => !key.isWith orderId other)
    = t.conversations.under (fun key => !key.isWith orderId other)
  messages : s.messages.filter (fun m => !m.conversationId.isWith orderId other)
    = t.messages.filter (fun m => !m.conversationId.isWith orderId other)
  answers : s.answersTo rider = t.answersTo rider

/-- The replies of one operation that look alike: they are the same, but for the conversations with
`other` among the open ones. -/
def sameReply : (kind : Kind) → Except ChatError kind.Reply → Except ChatError kind.Reply → Prop
  | .findOpen _ => fun r r' =>
    r.map (List.filter (fun c : Conversation => !c.key.isWith orderId other))
      = r'.map (List.filter (fun c : Conversation => !c.key.isWith orderId other))
  | _ => fun r r' => r = r'

/-- A reply as it can be where the database does what it is asked of the conversations with
`other`; an insert can still meet a unique index. -/
def repliesOf (kind : Kind) (r : Except ChatError kind.Reply) : Prop :=
  replies kind r ∧
    (kind.conversation?.any (Key.isWith orderId other) = true →
      (∀ message, kind ≠ .createMessage message) → r.isOk = true)

/-- What `rider` does not see: operations on the conversations of the order with `other`, answers to
others, and messages sent while `other` has the order. -/
def veil : Veil Kind Kind.Reply ChatError World Event Call where
  op
    | .respond user _ _ => !user.isRider rider
    | kind => kind.conversation?.any (Key.isWith orderId other)
  event
    | .expire key _ => key.isWith orderId other
    | _ => false
  start
    | .sendMessage user order _ _ _ _ _ => order.isWith orderId other && !user.isRider rider
    | _ => false
  replies := repliesOf other orderId
  sees := Sees rider other orderId
  reply := sameReply other orderId

/-- The database does what it is asked of the conversations with `other`. -/
def Undisturbed (_ : ℕ) (kind : Kind) (outcome : Outcome ChatError) (_ : World) : Prop :=
  kind.conversation?.any (Key.isWith orderId other) = true → outcome = .done

variable {rider other orderId}

namespace Sees

theorem refl (s : World) : Sees rider other orderId s s := ⟨rfl, rfl, rfl, rfl, rfl, rfl⟩

variable {s t : World}

theorem symm (h : Sees rider other orderId s t) : Sees rider other orderId t s :=
  ⟨h.orders.symm, h.people.symm, h.issues.symm, h.conversations.symm, h.messages.symm,
    h.answers.symm⟩

theorem trans {s t u : World} (h : Sees rider other orderId s t)
    (h' : Sees rider other orderId t u) : Sees rider other orderId s u :=
  ⟨h.orders.trans h'.orders, h.people.trans h'.people, h.issues.trans h'.issues,
    h.conversations.trans h'.conversations, h.messages.trans h'.messages,
    h.answers.trans h'.answers⟩

variable {key : Key}

theorem get? (h : Sees rider other orderId s t) (hkey : key.isWith orderId other = false) :
    s.conversations.get? key = t.conversations.get? key :=
  get?_congr_under h.conversations (by rw [hkey]; rfl)

theorem filter_eq (h : Sees rider other orderId s t) (hkey : key.isWith orderId other = false)
    {p : Message → Bool} (hp : ∀ m, p m = true → m.conversationId = key) :
    s.messages.filter p = t.messages.filter p := by
  have hsub : ∀ l : List Message,
      l.filter p = (l.filter (fun m => !m.conversationId.isWith orderId other)).filter p := by
    intro l
    rw [List.filter_filter]
    refine List.filter_congr fun m _ => ?_
    cases hm : p m with
    | false => rfl
    | true => rw [hp m hm, hkey]; rfl
  rw [hsub s.messages, hsub t.messages, h.messages]

theorem after_eq (h : Sees rider other orderId s t) (hkey : key.isWith orderId other = false)
    (n : ℕ) : s.after key n = t.after key n := by
  unfold after
  rw [h.filter_eq hkey fun m hm => (of_decide_eq_true hm).1]

theorem before_eq (h : Sees rider other orderId s t) (hkey : key.isWith orderId other = false)
    (n : Option ℕ) : s.before key n = t.before key n := by
  unfold before
  rw [h.filter_eq hkey fun m hm => of_decide_eq_true (Bool.and_eq_true_iff.mp hm).1]

theorem sentAs_eq (h : Sees rider other orderId s t) (hkey : key.isWith orderId other = false)
    (senderId : ObjectId) (clientMessageId : String) :
    s.sentAs key senderId clientMessageId = t.sentAs key senderId clientMessageId := by
  unfold sentAs
  rw [← List.head?_filter, ← List.head?_filter,
    h.filter_eq hkey fun m hm => (of_decide_eq_true hm).1]

theorem taken_eq (h : Sees rider other orderId s t) {message : Message}
    (hkey : message.conversationId.isWith orderId other = false) :
    s.taken message = t.taken message := by
  have hany : ∀ (l : List Message) (p : Message → Bool), l.any p = !(l.filter p).isEmpty := by
    intro l p
    rw [Bool.eq_iff_iff, List.any_eq_true, Bool.not_eq_true', List.isEmpty_eq_false_iff_exists_mem]
    constructor
    · rintro ⟨m, hm, hp⟩
      exact ⟨m, List.mem_filter.mpr ⟨hm, hp⟩⟩
    · rintro ⟨m, hm⟩
      exact ⟨m, List.mem_filter.mp hm⟩
  unfold taken
  rw [hany, hany, h.filter_eq hkey fun m hm => (of_decide_eq_true hm).1]

theorem set (h : Sees rider other orderId s t) (c : Conversation) :
    Sees rider other orderId { s with conversations := s.conversations.set c }
      { t with conversations := t.conversations.set c } :=
  { h with conversations := by rw [under_set, under_set, h.conversations] }

theorem set_hidden {s : World} {c : Conversation} (hc : c.key.isWith orderId other = true) :
    Sees rider other orderId s { s with conversations := s.conversations.set c } :=
  { Sees.refl s with
    conversations := (under_set_of_not (by rw [hc]; rfl)).symm }

end Sees

/-! ## Operations under the veil -/

variable {kind : Kind}

theorem effect_hidden (hkind : (veil rider other orderId).op kind = true) (task : ℕ) (s : World) :
    Sees rider other orderId s (effect task s kind).2 := by
  cases kind with
  | findPerson | findIssues | findConversation | findMessage | messagesAfter | messagesBefore
  | countMessages | findOpen => exact Sees.refl s
  | upsertConversation key counterpartId assignmentVersion =>
    change key.isWith orderId other = true at hkind
    unfold effect upserted
    dsimp only
    split
    · exact Sees.refl s
    · next hnone =>
        refine { Sees.refl s with conversations := ?_ }
        dsimp only
        rw [under_insert (notMem_of_get? hnone), hkind]
        exact (List.append_nil _).symm
  | nextSeq key now =>
    change key.isWith orderId other = true at hkind
    unfold effect numbered
    dsimp only
    split
    · next c hc =>
        obtain ⟨hget, -⟩ := filter_eq_some_iff.mp hc
        exact Sees.set_hidden (by rw [← key_of_get? hget] at hkind; exact hkind)
    · exact Sees.refl s
  | createMessage message =>
    change message.conversationId.isWith orderId other = true at hkind
    unfold effect
    dsimp only
    split
    · exact Sees.refl s
    · refine { Sees.refl s with messages := ?_ }
      rw [List.filter_append, List.filter_cons_of_neg (by rw [hkind]; simp), List.filter_nil,
        List.append_nil]
  | raiseReceipts key side deliveredSeq readSeq =>
    change key.isWith orderId other = true at hkind
    unfold effect receipted
    dsimp only
    split
    · next c hget =>
        refine Sees.set_hidden ?_
        rw [← key_of_get? hget] at hkind
        cases side with
        | rider | counterpart => exact hkind
    · exact Sees.refl s
  | close key revoked =>
    change key.isWith orderId other = true at hkind
    unfold effect closed
    dsimp only
    split
    · next c hc =>
        obtain ⟨hget, -⟩ := filter_eq_some_iff.mp hc
        exact Sees.set_hidden (by rw [← key_of_get? hget] at hkind; exact hkind)
    · exact Sees.refl s
  | respond user order response =>
    change (!user.isRider rider) = true at hkind
    refine { (Sees.refl s : Sees rider other orderId s s) with answers := ?_ }
    have huser : user.isRider rider = false := by simpa using hkind
    change s.answersTo rider = (s.answers ++ _).filter _
    rw [List.filter_append, List.filter_cons_of_neg (by rw [huser]; simp), List.filter_nil,
      List.append_nil]
    rfl

/-- An operation that is seen does the same in states that look alike. -/
theorem effect_visible (hkind : (veil rider other orderId).op kind = false) (task : ℕ) {s t : World}
    (h : Sees rider other orderId s t) :
    sameReply other orderId kind (effect task s kind).1 (effect task t kind).1 ∧
      Sees rider other orderId (effect task s kind).2 (effect task t kind).2 := by
  cases kind with
  | findPerson role id =>
    refine ⟨?_, h⟩
    change ok _ = ok _
    rw [h.people]
  | findIssues id reporter limit =>
    refine ⟨?_, h⟩
    change ok _ = ok _
    unfold openIssues
    rw [h.issues]
  | findConversation key =>
    refine ⟨?_, h⟩
    change ok _ = ok _
    rw [h.get? hkind]
  | findMessage key senderId clientMessageId =>
    refine ⟨?_, h⟩
    change ok _ = ok _
    rw [h.sentAs_eq hkind]
  | messagesAfter | countMessages =>
    refine ⟨?_, h⟩
    change ok _ = ok _
    rw [h.after_eq hkind]
  | messagesBefore key beforeSeq limit =>
    refine ⟨?_, h⟩
    change ok _ = ok _
    rw [h.before_eq hkind]
  | findOpen id =>
    refine ⟨?_, h⟩
    change ok _ = ok _
    rw [List.filter_filter, List.filter_filter]
    congr 1
    have hopen : ∀ l : List Conversation, l.filter (fun c => (!c.key.isWith orderId other) &&
        decide (c.key.orderId = id ∧ c.status = .active))
          = (l.filter (fun c => !c.key.isWith orderId other)).filter
              (fun c => decide (c.key.orderId = id ∧ c.status = .active)) := by
      intro l
      rw [List.filter_filter]
      exact List.filter_congr fun c _ => Bool.and_comm _ _
    rw [hopen, hopen]
    exact congrArg _ h.conversations
  | upsertConversation key counterpartId assignmentVersion =>
    change key.isWith orderId other = false at hkind
    have hget := h.get? hkind
    unfold effect upserted sameReply
    dsimp only
    cases hs : s.conversations.get? key with
    | some c =>
      rw [hs] at hget
      rw [← hget]
      exact ⟨rfl, h⟩
    | none =>
      rw [hs] at hget
      rw [← hget]
      refine ⟨rfl, { h with conversations := ?_ }⟩
      dsimp only
      rw [under_insert (notMem_of_get? hs),
        under_insert (notMem_of_get? hget.symm), h.conversations]
  | nextSeq key now =>
    change key.isWith orderId other = false at hkind
    unfold effect numbered sameReply
    dsimp only
    rw [← h.get? hkind]
    split
    · exact ⟨rfl, h.set _⟩
    · exact ⟨rfl, h⟩
  | createMessage message =>
    change message.conversationId.isWith orderId other = false at hkind
    unfold effect sameReply
    dsimp only
    rw [← h.taken_eq hkind]
    split
    · exact ⟨rfl, h⟩
    · refine ⟨rfl, { h with messages := ?_ }⟩
      rw [List.filter_append, List.filter_append, h.messages]
  | raiseReceipts key side deliveredSeq readSeq =>
    change key.isWith orderId other = false at hkind
    unfold effect receipted sameReply
    dsimp only
    rw [← h.get? hkind]
    split
    · exact ⟨rfl, h.set _⟩
    · exact ⟨rfl, h⟩
  | close key revoked =>
    change key.isWith orderId other = false at hkind
    unfold effect closed sameReply
    dsimp only
    rw [← h.get? hkind]
    split
    · exact ⟨rfl, h.set _⟩
    · exact ⟨rfl, h⟩
  | respond user order response =>
    refine ⟨rfl, { h with answers := ?_ }⟩
    change (s.answers ++ _).filter _ = (t.answers ++ _).filter _
    rw [List.filter_append, List.filter_append]
    exact congrArg (· ++ _) h.answers

theorem sameReply_error (kind : Kind) (e : ChatError) :
    sameReply other orderId kind (.error e) (.error e) := by
  cases kind <;> exact rfl

theorem sameReply_symm {r r' : Except ChatError kind.Reply} (h : sameReply other orderId kind r r')
    : sameReply other orderId kind r' r := by
  cases kind <;> exact Eq.symm h

variable {task : ℕ} {outcome : Outcome ChatError} {r : Except ChatError kind.Reply}

/-- However an operation goes, it goes the same way in states that look alike. -/
theorem performOp_visible (hkind : (veil rider other orderId).op kind = false) {s t s' : World}
    (h : Sees rider other orderId s t) (hs : performOp task kind outcome s = some (r, s')) :
    ∃ r' t', performOp task kind outcome t = some (r', t') ∧
      sameReply other orderId kind r r' ∧ Sees rider other orderId s' t' := by
  obtain ⟨hreply, hsees⟩ := effect_visible hkind task h
  unfold performOp at hs ⊢
  have hs' := some.inj hs
  cases hout : outcomeOf kind outcome with
  | done =>
    rw [hout] at hs'
    have heq : effect task s kind = (r, s') := hs'
    rw [heq] at hreply hsees
    exact ⟨_, _, rfl, hreply, hsees⟩
  | refused e =>
    rw [hout] at hs'
    cases hs'
    exact ⟨_, _, rfl, sameReply_error kind e, h⟩
  | lost e =>
    rw [hout] at hs'
    cases hs'
    exact ⟨_, _, rfl, sameReply_error kind e, hsees⟩

variable {s s' : World}

theorem performOp_hidden (hkind : (veil rider other orderId).op kind = true)
    (hs : performOp task kind outcome s = some (r, s')) : Sees rider other orderId s s' := by
  have hsees := effect_hidden hkind task s
  rcases Outcome.perform_eq (some.inj hs) with ⟨-, rfl⟩ | ⟨-, rfl, -⟩
  · exact Sees.refl _
  · exact hsees

theorem performOp_replies (hs : performOp task kind outcome s = some (r, s')) :
    replies kind r := by
  have hcases := Outcome.perform_eq (some.inj hs)
  cases kind with
  | findConversation key =>
    intro c hc
    rcases hcases with ⟨⟨e, rfl⟩, -⟩ | ⟨-, -, rfl | ⟨e, rfl⟩⟩
    · cases hc
    · exact key_of_get? (ok.inj hc)
    · cases hc
  | upsertConversation key counterpartId assignmentVersion =>
    intro c hc
    rcases hcases with ⟨⟨e, rfl⟩, -⟩ | ⟨-, -, rfl | ⟨e, rfl⟩⟩
    · cases hc
    · have hc' : (s.upserted key counterpartId assignmentVersion).1 = c := ok.inj hc
      unfold upserted at hc'
      split at hc'
      · next c' hget =>
          rw [← hc']
          exact key_of_get? hget
      · rw [← hc']
    · cases hc
  | findPerson | findIssues | findMessage | nextSeq | createMessage | messagesAfter
  | messagesBefore | countMessages | raiseReceipts | findOpen | close | respond => exact trivial

theorem effect_isOk (hkind : ∀ message, kind ≠ .createMessage message) (task : ℕ) (s : World) :
    (effect task s kind).1.isOk = true := by
  cases kind <;> first | rfl | exact absurd rfl (hkind _)

theorem performOp_repliesOf (hok : Undisturbed other orderId task kind outcome s)
    (hs : performOp task kind outcome s = some (r, s')) : repliesOf other orderId kind r := by
  refine ⟨performOp_replies hs, fun hwith hkind => ?_⟩
  have hdone : outcome = .done := hok hwith
  subst hdone
  have hout : outcomeOf kind .done = .done := by cases kind <;> rfl
  have heq := some.inj hs
  rw [hout] at heq
  have hr : (effect task s kind).1 = r := congrArg Prod.fst heq
  rw [← hr]
  exact effect_isOk hkind task s

end Veil

end DiscountBazar.Chat
