/-
Whether a party that may write on a channel is let in.

Permission is decided from the order as it stands; the conversation is stored under the order, the
channel and the rider, is revoked or closed by the reconciler, and is never opened again. So the two
agree along a run exactly as long as nobody comes to write where the conversation is closed already,
and the reconciler closes none that the order, as it stands, lets its parties write in.
-/
import DiscountBazar.Chat.Numbers

namespace DiscountBazar.Chat

open Finance Tasks Function Runs Table World Prog Option

/-- `sendMessage` with nothing in between, under the current configuration. -/
def sendAlone (s : World) (user : User) (order : Order) (channel : Option Channel) (body : Body)
    (stamp : Stamp) : Except ChatError Response × World :=
  (sendMessage user order s.config s.config channel body stamp).run
    (fun kind s => effect 0 s kind) s

/-- Whoever `evaluateChannelAccess` lets write has its valid messages accepted. -/
def Honoured (s : World) : Prop :=
  ∀ user role order channel body stamp, s.orders order.orderId = some order →
    requireRole user = .ok role →
      (evaluateChannelAccess role user.id order channel s.config).canSend = true →
        (validateMessageInput body s.config).isOk = true →
          ∃ view duplicate, (sendAlone s user order channel body stamp).1 = .ok (.sent view duplicate)

/-- The parties of the channel may write: the order is with this rider, its channel is open, chat is
on and leaves room for a message. -/
def World.Writable (s : World) (key : Key) : Prop :=
  ∃ order, s.orders key.orderId = some order ∧ order.deliveryBoy = some key.riderId ∧
    orderWorkflowStatus order ∈ activeStatuses key.channel ∧ s.config.chatEnabled = true ∧
      0 < s.config.messageMaxLength

/-- No conversation in which the parties may write has been closed. -/
def OpenWhereWritable (s : World) : Prop :=
  ∀ key, s.Writable key → ∀ c, s.conversations.get? key = some c → c.status = .active

/-! ## A message sent on its own -/

variable {config : Config} {input : String × String}

theorem validateMessageInput_ok {body : Body} (h : validateMessageInput body config = .ok input) :
    0 < config.messageMaxLength := by
  unfold validateMessageInput at h
  split at h
  · cases h
  · cases h
  · dsimp only at h
    split at h
    · cases h
    · next hempty =>
        split at h
        · cases h
        · next hlength =>
            -- a text that is not empty has a character
            have hpos : ∀ t : String, t ≠ "" → 0 < utf16Length t := by
              intro t ht
              unfold utf16Length
              cases hlist : t.toList with
              | nil => exact absurd (String.toList_inj.mp (hlist.trans String.toList_empty.symm)) ht
              | cons c cs =>
                rw [List.map_cons, List.sum_cons]
                split
                · omega
                · omega
            have := hpos _ hempty
            omega

variable {channel : Option Channel}

theorem authorize_of_canSend {user : User} {role : Role} {order : Order}
    (hrole : requireRole user = .ok role)
    (hsend : (evaluateChannelAccess role user.id order channel config).canSend = true) :
    authorize user order config channel .send
      = .ok ⟨role, evaluateChannelAccess role user.id order channel config⟩ := by
  unfold authorize
  rw [hrole]
  exact if_pos hsend

variable {s : World} {key : Key}

theorem sendAlone_eq {user : User} {role : Role} {order : Order} {body : Body} {stamp : Stamp}
    (hrole : requireRole user = .ok role)
    (hsend : (evaluateChannelAccess role user.id order channel s.config).canSend = true)
    (hinput : validateMessageInput body s.config = .ok input)
    (hkey : conversationKey order channel = some key) :
    sendAlone s user order channel body stamp
      = (sendIn user role input stamp
          (s.upserted key (counterpartOf order key.channel) order.assignmentVersion).1).run
            (fun kind s => effect 0 s kind)
            (s.upserted key (counterpartOf order key.channel) order.assignmentVersion).2 := by
  have hconversation : (getOrCreateConversation order channel).run (fun kind s => effect 0 s kind) s
      = (.ok (s.upserted key (counterpartOf order key.channel) order.assignmentVersion).1,
          (s.upserted key (counterpartOf order key.channel) order.assignmentVersion).2) := by
    unfold getOrCreateConversation
    rw [hkey]
    rfl
  unfold sendAlone sendMessage
  rw [hinput, authorize_of_canSend hrole hsend]
  refine (run_bind_ok (run_pure input s)).trans ?_
  refine (run_bind_ok (run_pure _ s)).trans ?_
  exact run_bind_ok hconversation

theorem upserted_get? (s : World) (key : Key) (counterpartId : Option ObjectId)
    (assignmentVersion : ℕ) :
    (s.upserted key counterpartId assignmentVersion).2.conversations.get? key
        = some (s.upserted key counterpartId assignmentVersion).1 ∧
      (s.upserted key counterpartId assignmentVersion).1.key = key := by
  unfold upserted
  split
  · next c hget => exact ⟨hget, key_of_get? hget⟩
  · next hnone => exact ⟨get?_insert_self (notMem_of_get? hnone), rfl⟩

theorem upserted_active {counterpartId : Option ObjectId} {assignmentVersion : ℕ}
    (h : ∀ c, s.conversations.get? key = some c → c.status = .active) :
    (s.upserted key counterpartId assignmentVersion).1.status = .active := by
  unfold upserted
  split
  · next c hget => exact h c hget
  · rfl

variable {c : Conversation}

theorem taken_eq_false (hs : s.Kept) {message : Message}
    (hget : s.conversations.get? message.conversationId = some c) (hnew : c.lastSeq < message.seq)
    (hsent : s.sentAs message.conversationId message.senderId message.clientMessageId = none) :
    s.taken message = false := by
  refine List.any_eq_false.mpr fun m hm => ?_
  rw [decide_eq_true_iff]
  rintro ⟨hconv, hseq | ⟨hsender, hclient⟩⟩
  · obtain ⟨-, d, hd, hle⟩ := hs.numbered m hm
    rw [hconv, hget] at hd
    cases hd
    omega
  · have hnone := List.find?_eq_none.mp hsent m hm
    rw [decide_eq_true_iff] at hnone
    exact hnone ⟨hconv, hsender, hclient⟩

theorem storeMessage_run (user : User) {message : Message} (h : s.taken message = false) :
    (storeMessage user message).run (fun kind s => effect 0 s kind) s
      = (.ok (.sent (serializeMessage user.id message) false),
          { s with messages := s.messages ++ [message] }) := by
  have heffect : effect 0 s (.createMessage message)
      = (.ok (), { s with messages := s.messages ++ [message] }) := by
    unfold effect
    dsimp only
    rw [h, if_neg (by simp)]
  unfold storeMessage
  exact run_tryCatch_ok (run_bind_ok ((run_perform _ s).trans heffect))

theorem sendIn_accepted (hs : s.Kept) (hget : s.conversations.get? key = some c)
    (hactive : c.status = .active) (user : User) (role : Role) (input : String × String)
    (stamp : Stamp) :
    ∃ view duplicate, ((sendIn user role input stamp c).run (fun kind s => effect 0 s kind) s).1
      = .ok (.sent view duplicate) := by
  have hkey : c.key = key := key_of_get? hget
  unfold sendIn
  rw [if_pos hactive, hkey, run_bind_ok (run_perform _ s)]
  cases hsent : s.sentAs key user.id input.1 with
  | some existing => exact ⟨_, _, rfl⟩
  | none =>
    have hnumber : s.numbered key stamp.now = (some (c.next stamp.now),
        { s with conversations := s.conversations.set (c.next stamp.now) }) := by
      unfold numbered
      rw [hget, filter_some, if_pos (by simp [hactive])]
    have heffect : effect 0 s (.nextSeq key stamp.now) = (.ok (some (c.next stamp.now)),
        { s with conversations := s.conversations.set (c.next stamp.now) }) := by
      unfold effect
      dsimp only
      rw [hnumber]
    unfold answerOrPost
    rw [run_bind_ok ((run_perform _ s).trans heffect)]
    -- the messages are as they were, and none has the next number
    have htaken : taken { s with conversations := s.conversations.set (c.next stamp.now) }
        ⟨stamp.messageId, key, c.lastSeq + 1, role, user.id, input.1, input.2, stamp.now⟩
          = false := taken_eq_false hs hget (Nat.lt_succ_self _) hsent
    exact ⟨_, _, congrArg Prod.fst (storeMessage_run user htaken)⟩

theorem sendIn_closed (hclosed : c.status ≠ .active) (user : User) (role : Role)
    (input : String × String) (stamp : Stamp) {response : Response} :
    ((sendIn user role input stamp c).run (fun kind s => effect 0 s kind) s).1
      ≠ .ok response := by
  unfold sendIn
  rw [if_neg hclosed]
  exact fun h => by cases h

/-! ## Permission in one state -/

/-- A message of one letter, valid wherever there is room for one. -/
def shortBody : Body := ⟨some "message-1", some "a"⟩

theorem shortBody_ok (h : 0 < config.messageMaxLength) :
    validateMessageInput shortBody config = .ok ("message-1", "a") := by
  have hid : (some "message-1").filter isClientId = some "message-1" := by decide +kernel
  have hclean : cleanText "a" = "a" := by decide +kernel
  have hlength : utf16Length "a" = 1 := by decide +kernel
  unfold validateMessageInput shortBody
  dsimp only
  rw [hid]
  dsimp only
  rw [hclean, hlength, if_neg (by decide), if_neg (by omega)]

theorem honoured_iff (hs : s.Kept) : Honoured s ↔ OpenWhereWritable s := by
  constructor
  · rintro h key ⟨order, horder, hrider, hactive, hchat, hroom⟩ c hget
    have hid := hs.filed _ _ horder
    by_contra hclosed
    have hcheck := partyCheck_rider hrider key.channel
    have hsend : (evaluateChannelAccess .rider key.riderId order (some key.channel)
        s.config).canSend = true :=
      canSend_iff.mpr ⟨_, _, rfl, hrider, hcheck, hactive, hchat⟩
    have hkey : conversationKey order (some key.channel) = some key := by
      unfold conversationKey
      rw [hrider]
      change some (Key.mk order.orderId key.channel key.riderId) = some key
      rw [hid]
    obtain ⟨view, duplicate, hok⟩ := h ⟨"delivery", key.riderId⟩ .rider order (some key.channel)
      shortBody ⟨0, 0⟩ (by rw [hid]; exact horder) (requireRole_rider _) hsend
      (by rw [shortBody_ok hroom]; rfl)
    rw [sendAlone_eq (requireRole_rider _) hsend (shortBody_ok hroom) hkey] at hok
    obtain ⟨hupserted, -⟩ := upserted_get? s key (counterpartOf order key.channel)
      order.assignmentVersion
    have hsame : (s.upserted key (counterpartOf order key.channel) order.assignmentVersion).1 = c := by
      unfold upserted
      rw [hget]
    exact sendIn_closed (by rw [hsame]; exact hclosed) _ _ _ _ hok
  · intro h user role order channel body stamp horder hrole hsend hvalid
    obtain ⟨c, rider, rfl, hrider, -, hactive, hchat⟩ := canSend_iff.mp hsend
    cases hinput : validateMessageInput body s.config with
    | error e =>
      rw [hinput] at hvalid
      cases hvalid
    | ok input =>
      have hkey : conversationKey order (some c) = some ⟨order.orderId, c, rider⟩ := by
        unfold conversationKey
        rw [hrider]
        rfl
      have hopen := h ⟨order.orderId, c, rider⟩
        ⟨order, horder, hrider, hactive, hchat, validateMessageInput_ok hinput⟩
      obtain ⟨hget, -⟩ := upserted_get? s ⟨order.orderId, c, rider⟩ (counterpartOf order c)
        order.assignmentVersion
      have hkept : (effect 0 s (.upsertConversation ⟨order.orderId, c, rider⟩
          (counterpartOf order c) order.assignmentVersion)).2.Kept :=
        (effect_kept (by simp) 0 hs).1
      rw [sendAlone_eq hrole hsend hinput hkey]
      exact sendIn_accepted hkept hget (upserted_active hopen) user role input stamp

/-! ## Permission along a run -/

/-- The reconciler closes no conversation that its parties may write in. -/
def ClosesNone (_ : ℕ) : Kind → Outcome ChatError → World → Prop
  | .close key _, outcome, s =>
    outcome.takesEffect = true → s.Writable key → s.conversations.get? key = none
  | _, _, _ => True

/-- The event lets no one write in a conversation that has been closed: an order is not given back to
a rider, and does not go back to a stage, whose conversation was revoked or closed. -/
def ReopensNone : Event → World → Prop
  | .order order, s =>
    ∀ channel rider, order.deliveryBoy = some rider →
      orderWorkflowStatus order ∈ activeStatuses channel → s.config.chatEnabled = true →
        0 < s.config.messageMaxLength →
          ∀ c, s.conversations.get? ⟨order.orderId, channel, rider⟩ = some c → c.status = .active
  | .config config, s =>
    config.chatEnabled = true → 0 < config.messageMaxLength →
      ∀ key order, s.orders key.orderId = some order → order.deliveryBoy = some key.riderId →
        orderWorkflowStatus order ∈ activeStatuses key.channel →
          ∀ c, s.conversations.get? key = some c → c.status = .active
  | _, _ => True

theorem openWhereWritable_set {c c' : Conversation} (hget : s.conversations.get? c'.key = some c)
    (hstatus : c'.status = c.status) (h : OpenWhereWritable s) :
    OpenWhereWritable { s with conversations := s.conversations.set c' } := by
  intro key hwrite d hd
  by_cases hkey : c'.key = key
  · subst hkey
    have hset := get?_set_self hget
    cases hset.symm.trans hd
    rw [hstatus]
    exact h _ hwrite c hget
  · exact h key hwrite d ((get?_set_ne hkey).symm.trans hd)

theorem effect_open {kind : Kind} (hkind : ∀ key revoked, kind ≠ .close key revoked) (task : ℕ)
    (h : OpenWhereWritable s) : OpenWhereWritable (effect task s kind).2 := by
  cases kind with
  | close key revoked => exact absurd rfl (hkind key revoked)
  | upsertConversation key counterpartId assignmentVersion =>
    unfold effect upserted
    dsimp only
    split
    · exact h
    · next hnone =>
        intro key' hwrite c hc
        by_cases hkey : key = key'
        · subst hkey
          cases (get?_insert_self (notMem_of_get? hnone)).symm.trans hc
          rfl
        · have hfree := notMem_of_get? hnone
          exact h key' hwrite c ((get?_insert_ne hfree hkey).symm.trans hc)
  | nextSeq key now =>
    unfold effect numbered
    dsimp only
    split
    · next c hc =>
        obtain ⟨hget, -⟩ := filter_eq_some_iff.mp hc
        rw [← key_of_get? hget] at hget
        have hstatus : (c.next now).status = c.status := rfl
        exact openWhereWritable_set hget hstatus h
    · exact h
  | raiseReceipts key side deliveredSeq readSeq =>
    unfold effect receipted
    dsimp only
    split
    · next c hget =>
        rw [← key_of_get? hget] at hget
        cases side with
        | rider | counterpart => exact openWhereWritable_set hget rfl h
    · exact h
  | createMessage message =>
    unfold effect
    dsimp only
    split
    · exact h
    · exact h
  | _ => exact h

theorem closed_open_iff {revoked : Bool} (h : OpenWhereWritable s) :
    OpenWhereWritable (s.closed key revoked)
      ↔ (s.Writable key → s.conversations.get? key = none) := by
  have hwritable : ∀ key', (s.closed key revoked).Writable key' ↔ s.Writable key' := by
    intro key'
    unfold closed
    split
    · rfl
    · rfl
  constructor
  · intro hclosed hwrite
    cases hget : s.conversations.get? key with
    | none => rfl
    | some c =>
      have hactive := h key hwrite c hget
      have hkey := key_of_get? hget
      have hfound : (s.conversations.get? key).filter (fun c => decide (c.status = .active))
          = some c := by
        rw [hget, filter_some, if_pos (by simp [hactive])]
      have hstill := hclosed key ((hwritable key).mpr hwrite)
      unfold closed at hstill
      rw [hfound] at hstill
      subst hkey
      have hstatus := hstill _ (get?_set_self hget)
      cases revoked with
      | true | false => cases hstatus
  · intro hnone key' hwrite d hd
    have hwrite' := (hwritable key').mp hwrite
    unfold closed at hd
    split at hd
    · next c hc =>
        obtain ⟨hget, -⟩ := filter_eq_some_iff.mp hc
        have hkey := key_of_get? hget
        by_cases hsame : key = key'
        · subst hsame
          rw [hnone hwrite'] at hget
          cases hget
        · exact h key' hwrite' d ((get?_set_ne (by rw [hkey]; exact hsame)).symm.trans hd)
    · exact h key' hwrite' d hd

theorem performOp_open (i : ℕ) (kind : Kind) (outcome : Outcome ChatError) (h : OpenWhereWritable s) :
    ∃ r s', performOp i kind outcome s = some (r, s') ∧
      (OpenWhereWritable s' ↔ ClosesNone i kind outcome s) := by
  refine ⟨_, _, rfl, ?_⟩
  by_cases hkind : ∃ key revoked, kind = .close key revoked
  · obtain ⟨key, revoked, rfl⟩ := hkind
    exact Outcome.perform_iff h fun _ => closed_open_iff h
  · have hnot : ∀ key revoked, kind ≠ .close key revoked := fun key revoked heq =>
      hkind ⟨key, revoked, heq⟩
    have hok : ClosesNone i kind outcome s := by
      cases kind with
      | close key revoked => exact absurd rfl (hnot key revoked)
      | _ => trivial
    refine iff_of_true ?_ hok
    rcases Outcome.perform_eq (rfl : (outcomeOf kind outcome).perform (effect i s kind) s = (_, _))
      with ⟨-, hs⟩ | ⟨-, hs, -⟩
    · rw [hs]
      exact h
    · rw [hs]
      exact effect_open hnot i h

theorem outside_open_iff {event : Event} {s s' : World} (h : OpenWhereWritable s)
    (hout : outside event s = some s') : OpenWhereWritable s' ↔ ReopensNone event s := by
  cases event with
  | order order =>
    cases hout
    constructor
    · intro hopen channel rider hrider hactive hchat hroom
      exact hopen ⟨order.orderId, channel, rider⟩
        ⟨order, update_self .., hrider, hactive, hchat, hroom⟩
    · rintro hok key ⟨order', horder, hrider, hactive, hchat, hroom⟩ c hget
      by_cases hid : key.orderId = order.orderId
      · dsimp only at horder
        rw [hid, update_self] at horder
        cases horder
        obtain ⟨orderId, channel, rider⟩ := key
        dsimp only at hid
        subst hid
        exact hok channel rider hrider hactive hchat hroom c hget
      · dsimp only at horder
        rw [update_of_ne hid] at horder
        exact h key ⟨order', horder, hrider, hactive, hchat, hroom⟩ c hget
  | config config =>
    cases hout
    constructor
    · intro hopen hchat hroom key order horder hrider hactive
      exact hopen key ⟨order, horder, hrider, hactive, hchat, hroom⟩
    · rintro hok key ⟨order, horder, hrider, hactive, hchat, hroom⟩
      exact hok hchat hroom key order horder hrider hactive
  | person | issues | expire =>
    cases hout
    exact iff_of_true h trivial

/-- Permission is honoured all along a history exactly if the reconciler closes no conversation that
its parties may write in, and no assignment, status or setting lets them write in one that was
closed. -/
theorem permission_honoured_iff (s : World) (hs : s.Kept) (hstart : OpenWhereWritable s)
    (as : List (Action (Outcome ChatError) Event Call)) :
    Along chat.step (fun p => Honoured p.shared) ⟨s, []⟩ as ↔
      Guarded chat.step (fun p a => OnOps ClosesNone p a ∧ OnEvents ReopensNone p a)
        ⟨s, []⟩ as := by
  refine numbering_lawful.along_iff (P := Honoured) (fun i op c t ht hP _ => ?_)
    (fun e t t' ht _ hP hout ht' => ?_) (fun e t hout => by cases e <;> cases hout) ?_ ?_ ?_
  · obtain ⟨r, t', hstep, hiff⟩ := performOp_open i op c ((honoured_iff ht).mp hP)
    exact ⟨r, t', hstep, fun ht' => (honoured_iff ht').trans hiff⟩
  · exact (honoured_iff ht').trans (outside_open_iff ((honoured_iff ht).mp hP) hout)
  · exact Contract.holds_start hs fun _ => trivial
  · exact (honoured_iff hs).mpr hstart
  · exact guarded_of_forall (fun q a => by cases a <;> simp [Contract.Meets, numbering]) _ _

/-- The rider writes, loses the order, and the reconciler runs; then the rider gets the order back. -/
def handedBack (again : Order) : List (Action (Outcome ChatError) Event Call) :=
  [.start (.sendMessage ⟨"delivery", 21⟩ (handedOver 21) {} {} (some .customerRider)
      ⟨some "message-1", some "On my way"⟩ ⟨100, 5⟩),
    .run 0 .done, .run 0 .done, .run 0 .done, .run 0 .done, .run 0 .done,
    .outside (.order { handedOver 21 with deliveryBoy := none }),
    .start (.syncCommunicationState { handedOver 21 with deliveryBoy := none }),
    .run 1 .done, .run 1 .done,
    .outside (.order again)]

theorem permission_honoured_iff_handedBack :
    Along chat.step (fun p => Honoured p.shared) ⟨handoverStart, []⟩
        (handedBack (handedOver 20)) ↔
      Guarded chat.step (fun p a => OnOps ClosesNone p a ∧ OnEvents ReopensNone p a)
        ⟨handoverStart, []⟩ (handedBack (handedOver 20)) :=
  permission_honoured_iff handoverStart handoverStart_kept (fun _ _ _ h => nomatch h) _

theorem permission_dishonoured :
    (evaluateChannelAccess .rider 21 (handedOver 21) (some .customerRider)
        (history handoverStart (handedBack (handedOver 21))).shared.config).canSend = true ∧
      (sendAlone (history handoverStart (handedBack (handedOver 21))).shared ⟨"delivery", 21⟩
        (handedOver 21) (some .customerRider) ⟨some "message-2", some "Back again"⟩ ⟨101, 9⟩).1
          = .error (.svc ⟨"This conversation is closed", 409, "CONVERSATION_CLOSED", none⟩) ∧
      ¬ Along chat.step (fun p => Honoured p.shared) ⟨handoverStart, []⟩
        (handedBack (handedOver 21)) := by
  have hsend : (evaluateChannelAccess .rider 21 (handedOver 21) (some .customerRider)
      (history handoverStart (handedBack (handedOver 21))).shared.config).canSend = true := by
    decide +kernel
  have hrefused : (sendAlone (history handoverStart (handedBack (handedOver 21))).shared
      ⟨"delivery", 21⟩ (handedOver 21) (some .customerRider)
      ⟨some "message-2", some "Back again"⟩ ⟨101, 9⟩).1
        = .error (.svc ⟨"This conversation is closed", 409, "CONVERSATION_CLOSED", none⟩) := by
    decide +kernel
  refine ⟨hsend, hrefused, fun halong => ?_⟩
  have hvalid : (validateMessageInput ⟨some "message-2", some "Back again"⟩
      (history handoverStart (handedBack (handedOver 21))).shared.config).isOk = true := by
    decide +kernel
  obtain ⟨view, duplicate, hok⟩ := halong.last ⟨"delivery", 21⟩ .rider (handedOver 21)
    (some .customerRider) ⟨some "message-2", some "Back again"⟩ ⟨101, 9⟩ (by decide +kernel)
    (requireRole_rider 21) hsend hvalid
  cases hrefused.symm.trans hok

end DiscountBazar.Chat
