/-
Chats of different riders are isolated: the two-run theorem.

The calls are alike under the veil of `Chat.Isolation`, so two histories that differ in messages
exchanged while another rider had the order leave the same answers to a rider. And whoever is shown
anything of a chat is a party of the order as the call found it.
-/
import DiscountBazar.Chat.Isolation

namespace DiscountBazar.Chat

open Finance Tasks Runs
open Prog (perform)
open List

section Alike

variable {rider other orderId : ObjectId}

/-! ## Calls under the veil -/

variable {user : User} {order : Order} {kind : Kind}

theorem Asks.visible (horder : order.isWith orderId other = false) (h : Asks user order kind) :
    (veil rider other orderId).op kind = false := by
  obtain ⟨key, hkey, hid, hrider, -⟩ := h
  have hwith : key.isWith orderId other = false := by
    refine decide_eq_false fun hkey' => of_decide_eq_false horder ⟨?_, ?_⟩
    · rw [← hid, hkey'.1]
    · rw [hrider, hkey'.2]
  cases kind with
  | respond user order response => cases hkey
  | findPerson | findIssues | findOpen => rfl
  | _ => cases hkey; exact hwith

theorem Asks.isWith (horder : order.isWith orderId other = true) (h : Asks user order kind) :
    kind.conversation?.any (Key.isWith orderId other) = true := by
  obtain ⟨key, hkey, hid, hrider, -⟩ := h
  obtain ⟨ho, hother⟩ := of_decide_eq_true horder
  rw [hkey]
  refine decide_eq_true ⟨hid.trans ho, ?_⟩
  rw [hrider] at hother
  exact Option.some.inj hother

theorem Asks.hidden (horder : order.isWith orderId other = true) (h : Asks user order kind) :
    (veil rider other orderId).op kind = true := by
  have hwith := h.isWith horder
  cases kind with
  | respond user order response => cases hwith
  | _ => exact hwith

theorem not_asks_of_isRider (hne : rider ≠ other) (huser : user.isRider rider = true)
    (horder : order.isWith orderId other = true) :
    ¬ Asks user order kind := by
  rintro ⟨key, -, -, -, role, hrole, hparty⟩
  obtain ⟨hrider, hid⟩ := of_decide_eq_true huser
  obtain ⟨-, hother⟩ := of_decide_eq_true horder
  cases hrole.symm.trans hrider
  change order.deliveryBoy = some user.id at hparty
  rw [hother, hid] at hparty
  exact hne (Option.some.inj hparty).symm

theorem eq_of_sameReply {key : Key} (hkey : kind.conversation? = some key)
    {r r' : Except ChatError kind.Reply} (h : sameReply other orderId kind r r') : r = r' := by
  cases kind <;> first | exact h | cases hkey

variable {α : Type}

/-- What a program asks for is seen, with replies that look alike only if they are the same. -/
def Seen (rider other orderId : ObjectId) (kind : Kind) : Prop :=
  (veil rider other orderId).op kind = false ∧
    ∀ r r', (veil rider other orderId).reply kind r r' → r = r'

theorem seen_of_isLookup (h : kind.isLookup = true) : Seen rider other orderId kind := by
  cases kind <;> first | exact ⟨rfl, fun _ _ => id⟩ | cases h

theorem alike_self {p : M α} (hp : p.Only replies (Seen rider other orderId) (fun _ => True)) :
    Alike (veil rider other orderId) Eq p p := by
  have hseen : p.Only (repliesOf other orderId) (Seen rider other orderId) (fun _ => True) :=
    hp.of_replies fun kind r _ hr => hr.1
  exact (Alike.self (V := veil rider other orderId) hseen).mono fun _ _ h => h.1

theorem seen_of_asks (hne : rider ≠ other)
    (h : order.isWith orderId other = false ∨ user.isRider rider = true)
    (hasks : Asks user order kind) : Seen rider other orderId kind := by
  obtain ⟨key, hkey, -⟩ := id hasks
  refine ⟨?_, fun r r' => eq_of_sameReply hkey⟩
  cases horder : order.isWith orderId other with
  | false => exact hasks.visible horder
  | true =>
    rw [horder] at h
    exact absurd hasks (not_asks_of_isRider hne (h.resolve_left Bool.noConfusion) horder)

theorem only_hidden {Q : Except ChatError α → Prop} {p : M α}
    (hp : p.Only replies (Asks user order) Q) (horder : order.isWith orderId other = true) :
    p.Only (repliesOf other orderId) (fun kind => (veil rider other orderId).op kind = true)
      (fun _ => True) :=
  (hp.mono (fun _ hkind => hkind.hidden horder) fun _ _ => trivial).of_replies
    fun _ _ _ hr => hr.1

variable {p : M Response}

theorem answer_self (hp : Alike (veil rider other orderId) Eq p p) :
    Alike (veil rider other orderId) (fun _ _ => True) (answer user order p).discard
      (answer user order p).discard := by
  have hcaught : Alike (veil rider other orderId) Eq
      (p.tryCatch (fun e => pure (.failed e))) (p.tryCatch (fun e => pure (.failed e))) := by
    refine hp.tryCatch fun x y hxy => ?_
    subst hxy
    cases x with
    | ok | error => exact .done rfl rfl rfl
  refine Alike.bind (R := fun _ _ => True) ?_ fun x y _ => ?_
  · refine hcaught.bind fun x y hxy => ?_
    subst hxy
    cases x with
    | error e => exact .done rfl rfl trivial
    | ok response =>
      refine Alike.bind (R := fun _ _ => True) ?_ fun x y _ => ?_
      · by_cases hrespond : (veil rider other orderId).op (.respond user order response) = true
        · have honly : (perform (Kind.respond user order response)).Only
              (repliesOf other orderId) (fun kind => (veil rider other orderId).op kind = true)
              (fun _ => True) :=
            .perform (P := fun kind => (veil rider other orderId).op kind = true) hrespond
              fun _ _ => trivial
          exact .hidden honly honly fun _ _ _ _ => trivial
        · exact (Alike.perform_visible _ (by simpa using hrespond)).mono fun _ _ _ => trivial
      · cases x <;> cases y <;> exact .done rfl rfl trivial
  · cases x <;> cases y <;> exact .done rfl rfl trivial

theorem answer_other (huser : user.isRider rider = false)
    (hp : Alike (veil rider other orderId) (fun _ _ => True) p p) :
    Alike (veil rider other orderId) (fun _ _ => True) (answer user order p).discard
      (answer user order p).discard := by
  have hrespond : ∀ response, (veil rider other orderId).op (.respond user order response) = true := by
    intro response
    change (!user.isRider rider) = true
    rw [huser]
    rfl
  refine Alike.bind (R := fun _ _ => True) ?_ fun x y _ => ?_
  · refine Alike.bind (R := fun _ _ => True) (hp.tryCatch fun x y _ => ?_) fun x y _ => ?_
    · cases x <;> cases y <;> exact .done rfl rfl trivial
    · -- whatever the two calls are told, telling them is hidden
      have honly : ∀ z : Except ChatError Response,
          (Prog.andThen (fun response => (do
              perform (Kind.respond user order response)
              pure response : M Response)) z).Only
            (repliesOf other orderId) (fun kind => (veil rider other orderId).op kind = true)
            (fun _ => True) := by
        intro z
        cases z with
        | error e => exact trivial
        | ok response =>
          exact .bind
            (.perform (P := fun kind => (veil rider other orderId).op kind = true)
              (hrespond response) fun _ _ => trivial)
            (fun _ _ => trivial) fun _ _ => trivial
      exact .hidden (honly x) (honly y) fun _ _ _ _ => trivial
  · cases x <;> cases y <;> exact .done rfl rfl trivial

/-- A call on the conversation of its order is like itself. -/
theorem answer_alike (hne : rider ≠ other)
    (hp : p.Only replies (Asks user order) (fun x => x.isOk = true → PartyOf user order)) :
    Alike (veil rider other orderId) (fun _ _ => True) (answer user order p).discard
      (answer user order p).discard := by
  by_cases h : order.isWith orderId other = false ∨ user.isRider rider = true
  · exact answer_self (alike_self (hp.mono (fun _ hasks => seen_of_asks hne h hasks) fun _ _ =>
      trivial))
  · obtain ⟨horder, huser⟩ := not_or.mp h
    have honly : p.Only (repliesOf other orderId)
        (fun kind => (veil rider other orderId).op kind = true) (fun _ => True) :=
      only_hidden hp (by simpa using horder)
    exact answer_other (by simpa using huser) (.hidden honly honly fun _ _ _ _ => trivial)

/-! ## The order screen -/

theorem screenOf_other {role : Role} (hrole : requireRole user = .ok role)
    (horder : order.isWith orderId other = true) (config : Config) (now : Date) :
    Alike (veil rider other orderId) (fun _ _ => True) (screenOf user role order config now)
      (screenOf user role order config now) := by
  have hlookup : ∀ {α : Type} {p : M α},
      p.Only replies (fun kind => kind.isLookup = true) (fun _ => True) →
        Alike (veil rider other orderId) Eq p p :=
    fun hp => alike_self (hp.mono (fun _ => seen_of_isLookup) fun _ => id)
  unfold screenOf
  refine (hlookup (counterpartNames_only order role)).bind_eq (fun names => ?_) fun _ => trivial
  -- the channels are read to the end, whatever is found
  have hchannels : (channelStates user role order config names (channelsForRole role)).Only
      (repliesOf other orderId) (fun kind => (veil rider other orderId).op kind = true)
      (fun x => True → x.isOk = true) := by
    refine Prog.Only.mono (Prog.Only.of_replies (channelStates_only True hrole _)
      fun kind r hreads hr => ⟨hr.1, fun _ => hr.2 (hreads.1.isWith horder) hreads.2⟩)
      (fun _ hreads => hreads.1.hidden horder) fun _ => id
  refine Alike.bind (R := fun x y => x.isOk = true ∧ y.isOk = true)
    (.hidden hchannels hchannels fun x y hx hy => ⟨hx trivial, hy trivial⟩) fun x y hxy => ?_
  cases x with
  | error e => cases hxy.1
  | ok channels =>
    cases y with
    | error e => cases hxy.2
    | ok channels' =>
      have hissues : Alike (veil rider other orderId) Eq
          (perform (Kind.findIssues order.orderId (some user.id) 10))
          (perform (Kind.findIssues order.orderId (some user.id) 10)) :=
        Alike.perform_visible (V := veil rider other orderId)
          (Kind.findIssues order.orderId (some user.id) 10) rfl
      refine hissues.bind_eq (fun issues => ?_) fun _ => trivial
      refine (hlookup (handoverIssues_only role order)).bind_eq (fun handover => ?_)
        fun _ => trivial
      exact .ret trivial

theorem getCommunicationState_alike (hne : rider ≠ other) (user : User) (order : Order)
    (config : Config) (now : Date) :
    Alike (veil rider other orderId) (fun _ _ => True)
      (answer user order (getCommunicationState user order config now)).discard
      (answer user order (getCommunicationState user order config now)).discard := by
  have honly := getCommunicationState_only user order config now
  by_cases h : order.isWith orderId other = false ∨ user.isRider rider = true
  · refine answer_self (alike_self (honly.mono (fun kind hkind => ?_) fun _ _ => trivial))
    exact hkind.elim seen_of_isLookup fun hreads => seen_of_asks hne h hreads.1
  · obtain ⟨horder, huser⟩ := not_or.mp h
    refine answer_other (by simpa using huser) ?_
    unfold getCommunicationState
    cases hrole : requireRole user with
    | error e => exact .throw trivial
    | ok role =>
      change Alike _ _ (if _ then _ else _) (if _ then _ else _)
      split
      · exact screenOf_other hrole (by simpa using horder) config now
      · exact .throw trivial

/-! ## The reconciler -/

/-- A list is gone through alike if what is seen of it is the same. -/
theorem sync_alike (order : Order) {l l' : List Conversation}
    (h : l.filter (fun c => !c.key.isWith orderId other)
      = l'.filter (fun c => !c.key.isWith orderId other)) :
    Alike (veil rider other orderId) (fun _ _ => True) (Prog.forEach (syncConversation order) l)
      (Prog.forEach (syncConversation order) l') := by
  -- what is done with a conversation with `other` is hidden, and is done
  have hquiet : ∀ c : Conversation, c.key.isWith orderId other = true →
      (syncConversation order c).Only (repliesOf other orderId)
        (fun kind => (veil rider other orderId).op kind = true) (fun x => x = .ok ()) := by
    intro c hc
    have hclose : ∀ revoked, (perform (Kind.close c.key revoked) : M Unit).Only
        (repliesOf other orderId) (fun kind => (veil rider other orderId).op kind = true)
        (fun x => x = .ok ()) := by
      intro revoked
      refine .perform (P := fun kind => (veil rider other orderId).op kind = true) hc
        fun r hr => ?_
      have hisOk := hr.2 hc (by simp)
      cases r with
      | ok u => rfl
      | error e => cases hisOk
    unfold syncConversation
    exact .ite (fun _ => hclose _) fun _ => .ite (fun _ => rfl) fun _ => hclose _
  induction l generalizing l' with
  | nil =>
    induction l' with
    | nil => exact .ret trivial
    | cons c cs ih =>
      have hc : c.key.isWith orderId other = true := by
        by_contra hc
        rw [filter_nil, filter_cons_of_pos (by simpa using hc)] at h
        cases h
      rw [filter_nil, filter_cons_of_neg (by simpa using hc)] at h
      refine .bind_right (hquiet c hc) fun y hy => ?_
      subst hy
      exact ih h
  | cons c cs ih =>
    cases hc : c.key.isWith orderId other with
    | true =>
      rw [filter_cons_of_neg (by simpa using hc)] at h
      refine .bind_left (hquiet c hc) fun x hx => ?_
      subst hx
      exact ih h
    | false =>
      rw [filter_cons_of_pos (by simpa using hc)] at h
      induction l' with
      | nil => cases h
      | cons c' cs' ih' =>
        cases hc' : c'.key.isWith orderId other with
        | true =>
          rw [filter_cons_of_neg (by simpa using hc')] at h
          refine .bind_right (hquiet c' hc') fun y hy => ?_
          subst hy
          exact ih' h
        | false =>
          rw [filter_cons_of_pos (by simpa using hc')] at h
          obtain ⟨rfl, hrest⟩ := cons.inj h
          refine Alike.bind_eq ?_ (fun _ => ih hrest) fun _ => trivial
          have hclose : ∀ revoked, Alike (veil rider other orderId) Eq
              (perform (Kind.close c.key revoked))
              (perform (Kind.close c.key revoked)) :=
            fun revoked => Alike.perform_visible (V := veil rider other orderId)
              (Kind.close c.key revoked) hc
          unfold syncConversation
          split
          · exact hclose _
          · split
            · exact .done rfl rfl rfl
            · exact hclose _

theorem syncCommunicationState_alike (order : Order) :
    Alike (veil rider other orderId) (fun _ _ => True) (syncCommunicationState order)
      (syncCommunicationState order) := by
  unfold syncCommunicationState
  refine (Alike.perform_visible (V := veil rider other orderId) (Kind.findOpen order.orderId)
    rfl).bind fun r r' hrr' => ?_
  cases r with
  | error e =>
    cases r' with
    | error e' => exact .throw trivial
    | ok l' => cases hrr'
  | ok l =>
    cases r' with
    | error e' => cases hrr'
    | ok l' => exact sync_alike order (Except.ok.inj hrr')

/-! ## The veil is lawful -/

theorem entry_hidden {call : Call} (h : (veil rider other orderId).start call = true) :
    (entry call).Only (repliesOf other orderId)
      (fun kind => (veil rider other orderId).op kind = true) (fun _ => True) := by
  cases call with
  | sendMessage user order bodyConfig config channel body stamp =>
    obtain ⟨horder, huser⟩ := Bool.and_eq_true_iff.mp h
    have hsend : (sendMessage user order bodyConfig config channel body stamp).Only
        (repliesOf other orderId) (fun kind => (veil rider other orderId).op kind = true)
        (fun _ => True) := only_hidden (sendMessage_only _ _ _ _ _ _ _) horder
    refine Prog.Only.bind (Q := fun _ => True) ?_ (fun _ _ => trivial) fun _ _ => trivial
    refine Prog.Only.bind (Q := fun _ => True)
      (hsend.tryCatch (fun _ _ => .ret trivial) fun _ _ => trivial)
      (fun response _ => ?_) fun _ _ => trivial
    exact .bind (.perform (P := fun kind => (veil rider other orderId).op kind = true) huser
      fun _ _ => trivial) (fun _ _ => trivial) fun _ _ => trivial
  | listMessages | updateReceipts | getCommunicationState | syncCommunicationState => cases h

theorem entry_alike (hne : rider ≠ other) (call : Call) :
    Alike (veil rider other orderId) (fun _ _ => True) (entry call) (entry call) := by
  cases call with
  | sendMessage user order bodyConfig config channel body stamp =>
    exact answer_alike hne (sendMessage_only _ _ _ _ _ _ _)
  | listMessages user order config channel opts =>
    exact answer_alike hne ((listMessages_only _ _ _ _ _).mono (fun _ h => h.1) fun _ => id)
  | updateReceipts user order config channel body =>
    exact answer_alike hne ((updateReceipts_only _ _ _ _ _).mono (fun _ h => h.1) fun _ => id)
  | getCommunicationState user order config now =>
    exact getCommunicationState_alike hne user order config now
  | syncCommunicationState order => exact syncCommunicationState_alike order

theorem outside_hidden {event : Event} (h : (veil rider other orderId).event event = true)
    {s s' : World} (hs : outside event s = some s') : Sees rider other orderId s s' := by
  cases event with
  | expire key seq =>
    cases hs
    refine { (Sees.refl s : Sees rider other orderId s s) with messages := ?_ }
    dsimp only
    rw [filter_filter]
    refine filter_congr fun m _ => ?_
    by_cases hm : m.conversationId = key ∧ m.seq = seq
    · have hwith : m.conversationId.isWith orderId other = true := by
        rw [hm.1]
        exact h
      rw [hwith]
      rfl
    · rw [decide_eq_true hm, Bool.and_true]
  | order | config | person | issues => cases h

theorem outside_visible (event : Event) {s t s' : World} (h : Sees rider other orderId s t)
    (hs : outside event s = some s') :
    ∃ t', outside event t = some t' ∧ Sees rider other orderId s' t' := by
  cases event with
  | order order =>
    cases hs
    exact ⟨_, rfl, { h with orders := by dsimp only; rw [h.orders] }⟩
  | config config =>
    cases hs
    exact ⟨_, rfl, { h with }⟩
  | person role id person =>
    cases hs
    exact ⟨_, rfl, { h with people := by dsimp only; rw [h.people] }⟩
  | issues issues =>
    cases hs
    exact ⟨_, rfl, { h with issues := rfl }⟩
  | expire key seq =>
    cases hs
    refine ⟨_, rfl, { h with messages := ?_ }⟩
    dsimp only
    rw [filter_comm, h.messages, filter_comm]

theorem veil_lawful (hne : rider ≠ other) :
    (veil rider other orderId).Lawful chat (Undisturbed other orderId) where
  symm _ _ h := h.symm
  trans _ _ _ h h' := h.trans h'
  reply_symm _ _ _ h := sameReply_symm h
  replies _ _ _ _ _ _ hok hs := performOp_repliesOf hok hs
  op_hidden _ _ _ _ _ _ hop hs := performOp_hidden hop hs
  op_visible _ _ _ _ _ _ _ hop h hs := performOp_visible hop h hs
  event_hidden _ _ _ he hs := outside_hidden he hs
  event_visible e _ _ _ _ h hs := outside_visible e h hs
  mayStart call s t h := by
    change mayStart s call = mayStart t call
    unfold mayStart
    rw [h.orders]
  entry_hidden _ h := entry_hidden h
  entry_visible call _ := entry_alike hne call

end Alike

/-! ## Who is shown a chat -/

/-- An error shows nothing of an order. -/
def Response.isFailure : Response → Bool
  | .failed _ => true
  | _ => false

def Call.isSend : Call → Bool
  | .sendMessage _ _ _ _ _ _ _ => true
  | _ => false

/-- Only a party of the order, as the call found it, is answered anything but an error. -/
def Told : Kind → Prop
  | .respond user order response => response.isFailure = false → PartyOf user order
  | _ => True

/-- The answers given so far are to parties, or errors. -/
def World.PartiesOnly (s : World) : Prop :=
  ∀ a ∈ s.answers, a.response.isFailure = false → PartyOf a.user a.order

/-- What the operations of a call do: only a party is told anything but an error, and only
`sendMessage` stores messages. -/
def Does (call : Call) (kind : Kind) : Prop :=
  Told kind ∧ (call.isSend = false → ∀ message, kind ≠ .createMessage message)

/-- A call that returns to a party only tells others of its failure. -/
theorem answer_does {call : Call} {user : User} {order : Order} {p : M Response}
    (hp : p.Only replies (fun kind => kind.isLookup = true ∨ Asks user order kind ∧
      (call.isSend = false → ∀ message, kind ≠ .createMessage message))
      (fun x => x.isOk = true → PartyOf user order)) :
    (answer user order p).discard.Only replies (Does call) (fun _ => True) := by
  have hdoes : p.Only replies (Does call) (fun x => x.isOk = true → PartyOf user order) := by
    refine hp.mono (fun kind hkind => ?_) fun _ => id
    rcases hkind with hlookup | ⟨⟨key, hkey, -⟩, hstore⟩
    · cases kind with
      | respond | createMessage => cases hlookup
      | _ => exact ⟨trivial, fun _ => by simp⟩
    · cases kind with
      | respond user order response => cases hkey
      | _ => exact ⟨trivial, hstore⟩
  have hcaught : (p.tryCatch (fun e => pure (.failed e))).Only replies (Does call)
      (fun x => ∀ response, x = .ok response → response.isFailure = false →
        PartyOf user order) := by
    refine hdoes.tryCatch (fun e _ => ?_) fun response hresponse _ _ _ => hresponse rfl
    refine .ret fun response heq hfailure => ?_
    cases heq
    cases hfailure
  refine Prog.Only.bind (Q := fun _ => True) ?_ (fun _ _ => trivial) fun _ _ => trivial
  refine hcaught.bind (fun response hresponse => ?_) fun _ _ => trivial
  exact .bind (.perform (P := Does call) ⟨hresponse response rfl, fun _ => by simp⟩
    fun _ _ => trivial) (fun _ _ => trivial) fun _ _ => trivial

theorem entry_does (call : Call) : (entry call).Only replies (Does call) (fun _ => True) := by
  cases call with
  | sendMessage user order bodyConfig config channel body stamp =>
    exact answer_does ((sendMessage_only _ _ _ _ _ _ _).mono
      (fun _ h => .inr ⟨h, fun hsend => by cases hsend⟩) fun _ => id)
  | listMessages user order config channel opts =>
    exact answer_does ((listMessages_only _ _ _ _ _).mono
      (fun _ h => .inr ⟨h.1, fun _ => h.2⟩) fun _ => id)
  | updateReceipts user order config channel body =>
    exact answer_does ((updateReceipts_only _ _ _ _ _).mono
      (fun _ h => .inr ⟨h.1, fun _ => h.2⟩) fun _ => id)
  | getCommunicationState user order config now =>
    exact answer_does ((getCommunicationState_only user order config now).mono
      (fun _ h => h.imp id fun h => ⟨h.1, fun _ => h.2⟩) fun _ => id)
  | syncCommunicationState order =>
    have hother : ∀ kind : Kind, (∃ id, kind = .findOpen id) ∨ (∃ key revoked,
        kind = .close key revoked) → Does (.syncCommunicationState order) kind := by
      rintro kind (⟨id, rfl⟩ | ⟨key, revoked, rfl⟩)
      · exact ⟨trivial, fun _ => by simp⟩
      · exact ⟨trivial, fun _ => by simp⟩
    refine .bind (.perform (hother _ (.inl ⟨_, rfl⟩)) fun _ _ => trivial) (fun l _ => ?_)
      fun _ _ => trivial
    induction l with
    | nil => exact trivial
    | cons c cs ih =>
      have hclose : ∀ revoked, (perform (Kind.close c.key revoked) : M Unit).Only replies
          (Does (.syncCommunicationState order)) (fun _ => True) := fun revoked =>
        .perform (hother _ (.inr ⟨_, _, rfl⟩)) fun _ _ => trivial
      refine Prog.Only.bind (Q := fun _ => True) ?_ (fun _ _ => ih) fun _ _ => trivial
      exact .ite (fun _ => hclose _) fun _ => .ite (fun _ => trivial) fun _ => hclose _

theorem entry_told (call : Call) : (entry call).Only replies Told (fun _ => True) :=
  (entry_does call).mono (fun _ h => h.1) fun _ => id

theorem effect_partiesOnly {kind : Kind} (hkind : Told kind) {task : ℕ} {s : World}
    (hs : s.PartiesOnly) : (effect task s kind).2.PartiesOnly := by
  cases kind with
  | respond user order response =>
    intro a ha
    rcases mem_append.mp ha with ha | ha
    · exact hs a ha
    · rw [mem_singleton.mp ha]
      exact hkind
  | upsertConversation key counterpartId assignmentVersion =>
    unfold effect World.upserted
    dsimp only
    split
    · exact hs
    · exact hs
  | nextSeq key now =>
    unfold effect World.numbered
    dsimp only
    split
    · exact hs
    · exact hs
  | createMessage message =>
    unfold effect
    dsimp only
    split
    · exact hs
    · exact hs
  | raiseReceipts key side deliveredSeq readSeq =>
    unfold effect World.receipted
    dsimp only
    split
    · exact hs
    · exact hs
  | close key revoked =>
    unfold effect World.closed
    dsimp only
    split
    · exact hs
    · exact hs
  | _ => exact hs

theorem step_partiesOnly {p : Pool Kind Kind.Reply ChatError World}
    (a : Action (Outcome ChatError) Event Call)
    (hp : p.Only replies Told ∧ p.shared.PartiesOnly) :
    (chat.step p a).Only replies Told ∧ (chat.step p a).shared.PartiesOnly := by
  refine ⟨System.step_only (fun _ _ _ _ _ _ hs => performOp_replies hs) entry_told a hp.1, ?_⟩
  cases a with
  | run i c =>
    unfold System.step
    dsimp only
    split
    next op next htask =>
      split
      next r s hstep =>
        rcases Outcome.perform_eq (Option.some.inj hstep) with ⟨-, rfl⟩ | ⟨-, rfl, -⟩
        · exact hp.2
        · exact effect_partiesOnly (hp.1 _ (mem_of_getElem? htask)).1 hp.2
      next => exact hp.2
    next => exact hp.2
  | outside e =>
    unfold System.step
    dsimp only
    split
    next s hout =>
      cases e <;> cases hout <;> exact hp.2
    next => exact hp.2
  | start k =>
    unfold System.step
    dsimp only
    split
    · exact hp.2
    · exact hp.2

/-- A history: what happens, from a state in which no call is under way. -/
abbrev history (s : World) (as : List (Action (Outcome ChatError) Event Call)) :
    Pool Kind Kind.Reply ChatError World :=
  exec chat.step ⟨s, []⟩ as

/-- Chats of different riders are isolated. Two histories that differ only in what is sent while
`other` has the order, and in what that leads to in its conversations and in answers to others, give
`rider` the same answers. And no one is answered anything but an error on an order it is not the
customer, the seller or the current rider of. -/
theorem chats_isolated (rider other orderId : ObjectId) (hne : rider ≠ other) (s : World)
    (as bs : List (Action (Outcome ChatError) Event Call))
    (has : Guarded chat.step (OnOps (Undisturbed other orderId)) ⟨s, []⟩ as)
    (hbs : Guarded chat.step (OnOps (Undisturbed other orderId)) ⟨s, []⟩ bs)
    (htrace : (veil rider other orderId).trace chat ⟨s, []⟩ as
      = (veil rider other orderId).trace chat ⟨s, []⟩ bs)
    (hs : s.PartiesOnly) :
    (history s as).shared.answersTo rider = (history s bs).shared.answersTo rider ∧
      Along chat.step (fun p => p.shared.PartiesOnly) ⟨s, []⟩ as := by
  constructor
  · have hstart : (veil rider other orderId).Related
        (⟨s, []⟩ : Pool Kind Kind.Reply ChatError World) ⟨s, []⟩ := ⟨Sees.refl s, fun _ => .none⟩
    exact (Veil.trace_related (veil_lawful hne) hstart has hbs htrace).sees.answers
  · have hstart : Pool.Only replies Told (⟨s, []⟩ : Pool Kind Kind.Reply ChatError World) ∧
        s.PartiesOnly := ⟨fun _ h => (nomatch h), hs⟩
    have hrun := along_of_step
      (I := fun p : Pool Kind Kind.Reply ChatError World =>
        p.Only replies Told ∧ p.shared.PartiesOnly)
      (fun _ a hp => step_partiesOnly a hp) hstart as
    exact hrun.mono fun _ hp => hp.2

/-- An order whose customer writes to one rider and is then brought its parcel by another. -/
def handedOver (rider : ObjectId) : Order :=
  { orderId := 1, customer := some 10, seller := some 30, deliveryBoy := some rider
    workflowStatus := some .deliveryAssigned }

/-- The customer writes to the rider 21 (if it does), the order goes to the rider 20, who opens the
chat. -/
def handoverHistory (text : String) : List (Action (Outcome ChatError) Event Call) :=
  [.start (.sendMessage ⟨"customer", 10⟩ (handedOver 21) {} {} (some .customerRider)
      ⟨some "message-1", some text⟩ ⟨100, 5⟩),
    .run 0 .done, .run 0 .done, .run 0 .done, .run 0 .done, .run 0 .done,
    .outside (.order (handedOver 20)),
    .start (.listMessages ⟨"delivery", 20⟩ (handedOver 20) {} (some .customerRider) {}),
    .run 1 .done, .run 1 .done]

def handoverStart : World := { orders := fun id => if id = 1 then some (handedOver 21) else none }

instance (i : ℕ) (kind : Kind) (outcome : Outcome ChatError) (s : World) :
    Decidable (Undisturbed 21 1 i kind outcome s) :=
  inferInstanceAs (Decidable (_ → outcome = .done))

theorem chats_isolated_handedOver :
    (history handoverStart (handoverHistory "Ring twice")).shared.answersTo 20
        = (history handoverStart (handoverHistory "Leave it outside")).shared.answersTo 20 ∧
      Along chat.step (fun p => p.shared.PartiesOnly) ⟨handoverStart, []⟩
        (handoverHistory "Ring twice") :=
  chats_isolated 20 21 1 (by decide) handoverStart _ _ (by decide +kernel) (by decide +kernel)
    (by decide +kernel) (fun _ h => nomatch h)

end DiscountBazar.Chat
