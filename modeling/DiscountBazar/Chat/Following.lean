/-
A client that follows a conversation.

The client asks again and again for the messages with a number above the highest it has seen, while
the parties send. Numbers are taken in one write and messages stored in another, so a message can be
stored under a number below one that the client has seen already; it is never returned then. These
are the only messages that are lost: whatever else happens, the client is returned each message once,
in the order of the numbers.
-/
import DiscountBazar.Chat.Numbers
import DiscountBazar.Lib.Feed
import Mathlib.Data.List.Pairwise

namespace DiscountBazar.Chat

open Finance Tasks Function Runs World Prog
open Contract (Sound)
open List (append_nil filter_map map_append map_map mem_append mem_filter take_take)
open Outcome Feed

/-! ## The client -/

/-- What a poll goes by: the order and the settings as it loads them, and the page size. -/
structure Poll where
  order : Order
  config : Config
  limit : Option ℤ := none

def highest (key : Option Key) (seen : List MessageView) : ℕ :=
  ((seen.filter (fun v => decide (some v.conversationId = key))).map MessageView.seq).foldl max 0

def Response.messages : Response → List MessageView
  | .page shown => shown.messages
  | _ => []

/-- One request for what comes after the highest number seen; one that fails returns nothing. -/
def poll (user : User) (channel : Option Channel) (request : Poll) (seen : List MessageView) :
    M Response :=
  let afterSeq : ℤ := highest (conversationKey request.order channel) seen
  (listMessages user request.order request.config channel ⟨request.limit, some afterSeq, none⟩).tryCatch
    (fun e => pure (.failed e))

def follow (user : User) (channel : Option Channel) : List Poll → List MessageView → M Unit
  | [], _ => pure ()
  | request :: requests, seen => do
      let response ← poll user channel request seen
      follow user channel requests (seen ++ response.messages)

/-! ## The system -/

/-- The chat, and what each client has been returned. -/
structure Watched where
  chat : World
  shown : ℕ → List Message := fun _ => []

/-- What a query for a page gets to the client: one message more is asked for, to tell whether there
are more. -/
def shownBy : (kind : Kind) → Except ChatError kind.Reply → List Message
  | .messagesAfter _ _ limit, .ok rows => rows.take (limit - 1)
  | _, _ => []

/-- An operation on the chat; what it returns to a client is kept as history. -/
def performWatched (task : ℕ) (kind : Kind) (outcome : Outcome ChatError) (w : Watched) :
    Option (Except ChatError kind.Reply × Watched) :=
  (performOp task kind outcome w.chat).map fun done =>
    (done.1, ⟨done.2, update w.shown task (w.shown task ++ shownBy kind done.1)⟩)

/-- Messages do not run out while clients follow. -/
def outsideWatched : Event → Watched → Option Watched
  | .expire _ _, _ => none
  | event, w => (outside event w.chat).map fun s => { w with chat := s }

/-- The parties send, and clients follow. Other calls store no messages and are left out. -/
inductive Party where
  | send (user : User) (order : Order) (bodyConfig config : Config) (channel : Option Channel)
      (body : Body) (stamp : Stamp)
  | follow (user : User) (channel : Option Channel) (requests : List Poll)

def entryWatched : Party → M Unit
  | .send user order bodyConfig config channel body stamp =>
    entry (.sendMessage user order bodyConfig config channel body stamp)
  | .follow user channel requests => follow user channel requests []

/-- A send loads the order as it stands; so does each request of a client, later. -/
def mayStartWatched (w : Watched) : Party → Bool
  | .send user order bodyConfig config channel body stamp =>
    mayStart w.chat (.sendMessage user order bodyConfig config channel body stamp)
  | .follow _ _ _ => true

def watched : System Kind Kind.Reply ChatError Watched (Outcome ChatError) Event Party where
  perform := performWatched
  outside := outsideWatched
  entry := entryWatched
  mayStart := mayStartWatched

/-! ## Numbers -/

def numbersIn (key : Key) (messages : List Message) : List ℕ :=
  (messages.filter (fun m => decide (m.conversationId = key))).map Message.seq

theorem numbersIn_append (key : Key) (messages messages' : List Message) :
    numbersIn key (messages ++ messages') = numbersIn key messages ++ numbersIn key messages' := by
  unfold numbersIn
  rw [List.filter_append, map_append]

variable {key : Key} {messages : List Message} {n : ℕ}

theorem mem_numbersIn :
    n ∈ numbersIn key messages ↔ ∃ m ∈ messages, m.conversationId = key ∧ m.seq = n := by
  unfold numbersIn
  simp only [List.mem_map, mem_filter, decide_eq_true_eq, and_assoc]

variable {m : Message}

theorem seq_mem_numbersIn (h : m ∈ messages) :
    m.seq ∈ numbersIn m.conversationId messages :=
  mem_numbersIn.mpr ⟨m, h, rfl, rfl⟩

theorem numbersIn_nodup (h : messages.Pairwise Message.Apart) (key : Key) :
    (numbersIn key messages).Nodup := by
  refine List.pairwise_map.mpr ((h.filter _).imp_of_mem fun hm hm' hapart => ?_)
  have hkey := of_decide_eq_true (mem_filter.mp hm).2
  have hkey' := of_decide_eq_true (mem_filter.mp hm').2
  exact (hapart (hkey.trans hkey'.symm)).1

theorem eq_of_seq (h : messages.Pairwise Message.Apart) {m m' : Message} (hm : m ∈ messages)
    (hm' : m' ∈ messages) (hkey : m.conversationId = m'.conversationId) (hseq : m.seq = m'.seq) :
    m = m' := by
  by_contra hne
  have hsymm : Std.Symm Message.Apart :=
    ⟨fun a b hab hconv => ⟨fun hs => (hab hconv.symm).1 hs.symm,
      fun hs => (hab hconv.symm).2 ⟨hs.1.symm, hs.2.symm⟩⟩⟩
  exact (h.forall hm hm' hne hkey).1 hseq

theorem foldl_max_lt {l : List ℕ} {n a : ℕ} : l.foldl max n < a ↔ n < a ∧ ∀ b ∈ l, b < a := by
  induction l generalizing n with
  | nil => simp
  | cons b l ih =>
    rw [List.foldl_cons, ih, max_lt_iff, List.forall_mem_cons, and_assoc]

/-- The messages of the client are the views of these. -/
def Agrees (seen : List MessageView) (shown : List Message) : Prop :=
  seen.map (fun v => (v.conversationId, v.seq)) = shown.map (fun m => (m.conversationId, m.seq))

theorem agrees_map (viewerId : ObjectId) (shown : List Message) :
    Agrees (shown.map (serializeMessage viewerId)) shown := by
  unfold Agrees
  rw [map_map]
  rfl

theorem Agrees.append {seen seen' : List MessageView} {shown shown' : List Message}
    (h : Agrees seen shown) (h' : Agrees seen' shown') : Agrees (seen ++ seen') (shown ++ shown') := by
  unfold Agrees at *
  rw [map_append, map_append, h, h']

variable {seen : List MessageView}

theorem highest_eq {shown : List Message} (h : Agrees seen shown) (key : Key) :
    highest (some key) seen = (numbersIn key shown).foldl max 0 := by
  have hnumbers : ∀ l : List (Key × ℕ), (l.filter (fun x => decide (x.1 = key))).map Prod.snd
      = ((l.filter (fun x => decide (some x.1 = some key))).map Prod.snd) := by
    intro l
    simp only [Option.some.injEq]
  have hseen : ((seen.filter (fun v => decide (some v.conversationId = some key))).map MessageView.seq)
      = ((seen.map (fun v => (v.conversationId, v.seq))).filter
          (fun x => decide (some x.1 = some key))).map Prod.snd := by
    rw [filter_map, map_map]
    rfl
  have hshown : numbersIn key shown = ((shown.map (fun m => (m.conversationId, m.seq))).filter
      (fun x => decide (x.1 = key))).map Prod.snd := by
    rw [filter_map, map_map]
    rfl
  unfold highest
  rw [hseen, hshown, hnumbers, h]

/-! ## One page -/

variable {s : World}

theorem after_numbers {shown : List ℕ} (hpos : ∀ m ∈ s.messages, 0 < m.seq) :
    (s.after key (shown.foldl max 0)).map Message.seq
      = pending (numbersIn key s.messages) shown := by
  unfold after pending
  rw [List.map_insertionSort _ (· ≤ ·) Message.seq _ fun _ _ _ _ => Iff.rfl]
  congr 1
  unfold numbersIn
  rw [filter_map, List.filter_filter]
  refine congrArg _ (List.filter_congr fun m hm => ?_)
  rw [comp_apply, ← Bool.decide_and]
  refine decide_eq_decide.mpr ?_
  rw [foldl_max_lt]
  constructor
  · exact fun h => ⟨h.2.2, h.1⟩
  · exact fun h => ⟨h.2, hpos m hm, h.1⟩

theorem numbersIn_of_forall_ne (h : ∀ m ∈ messages, m.conversationId ≠ key) :
    numbersIn key messages = [] := by
  unfold numbersIn
  rw [List.map_eq_nil_iff, List.filter_eq_nil_iff]
  exact fun m hm => by simpa using h m hm

theorem numbersIn_of_forall_eq (h : ∀ m ∈ messages, m.conversationId = key) :
    numbersIn key messages = messages.map Message.seq := by
  unfold numbersIn
  rw [List.filter_eq_self.mpr fun m hm => decide_eq_true (h m hm)]

theorem mem_after :
    m ∈ s.after key n ↔ m ∈ s.messages ∧ m.conversationId = key ∧ n < m.seq := by
  unfold after
  rw [List.mem_insertionSort, mem_filter, decide_eq_true_iff]

/-- The chat is in order, only what is stored is returned, and each client is returned the messages of
a conversation in the order of their numbers. -/
structure Watched.Kept (w : Watched) : Prop where
  chat : w.chat.Kept
  stored : ∀ i, ∀ m ∈ w.shown i, m ∈ w.chat.messages
  rising : ∀ i key, (numbersIn key (w.shown i)).Pairwise (· < ·)

/-- The chat with a page of a conversation returned to a client. -/
def Watched.page (w : Watched) (i : ℕ) (key : Key) (limit : ℕ) : Watched :=
  { w with
    shown := update w.shown i (w.shown i ++
      (w.chat.after key ((numbersIn key (w.shown i)).foldl max 0)).take limit) }

theorem page_shown (w : Watched) (i : ℕ) (key : Key) (limit : ℕ) :
    (w.page i key limit).shown i = w.shown i ++
      (w.chat.after key ((numbersIn key (w.shown i)).foldl max 0)).take limit :=
  update_self ..

theorem page_shown_ne (w : Watched) {i j : ℕ} (h : j ≠ i) (key : Key) (limit : ℕ) :
    (w.page i key limit).shown j = w.shown j :=
  update_of_ne h ..

variable {w : Watched}

theorem page_numbers (hw : w.Kept) (i : ℕ) (key : Key) (limit : ℕ) (key' : Key) :
    numbersIn key' ((w.page i key limit).shown i)
      = if key' = key then read (numbersIn key w.chat.messages) limit (numbersIn key (w.shown i))
        else numbersIn key' (w.shown i) := by
  have hpage : ∀ m ∈ (w.chat.after key ((numbersIn key (w.shown i)).foldl max 0)).take limit,
      m.conversationId = key := fun m hm => (mem_after.mp (List.mem_of_mem_take hm)).2.1
  rw [page_shown, numbersIn_append]
  split
  · next hkey =>
      subst hkey
      rw [numbersIn_of_forall_eq hpage, List.map_take,
        after_numbers fun m hm => (hw.chat.numbered m hm).1]
      rfl
  · next hkey =>
      rw [numbersIn_of_forall_ne fun m hm hne => hkey (hne.symm.trans (hpage m hm)), append_nil]

theorem page_kept (hw : w.Kept) (i : ℕ) (key : Key) (limit : ℕ) :
    (w.page i key limit).Kept where
  chat := hw.chat
  stored := by
    intro j m hm
    by_cases hj : j = i
    · subst hj
      rw [page_shown] at hm
      rcases mem_append.mp hm with hm | hm
      · exact hw.stored j m hm
      · exact (mem_after.mp (List.mem_of_mem_take hm)).1
    · rw [page_shown_ne w hj] at hm
      exact hw.stored j m hm
  rising := by
    intro j key'
    by_cases hj : j = i
    · subst hj
      rw [page_numbers hw]
      split
      · exact read_pairwise (numbersIn_nodup hw.chat.single key) (hw.rising j key)
      · exact hw.rising j key'
    · rw [page_shown_ne w hj]
      exact hw.rising j key'

/-- The message is stored under a number below one that the client was returned, and has not been
returned itself. -/
def Watched.Missed (w : Watched) (i : ℕ) (m : Message) : Prop :=
  Feed.Missed m.seq (numbersIn m.conversationId (w.shown i))

theorem page_missed (hw : w.Kept) (i j : ℕ) (key : Key) (limit : ℕ) (hm : m ∈ w.chat.messages)
    (h : ¬ w.Missed j m) : ¬ (w.page i key limit).Missed j m := by
  unfold Watched.Missed at *
  by_cases hj : j = i
  · subst hj
    rw [page_numbers hw]
    split
    · next hkey =>
        rw [← hkey]
        exact not_missed_read (numbersIn_nodup hw.chat.single _) (seq_mem_numbersIn hm) h
    · exact h
  · rw [page_shown_ne w hj]
    exact h

/-! ## The contract -/

/-- What a task relies on: numbers stay handed out, messages stay, nobody else is returned anything in
its name, and a message that a client has not missed is missed only if it is stored too late. -/
structure Watched.Relied (i : ℕ) (w w' : Watched) : Prop where
  grows : w.chat.Grows w'.chat
  messages : ∀ m ∈ w.chat.messages, m ∈ w'.chat.messages
  shown : w'.shown i = w.shown i
  missed : ∀ j, ∀ m ∈ w.chat.messages, ¬ w.Missed j m → ¬ w'.Missed j m

variable {i : ℕ}

variable {w w' : Watched}

theorem Watched.Relied.of_shown (hgrows : w.chat.Grows w'.chat)
    (hmessages : ∀ m ∈ w.chat.messages, m ∈ w'.chat.messages) (hshown : w'.shown = w.shown) :
    w.Relied i w' where
  grows := hgrows
  messages := hmessages
  shown := by rw [hshown]
  missed := by
    intro j m _ h
    unfold Watched.Missed at *
    rw [hshown]
    exact h

def following : Contract watched where
  inv := Watched.Kept
  rely := fun i => Watched.Relied i
  idle := fun i w => w.shown i = []

theorem shownBy_error (kind : Kind) (e : ChatError) : shownBy kind (.error e) = [] := by
  cases kind <;> rfl

variable {kind : Kind}

theorem effect_messages (hkind : ∀ message, kind ≠ .createMessage message) (task : ℕ) (s : World) :
    (effect task s kind).2.messages = s.messages := by
  cases kind with
  | createMessage message => exact absurd rfl (hkind message)
  | upsertConversation key counterpartId assignmentVersion =>
    unfold effect upserted
    dsimp only
    split
    · rfl
    · rfl
  | nextSeq key now =>
    unfold effect numbered
    dsimp only
    split
    · rfl
    · rfl
  | raiseReceipts key side deliveredSeq readSeq =>
    unfold effect receipted
    dsimp only
    split
    · rfl
    · rfl
  | close key revoked =>
    unfold effect closed
    dsimp only
    split
    · rfl
    · rfl
  | _ => rfl

variable {outcome : Outcome ChatError} {r : Except ChatError kind.Reply}

theorem performOp_messages {s s' : World} (hkind : ∀ message, kind ≠ .createMessage message)
    (h : performOp i kind outcome s = some (r, s')) : s'.messages = s.messages := by
  rcases perform_eq (Option.some.inj h) with ⟨-, rfl⟩ | ⟨-, rfl, -⟩
  · rfl
  · exact effect_messages hkind i s

theorem performOp_keeps_messages {s s' : World} (h : performOp i kind outcome s = some (r, s')) :
    ∀ m ∈ s.messages, m ∈ s'.messages := by
  intro m hm
  by_cases hkind : ∃ message, kind = .createMessage message
  · obtain ⟨message, rfl⟩ := hkind
    rcases perform_eq (Option.some.inj h) with ⟨-, rfl⟩ | ⟨-, rfl, -⟩
    · exact hm
    · unfold effect
      dsimp only
      split
      · exact hm
      · exact mem_append.mpr (.inl hm)
  · rw [performOp_messages (fun message heq => hkind ⟨message, heq⟩) h]
    exact hm

def Kind.isPage : Kind → Bool
  | .messagesAfter _ _ _ => true
  | _ => false

theorem shownBy_of_isPage (h : kind.isPage = false) (reply : Except ChatError kind.Reply) :
    shownBy kind reply = [] := by
  cases kind with
  | messagesAfter key afterSeq limit => cases h
  | _ => cases reply <;> rfl

theorem performWatched_chat (hkind : kind.isPage = false)
    (h : performWatched i kind outcome w = some (r, w')) :
    performOp i kind outcome w.chat = some (r, w'.chat) ∧ w'.shown = w.shown := by
  unfold performWatched at h
  obtain ⟨⟨r', s⟩, hstep, heq⟩ := Option.map_eq_some_iff.mp h
  cases heq
  refine ⟨hstep, ?_⟩
  dsimp only
  rw [shownBy_of_isPage hkind, append_nil, update_eq_self]

/-! ## Sends -/

theorem all_ofExcept {α : Type} (x : Except ChatError α) :
    (ofExcept x).All (fun kind => kind.isPage = false) := by
  cases x with
  | ok | error => trivial

theorem storeMessage_all (user : User) (message : Message) :
    (storeMessage user message).All (fun kind => kind.isPage = false) := by
  unfold storeMessage
  refine .tryCatch (.bind (.perform rfl) fun _ => .ret) fun e => ?_
  cases e with
  | duplicateKey =>
    refine .bind (.perform rfl) fun raced => ?_
    cases raced with
    | some | none => trivial
  | svc | database => trivial

theorem sendIn_all (user : User) (role : Role) (input : String × String) (stamp : Stamp)
    (c : Conversation) : (sendIn user role input stamp c).All (fun kind => kind.isPage = false) := by
  unfold sendIn
  refine .ite (.bind (.perform rfl) fun existing => ?_) trivial
  cases existing with
  | some message => trivial
  | none =>
    refine .bind (.perform rfl) fun bumped => ?_
    cases bumped with
    | none => trivial
    | some d => exact storeMessage_all _ _

theorem entry_send_all (user : User) (order : Order) (bodyConfig config : Config)
    (channel : Option Channel) (body : Body) (stamp : Stamp) :
    (entry (.sendMessage user order bodyConfig config channel body stamp)).All
      (fun kind => kind.isPage = false) := by
  have hsend : (sendMessage user order bodyConfig config channel body stamp).All
      (fun kind => kind.isPage = false) := by
    unfold sendMessage
    refine .bind (all_ofExcept _) fun input => .bind (all_ofExcept _) fun access => ?_
    refine .bind ?_ fun c => sendIn_all _ _ _ _ c
    unfold getOrCreateConversation
    cases conversationKey order channel with
    | none => trivial
    | some key =>
      refine .tryCatch (.perform rfl) fun e => ?_
      cases e with
      | duplicateKey => exact .perform rfl
      | svc | database => trivial
  exact .discard (.bind (.tryCatch hsend fun _ => .ret) fun _ => .bind (.perform rfl) fun _ => .ret)

theorem sound_send (user : User) (order : Order) (bodyConfig config : Config)
    (channel : Option Channel) (body : Body) (stamp : Stamp) (i : ℕ) (w : Watched) :
    following.Keeps i (entry (.sendMessage user order bodyConfig config channel body stamp)) w := by
  refine Sound.lift (K := numbering) Watched.chat (fun _ (h : Watched.Kept _) => h.chat)
    (fun _ _ (h : Watched.Relied i _ _) => h.grows) (fun op c t r t' hop hinv _ hstep => ?_)
    (entry_send_all user order bodyConfig config channel body stamp) (sound_entry _ i w.chat)
  obtain ⟨hchat, hshown⟩ := performWatched_chat hop hstep
  have hmessages := performOp_keeps_messages hchat
  refine ⟨trivial, hchat, fun hkept hgrows => ⟨⟨hkept, fun j m hm => ?_, fun j key => ?_⟩,
    fun j hj => .of_shown (hgrows j hj) hmessages hshown⟩⟩
  · rw [hshown] at hm
    exact hmessages m (hinv.stored j m hm)
  · rw [hshown]
    exact hinv.rising j key

/-! ## Clients -/

theorem sound_lookup (hkind : kind.isPage = false)
    (hcreate : ∀ message, kind ≠ .createMessage message) (i : ℕ) {Q : kind.Reply → Watched → Prop}
    {E : ChatError → Watched → Prop}
    (hQ : ∀ (w' : Watched) reply, w'.shown i = w.shown i → (effect i w'.chat kind).1 = .ok reply →
      ∀ w'' : Watched, w''.shown i = w.shown i → Q reply w'')
    (hE : ∀ e (w' : Watched), w'.shown i = w.shown i → E e w') :
    following.Sound i Q E (perform kind) w := by
  refine Sound.perform fun w' (hrely : w.Relied i w') (hinv : w'.Kept) c _ r w'' hstep => ?_
  obtain ⟨hchat, hshown⟩ := performWatched_chat hkind hstep
  have hmessages := performOp_keeps_messages hchat
  have hseen : w''.shown i = w.shown i := by rw [hshown, hrely.shown]
  have hkeeps : w''.chat.Kept ∧ w'.chat.Grows w''.chat := by
    rcases perform_eq (Option.some.inj hchat) with ⟨-, h⟩ | ⟨-, h, -⟩
    · rw [h]
      exact ⟨hinv.chat, Grows.refl _⟩
    · rw [h]
      exact effect_kept hcreate i hinv.chat
  refine ⟨⟨hkeeps.1, fun j m hm => ?_, fun j key => ?_⟩,
    fun j _ => .of_shown hkeeps.2 hmessages hshown, fun reply hok => ?_, fun e _ => hE e w'' hseen⟩
  · rw [hshown] at hm
    exact hmessages m (hinv.stored j m hm)
  · rw [hshown]
    exact hinv.rising j key
  · rcases perform_eq (Option.some.inj hchat) with ⟨⟨e, h⟩, -⟩ | ⟨-, -, h | ⟨e, h⟩⟩
    · rw [h] at hok
      cases hok
    · exact hQ w' reply hrely.shown (h.symm.trans hok) w'' hseen
    · rw [h] at hok
      cases hok

theorem sound_messagesAfter (key : Key) (limit : ℕ) (i : ℕ)
    (hn : n = (numbersIn key (w.shown i)).foldl max 0) :
    following.Sound i (fun rows w' => w'.shown i = w.shown i ++ rows.take limit)
      (fun _ w' => w'.shown i = w.shown i)
      (perform (Kind.messagesAfter key n (limit + 1))) w := by
  refine Sound.perform fun w' (hrely : w.Relied i w') (hinv : w'.Kept) c _ r w'' hstep => ?_
  have hrefl : ∀ j, w'.Relied j w' := fun j => .of_shown (Grows.refl _) (fun _ => id) rfl
  have hmap : performWatched i (.messagesAfter key n (limit + 1)) c w' = some (r, w'') := hstep
  obtain ⟨⟨r', s⟩, hdone, heq⟩ := Option.map_eq_some_iff.mp hmap
  cases heq
  -- a query changes nothing in the chat
  have hcases : (∃ e, r' = .error e ∧ s = w'.chat) ∨
      (r' = .ok ((w'.chat.after key n).take (limit + 1)) ∧ s = w'.chat) := by
    rcases perform_eq (Option.some.inj hdone) with ⟨⟨e, h⟩, hs⟩ | ⟨-, hs, h | ⟨e, h⟩⟩
    · exact .inl ⟨e, h, hs⟩
    · exact .inr ⟨h, hs⟩
    · exact .inl ⟨e, h, hs⟩
  rcases hcases with ⟨e, rfl, rfl⟩ | ⟨rfl, rfl⟩
  · dsimp only
    rw [shownBy_error, append_nil, update_eq_self]
    exact ⟨hinv, fun j _ => hrefl j, fun _ h => (nomatch h), fun _ _ => hrely.shown⟩
  · have hpage : Watched.mk w'.chat (update w'.shown i (w'.shown i ++
        shownBy (.messagesAfter key n (limit + 1))
          (.ok ((w'.chat.after key n).take (limit + 1))))) = w'.page i key limit := by
      have hrows : ((w'.chat.after key n).take (limit + 1)).take (limit + 1 - 1)
          = (w'.chat.after key n).take limit := by
        rw [take_take, Nat.add_sub_cancel, Nat.min_eq_left (Nat.le_succ limit)]
      unfold Watched.page shownBy
      dsimp only
      rw [hrows, hn, hrely.shown]
    dsimp only
    rw [hpage]
    refine ⟨page_kept hinv i key limit, fun j hj => ?_, fun rows hok => ?_, fun _ h => (nomatch h)⟩
    · exact ⟨Grows.refl _, fun _ => id, page_shown_ne w' hj key limit,
        fun k m hm => page_missed hinv i k key limit hm⟩
    · cases hok
      refine (congrFun (congrArg Watched.shown hpage) i).trans ?_
      rw [page_shown, hrely.shown, take_take, Nat.min_eq_left (Nat.le_succ limit), hn]

theorem forwardFrom_natCast (limit : Option ℤ) (n : ℕ) :
    forwardFrom ⟨limit, some (n : ℤ), none⟩ = some n := by
  unfold forwardFrom
  rw [Option.bind_some, if_pos (Int.natCast_nonneg n), Int.toNat_natCast]

theorem sound_poll (user : User) (channel : Option Channel) (request : Poll) (i : ℕ)
    (hseen : Agrees seen (w.shown i)) :
    following.Sound i (fun response w' => Agrees (seen ++ response.messages) (w'.shown i))
      (fun _ _ => True) (poll user channel request seen) w := by
  have hnothing : ∀ (w' : Watched), w'.shown i = w.shown i → ∀ response : Response,
      response.messages = [] → Agrees (seen ++ response.messages) (w'.shown i) := by
    intro w' hw' response hresponse
    rw [hresponse, append_nil, hw']
    exact hseen
  unfold poll
  refine Sound.tryCatch (D := fun _ w' => w'.shown i = w.shown i) ?_
    fun e w' hw' => hnothing w' hw' (.failed e) rfl
  unfold listMessages
  cases authorize user request.order request.config channel .view with
  | error e => exact rfl
  | ok access =>
    unfold findConversation
    cases hkey : conversationKey request.order channel with
    | none => exact hnothing w rfl _ rfl
    | some key =>
      refine Sound.bind (p := perform (Kind.findConversation key))
        (R := fun c w' => w'.shown i = w.shown i ∧ ∀ conv, c = some conv → conv.key = key)
        (sound_lookup rfl (by simp) i (fun w' reply _ hreply w'' hw'' => ⟨hw'', fun conv hconv => ?_⟩)
          fun _ _ => id) fun c w' hw' => ?_
      · cases hreply
        exact Table.key_of_get? hconv
      · obtain ⟨hshown, hc⟩ := hw'
        cases c with
        | none => exact hnothing w' hshown _ rfl
        | some conv =>
          have hconv := hc conv rfl
          unfold pageOf pageRows
          dsimp only
          rw [forwardFrom_natCast, hconv]
          have hwatermark : highest (some key) seen
              = (numbersIn key (w'.shown i)).foldl max 0 := by
            rw [hshown]
            exact highest_eq hseen key
          refine Sound.bind (R := fun rows w'' =>
            w''.shown i = w.shown i ++ rows.1) (Sound.bind
            ((sound_messagesAfter key _ i hwatermark).mono (fun _ _ => id) fun _ _ h =>
              h.trans hshown) fun rows w'' h => ?_) fun rows w'' h => ?_
          · exact h.trans (by rw [hshown])
          · change Agrees (seen ++ rows.1.map (serializeMessage user.id)) (w''.shown i)
            rw [h]
            exact hseen.append (agrees_map _ _)

theorem sound_follow (user : User) (channel : Option Channel) (requests : List Poll) (i : ℕ)
    (hseen : Agrees seen (w.shown i)) :
    following.Keeps i (follow user channel requests seen) w := by
  induction requests generalizing seen w with
  | nil => trivial
  | cons request requests ih =>
    exact Sound.bind (sound_poll user channel request i hseen) fun _ _ h => ih h

theorem outsideWatched_eq {event : Event} (h : outsideWatched event w = some w') :
    outside event w.chat = some w'.chat ∧ w'.chat.messages = w.chat.messages ∧ w'.shown = w.shown := by
  cases event with
  | expire key seq => cases h
  | order | config | person | issues =>
    cases h
    exact ⟨rfl, rfl, rfl⟩

theorem following_lawful : following.Lawful where
  refl _ w := .of_shown (Grows.refl _) (fun _ => id) rfl
  trans i w w' w'' h h' :=
    { grows := fun key n hn => h'.grows key n (h.grows key n hn)
      messages := fun m hm => h'.messages m (h.messages m hm)
      shown := h'.shown.trans h.shown
      missed := fun j m hm hmissed => h'.missed j m (h.messages m hm) (h.missed j m hm hmissed) }
  idle i w w' h hidle := h.shown.trans hidle
  outside event w w' hinv _ hout := by
    obtain ⟨hchat, hmessages, hshown⟩ := outsideWatched_eq hout
    obtain ⟨hkept, hgrows⟩ := outside_kept hinv.chat hchat
    refine ⟨⟨hkept, fun j m hm => ?_, fun j key => ?_⟩,
      fun _ => .of_shown hgrows (fun m hm => by rw [hmessages]; exact hm) hshown⟩
    · rw [hshown] at hm
      rw [hmessages]
      exact hinv.stored j m hm
    · rw [hshown]
      exact hinv.rising j key
  entry party i w _ hidle _ := by
    cases party with
    | send user order bodyConfig config channel body stamp => exact sound_send _ _ _ _ _ _ _ i w
    | follow user channel requests =>
      refine sound_follow user channel requests i ?_
      have hnone : w.shown i = [] := hidle
      rw [hnone]
      rfl

/-! ## A client alone -/

/-- An operation with nothing in between, that goes through. -/
def performAlone (i : ℕ) (kind : Kind) (w : Watched) : Except ChatError kind.Reply × Watched :=
  let done := effect i w.chat kind
  (done.1, ⟨done.2, update w.shown i (w.shown i ++ shownBy kind done.1)⟩)

/-- The client polls some more times, with nothing in between. -/
def Watched.polled (w : Watched) (i : ℕ) (user : User) (channel : Option Channel) (request : Poll)
    (n : ℕ) : Watched :=
  ((follow user channel (List.replicate n request)
    ((w.shown i).map (serializeMessage user.id))).run (performAlone i) w).2

theorem pageLimit_pos (config : Config) (opts : ListOptions) : 0 < pageLimit config opts := by
  unfold pageLimit
  dsimp only
  split
  · omega
  · omega

theorem run_findConversation (i : ℕ) (key : Key) (w : Watched) :
    (perform (Kind.findConversation key) : M (Option Conversation)).run (performAlone i) w
      = (.ok (w.chat.conversations.get? key), w) := by
  rw [run_perform]
  unfold performAlone effect shownBy
  dsimp only
  rw [append_nil, update_eq_self]

theorem numbersIn_of_none (hs : s.Kept) (h : s.conversations.get? key = none) :
    numbersIn key s.messages = [] := by
  refine numbersIn_of_forall_ne fun m hm hkey => ?_
  obtain ⟨-, c, hc, -⟩ := hs.numbered m hm
  rw [hkey, h] at hc
  cases hc

theorem run_page (i : ℕ) (config : Config) (limit : Option ℤ) (c : Conversation)
    (hn : n = (numbersIn c.key (w.shown i)).foldl max 0) :
    ∃ more, (pageRows config ⟨limit, some (n : ℤ), none⟩ c).run (performAlone i) w
      = (.ok (((w.chat.after c.key n).take (pageLimit config ⟨limit, none, none⟩)), more),
          w.page i c.key (pageLimit config ⟨limit, none, none⟩)) := by
  let k := pageLimit config ⟨limit, none, none⟩
  have hrows : ((w.chat.after c.key n).take (k + 1)).take k = (w.chat.after c.key n).take k := by
    rw [take_take, Nat.min_eq_left (Nat.le_succ k)]
  have hquery : (perform (Kind.messagesAfter c.key n (k + 1)) : M (List Message)).run
      (performAlone i) w = (.ok ((w.chat.after c.key n).take (k + 1)), w.page i c.key k) := by
    rw [run_perform]
    unfold performAlone effect shownBy Watched.page
    dsimp only
    rw [Nat.add_sub_cancel, hrows, hn]
  unfold pageRows
  dsimp only
  rw [forwardFrom_natCast]
  refine ⟨decide (k < ((w.chat.after c.key n).take (k + 1)).length), ?_⟩
  refine (run_bind_ok hquery).trans ?_
  rw [run_pure]
  exact congrArg (fun rows => (Except.ok (rows, _), _)) hrows

variable {user : User} {channel : Option Channel} {access : Access}

theorem listMessages_run {order : Order} {config : Config} {opts : ListOptions}
    {rows : List Message × Bool} (haccess : authorize user order config channel .view = .ok access)
    (hkey : conversationKey order channel = some key)
    (hpage : (pageOf config opts (w.chat.conversations.get? key)).run (performAlone i) w
      = (.ok rows, w')) :
    ∃ response, (listMessages user order config channel opts).run (performAlone i) w
        = (.ok response, w') ∧
      response.messages = rows.1.map (serializeMessage user.id) := by
  unfold listMessages findConversation
  rw [haccess, hkey]
  refine ⟨_, (run_bind_ok (run_pure access w)).trans
    ((run_bind_ok (run_findConversation i key w)).trans (run_bind_ok hpage)), rfl⟩

variable {request : Poll}

theorem poll_run (hw : w.Kept)
    (haccess : authorize user request.order request.config channel .view = .ok access)
    (hkey : conversationKey request.order channel = some key) (hseen : Agrees seen (w.shown i)) :
    ∃ response w', (poll user channel request seen).run (performAlone i) w = (.ok response, w') ∧
      w'.Kept ∧ w'.chat = w.chat ∧ Agrees (seen ++ response.messages) (w'.shown i) ∧
        numbersIn key (w'.shown i)
          = read (numbersIn key w.chat.messages)
              (pageLimit request.config ⟨request.limit, none, none⟩) (numbersIn key (w.shown i)) := by
  have hwatermark := highest_eq hseen key
  unfold poll
  rw [hkey, hwatermark]
  cases hget : w.chat.conversations.get? key with
  | none =>
    have hpage : (pageOf request.config ⟨request.limit,
        some (((numbersIn key (w.shown i)).foldl max 0 : ℕ) : ℤ), none⟩
        (w.chat.conversations.get? key)).run (performAlone i) w = (.ok ([], false), w) := by
      rw [hget]
      rfl
    obtain ⟨response, hrun, hmessages⟩ := listMessages_run haccess hkey hpage
    refine ⟨response, w, run_tryCatch_ok hrun, hw, rfl, ?_, ?_⟩
    · rw [hmessages, List.map_nil, append_nil]
      exact hseen
    · have hnone := numbersIn_of_none hw.chat hget
      have hshown : numbersIn key (w.shown i) = [] := numbersIn_of_forall_ne fun m hm hm' => by
        have hmem := seq_mem_numbersIn (hw.stored i m hm)
        rw [hm', hnone] at hmem
        cases hmem
      rw [hnone, hshown]
      unfold Feed.read Feed.pending
      exact List.take_nil.symm
  | some c =>
    have hc : c.key = key := Table.key_of_get? hget
    subst hc
    obtain ⟨more, hrows⟩ := run_page i request.config request.limit c
      (rfl : (numbersIn c.key (w.shown i)).foldl max 0 = _)
    have hpage := (congrArg (fun conv => (pageOf request.config ⟨request.limit,
        some (((numbersIn c.key (w.shown i)).foldl max 0 : ℕ) : ℤ), none⟩ conv).run
          (performAlone i) w) hget).trans hrows
    obtain ⟨response, hrun, hmessages⟩ := listMessages_run haccess hkey hpage
    refine ⟨response, _, run_tryCatch_ok hrun, page_kept hw i _ _, rfl, ?_, ?_⟩
    · rw [page_shown, hmessages]
      exact hseen.append (agrees_map _ _)
    · rw [page_numbers hw, if_pos rfl]

theorem polled_numbers (hw : w.Kept)
    (haccess : authorize user request.order request.config channel .view = .ok access)
    (hkey : conversationKey request.order channel = some key) (n : ℕ) :
    (w.polled i user channel request n).Kept ∧
      (w.polled i user channel request n).chat = w.chat ∧
        numbersIn key ((w.polled i user channel request n).shown i)
          = reads (numbersIn key w.chat.messages)
              (pageLimit request.config ⟨request.limit, none, none⟩) n
                (numbersIn key (w.shown i)) := by
  have hrun : ∀ (n : ℕ) (w : Watched), w.Kept → ∀ seen, Agrees seen (w.shown i) →
      ∃ w', ((follow user channel (List.replicate n request) seen).run (performAlone i) w).2 = w' ∧
        w'.Kept ∧ w'.chat = w.chat ∧ numbersIn key (w'.shown i)
          = reads (numbersIn key w.chat.messages)
              (pageLimit request.config ⟨request.limit, none, none⟩) n
                (numbersIn key (w.shown i)) := by
    intro n
    induction n with
    | zero => exact fun w hw seen _ => ⟨w, rfl, hw, rfl, rfl⟩
    | succ n ih =>
      intro w hw seen hseen
      obtain ⟨response, w', hpoll, hw', hchat, hseen', hnumbers⟩ := poll_run hw haccess hkey hseen
      obtain ⟨w'', hfollow, hw'', hchat', hreads⟩ := ih w' hw' _ hseen'
      refine ⟨w'', ?_, hw'', hchat'.trans hchat, ?_⟩
      · rw [← hfollow]
        exact congrArg Prod.snd (run_bind_ok hpoll)
      · rw [hreads, hnumbers, hchat]
        rfl
  obtain ⟨w', heq, hw', hchat, hnumbers⟩ := hrun n w hw _ (agrees_map user.id (w.shown i))
  subst heq
  exact ⟨hw', hchat, hnumbers⟩

/-! ## Nothing is lost -/

/-- Every client is returned the messages of a conversation once each, in the order of their numbers;
each client message id of a sender is stored once in a conversation; and a client that may read a
conversation is returned all of it if it polls on. -/
structure Watched.Follows (w : Watched) : Prop where
  rising : ∀ i key, (numbersIn key (w.shown i)).Pairwise (· < ·)
  single : w.chat.messages.Pairwise fun m m' => m.conversationId = m'.conversationId →
    ¬ (m.senderId = m'.senderId ∧ m.clientMessageId = m'.clientMessageId)
  eventually : ∀ i user channel request key access,
    authorize user request.order request.config channel .view = .ok access →
      conversationKey request.order channel = some key →
        ∃ n, ∀ m ∈ w.chat.messages, m.conversationId = key →
          m ∈ (w.polled i user channel request n).shown i

/-- No client has missed a message. -/
def Watched.Lossless (w : Watched) : Prop := ∀ i, ∀ m ∈ w.chat.messages, ¬ w.Missed i m

theorem readable (key : Key) : ∃ user channel, ∃ request : Poll, ∃ access,
    authorize user request.order request.config channel .view = .ok access ∧
      conversationKey request.order channel = some key := by
  let order : Order :=
    { orderId := key.orderId, deliveryBoy := some key.riderId, workflowStatus := some .deliveryAssigned }
  have hrider : order.deliveryBoy = some key.riderId := rfl
  have hstatus : ∀ channel, WorkflowStatus.deliveryAssigned ∈ activeStatuses channel := by
    intro channel
    cases channel with
    | customerRider | sellerRider => decide
  have hactive : orderWorkflowStatus order ∈ activeStatuses key.channel := hstatus key.channel
  have hallowed := allowed_of_canSend (canSend_iff.mpr
    ⟨_, _, rfl, hrider, partyCheck_rider hrider key.channel, hactive, (rfl : Config.chatEnabled {} = true)⟩)
  have hauthorize : authorize ⟨"delivery", key.riderId⟩ order {} (some key.channel) .view
      = .ok ⟨.rider, evaluateChannelAccess .rider key.riderId order (some key.channel) {}⟩ := by
    unfold authorize
    rw [requireRole_rider]
    exact if_pos hallowed
  exact ⟨_, some key.channel, ⟨order, {}, none⟩, _, hauthorize, rfl⟩

/-- A client is returned a conversation in the end exactly if it has missed nothing of it. -/
theorem polled_all_iff (hw : w.Kept)
    (haccess : authorize user request.order request.config channel .view = .ok access)
    (hkey : conversationKey request.order channel = some key) :
    (∃ n, ∀ m ∈ w.chat.messages, m.conversationId = key →
        m ∈ (w.polled i user channel request n).shown i) ↔
      ∀ m ∈ w.chat.messages, m.conversationId = key → ¬ w.Missed i m := by
  have hnodup := numbersIn_nodup hw.chat.single key
  have hlimit := pageLimit_pos request.config ⟨request.limit, none, none⟩
  have hshown : ∀ n, (∀ m ∈ w.chat.messages, m.conversationId = key →
      m ∈ (w.polled i user channel request n).shown i) ↔
        ∀ a ∈ numbersIn key w.chat.messages, a ∈ reads (numbersIn key w.chat.messages)
          (pageLimit request.config ⟨request.limit, none, none⟩) n (numbersIn key (w.shown i)) := by
    intro n
    obtain ⟨hkept, hchat, hnumbers⟩ := polled_numbers (i := i) hw haccess hkey n
    rw [← hnumbers]
    constructor
    · intro h a ha
      obtain ⟨m, hm, hconv, rfl⟩ := mem_numbersIn.mp ha
      exact mem_numbersIn.mpr ⟨m, h m hm hconv, hconv, rfl⟩
    · intro h m hm hconv
      obtain ⟨m', hm', hconv', hseq⟩ := mem_numbersIn.mp
        (h m.seq (mem_numbersIn.mpr ⟨m, hm, hconv, rfl⟩))
      have hstored := hkept.stored i m' hm'
      rw [hchat] at hstored
      rw [eq_of_seq hw.chat.single hm hstored (hconv.trans hconv'.symm) hseq.symm]
      exact hm'
  rw [exists_congr hshown, reads_all_iff hnodup hlimit]
  constructor
  · intro h m hm hconv
    subst hconv
    exact h m.seq (seq_mem_numbersIn hm)
  · intro h a ha
    obtain ⟨m, hm, hconv, rfl⟩ := mem_numbersIn.mp ha
    subst hconv
    exact h m hm rfl

theorem follows_iff (hw : w.Kept) : w.Follows ↔ w.Lossless := by
  constructor
  · intro h i m hm
    obtain ⟨user, channel, request, access, haccess, hkey⟩ := readable m.conversationId
    exact (polled_all_iff hw haccess hkey).mp
      (h.eventually i user channel request _ access haccess hkey) m hm rfl
  · intro h
    exact
      { rising := hw.rising
        single := hw.chat.single.imp fun hapart hconv => (hapart hconv).2
        eventually := fun i user channel request key access haccess hkey =>
          (polled_all_iff hw haccess hkey).mpr fun m hm _ => h i m hm }

/-- A message is stored before any client is returned one of its conversation with a higher number. -/
def InOrder (_ : ℕ) : Kind → Outcome ChatError → Watched → Prop
  | .createMessage message, outcome, w =>
    outcome.takesEffect = true → w.chat.taken message = false →
      ∀ i, ∀ m ∈ w.shown i, m.conversationId = message.conversationId → m.seq < message.seq
  | _, _, _ => True

/-- A message that is stored has been missed by those who were returned a higher number already. -/
theorem createMessage_lossless_iff (hw : w.Kept) (h : w.Lossless) {message : Message}
    {r : Except ChatError Unit}
    (hstep : performWatched i (.createMessage message) outcome w = some (r, w')) :
    w'.Lossless ↔ InOrder i (.createMessage message) outcome w := by
  obtain ⟨hchat, hshown⟩ := performWatched_chat rfl hstep
  have hperform : outcome.perform (effect i w.chat (.createMessage message)) w.chat = (r, w'.chat) :=
    Option.some.inj hchat
  have hw' : w' = ⟨(outcome.perform (effect i w.chat (.createMessage message)) w.chat).2, w.shown⟩ := by
    rw [hperform, ← hshown]
  rw [hw']
  refine perform_iff (P := fun s => Watched.Lossless ⟨s, w.shown⟩) h fun _ => ?_
  unfold effect
  dsimp only
  cases htaken : w.chat.taken message with
  | true => exact iff_of_true h fun hfree => by cases hfree
  | false =>
    rw [if_neg (by simp)]
    constructor
    · intro hall _ j m hm hconv
      have hnew := hall j message (mem_append.mpr (.inr (List.mem_singleton_self _)))
      rcases not_missed_iff.mp hnew with hmem | habove
      · -- its number is free, so no stored message has it
        obtain ⟨m', hm', hconv', hseq⟩ := mem_numbersIn.mp hmem
        exact absurd hseq (apart_of_not_taken htaken (hw.stored j m' hm') hconv').1
      · exact habove m.seq (mem_numbersIn.mpr ⟨m, hm, hconv, rfl⟩)
    · intro hbelow j m hm
      rcases mem_append.mp hm with hm | hm
      · exact h j m hm
      · cases List.mem_singleton.mp hm
        refine not_missed_iff.mpr (.inr fun n hn => ?_)
        obtain ⟨m', hm', hconv', rfl⟩ := mem_numbersIn.mp hn
        exact hbelow rfl j m' hm' hconv'

theorem lossless_of_messages
    (hmissed : ∀ j, ∀ m ∈ w.chat.messages, ¬ w.Missed j m → ¬ w'.Missed j m) (h : w.Lossless)
    (hmessages : w'.chat.messages = w.chat.messages) : w'.Lossless := by
  intro j m hm
  rw [hmessages] at hm
  exact hmissed j m hm (h j m hm)

theorem performWatched_eq (i : ℕ) (kind : Kind) (outcome : Outcome ChatError) (w : Watched) :
    ∃ r w', performWatched i kind outcome w = some (r, w') ∧
      performOp i kind outcome w.chat = some (r, w'.chat) :=
  ⟨_, _, rfl, rfl⟩

variable {p : Pool Kind Kind.Reply ChatError Watched}

theorem step_lossless_iff {a : Action (Outcome ChatError) Event Party} (hp : following.Holds p)
    (h : p.shared.Lossless) :
    (watched.step p a).shared.Lossless ↔ OnOps InOrder p a := by
  have hmeets : following.Meets p a := by
    cases a with
    | run i c => exact fun _ _ _ => trivial
    | outside | start => trivial
  have hmissed : ∀ j, ∀ m ∈ p.shared.chat.messages, ¬ p.shared.Missed j m →
      ¬ (watched.step p a).shared.Missed j m :=
    following_lawful.step_rely (R := fun w w' => ∀ j, ∀ m ∈ w.chat.messages, ¬ w.Missed j m →
      ¬ w'.Missed j m) (fun _ _ _ h => h.missed) hp hmeets
  cases a with
  | run i c =>
    by_cases htask : ∃ op next, p.tasks[i]? = some (.call op next)
    · obtain ⟨op, next, htask⟩ := htask
      obtain ⟨r, w', hstep, hchat⟩ := performWatched_eq i op c p.shared
      have hperform : watched.perform i op c p.shared = some (r, w') := hstep
      have heq : watched.step p (.run i c) = ⟨w', p.tasks.set i (next r)⟩ := by
        rw [System.step_call _ c htask, hperform]
      have hok : OnOps (η := Event) (κ := Party) InOrder p (.run i c) ↔ InOrder i op c p.shared :=
        ⟨fun hall => hall op next htask, fun hop op' next' htask' => by
          cases htask.symm.trans htask'
          exact hop⟩
      rw [hok]
      rw [heq] at hmissed ⊢
      by_cases hcreate : ∃ message, op = .createMessage message
      · obtain ⟨message, rfl⟩ := hcreate
        exact createMessage_lossless_iff hp.inv h hstep
      · have hother : ∀ message, op ≠ .createMessage message := fun message heq =>
          hcreate ⟨message, heq⟩
        refine iff_of_true (lossless_of_messages hmissed h (performOp_messages hother hchat)) ?_
        cases op with
        | createMessage message => exact absurd rfl (hother message)
        | _ => trivial
    · have hidle : ∀ op next, p.tasks[i]? ≠ some (.call op next) :=
        fun op next hcall => htask ⟨op, next, hcall⟩
      rw [System.step_idle _ c hidle]
      exact iff_of_true h fun op next hcall => absurd hcall (hidle op next)
  | outside e =>
    refine iff_of_true (lossless_of_messages hmissed h ?_) trivial
    unfold System.step
    dsimp only
    split
    · next w hout => exact (outsideWatched_eq hout).2.1
    · rfl
  | start k =>
    refine iff_of_true (lossless_of_messages hmissed h ?_) trivial
    unfold System.step
    dsimp only
    split
    · rfl
    · rfl

/-- What happens from a state in which no call is under way and no client follows. -/
abbrev watching (s : World) (as : List (Action (Outcome ChatError) Event Party)) :
    Pool Kind Kind.Reply ChatError Watched :=
  exec watched.step ⟨{ chat := s }, []⟩ as

theorem following_start (hs : s.Kept) : following.Holds ⟨{ chat := s }, []⟩ := by
  have hkept : Watched.Kept { chat := s } :=
    ⟨hs, fun _ _ h => (nomatch h), fun _ _ => List.Pairwise.nil⟩
  exact Contract.holds_start hkept fun _ => rfl

theorem following_step (a : Action (Outcome ChatError) Event Party) (hp : following.Holds p) :
    following.Holds (watched.step p a) := by
  refine following_lawful.step hp ?_
  cases a with
  | run i c => exact fun _ _ _ => trivial
  | outside | start => trivial

/-- No message is lost all along a run exactly if each message is stored before any client is returned
a higher number of its conversation. Each is returned once, in order, and stored once in any case. -/
theorem chat_sync_iff (s : World) (hs : s.Kept)
    (as : List (Action (Outcome ChatError) Event Party)) :
    Along watched.step (fun p => p.shared.Follows) ⟨{ chat := s }, []⟩ as ↔
      Guarded watched.step (OnOps InOrder) ⟨{ chat := s }, []⟩ as := by
  have hstart := following_start hs
  have hlossless : Watched.Lossless { chat := s } := fun _ _ _ hmissed => by
    obtain ⟨-, b, hb, -⟩ := hmissed
    cases hb
  refine along_iff_guarded (I := following.Holds)
    (P := fun p : Pool Kind Kind.Reply ChatError Watched => p.shared.Follows)
    (fun p a hp _ _ => following_step a hp) (fun p a hp hfollows => ?_) hstart
    ((follows_iff hstart.inv).mpr hlossless) as
  have hnow := (follows_iff hp.inv).mp hfollows
  exact (follows_iff (following_step a hp).inv).trans (step_lossless_iff hp hnow)

/-- The customer and the rider of an order write at the same time: the customer's message has the
number 1 but is stored last. The rider's client follows, and polls before that (if it is `late`) or
after it. -/
def overtaken (late : Bool) : List (Action (Outcome ChatError) Event Party) :=
  let client : List (Action (Outcome ChatError) Event Party) :=
    [.start (.follow ⟨"delivery", 21⟩ (some .customerRider) [⟨handedOver 21, {}, none⟩]),
      .run 2 .done, .run 2 .done]
  [.start (.send ⟨"customer", 10⟩ (handedOver 21) {} {} (some .customerRider)
      ⟨some "message-1", some "Where are you?"⟩ ⟨100, 5⟩),
    .start (.send ⟨"delivery", 21⟩ (handedOver 21) {} {} (some .customerRider)
      ⟨some "message-2", some "Nearly there"⟩ ⟨101, 5⟩),
    .run 0 .done, .run 0 .done, .run 0 .done,
    .run 1 .done, .run 1 .done, .run 1 .done, .run 1 .done] ++
  if late then client ++ [.run 0 .done] else .run 0 .done :: client

theorem chat_sync_iff_overtaken :
    Along watched.step (fun p => p.shared.Follows) ⟨{ chat := handoverStart }, []⟩
        (overtaken false) ↔
      Guarded watched.step (OnOps InOrder) ⟨{ chat := handoverStart }, []⟩ (overtaken false) :=
  chat_sync_iff handoverStart handoverStart_kept (overtaken false)

instance (w : Watched) (i : ℕ) (m : Message) : Decidable (w.Missed i m) :=
  inferInstanceAs (Decidable (_ ∧ _))

theorem chat_sync_loses :
    ¬ Along watched.step (fun p => p.shared.Follows) ⟨{ chat := handoverStart }, []⟩
      (overtaken true) := by
  intro halong
  have hkept : (watching handoverStart (overtaken true)).shared.Kept :=
    (exec_induction (fun p a hp => following_step a hp)
      (following_start handoverStart_kept) (overtaken true)).inv
  have hmissed : ∃ m ∈ (watching handoverStart (overtaken true)).shared.chat.messages,
      (watching handoverStart (overtaken true)).shared.Missed 2 m := by
    decide +kernel
  obtain ⟨m, hm, hmissed⟩ := hmissed
  exact (follows_iff hkept).mp halong.last 2 m hm hmissed

end DiscountBazar.Chat
