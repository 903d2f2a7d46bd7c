/-
The numbers of the messages.

A conversation counts its numbers up and hands each of them out once; a message is stored under a
number that was handed out before. So in every state that calls can leave, whatever they interleave
with and wherever they fail, no stored message has a number above its conversation's count, and the
two unique indexes of the messages hold.
-/
import DiscountBazar.Chat.Isolated

namespace DiscountBazar.Chat

open Finance Tasks Table World
open Contract (Sound)
open List Option

def World.Handed (s : World) (key : Key) (n : ℕ) : Prop :=
  0 < n ∧ ∃ c, s.conversations.get? key = some c ∧ n ≤ c.lastSeq

/-- The two messages differ in both unique indexes. -/
def Message.Apart (m m' : Message) : Prop :=
  m.conversationId = m'.conversationId →
    m.seq ≠ m'.seq ∧ ¬ (m.senderId = m'.senderId ∧ m.clientMessageId = m'.clientMessageId)

/-- Orders are filed under their ids, messages have numbers that were handed out, and the unique
indexes hold. -/
structure World.Kept (s : World) : Prop where
  filed : ∀ id order, s.orders id = some order → order.orderId = id
  numbered : ∀ m ∈ s.messages, s.Handed m.conversationId m.seq
  single : s.messages.Pairwise Message.Apart

def World.Grows (s s' : World) : Prop := ∀ key n, s.Handed key n → s'.Handed key n

theorem World.Grows.refl (s : World) : s.Grows s := fun _ _ => id

/-! ## Operations -/

variable {s : World}

theorem grows_set {c c' : Conversation} (hget : s.conversations.get? c'.key = some c)
    (hle : c.lastSeq ≤ c'.lastSeq) :
    s.Grows { s with conversations := s.conversations.set c' } := by
  rintro key n ⟨hpos, d, hd, hn⟩
  refine ⟨hpos, ?_⟩
  by_cases hkey : c'.key = key
  · subst hkey
    rw [hget] at hd
    cases hd
    exact ⟨c', get?_set_self hget, hn.trans hle⟩
  · exact ⟨d, (get?_set_ne hkey).trans hd, hn⟩

theorem World.Kept.of_grows {conversations : Table Conversation.key} (h : s.Kept)
    (hgrows : s.Grows { s with conversations := conversations }) :
    Kept { s with conversations := conversations } :=
  { filed := h.filed
    numbered := fun m hm => hgrows _ _ (h.numbered m hm)
    single := h.single }

theorem effect_kept {kind : Kind} (hkind : ∀ message, kind ≠ .createMessage message) (task : ℕ)
    (h : s.Kept) : (effect task s kind).2.Kept ∧ s.Grows (effect task s kind).2 := by
  have hset : ∀ {c c' : Conversation}, s.conversations.get? c'.key = some c →
      c.lastSeq ≤ c'.lastSeq →
        Kept { s with conversations := s.conversations.set c' } ∧
          s.Grows { s with conversations := s.conversations.set c' } :=
    fun hget hle => ⟨h.of_grows (grows_set hget hle), grows_set hget hle⟩
  cases kind with
  | createMessage message => exact absurd rfl (hkind message)
  | upsertConversation key counterpartId assignmentVersion =>
    unfold effect upserted
    dsimp only
    split
    · exact ⟨h, Grows.refl s⟩
    · next hnone =>
        have hgrows : s.Grows { s with
            conversations := s.conversations.insert ⟨key, counterpartId, assignmentVersion,
              .active, 0, none, {}, {}⟩ } := by
          rintro key' n ⟨hpos, c, hc, hn⟩
          have hne : key ≠ key' := by
            intro hkey
            rw [← hkey, hnone] at hc
            cases hc
          exact ⟨hpos, c, (get?_insert_ne (notMem_of_get? hnone) hne).trans hc, hn⟩
        exact ⟨h.of_grows hgrows, hgrows⟩
  | nextSeq key now =>
    unfold effect numbered
    dsimp only
    split
    · next c hc =>
        obtain ⟨hget, -⟩ := filter_eq_some_iff.mp hc
        rw [← key_of_get? hget] at hget
        exact hset hget (Nat.le_succ _)
    · exact ⟨h, Grows.refl s⟩
  | raiseReceipts key side deliveredSeq readSeq =>
    unfold effect receipted
    dsimp only
    split
    · next c hget =>
        rw [← key_of_get? hget] at hget
        cases side with
        | rider | counterpart => exact hset hget (Nat.le_refl _)
    · exact ⟨h, Grows.refl s⟩
  | close key revoked =>
    unfold effect closed
    dsimp only
    split
    · next c hc =>
        obtain ⟨hget, -⟩ := filter_eq_some_iff.mp hc
        rw [← key_of_get? hget] at hget
        exact hset hget (Nat.le_refl _)
    · exact ⟨h, Grows.refl s⟩
  | respond user order response =>
    exact ⟨⟨h.filed, h.numbered, h.single⟩, fun _ _ => id⟩
  | _ => exact ⟨h, Grows.refl s⟩

variable {message : Message}

theorem apart_of_not_taken (h : s.taken message = false) {m : Message} (hm : m ∈ s.messages) :
    m.Apart message := by
  intro hconv
  have hfree := any_eq_false.mp h m hm
  rw [decide_eq_true_iff] at hfree
  exact ⟨fun hseq => hfree ⟨hconv, .inl hseq⟩, fun hsent => hfree ⟨hconv, .inr hsent⟩⟩

theorem createMessage_kept {task : ℕ} (h : s.Kept)
    (hnumber : s.Handed message.conversationId message.seq) :
    (effect task s (.createMessage message)).2.Kept ∧
      s.Grows (effect task s (.createMessage message)).2 := by
  unfold effect
  dsimp only
  cases htaken : s.taken message with
  | true => exact ⟨h, Grows.refl s⟩
  | false =>
    rw [if_neg (by simp)]
    refine ⟨⟨h.filed, fun m hm => ?_, ?_⟩, fun _ _ => id⟩
    · rcases mem_append.mp hm with hm | hm
      · exact h.numbered m hm
      · rw [mem_singleton.mp hm]
        exact hnumber
    · refine pairwise_append.mpr ⟨h.single, pairwise_singleton _ _, fun m hm m' hm' => ?_⟩
      rw [mem_singleton.mp hm']
      exact apart_of_not_taken htaken hm

theorem outside_kept {event : Event} {s s' : World} (h : s.Kept) (hs : outside event s = some s') :
    s'.Kept ∧ s.Grows s' := by
  cases event with
  | order order =>
    cases hs
    refine ⟨⟨fun id order' horder => ?_, h.numbered, h.single⟩, fun _ _ => id⟩
    by_cases hid : id = order.orderId
    · subst hid
      dsimp only at horder
      rw [Function.update_self] at horder
      cases horder
      rfl
    · dsimp only at horder
      rw [Function.update_of_ne hid] at horder
      exact h.filed id order' horder
  | config | person | issues =>
    cases hs
    exact ⟨⟨h.filed, h.numbered, h.single⟩, fun _ _ => id⟩
  | expire key seq =>
    cases hs
    exact ⟨⟨h.filed, fun m hm => h.numbered m (mem_filter.mp hm).1,
      h.single.sublist filter_sublist⟩, fun _ _ => id⟩

/-! ## The contract -/

/-- Calls keep the numbers in order, and each relies on the others for the numbers that were handed
out. -/
def numbering : Contract chat where
  inv := Kept
  rely := fun _ => Grows

theorem sound_perform {kind : Kind} (hkind : ∀ message, kind ≠ .createMessage message) (i : ℕ)
    (s : World) :
    numbering.Keeps i (Prog.perform kind) s := by
  refine Sound.perform fun s' _ hinv c _ r s'' hstep => ?_
  have hkept := effect_kept hkind i hinv
  rcases Outcome.perform_eq (some.inj hstep) with ⟨-, rfl⟩ | ⟨-, rfl, -⟩
  · exact ⟨hinv, fun _ _ => Grows.refl _, fun _ _ => trivial, fun _ _ => trivial⟩
  · exact ⟨hkept.1, fun _ _ => hkept.2, fun _ _ => trivial, fun _ _ => trivial⟩

theorem sound_nextSeq (key : Key) (now : Date) (i : ℕ) (s : World) :
    numbering.Sound i (fun bumped s => ∀ c, bumped = some c → s.Handed key c.lastSeq)
      (fun _ _ => True) (Prog.perform (Kind.nextSeq key now)) s := by
  refine Sound.perform fun s' _ hinv c _ r s'' hstep => ?_
  have hkept : (effect i s' (.nextSeq key now)).2.Kept ∧
      s'.Grows (effect i s' (.nextSeq key now)).2 := effect_kept (by simp) i hinv
  rcases Outcome.perform_eq (some.inj hstep) with ⟨⟨e, rfl⟩, rfl⟩ | ⟨-, rfl, hr⟩
  · exact ⟨hinv, fun _ _ => Grows.refl _, fun _ h => (by cases h), fun _ _ => trivial⟩
  · refine ⟨hkept.1, fun _ _ => hkept.2, fun bumped hok conv hconv => ?_, fun _ _ => trivial⟩
    rcases hr with hr | ⟨e, hr⟩
    · rw [hr] at hok
      have hbumped : (s'.numbered key now).1 = some conv := (Except.ok.inj hok).trans hconv
      change (s'.numbered key now).2.Handed key conv.lastSeq
      unfold numbered at hbumped ⊢
      split at hbumped
      · next d hd =>
          obtain ⟨hget, -⟩ := filter_eq_some_iff.mp hd
          cases hbumped
          refine ⟨Nat.succ_pos _, _, ?_, Nat.le_refl _⟩
          have hkey := key_of_get? hget
          subst hkey
          exact get?_set_self hget
      · cases hbumped
    · rw [hr] at hok
      cases hok

theorem sound_createMessage (i : ℕ) (hnumber : s.Handed message.conversationId message.seq) :
    numbering.Keeps i (Prog.perform (Kind.createMessage message)) s := by
  refine Sound.perform fun s' hrely hinv c _ r s'' hstep => ?_
  have hkept : (effect i s' (.createMessage message)).2.Kept ∧
      s'.Grows (effect i s' (.createMessage message)).2 :=
    createMessage_kept hinv (hrely _ _ hnumber)
  rcases Outcome.perform_eq (some.inj hstep) with ⟨-, rfl⟩ | ⟨-, rfl, -⟩
  · exact ⟨hinv, fun _ _ => Grows.refl _, fun _ _ => trivial, fun _ _ => trivial⟩
  · exact ⟨hkept.1, fun _ _ => hkept.2, fun _ _ => trivial, fun _ _ => trivial⟩

/-! ## The calls -/

theorem sound_ofExcept {α : Type} (x : Except ChatError α) (i : ℕ) (s : World) :
    numbering.Keeps i (ofExcept x) s := by
  cases x with
  | ok | error => trivial

theorem sound_storeMessage (user : User) (i : ℕ)
    (hnumber : s.Handed message.conversationId message.seq) :
    numbering.Keeps i (storeMessage user message) s := by
  unfold storeMessage
  refine Sound.tryCatch (D := fun _ _ => True) ?_ fun e s' _ => ?_
  · exact (sound_createMessage i hnumber).bind fun _ _ _ => trivial
  · cases e with
    | duplicateKey =>
      refine (sound_perform (by simp) i s').bind fun raced s'' _ => ?_
      cases raced with
      | some | none => trivial
    | svc | database => trivial

theorem sound_sendIn (user : User) (role : Role) (input : String × String) (stamp : Stamp)
    (c : Conversation) (i : ℕ) (s : World) :
    numbering.Keeps i (sendIn user role input stamp c) s := by
  unfold sendIn
  refine Sound.ite (fun _ => ?_) fun _ => trivial
  refine (sound_perform (by simp) i s).bind fun existing s' _ => ?_
  cases existing with
  | some message => trivial
  | none =>
    refine (sound_nextSeq c.key stamp.now i s').bind fun bumped s'' hbumped => ?_
    cases bumped with
    | none => trivial
    | some d => exact sound_storeMessage user i (hbumped d rfl)

theorem sound_sendMessage (user : User) (order : Order) (bodyConfig config : Config)
    (channel : Option Channel) (body : Body) (stamp : Stamp) (i : ℕ) (s : World) :
    numbering.Keeps i (sendMessage user order bodyConfig config channel body stamp) s := by
  unfold sendMessage
  refine (sound_ofExcept _ i s).bind fun input s' _ => ?_
  refine (sound_ofExcept _ i s').bind fun access s'' _ => ?_
  refine Sound.bind (R := fun _ _ => True) ?_ fun c t _ => sound_sendIn _ _ _ _ c i t
  unfold getOrCreateConversation
  cases conversationKey order channel with
  | none => trivial
  | some key =>
    refine (sound_perform (by simp) i s'').tryCatch fun e t _ => ?_
    cases e with
    | duplicateKey => exact sound_perform (by simp) i t
    | svc | database => trivial

theorem sound_answer (user : User) (order : Order) {p : M Response} (i : ℕ)
    (hp : numbering.Keeps i p s) :
    numbering.Keeps i (answer user order p) s := by
  unfold answer
  have hcaught : numbering.Keeps i
      (p.tryCatch (fun e => pure (.failed e))) s := hp.tryCatch fun _ _ _ => trivial
  refine hcaught.bind fun response s' _ => ?_
  exact (sound_perform (by simp) i s').bind fun _ _ _ => trivial

theorem sound_entry (call : Call) (i : ℕ) (s : World) :
    numbering.Keeps i (entry call) s := by
  cases hsend : call.isSend with
  | true =>
    cases call with
    | sendMessage user order bodyConfig config channel body stamp =>
      exact (sound_answer user order i (sound_sendMessage _ _ _ _ _ _ _ i s)).discard
    | listMessages | updateReceipts | getCommunicationState
    | syncCommunicationState => cases hsend
  | false =>
    refine Contract.sound_of_only (fun _ _ _ _ _ _ hs => performOp_replies hs)
      (fun kind hkind s' => sound_perform (hkind.2 hsend) i s') (entry_does call) s

theorem numbering_lawful : numbering.Lawful where
  refl _ s := Grows.refl s
  trans _ _ _ _ h h' := fun key n hn => h' key n (h key n hn)
  idle _ _ _ _ := id
  outside _ _ _ hinv _ hs := ⟨(outside_kept hinv hs).1, fun _ => (outside_kept hinv hs).2⟩
  entry call i s _ _ _ := sound_entry call i s

theorem handoverStart_kept : handoverStart.Kept where
  filed := by
    intro id order horder
    unfold handoverStart at horder
    dsimp only at horder
    split at horder
    · next hid =>
        cases horder
        exact hid.symm
    · cases horder
  numbered := fun _ h => nomatch h
  single := List.Pairwise.nil

end DiscountBazar.Chat
