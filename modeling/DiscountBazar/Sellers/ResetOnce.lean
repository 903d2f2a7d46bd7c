/-
A reset code changes the password once, with the token that was given for it, and is guessed at a
few times.

The session has the code that was issued last, and no reset rests on it yet; so a reset with a token
that was given since takes away the code that both rest on. A token outlives its code, though, and
the code stays good once it was sent back, with its count at zero: the condition is that neither is
used then, and that what a save was decided on has not moved on.
-/
import DiscountBazar.Sellers.ResetOtp

namespace DiscountBazar.Sellers

open Tasks Runs ContactState
open Contract (Sound)
open Auth (Code OtpError written writtenCode)
open List Option Prod

variable (settings : ResetSettings)

/-! ## What is to hold -/

/-- No issued code is in two password changes, none of which rests on a later code than its token,
and no more wrong codes than the limit are compared with any issued code. -/
structure ResetsSafe (s : ContactState) : Prop where
  once : ∀ issue,
    s.changes.countP (fun reset => decide (reset.token = issue ∨ reset.session = issue)) ≤ 1
  rests : ∀ reset ∈ s.changes, ¬ reset.token < reset.session
  limited : ∀ issue, s.wrongs.count issue ≤ settings.otpMaxFailedAttempts

/-! ## The condition -/

/-- The condition on a call. A code is issued, or accepted, over the session whose code was read; a
wrong code is compared with a session that is as it was read, not verified and below the limit, while
no other wrong code is still to be counted, and its count is saved; and a session is consumed with a
token that was given since the last code was issued. -/
def ResetOrderly (_ : ℕ) (kind : ResetKind) (c : ResetChoice) (s : ContactState) : Prop :=
  match kind with
  | .saveIssued read _ _ =>
    c.outcome.takesEffect = true →
      (s.sessionOf read.id).all (fun stored => decide (stored.otp = read.otp)) = true
  | .compare read code =>
    c.outcome.takesEffect = true → settings.hashOtp code ≠ read.otp.hash →
      s.uncounted = [] ∧ s.session = some read ∧ read.verifiedAt = none ∧
        read.failedAttempts < settings.otpMaxFailedAttempts
  | .saveFailed _ => c.outcome.takesEffect = true
  | .saveVerified read _ =>
    c.outcome.takesEffect = true →
      (s.sessionOf read.id).all (fun stored =>
        decide (stored.otp = read.otp ∧ (stored.verifiedAt = none → read.verifiedAt = none))) = true
  | .consumeSession token =>
    c.outcome.takesEffect = true → s.session.any (fun stored => stored.verifiedAt.isSome) = true →
      token.issue + 1 = s.issued
  | _ => True

instance (task : ℕ) (kind : ResetKind) (c : ResetChoice) (s : ContactState) :
    Decidable (ResetOrderly settings task kind c s) := by
  unfold ResetOrderly
  split
  · infer_instance
  · infer_instance
  · infer_instance
  · infer_instance
  · infer_instance
  · infer_instance

/-! ## The invariant -/

def ContactState.resets (s : ContactState) : List Reset := s.consumed.map snd ++ s.changes

/-- The session has the code that was issued last, and the resets rest on earlier ones, each on
another, with tokens that were given for them. -/
structure Rested (s : ContactState) : Prop where
  latest : ∀ stored, s.session = some stored → stored.otp.issue + 1 = s.issued
  earlier : ∀ reset ∈ s.resets, reset.session < s.issued
  unused : ∀ reset ∈ s.resets, ∀ stored, s.session = some stored → reset.session ≠ stored.otp.issue
  matched : ∀ reset ∈ s.resets, reset.token = reset.session
  once : (s.resets.map Reset.session).Nodup

/-- Wrong codes that were compared with the code that was issued last. -/
def ContactState.wrong (s : ContactState) : ℕ := s.wrongs.count (s.issued - 1)

/-- The wrong codes are counted by the session, until its code is sent back, or by the save that is
still to come. -/
structure Guesses (s : ContactState) : Prop where
  fresh : ∀ issue, s.issued ≤ issue → s.wrongs.count issue = 0
  limited : ∀ issue, s.wrongs.count issue ≤ settings.otpMaxFailedAttempts
  uncounted : ∀ u ∈ s.uncounted, s.wrong ≤ u.read + 1
  session : ∀ stored, s.session = some stored → stored.verifiedAt = none →
    (∀ u ∈ s.uncounted, u.session ≠ stored.id) → s.wrong ≤ stored.failedAttempts

structure ResetInv (s : ContactState) : Prop where
  rested : Rested s
  guesses : Guesses settings s

variable {settings} {s : ContactState} {i : ℕ} {c : ResetChoice}

theorem ResetInv.safe (h : ResetInv settings s) : ResetsSafe settings s where
  once := by
    intro issue
    have hmatched : ∀ reset ∈ s.changes, reset.token = reset.session :=
      fun reset hreset => h.rested.matched reset (mem_append_right _ hreset)
    have hcount : s.changes.countP
        (fun reset => decide (reset.token = issue ∨ reset.session = issue))
        = (s.changes.map Reset.session).count issue := by
      rw [count, countP_map]
      refine countP_congr (fun reset hreset => ?_)
      rw [hmatched reset hreset]
      simp
    rw [hcount]
    have hnodup := h.rested.once
    unfold resets at hnodup
    rw [map_append] at hnodup
    exact nodup_iff_count_le_one.mp hnodup.of_append_right issue
  rests := by
    intro reset hreset
    rw [h.rested.matched reset (mem_append_right _ hreset)]
    exact lt_irrefl _
  limited := h.guesses.limited

variable {stored : ResetSession}

theorem sessionOf_eq_some {id : ℕ} (h : s.sessionOf id = some stored) :
    s.session = some stored ∧ stored.id = id := by
  unfold sessionOf at h
  obtain ⟨hsession, hid⟩ := filter_eq_some_iff.mp h
  exact ⟨hsession, of_decide_eq_true hid⟩

theorem sessionOf_eq_none {id : ℕ} (h : s.sessionOf id = none) (hsession : s.session = some stored)
    : stored.id ≠ id := by
  intro hid
  unfold sessionOf at h
  rw [hsession] at h
  exact filter_some_eq_none.mp h (decide_eq_true hid)

/-! ## What a call keeps -/

theorem ResetInv.noSession (h : ResetInv settings s) :
    ResetInv settings { s with session := none } where
  rested :=
    { latest := by
        intro stored hstored
        cases hstored
      earlier := h.rested.earlier
      unused := by
        intro reset _ stored hstored
        cases hstored
      matched := h.rested.matched
      once := h.rested.once }
  guesses :=
    { fresh := h.guesses.fresh
      limited := h.guesses.limited
      uncounted := h.guesses.uncounted
      session := by
        intro stored hstored
        cases hstored }

theorem ResetInv.issue (h : ResetInv settings s) {session : ResetSession} {nextSession : ℕ}
    (hotp : session.otp.issue = s.issued) :
    ResetInv settings { s with session := some session, nextSession, issued := s.issued + 1 } where
  rested :=
    { latest := by
        intro stored hstored
        cases hstored
        dsimp only
        omega
      earlier := by
        intro reset hreset
        have hlt := h.rested.earlier reset hreset
        dsimp only
        omega
      unused := by
        intro reset hreset stored hstored
        cases hstored
        have hlt := h.rested.earlier reset hreset
        omega
      matched := h.rested.matched
      once := h.rested.once }
  guesses :=
    { fresh := by
        intro issue hle
        dsimp only at hle
        exact h.guesses.fresh issue (by omega)
      limited := h.guesses.limited
      uncounted := by
        intro u _
        unfold wrong
        dsimp only
        rw [Nat.add_sub_cancel, h.guesses.fresh s.issued le_rfl]
        exact Nat.zero_le _
      session := by
        intro stored _ _ _
        unfold wrong
        dsimp only
        rw [Nat.add_sub_cancel, h.guesses.fresh s.issued le_rfl]
        exact Nat.zero_le _ }

theorem ResetInv.saveSession (h : ResetInv settings s) {stored session : ResetSession}
    {uncounted : List Uncounted} (hstored : s.session = some stored) (hotp : session.otp = stored.otp)
    (hsub : ∀ u ∈ uncounted, u ∈ s.uncounted)
    (hcount : session.verifiedAt = none → s.wrong ≤ session.failedAttempts) :
    ResetInv settings { s with session := some session, uncounted } where
  rested :=
    { latest := by
        intro other hother
        cases hother
        rw [hotp]
        exact h.rested.latest stored hstored
      earlier := h.rested.earlier
      unused := by
        intro reset hreset other hother
        cases hother
        rw [hotp]
        exact h.rested.unused reset hreset stored hstored
      matched := h.rested.matched
      once := h.rested.once }
  guesses :=
    { fresh := h.guesses.fresh
      limited := h.guesses.limited
      uncounted := fun u hu => h.guesses.uncounted u (hsub u hu)
      session := by
        intro other hother hverified _
        cases hother
        exact hcount hverified }

theorem issuedSession_otp {read stored : ResetSession} (hsame : stored.otp = read.otp) (code : Code)
    (now : Date) : (issuedSession settings read code now stored).otp = code := by
  unfold issuedSession writtenCode
  dsimp only
  rw [hsame, if_neg]
  · rfl
  · rintro ⟨hread, hstored⟩
    exact hstored hread

theorem verifiedSession_verifiedAt {read stored : ResetSession} {now : Date}
    (hread : stored.verifiedAt = none → read.verifiedAt = none) :
    (verifiedSession read now stored).verifiedAt ≠ none := by
  unfold verifiedSession written
  dsimp only
  split
  next hsame =>
    intro hnone
    rw [hread hnone] at hsame
    cases hsame
  next => exact some_ne_none now

theorem ResetInv.compare (h : ResetInv settings s) {read : ResetSession} (hnone : s.uncounted = [])
    (hsession : s.session = some read) (hverified : read.verifiedAt = none)
    (hbelow : read.failedAttempts < settings.otpMaxFailedAttempts) :
    ResetInv settings { s with
      wrongs := read.otp.issue :: s.wrongs
      uncounted := ⟨i, read.id, read.failedAttempts⟩ :: s.uncounted } := by
  have hlatest := h.rested.latest read hsession
  have hwrong : s.wrong ≤ read.failedAttempts := by
    refine h.guesses.session read hsession hverified (fun u hu => ?_)
    rw [hnone] at hu
    cases hu
  have hcount : ∀ issue, (read.otp.issue :: s.wrongs).count issue
      = s.wrongs.count issue + if read.otp.issue = issue then 1 else 0 := by
    intro issue
    rw [count_cons]
    simp
  refine ⟨⟨h.rested.latest, h.rested.earlier, h.rested.unused, h.rested.matched, h.rested.once⟩,
    ?_, ?_, ?_, ?_⟩
  · intro issue hle
    have hzero := h.guesses.fresh issue hle
    dsimp only at hle ⊢
    rw [hcount, if_neg (by omega), hzero]
  · intro issue
    dsimp only
    rw [hcount]
    by_cases hissue : read.otp.issue = issue
    · have hcurrent : s.wrongs.count issue = s.wrong := by
        unfold wrong
        rw [← hissue, ← hlatest, Nat.add_sub_cancel]
      rw [if_pos hissue, hcurrent]
      omega
    · rw [if_neg hissue]
      exact h.guesses.limited issue
  · intro u hu
    rw [hnone] at hu
    rw [mem_singleton.mp hu]
    unfold wrong at hwrong ⊢
    dsimp only
    rw [hcount, if_pos (by omega)]
    omega
  · intro stored hstored _ hothers
    cases hsession.symm.trans hstored
    exact absurd rfl (hothers _ mem_cons_self)

theorem ResetInv.saveFailed (h : ResetInv settings s) {read : ResetSession}
    (hentry : ⟨i, read.id, read.failedAttempts⟩ ∈ s.uncounted) :
    ResetInv settings (resetEffect settings i c s (.saveFailed read)).2 := by
  have hsub : ∀ u ∈ s.uncounted.filter (· ≠ ⟨i, read.id, read.failedAttempts⟩), u ∈ s.uncounted :=
    fun u hu => (mem_filter.mp hu).1
  unfold resetEffect
  dsimp only
  split
  next stored hstored =>
    obtain ⟨hsession, -⟩ := sessionOf_eq_some hstored
    exact h.saveSession hsession rfl hsub (fun _ => h.guesses.uncounted _ hentry)
  next hnone =>
    refine ⟨⟨h.rested.latest, h.rested.earlier, h.rested.unused, h.rested.matched, h.rested.once⟩,
      h.guesses.fresh, h.guesses.limited, fun u hu => h.guesses.uncounted u (hsub u hu), ?_⟩
    intro stored hstored hverified hothers
    refine h.guesses.session stored hstored hverified (fun u hu hsame => ?_)
    -- the entry that is left out is of another session
    by_cases hown : u = ⟨i, read.id, read.failedAttempts⟩
    · rw [hown] at hsame
      exact sessionOf_eq_none hnone hstored hsame.symm
    · exact hothers u (mem_filter.mpr ⟨hu, decide_eq_true hown⟩) hsame

theorem ResetInv.consume (h : ResetInv settings s) {token : Token}
    (hstored : s.session = some stored) (htoken : token.issue + 1 = s.issued) :
    ResetInv settings { s with
      session := none
      consumed := (i, ⟨token.issue, stored.otp.issue⟩) :: s.consumed } := by
  have hlatest := h.rested.latest stored hstored
  have hmem : ∀ {reset : Reset},
      reset ∈ ({ s with
        session := none
        consumed := (i, ⟨token.issue, stored.otp.issue⟩) :: s.consumed } : ContactState).resets →
      reset = ⟨token.issue, stored.otp.issue⟩ ∨ reset ∈ s.resets :=
    fun hreset => mem_cons.mp hreset
  refine ⟨⟨?_, ?_, ?_, ?_, ?_⟩, h.guesses.fresh, h.guesses.limited, h.guesses.uncounted, ?_⟩
  · intro other hother
    cases hother
  · intro reset hreset
    rcases hmem hreset with rfl | hold
    · dsimp only
      omega
    · exact h.rested.earlier reset hold
  · intro reset _ other hother
    cases hother
  · intro reset hreset
    rcases hmem hreset with rfl | hold
    · dsimp only
      omega
    · exact h.rested.matched reset hold
  · refine nodup_cons.mpr ⟨fun hused => ?_, h.rested.once⟩
    obtain ⟨reset, hreset, hsame⟩ := mem_map.mp hused
    exact h.rested.unused reset hreset stored hstored hsame
  · intro other hother
    cases hother

theorem ResetInv.savePassword (h : ResetInv settings s) {reset : Reset} {password : Option String}
    (hentry : (i, reset) ∈ s.consumed) :
    ResetInv settings { s with
      password
      consumed := s.consumed.erase (i, reset)
      changes := s.changes ++ [reset] } := by
  have hperm : ((s.consumed.erase (i, reset)).map snd ++ (s.changes ++ [reset])).Perm
      s.resets := by
    unfold resets
    have hconsumed : (s.consumed.map snd).Perm
        (reset :: (s.consumed.erase (i, reset)).map snd) :=
      (perm_cons_erase hentry).map snd
    refine Perm.trans ?_ (hconsumed.append_right s.changes).symm
    rw [← append_assoc]
    exact perm_append_singleton _ _
  refine ⟨⟨h.rested.latest, ?_, ?_, ?_, ?_⟩, h.guesses.fresh, h.guesses.limited,
    h.guesses.uncounted, h.guesses.session⟩
  · exact fun other hother => h.rested.earlier other (hperm.mem_iff.mp hother)
  · exact fun other hother => h.rested.unused other (hperm.mem_iff.mp hother)
  · exact fun other hother => h.rested.matched other (hperm.mem_iff.mp hother)
  · exact (hperm.map Reset.session).nodup_iff.mpr h.rested.once

/-! ## One call -/

def ResetPrepared (i : ℕ) (s : ContactState) : ResetKind → Prop
  | .saveFailed read => ⟨i, read.id, read.failedAttempts⟩ ∈ s.uncounted
  | .savePassword reset _ => (i, reset) ∈ s.consumed
  | _ => True

theorem resetEffect_inv (h : ResetInv settings s) {kind : ResetKind}
    (horderly : ResetOrderly settings i kind c s) (htakes : c.outcome.takesEffect = true)
    (hprepared : ResetPrepared i s kind) :
    ResetInv settings (resetEffect settings i c s kind).2 := by
  cases kind with
  | findSeller | countRequest | now | findSession | generateOtp | dispatchOtp
  | verifyToken => exact h
  | signToken read =>
    exact ⟨⟨h.rested.latest, h.rested.earlier, h.rested.unused, h.rested.matched, h.rested.once⟩,
      h.guesses.fresh, h.guesses.limited, h.guesses.uncounted, h.guesses.session⟩
  | createSession otp now =>
    unfold resetEffect
    dsimp only
    split
    next => exact h
    next => exact h.issue rfl
  | saveIssued read otp now =>
    unfold resetEffect
    dsimp only
    split
    next stored hstored =>
      have hsame := horderly htakes
      rw [hstored, all_some] at hsame
      exact h.issue (congrArg Code.issue (issuedSession_otp (of_decide_eq_true hsame) _ now))
    next => exact h
  | compare read code =>
    unfold resetEffect
    dsimp only
    split
    next => exact h
    next hwrong =>
      obtain ⟨hnone, hsession, hverified, hbelow⟩ := horderly htakes hwrong
      exact h.compare hnone hsession hverified hbelow
  | saveFailed read => exact h.saveFailed hprepared
  | deleteSession id =>
    unfold resetEffect
    dsimp only
    split
    next => exact h.noSession
    next => exact h
  | saveVerified read now =>
    unfold resetEffect
    dsimp only
    split
    next stored hstored =>
      have hsame := horderly htakes
      rw [hstored, all_some] at hsame
      obtain ⟨-, hread⟩ := of_decide_eq_true hsame
      exact h.saveSession (sessionOf_eq_some hstored).1 rfl (fun _ hu => hu)
        (fun hnone => absurd hnone (verifiedSession_verifiedAt hread))
    next => exact h
  | consumeSession token =>
    unfold resetEffect
    dsimp only
    split
    next stored hstored =>
      obtain ⟨hsession, hverified⟩ := filter_eq_some_iff.mp hstored
      refine h.consume hsession (horderly htakes ?_)
      rw [hsession, any_some]
      exact hverified
    next => exact h
  | savePassword reset newPassword =>
    unfold resetEffect
    dsimp only
    split
    next => exact h.savePassword hprepared
    next => exact h

/-- What the others do to a task: its entries stay. -/
structure KeepsEntries (i : ℕ) (s s' : ContactState) : Prop where
  uncounted : ∀ u ∈ s.uncounted, u.task = i → u ∈ s'.uncounted
  consumed : ∀ reset, (i, reset) ∈ s.consumed → (i, reset) ∈ s'.consumed

theorem KeepsEntries.refl (i : ℕ) (s : ContactState) : KeepsEntries i s s :=
  ⟨fun _ hu _ => hu, fun _ hr => hr⟩

theorem KeepsEntries.trans {s s' s'' : ContactState} (h : KeepsEntries i s s')
    (h' : KeepsEntries i s' s'') : KeepsEntries i s s'' :=
  ⟨fun u hu htask => h'.uncounted u (h.uncounted u hu htask) htask,
    fun reset hreset => h'.consumed reset (h.consumed reset hreset)⟩

theorem resetEffect_keepsEntries (kind : ResetKind) {j : ℕ} (hj : j ≠ i) :
    KeepsEntries j s (resetEffect settings i c s kind).2 := by
  cases kind with
  | findSeller | countRequest | now | findSession | generateOtp | dispatchOtp
  | verifyToken => exact KeepsEntries.refl j s
  | signToken read => exact ⟨fun _ hu _ => hu, fun _ hr => hr⟩
  | createSession otp now =>
    unfold resetEffect
    dsimp only
    split
    · exact KeepsEntries.refl j s
    · exact ⟨fun _ hu _ => hu, fun _ hr => hr⟩
  | saveIssued | deleteSession | saveVerified =>
    unfold resetEffect
    dsimp only
    split
    · exact ⟨fun _ hu _ => hu, fun _ hr => hr⟩
    · exact KeepsEntries.refl j s
  | compare read code =>
    unfold resetEffect
    dsimp only
    split
    · exact KeepsEntries.refl j s
    · exact ⟨fun _ hu _ => mem_cons_of_mem _ hu, fun _ hr => hr⟩
  | saveFailed read =>
    have hkept : ∀ u ∈ s.uncounted, u.task = j →
        u ∈ s.uncounted.filter (· ≠ ⟨i, read.id, read.failedAttempts⟩) := by
      intro u hu htask
      refine mem_filter.mpr ⟨hu, decide_eq_true (fun hsame => ?_)⟩
      rw [hsame] at htask
      exact hj htask.symm
    unfold resetEffect
    dsimp only
    split
    · exact ⟨hkept, fun _ hr => hr⟩
    · exact ⟨hkept, fun _ hr => hr⟩
  | consumeSession token =>
    unfold resetEffect
    dsimp only
    split
    · exact ⟨fun _ hu _ => hu, fun _ hr => mem_cons_of_mem _ hr⟩
    · exact KeepsEntries.refl j s
  | savePassword reset newPassword =>
    unfold resetEffect
    dsimp only
    split
    · refine ⟨fun _ hu _ => hu, fun other hother => ?_⟩
      exact (mem_erase_of_ne (fun hsame => hj (congrArg fst hsame))).mpr hother
    · exact KeepsEntries.refl j s

def resetContract (settings : ResetSettings) : Contract (resetSystem settings) where
  inv := ResetInv settings
  rely := KeepsEntries
  may := ResetOrderly settings

/-! ## The handlers -/

section Sound

variable {s : ContactState}

theorem resetSound_perform {kind : ResetKind} {Q : kind.Reply → ContactState → Prop}
    (hprepared : ∀ s', KeepsEntries i s s' → ResetPrepared i s' kind)
    (hok : ∀ c s' a, (resetEffect settings i c s' kind).1 = .ok a →
      Q a (resetEffect settings i c s' kind).2) :
    (resetContract settings).Sound i Q (fun _ _ => True) (Prog.perform kind) s :=
  Sound.perform_outcome (o := ResetChoice.outcome)
    (f := fun c s => resetEffect settings i c s kind) (fun _ _ => rfl) KeepsEntries.refl
    (fun _ s' hrely hinv hmay htakes =>
      ⟨resetEffect_inv hinv hmay htakes (hprepared s' hrely),
        fun _ hj => resetEffect_keepsEntries kind hj⟩)
    (fun c s' a _ _ _ _ => hok c s' a) (fun _ _ _ _ _ _ _ _ => trivial)
    (fun _ _ _ _ _ _ _ => trivial) (fun _ _ _ _ _ _ _ => trivial)

theorem resetSound_free {kind : ResetKind} (hprepared : ∀ s', ResetPrepared i s' kind) :
    (resetContract settings).Keeps i (Prog.perform kind) s :=
  resetSound_perform (fun s' _ => hprepared s') (fun _ _ _ _ => trivial)

theorem assertCooldown_sound (session : Option ResetSession) (now : Date) (s : ContactState) :
    (resetContract settings).Keeps i (assertCooldown settings session now) s := by
  unfold assertCooldown
  split
  · exact Sound.ret trivial
  · exact Sound.ite_throw
      (fun _ => Sound.ret trivial)

theorem issueSellerResetOtp_sound (missing : String) (s : ContactState) :
    (resetContract settings).Keeps i (issueSellerResetOtp settings missing) s := by
  unfold issueSellerResetOtp
  refine Sound.bind (resetSound_free (fun _ => trivial)) (fun found s _ => ?_)
  refine Sound.ite_throw (fun _ => ?_)
  refine Sound.bind (resetSound_free (fun _ => trivial)) (fun sendAllowed s _ => ?_)
  refine Sound.ite_throw (fun _ => ?_)
  refine Sound.bind (resetSound_free (fun _ => trivial)) (fun now s _ => ?_)
  refine Sound.bind (resetSound_free (fun _ => trivial)) (fun session s _ => ?_)
  refine Sound.bind (assertCooldown_sound session now s) (fun _ s _ => ?_)
  refine Sound.bind (resetSound_free (fun _ => trivial)) (fun otp s _ => ?_)
  have hsave : (resetContract settings).Keeps i (saveIssue session otp now) s := by
    cases session with
    | none | some => exact resetSound_free (fun _ => trivial)
  exact Sound.bind hsave (fun _ s _ => resetSound_free (fun _ => trivial))

theorem countFailure_sound (session : ResetSession)
    (hs : ⟨i, session.id, session.failedAttempts⟩ ∈ s.uncounted) :
    (resetContract settings).Keeps i (countFailure settings session) s := by
  unfold countFailure
  refine Sound.bind (R := fun _ _ => True)
    (resetSound_perform (fun s' hrely => hrely.uncounted _ hs rfl) (fun _ _ _ _ => trivial))
    (fun _ s _ => ?_)
  refine Sound.ite (fun _ => ?_) (fun _ => Sound.throw trivial)
  exact Sound.bind (resetSound_free (fun _ => trivial))
    (fun _ s _ => Sound.throw trivial)

theorem acceptCode_sound (session : ResetSession) (s : ContactState) :
    (resetContract settings).Keeps i (acceptCode session) s := by
  unfold acceptCode
  refine Sound.bind (resetSound_free (fun _ => trivial)) (fun now s _ => ?_)
  exact Sound.bind (resetSound_free (fun _ => trivial))
    (fun _ s _ => resetSound_free (fun _ => trivial))

theorem verifySellerResetOtpCode_sound (code : String) (s : ContactState) :
    (resetContract settings).Keeps i (verifySellerResetOtpCode settings code) s := by
  unfold verifySellerResetOtpCode
  refine Sound.ite_throw (fun _ => ?_)
  refine Sound.bind (resetSound_free (fun _ => trivial)) (fun verifyAllowed s _ => ?_)
  refine Sound.ite_throw (fun _ => ?_)
  refine Sound.bind (resetSound_free (fun _ => trivial)) (fun session s _ => ?_)
  refine Sound.bind (resetSound_free (fun _ => trivial)) (fun now s _ => ?_)
  split
  next => exact Sound.throw trivial
  next session _ =>
    have hcompare : (resetContract settings).Sound i
        (fun isValid s => isValid = false →
          ⟨i, session.id, session.failedAttempts⟩ ∈ s.uncounted)
        (fun _ _ => True) (Prog.perform (ResetKind.compare session code)) s := by
      refine resetSound_perform (fun _ _ => trivial) (fun c s' isValid hreply => ?_)
      unfold resetEffect at hreply ⊢
      dsimp only at hreply ⊢
      split
      next hright =>
        rw [if_pos hright] at hreply
        intro hfalse
        cases (Except.ok.inj hreply).trans hfalse
      next => exact fun _ => mem_cons_self
    refine Sound.bind hcompare (fun isValid s hwrong => ?_)
    refine Sound.ite (fun _ => acceptCode_sound session s) (fun hfalse => ?_)
    exact countFailure_sound session (hwrong (Bool.eq_false_iff.mpr hfalse))

theorem changePassword_sound (token : Token) (newPassword : String) (s : ContactState) :
    (resetContract settings).Keeps i (changePassword token newPassword) s := by
  unfold changePassword
  refine Sound.bind (resetSound_free (fun _ => trivial)) (fun found s _ => ?_)
  refine Sound.ite_throw (fun _ => ?_)
  have hconsume : (resetContract settings).Sound i
      (fun consumed s => ∀ session, consumed = some session →
        (i, ⟨token.issue, session.otp.issue⟩) ∈ s.consumed)
      (fun _ _ => True) (Prog.perform (ResetKind.consumeSession token)) s := by
    refine resetSound_perform (fun _ _ => trivial) (fun c s' consumed hreply session hsome => ?_)
    unfold resetEffect at hreply ⊢
    dsimp only at hreply ⊢
    split at hreply
    next stored hstored =>
      cases (Except.ok.inj hreply).trans hsome
      exact mem_cons_self
    next => cases (Except.ok.inj hreply).trans hsome
  refine Sound.bind hconsume (fun consumed s hentry => ?_)
  cases consumed with
  | none => exact Sound.throw trivial
  | some session =>
    exact resetSound_perform (fun s' hrely => hrely.consumed _ (hentry session rfl))
      (fun _ _ _ _ => trivial)

theorem resetSellerPassword_sound (token : ℕ) (newPassword : String) (s : ContactState) :
    (resetContract settings).Keeps i (resetSellerPassword token newPassword) s := by
  unfold resetSellerPassword
  refine Sound.ite_throw (fun _ => ?_)
  refine Sound.bind (resetSound_free (fun _ => trivial)) (fun verified s _ => ?_)
  cases verified with
  | none => exact Sound.throw trivial
  | some token => exact changePassword_sound token newPassword s

end Sound

/-! ## Every interleaving -/

theorem resetContract_lawful : (resetContract settings).Lawful where
  refl := KeepsEntries.refl
  trans := fun _ _ _ _ => KeepsEntries.trans
  idle := fun _ _ _ _ _ => trivial
  outside := by
    intro e s s' h _ hout
    have hkeeps : ∀ {t : ContactState}, t.uncounted = s.uncounted → t.consumed = s.consumed →
        ∀ i, KeepsEntries i s t := by
      intro t huncounted hconsumed i
      exact ⟨fun u hu _ => huncounted ▸ hu, fun reset hreset => hconsumed ▸ hreset⟩
    cases e with
    | elapse | setSeller =>
      cases hout
      exact ⟨⟨⟨h.rested.latest, h.rested.earlier, h.rested.unused, h.rested.matched,
        h.rested.once⟩, h.guesses.fresh, h.guesses.limited, h.guesses.uncounted,
        h.guesses.session⟩, hkeeps rfl rfl⟩
    | expireSession =>
      unfold resetSystem resetOutside at hout
      dsimp only at hout
      split at hout
      · cases hout
        exact ⟨h.noSession, hkeeps rfl rfl⟩
      · cases hout
  entry := by
    intro command i s _ _ _
    cases command with
    | issue missing => exact issueSellerResetOtp_sound missing s
    | verify code => exact verifySellerResetOtpCode_sound code s
    | reset token newPassword => exact resetSellerPassword_sound token newPassword s

theorem resetInv_start (settings : ResetSettings) (clock : Date) (password : Option String) :
    ResetInv settings (start clock password) where
  rested :=
    { latest := by
        intro stored hstored
        cases hstored
      earlier := fun _ hreset => absurd hreset not_mem_nil
      unused := fun _ hreset => absurd hreset not_mem_nil
      matched := fun _ hreset => absurd hreset not_mem_nil
      once := nodup_nil }
  guesses :=
    { fresh := fun _ _ => rfl
      limited := fun _ => Nat.zero_le _
      uncounted := fun _ hu => absurd hu not_mem_nil
      session := by
        intro stored hstored
        cases hstored }

/-- The default limits, with codes and passwords for their hashes. -/
def plainReset : ResetSettings where
  hashOtp := id
  hashPassword := id

def sendResetCode (task : ℕ) (otp : String) : List ResetAct :=
  .start (.issue "No seller found with this email") :: replicate 7 (.run task { otp })

/-- The right code is sent back. -/
def sendBack (task : ℕ) (otp : String) : List ResetAct :=
  .start (.verify otp) :: replicate 7 (.run task {})

def setPassword (task token : ℕ) : List ResetAct :=
  .start (.reset token "new password") :: replicate 4 (.run task {})

/-- A wrong code, the right one, and two resets. -/
def resetTwice : List ResetAct :=
  sendResetCode 0 "1234" ++ .start (.verify "0000") :: replicate 5 (.run 1 {}) ++
    sendBack 2 "1234" ++ setPassword 3 0 ++ setPassword 4 0

/-- Two codes are sent and sent back, and the password is set with the token for the first. -/
def resetWithOldToken : List ResetAct :=
  sendResetCode 0 "1234" ++ sendBack 1 "1234" ++ [.outside (.elapse 60000)] ++
    sendResetCode 2 "5678" ++ sendBack 3 "5678" ++ setPassword 4 0

end DiscountBazar.Sellers
