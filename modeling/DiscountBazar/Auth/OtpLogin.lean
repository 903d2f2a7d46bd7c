/-
A login code is accepted once and guessed at a few times, and nothing is accepted while the number
is locked.

Three facts about the documents carry this. No issue of a code is at two places, on the customer, in
the session or among the accepted; the wrong codes compared since the last issue are counted by the
document that a code is compared with, or by the save that is still to come; and what a request has
read of a lock is over. A save that is decided on a document which has moved on breaks them, so the
condition is on what each call still finds.
-/
import DiscountBazar.Auth.CustomerOtp

namespace DiscountBazar.Auth

open Tasks Runs PhoneState
open Contract (Sound)
open Prog (All)
open List Option Nat

variable (settings : Settings)

/-! ## What is to hold -/

/-- No code that was issued is accepted twice, no more wrong codes than the limit are compared
between two issued codes, and nothing is accepted while the number is locked. -/
structure Safe (s : PhoneState) : Prop where
  once : ∀ issue, (s.accepted.map Accepted.issue).count issue ≤ 1
  limited : s.wrong ≤ settings.otpMaxFailedAttempts
  unlocked : ∀ accepted ∈ s.accepted, accepted.locked = false

/-! ## The condition on a call -/

/-- The document still has the code that was read, and as many failed attempts. -/
def UpToDate (s : PhoneState) (record : Record) (failedAttempts : ℕ) (code : Code) : Prop :=
  match record with
  | .customer =>
    match s.customer with
    | some stored =>
      stored.isVerified = true ∧ stored.otp = some code ∧
        stored.otpFailedAttempts = failedAttempts
    | none => False
  | .session id =>
    match s.session with
    | some stored =>
      s.isRegistered = false ∧ stored.id = id ∧ stored.otp = code ∧
        stored.failedAttempts = failedAttempts
    | none => False

instance (s : PhoneState) (record : Record) (failedAttempts : ℕ) (code : Code) :
    Decidable (UpToDate s record failedAttempts code) := by
  unfold UpToDate
  split
  · split
    · infer_instance
    · infer_instance
  · split
    · infer_instance
    · infer_instance

/-- The customer meets a condition, if there is one. -/
def OfCustomer (s : PhoneState) (P : Customer → Prop) : Prop :=
  match s.customer with
  | some stored => P stored
  | none => True

instance (s : PhoneState) (P : Customer → Prop) [DecidablePred P] : Decidable (OfCustomer s P) := by
  unfold OfCustomer
  split
  · infer_instance
  · infer_instance

/-- The session meets a condition, if there is one. -/
def OfSession (s : PhoneState) (P : RegistrationSession → Prop) : Prop :=
  match s.session with
  | some stored => P stored
  | none => True

instance (s : PhoneState) (P : RegistrationSession → Prop) [DecidablePred P] :
    Decidable (OfSession s P) := by
  unfold OfSession
  split
  · infer_instance
  · infer_instance

/-- The condition on a call. A wrong code is compared with a document that is as it was read and
below the limit, while no other wrong code is still to be counted, and its count is saved; a code is
accepted while the code and the lock are as they were read, a code of a session before the number is
registered; and a customer who is activated has no code left from before. -/
def Orderly (_ : ℕ) (kind : Kind) (c : Choice) (s : PhoneState) : Prop :=
  match kind with
  | .compare record failedAttempts stored code =>
    c.outcome.takesEffect = true → settings.hashOtp code ≠ stored.hash →
      s.uncounted = [] ∧ UpToDate s record failedAttempts stored ∧
        failedAttempts < settings.otpMaxFailedAttempts
  | .saveFailedCustomer _ _ | .saveFailedSession _ _ => c.outcome.takesEffect = true
  | .saveLogin read _ =>
    c.outcome.takesEffect = true →
      OfCustomer s (fun stored =>
        stored.otp = read.otp ∧ stored.otpLockedUntil = read.otpLockedUntil)
  | .consumeSession read =>
    c.outcome.takesEffect = true →
      OfSession s (fun stored =>
        stored.id = read.id ∧ stored.otp.hash = read.otp.hash →
          s.isRegistered = false ∧ stored.lockedUntil = read.lockedUntil)
  | .saveActivated read _ _ =>
    c.outcome.takesEffect = true → read.isVerified = false →
      OfCustomer s (fun stored => stored.isVerified = false → stored.otp = none)
  | _ => True

instance (task : ℕ) (kind : Kind) (c : Choice) (s : PhoneState) :
    Decidable (Orderly settings task kind c s) := by
  unfold Orderly
  split
  · infer_instance
  · infer_instance
  · infer_instance
  · infer_instance
  · infer_instance
  · infer_instance
  · infer_instance

/-! ## Where the issues are -/

def Code.uses (code : Option Code) (issue : ℕ) : ℕ :=
  if code.map Code.issue = some issue then 1 else 0

def PhoneState.uses (s : PhoneState) (issue : ℕ) : ℕ :=
  Code.uses (s.customer.bind Customer.otp) issue
    + Code.uses (s.session.map RegistrationSession.otp) issue
    + (s.accepted.map Accepted.issue).count issue

/-- Every issue is at one place at most, and none that is still to come is at any. -/
structure Placed (s : PhoneState) : Prop where
  once : ∀ issue, s.uses issue ≤ 1
  fresh : ∀ issue, s.issued ≤ issue → s.uses issue = 0

theorem Placed.of_le {s s' : PhoneState} (h : Placed s)
    (huses : ∀ issue, s'.uses issue ≤ s.uses issue) (hissued : s'.issued = s.issued) :
    Placed s' where
  once := fun issue => (huses issue).trans (h.once issue)
  fresh := fun issue hle =>
    le_zero.mp ((huses issue).trans_eq (h.fresh issue (hissued ▸ hle)))

theorem Placed.issue {s s' : PhoneState} (h : Placed s)
    (huses : ∀ issue, s'.uses issue ≤ s.uses issue + if issue = s.issued then 1 else 0)
    (hissued : s'.issued = s.issued + 1) : Placed s' where
  once := by
    intro issue
    have hle := huses issue
    by_cases hnew : issue = s.issued
    · rw [if_pos hnew, h.fresh issue hnew.ge] at hle
      exact hle
    · rw [if_neg hnew] at hle
      exact hle.trans (h.once issue)
  fresh := by
    intro issue hle
    have hbound := huses issue
    rw [hissued] at hle
    rw [if_neg (by omega), h.fresh issue (by omega)] at hbound
    exact le_zero.mp hbound

theorem Code.uses_none (issue : ℕ) : Code.uses none issue = 0 := rfl

theorem Code.uses_some (hash : String) (next issue : ℕ) :
    Code.uses (some ⟨hash, next⟩) issue = if issue = next then 1 else 0 := by
  unfold Code.uses
  refine if_congr ⟨fun h => (some.inj h).symm, fun h => ?_⟩ rfl rfl
  rw [h]
  rfl

theorem Code.uses_writtenCode (read : Option Code) (hash : String) (next : ℕ) (stored : Option Code)
    (issue : ℕ) :
    Code.uses (writtenCode read ⟨hash, next⟩ stored) issue
      ≤ Code.uses stored issue + if issue = next then 1 else 0 := by
  unfold writtenCode
  split
  · exact le_add_right _ _
  · rw [Code.uses_some]
    exact le_add_left _ _

theorem writtenCode_some (read new stored : Code) :
    some ((writtenCode (some read) new (some stored)).getD stored)
      = writtenCode (some read) new (some stored) := by
  unfold writtenCode
  split
  · rfl
  · rfl

theorem count_accepted (accepted : List Accepted) (s : PhoneState) (code : Option Code)
    (issue : ℕ) :
    ((accepted ++ (code.map (acceptance s)).toList).map Accepted.issue).count issue
      = (accepted.map Accepted.issue).count issue + Code.uses code issue := by
  rw [map_append, count_append]
  congr 1
  cases code with
  | none => rfl
  | some code =>
    unfold Code.uses
    by_cases h : code.issue = issue
    · simp [acceptance, h]
    · simp [acceptance, h]

/-! ## How the wrong codes are counted -/

/-- The wrong codes are counted by the document that a code is compared with, or by the save that is
still to come. -/
structure Counted (s : PhoneState) : Prop where
  uncounted : ∀ u ∈ s.uncounted, s.wrong ≤ u.read + 1
  customer : ∀ customer, s.customer = some customer → customer.isVerified = true →
    customer.otp ≠ none → (∀ u ∈ s.uncounted, u.record ≠ .customer) →
      s.wrong ≤ customer.otpFailedAttempts
  session : s.isRegistered = false → ∀ session, s.session = some session →
    (∀ u ∈ s.uncounted, u.record ≠ .session session.id) → s.wrong ≤ session.failedAttempts

structure Inv (s : PhoneState) : Prop where
  placed : Placed s
  counted : Counted s
  limited : s.wrong ≤ settings.otpMaxFailedAttempts
  unlocked : ∀ accepted ∈ s.accepted, accepted.locked = false

variable {settings} in
theorem Inv.safe {s : PhoneState} (h : Inv settings s) : Safe settings s where
  once := fun issue => (le_add_left _ _).trans (h.placed.once issue)
  limited := h.limited
  unlocked := h.unlocked

/-! ## What a call keeps -/

theorem Counted.of_none_wrong {s : PhoneState} (h : s.wrong = 0) : Counted s where
  uncounted := fun _ _ => h ▸ zero_le _
  customer := fun _ _ _ _ _ => h ▸ zero_le _
  session := fun _ _ _ _ => h ▸ zero_le _

theorem Counted.wrong_le {s : PhoneState} (h : Counted s) (hnone : s.uncounted = [])
    {record : Record} {failedAttempts : ℕ} {code : Code}
    (hread : UpToDate s record failedAttempts code) : s.wrong ≤ failedAttempts := by
  have hcounted : ∀ record : Record, ∀ u ∈ s.uncounted, u.record ≠ record := by
    intro record u hu
    rw [hnone] at hu
    cases hu
  unfold UpToDate at hread
  cases record with
  | customer =>
    cases hcustomer : s.customer with
    | none =>
      rw [hcustomer] at hread
      exact hread.elim
    | some stored =>
      rw [hcustomer] at hread
      obtain ⟨hverified, hotp, rfl⟩ := hread
      exact h.customer stored hcustomer hverified (by rw [hotp]; exact some_ne_none _)
        (hcounted .customer)
  | session id =>
    cases hsession : s.session with
    | none =>
      rw [hsession] at hread
      exact hread.elim
    | some stored =>
      rw [hsession] at hread
      obtain ⟨hregistered, -, -, rfl⟩ := hread
      exact h.session hregistered stored hsession (hcounted (.session stored.id))

theorem UpToDate.registered {s : PhoneState} {record : Record} {failedAttempts : ℕ} {code : Code}
    (h : UpToDate s record failedAttempts code) : s.isRegistered = true ↔ record = .customer := by
  unfold UpToDate at h
  cases record with
  | customer =>
    refine iff_of_true ?_ rfl
    unfold isRegistered
    cases hcustomer : s.customer with
    | none =>
      rw [hcustomer] at h
      exact h.elim
    | some stored =>
      rw [hcustomer] at h
      exact h.1
  | session id =>
    refine iff_of_false ?_ (fun hsame => by cases hsame)
    cases hsession : s.session with
    | none =>
      rw [hsession] at h
      exact h.elim
    | some stored =>
      rw [hsession] at h
      rw [h.1]
      exact Bool.false_ne_true

theorem isRegistered_of_verified {s : PhoneState} {customer : Customer}
    (hcustomer : s.customer = some customer) : s.isRegistered = customer.isVerified := by
  unfold isRegistered
  rw [hcustomer]
  rfl

variable {settings} {i : ℕ} {c : Choice} {s : PhoneState}

theorem Counted.compare (h : Counted s) {record : Record} {failedAttempts : ℕ} {code : Code}
    (hnone : s.uncounted = []) (hread : UpToDate s record failedAttempts code) :
    Counted { s with
      wrong := s.wrong + 1
      uncounted := s.uncounted ++ [⟨i, record, failedAttempts⟩] } := by
  have hcounts := h.wrong_le hnone hread
  have hmem : (⟨i, record, failedAttempts⟩ : Uncounted)
      ∈ s.uncounted ++ [⟨i, record, failedAttempts⟩] :=
    mem_append_right _ (mem_singleton_self _)
  refine ⟨fun u hu => ?_, fun customer hcustomer hverified _ hothers => ?_,
    fun hregistered session hsession hothers => ?_⟩
  · dsimp only at hu ⊢
    rw [hnone, nil_append, mem_singleton] at hu
    rw [hu]
    exact succ_le_succ hcounts
  · -- the document is the customer, so the entry is of it
    have hrecord := hread.registered.mp ((isRegistered_of_verified hcustomer).trans hverified)
    exact absurd hrecord (hothers _ hmem)
  · -- the document is the session
    cases record with
    | customer =>
      have htrue : s.isRegistered = true := hread.registered.mpr rfl
      exact absurd (htrue.symm.trans hregistered) (by simp)
    | session id =>
      have hstored : s.session = some session := hsession
      unfold UpToDate at hread
      rw [hstored] at hread
      exact absurd (congrArg Record.session hread.2.1).symm (hothers _ hmem)

variable {uncounted : List Uncounted} {record : Record}

theorem record_ne_of_filter {entry : Uncounted} (hentry : entry.record ≠ record)
    (h : ∀ u ∈ uncounted.filter (· ≠ entry), u.record ≠ record) :
    ∀ u ∈ uncounted, u.record ≠ record := by
  intro u hu
  by_cases hsame : u = entry
  · exact hsame ▸ hentry
  · exact h u (mem_filter.mpr ⟨hu, decide_eq_true hsame⟩)

theorem Counted.of_filter (h : Counted s) (entry : Uncounted) :
    ∀ u ∈ s.uncounted.filter (· ≠ entry), s.wrong ≤ u.read + 1 :=
  fun u hu => h.uncounted u (mem_filter.mp hu).1

variable {customer : Customer}

theorem Counted.saveFailedCustomer (h : Counted s) {read : ℕ}
    (hentry : ⟨i, .customer, read⟩ ∈ s.uncounted)
    (hsame : ∀ stored, s.customer = some stored → customer.isVerified = stored.isVerified)
    (hcount : customer.otpFailedAttempts = read + 1) (hsome : s.customer ≠ none) :
    Counted { s with
      customer := some customer
      uncounted := s.uncounted.filter (· ≠ ⟨i, .customer, read⟩) } := by
  refine ⟨h.of_filter _, fun stored hstored _ _ _ => ?_,
    fun hregistered session hsession hothers => ?_⟩
  · cases hstored
    rw [hcount]
    exact h.uncounted _ hentry
  · obtain ⟨stored, hstored⟩ := ne_none_iff_exists'.mp hsome
    have hunregistered : s.isRegistered = false :=
      (isRegistered_of_verified hstored).trans ((hsame stored hstored).symm.trans hregistered)
    exact h.session hunregistered session hsession
      (record_ne_of_filter (fun hrecord => by cases hrecord) hothers)

theorem Counted.saveFailedSession (h : Counted s) {session : RegistrationSession} {id read : ℕ}
    (hentry : ⟨i, .session id, read⟩ ∈ s.uncounted) (hcount : session.failedAttempts = read + 1) :
    Counted { s with
      session := some session
      uncounted := s.uncounted.filter (· ≠ ⟨i, .session id, read⟩) } := by
  refine ⟨h.of_filter _, fun customer hcustomer hverified hotp hothers => ?_,
    fun _ stored hstored _ => ?_⟩
  · exact h.customer customer hcustomer hverified hotp
      (record_ne_of_filter (fun hrecord => by cases hrecord) hothers)
  · cases hstored
    rw [hcount]
    exact h.uncounted _ hentry

theorem Counted.forget (h : Counted s) {read : ℕ}
    (hcustomer : record = .customer → s.customer = none)
    (hsession : ∀ session, s.session = some session → record ≠ .session session.id) :
    Counted { s with uncounted := s.uncounted.filter (· ≠ ⟨i, record, read⟩) } := by
  refine ⟨h.of_filter _, fun customer hstored hverified hotp hothers => ?_,
    fun hregistered session hstored hothers => ?_⟩
  · have hother : record ≠ .customer := by
      intro hrecord
      rw [hcustomer hrecord] at hstored
      cases hstored
    exact h.customer customer hstored hverified hotp (record_ne_of_filter hother hothers)
  · exact h.session hregistered session hstored
      (record_ne_of_filter (hsession session hstored) hothers)

variable {accepted : List Accepted}

theorem Counted.ofCustomer (h : Counted s)
    (hregistered : s.isRegistered = true → customer.isVerified = true)
    (hcode : customer.otp ≠ none → customer.isVerified = true →
      ∃ stored, s.customer = some stored ∧ stored.isVerified = true ∧ stored.otp ≠ none ∧
        stored.otpFailedAttempts = customer.otpFailedAttempts) :
    Counted { s with customer := some customer, accepted } := by
  refine ⟨h.uncounted, fun other hother hverified hotp hothers => ?_,
    fun hunregistered session hsession hothers => ?_⟩
  · cases hother
    obtain ⟨stored, hstored, hwas, hcode, hsame⟩ := hcode hotp hverified
    rw [← hsame]
    exact h.customer stored hstored hwas hcode hothers
  · have hbefore : s.isRegistered = false := by
      cases hwas : s.isRegistered with
      | false => rfl
      | true => exact absurd ((hregistered hwas).symm.trans hunregistered) (by simp)
    exact h.session hbefore session hsession hothers

theorem Counted.noSession (h : Counted s) :
    Counted { s with session := none, accepted } :=
  ⟨h.uncounted, h.customer, fun _ _ hsession => by cases hsession⟩

variable {lockedUntil : Option Date}

theorem acceptance_unlocked (hlock : s.lockedUntil = lockedUntil)
    (hread : isLocked lockedUntil s.clock = false) (code : Code) :
    (acceptance s code).locked = false := by
  unfold acceptance
  rw [hlock]
  exact hread

theorem lockedUntil_of_registered {stored : Customer} (hstored : s.customer = some stored)
    (hregistered : s.isRegistered = true) : s.lockedUntil = stored.lockedUntil := by
  unfold lockedUntil
  rw [if_pos hregistered, hstored]
  rfl

variable {stored : RegistrationSession}

theorem lockedUntil_of_unregistered (hstored : s.session = some stored)
    (hregistered : s.isRegistered = false) :
    s.lockedUntil = stored.lockedUntil := by
  unfold lockedUntil
  rw [hregistered, hstored]
  rfl

theorem isLocked_mono {now later : Date} (hle : now ≤ later) (h : isLocked lockedUntil now = false)
    : isLocked lockedUntil later = false := by
  cases lockedUntil with
  | none => rfl
  | some lockedUntil =>
    have hnow : ¬ now < lockedUntil := of_decide_eq_false h
    exact decide_eq_false (fun hlater => hnow (lt_of_le_of_lt hle hlater))

/-! ## One call -/

def Prepared (i : ℕ) (s : PhoneState) : Kind → Prop
  | .saveFailedCustomer read _ => ⟨i, .customer, read.otpFailedAttempts⟩ ∈ s.uncounted
  | .saveFailedSession read _ => ⟨i, .session read.id, read.failedAttempts⟩ ∈ s.uncounted
  | .saveLogin read _ => s.isRegistered = true ∧ isLocked read.lockedUntil s.clock = false
  | .consumeSession read => isLocked read.lockedUntil s.clock = false
  | _ => True

theorem unlocked_append {accepted new : List Accepted}
    (h : ∀ a ∈ accepted, a.locked = false) (hnew : ∀ a ∈ new, a.locked = false) :
    ∀ a ∈ accepted ++ new, a.locked = false := by
  intro a ha
  rcases mem_append.mp ha with ha | ha
  · exact h a ha
  · exact hnew a ha

variable {session : Option RegistrationSession}

theorem Inv.issue (h : Inv settings s) {customer : Option Customer} {nextSession : ℕ}
    (huses : ∀ issue, Code.uses (customer.bind Customer.otp) issue
        + Code.uses (session.map RegistrationSession.otp) issue
      ≤ Code.uses (s.customer.bind Customer.otp) issue
        + Code.uses (s.session.map RegistrationSession.otp) issue
        + if issue = s.issued then 1 else 0) :
    Inv settings { s with customer, session, nextSession, issued := s.issued + 1, wrong := 0 } where
  placed := by
    refine h.placed.issue (fun issue => ?_) rfl
    have hle := huses issue
    unfold uses
    dsimp only
    omega
  counted := Counted.of_none_wrong rfl
  limited := zero_le _
  unlocked := h.unlocked

theorem session_of_filter {id : ℕ}
    (h : s.session.filter (fun stored => decide (stored.id = id)) = some stored) :
    s.session = some stored ∧ stored.id = id := by
  obtain ⟨hsession, hid⟩ := filter_eq_some_iff.mp h
  exact ⟨hsession, of_decide_eq_true hid⟩

theorem issueToCustomer_inv (h : Inv settings s) (read : Customer) (otp : String) (now : Date) :
    Inv settings (effect settings i c s (.issueToCustomer read otp now)).2 := by
  unfold effect
  dsimp only
  split
  next stored hstored =>
    refine h.issue (fun issue => ?_)
    have hle := Code.uses_writtenCode read.otp (settings.hashOtp otp) s.issued stored.otp issue
    rw [hstored]
    unfold issuedCustomer
    dsimp only [bind_some]
    omega
  next => exact h

theorem createSession_inv (h : Inv settings s) (otp : String) (now : Date) (name : Option String) :
    Inv settings (effect settings i c s (.createSession otp now name)).2 := by
  unfold effect
  dsimp only
  split
  next => exact h
  next hnone =>
    refine h.issue (fun issue => ?_)
    rw [hnone]
    dsimp only [map_some, map_none]
    rw [Code.uses_some, Code.uses_none]
    omega

theorem issueToSession_inv (h : Inv settings s) (read : RegistrationSession) (otp : String)
    (now : Date) (name : Option String) :
    Inv settings (effect settings i c s (.issueToSession read otp now name)).2 := by
  unfold effect
  dsimp only
  split
  next stored hstored =>
    obtain ⟨hsession, -⟩ := session_of_filter hstored
    refine h.issue (fun issue => ?_)
    have hle :=
      Code.uses_writtenCode (some read.otp) (settings.hashOtp otp) s.issued (some stored.otp) issue
    rw [hsession]
    unfold issuedSession
    dsimp only [map_some]
    rw [writtenCode_some]
    omega
  next => exact h

/-- A code is compared; a wrong one is still to be counted. -/
theorem compare_inv (h : Inv settings s) {record : Record} {failedAttempts : ℕ} {stored : Code}
    {code : String}
    (hwrong : settings.hashOtp code ≠ stored.hash → s.uncounted = [] ∧
      UpToDate s record failedAttempts stored ∧ failedAttempts < settings.otpMaxFailedAttempts) :
    Inv settings (effect settings i c s (.compare record failedAttempts stored code)).2 := by
  unfold effect
  dsimp only
  split
  next => exact h
  next hne =>
    obtain ⟨hnone, hread, hbelow⟩ := hwrong hne
    have hcounts := h.counted.wrong_le hnone hread
    exact
      { placed := h.placed.of_le (fun _ => le_refl _) rfl
        counted := h.counted.compare hnone hread
        limited := succ_le_of_lt (lt_of_le_of_lt hcounts hbelow)
        unlocked := h.unlocked }

theorem failedSession_otp (read : RegistrationSession) (now : Date) (stored : RegistrationSession) :
    (failedSession settings read now stored).otp = stored.otp := by
  unfold failedSession
  split
  · rfl
  · rfl

theorem failedSession_failedAttempts (read : RegistrationSession) (now : Date)
    (stored : RegistrationSession) :
    (failedSession settings read now stored).failedAttempts = read.failedAttempts + 1 := by
  unfold failedSession
  split
  · rfl
  · rfl

variable {read : Customer}

theorem saveFailedCustomer_inv (h : Inv settings s) (now : Date)
    (hentry : ⟨i, .customer, read.otpFailedAttempts⟩ ∈ s.uncounted) :
    Inv settings (effect settings i c s (.saveFailedCustomer read now)).2 := by
  unfold effect
  dsimp only
  split
  next stored hstored =>
    have huses : ∀ issue, Code.uses (s.customer.bind Customer.otp) issue
        = Code.uses stored.otp issue := fun issue => by rw [hstored]; rfl
    exact
      { placed := h.placed.of_le (fun issue => by unfold uses; rw [huses]; rfl) rfl
        counted := h.counted.saveFailedCustomer hentry
          (fun other hother => by cases hstored.symm.trans hother; rfl) rfl
          (by rw [hstored]; exact some_ne_none stored)
        limited := h.limited
        unlocked := h.unlocked }
  next hnone =>
    exact
      { placed := h.placed.of_le (fun _ => le_refl _) rfl
        counted := h.counted.forget (fun _ => hnone) (fun _ _ hrecord => by cases hrecord)
        limited := h.limited
        unlocked := h.unlocked }

theorem saveFailedSession_inv (h : Inv settings s) {read : RegistrationSession} (now : Date)
    (hentry : ⟨i, .session read.id, read.failedAttempts⟩ ∈ s.uncounted) :
    Inv settings (effect settings i c s (.saveFailedSession read now)).2 := by
  unfold effect
  dsimp only
  split
  next stored hfilter =>
    obtain ⟨hsession, -⟩ := session_of_filter hfilter
    have huses : ∀ issue, Code.uses (s.session.map RegistrationSession.otp) issue
        = Code.uses (some (failedSession settings read now stored).otp) issue :=
      fun issue => by rw [hsession, failedSession_otp]; rfl
    exact
      { placed := h.placed.of_le (fun issue => by unfold uses; rw [huses]; rfl) rfl
        counted := h.counted.saveFailedSession hentry (failedSession_failedAttempts read now stored)
        limited := h.limited
        unlocked := h.unlocked }
  next hnone =>
    have hother : ∀ session, s.session = some session →
        Record.session read.id ≠ .session session.id := by
      intro session hsession hrecord
      have hid := Record.session.inj hrecord
      rw [hsession] at hnone
      exact filter_some_eq_none.mp hnone (decide_eq_true hid.symm)
    exact
      { placed := h.placed.of_le (fun _ => le_refl _) rfl
        counted := h.counted.forget (fun hrecord => by cases hrecord) hother
        limited := h.limited
        unlocked := h.unlocked }

theorem saveLogin_inv (h : Inv settings s) (now : Date)
    (hsame : OfCustomer s (fun stored =>
      stored.otp = read.otp ∧ stored.otpLockedUntil = read.otpLockedUntil))
    (hregistered : s.isRegistered = true) (hlock : isLocked read.lockedUntil s.clock = false) :
    Inv settings (effect settings i c s (.saveLogin read now)).2 := by
  unfold OfCustomer at hsame
  unfold effect
  dsimp only
  split
  next stored hstored =>
    rw [hstored] at hsame
    obtain ⟨hotp, hlocked⟩ := hsame
    have hverified : stored.isVerified = true :=
      (isRegistered_of_verified hstored).symm.trans hregistered
    have hnocode : (loggedInCustomer read now stored).otp = none := by
      unfold loggedInCustomer written
      dsimp only
      split
      next hread => exact hotp.trans hread.symm
      next => rfl
    have hlockedUntil : s.lockedUntil = read.lockedUntil :=
      (lockedUntil_of_registered hstored hregistered).trans (congrArg join hlocked)
    refine
      { placed := h.placed.of_le (fun issue => ?_) rfl
        counted := h.counted.ofCustomer (fun _ => hverified) (fun hcode => absurd hnocode hcode)
        limited := h.limited
        unlocked := unlocked_append h.unlocked (fun a ha => ?_) }
    · unfold uses
      dsimp only [bind_some]
      rw [hnocode, Code.uses_none, count_accepted, hstored, bind_some, hotp]
      omega
    · obtain ⟨code, -, rfl⟩ := map_eq_some_iff.mp (mem_toList.mp ha)
      exact acceptance_unlocked hlockedUntil hlock code
  next => exact h

theorem consumeSession_inv (h : Inv settings s) {read : RegistrationSession}
    (hsame : OfSession s (fun stored =>
      stored.id = read.id ∧ stored.otp.hash = read.otp.hash →
        s.isRegistered = false ∧ stored.lockedUntil = read.lockedUntil))
    (hlock : isLocked read.lockedUntil s.clock = false) :
    Inv settings (effect settings i c s (.consumeSession read)).2 := by
  unfold OfSession at hsame
  unfold effect
  dsimp only
  split
  next stored hstored =>
    rw [hstored] at hsame
    split
    next hmatch =>
      obtain ⟨hregistered, hlocked⟩ := hsame hmatch
      have hlockedUntil : s.lockedUntil = read.lockedUntil :=
        (lockedUntil_of_unregistered hstored hregistered).trans hlocked
      refine
        { placed := h.placed.of_le (fun issue => ?_) rfl
          counted := h.counted.noSession
          limited := h.limited
          unlocked := unlocked_append h.unlocked (fun a ha => ?_) }
      · have hcount := count_accepted s.accepted s (some stored.otp) issue
        unfold uses
        dsimp only [map_none, map_some, toList_some] at hcount ⊢
        rw [hcount, hstored, Code.uses_none, map_some]
        omega
      · rw [mem_singleton.mp ha]
        exact acceptance_unlocked hlockedUntil hlock stored.otp
    next => exact h
  next => exact h

theorem saveActivated_inv (h : Inv settings s) (name : String) (now : Date)
    (hclean : read.isVerified = false →
      OfCustomer s (fun stored => stored.isVerified = false → stored.otp = none)) :
    Inv settings (effect settings i c s (.saveActivated read name now)).2 := by
  unfold effect
  dsimp only
  split
  next stored hstored =>
    have hotp : (activatedCustomer read name now stored).otp = stored.otp := by
      unfold activatedCustomer
      split
      · rfl
      · rfl
    have hfailed : (activatedCustomer read name now stored).otpFailedAttempts
        = stored.otpFailedAttempts := by
      unfold activatedCustomer
      split
      · rfl
      · rfl
    have hverified : stored.isVerified = true →
        (activatedCustomer read name now stored).isVerified = true := by
      intro hverified
      unfold activatedCustomer
      split
      · exact hverified
      · rfl
    have hwas : (activatedCustomer read name now stored).isVerified = true →
        stored.isVerified = true ∨ read.isVerified = false := by
      intro hnow
      cases hread : read.isVerified with
      | false => exact .inr rfl
      | true =>
        unfold activatedCustomer at hnow
        rw [if_pos hread] at hnow
        exact .inl hnow
    refine
      { placed := h.placed.of_le (fun issue => ?_) rfl
        counted := h.counted.ofCustomer
          (fun hregistered => hverified ((isRegistered_of_verified hstored).symm.trans hregistered))
          (fun hcode hnow => ⟨stored, hstored, ?_, hotp ▸ hcode, hfailed.symm⟩)
        limited := h.limited
        unlocked := h.unlocked }
    · unfold uses
      rw [hstored, bind_some, bind_some, hotp]
    · rcases hwas hnow with hstill | hread
      · exact hstill
      · -- a customer who had a code was verified before
        have hnone := hclean hread
        unfold OfCustomer at hnone
        rw [hstored] at hnone
        cases hstill : stored.isVerified with
        | true => rfl
        | false => exact absurd (hotp.trans (hnone hstill)) hcode
  next => exact h

theorem createCustomer_inv (h : Inv settings s) (name : String) (now : Date) :
    Inv settings (effect settings i c s (.createCustomer name now)).2 := by
  unfold effect
  dsimp only
  split
  next => exact h
  next hnone =>
    refine
      { placed := h.placed.of_le (fun issue => ?_) rfl
        counted := h.counted.ofCustomer (fun _ => rfl) (fun hcode => absurd rfl hcode)
        limited := h.limited
        unlocked := h.unlocked }
    unfold uses
    rw [hnone]
    exact le_refl _

variable {kind : Kind}

theorem effect_inv (h : Inv settings s) (horderly : Orderly settings i kind c s)
    (htakes : c.outcome.takesEffect = true) (hprepared : Prepared i s kind) :
    Inv settings (effect settings i c s kind).2 := by
  cases kind with
  | countRequest | now | generateOtp | findCustomer | findRegistrationSession
  | dispatchOtp => exact h
  | issueToCustomer read otp now => exact issueToCustomer_inv h read otp now
  | createSession otp now name => exact createSession_inv h otp now name
  | issueToSession read otp now name => exact issueToSession_inv h read otp now name
  | compare record failedAttempts stored code => exact compare_inv h (horderly htakes)
  | saveFailedCustomer read now => exact saveFailedCustomer_inv h now hprepared
  | saveFailedSession read now => exact saveFailedSession_inv h now hprepared
  | saveLogin read now => exact saveLogin_inv h now (horderly htakes) hprepared.1 hprepared.2
  | consumeSession read => exact consumeSession_inv h (horderly htakes) hprepared
  | saveActivated read name now => exact saveActivated_inv h name now (horderly htakes)
  | createCustomer name now => exact createCustomer_inv h name now

/-! ## What the others rely on -/

/-- What the others do to a task: time goes on, a number that is registered stays so, and what the
task has to count is still there. -/
structure Others (i : ℕ) (s s' : PhoneState) : Prop where
  clock : s.clock ≤ s'.clock
  registered : s.isRegistered = true → s'.isRegistered = true
  uncounted : ∀ u ∈ s.uncounted, u.task = i → u ∈ s'.uncounted

theorem Others.refl (i : ℕ) (s : PhoneState) : Others i s s := ⟨le_refl _, id, fun _ hu _ => hu⟩

theorem Others.trans {i : ℕ} {s s' s'' : PhoneState} (h : Others i s s') (h' : Others i s' s'') :
    Others i s s'' :=
  ⟨h.clock.trans h'.clock, fun hs => h'.registered (h.registered hs),
    fun u hu htask => h'.uncounted u (h.uncounted u hu htask) htask⟩

theorem mem_filter_of_task {j : ℕ} (hj : j ≠ i) {read : ℕ} {u : Uncounted} (hu : u ∈ uncounted)
    (htask : u.task = j) :
    u ∈ uncounted.filter (· ≠ ⟨i, record, read⟩) := by
  refine mem_filter.mpr ⟨hu, decide_eq_true (fun hsame => hj ?_)⟩
  rw [← htask, hsame]

theorem registered_of_saved {stored customer : Customer} {issued wrong : ℕ}
    (hstored : s.customer = some stored)
    (hverified : stored.isVerified = true → customer.isVerified = true) (h : s.isRegistered = true) :
    ({ s with customer := some customer, session, uncounted, accepted, issued, wrong } :
      PhoneState).isRegistered = true :=
  hverified ((isRegistered_of_verified hstored).symm.trans h)

theorem effect_others {j : ℕ} (hj : j ≠ i) (c : Choice) (s : PhoneState) (kind : Kind) :
    Others j s (effect settings i c s kind).2 := by
  have hsame : Others j s s := Others.refl j s
  cases kind with
  | countRequest | now | generateOtp | findCustomer | findRegistrationSession
  | dispatchOtp => exact hsame
  | issueToCustomer | saveLogin =>
    unfold effect
    dsimp only
    split
    next stored hstored => exact ⟨le_refl _, registered_of_saved hstored id, fun _ hu _ => hu⟩
    next => exact hsame
  | createSession otp now name =>
    unfold effect
    dsimp only
    split
    · exact hsame
    · exact ⟨le_refl _, id, fun _ hu _ => hu⟩
  | issueToSession read otp now name =>
    unfold effect
    dsimp only
    split
    · exact ⟨le_refl _, id, fun _ hu _ => hu⟩
    · exact hsame
  | compare record failedAttempts stored code =>
    unfold effect
    dsimp only
    split
    · exact hsame
    · exact ⟨le_refl _, id, fun _ hu _ => mem_append_left _ hu⟩
  | saveFailedCustomer read now =>
    unfold effect
    dsimp only
    split
    next stored hstored =>
      exact ⟨le_refl _, registered_of_saved hstored id, fun _ => mem_filter_of_task hj⟩
    next => exact ⟨le_refl _, id, fun _ => mem_filter_of_task hj⟩
  | saveFailedSession read now =>
    unfold effect
    dsimp only
    split
    · exact ⟨le_refl _, id, fun _ => mem_filter_of_task hj⟩
    · exact ⟨le_refl _, id, fun _ => mem_filter_of_task hj⟩
  | consumeSession read =>
    unfold effect
    dsimp only
    split
    · split
      · exact ⟨le_refl _, id, fun _ hu _ => hu⟩
      · exact hsame
    · exact hsame
  | saveActivated read name now =>
    unfold effect
    dsimp only
    split
    next stored hstored =>
      refine ⟨le_refl _, registered_of_saved hstored (fun hverified => ?_), fun _ hu _ => hu⟩
      unfold activatedCustomer
      split
      · exact hverified
      · rfl
    next => exact hsame
  | createCustomer name now =>
    unfold effect
    dsimp only
    split
    · exact hsame
    · exact ⟨le_refl _, fun _ => rfl, fun _ hu _ => hu⟩

variable (settings) in
def orderlyContract : Contract (otpSystem settings) where
  inv := Inv settings
  rely := Others
  may := Orderly settings

/-! ## The handlers -/

variable {s : PhoneState}

/-- The rule for one call. -/
theorem sound_perform {Q : kind.Reply → PhoneState → Prop}
    (hprepared : ∀ s', Others i s s' → Prepared i s' kind)
    (hok : ∀ c s' a, Others i s s' → (effect settings i c s' kind).1 = .ok a →
      Q a (effect settings i c s' kind).2) :
    (orderlyContract settings).Sound i Q (fun _ _ => True) (Prog.perform kind) s :=
  Sound.perform_outcome (o := Choice.outcome) (f := fun c s => effect settings i c s kind)
    (fun _ _ => rfl) Others.refl
    (fun c s' hrely hinv hmay htakes =>
      ⟨effect_inv hinv hmay htakes (hprepared s' hrely), fun _ hj => effect_others hj c s' kind⟩)
    (fun c s' a hrely _ _ _ => hok c s' a hrely) (fun _ _ _ _ _ _ _ _ => trivial)
    (fun _ _ _ _ _ _ _ => trivial) (fun _ _ _ _ _ _ _ => trivial)

def Unprepared : Kind → Prop
  | .saveFailedCustomer _ _ | .saveFailedSession _ _ | .saveLogin _ _ | .consumeSession _ => False
  | _ => True

theorem prepared_of_unprepared (h : Unprepared kind) (i : ℕ) (s : PhoneState) :
    Prepared i s kind := by
  cases kind with
  | saveFailedCustomer | saveFailedSession | saveLogin | consumeSession => exact h.elim
  | _ => trivial

theorem sound_unprepared {p : M Unit} (hp : p.All Unprepared) (s : PhoneState) :
    (orderlyContract settings).Keeps i p s :=
  Contract.sound_of_perform
    (fun _ hkind _ => sound_perform (fun s' _ => prepared_of_unprepared hkind i s')
      (fun _ _ _ _ _ => trivial)) hp s

theorem assertNotLocked_unprepared (lockedUntil : Option Date) (now : Date) (message : String) :
    (assertNotLocked lockedUntil now message).All Unprepared :=
  All.ite All.throw All.ret

theorem assertResendCooldown_unprepared (lastSentAt : Option Date) (now : Date) :
    (assertResendCooldown settings lastSentAt now).All Unprepared := by
  unfold assertResendCooldown
  cases lastSentAt with
  | none => exact All.ret
  | some lastSentAt => exact All.ite All.throw All.ret

theorem issueCustomerOtp_unprepared (name : Option String) :
    (issueCustomerOtp settings name).All Unprepared := by
  have hregistered : ∀ customer now, (issueRegistered settings customer now).All Unprepared :=
    fun customer now =>
      All.bind (assertNotLocked_unprepared _ _ _) (fun _ =>
        All.bind (assertResendCooldown_unprepared _ _) (fun _ =>
          All.bind (All.perform trivial) (fun _ => All.perform trivial)))
  have hduplicate : ∀ e, (resolveDuplicate e).All Unprepared :=
    fun e => All.ite All.throw All.throw
  have hregistration : ∀ now, (issueRegistration settings now name).All Unprepared := by
    intro now
    refine All.bind (All.perform trivial) (fun session => ?_)
    refine All.bind (assertNotLocked_unprepared _ _ _) (fun _ => ?_)
    refine All.bind (assertResendCooldown_unprepared _ _) (fun _ => ?_)
    refine All.bind (All.perform trivial) (fun otp => ?_)
    cases session with
    | none | some => exact All.tryCatch (All.perform trivial) hduplicate
  unfold issueCustomerOtp
  refine All.bind (All.perform trivial) (fun now => ?_)
  refine All.bind (All.perform trivial) (fun sendAllowed => ?_)
  refine All.ite All.throw (All.bind (All.perform trivial) (fun customer => ?_))
  split
  next registered _ =>
    exact All.bind (hregistered registered now) (fun _ => All.perform trivial)
  next => exact All.bind (hregistration now) (fun _ => All.perform trivial)

theorem createOrActivateCustomer_unprepared (name : String) :
    (createOrActivateCustomer name).All Unprepared := by
  have hwinner : ∀ e, (findWinner e).All Unprepared := fun e =>
    All.ite
      (All.bind (All.perform trivial) (fun _ => All.ite All.throw All.ret))
      All.throw
  refine All.bind (All.perform trivial) (fun now => ?_)
  refine All.bind (All.perform trivial) (fun existing => ?_)
  cases existing with
  | none => exact All.tryCatch (All.perform trivial) hwinner
  | some existing => exact All.perform trivial

variable {now : Date}

theorem assertNotLocked_sound {message : String} {F : PhoneState → Prop} (hs : F s) :
    (orderlyContract settings).Sound i (fun _ s => F s ∧ isLocked lockedUntil now = false)
      (fun _ _ => True) (assertNotLocked lockedUntil now message) s :=
  Sound.ite_throw
    (fun hlock => Sound.ret ⟨hs, Bool.eq_false_iff.mpr hlock⟩)

variable (settings i) in
/-- What a comparison leaves: a wrong code is still to be counted. -/
theorem compare_sound (record : Record) (failedAttempts : ℕ) (stored : Code) (code : String)
    (s : PhoneState) :
    (orderlyContract settings).Sound i
      (fun otpMatches s => otpMatches = false → ⟨i, record, failedAttempts⟩ ∈ s.uncounted)
      (fun _ _ => True) (Prog.perform (Kind.compare record failedAttempts stored code)) s := by
  refine sound_perform (fun _ _ => trivial) (fun c s' a _ ha hwrong => ?_)
  unfold effect at ha ⊢
  dsimp only at ha ⊢
  split at ha
  next =>
    have htrue : true = a := Except.ok.inj ha
    exact absurd (htrue.trans hwrong) (by simp)
  next hne =>
    rw [if_neg hne]
    exact mem_append_right _ (mem_singleton_self _)

theorem finishLogin_sound {otpMatches : Bool}
    (hlogin : s.isRegistered = true ∧ isLocked customer.lockedUntil s.clock = false)
    (hwrong : otpMatches = false → ⟨i, .customer, customer.otpFailedAttempts⟩ ∈ s.uncounted) :
    (orderlyContract settings).Keeps i (finishLogin settings customer now otpMatches) s := by
  unfold finishLogin
  refine Sound.ite (fun _ => ?_) (fun hfalse => ?_)
  · refine sound_perform (fun s' hrely => ?_) (fun _ _ _ _ _ => trivial)
    exact ⟨hrely.registered hlogin.1, isLocked_mono hrely.clock hlogin.2⟩
  · refine Sound.bind (R := fun _ _ => True) ?_ (fun _ _ _ => Sound.throw trivial)
    refine sound_perform (fun s' hrely => ?_) (fun _ _ _ _ _ => trivial)
    exact hrely.uncounted _ (hwrong (Bool.eq_false_iff.mpr hfalse)) rfl

theorem finishRegistration_sound {session : RegistrationSession} {otpMatches : Bool}
    (hlock : isLocked session.lockedUntil s.clock = false)
    (hwrong : otpMatches = false → ⟨i, .session session.id, session.failedAttempts⟩ ∈ s.uncounted) :
    (orderlyContract settings).Keeps i (finishRegistration settings session now otpMatches) s := by
  unfold finishRegistration
  refine Sound.ite (fun _ => ?_) (fun hfalse => ?_)
  · refine Sound.bind (R := fun _ _ => True) ?_ (fun consumed s _ => ?_)
    · refine sound_perform (fun s' hrely => ?_) (fun _ _ _ _ _ => trivial)
      exact isLocked_mono hrely.clock hlock
    · exact Sound.ite (fun _ => Sound.ret trivial)
        (fun _ => Sound.throw trivial)
  · refine Sound.bind (R := fun _ _ => True) ?_ (fun _ _ _ => Sound.throw trivial)
    refine sound_perform (fun s' hrely => ?_) (fun _ _ _ _ _ => trivial)
    exact hrely.uncounted _ (hwrong (Bool.eq_false_iff.mpr hfalse)) rfl

def ReadAt (now : Date) (s : PhoneState) : Prop := now ≤ s.clock

theorem readAt_stable (j : ℕ) (s s' : PhoneState) (hrely : Others j s s') (h : ReadAt now s) :
    ReadAt now s' := le_trans h hrely.clock

theorem verifyRegisteredCustomerOtp_sound (code : String) (hregistered : s.isRegistered = true)
    (hnow : ReadAt now s) :
    (orderlyContract settings).Keeps i
      (verifyRegisteredCustomerOtp settings customer code now) s := by
  unfold verifyRegisteredCustomerOtp
  refine Sound.bind
    (R := fun _ s => (s.isRegistered = true ∧ ReadAt now s) ∧
      isLocked customer.lockedUntil now = false)
    (assertNotLocked_sound ⟨hregistered, hnow⟩) (fun _ s hs => ?_)
  split
  next otp otpExpiresAt _ _ =>
    refine Sound.ite_throw (fun _ => ?_)
    have hframe :=
      (compare_sound settings i .customer customer.otpFailedAttempts otp code s).frame
        (F := fun s => s.isRegistered = true ∧ ReadAt now s)
        (fun j s s' hrely h => ⟨Others.registered hrely h.1, readAt_stable j s s' hrely h.2⟩) hs.1
    refine Sound.bind (hframe.mono (fun _ _ h => h) (fun _ _ _ => trivial))
      (fun otpMatches s' hs' => ?_)
    exact finishLogin_sound ⟨hs'.2.1, isLocked_mono hs'.2.2 hs.2⟩ hs'.1
  next => exact Sound.throw trivial

theorem verifyRegistrationOtp_sound (code : String) (hnow : ReadAt now s) :
    (orderlyContract settings).Keeps i (verifyRegistrationOtp settings code now) s := by
  unfold verifyRegistrationOtp
  refine Sound.bind (R := fun _ s => ReadAt now s)
    (sound_perform (fun _ _ => trivial) (fun c s' _ hrely _ => readAt_stable i s s' hrely hnow))
    (fun session s hs => ?_)
  cases session with
  | none => exact Sound.throw trivial
  | some session =>
    refine Sound.bind
      (R := fun _ s => ReadAt now s ∧ isLocked session.lockedUntil now = false)
      (assertNotLocked_sound hs) (fun _ s hs => ?_)
    refine Sound.ite_throw (fun _ => ?_)
    have hframe :=
      (compare_sound settings i (.session session.id) session.failedAttempts session.otp code
        s).frame (F := ReadAt now) readAt_stable hs.1
    refine Sound.bind (hframe.mono (fun _ _ h => h) (fun _ _ _ => trivial))
      (fun otpMatches s' hs' => ?_)
    exact finishRegistration_sound (isLocked_mono hs'.2 hs.2) hs'.1

theorem isRegistered_of_filter (h : s.customer.filter Customer.isVerified = some customer) :
    s.isRegistered = true := by
  obtain ⟨hcustomer, hverified⟩ := filter_eq_some_iff.mp h
  exact (isRegistered_of_verified hcustomer).trans hverified

theorem verifyCustomerOtpCode_sound (code : String) (s : PhoneState) :
    (orderlyContract settings).Keeps i (verifyCustomerOtpCode settings code) s := by
  unfold verifyCustomerOtpCode
  refine Sound.ite_throw (fun _ => ?_)
  refine Sound.bind (R := fun _ _ => True)
    (sound_perform (fun _ _ => trivial) (fun _ _ _ _ _ => trivial)) (fun verifyAllowed s _ => ?_)
  refine Sound.ite_throw (fun _ => ?_)
  refine Sound.bind (R := fun now s => ReadAt now s)
    (sound_perform (fun _ _ => trivial) (fun c s' now _ hread => ?_)) (fun now s hnow => ?_)
  · have hclock : s'.clock = now := Except.ok.inj hread
    exact hclock.ge
  · refine Sound.bind
      (R := fun customer s => ReadAt now s ∧
        ∀ registered, customer.filter Customer.isVerified = some registered → s.isRegistered = true)
      (sound_perform (fun _ _ => trivial) (fun c s' customer hrely hread => ?_))
      (fun customer s hs => ?_)
    · have hcustomer : s'.customer = customer := Except.ok.inj hread
      exact ⟨readAt_stable i s s' hrely hnow,
        fun registered hfilter => isRegistered_of_filter (hcustomer ▸ hfilter)⟩
    · split
      next registered hfilter =>
        exact verifyRegisteredCustomerOtp_sound code (hs.2 registered hfilter) hs.1
      next =>
        refine Sound.bind (R := fun _ _ => True) (verifyRegistrationOtp_sound code hs.1)
          (fun session s _ => ?_)
        split
        next name _ => exact sound_unprepared (createOrActivateCustomer_unprepared name) s
        next => exact Sound.ret trivial

/-! ## Every interleaving -/

theorem outside_keeps {e : Event} {s s' : PhoneState} (h : Inv settings s)
    (hout : outside e s = some s') : Inv settings s' ∧ ∀ i, Others i s s' := by
  cases e with
  | elapse duration =>
    cases hout
    refine ⟨⟨h.placed.of_le (fun _ => le_refl _) rfl, ⟨h.counted.uncounted, h.counted.customer,
      h.counted.session⟩, h.limited, h.unlocked⟩, fun i => ⟨?_, id, fun _ hu _ => hu⟩⟩
    exact Int.le_add_of_nonneg_right (Int.natCast_nonneg duration)
  | expireSession =>
    unfold outside at hout
    dsimp only at hout
    split at hout
    · cases hout
      refine ⟨⟨h.placed.of_le (fun issue => ?_) rfl, h.counted.noSession, h.limited, h.unlocked⟩,
        fun i => ⟨le_refl _, id, fun _ hu _ => hu⟩⟩
      unfold uses
      dsimp only
      rw [map_none, Code.uses_none]
      omega
    · cases hout

theorem orderlyContract_lawful : (orderlyContract settings).Lawful where
  refl := Others.refl
  trans := fun _ _ _ _ => Others.trans
  idle := fun _ _ _ _ _ => trivial
  outside := fun _ _ _ h _ hout => outside_keeps h hout
  entry := by
    intro command i s _ _ _
    cases command with
    | issue name => exact sound_unprepared (issueCustomerOtp_unprepared name) s
    | verify code => exact verifyCustomerOtpCode_sound code s

/-- A number as it is found, with whatever account and session it has: their codes are the first two
issues. -/
def PhoneState.start (clock : Date) (customer : Option Customer)
    (session : Option RegistrationSession) : PhoneState where
  clock := clock
  customer := customer.map (fun customer =>
    { customer with otp := customer.otp.map (fun code => { code with issue := 0 }) })
  session := session.map (fun session => { session with otp := { session.otp with issue := 1 } })
  nextSession := session.elim 0 (fun session => session.id + 1)
  issued := 2

variable (settings) in
theorem inv_start (clock : Date) (customer : Option Customer)
    (session : Option RegistrationSession) :
    Inv settings (start clock customer session) where
  placed := by
    have hcustomer : ∀ issue, Code.uses ((start clock customer session).customer.bind
        Customer.otp) issue ≤ if issue = 0 then 1 else 0 := by
      intro issue
      cases customer with
      | none => exact zero_le _
      | some customer =>
        obtain ⟨name, isVerified, otp⟩ := customer
        cases otp with
        | none => exact zero_le _
        | some code => exact (Code.uses_some code.hash 0 issue).le
    have hsession : ∀ issue, Code.uses ((start clock customer session).session.map
        RegistrationSession.otp) issue ≤ if issue = 1 then 1 else 0 := by
      intro issue
      cases session with
      | none => exact zero_le _
      | some session => exact (Code.uses_some session.otp.hash 1 issue).le
    have huses : ∀ issue, (start clock customer session).uses issue
        ≤ (if issue = 0 then 1 else 0) + (if issue = 1 then 1 else 0) := by
      intro issue
      have hsum := Nat.add_le_add (hcustomer issue) (hsession issue)
      exact hsum
    constructor
    · intro issue
      have hle := huses issue
      split at hle
      · split at hle
        · omega
        · exact hle
      · split at hle
        · exact hle
        · exact hle.trans (zero_le 1)
    · intro issue hissue
      have hle := huses issue
      have htwo : 2 ≤ issue := hissue
      rw [if_neg (by omega), if_neg (by omega)] at hle
      exact le_zero.mp hle
  counted := Counted.of_none_wrong rfl
  limited := zero_le _
  unlocked := fun _ hmem => absurd hmem not_mem_nil

/-- The default limits, with the code itself for its hash. -/
def plain : Settings where
  hashOtp := id

/-- A code is sent to a registered customer. -/
def sendCode : List Act := .start (.issue none) :: replicate 6 (.run 0 {})

/-- A wrong code, and then the right one. -/
def guessOnce : List Act :=
  sendCode ++ .start (.verify "0000") :: replicate 5 (.run 1 {}) ++
    .start (.verify "1234") :: replicate 5 (.run 2 {})

/-- Two requests with the right code have both compared it before either saves. -/
def loginTwice : List Act :=
  sendCode ++ [.start (.verify "1234"), .start (.verify "1234")] ++
    replicate 4 (.run 1 {}) ++ replicate 4 (.run 2 {}) ++ [.run 1 {}, .run 2 {}]

end DiscountBazar.Auth
