/-
Password resets of one seller contact (`sellerVerificationService.js`, `resetSellerPassword`).

A code is kept in a session for the contact; who sends it back gets a signed token, and with the
token and a verified session the password can be set, which takes the session away. The token is
not kept anywhere, so what the session has become since is not in it. Sessions are loaded, changed
and saved: a save writes the paths that were changed since the session was loaded.
-/
import DiscountBazar.Auth.CustomerOtp

namespace DiscountBazar.Sellers

open Tasks
open Prog (perform)
open Auth (Code OtpError written writtenCode minutes invalidOtpError)

/-! ## Documents -/

/-- The environment; the hash of a code is the one for a reset of this contact. -/
structure ResetSettings where
  otpExpiryMinutes : ℕ := 5
  otpResendCooldownSeconds : ℕ := 60
  otpMaxFailedAttempts : ℕ := 5
  tokenExpiryMinutes : ℕ := 120
  hashOtp : String → String
  /-- `bcrypt` -/
  hashPassword : String → String

/-- An `OtpVerification` of a reset. -/
structure ResetSession where
  id : ℕ
  otp : Code
  expiresAt : Date
  verifiedAt : Option Date := none
  failedAttempts : ℕ := 0
  lastSentAt : Date
  deriving DecidableEq

/-- A signed verification token, with the issue of the code it was given for, as history. -/
structure Token where
  issue : ℕ
  expiresAt : Date

/-- A reset: the issue its token was given for, and the one its session holds. -/
structure Reset where
  token : ℕ
  session : ℕ
  deriving DecidableEq

/-- A wrong code that was compared and is not counted yet, with the failed attempts its request has
read. -/
structure Uncounted where
  task : ℕ
  session : ℕ
  read : ℕ
  deriving DecidableEq

/-- The seller's password, if there is a seller with the contact, the session of the contact, and
what has happened. -/
structure ContactState where
  clock : Date
  password : Option String
  session : Option ResetSession
  nextSession : ℕ
  issued : ℕ
  tokens : List Token := []
  /-- the issue that each wrong code was compared with -/
  wrongs : List ℕ := []
  uncounted : List Uncounted := []
  /-- resets that have consumed their session and not changed the password, with their tasks -/
  consumed : List (ℕ × Reset) := []
  /-- resets that have changed the password -/
  changes : List Reset := []

/-! ## Calls -/

inductive ResetKind where
  /-- `Seller.findOne` by the contact -/
  | findSeller
  /-- `incrementWindowCounter` -/
  | countRequest
  /-- `new Date()` -/
  | now
  /-- `OtpVerification.findOne` of the contact -/
  | findSession
  /-- `generateSellerOtp` -/
  | generateOtp
  | createSession (otp : String) (now : Date)
  | saveIssued (read : ResetSession) (otp : String) (now : Date)
  | dispatchOtp
  /-- the hash of the code against the one that was read -/
  | compare (read : ResetSession) (code : String)
  | saveFailed (read : ResetSession)
  | deleteSession (id : ℕ)
  | saveVerified (read : ResetSession) (now : Date)
  /-- `signVerificationToken`, for a session that was verified -/
  | signToken (read : ResetSession)
  /-- `jwt.verify` and the payload check; tokens are numbered as they were signed -/
  | verifyToken (token : ℕ)
  /-- `consumeSellerResetVerification` -/
  | consumeSession (token : Token)
  | savePassword (reset : Reset) (newPassword : String)

@[reducible] def ResetKind.Reply : ResetKind → Type
  | .findSeller | .countRequest | .compare _ _ => Bool
  | .now => Date
  | .generateOtp => String
  | .findSession | .consumeSession _ => Option ResetSession
  | .verifyToken _ => Option Token
  | _ => Unit

/-- How a call goes, whether the window allows the request, and the code that is drawn. -/
structure ResetChoice where
  outcome : Outcome OtpError := .done
  allowed : Bool := true
  otp : String := "1234"

variable (settings : ResetSettings)

/-- The session that `issueSellerResetOtp` saves, where there was one. -/
def issuedSession (read : ResetSession) (code : Code) (now : Date) (stored : ResetSession) :
    ResetSession :=
  { stored with
    otp := (writtenCode (some read.otp) code (some stored.otp)).getD stored.otp
    expiresAt := written read.expiresAt (now + minutes settings.otpExpiryMinutes) stored.expiresAt
    verifiedAt := written read.verifiedAt none stored.verifiedAt
    failedAttempts := written read.failedAttempts 0 stored.failedAttempts
    lastSentAt := written read.lastSentAt now stored.lastSentAt }

/-- The session that is saved after the right code. -/
def verifiedSession (read : ResetSession) (now : Date) (stored : ResetSession) : ResetSession :=
  { stored with
    verifiedAt := written read.verifiedAt (some now) stored.verifiedAt
    failedAttempts := written read.failedAttempts 0 stored.failedAttempts }

/-- The session, if it is still the one that was read. -/
def ContactState.sessionOf (s : ContactState) (id : ℕ) : Option ResetSession :=
  s.session.filter (fun stored => decide (stored.id = id))

/-- What a call of a task answers and leaves where it is done. -/
def resetEffect (task : ℕ) (c : ResetChoice) (s : ContactState) :
    (kind : ResetKind) → Except OtpError kind.Reply × ContactState
  | .findSeller => (.ok s.password.isSome, s)
  | .countRequest => (.ok c.allowed, s)
  | .now => (.ok s.clock, s)
  | .findSession => (.ok s.session, s)
  | .generateOtp => (.ok c.otp, s)
  | .createSession otp now =>
    match s.session with
    | some _ => (.error .duplicateKey, s)
    | none =>
      (.ok (),
        { s with
          session := some
            { id := s.nextSession
              otp := ⟨settings.hashOtp otp, s.issued⟩
              expiresAt := now + minutes settings.otpExpiryMinutes
              lastSentAt := now }
          nextSession := s.nextSession + 1
          issued := s.issued + 1 })
  | .saveIssued read otp now =>
    match s.sessionOf read.id with
    | some stored =>
      (.ok (),
        { s with
          session := some
            (issuedSession settings read ⟨settings.hashOtp otp, s.issued⟩ now stored)
          issued := s.issued + 1 })
    | none => (.error .documentNotFound, s)
  | .dispatchOtp => (.ok (), s)
  | .compare read code =>
    if settings.hashOtp code = read.otp.hash then (.ok true, s)
    else
      (.ok false,
        { s with
          wrongs := read.otp.issue :: s.wrongs
          uncounted := ⟨task, read.id, read.failedAttempts⟩ :: s.uncounted })
  | .saveFailed read =>
    let uncounted := s.uncounted.filter (· ≠ ⟨task, read.id, read.failedAttempts⟩)
    match s.sessionOf read.id with
    | some stored =>
      (.ok (),
        { s with
          session := some { stored with failedAttempts := read.failedAttempts + 1 }
          uncounted })
    | none => (.error .documentNotFound, { s with uncounted })
  | .deleteSession id =>
    match s.sessionOf id with
    | some _ => (.ok (), { s with session := none })
    | none => (.ok (), s)
  | .saveVerified read now =>
    match s.sessionOf read.id with
    | some stored => (.ok (), { s with session := some (verifiedSession read now stored) })
    | none => (.error .documentNotFound, s)
  | .signToken read =>
    let token : Token := ⟨read.otp.issue, s.clock + minutes settings.tokenExpiryMinutes⟩
    (.ok (), { s with tokens := s.tokens ++ [token] })
  | .verifyToken token =>
    (.ok (s.tokens[token]?.filter (fun token => decide (s.clock < token.expiresAt))), s)
  | .consumeSession token =>
    match s.session.filter (fun stored => stored.verifiedAt.isSome) with
    | some stored =>
      (.ok (some stored),
        { s with
          session := none
          consumed := (task, ⟨token.issue, stored.otp.issue⟩) :: s.consumed })
    | none => (.ok none, s)
  | .savePassword reset newPassword =>
    match s.password with
    | some _ =>
      (.ok (),
        { s with
          password := some (settings.hashPassword newPassword)
          consumed := s.consumed.erase (task, reset)
          changes := s.changes ++ [reset] })
    | none => (.error .documentNotFound, s)

def resetPerform (task : ℕ) (kind : ResetKind) (c : ResetChoice) (s : ContactState) :
    Option (Except OtpError kind.Reply × ContactState) :=
  some (c.outcome.perform (resetEffect settings task c s kind) s)

/-! ## The handlers -/

abbrev ResetM := Prog ResetKind ResetKind.Reply OtpError

/-- The wait for another code. -/
def assertCooldown (session : Option ResetSession) (now : Date) : ResetM Unit :=
  match session with
  | none => pure ()
  | some session =>
    let elapsed := now - session.lastSentAt
    let cooldown : Date := settings.otpResendCooldownSeconds * 1000
    if elapsed < cooldown then
      .throw (.status 429
        ("Please wait " ++ toString ⌈((cooldown - elapsed : ℤ) : ℚ) / 1000⌉ ++
          "s before requesting another OTP"))
    else pure ()

/-- The save of `issueSellerResetOtp`. -/
def saveIssue (session : Option ResetSession) (otp : String) (now : Date) : ResetM Unit :=
  match session with
  | none => perform (ResetKind.createSession otp now)
  | some session => perform (ResetKind.saveIssued session otp now)

/-- `issueSellerResetOtp`; `missing` is the text for a contact no seller has. -/
def issueSellerResetOtp (missing : String) : ResetM Unit := do
  let found ← perform ResetKind.findSeller
  if found = false then .throw (.status 404 missing)
  else do
    let sendAllowed ← perform ResetKind.countRequest
    if sendAllowed = false then
      .throw (.status 429 "Too many OTP requests. Please try again later.")
    else do
      let now ← perform ResetKind.now
      let session ← perform ResetKind.findSession
      assertCooldown settings session now
      let otp ← perform ResetKind.generateOtp
      saveIssue session otp now
      perform ResetKind.dispatchOtp

/-- `verifySellerResetOtpCode`, after a wrong code. -/
def countFailure (session : ResetSession) : ResetM Unit := do
  perform (ResetKind.saveFailed session)
  if settings.otpMaxFailedAttempts ≤ session.failedAttempts + 1 then do
    perform (ResetKind.deleteSession session.id)
    .throw (invalidOtpError 400)
  else .throw (invalidOtpError 400)

/-- `verifySellerResetOtpCode`, after the right code. -/
def acceptCode (session : ResetSession) : ResetM Unit := do
  let now ← perform ResetKind.now
  perform (ResetKind.saveVerified session now)
  perform (ResetKind.signToken session)

/-- `/^\d{4}$/`. -/
def isResetOtp (code : String) : Bool :=
  code.toList.all Char.isDigit && decide (code.toList.length = 4)

/-- `verifySellerResetOtpCode`; `code` is trimmed. -/
def verifySellerResetOtpCode (code : String) : ResetM Unit := do
  if isResetOtp code = false then .throw (.status 400 "Please enter a valid OTP")
  else do
    let verifyAllowed ← perform ResetKind.countRequest
    if verifyAllowed = false then
      .throw (.status 429 "Too many verification attempts. Please try again later.")
    else do
      let session ← perform ResetKind.findSession
      let now ← perform ResetKind.now
      match session.filter (fun session => decide (now < session.expiresAt)) with
      | none => .throw (invalidOtpError 400)
      | some session => do
          let isValid ← perform (ResetKind.compare session code)
          if isValid then acceptCode session else countFailure settings session

/-- `resetSellerPassword`, with a token that is good. -/
def changePassword (token : Token) (newPassword : String) : ResetM Unit := do
  let found ← perform ResetKind.findSeller
  if found = false then .throw (.status 404 "Seller not found")
  else do
    let consumed ← perform (ResetKind.consumeSession token)
    match consumed with
    | none =>
      .throw (.status 400 ("This reset request has already been used or has expired. " ++
        "Please request a new OTP."))
    | some session =>
      perform (ResetKind.savePassword ⟨token.issue, session.otp.issue⟩ newPassword)

def resetSellerPassword (token : ℕ) (newPassword : String) : ResetM Unit := do
  if newPassword.length < 8 then
    .throw (.status 400 "Password must be at least 8 characters long")
  else do
    let verified ← perform (ResetKind.verifyToken token)
    match verified with
    | none => .throw (.status 400 "Verification expired. Please verify again.")
    | some token => changePassword token newPassword

inductive ResetCommand where
  | issue (missing : String)
  | verify (code : String)
  | reset (token : ℕ) (newPassword : String)

def ResetCommand.program : ResetCommand → ResetM Unit
  | .issue missing => issueSellerResetOtp settings missing
  | .verify code => verifySellerResetOtpCode settings code
  | .reset token newPassword => resetSellerPassword token newPassword

/-- Time passes, the index on `expiresAt` takes away a session that is over, and sellers with the
contact come and go. -/
inductive ResetEvent where
  | elapse (duration : ℕ)
  | expireSession
  | setSeller (password : Option String)

def resetOutside : ResetEvent → ContactState → Option ContactState
  | .elapse duration, s => some { s with clock := s.clock + duration }
  | .expireSession, s =>
    if s.session.any (fun session => decide (session.expiresAt ≤ s.clock)) then
      some { s with session := none }
    else none
  | .setSeller password, s => some { s with password }

def resetSystem : System ResetKind ResetKind.Reply OtpError ContactState ResetChoice ResetEvent
    ResetCommand where
  perform := resetPerform settings
  outside := resetOutside
  entry := ResetCommand.program settings
  mayStart := fun _ _ => true

abbrev ResetAct := Action ResetChoice ResetEvent ResetCommand

def ContactState.start (clock : Date) (password : Option String) : ContactState :=
  { clock, password, session := none, nextSession := 0, issued := 0 }

end DiscountBazar.Sellers
