/-
Login codes of one phone number (`otpAuthService.js`).

A registered customer keeps the code on the account, any other number in a pending registration
session. Both handlers load a document, decide on it and save it; a save writes the paths that were
changed since the document was loaded. A comparison is a step of its own: it touches no document,
and the history beside the documents remembers it.
-/
import DiscountBazar.Finance.Types
import DiscountBazar.Lib.Tasks

namespace DiscountBazar.Auth

open Tasks
open Prog (perform)

/-! ## Settings -/

structure Settings where
  otpExpiryMinutes : ℕ := 5
  otpResendCooldownSeconds : ℕ := 60
  otpMaxFailedAttempts : ℕ := 5
  otpLockoutMinutes : ℕ := 15
  /-- production, or `ENABLE_RATE_LIMIT_DEV` -/
  cooldown : Bool := true
  /-- `hashOtp` for the number -/
  hashOtp : String → String

def minutes (count : ℕ) : Date := count * 60 * 1000

/-! ## Documents -/

/-- A stored `otpHash`, with the number of the issue it is of, as history. -/
structure Code where
  hash : String
  issue : ℕ
  deriving DecidableEq

/-- A customer, as far as a login reads and writes it. -/
structure Customer where
  name : Option String := none
  isVerified : Bool := true
  otp : Option Code := none
  otpExpiresAt : Option Date := none
  otpFailedAttempts : ℕ := 0
  /-- missing (`undefined`), `null` or a date -/
  otpLockedUntil : Option (Option Date) := none
  otpLastSentAt : Option Date := none
  otpSessionVersion : ℕ := 0
  lastLogin : Option Date := none

def Customer.lockedUntil (customer : Customer) : Option Date := customer.otpLockedUntil.join

/-- An `OtpVerification` of a registration. -/
structure RegistrationSession where
  id : ℕ
  otp : Code
  expiresAt : Date
  failedAttempts : ℕ := 0
  lockedUntil : Option Date := none
  lastSentAt : Date
  /-- `metadata.name` -/
  name : Option String := none

/-- What a save leaves of a path: it is written where it was changed. -/
def written {α : Type} [DecidableEq α] (read new stored : α) : α :=
  if new = read then stored else new

/-- What a save leaves of a code that is issued: it is written where the hash was changed. -/
def writtenCode (read : Option Code) (new : Code) (stored : Option Code) : Option Code :=
  if read.map Code.hash = some new.hash ∧ stored.map Code.hash ≠ some new.hash then stored
  else some new

/-- The document a code was read from. -/
inductive Record where
  | customer
  | session (id : ℕ)
  deriving DecidableEq

/-- A wrong code that was compared and is not counted yet, with the failed attempts its request has
read. -/
structure Uncounted where
  task : ℕ
  record : Record
  read : ℕ
  deriving DecidableEq

/-- A code that was accepted, and whether the number was locked. -/
structure Accepted where
  issue : ℕ
  locked : Bool

/-- The documents of the number, and what has happened. -/
structure PhoneState where
  clock : Date
  customer : Option Customer
  session : Option RegistrationSession
  nextSession : ℕ
  issued : ℕ
  accepted : List Accepted := []
  /-- wrong codes compared since the last code was issued -/
  wrong : ℕ := 0
  uncounted : List Uncounted := []

namespace PhoneState

def isRegistered (s : PhoneState) : Bool := s.customer.any Customer.isVerified

/-- Until when the number is locked: registered customers keep the lock on the account, every other
number on the session. -/
def lockedUntil (s : PhoneState) : Option Date :=
  if s.isRegistered then s.customer.bind Customer.lockedUntil
  else s.session.bind RegistrationSession.lockedUntil

end PhoneState

/-- `lockedUntil && lockedUntil > now`. -/
def isLocked (lockedUntil : Option Date) (now : Date) : Bool :=
  lockedUntil.any (fun lockedUntil => decide (now < lockedUntil))

/-! ## Calls -/

inductive OtpError where
  /-- an error with this `statusCode` and text -/
  | status (statusCode : ℕ) (message : String)
  /-- `E11000` -/
  | duplicateKey
  /-- a save finds no document -/
  | documentNotFound
  | unavailable
  deriving DecidableEq

inductive Kind where
  /-- `incrementWindowCounter` -/
  | countRequest
  /-- `new Date()` -/
  | now
  | generateOtp
  /-- `Customer.findOne({ phone })` -/
  | findCustomer
  | findRegistrationSession
  /-- the save of a customer who was sent a code -/
  | issueToCustomer (read : Customer) (otp : String) (now : Date)
  | createSession (otp : String) (now : Date) (name : Option String)
  | issueToSession (read : RegistrationSession) (otp : String) (now : Date) (name : Option String)
  | dispatchOtp
  /-- `otpMatches` -/
  | compare (record : Record) (failedAttempts : ℕ) (stored : Code) (code : String)
  | saveFailedCustomer (read : Customer) (now : Date)
  | saveFailedSession (read : RegistrationSession) (now : Date)
  /-- the save of a customer who has logged in -/
  | saveLogin (read : Customer) (now : Date)
  /-- `findOneAndDelete` by id and hash -/
  | consumeSession (read : RegistrationSession)
  /-- the save of `createOrActivateCustomer` -/
  | saveActivated (read : Customer) (name : String) (now : Date)
  | createCustomer (name : String) (now : Date)

@[reducible] def Kind.Reply : Kind → Type
  | .countRequest | .compare _ _ _ _ | .consumeSession _ => Bool
  | .now => Date
  | .generateOtp => String
  | .findCustomer => Option Customer
  | .findRegistrationSession => Option RegistrationSession
  | _ => Unit

/-- How a call goes, whether the window allows the request, and the code that is drawn. -/
structure Choice where
  outcome : Outcome OtpError := .done
  allowed : Bool := true
  otp : String := "1234"

variable (settings : Settings)

/-- The customer that `issueCustomerOtp` saves. -/
def issuedCustomer (read : Customer) (code : Code) (now : Date) (stored : Customer) : Customer :=
  { stored with
    otp := writtenCode read.otp code stored.otp
    otpExpiresAt :=
      written read.otpExpiresAt (some (now + minutes settings.otpExpiryMinutes)) stored.otpExpiresAt
    otpFailedAttempts := written read.otpFailedAttempts 0 stored.otpFailedAttempts
    otpLockedUntil := written read.otpLockedUntil (some none) stored.otpLockedUntil
    otpLastSentAt := written read.otpLastSentAt (some now) stored.otpLastSentAt
    otpSessionVersion := read.otpSessionVersion + 1 }

/-- The session that `issueCustomerOtp` saves, where there was one. -/
def issuedSession (read : RegistrationSession) (code : Code) (now : Date) (name : Option String)
    (stored : RegistrationSession) : RegistrationSession :=
  { stored with
    otp := (writtenCode (some read.otp) code (some stored.otp)).getD stored.otp
    expiresAt := written read.expiresAt (now + minutes settings.otpExpiryMinutes) stored.expiresAt
    failedAttempts := written read.failedAttempts 0 stored.failedAttempts
    lockedUntil := written read.lockedUntil none stored.lockedUntil
    lastSentAt := written read.lastSentAt now stored.lastSentAt
    name := written read.name name stored.name }

/-- The lock that a wrong code sets where the failed attempts have reached the limit. -/
def lockAfter (failedAttempts : ℕ) (now : Date) : Option Date :=
  if settings.otpMaxFailedAttempts ≤ failedAttempts then
    some (now + minutes settings.otpLockoutMinutes)
  else none

/-- The customer that is saved after a wrong code. -/
def failedCustomer (read : Customer) (now : Date) (stored : Customer) : Customer :=
  { stored with
    otpFailedAttempts := read.otpFailedAttempts + 1
    otpLockedUntil :=
      match lockAfter settings (read.otpFailedAttempts + 1) now with
      | some lockedUntil =>
        written read.otpLockedUntil (some (some lockedUntil)) stored.otpLockedUntil
      | none => stored.otpLockedUntil }

/-- The session that is saved after a wrong code; one that is locked is kept until the lock ends. -/
def failedSession (read : RegistrationSession) (now : Date) (stored : RegistrationSession) :
    RegistrationSession :=
  match lockAfter settings (read.failedAttempts + 1) now with
  | some lockedUntil =>
    { stored with
      failedAttempts := read.failedAttempts + 1
      lockedUntil := written read.lockedUntil (some lockedUntil) stored.lockedUntil
      expiresAt := written read.expiresAt (max read.expiresAt lockedUntil) stored.expiresAt }
  | none => { stored with failedAttempts := read.failedAttempts + 1 }

def loggedInCustomer (read : Customer) (now : Date) (stored : Customer) : Customer :=
  { stored with
    otp := written read.otp none stored.otp
    otpExpiresAt := written read.otpExpiresAt none stored.otpExpiresAt
    otpFailedAttempts := written read.otpFailedAttempts 0 stored.otpFailedAttempts
    otpLockedUntil := written read.otpLockedUntil none stored.otpLockedUntil
    otpSessionVersion := read.otpSessionVersion + 1
    lastLogin := written read.lastLogin (some now) stored.lastLogin }

/-- The customer that `createOrActivateCustomer` saves. -/
def activatedCustomer (read : Customer) (name : String) (now : Date) (stored : Customer) :
    Customer :=
  if read.isVerified then
    { stored with lastLogin := written read.lastLogin (some now) stored.lastLogin }
  else
    { stored with
      name := written read.name (some name) stored.name
      isVerified := true
      lastLogin := written read.lastLogin (some now) stored.lastLogin }

/-- The code that a request which has read `read` is accepted with. -/
def acceptance (s : PhoneState) (code : Code) : Accepted :=
  ⟨code.issue, isLocked s.lockedUntil s.clock⟩

/-- What a call of a task answers and leaves where it is done. -/
def effect (task : ℕ) (c : Choice) (s : PhoneState) :
    (kind : Kind) → Except OtpError kind.Reply × PhoneState
  | .countRequest => (.ok c.allowed, s)
  | .now => (.ok s.clock, s)
  | .generateOtp => (.ok c.otp, s)
  | .findCustomer => (.ok s.customer, s)
  | .findRegistrationSession => (.ok s.session, s)
  | .issueToCustomer read otp now =>
    match s.customer with
    | some stored =>
      let code : Code := ⟨settings.hashOtp otp, s.issued⟩
      (.ok (),
        { s with
          customer := some (issuedCustomer settings read code now stored)
          issued := s.issued + 1
          wrong := 0 })
    | none => (.error .documentNotFound, s)
  | .createSession otp now name =>
    match s.session with
    | some _ => (.error .duplicateKey, s)
    | none =>
      (.ok (),
        { s with
          session := some
            { id := s.nextSession
              otp := ⟨settings.hashOtp otp, s.issued⟩
              expiresAt := now + minutes settings.otpExpiryMinutes
              lastSentAt := now
              name := name }
          nextSession := s.nextSession + 1
          issued := s.issued + 1
          wrong := 0 })
  | .issueToSession read otp now name =>
    match s.session.filter (fun stored => decide (stored.id = read.id)) with
    | some stored =>
      let code : Code := ⟨settings.hashOtp otp, s.issued⟩
      (.ok (),
        { s with
          session := some (issuedSession settings read code now name stored)
          issued := s.issued + 1
          wrong := 0 })
    | none => (.error .documentNotFound, s)
  | .dispatchOtp => (.ok (), s)
  | .compare record failedAttempts stored code =>
    if settings.hashOtp code = stored.hash then (.ok true, s)
    else
      (.ok false,
        { s with
          wrong := s.wrong + 1
          uncounted := s.uncounted ++ [⟨task, record, failedAttempts⟩] })
  | .saveFailedCustomer read now =>
    let uncounted := s.uncounted.filter (· ≠ ⟨task, .customer, read.otpFailedAttempts⟩)
    match s.customer with
    | some stored =>
      (.ok (), { s with customer := some (failedCustomer settings read now stored), uncounted })
    | none => (.error .documentNotFound, { s with uncounted })
  | .saveFailedSession read now =>
    let uncounted := s.uncounted.filter (· ≠ ⟨task, .session read.id, read.failedAttempts⟩)
    match s.session.filter (fun stored => decide (stored.id = read.id)) with
    | some stored =>
      (.ok (), { s with session := some (failedSession settings read now stored), uncounted })
    | none => (.error .documentNotFound, { s with uncounted })
  | .saveLogin read now =>
    match s.customer with
    | some stored =>
      (.ok (),
        { s with
          customer := some (loggedInCustomer read now stored)
          accepted := s.accepted ++ (read.otp.map (acceptance s)).toList })
    | none => (.error .documentNotFound, s)
  | .consumeSession read =>
    match s.session with
    | some stored =>
      if stored.id = read.id ∧ stored.otp.hash = read.otp.hash then
        (.ok true,
          { s with session := none, accepted := s.accepted ++ [acceptance s stored.otp] })
      else (.ok false, s)
    | none => (.ok false, s)
  | .saveActivated read name now =>
    match s.customer with
    | some stored =>
      (.ok (), { s with customer := some (activatedCustomer read name now stored) })
    | none => (.error .documentNotFound, s)
  | .createCustomer name now =>
    match s.customer with
    | some _ => (.error .duplicateKey, s)
    | none => (.ok (), { s with customer := some { name := some name, lastLogin := some now } })

def performOp (task : ℕ) (kind : Kind) (c : Choice) (s : PhoneState) :
    Option (Except OtpError kind.Reply × PhoneState) :=
  some (c.outcome.perform (effect settings task c s kind) s)

/-! ## The handlers -/

abbrev M := Prog Kind Kind.Reply OtpError

def assertNotLocked (lockedUntil : Option Date) (now : Date) (message : String) : M Unit :=
  if isLocked lockedUntil now then .throw (.status 423 message) else pure ()

def assertResendCooldown (lastSentAt : Option Date) (now : Date) : M Unit :=
  match lastSentAt with
  | none => pure ()
  | some lastSentAt =>
    let elapsed := now - lastSentAt
    let cooldown : Date := settings.otpResendCooldownSeconds * 1000
    if settings.cooldown ∧ elapsed < cooldown then
      .throw (.status 429
        ("Please wait " ++ toString ⌈((cooldown - elapsed : ℤ) : ℚ) / 1000⌉ ++
          "s before requesting another OTP"))
    else pure ()

def invalidOtpError (statusCode : ℕ) : OtpError := .status statusCode "Invalid or expired OTP"

/-- `issueCustomerOtp`, for a registered customer. -/
def issueRegistered (customer : Customer) (now : Date) : M Unit := do
  assertNotLocked customer.lockedUntil now
    "OTP verification is temporarily locked for this number"
  assertResendCooldown settings customer.otpLastSentAt now
  let otp ← perform Kind.generateOtp
  perform (Kind.issueToCustomer customer otp now)

/-- A parallel request that has created the session first. -/
def resolveDuplicate (e : OtpError) : M Unit :=
  if e = .duplicateKey then .throw (.status 429 "Please wait before requesting another OTP")
  else .throw e

/-- `issueCustomerOtp`, for any other number. -/
def issueRegistration (now : Date) (name : Option String) : M Unit := do
  let session ← perform Kind.findRegistrationSession
  assertNotLocked (session.bind RegistrationSession.lockedUntil) now
    "OTP verification is temporarily locked for this number"
  assertResendCooldown settings (session.map RegistrationSession.lastSentAt) now
  let otp ← perform Kind.generateOtp
  match session with
  | none => (perform (Kind.createSession otp now name)).tryCatch resolveDuplicate
  | some session =>
    (perform (Kind.issueToSession session otp now name)).tryCatch resolveDuplicate

/-- `issueCustomerOtp`; `name` is the one a sign-up sends. -/
def issueCustomerOtp (name : Option String) : M Unit := do
  let now ← perform Kind.now
  let sendAllowed ← perform Kind.countRequest
  if sendAllowed = false then .throw (.status 429 "Too many OTP requests. Try again later.")
  else do
    let customer ← perform Kind.findCustomer
    match customer.filter Customer.isVerified with
    | some customer => issueRegistered settings customer now
    | none => issueRegistration settings now name
    perform Kind.dispatchOtp

/-- `verifyRegisteredCustomerOtp`, once the code is compared. -/
def finishLogin (customer : Customer) (now : Date) (otpMatches : Bool) : M Unit := do
  if otpMatches then perform (Kind.saveLogin customer now)
  else do
    perform (Kind.saveFailedCustomer customer now)
    let lock := lockAfter settings (customer.otpFailedAttempts + 1) now
    let locked := lock.isSome || customer.lockedUntil.isSome
    .throw (invalidOtpError (if locked then 423 else 400))

def verifyRegisteredCustomerOtp (customer : Customer) (code : String) (now : Date) : M Unit := do
  assertNotLocked customer.lockedUntil now "Too many failed attempts. Please try again later."
  match customer.otp, customer.otpExpiresAt with
  | some otp, some otpExpiresAt =>
    if otpExpiresAt ≤ now then .throw (invalidOtpError 400)
    else do
      let otpMatches ←
        perform (Kind.compare .customer customer.otpFailedAttempts otp code)
      finishLogin settings customer now otpMatches
  | _, _ => .throw (invalidOtpError 400)

/-- `verifyRegistrationOtp`, once the code is compared. -/
def finishRegistration (session : RegistrationSession) (now : Date) (otpMatches : Bool) :
    M RegistrationSession := do
  if otpMatches then do
    let consumed ← perform (Kind.consumeSession session)
    if consumed then pure session else .throw (invalidOtpError 400)
  else do
    perform (Kind.saveFailedSession session now)
    let lock := lockAfter settings (session.failedAttempts + 1) now
    let locked := lock.isSome || session.lockedUntil.isSome
    .throw (invalidOtpError (if locked then 423 else 400))

def verifyRegistrationOtp (code : String) (now : Date) : M RegistrationSession := do
  let session ← perform Kind.findRegistrationSession
  match session with
  | none => .throw (invalidOtpError 400)
  | some session => do
      assertNotLocked session.lockedUntil now "Too many failed attempts. Please try again later."
      if session.expiresAt ≤ now then .throw (invalidOtpError 400)
      else do
        let otpMatches ←
          perform (Kind.compare (.session session.id) session.failedAttempts session.otp code)
        finishRegistration settings session now otpMatches

/-- The account that a parallel request has created is there. -/
def findWinner (e : OtpError) : M Unit :=
  if e = .duplicateKey then do
    let winner ← perform Kind.findCustomer
    if winner.isNone then .throw e else pure ()
  else .throw e

def createOrActivateCustomer (name : String) : M Unit := do
  let now ← perform Kind.now
  let existing ← perform Kind.findCustomer
  match existing with
  | some existing => perform (Kind.saveActivated existing name now)
  | none => (perform (Kind.createCustomer name now)).tryCatch findWinner

/-- `/^\d{4,8}$/`. -/
def isOtpFormat (code : String) : Bool :=
  code.toList.all Char.isDigit && decide (4 ≤ code.toList.length) && decide (code.toList.length ≤ 8)

/-- `verifyCustomerOtpCode`; `code` is trimmed. -/
def verifyCustomerOtpCode (code : String) : M Unit := do
  if isOtpFormat code = false then .throw (.status 400 "Invalid OTP format")
  else do
    let verifyAllowed ← perform Kind.countRequest
    if verifyAllowed = false then
      .throw (.status 429 "Too many OTP verification attempts. Try again later.")
    else do
      let now ← perform Kind.now
      let customer ← perform Kind.findCustomer
      match customer.filter Customer.isVerified with
      | some customer => verifyRegisteredCustomerOtp settings customer code now
      | none => do
          let session ← verifyRegistrationOtp settings code now
          match session.name with
          | some name => createOrActivateCustomer name
          | none => pure ()

inductive Command where
  | issue (name : Option String)
  | verify (code : String)

def Command.program : Command → M Unit
  | .issue name => issueCustomerOtp settings name
  | .verify code => verifyCustomerOtpCode settings code

/-- Time passes, and the index on `expiresAt` takes away a session that is over. -/
inductive Event where
  | elapse (duration : ℕ)
  | expireSession

def outside : Event → PhoneState → Option PhoneState
  | .elapse duration, s => some { s with clock := s.clock + duration }
  | .expireSession, s =>
    if s.session.any (fun session => decide (session.expiresAt ≤ s.clock)) then
      some { s with session := none }
    else none

/-- Any number of requests for the number. -/
def otpSystem : System Kind Kind.Reply OtpError PhoneState Choice Event Command where
  perform := performOp settings
  outside := outside
  entry := Command.program settings
  mayStart := fun _ _ => true

abbrev Act := Action Choice Event Command

end DiscountBazar.Auth
