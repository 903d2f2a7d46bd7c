/-
The public endpoints of sellers (`sellerAuthController.js`, `sellerVerificationService.js`).

Nine endpoints over three collections: sellers, verification sessions by purpose, channel and target,
and the tokens that were signed. What a request presents is a token it was given before, by its
number, or a string; what it is answered with is kept as history.
-/
import DiscountBazar.Sellers.Contacts
import DiscountBazar.Sellers.ResetOtp

namespace DiscountBazar.Sellers

open Tasks
open Prog (perform)
open Auth (OtpError minutes invalidOtpError)

/-! ## Documents -/

inductive Purpose where
  | sellerSignup
  | sellerReset
  deriving DecidableEq

inductive Channel where
  | email
  | phone
  deriving DecidableEq

/-- What a verification session is for. -/
structure Key where
  purpose : Purpose
  channel : Channel
  target : String
  deriving DecidableEq

inductive ApplicationStatus where
  | pending
  | approved
  | rejected
  deriving DecidableEq

/-- A seller, with the strings it signed up with and the targets whose tokens it brought, as
history. -/
structure Seller where
  id : ObjectId
  email : String
  phone : String
  password : String
  applicationStatus : ApplicationStatus := .pending
  isVerified : Bool := false
  isActive : Bool := false
  givenEmail : String
  givenPhone : String
  verifiedEmail : String
  verifiedPhone : String
  deriving DecidableEq

structure SignedToken where
  key : Key
  expiresAt : Date

/-- The environment, and what the libraries compute. -/
structure EndpointSettings where
  letters : LowerCase
  otpExpiryMinutes : ℕ := 5
  otpResendCooldownSeconds : ℕ := 60
  otpMaxFailedAttempts : ℕ := 5
  tokenExpiryMinutes : ℕ := 120
  hashOtp : Key → String → String
  hashPassword : String → String
  /-- `bcrypt.compare` with a stored hash -/
  passwordMatches : String → String → Bool

def EndpointSettings.reset (settings : EndpointSettings) (key : Key) : ResetSettings where
  otpExpiryMinutes := settings.otpExpiryMinutes
  otpResendCooldownSeconds := settings.otpResendCooldownSeconds
  otpMaxFailedAttempts := settings.otpMaxFailedAttempts
  tokenExpiryMinutes := settings.tokenExpiryMinutes
  hashOtp := settings.hashOtp key
  hashPassword := settings.hashPassword

/-- The collections, the verification tokens and the ids of the JWTs that were answered. -/
structure Directory where
  clock : Date
  sellers : List Seller := []
  nextSeller : ObjectId
  sessions : Key → Option ResetSession := fun _ => none
  nextSession : ℕ := 0
  tokens : List SignedToken := []
  jwts : List ObjectId := []

/-! ## Calls -/

/-- A condition of a `findOne`. -/
structure Lookup where
  channel : Channel
  value : String

inductive Call where
  /-- `Seller.findOne({ $or: lookups })` -/
  | findSeller (lookups : List Lookup)
  /-- `findById(req.user?.id || req.query.sellerId)` -/
  | findById (user queried : Option ObjectId)
  | countRequest
  | now
  | findSession (key : Key)
  | generateOtp
  | createSession (key : Key) (otp : String) (now : Date)
  | saveIssued (key : Key) (read : ResetSession) (otp : String) (now : Date)
  | dispatchOtp
  /-- the hash of the code against the one that was read -/
  | compareOtp (key : Key) (read : ResetSession) (code : String)
  | saveFailed (key : Key) (read : ResetSession)
  | deleteSession (key : Key) (id : ℕ)
  | saveVerified (key : Key) (read : ResetSession) (now : Date)
  | signToken (key : Key)
  /-- `jwt.verify` of a verification token -/
  | verifyToken (token : ℕ)
  | consumeSession (key : Key)
  /-- coordinates, documents: what else a sign-up is refused for -/
  | checkApplication
  | createSeller (email phone password : String) (emailToken phoneToken : SignedToken)
  | comparePassword (seller : Seller) (password : String)
  /-- the save of `lastLogin` -/
  | saveLogin (id : ObjectId)
  | savePassword (id : ObjectId) (newPassword : String)
  /-- `optionalVerifyToken` -/
  | readJwt (jwt : ℕ)
  /-- `generateToken`; its JWT is in the response -/
  | generateToken (id : ObjectId)

@[reducible] def Call.Reply : Call → Type
  | .findSeller _ | .findById _ _ => Option Seller
  | .countRequest | .compareOtp _ _ _ | .consumeSession _ | .comparePassword _ _ => Bool
  | .now => Date
  | .generateOtp => String
  | .findSession _ => Option ResetSession
  | .verifyToken _ => Option SignedToken
  | .createSeller _ _ _ _ _ => ObjectId
  | .readJwt _ => Option ObjectId
  | _ => Unit

variable (settings : EndpointSettings)

/-- A stored seller meets a condition; an email address is looked up as the schema casts it. -/
def Lookup.finds (lookup : Lookup) (seller : Seller) : Bool :=
  match lookup.channel with
  | .email => decide (seller.email = castEmail settings.letters lookup.value)
  | .phone => decide (seller.phone = lookup.value)

/-- The first seller that meets one of the conditions. -/
def Directory.findOne (s : Directory) (lookups : List Lookup) : Option Seller :=
  s.sellers.find? (fun seller => lookups.any (fun lookup => lookup.finds settings seller))

/-- A document that a sign-up creates. -/
def newSeller (s : Directory) (email phone password : String) (emailToken phoneToken : SignedToken) :
    Seller where
  id := s.nextSeller
  email := castEmail settings.letters email
  phone := phone
  password := settings.hashPassword password
  givenEmail := email
  givenPhone := phone
  verifiedEmail := emailToken.key.target
  verifiedPhone := phoneToken.key.target

/-- The unique indexes of the collection. -/
def Directory.isTaken (s : Directory) (seller : Seller) : Bool :=
  s.sellers.any (fun other => decide (other.email = seller.email ∨ other.phone = seller.phone))

def Directory.sessionOf (s : Directory) (key : Key) (id : ℕ) : Option ResetSession :=
  (s.sessions key).filter (fun stored => decide (stored.id = id))

def Directory.setSession (s : Directory) (key : Key) (session : Option ResetSession) : Directory :=
  { s with sessions := Function.update s.sessions key session }

/-- What a call answers and leaves where it is done. -/
def callEffect (c : ResetChoice) (s : Directory) : (call : Call) → Except OtpError call.Reply × Directory
  | .findSeller lookups => (.ok (s.findOne settings lookups), s)
  | .findById user queried =>
    (.ok ((user.or queried).bind (fun id => s.sellers.find? (fun x => decide (x.id = id)))), s)
  | .countRequest => (.ok c.allowed, s)
  | .now => (.ok s.clock, s)
  | .findSession key => (.ok (s.sessions key), s)
  | .generateOtp => (.ok c.otp, s)
  | .createSession key otp now =>
    match s.sessions key with
    | some _ => (.error .duplicateKey, s)
    | none =>
      let session : ResetSession :=
        { id := s.nextSession
          otp := ⟨settings.hashOtp key otp, s.nextSession⟩
          expiresAt := now + minutes settings.otpExpiryMinutes
          lastSentAt := now }
      (.ok (), { s.setSession key (some session) with nextSession := s.nextSession + 1 })
  | .saveIssued key read otp now =>
    match s.sessionOf key read.id with
    | some stored =>
      let code := ⟨settings.hashOtp key otp, s.nextSession⟩
      let session := issuedSession (settings.reset key) read code now stored
      (.ok (), { s.setSession key (some session) with nextSession := s.nextSession + 1 })
    | none => (.error .documentNotFound, s)
  | .dispatchOtp => (.ok (), s)
  | .compareOtp key read code => (.ok (decide (settings.hashOtp key code = read.otp.hash)), s)
  | .saveFailed key read =>
    match s.sessionOf key read.id with
    | some stored =>
      let session := { stored with failedAttempts := read.failedAttempts + 1 }
      (.ok (), s.setSession key (some session))
    | none => (.error .documentNotFound, s)
  | .deleteSession key id =>
    match s.sessionOf key id with
    | some _ => (.ok (), s.setSession key none)
    | none => (.ok (), s)
  | .saveVerified key read now =>
    match s.sessionOf key read.id with
    | some stored => (.ok (), s.setSession key (some (verifiedSession read now stored)))
    | none => (.error .documentNotFound, s)
  | .signToken key =>
    let token : SignedToken := ⟨key, s.clock + minutes settings.tokenExpiryMinutes⟩
    (.ok (), { s with tokens := s.tokens ++ [token] })
  | .verifyToken token =>
    (.ok (s.tokens[token]?.filter (fun token => decide (s.clock < token.expiresAt))), s)
  | .consumeSession key =>
    match (s.sessions key).filter (fun stored => stored.verifiedAt.isSome) with
    | some _ => (.ok true, s.setSession key none)
    | none => (.ok false, s)
  | .checkApplication => (.ok (), s)
  | .createSeller email phone password emailToken phoneToken =>
    let seller := newSeller settings s email phone password emailToken phoneToken
    if s.isTaken seller then (.error .duplicateKey, s)
    else
      (.ok s.nextSeller,
        { s with sellers := s.sellers ++ [seller], nextSeller := s.nextSeller + 1 })
  | .comparePassword seller password =>
    (.ok (settings.passwordMatches password seller.password), s)
  | .saveLogin id =>
    if s.sellers.any (fun seller => decide (seller.id = id)) then (.ok (), s)
    else (.error .documentNotFound, s)
  | .savePassword id newPassword =>
    if s.sellers.any (fun seller => decide (seller.id = id)) then
      (.ok (),
        { s with
          sellers := s.sellers.map (fun seller =>
            if seller.id = id then { seller with password := settings.hashPassword newPassword }
            else seller) })
    else (.error .documentNotFound, s)
  | .readJwt jwt => (.ok s.jwts[jwt]?, s)
  | .generateToken id => (.ok (), { s with jwts := s.jwts ++ [id] })

def callPerform (_ : ℕ) (call : Call) (c : ResetChoice) (s : Directory) :
    Option (Except OtpError call.Reply × Directory) :=
  some (c.outcome.perform (callEffect settings c s call) s)

/-! ## Verification -/

abbrev CallM := Prog Call Call.Reply OtpError

@[irreducible] def normalizeTarget (channel : Channel) (value : String) : Except OtpError String :=
  match channel with
  | .email => normalizeEmail settings.letters value
  | .phone => normalizePhone value

def orThrow {α : Type} : Except OtpError α → CallM α
  | .ok a => pure a
  | .error e => .throw e

/-- `ensureTargetAvailable` at a sign-up, `ensureTargetExists` at a reset. -/
def ensureTarget (key : Key) : CallM Unit := do
  let existing ← perform (Call.findSeller [⟨key.channel, key.target⟩])
  match key.purpose, existing.isSome with
  | .sellerSignup, true =>
    .throw (.status 400
      (match key.channel with
        | .email => "A seller with this email already exists"
        | .phone => "A seller with this phone number already exists"))
  | .sellerReset, false =>
    .throw (.status 404
      (match key.channel with
        | .email => "No seller found with this email"
        | .phone => "No seller found with this phone number"))
  | _, _ => pure ()

def waitCooldown (session : Option ResetSession) (now : Date) : CallM Unit :=
  match session with
  | none => pure ()
  | some session =>
    let elapsed := now - session.lastSentAt
    let cooldown : Date := settings.otpResendCooldownSeconds * 1000
    if elapsed < cooldown then
      .throw (.status 429
        ("Please wait " ++ toString ⌈((cooldown - elapsed : ℤ) : ℚ) / 1000⌉ ++
          "s before requesting another OTP"))
    else pure ()

def saveCode (key : Key) (session : Option ResetSession) (otp : String) (now : Date) : CallM Unit :=
  match session with
  | none => perform (Call.createSession key otp now)
  | some session => perform (Call.saveIssued key session otp now)

/-- `issueSellerVerificationOtp` and `issueSellerResetOtp`, once the target is normal. -/
def issueOtp (key : Key) : CallM Unit := do
  ensureTarget key
  let sendAllowed ← perform Call.countRequest
  if sendAllowed = false then
    .throw (.status 429 "Too many OTP requests. Please try again later.")
  else do
    let now ← perform Call.now
    let session ← perform (Call.findSession key)
    waitCooldown settings session now
    let otp ← perform Call.generateOtp
    saveCode key session otp now
    perform Call.dispatchOtp

def refuseCode (key : Key) (session : ResetSession) : CallM Unit := do
  perform (Call.saveFailed key session)
  if settings.otpMaxFailedAttempts ≤ session.failedAttempts + 1 then do
    perform (Call.deleteSession key session.id)
    .throw (invalidOtpError 400)
  else .throw (invalidOtpError 400)

/-- After the right code: the response has a verification token. -/
def answerToken (key : Key) (session : ResetSession) : CallM Unit := do
  let now ← perform Call.now
  perform (Call.saveVerified key session now)
  perform (Call.signToken key)

/-- `verifySellerOtpCode` and `verifySellerResetOtpCode`, once the target is normal. -/
def verifyOtp (key : Key) (code : String) : CallM Unit := do
  if isResetOtp code = false then .throw (.status 400 "Please enter a valid OTP")
  else do
    let verifyAllowed ← perform Call.countRequest
    if verifyAllowed = false then
      .throw (.status 429 "Too many verification attempts. Please try again later.")
    else do
      let session ← perform (Call.findSession key)
      let now ← perform Call.now
      match session.filter (fun session => decide (now < session.expiresAt)) with
      | none => .throw (invalidOtpError 400)
      | some session => do
          let isValid ← perform (Call.compareOtp key session code)
          if isValid then answerToken key session else refuseCode settings key session

def matchToken (key : Key) (token : Option SignedToken) : CallM SignedToken :=
  match token with
  | none => .throw (.status 400 "Verification expired. Please verify again.")
  | some token =>
    if token.key = key then pure token
    else .throw (.status 400 "Verification does not match the provided details")

/-- `verifySellerVerificationToken`. -/
def checkToken (purpose : Purpose) (channel : Channel) (value : String) (token : ℕ) :
    CallM SignedToken := do
  let target ← orThrow (normalizeTarget settings channel value)
  let signed ← perform (Call.verifyToken token)
  matchToken ⟨purpose, channel, target⟩ signed

/-! ## The endpoints -/

/-- What a sign-up sends. -/
structure Signup where
  email : String
  phone : String
  password : String
  emailToken : ℕ
  phoneToken : ℕ

/-- `signupSeller`, with what was verified. -/
def createAccount (signup : Signup) (emailToken phoneToken : SignedToken) : CallM Unit := do
  let seller ← perform (Call.findSeller [⟨.email, signup.email⟩, ⟨.phone, signup.phone⟩])
  if seller.isSome then
    .throw (.status 400 "Seller with this email or phone already exists")
  else do
    perform Call.checkApplication
    let id ← perform
      (Call.createSeller signup.email signup.phone signup.password emailToken phoneToken)
    perform (Call.generateToken id)

def signupSeller (signup : Signup) : CallM Unit := do
  if signup.email = "" ∨ signup.phone = "" ∨ signup.password = "" then
    .throw (.status 400 "All fields are required")
  else do
    let emailToken ← checkToken settings .sellerSignup .email signup.email signup.emailToken
    let phoneToken ← checkToken settings .sellerSignup .phone signup.phone signup.phoneToken
    perform Call.checkApplication
    createAccount signup emailToken phoneToken

def loginLookup (identifier : String) : Lookup :=
  if hasAt identifier then ⟨.email, settings.letters.lower identifier⟩
  else ⟨.phone, digits identifier⟩

/-- `isApproved` of a login. -/
def Seller.isApproved (seller : Seller) : Bool :=
  seller.isVerified && seller.isActive && decide (seller.applicationStatus = .approved)

/-- `loginSeller`, with the password compared. -/
def finishSellerLogin (seller : Seller) (isMatch : Bool) : CallM Unit := do
  if isMatch = false then .throw (.status 401 "Invalid credentials")
  else if seller.isApproved then do
    perform (Call.saveLogin seller.id)
    perform (Call.generateToken seller.id)
  -- a seller who is not approved yet has the token with the refusal
  else perform (Call.generateToken seller.id)

def loginSeller (identifier password : String) : CallM Unit := do
  if identifier = "" ∨ password = "" then
    .throw (.status 400 "Email/Phone and password are required")
  else do
    let seller ← perform (Call.findSeller [loginLookup settings identifier])
    match seller with
    | none => .throw (.status 404 "Seller not found")
    | some seller => do
        let isMatch ← perform (Call.comparePassword seller password)
        finishSellerLogin seller isMatch

/-- `resetSellerPassword`, with a token that is good. -/
def saveNewPassword (key : Key) (newPassword : String) : CallM Unit := do
  let seller ← perform (Call.findSeller [⟨key.channel, key.target⟩])
  match seller with
  | none => .throw (.status 404 "Seller not found")
  | some seller => do
      let consumed ← perform (Call.consumeSession key)
      if consumed = false then
        .throw (.status 400 ("This reset request has already been used or has expired. " ++
          "Please request a new OTP."))
      else perform (Call.savePassword seller.id newPassword)

/-- `resetSellerPassword`. -/
def resetPassword (channel : Channel) (value : String) (token : ℕ) (newPassword : String) :
    CallM Unit := do
  if newPassword.length < 8 then
    .throw (.status 400 "Password must be at least 8 characters long")
  else do
    let verified ← checkToken settings .sellerReset channel value token
    saveNewPassword verified.key newPassword

def checkSellerExists (email phone : String) : CallM Unit := do
  let lookups := (if email = "" then [] else [⟨.email, settings.letters.lower email⟩]) ++
    (if phone = "" then [] else [⟨.phone, digits phone⟩])
  if lookups = [] then .throw (.status 400 "Email or phone is required")
  else do
    let _ ← perform (Call.findSeller lookups)
    pure ()

/-- The user of a request, if its JWT is good. -/
def optionalVerifyToken : Option ℕ → CallM (Option ObjectId)
  | none => pure none
  | some jwt => perform (Call.readJwt jwt)

def checkSellerApplicationStatus (jwt : Option ℕ) (sellerId : Option ObjectId) : CallM Unit := do
  let user ← optionalVerifyToken jwt
  if (user.or sellerId).isNone then
    .throw (.status 400 "Valid Seller ID or authorization token is required")
  else do
    let seller ← perform (Call.findById user sellerId)
    match seller with
    | none => .throw (.status 404 "Seller not found")
    | some seller => perform (Call.generateToken seller.id)

inductive Request where
  | sendSignupOtp (channel : Channel) (value : String)
  | verifySignupOtp (channel : Channel) (value otp : String)
  | signup (signup : Signup)
  | login (identifier password : String)
  | sendResetOtp (channel : Channel) (value : String)
  | verifyResetOtp (channel : Channel) (value otp : String)
  | reset (channel : Channel) (value : String) (token : ℕ) (newPassword : String)
  | checkExists (email phone : String)
  | applicationStatus (jwt : Option ℕ) (sellerId : Option ObjectId)

def Request.program : Request → CallM Unit
  | .sendSignupOtp channel value => do
      let target ← orThrow (normalizeTarget settings channel value)
      issueOtp settings ⟨.sellerSignup, channel, target⟩
  | .verifySignupOtp channel value otp => do
      let target ← orThrow (normalizeTarget settings channel value)
      verifyOtp settings ⟨.sellerSignup, channel, target⟩ otp
  | .signup form => signupSeller settings form
  | .login identifier password => loginSeller settings identifier password
  | .sendResetOtp channel value => do
      let target ← orThrow (normalizeTarget settings channel value)
      issueOtp settings ⟨.sellerReset, channel, target⟩
  | .verifyResetOtp channel value otp => do
      let target ← orThrow (normalizeTarget settings channel value)
      verifyOtp settings ⟨.sellerReset, channel, target⟩ otp
  | .reset channel value token newPassword =>
    resetPassword settings channel value token newPassword
  | .checkExists email phone => checkSellerExists settings email phone
  | .applicationStatus jwt sellerId => checkSellerApplicationStatus jwt sellerId

/-- Time passes; anybody else changes sessions or sellers. -/
inductive DirectoryEvent where
  | elapse (duration : ℕ)
  | setSession (key : Key) (session : Option ResetSession)
  | setSellers (sellers : List Seller)

def directoryOutside : DirectoryEvent → Directory → Option Directory
  | .elapse duration, s => some { s with clock := s.clock + duration }
  | .setSession key session, s => some (s.setSession key session)
  | .setSellers sellers, s => some { s with sellers }

def endpointSystem : System Call Call.Reply OtpError Directory ResetChoice DirectoryEvent Request where
  perform := callPerform settings
  outside := directoryOutside
  entry := Request.program settings
  mayStart := fun _ _ => true

abbrev EndpointAct := Action ResetChoice DirectoryEvent Request

end DiscountBazar.Sellers
