/-
The codes of one order (`orderWorkflowService.js`, `deliveryOtpService.js`): how often one can be
guessed at, and how often it is accepted.

Any number of submissions against the codes of one type run at once. A hand-over counts a wrong
guess with an update that is atomic and capped, and consumes the code where it is unused; a
return pickup or drop saves the counter or the mark of the record it has loaded. All three decide
on what they have read. A comparison is a step of its own: it touches no document, and the history
beside the record remembers it.
-/
import DiscountBazar.Workflow.Exclusive

namespace DiscountBazar.Workflow.OtpGuesses

open Finance Tasks Runs
open Prog (perform)
open List

/-! ## Records -/

/-- `type` of an `OrderOtp`. -/
inductive CodeType where
  | delivery | returnPickup | returnDrop

/-- `OrderOtp`, and what has happened to it: wrong guesses compared with it while it was accepted,
those of them that `attempts` has not taken in yet, how often it was accepted, and whether that was
after the limit. -/
structure OrderOtp extends HandoffOtp where
  compared : ℕ := 0
  uncounted : ℕ := 0
  accepted : ℕ := 0
  late : Bool := false

namespace OrderOtp

def isOpen (otp : OrderOtp) : Bool :=
  otp.consumedAt.isNone && decide (otp.attempts < otp.maxAttempts)

def guessed (otp : OrderOtp) : OrderOtp :=
  if otp.isOpen then
    { otp with compared := otp.compared + 1, uncounted := otp.uncounted + 1 }
  else otp

def counted (attempts : ℕ) (otp : OrderOtp) : OrderOtp :=
  { otp with attempts, uncounted := otp.uncounted - 1 }

def consumed (now : Date) (otp : OrderOtp) : OrderOtp :=
  { otp with
    consumedAt := some now
    accepted := otp.accepted + 1
    late := otp.late || decide (otp.maxAttempts ≤ otp.attempts) }

/-- Another code takes the place of this one. -/
def replaced (now : Date) (otp : OrderOtp) : OrderOtp :=
  if otp.consumedAt.isNone then { otp with consumedAt := some now } else otp

end OrderOtp

/-! ## Errors -/

inductive OtpErrorCode where
  | otpInvalidFormat | invalidFormat | otpExpired | otpMismatch | otpNotFound | otpConsumed
  | maxAttemptsExceeded | validationFailed | unauthorizedDelivery | orderNotReady

def statusCodeForOtpError : OtpErrorCode → ℕ
  | .otpInvalidFormat | .invalidFormat => 400
  | .otpExpired => 401
  | .otpMismatch => 403
  | .otpNotFound => 404
  | .otpConsumed => 409
  | .maxAttemptsExceeded => 423
  | _ => 500

/-- An error of a submission; one of the database has a message only. -/
structure OtpError where
  message : String
  statusCode : Option ℕ := none
  code : Option OtpErrorCode := none
  attemptsRemaining : Option ℕ := none

def otpError (code : OtpErrorCode) (message : String) (attemptsRemaining : Option ℕ) : OtpError :=
  { message, statusCode := some (statusCodeForOtpError code), code := some code, attemptsRemaining }

/-! ## Calls -/

inductive Kind where
  /-- the order, if it is this rider's -/
  | findOrder (deliveryId : ObjectId)
  | findOtp
  /-- the comparison of two hashes, in the handler -/
  | compare (index : ℕ) (enteredHash codeHash : String)
  /-- `findOneAndUpdate` on an unused record below `maxAttempts` -/
  | countGuess (index maxAttempts : ℕ)
  /-- `updateOne` on an unused record -/
  | consumeOtp (index : ℕ) (now : Date)
  /-- `otpRecord.save()` with a new counter -/
  | saveAttempts (index attempts : ℕ)
  /-- `otpRecord.save()` with a new mark -/
  | saveConsumed (index : ℕ) (now : Date)
  /-- the update that delivers the order -/
  | deliver
  | settle

@[reducible] def Kind.Reply : Kind → Type
  | .findOrder _ => Option WorkflowOrder
  | .findOtp => Option (ℕ × HandoffOtp)
  | .countGuess _ _ => Option ℕ
  | .compare _ _ _ | .consumeOtp _ _ | .deliver => Bool
  | _ => Unit

structure Choice where
  outcome : Tasks.Outcome OtpError := .done
  order : Option WorkflowOrder := none
  found : Bool := true

def effect (c : Choice) : (kind : Kind) → List OrderOtp → Except OtpError kind.Reply × List OrderOtp
  | .findOrder deliveryId, otps =>
    (.ok (c.order.filter (fun order => isWith order deliveryId)), otps)
  | .findOtp, otps =>
    (.ok (otps.getLast?.map (fun otp => (otps.length - 1, otp.toHandoffOtp))), otps)
  | .compare index enteredHash codeHash, otps =>
    if enteredHash = codeHash then (.ok true, otps)
    else (.ok false, otps.modify index OrderOtp.guessed)
  | .countGuess index maxAttempts, otps =>
    match otps[index]? with
    | some otp =>
      if otp.consumedAt = none ∧ otp.attempts < maxAttempts then
        (.ok (some (otp.attempts + 1)), otps.modify index (OrderOtp.counted (otp.attempts + 1)))
      else (.ok none, otps)
    | none => (.ok none, otps)
  | .consumeOtp index now, otps =>
    if otps[index]?.any (fun otp => otp.consumedAt.isNone) then
      (.ok true, otps.modify index (OrderOtp.consumed now))
    else (.ok false, otps)
  | .saveAttempts index attempts, otps =>
    (.ok (), otps.modify index (OrderOtp.counted attempts))
  | .saveConsumed index now, otps => (.ok (), otps.modify index (OrderOtp.consumed now))
  | .deliver, otps => (.ok c.found, otps)
  | .settle, otps => (.ok (), otps)

/-- A comparison is no call to the database: it cannot fail. -/
def Kind.outcome (c : Choice) : Kind → Tasks.Outcome OtpError
  | .compare _ _ _ => .done
  | _ => c.outcome

def performOp (_ : ℕ) (kind : Kind) (c : Choice) (otps : List OrderOtp) :
    Option (Except OtpError kind.Reply × List OrderOtp) :=
  some ((kind.outcome c).perform (effect c kind otps) otps)

/-! ## Submissions -/

abbrev M := Prog Kind Kind.Reply OtpError

/-- `/^\d{4}$/`. -/
def isFourDigits (code : String) : Bool :=
  decide (code.toList.length = 4) && code.toList.all Char.isDigit

/-- The OTP part of `verifyHandoffOtpAndDeliver`. -/
def checkHandoffOtp (hashCode : String → String) (code : String) (now : Date) : M Unit := do
  match ← perform Kind.findOtp with
  | none => .throw (otpError .otpNotFound "No OTP has been generated for this order yet" none)
  | some (index, otp) =>
    if otp.consumedAt.isSome then
      .throw (otpError .otpConsumed "OTP has already been used. Please generate a new OTP." (some 0))
    else if otp.maxAttempts ≤ otp.attempts then
      .throw (otpError .maxAttemptsExceeded
        "Maximum validation attempts exceeded. Supervisor intervention required." (some 0))
    else if otp.expiresAt < now then
      .throw (otpError .otpExpired "OTP has expired. Please generate a new OTP."
        (some (otp.maxAttempts - otp.attempts)))
    else do
      let isMatch ← perform (Kind.compare index (hashCode code) otp.codeHash)
      if isMatch then do
        let consumed ← perform (Kind.consumeOtp index now)
        if consumed then pure ()
        else
          .throw (otpError .otpConsumed "OTP has already been used. Please generate a new OTP."
            (some 0))
      else do
        let counted ← perform (Kind.countGuess index otp.maxAttempts)
        let used := counted.getD otp.maxAttempts
        .throw (otpError .otpMismatch "Invalid OTP. Please try again."
          (some (otp.maxAttempts - used)))

/-- What a hand-over answers: it was done before, or the settlement's warning. -/
structure Handover where
  duplicate : Bool := false
  warning : Option String := none

def verifyHandoffOtpAndDeliver (hashCode : String → String) (deliveryId : ObjectId) (code : String)
    (now : Date) : M Handover :=
  if code = "" then
    .throw ⟨"OTP is required", some 400, some .otpInvalidFormat, none⟩
  else if isFourDigits code = false then
    .throw ⟨"OTP must be exactly 4 digits", some 400, some .otpInvalidFormat, none⟩
  else do
    match ← perform (Kind.findOrder deliveryId) with
    | none =>
      .throw ⟨"Order not found or not assigned to you", some 404, some .unauthorizedDelivery, none⟩
    | some order =>
      if order.otpValidatedAt.isSome ∧ order.status = .delivered then pure { duplicate := true }
      else
        let isV2Out := decide (order.workflowStatus = some .outForDelivery)
        let isV1Out := !isV2 order && decide (order.status = .outForDelivery)
        if isV2Out = false ∧ isV1Out = false then
          .throw ⟨"Invalid state for delivery completion", some 409, some .orderNotReady, none⟩
        else do
          checkHandoffOtp hashCode code now
          let updated ← perform Kind.deliver
          if updated = false then
            .throw ⟨"Could not finalize delivery", some 409, some .orderNotReady, none⟩
          else
            ((perform Kind.settle).bind (fun _ => pure {})).tryCatch
              (fun e => pure { warning := some e.message })

structure Validation where
  valid : Bool
  error : Option OtpErrorCode := none
  message : String
  attemptsRemaining : Option ℕ := none

def invalid (error : OtpErrorCode) (message : String) : M Validation :=
  pure { valid := false, error := some error, message }

/-- The texts in which the two validators of a return differ; one of them says how many attempts
are left. -/
structure ValidatorTexts where
  notFound : String
  expired : String
  validated : String
  countsDown : Bool

/-- What a validator of a return does with the record it has found. -/
def validateRecord (hashCode : String → String) (texts : ValidatorTexts) (enteredOtp : String)
    (now : Date) (index : ℕ) (otp : HandoffOtp) : M Validation :=
  if otp.consumedAt.isSome then invalid .otpConsumed "OTP already consumed."
  else if otp.maxAttempts ≤ otp.attempts then
    invalid .maxAttemptsExceeded "Max attempts exceeded."
  else if otp.expiresAt < now then invalid .otpExpired texts.expired
  else do
    let isMatch ← perform (Kind.compare index (hashCode enteredOtp) otp.codeHash)
    if isMatch then do
      perform (Kind.saveConsumed index now)
      pure { valid := true, message := texts.validated }
    else do
      perform (Kind.saveAttempts index (otp.attempts + 1))
      pure { valid := false
             error := some .otpMismatch
             message := "Invalid OTP."
             attemptsRemaining :=
              if texts.countsDown then some (otp.maxAttempts - (otp.attempts + 1)) else none }

def validateReturnOtp (hashCode : String → String) (texts : ValidatorTexts)
    (orderId enteredOtp : String) (now : Date) : M Validation :=
  if orderId = "" ∨ enteredOtp = "" then invalid .invalidFormat "orderId and OTP are required"
  else
    Prog.tryCatch (do
      match ← perform Kind.findOtp with
      | none => invalid .otpNotFound texts.notFound
      | some (index, otp) => validateRecord hashCode texts enteredOtp now index otp)
    (fun _ => invalid .validationFailed "Internal error.")

def validateReturnPickupOtp (hashCode : String → String) (orderId enteredOtp : String)
    (now : Date) : M Validation :=
  validateReturnOtp hashCode
    { notFound := "No return OTP found."
      expired := "OTP expired."
      validated := "OTP validated successfully"
      countsDown := false } orderId enteredOtp now

def validateReturnDropOtp (hashCode : String → String) (orderId enteredOtp : String)
    (now : Date) : M Validation :=
  validateReturnOtp hashCode
    { notFound := "No seller drop OTP found. Please request a new one."
      expired := "OTP expired. Please request a new one."
      validated := "Seller drop OTP validated successfully"
      countsDown := true } orderId enteredOtp now

/-! ## The system -/

structure Submission where
  deliveryId : ObjectId
  orderId : String
  code : String
  now : Date

def submit (hashCode : String → String) (type : CodeType) (s : Submission) : M Unit :=
  match type with
  | .delivery => (verifyHandoffOtpAndDeliver hashCode s.deliveryId s.code s.now).discard
  | .returnPickup => (validateReturnPickupOtp hashCode s.orderId s.code s.now).discard
  | .returnDrop => (validateReturnDropOtp hashCode s.orderId s.code s.now).discard

/-- Codes are generated: those that are left are replaced, then there is a new one. -/
inductive Event where
  | replaced (now : Date)
  | created (codeHash : String) (expiresAt : Date)

def happens : Event → List OrderOtp → List OrderOtp
  | .replaced now, otps => otps.map (OrderOtp.replaced now)
  | .created codeHash expiresAt, otps => otps ++ [{ codeHash, expiresAt }]

def guessSystem (hashCode : String → String) (type : CodeType) :
    System Kind Kind.Reply OtpError (List OrderOtp) Choice Event Submission where
  perform := performOp
  outside := fun event otps => some (happens event otps)
  entry := submit hashCode type
  mayStart := fun _ _ => true

def noCode : Pool Kind Kind.Reply OtpError (List OrderOtp) := ⟨[], []⟩

/-! ## The limit -/

/-- What a code is meant to stand: at most `maxAttempts` wrong guesses, one acceptance, none after
the limit. -/
structure Limited (otp : OrderOtp) : Prop where
  guesses : otp.compared ≤ otp.maxAttempts
  once : otp.accepted ≤ 1
  inTime : otp.late = false

/-- A call is in order: a wrong guess is compared while those that are still to be counted leave
room for it, no save overwrites a count, and a code is consumed while it is open. -/
def Kind.inOrder (otps : List OrderOtp) : Kind → Bool
  | .compare index enteredHash codeHash =>
    decide (enteredHash = codeHash) || otps[index]?.all (fun otp =>
      !otp.isOpen || decide (otp.attempts + otp.uncounted < otp.maxAttempts))
  | .consumeOtp index _ =>
    otps[index]?.all (fun otp =>
      otp.consumedAt.isSome || decide (otp.attempts < otp.maxAttempts))
  | .saveAttempts index attempts =>
    otps[index]?.all (fun otp => decide (attempts = otp.attempts + 1))
  | .saveConsumed index _ => otps[index]?.all OrderOtp.isOpen
  | _ => true

def CallInOrder (kind : Kind) (c : Choice) (otps : List OrderOtp) : Prop :=
  (kind.outcome c).takesEffect = true → kind.inOrder otps = true

instance (kind : Kind) (c : Choice) (otps : List OrderOtp) : Decidable (CallInOrder kind c otps) :=
  inferInstanceAs (Decidable ((kind.outcome c).takesEffect = true → kind.inOrder otps = true))

/-- A code within its limits, whose guesses are all counted or still to be counted. -/
structure Accounted (otp : OrderOtp) : Prop extends Limited otp where
  counted : otp.compared ≤ otp.attempts + otp.uncounted
  used : 0 < otp.accepted → otp.consumedAt.isSome = true

namespace Accounted

variable {otp : OrderOtp}

theorem created (codeHash : String) (expiresAt : Date) :
    Accounted { codeHash, expiresAt } where
  guesses := by simp
  once := by simp
  inTime := rfl
  counted := by simp
  used := by simp

theorem replaced (h : Accounted otp) (now : Date) : Accounted (otp.replaced now) := by
  unfold OrderOtp.replaced
  split
  · exact ⟨⟨h.guesses, h.once, h.inTime⟩, h.counted, fun _ => rfl⟩
  · exact h

theorem guessed (h : Accounted otp)
    (hroom : otp.isOpen = true → otp.attempts + otp.uncounted < otp.maxAttempts) :
    Accounted otp.guessed := by
  have hcounted := h.counted
  unfold OrderOtp.guessed
  split
  next hopen =>
    have hlt := hroom hopen
    exact {
      guesses := by
        dsimp only
        omega
      once := h.once
      inTime := h.inTime
      counted := by
        dsimp only
        omega
      used := h.used }
  next => exact h

theorem count (h : Accounted otp) : Accounted (otp.counted (otp.attempts + 1)) := by
  have hcounted := h.counted
  exact {
    toLimited := ⟨h.guesses, h.once, h.inTime⟩
    counted := by
      unfold OrderOtp.counted
      dsimp only
      omega
    used := h.used }

theorem consumed (h : Accounted otp) (now : Date) (hunused : otp.consumedAt = none)
    (hlt : otp.attempts < otp.maxAttempts) : Accounted (otp.consumed now) := by
  have hfirst : otp.accepted = 0 := by
    by_contra hne
    have hsome := h.used (Nat.pos_of_ne_zero hne)
    rw [hunused] at hsome
    simp at hsome
  exact {
    guesses := h.guesses
    once := by simp [OrderOtp.consumed, hfirst]
    inTime := by simp [OrderOtp.consumed, h.inTime, hlt]
    counted := h.counted
    used := fun _ => rfl }

end Accounted

def AllAccounted (otps : List OrderOtp) : Prop := ∀ otp ∈ otps, Accounted otp

variable {otps : List OrderOtp}

theorem AllAccounted.modify {index : ℕ} {f : OrderOtp → OrderOtp} (h : AllAccounted otps)
    (hf : ∀ otp, otps[index]? = some otp → Accounted otp → Accounted (f otp)) :
    AllAccounted (otps.modify index f) := by
  intro otp hmem
  obtain ⟨j, hj⟩ := mem_iff_getElem?.mp hmem
  rw [getElem?_modify] at hj
  simp only [Option.map_eq_map, Option.map_eq_some_iff] at hj
  obtain ⟨old, hold, rfl⟩ := hj
  have haccounted : Accounted old := h old (mem_of_getElem? hold)
  split
  next hindex =>
    subst hindex
    exact hf old hold haccounted
  next => exact haccounted

theorem effect_accounted {kind : Kind} {c : Choice} (h : AllAccounted otps)
    (hok : kind.inOrder otps = true) : AllAccounted (effect c kind otps).2 := by
  cases kind with
  | findOrder | findOtp | deliver | settle => exact h
  | compare index enteredHash codeHash =>
    unfold effect
    dsimp only
    split
    · exact h
    next hne =>
      refine h.modify (fun otp hget haccounted => haccounted.guessed (fun hopen => ?_))
      simpa [Kind.inOrder, hne, hget, hopen] using hok
  | countGuess index maxAttempts =>
    unfold effect
    dsimp only
    split
    next otp hget =>
      split
      · refine h.modify (fun otp' hget' haccounted => ?_)
        cases hget.symm.trans hget'
        exact haccounted.count
      · exact h
    next => exact h
  | consumeOtp index now =>
    unfold effect
    dsimp only
    split
    next hunused =>
      refine h.modify (fun otp hget haccounted => ?_)
      have hnone : otp.consumedAt = none := by simpa [hget] using hunused
      exact haccounted.consumed now hnone (by simpa [Kind.inOrder, hget, hnone] using hok)
    next => exact h
  | saveAttempts index attempts =>
    refine h.modify (fun otp hget haccounted => ?_)
    have heq : attempts = otp.attempts + 1 := by simpa [Kind.inOrder, hget] using hok
    rw [heq]
    exact haccounted.count
  | saveConsumed index now =>
    refine h.modify (fun otp hget haccounted => ?_)
    have hopen : otp.consumedAt = none ∧ otp.attempts < otp.maxAttempts := by
      simpa [Kind.inOrder, hget, OrderOtp.isOpen] using hok
    exact haccounted.consumed now hopen.1 hopen.2

/-! ## Runs -/

theorem performOp_accounted {i : ℕ} {kind : Kind} {c : Choice} {otps otps' : List OrderOtp}
    {r : Except OtpError kind.Reply} (h : AllAccounted otps) (hok : CallInOrder kind c otps)
    (hperform : performOp i kind c otps = some (r, otps')) : AllAccounted otps' := by
  rcases Outcome.perform_eq (Option.some.inj hperform) with ⟨-, rfl⟩ | ⟨hdone, rfl, -⟩
  · exact h
  · exact effect_accounted h (hok hdone)

theorem happens_accounted (h : AllAccounted otps) (event : Event) :
    AllAccounted (happens event otps) := by
  intro otp hmem
  cases event with
  | replaced now =>
    obtain ⟨old, hold, rfl⟩ := mem_map.mp hmem
    exact (h old hold).replaced now
  | created codeHash expiresAt =>
    rcases mem_append.mp hmem with hmem | hmem
    · exact h otp hmem
    · rw [mem_singleton.mp hmem]
      exact Accounted.created codeHash expiresAt

/-- A pickup code, guessed wrong once and then right, each after the other. -/
def secondGuess : List (Action Choice Event Submission) :=
  [.outside (.created "4711" 100), .start ⟨4, "ORD1", "1234", 10⟩, .run 0 {}, .run 0 {}, .run 0 {},
    .start ⟨4, "ORD1", "4711", 20⟩, .run 1 {}, .run 1 {}, .run 1 {}]

def outOrder : WorkflowOrder :=
  { waitingOrder with workflowStatus := some .outForDelivery, deliveryBoy := some 4 }

/-- The customer's code is read and compared; before it is consumed, three guesses from another
request are counted. -/
def lateAcceptance : List (Action Choice Event Submission) :=
  let found : Choice := { order := some outOrder }
  [.outside (.created "4711" 100), .start ⟨4, "ORD1", "4711", 10⟩, .run 0 found, .run 0 {}, .run 0 {},
    .start ⟨4, "ORD1", "0001", 10⟩, .run 1 found, .run 1 {}, .run 1 {}, .run 1 {},
    .start ⟨4, "ORD1", "0002", 10⟩, .run 2 found, .run 2 {}, .run 2 {}, .run 2 {},
    .start ⟨4, "ORD1", "0003", 10⟩, .run 3 found, .run 3 {}, .run 3 {}, .run 3 {}, .run 0 {}]

end DiscountBazar.Workflow.OtpGuesses
