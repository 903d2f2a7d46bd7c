/-
A seller is found by the contacts it signed up with.

The email address is stored in the form it was verified in. The phone number is verified by its first
ten digits and stored as it was typed; it is the number that was verified, and is found again, exactly
where it was typed as those ten digits.
-/
import DiscountBazar.Sellers.ProvenTokens

namespace DiscountBazar.Sellers

open Tasks Runs
open Contract (Sound)
open Prog (All)
open Auth (OtpError)
open List Directory Seller

variable (settings : EndpointSettings)

/-! ## What is to hold -/

def Seller.contact (seller : Seller) : Channel → String
  | .email => seller.email
  | .phone => seller.phone

/-- What was sent as a contact at the sign-up. -/
def Seller.given (seller : Seller) : Channel → String
  | .email => seller.givenEmail
  | .phone => seller.givenPhone

/-- The target of the token that was brought for a contact. -/
def Seller.verified (seller : Seller) : Channel → String
  | .email => seller.verifiedEmail
  | .phone => seller.verifiedPhone

/-- Every seller has the contacts that were verified, shares no target with another, and is found by
what it sent at its sign-up, by a login and by a request to reset the password. -/
structure Reachable (s : Directory) : Prop where
  stored : ∀ seller ∈ s.sellers, ∀ channel, seller.contact channel = seller.verified channel
  apart : ∀ seller ∈ s.sellers, ∀ other ∈ s.sellers, ∀ channel target,
    normalizeTarget settings channel (seller.contact channel) = .ok target →
      normalizeTarget settings channel (other.contact channel) = .ok target → seller = other
  login : ∀ seller ∈ s.sellers, ∀ channel,
    s.findOne settings [loginLookup settings (seller.given channel)] = some seller
  reset : ∀ seller ∈ s.sellers, ∀ channel, ∃ target,
    normalizeTarget settings channel (seller.given channel) = .ok target ∧
      s.findOne settings [⟨channel, target⟩] = some seller

/-! ## The condition -/

/-- The condition: a seller is created with a phone number that was sent as ten digits. -/
def TenDigits (_ : ℕ) (call : Call) (c : ResetChoice) (s : Directory) : Prop :=
  match call with
  | .createSeller email phone password emailToken phoneToken =>
    c.outcome.takesEffect = true →
      s.isTaken (newSeller settings s email phone password emailToken phoneToken) = false →
        isPhone phone = true
  | _ => True

/-- Nobody else adds a seller or changes one. -/
def OnlyRemoves (e : DirectoryEvent) (s : Directory) : Prop :=
  match e with
  | .setSellers sellers => sellers.Sublist s.sellers
  | _ => True

instance (task : ℕ) (call : Call) (c : ResetChoice) (s : Directory) :
    Decidable (TenDigits settings task call c s) := by
  unfold TenDigits
  split
  · infer_instance
  · infer_instance

instance (e : DirectoryEvent) (s : Directory) : Decidable (OnlyRemoves e s) :=
  match e with
  | .setSellers sellers => inferInstanceAs (Decidable (sellers.Sublist s.sellers))
  | .elapse _ => .isTrue trivial
  | .setSession _ _ => .isTrue trivial

/-! ## The invariant -/

/-- A seller brought tokens for what it sent, and that is what was stored. -/
structure SignedUp (seller : Seller) : Prop where
  email : normalizeEmail settings.letters seller.givenEmail = .ok seller.verifiedEmail
  phone : normalizePhone seller.givenPhone = .ok seller.verifiedPhone
  storedEmail : seller.email = castEmail settings.letters seller.givenEmail
  storedPhone : seller.phone = seller.givenPhone

structure Registered (s : Directory) : Prop where
  signedUp : ∀ seller ∈ s.sellers, SignedUp settings seller
  emails : (s.sellers.map email).Nodup
  phones : (s.sellers.map phone).Nodup

variable {settings} {s : Directory} {c : ResetChoice} {i : ℕ}

variable {seller : Seller}

theorem SignedUp.email_eq (h : SignedUp settings seller) :
    seller.email = seller.verifiedEmail := by
  rw [h.storedEmail, (normalizeEmail_ok h.email).1]

theorem SignedUp.phone_eq_iff (h : SignedUp settings seller) :
    seller.phone = seller.verifiedPhone ↔ isPhone seller.givenPhone = true := by
  rw [h.storedPhone]
  constructor
  · intro hsame
    rw [hsame]
    exact normalizePhone_ok h.phone
  · intro hphone
    exact Except.ok.inj ((normalizePhone_of_isPhone hphone).symm.trans h.phone)

theorem normalizeTarget_contact (h : SignedUp settings seller)
    (hphone : isPhone seller.givenPhone = true) (channel : Channel) :
    normalizeTarget settings channel (seller.contact channel) = .ok (seller.contact channel) := by
  unfold normalizeTarget
  cases channel with
  | email =>
    unfold contact
    dsimp only
    rw [h.email_eq]
    exact normalizeEmail_self h.email
  | phone =>
    unfold contact
    dsimp only
    rw [h.storedPhone]
    exact normalizePhone_of_isPhone hphone

theorem Registered.eq_of_contact (h : Registered settings s) {seller other : Seller}
    (hseller : seller ∈ s.sellers) (hother : other ∈ s.sellers) {channel : Channel}
    (hsame : seller.contact channel = other.contact channel) : seller = other := by
  cases channel with
  | email => exact inj_on_of_nodup_map h.emails hseller hother hsame
  | phone => exact inj_on_of_nodup_map h.phones hseller hother hsame

theorem Registered.findOne_eq (h : Registered settings s) (hseller : seller ∈ s.sellers)
    {lookup : Lookup}
    (hvalue : seller.contact lookup.channel =
      match lookup.channel with
      | .email => castEmail settings.letters lookup.value
      | .phone => lookup.value) :
    s.findOne settings [lookup] = some seller := by
  have hfinds : ∀ other : Seller, lookup.finds settings other = true ↔
      other.contact lookup.channel = seller.contact lookup.channel := by
    intro other
    rw [hvalue]
    unfold Lookup.finds contact
    cases lookup.channel with
    | email | phone => exact decide_eq_true_iff
  unfold findOne
  simp only [any_cons, any_nil, Bool.or_false]
  cases hfound : s.sellers.find? (fun other => lookup.finds settings other) with
  | none =>
    have hnot := find?_eq_none.mp hfound seller hseller
    exact absurd ((hfinds seller).mpr rfl) hnot
  | some other =>
    have hother := mem_of_find?_eq_some hfound
    have hsame := (hfinds other).mp
      (find?_some (p := fun other => lookup.finds settings other) hfound)
    rw [h.eq_of_contact hother hseller hsame]

theorem Registered.reachable_iff (h : Registered settings s) :
    Reachable settings s ↔ ∀ seller ∈ s.sellers, isPhone seller.givenPhone = true := by
  constructor
  · intro hreach seller hseller
    exact (h.signedUp seller hseller).phone_eq_iff.mp (hreach.stored seller hseller .phone)
  · intro hten
    refine ⟨fun seller hseller channel => ?_, fun seller hseller other hother channel target ht ht' => ?_,
      fun seller hseller channel => ?_, fun seller hseller channel => ?_⟩
    · have hsigned := h.signedUp seller hseller
      cases channel with
      | email => exact hsigned.email_eq
      | phone => exact hsigned.phone_eq_iff.mpr (hten seller hseller)
    · -- the contacts are their own targets
      rw [normalizeTarget_contact (h.signedUp seller hseller) (hten seller hseller)] at ht
      rw [normalizeTarget_contact (h.signedUp other hother) (hten other hother)] at ht'
      exact h.eq_of_contact hseller hother (Except.ok.inj (ht.trans ht'.symm))
    · have hsigned := h.signedUp seller hseller
      unfold loginLookup
      cases channel with
      | email =>
        unfold given
        dsimp only
        rw [if_pos (normalizeEmail_hasAt hsigned.email)]
        refine h.findOne_eq hseller ?_
        exact hsigned.storedEmail.trans (castEmail_lower seller.givenEmail).symm
      | phone =>
        have hphone := hten seller hseller
        unfold given
        dsimp only
        rw [if_neg (by rw [hasAt_of_isPhone hphone]; simp)]
        refine h.findOne_eq hseller ?_
        exact hsigned.storedPhone.trans (digits_of_isPhone hphone).symm
    · have hsigned := h.signedUp seller hseller
      refine ⟨seller.verified channel, ?_, h.findOne_eq hseller ?_⟩
      · unfold normalizeTarget
        cases channel with
        | email => exact hsigned.email
        | phone => exact hsigned.phone
      · cases channel with
        | email =>
          have hself := (normalizeEmail_ok (normalizeEmail_self hsigned.email)).1
          exact hsigned.email_eq.trans hself
        | phone => exact hsigned.phone_eq_iff.mpr (hten seller hseller)

/-! ## One call -/

/-- What a request has to know before it creates a seller. -/
def Brought (settings : EndpointSettings) : Call → Prop
  | .createSeller email phone _ emailToken phoneToken =>
    normalizeEmail settings.letters email = .ok emailToken.key.target ∧
      normalizePhone phone = .ok phoneToken.key.target
  | _ => True

theorem Registered.of_sellers {s' : Directory} (h : Registered settings s)
    (hsellers : s'.sellers = s.sellers) : Registered settings s' := by
  refine ⟨?_, ?_, ?_⟩
  · rw [hsellers]
    exact h.signedUp
  · rw [hsellers]
    exact h.emails
  · rw [hsellers]
    exact h.phones

theorem Registered.sublist {sellers : List Seller} (h : Registered settings s)
    (hsub : sellers.Sublist s.sellers) : Registered settings { s with sellers } where
  signedUp := fun seller hseller => h.signedUp seller (hsub.subset hseller)
  emails := h.emails.sublist (hsub.map email)
  phones := h.phones.sublist (hsub.map phone)

theorem Registered.createSeller (h : Registered settings s) {email phone password : String}
    {emailToken phoneToken : SignedToken}
    (hbrought : Brought settings (.createSeller email phone password emailToken phoneToken))
    (hfree : s.isTaken (newSeller settings s email phone password emailToken phoneToken) = false) :
    Registered settings
      { s with
        sellers := s.sellers ++ [newSeller settings s email phone password emailToken phoneToken]
        nextSeller := s.nextSeller + 1 } := by
  have hothers : ∀ other ∈ s.sellers,
      other.email ≠ castEmail settings.letters email ∧ other.phone ≠ phone := by
    intro other hother
    have hdiffers := any_eq_false.mp hfree other hother
    rw [decide_eq_true_eq, not_or] at hdiffers
    exact hdiffers
  refine ⟨fun seller hseller => ?_, ?_, ?_⟩
  · rcases mem_append.mp hseller with hold | hnew
    · exact h.signedUp seller hold
    · rw [mem_singleton.mp hnew]
      exact ⟨hbrought.1, hbrought.2, rfl, rfl⟩
  · rw [map_append, nodup_append_comm]
    refine nodup_cons.mpr ⟨fun hmem => ?_, h.emails⟩
    obtain ⟨other, hother, hsame⟩ := mem_map.mp hmem
    exact (hothers other hother).1 hsame
  · rw [map_append, nodup_append_comm]
    refine nodup_cons.mpr ⟨fun hmem => ?_, h.phones⟩
    obtain ⟨other, hother, hsame⟩ := mem_map.mp hmem
    exact (hothers other hother).2 hsame

theorem Registered.savePassword (h : Registered settings s) (id : ObjectId) (password : String) :
    Registered settings
      { s with
        sellers := s.sellers.map (fun seller =>
          if seller.id = id then { seller with password } else seller) } := by
  have hcontacts : ∀ {f : Seller → String}, (∀ seller : Seller, f { seller with password } = f seller) →
      (s.sellers.map (fun seller =>
        if seller.id = id then { seller with password } else seller)).map f = s.sellers.map f := by
    intro f hf
    rw [map_map]
    refine map_congr_left (fun seller _ => ?_)
    rw [Function.comp_apply]
    by_cases hid : seller.id = id
    · rw [if_pos hid, hf]
    · rw [if_neg hid]
  refine ⟨fun seller hseller => ?_, ?_, ?_⟩
  · obtain ⟨other, hother, rfl⟩ := mem_map.mp hseller
    have hsigned := h.signedUp other hother
    by_cases hid : other.id = id
    · rw [if_pos hid]
      exact ⟨hsigned.email, hsigned.phone, hsigned.storedEmail, hsigned.storedPhone⟩
    · rw [if_neg hid]
      exact hsigned
  · rw [hcontacts (f := email) (fun _ => rfl)]
    exact h.emails
  · rw [hcontacts (f := phone) (fun _ => rfl)]
    exact h.phones

theorem callEffect_sellers (call : Call) :
    (callEffect settings c s call).2.sellers = s.sellers ∨
      (∃ id password, (callEffect settings c s call).2.sellers =
        s.sellers.map (fun seller => if seller.id = id then { seller with password } else seller)) ∨
      ∃ email phone password emailToken phoneToken,
        call = .createSeller email phone password emailToken phoneToken ∧
          s.isTaken (newSeller settings s email phone password emailToken phoneToken) = false ∧
            (callEffect settings c s call).2.sellers
              = s.sellers ++ [newSeller settings s email phone password emailToken phoneToken] := by
  cases call with
  | createSeller email phone password emailToken phoneToken =>
    unfold callEffect
    dsimp only
    split
    next => exact .inl rfl
    next hfree =>
      exact .inr (.inr ⟨email, phone, password, emailToken, phoneToken, rfl,
        Bool.eq_false_iff.mpr hfree, rfl⟩)
  | savePassword id newPassword =>
    unfold callEffect
    dsimp only
    split
    · exact .inr (.inl ⟨id, _, rfl⟩)
    · exact .inl rfl
  | saveLogin | createSession | saveIssued | saveFailed | deleteSession | saveVerified
  | consumeSession =>
    unfold callEffect
    dsimp only
    split
    · exact .inl rfl
    · exact .inl rfl
  | findSeller | findById | countRequest | now | findSession | generateOtp | dispatchOtp
  | compareOtp | signToken | verifyToken | checkApplication | comparePassword | readJwt
  | generateToken => exact .inl rfl

variable {call : Call}

theorem callEffect_registered (h : Registered settings s) (hbrought : Brought settings call) :
    Registered settings (callEffect settings c s call).2 := by
  rcases @callEffect_sellers settings s c call with
    hsame | ⟨id, password, hsaved⟩ | ⟨email, phone, password, emailToken, phoneToken, rfl, hfree, hnew⟩
  · exact h.of_sellers hsame
  · exact (h.savePassword id password).of_sellers hsaved
  · exact (h.createSeller hbrought hfree).of_sellers hnew

theorem callEffect_ten_iff (hten : ∀ seller ∈ s.sellers, isPhone seller.givenPhone = true)
    (htakes : c.outcome.takesEffect = true) :
    (∀ seller ∈ (callEffect settings c s call).2.sellers, isPhone seller.givenPhone = true) ↔
      TenDigits settings i call c s := by
  unfold TenDigits
  split
  next email phone password emailToken phoneToken =>
    unfold callEffect
    dsimp only
    split
    next htaken =>
      refine iff_of_true hten (fun _ hfree => ?_)
      rw [hfree] at htaken
      cases htaken
    next hfree =>
      constructor
      · intro hall _ _
        exact hall _ (mem_append_right _ (mem_singleton_self _))
      · intro hdigits seller hseller
        rcases mem_append.mp hseller with hold | hnew
        · exact hten seller hold
        · rw [mem_singleton.mp hnew]
          exact hdigits htakes (Bool.eq_false_iff.mpr hfree)
  next hother =>
    refine iff_of_true ?_ trivial
    rcases @callEffect_sellers settings s c call with
      hsame | ⟨id, password, hsaved⟩ | ⟨email, phone, password, emailToken, phoneToken, hcreate, -⟩
    · rw [hsame]
      exact hten
    · rw [hsaved]
      intro seller hseller
      obtain ⟨other, hold, rfl⟩ := mem_map.mp hseller
      by_cases hid : other.id = id
      · rw [if_pos hid]
        exact hten other hold
      · rw [if_neg hid]
        exact hten other hold
    · exact absurd hcreate (hother email phone password emailToken phoneToken)

theorem tenDigits_takes :
    (c.outcome.takesEffect = true → TenDigits settings i call c s) ↔ TenDigits settings i call c s := by
  unfold TenDigits
  split
  · exact ⟨fun h htakes => h htakes htakes, fun h _ => h⟩
  · simp

def registeredContract (settings : EndpointSettings) : Contract (endpointSystem settings) where
  inv := Registered settings
  rely := fun _ _ _ => True
  mayOutside := OnlyRemoves

/-! ## The endpoints -/

section Sound

/-- A program that keeps the collection as sign-ups make it, whatever it returns. -/
abbrev Registers {α : Type} (settings : EndpointSettings) (i : ℕ) (p : CallM α) (s : Directory) :
    Prop :=
  (registeredContract settings).Keeps i p s

theorem registers_perform (call : Call) (hbrought : Brought settings call) (s : Directory) :
    Registers settings i (Prog.perform call) s :=
  Sound.perform_outcome (o := ResetChoice.outcome)
    (f := fun c s => callEffect settings c s call) (fun _ _ => rfl) (fun _ _ => trivial)
    (fun _ _ _ hinv _ _ => ⟨callEffect_registered hinv hbrought, fun _ _ => trivial⟩)
    (fun _ _ _ _ _ _ _ _ => trivial) (fun _ _ _ _ _ _ _ _ => trivial)
    (fun _ _ _ _ _ _ _ => trivial) (fun _ _ _ _ _ _ _ => trivial)

/-! The programs that create no seller. -/

theorem all_orThrow {α : Type} (r : Except OtpError α) :
    (orThrow r : CallM α).All (Brought settings) := by
  cases r with
  | ok a => exact All.ret
  | error e => exact All.throw

theorem issueOtp_all (key : Key) : (issueOtp settings key).All (Brought settings) := by
  unfold issueOtp ensureTarget
  refine All.bind (All.bind (All.perform trivial) (fun existing => ?_)) (fun _ => ?_)
  · split
    · exact All.throw
    · exact All.throw
    · exact All.ret
  refine All.bind (All.perform trivial) (fun sendAllowed => ?_)
  refine All.ite All.throw ?_
  refine All.bind (All.perform trivial) (fun now => ?_)
  refine All.bind (All.perform trivial) (fun session => ?_)
  have hwait : (waitCooldown settings session now).All (Brought settings) := by
    unfold waitCooldown
    split
    · exact All.ret
    · exact All.ite All.throw All.ret
  refine All.bind hwait (fun _ => ?_)
  refine All.bind (All.perform trivial) (fun otp => ?_)
  refine All.bind ?_ (fun _ => All.perform trivial)
  cases session with
  | none | some => exact All.perform trivial

theorem verifyOtp_all (key : Key) (code : String) :
    (verifyOtp settings key code).All (Brought settings) := by
  unfold verifyOtp answerToken refuseCode
  refine All.ite All.throw ?_
  refine All.bind (All.perform trivial) (fun verifyAllowed => ?_)
  refine All.ite All.throw ?_
  refine All.bind (All.perform trivial) (fun session => ?_)
  refine All.bind (All.perform trivial) (fun now => ?_)
  split
  · exact All.throw
  · refine All.bind (All.perform trivial) (fun isValid => All.ite ?_ ?_)
    · refine All.bind (All.perform trivial) (fun now => ?_)
      exact All.bind (All.perform trivial) (fun _ => All.perform trivial)
    · refine All.bind (All.perform trivial) (fun _ => All.ite ?_ All.throw)
      exact All.bind (All.perform trivial) (fun _ => All.throw)

theorem loginSeller_all (identifier password : String) :
    (loginSeller settings identifier password).All (Brought settings) := by
  unfold loginSeller
  refine All.ite All.throw ?_
  refine All.bind (All.perform trivial) (fun seller => ?_)
  cases seller with
  | none => exact All.throw
  | some seller =>
    refine All.bind (All.perform trivial) (fun isMatch => ?_)
    refine All.ite All.throw (All.ite ?_ (All.perform trivial))
    exact All.bind (All.perform trivial) (fun _ => All.perform trivial)

theorem resetPassword_all (channel : Channel) (value : String) (token : ℕ) (newPassword : String) :
    (resetPassword settings channel value token newPassword).All (Brought settings) := by
  unfold resetPassword checkToken saveNewPassword
  refine All.ite All.throw (All.bind (All.bind (all_orThrow _) ?_) ?_)
  · intro target
    refine All.bind (All.perform trivial) (fun signed => ?_)
    cases signed with
    | none => exact All.throw
    | some signed => exact All.ite All.ret All.throw
  · intro verified
    refine All.bind (All.perform trivial) (fun seller => ?_)
    cases seller with
    | none => exact All.throw
    | some seller =>
      refine All.bind (All.perform trivial) (fun consumed => ?_)
      exact All.ite All.throw (All.perform trivial)

theorem checkSellerExists_all (email phone : String) :
    (checkSellerExists settings email phone).All (Brought settings) :=
  All.ite All.throw (All.bind (All.perform trivial) (fun _ => All.ret))

theorem checkSellerApplicationStatus_all (jwt : Option ℕ) (sellerId : Option ObjectId) :
    (checkSellerApplicationStatus jwt sellerId).All (Brought settings) := by
  unfold checkSellerApplicationStatus
  refine All.bind ?_ (fun user => All.ite All.throw ?_)
  · cases jwt with
    | none => exact All.ret
    | some jwt => exact All.perform trivial
  · refine All.bind (All.perform trivial) (fun seller => ?_)
    cases seller with
    | none => exact All.throw
    | some seller => exact All.perform trivial

theorem registers_of_all {p : CallM Unit} (hp : p.All (Brought settings)) (s : Directory) :
    Registers settings i p s :=
  Contract.sound_of_perform (P := Brought settings)
    (fun call hbrought s => registers_perform call hbrought s) hp s

/-! A sign-up. -/

theorem checkToken_registers (channel : Channel) (value : String) (token : ℕ) (s : Directory) :
    (registeredContract settings).Sound i
      (fun signed _ => normalizeTarget settings channel value = .ok signed.key.target)
      (fun _ _ => True) (checkToken settings .sellerSignup channel value token) s := by
  unfold checkToken
  cases htarget : normalizeTarget settings channel value with
  | error e => exact Sound.throw trivial
  | ok target =>
    refine Sound.bind (R := fun a _ => a = target) (Sound.ret rfl)
      (fun a s ha => ?_)
    subst ha
    refine Sound.bind (registers_perform (Call.verifyToken token) trivial s)
      (fun signed s _ => ?_)
    cases signed with
    | none => exact Sound.throw trivial
    | some signed =>
      refine Sound.ite (fun hkey => Sound.ret ?_)
        (fun _ => Sound.throw trivial)
      rw [hkey]

theorem signupSeller_registers (form : Signup) (s : Directory) :
    Registers settings i (signupSeller settings form) s := by
  unfold signupSeller
  refine Sound.ite_throw (fun _ => ?_)
  refine Sound.bind (checkToken_registers .email form.email form.emailToken s)
    (fun emailToken s hemail => ?_)
  refine Sound.bind (checkToken_registers .phone form.phone form.phoneToken s)
    (fun phoneToken s hphone => ?_)
  unfold normalizeTarget at hemail hphone
  refine Sound.bind (registers_perform _ (by trivial) s) (fun _ s _ => ?_)
  unfold createAccount
  refine Sound.bind (registers_perform _ (by trivial) s) (fun seller s _ => ?_)
  refine Sound.ite_throw (fun _ => ?_)
  refine Sound.bind (registers_perform _ (by trivial) s) (fun _ s _ => ?_)
  have hbrought : Brought settings
      (.createSeller form.email form.phone form.password emailToken phoneToken) := ⟨hemail, hphone⟩
  exact Sound.bind (registers_perform _ hbrought s)
    (fun id s _ => registers_perform (Call.generateToken id) trivial s)

theorem request_registers (request : Request) (s : Directory) :
    Registers settings i (request.program settings) s := by
  cases request with
  | signup form => exact signupSeller_registers form s
  | sendSignupOtp | sendResetOtp =>
    exact registers_of_all (All.bind (all_orThrow _) (fun _ => issueOtp_all _)) s
  | verifySignupOtp channel value otp =>
    exact registers_of_all (All.bind (all_orThrow _) (fun _ => verifyOtp_all _ otp)) s
  | login identifier password => exact registers_of_all (loginSeller_all identifier password) s
  | verifyResetOtp channel value otp =>
    exact registers_of_all (All.bind (all_orThrow _) (fun _ => verifyOtp_all _ otp)) s
  | reset channel value token newPassword =>
    exact registers_of_all (resetPassword_all channel value token newPassword) s
  | checkExists email phone => exact registers_of_all (checkSellerExists_all email phone) s
  | applicationStatus jwt sellerId =>
    exact registers_of_all (checkSellerApplicationStatus_all jwt sellerId) s

end Sound

/-! ## Every run -/

theorem registeredContract_lawful : (registeredContract settings).Lawful where
  refl := fun _ _ => trivial
  trans := fun _ _ _ _ _ _ => trivial
  idle := fun _ _ _ _ _ => trivial
  outside := by
    intro e s s' h hremoves hout
    refine ⟨?_, fun _ => trivial⟩
    cases e with
    | elapse | setSession =>
      cases hout
      exact h.of_sellers rfl
    | setSellers sellers =>
      cases hout
      exact h.sublist hremoves
  entry := fun request _ s _ _ _ => request_registers request s

def Directory.empty (clock : Date) (nextSeller : ObjectId) : Directory where
  clock := clock
  nextSeller := nextSeller

/-- Sellers sign up, log in and reset their passwords, in any number and any interleaving: all of
them are reachable exactly where each is created with its phone number sent as ten digits. -/
theorem sellers_reachable (settings : EndpointSettings) (clock : Date) (nextSeller : ObjectId)
    (acts : List EndpointAct)
    (hothers : Guarded (endpointSystem settings).step (OnEvents OnlyRemoves)
      ⟨empty clock nextSeller, []⟩ acts) :
    Along (endpointSystem settings).step (fun p => Reachable settings p.shared)
        ⟨empty clock nextSeller, []⟩ acts ↔
      Guarded (endpointSystem settings).step (OnOps (TenDigits settings))
        ⟨empty clock nextSeller, []⟩ acts := by
  have hregistered : Registered settings (empty clock nextSeller) :=
    ⟨fun _ hseller => absurd hseller not_mem_nil, nodup_nil, nodup_nil⟩
  have hreach : Reachable settings (empty clock nextSeller) :=
    hregistered.reachable_iff.mpr (fun _ hseller => absurd hseller not_mem_nil)
  have hall : ∀ (p : Pool Call Call.Reply OtpError Directory) (a : EndpointAct),
      OnOps (registeredContract settings).may p a := by
    intro p a
    cases a with
    | run task c => exact fun _ _ _ => trivial
    | outside | start => trivial
  have hmeets := Contract.guarded_meets (K := registeredContract settings) hothers
    (guarded_of_forall hall _ _)
  have hholds := Contract.holds_start (K := registeredContract settings) hregistered
    (fun _ => trivial)
  refine registeredContract_lawful.along_iff_onOps (P := Reachable settings)
    (fun i call c s hinv hs _ => ?_) ?_ hholds hreach hmeets
  · refine ⟨(c.outcome.perform (callEffect settings c s call) s).1,
      (c.outcome.perform (callEffect settings c s call) s).2, rfl, fun hinv' => ?_⟩
    have hten := hinv.reachable_iff.mp hs
    rw [hinv'.reachable_iff, ← tenDigits_takes]
    exact Outcome.perform_iff
      (P := fun s : Directory => ∀ seller ∈ s.sellers, isPhone seller.givenPhone = true) hten
      (fun htakes => callEffect_ten_iff hten htakes)
  · intro e s s' hinv hremoves hs hout hinv'
    rw [hinv'.reachable_iff]
    have hten := hinv.reachable_iff.mp hs
    cases e with
    | elapse | setSession =>
      cases hout
      exact hten
    | setSellers sellers =>
      cases hout
      exact fun seller hseller => hten seller (hremoves.subset hseller)

/-! ## Runs of one sign-up -/

/-- A code is sent to a contact and sent back. -/
def verifyContact (task : ℕ) (channel : Channel) (value : String) : List EndpointAct :=
  .start (.sendSignupOtp channel value) :: replicate 7 (.run task {}) ++
    .start (.verifySignupOtp channel value "1234") :: replicate 7 (.run (task + 1) {})

def signUpWith (phone : String) : List EndpointAct :=
  verifyContact 0 .email " spice@shop.in" ++ verifyContact 2 .phone phone ++
    .start (.signup ⟨" spice@shop.in", phone, "cardamom", 0, 1⟩) :: replicate 7 (.run 4 {})

theorem sellers_reachable_signUpWith :
    Along (endpointSystem plainEndpoints).step (fun p => Reachable plainEndpoints p.shared)
      ⟨empty 0 1, []⟩ (signUpWith "9876543210") :=
  (sellers_reachable plainEndpoints 0 1 (signUpWith "9876543210") (by decide +kernel)).mpr
    (by decide +kernel)

/-- A number with a space is stored with it. -/
theorem number_with_space :
    ¬ ∀ settings clock nextSeller acts,
      Guarded (endpointSystem settings).step (OnEvents OnlyRemoves)
        ⟨empty clock nextSeller, []⟩ acts →
      Along (endpointSystem settings).step (fun p => Reachable settings p.shared)
        ⟨empty clock nextSeller, []⟩ acts := by
  intro h
  have hlast := (h plainEndpoints 0 1 (signUpWith "98765 43210") (by decide +kernel)).last
  have hlogin : ∀ seller ∈ (exec (endpointSystem plainEndpoints).step
      ⟨empty 0 1, []⟩ (signUpWith "98765 43210")).shared.sellers,
      seller.phone = seller.verifiedPhone := fun seller hseller => hlast.stored seller hseller .phone
  exact absurd hlogin (by decide +kernel)

end DiscountBazar.Sellers
