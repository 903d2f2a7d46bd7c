/-
A seller's token is answered only to who has proven to be the seller.

To whom knows neither the seller's password nor a code that was sent to it, no comparison succeeds
for the seller, so no request gets past one: that is said by what each call tells. One endpoint
compares nothing, the status of an application, and answers a token to whom names the seller by its
id; the condition is that nobody does.
-/
import DiscountBazar.Sellers.Endpoints

namespace DiscountBazar.Sellers

open Tasks Runs
open Contract (Sound)
open Auth (OtpError)
open List Except

variable (settings : EndpointSettings) (victim : Seller)

/-! ## What is to hold -/

/-- No token of the seller was answered, and its password is what it was. -/
structure Unharmed (s : Directory) : Prop where
  untold : victim.id ∉ s.jwts
  password : ∀ seller ∈ s.sellers, seller.id = victim.id → seller.password = victim.password

/-! ## What is known, and the condition -/

/-- A session is for a contact of the seller. -/
def Key.reaches (key : Key) : Bool :=
  (⟨key.channel, key.target⟩ : Lookup).finds settings victim

/-- The requests come from somebody who knows neither the password nor a code that was sent to the
seller. -/
def Unknowing (_ : ℕ) (call : Call) (_ : ResetChoice) (_ : Directory) : Prop :=
  match call with
  | .compareOtp key read code =>
    key.purpose = .sellerReset → key.reaches settings victim = true →
      settings.hashOtp key code ≠ read.otp.hash
  | .comparePassword seller password =>
    seller.id = victim.id → settings.passwordMatches password seller.password = false
  | _ => True

/-- The condition: nobody asks for the status of the seller's application by its id alone. -/
def NotByIdAlone (_ : ℕ) (call : Call) (_ : ResetChoice) (_ : Directory) : Prop :=
  match call with
  | .findById user queried => user = none → queried ≠ some victim.id
  | _ => True

/-- The documents with the seller's id have its contacts and its password. -/
def KeepsSeller (sellers : List Seller) : Prop :=
  ∀ seller ∈ sellers, seller.id = victim.id →
    seller.email = victim.email ∧ seller.phone = victim.phone ∧ seller.password = victim.password

/-- What others do to the collection leaves the seller as it is. -/
def OthersKeep (e : DirectoryEvent) (_ : Directory) : Prop :=
  match e with
  | .setSellers sellers => KeepsSeller victim sellers
  | _ => True

/-- What the requests start from: no token of the seller, and none for a reset of it. -/
structure Unproven (s : Directory) : Prop where
  untold : victim.id ∉ s.jwts
  sellers : KeepsSeller victim s.sellers
  tokens : ∀ token ∈ s.tokens, token.key.purpose = .sellerReset →
    token.key.reaches settings victim = false
  fresh : victim.id < s.nextSeller

instance (task : ℕ) (call : Call) (c : ResetChoice) (s : Directory) :
    Decidable (Unknowing settings victim task call c s) := by
  unfold Unknowing
  split
  · infer_instance
  · infer_instance
  · infer_instance

instance (task : ℕ) (call : Call) (c : ResetChoice) (s : Directory) :
    Decidable (NotByIdAlone victim task call c s) := by
  unfold NotByIdAlone
  split
  · infer_instance
  · infer_instance

instance (sellers : List Seller) : Decidable (KeepsSeller victim sellers) :=
  inferInstanceAs (Decidable (∀ seller ∈ sellers, _ → _))

instance (e : DirectoryEvent) (s : Directory) : Decidable (OthersKeep victim e s) :=
  match e with
  | .setSellers sellers => inferInstanceAs (Decidable (KeepsSeller victim sellers))
  | .elapse _ => .isTrue trivial
  | .setSession _ _ => .isTrue trivial

variable {settings victim}

theorem Unproven.unharmed {s : Directory} (h : Unproven settings victim s) : Unharmed victim s where
  untold := h.untold
  password := fun seller hseller hid => (h.sellers seller hseller hid).2.2

theorem finds_of_keeps {sellers : List Seller} (h : KeepsSeller victim sellers) {lookup : Lookup}
    {seller : Seller} (hseller : seller ∈ sellers) (hid : seller.id = victim.id) :
    lookup.finds settings seller = lookup.finds settings victim := by
  obtain ⟨hemail, hphone, -⟩ := h seller hseller hid
  unfold Lookup.finds
  rw [hemail, hphone]

/-! ## One call -/

/-- What a request has to know before a call. -/
def Entitled (settings : EndpointSettings) (victim : Seller) : Call → Prop
  | .findById user _ => user ≠ some victim.id
  | .signToken key => key.purpose = .sellerReset → key.reaches settings victim = false
  | .savePassword id _ => id ≠ victim.id
  | .generateToken id => id ≠ victim.id
  | _ => True

def Tells (settings : EndpointSettings) (victim : Seller) : (call : Call) → call.Reply → Prop
  | .findSeller lookups, found =>
    ∀ seller, found = some seller → seller.id = victim.id →
      lookups.any (fun lookup => lookup.finds settings victim) = true
  | .findById _ _, found => ∀ seller, found = some seller → seller.id ≠ victim.id
  | .compareOtp key _ _, isValid =>
    isValid = true → key.purpose = .sellerReset → key.reaches settings victim = false
  | .verifyToken _, signed =>
    ∀ token, signed = some token → token.key.purpose = .sellerReset →
      token.key.reaches settings victim = false
  | .createSeller _ _ _ _ _, id => id ≠ victim.id
  | .comparePassword seller _, isMatch => isMatch = true → seller.id ≠ victim.id
  | .readJwt _, user => user ≠ some victim.id
  | _, _ => True

variable {s : Directory} {i : ℕ} {c : ResetChoice}

theorem Unproven.of_eq {s' : Directory} (h : Unproven settings victim s)
    (hjwts : s'.jwts = s.jwts) (hsellers : s'.sellers = s.sellers) (htokens : s'.tokens = s.tokens)
    (hnext : s'.nextSeller = s.nextSeller) : Unproven settings victim s' := by
  refine ⟨?_, ?_, ?_, ?_⟩
  · rw [hjwts]
    exact h.untold
  · rw [hsellers]
    exact h.sellers
  · rw [htokens]
    exact h.tokens
  · rw [hnext]
    exact h.fresh

theorem Unproven.createSeller (h : Unproven settings victim s) {seller : Seller}
    (hid : seller.id = s.nextSeller) :
    Unproven settings victim
      { s with sellers := s.sellers ++ [seller], nextSeller := s.nextSeller + 1 } where
  untold := h.untold
  sellers := by
    intro other hother hvictim
    rcases mem_append.mp hother with hold | hnew
    · exact h.sellers other hold hvictim
    · have hfresh := h.fresh
      rw [mem_singleton.mp hnew, hid] at hvictim
      exact absurd hvictim (Nat.ne_of_gt hfresh)
  tokens := h.tokens
  fresh := Nat.lt_succ_of_lt h.fresh

theorem Unproven.savePassword (h : Unproven settings victim s) {id : ObjectId} (hid : id ≠ victim.id)
    (password : String) :
    Unproven settings victim
      { s with
        sellers := s.sellers.map (fun seller =>
          if seller.id = id then { seller with password } else seller) } where
  untold := h.untold
  sellers := by
    intro other hother hvictim
    obtain ⟨seller, hseller, rfl⟩ := mem_map.mp hother
    by_cases hsame : seller.id = id
    · rw [if_pos hsame] at hvictim
      exact absurd (hsame.symm.trans hvictim) hid
    · rw [if_neg hsame] at hvictim ⊢
      exact h.sellers seller hseller hvictim
  tokens := h.tokens
  fresh := h.fresh

theorem Unproven.generateToken (h : Unproven settings victim s) {id : ObjectId}
    (hid : id ≠ victim.id) : Unproven settings victim { s with jwts := s.jwts ++ [id] } where
  untold := by
    intro hmem
    rcases mem_append.mp hmem with hold | hnew
    · exact h.untold hold
    · exact hid (mem_singleton.mp hnew).symm
  sellers := h.sellers
  tokens := h.tokens
  fresh := h.fresh

theorem Unproven.signToken (h : Unproven settings victim s) {token : SignedToken}
    (hkey : token.key.purpose = .sellerReset → token.key.reaches settings victim = false) :
    Unproven settings victim { s with tokens := s.tokens ++ [token] } where
  untold := h.untold
  sellers := h.sellers
  tokens := by
    intro other hother
    rcases mem_append.mp hother with hold | hnew
    · exact h.tokens other hold
    · rw [mem_singleton.mp hnew]
      exact hkey
  fresh := h.fresh

theorem callEffect_inv (h : Unproven settings victim s) {call : Call}
    (hentitled : Entitled settings victim call) :
    Unproven settings victim (callEffect settings c s call).2 := by
  cases call with
  | findSeller | findById | countRequest | now | findSession | generateOtp | dispatchOtp
  | compareOtp | verifyToken | checkApplication | comparePassword | readJwt => exact h
  | createSession key otp now =>
    unfold callEffect
    dsimp only
    split
    · exact h
    · exact h.of_eq rfl rfl rfl rfl
  | saveIssued | saveFailed | deleteSession | saveVerified | consumeSession =>
    unfold callEffect
    dsimp only
    split
    · exact h.of_eq rfl rfl rfl rfl
    · exact h
  | signToken key => exact h.signToken hentitled
  | createSeller email phone password emailToken phoneToken =>
    unfold callEffect
    dsimp only
    split
    · exact h
    · exact h.createSeller rfl
  | saveLogin id =>
    unfold callEffect
    dsimp only
    split
    · exact h
    · exact h
  | savePassword id newPassword =>
    unfold callEffect
    dsimp only
    split
    · exact h.savePassword hentitled _
    · exact h
  | generateToken id => exact h.generateToken hentitled

theorem callEffect_tells (h : Unproven settings victim s) {call : Call}
    (hentitled : Entitled settings victim call)
    (hunknowing : Unknowing settings victim i call c s) (hnot : NotByIdAlone victim i call c s)
    {a : call.Reply} (hreply : (callEffect settings c s call).1 = .ok a) :
    Tells settings victim call a := by
  cases call with
  | findSeller lookups =>
    have hfound : s.findOne settings lookups = a := ok.inj hreply
    intro seller hseller hid
    rw [hseller] at hfound
    have hmem := mem_of_find?_eq_some hfound
    have hany := find?_some hfound
    rw [any_eq_true] at hany ⊢
    obtain ⟨lookup, hlookup, hfinds⟩ := hany
    exact ⟨lookup, hlookup, (finds_of_keeps h.sellers hmem hid) ▸ hfinds⟩
  | findById user queried =>
    have hfound := ok.inj hreply
    intro seller hseller hid
    rw [hseller] at hfound
    obtain ⟨id, hasked, hfind⟩ := Option.bind_eq_some_iff.mp hfound
    have hsame : seller.id = id :=
      of_decide_eq_true (find?_some (p := fun x : Seller => decide (x.id = id)) hfind)
    have hvictim : user.or queried = some victim.id := by
      rw [hasked, ← hsame, hid]
    cases user with
    | none => exact hnot rfl hvictim
    | some user => exact hentitled hvictim
  | compareOtp key read code =>
    intro hvalid hpurpose
    have hright := (ok.inj hreply).trans hvalid
    cases hreaches : key.reaches settings victim with
    | false => rfl
    | true => exact absurd (of_decide_eq_true hright) (hunknowing hpurpose hreaches)
  | verifyToken token =>
    intro signed hsigned
    have hstored := (ok.inj hreply).trans hsigned
    obtain ⟨hstored, -⟩ := Option.filter_eq_some_iff.mp hstored
    exact h.tokens signed (mem_of_getElem? hstored)
  | createSeller email phone password emailToken phoneToken =>
    unfold callEffect at hreply
    dsimp only at hreply
    split at hreply
    · cases hreply
    · have hid : s.nextSeller = a := ok.inj hreply
      have hfresh := h.fresh
      intro hsame
      rw [← hid] at hsame
      exact absurd hsame (Nat.ne_of_gt hfresh)
  | comparePassword seller password =>
    intro hmatch hid
    have hright := (ok.inj hreply).trans hmatch
    rw [hunknowing hid] at hright
    cases hright
  | readJwt jwt =>
    have hread : s.jwts[jwt]? = a := ok.inj hreply
    intro hvictim
    exact h.untold (mem_of_getElem? (hread.trans hvictim))
  | countRequest | now | findSession | generateOtp | createSession | saveIssued | dispatchOtp
  | saveFailed | deleteSession | saveVerified | signToken | consumeSession | checkApplication
  | saveLogin | savePassword | generateToken => trivial

/-- Requests of somebody who knows nothing of the seller. -/
def unprovenContract (settings : EndpointSettings) (victim : Seller) :
    Contract (endpointSystem settings) where
  inv := Unproven settings victim
  rely := fun _ _ _ => True
  may := fun i call c s => Unknowing settings victim i call c s ∧ NotByIdAlone victim i call c s
  mayOutside := OthersKeep victim

/-! ## The endpoints -/

section Sound

theorem unproven_perform (call : Call) (hentitled : Entitled settings victim call) (s : Directory) :
    (unprovenContract settings victim).Sound i (fun a _ => Tells settings victim call a)
      (fun _ _ => True) (Prog.perform call) s :=
  Sound.perform_outcome (o := ResetChoice.outcome) (f := fun c s => callEffect settings c s call)
    (fun _ _ => rfl) (fun _ _ => trivial)
    (fun _ _ _ hinv _ _ => ⟨callEffect_inv hinv hentitled, fun _ _ => trivial⟩)
    (fun _ _ _ _ hinv hmay _ hreply => callEffect_tells hinv hentitled hmay.1 hmay.2 hreply)
    (fun _ _ _ _ _ _ _ _ => trivial) (fun _ _ _ _ _ _ _ => trivial)
    (fun _ _ _ _ _ _ _ => trivial)

/-- A program that keeps the seller unharmed, whatever it returns. -/
abbrev Harmless {α : Type} (settings : EndpointSettings) (victim : Seller) (i : ℕ) (p : CallM α)
    (s : Directory) : Prop :=
  (unprovenContract settings victim).Keeps i p s

theorem harmless_perform (call : Call) (hentitled : Entitled settings victim call) (s : Directory) :
    Harmless settings victim i (Prog.perform call) s :=
  (unproven_perform call hentitled s).mono (fun _ _ _ => trivial) (fun _ _ _ => trivial)

theorem harmless_orThrow {α : Type} (r : Except OtpError α) (s : Directory) :
    Harmless settings victim i (orThrow r) s := by
  cases r with
  | ok a => exact Sound.ret trivial
  | error e => exact Sound.throw trivial

theorem ensureTarget_harmless (key : Key) (s : Directory) :
    Harmless settings victim i (ensureTarget key) s := by
  unfold ensureTarget
  refine Sound.bind (harmless_perform _ (by trivial) s) (fun existing s _ => ?_)
  split
  · exact Sound.throw trivial
  · exact Sound.throw trivial
  · exact Sound.ret trivial

theorem issueOtp_harmless (key : Key) (s : Directory) :
    Harmless settings victim i (issueOtp settings key) s := by
  unfold issueOtp
  refine Sound.bind (ensureTarget_harmless key s) (fun _ s _ => ?_)
  refine Sound.bind (harmless_perform _ (by trivial) s) (fun sendAllowed s _ => ?_)
  refine Sound.ite_throw (fun _ => ?_)
  refine Sound.bind (harmless_perform _ (by trivial) s) (fun now s _ => ?_)
  refine Sound.bind (harmless_perform _ (by trivial) s) (fun session s _ => ?_)
  have hwait : Harmless settings victim i (waitCooldown settings session now) s := by
    unfold waitCooldown
    split
    · exact Sound.ret trivial
    · exact Sound.ite_throw
        (fun _ => Sound.ret trivial)
  refine Sound.bind hwait (fun _ s _ => ?_)
  refine Sound.bind (harmless_perform _ (by trivial) s) (fun otp s _ => ?_)
  have hsave : Harmless settings victim i (saveCode key session otp now) s := by
    cases session with
    | none | some => exact harmless_perform _ (by trivial) s
  exact Sound.bind hsave (fun _ s _ => harmless_perform _ (by trivial) s)

theorem verifyOtp_harmless (key : Key) (code : String) (s : Directory) :
    Harmless settings victim i (verifyOtp settings key code) s := by
  unfold verifyOtp
  refine Sound.ite_throw (fun _ => ?_)
  refine Sound.bind (harmless_perform _ (by trivial) s) (fun verifyAllowed s _ => ?_)
  refine Sound.ite_throw (fun _ => ?_)
  refine Sound.bind (harmless_perform _ (by trivial) s) (fun session s _ => ?_)
  refine Sound.bind (harmless_perform _ (by trivial) s) (fun now s _ => ?_)
  split
  next => exact Sound.throw trivial
  next session _ =>
    refine Sound.bind (unproven_perform (Call.compareOtp key session code) trivial s)
      (fun isValid s htells => ?_)
    refine Sound.ite (fun hvalid => ?_) (fun _ => ?_)
    · -- the right code of a reset is not one of the seller's
      refine Sound.bind (harmless_perform _ (by trivial) s) (fun now s _ => ?_)
      refine Sound.bind (harmless_perform _ (by trivial) s) (fun _ s _ => ?_)
      exact harmless_perform (Call.signToken key) (htells hvalid) s
    · refine Sound.bind (harmless_perform _ (by trivial) s) (fun _ s _ => ?_)
      refine Sound.ite (fun _ => ?_) (fun _ => Sound.throw trivial)
      exact Sound.bind (harmless_perform _ (by trivial) s)
        (fun _ s _ => Sound.throw trivial)

theorem checkToken_harmless (purpose : Purpose) (channel : Channel) (value : String) (token : ℕ)
    (s : Directory) :
    Harmless settings victim i (checkToken settings purpose channel value token) s := by
  unfold checkToken
  refine Sound.bind (harmless_orThrow _ s) (fun target s _ => ?_)
  refine Sound.bind (harmless_perform _ (by trivial) s) (fun signed s _ => ?_)
  cases signed with
  | none => exact Sound.throw trivial
  | some signed =>
    exact Sound.ite (fun _ => Sound.ret trivial)
      (fun _ => Sound.throw trivial)

theorem checkToken_sound (channel : Channel) (value : String) (token : ℕ) (s : Directory) :
    (unprovenContract settings victim).Sound i
      (fun token _ => token.key.reaches settings victim = false) (fun _ _ => True)
      (checkToken settings .sellerReset channel value token) s := by
  unfold checkToken
  refine Sound.bind (harmless_orThrow _ s) (fun target s _ => ?_)
  refine Sound.bind (unproven_perform (Call.verifyToken token) trivial s)
    (fun signed s htells => ?_)
  cases signed with
  | none => exact Sound.throw trivial
  | some signed =>
    refine Sound.ite (fun hkey => Sound.ret ?_)
      (fun _ => Sound.throw trivial)
    exact htells signed rfl (by rw [hkey])

theorem createAccount_harmless (form : Signup) (emailToken phoneToken : SignedToken)
    (s : Directory) :
    Harmless settings victim i (createAccount form emailToken phoneToken) s := by
  unfold createAccount
  refine Sound.bind (harmless_perform _ (by trivial) s) (fun seller s _ => ?_)
  refine Sound.ite_throw (fun _ => ?_)
  refine Sound.bind (harmless_perform _ (by trivial) s) (fun _ s _ => ?_)
  refine Sound.bind
    (unproven_perform
      (Call.createSeller form.email form.phone form.password emailToken phoneToken) trivial s)
    (fun id s htells => ?_)
  exact harmless_perform (Call.generateToken id) htells s

theorem signupSeller_harmless (form : Signup) (s : Directory) :
    Harmless settings victim i (signupSeller settings form) s := by
  unfold signupSeller
  refine Sound.ite_throw (fun _ => ?_)
  have hemail : Harmless settings victim i
      (checkToken settings .sellerSignup .email form.email form.emailToken) s :=
    checkToken_harmless _ _ _ _ s
  refine Sound.bind (R := fun _ _ => True) hemail (fun emailToken s _ => ?_)
  have hphone : Harmless settings victim i
      (checkToken settings .sellerSignup .phone form.phone form.phoneToken) s :=
    checkToken_harmless _ _ _ _ s
  refine Sound.bind (R := fun _ _ => True) hphone (fun phoneToken s _ => ?_)
  exact Sound.bind (harmless_perform _ (by trivial) s)
    (fun _ s _ => createAccount_harmless form emailToken phoneToken s)

theorem loginSeller_harmless (identifier password : String) (s : Directory) :
    Harmless settings victim i (loginSeller settings identifier password) s := by
  unfold loginSeller
  refine Sound.ite_throw (fun _ => ?_)
  refine Sound.bind (harmless_perform _ (by trivial) s) (fun seller s _ => ?_)
  cases seller with
  | none => exact Sound.throw trivial
  | some seller =>
    refine Sound.bind
      (unproven_perform (Call.comparePassword seller password) trivial s)
      (fun isMatch s htells => ?_)
    unfold finishSellerLogin
    refine Sound.ite_throw (fun hmatch => ?_)
    have hid : seller.id ≠ victim.id := htells (Bool.not_eq_false _ ▸ hmatch)
    refine Sound.ite (fun _ => ?_)
      (fun _ => harmless_perform (Call.generateToken seller.id) hid s)
    exact Sound.bind (harmless_perform _ (by trivial) s)
      (fun _ s _ => harmless_perform (Call.generateToken seller.id) hid s)

theorem resetPassword_harmless (channel : Channel) (value : String) (token : ℕ)
    (newPassword : String) (s : Directory) :
    Harmless settings victim i (resetPassword settings channel value token newPassword) s := by
  unfold resetPassword
  refine Sound.ite_throw (fun _ => ?_)
  have hcheck : (unprovenContract settings victim).Sound i
      (fun token _ => token.key.reaches settings victim = false) (fun _ _ => True)
      (checkToken settings .sellerReset channel value token) s :=
    checkToken_sound channel value token s
  refine Sound.bind hcheck (fun verified s hverified => ?_)
  unfold saveNewPassword
  refine Sound.bind
    (unproven_perform (Call.findSeller [⟨verified.key.channel, verified.key.target⟩])
      trivial s)
    (fun seller s htells => ?_)
  cases seller with
  | none => exact Sound.throw trivial
  | some seller =>
    -- a token that is not for a contact of the seller does not find it
    have hid : seller.id ≠ victim.id := by
      intro hid
      have hfinds := htells seller rfl hid
      rw [any_cons, any_nil, Bool.or_false] at hfinds
      unfold Key.reaches at hverified
      rw [hverified] at hfinds
      cases hfinds
    refine Sound.bind (harmless_perform _ (by trivial) s) (fun consumed s _ => ?_)
    exact Sound.ite_throw
      (fun _ => harmless_perform (Call.savePassword seller.id newPassword) hid s)

theorem checkSellerExists_harmless (email phone : String) (s : Directory) :
    Harmless settings victim i (checkSellerExists settings email phone) s := by
  unfold checkSellerExists
  refine Sound.ite_throw (fun _ => ?_)
  exact Sound.bind (harmless_perform _ (by trivial) s) (fun _ _ _ => trivial)

theorem checkSellerApplicationStatus_harmless (jwt : Option ℕ) (sellerId : Option ObjectId)
    (s : Directory) :
    Harmless settings victim i (checkSellerApplicationStatus jwt sellerId) s := by
  unfold checkSellerApplicationStatus
  have huser : (unprovenContract settings victim).Sound i (fun user _ => user ≠ some victim.id)
      (fun _ _ => True) (optionalVerifyToken jwt) s := by
    cases jwt with
    | none => exact Sound.ret (Option.some_ne_none victim.id).symm
    | some jwt => exact unproven_perform (Call.readJwt jwt) trivial s
  refine Sound.bind huser (fun user s huser => ?_)
  refine Sound.ite_throw (fun _ => ?_)
  refine Sound.bind
    (unproven_perform (Call.findById user sellerId) huser s) (fun seller s htells => ?_)
  cases seller with
  | none => exact Sound.throw trivial
  | some seller => exact harmless_perform (Call.generateToken seller.id) (htells seller rfl) s

theorem request_harmless (request : Request) (s : Directory) :
    Harmless settings victim i (request.program settings) s := by
  cases request with
  | sendSignupOtp | sendResetOtp =>
    exact Sound.bind (harmless_orThrow _ s) (fun _ s _ => issueOtp_harmless _ s)
  | verifySignupOtp channel value otp =>
    exact Sound.bind (harmless_orThrow _ s) (fun _ s _ => verifyOtp_harmless _ otp s)
  | signup form => exact signupSeller_harmless form s
  | login identifier password => exact loginSeller_harmless identifier password s
  | verifyResetOtp channel value otp =>
    exact Sound.bind (harmless_orThrow _ s) (fun _ s _ => verifyOtp_harmless _ otp s)
  | reset channel value token newPassword =>
    exact resetPassword_harmless channel value token newPassword s
  | checkExists email phone => exact checkSellerExists_harmless email phone s
  | applicationStatus jwt sellerId =>
    exact checkSellerApplicationStatus_harmless jwt sellerId s

end Sound

/-! ## Every run -/

theorem unprovenContract_lawful : (unprovenContract settings victim).Lawful where
  refl := fun _ _ => trivial
  trans := fun _ _ _ _ _ _ => trivial
  idle := fun _ _ _ _ _ => trivial
  outside := by
    intro e s s' h hkeeps hout
    refine ⟨?_, fun _ => trivial⟩
    cases e with
    | elapse | setSession =>
      cases hout
      exact h.of_eq rfl rfl rfl rfl
    | setSellers sellers =>
      cases hout
      exact ⟨h.untold, hkeeps, h.tokens, h.fresh⟩
  entry := fun request _ s _ _ _ => request_harmless request s

/-- Requests to the public endpoints, in any number and any interleaving, from somebody who knows
neither the password of a seller nor a code that was sent to it nor has a token of it: as long as
none names it by its id alone, none is answered a token of the seller, and its password stays. -/
theorem tokens_need_proof (settings : EndpointSettings) (victim : Seller) (s : Directory)
    (hstart : Unproven settings victim s) (acts : List EndpointAct)
    (hothers : Guarded (endpointSystem settings).step (OnEvents (OthersKeep victim)) ⟨s, []⟩ acts)
    (hunknowing : Guarded (endpointSystem settings).step (OnOps (Unknowing settings victim))
      ⟨s, []⟩ acts)
    (hnot : Guarded (endpointSystem settings).step (OnOps (NotByIdAlone victim)) ⟨s, []⟩ acts) :
    Along (endpointSystem settings).step (fun p => Unharmed victim p.shared) ⟨s, []⟩ acts := by
  have hops := (hunknowing.and hnot).mono (fun _ _ h => OnOps.and h.1 h.2)
  have hmeets := Contract.guarded_meets (K := unprovenContract settings victim) hothers hops
  have hholds := Contract.holds_start (K := unprovenContract settings victim) hstart
    (fun _ => trivial)
  exact (unprovenContract_lawful.along hholds hmeets).mono (fun p hp => hp.inv.unharmed)

/-! ## Runs against one seller -/

def smallLetters : LowerCase where
  lower := id
  lower_lower := fun _ => rfl
  trim_lower := fun _ => rfl
  hasAt_lower := fun _ => rfl

def plainEndpoints : EndpointSettings where
  letters := smallLetters
  hashOtp := fun _ => id
  hashPassword := id
  passwordMatches := fun entered stored => decide (entered = stored)

def spiceShop : Seller where
  id := 7
  email := "spice@shop.in"
  phone := "9876543210"
  password := "cardamom"
  applicationStatus := .approved
  isVerified := true
  isActive := true
  givenEmail := "spice@shop.in"
  givenPhone := "9876543210"
  verifiedEmail := "spice@shop.in"
  verifiedPhone := "9876543210"

def bazar : Directory where
  clock := 0
  sellers := [spiceShop]
  nextSeller := 8

theorem bazar_unproven : Unproven plainEndpoints spiceShop bazar where
  untold := not_mem_nil
  sellers := by
    intro seller hseller _
    rw [mem_singleton.mp hseller]
    exact ⟨rfl, rfl, rfl⟩
  tokens := fun _ htoken => absurd htoken not_mem_nil
  fresh := by decide

/-- A password is tried, and a code that was sent to the seller. -/
def guessBoth : List EndpointAct :=
  [.start (.login "spice@shop.in" "pepper"), .run 0 {}, .run 0 {},
    .start (.sendResetOtp .email "spice@shop.in")] ++ replicate 7 (.run 1 { otp := "4821" }) ++
    .start (.verifyResetOtp .email "spice@shop.in" "0000") :: replicate 5 (.run 2 {})

theorem tokens_need_proof_guessBoth :
    Along (endpointSystem plainEndpoints).step (fun p => Unharmed spiceShop p.shared)
      ⟨bazar, []⟩ guessBoth :=
  tokens_need_proof plainEndpoints spiceShop bazar bazar_unproven guessBoth (by decide +kernel)
    (by decide +kernel) (by decide +kernel)

def askByIdAlone : List EndpointAct :=
  [.start (.applicationStatus none (some 7)), .run 0 {}, .run 0 {}]

/-- The answer has a token of the seller. -/
theorem token_by_id_alone :
    ¬ ∀ settings victim s acts, Unproven settings victim s →
      Guarded (endpointSystem settings).step (OnEvents (OthersKeep victim)) ⟨s, []⟩ acts →
      Guarded (endpointSystem settings).step (OnOps (Unknowing settings victim)) ⟨s, []⟩ acts →
      Along (endpointSystem settings).step (fun p => Unharmed victim p.shared) ⟨s, []⟩ acts := by
  intro h
  have hlast := (h plainEndpoints spiceShop bazar askByIdAlone bazar_unproven (by decide +kernel)
    (by decide +kernel)).last
  exact hlast.untold (by decide +kernel)

end DiscountBazar.Sellers
