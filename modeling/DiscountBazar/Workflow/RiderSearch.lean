/-
The search for a rider (`processDeliveryTimeoutJob`, `processReturnPickupTimeoutJob`).

A search starts with its first attempt. When its time is up a timeout job widens it, and starts the
next attempt, or gives it up; the queue and a sweep run the job, several at once, for any attempt.
The update of the job looks at the order's status and not at the attempt, so a run that is slow
writes what follows from the attempt it has read. `started` and `expiries` are history that no code
reads: the attempts of the search, the last one first, and the updates of timeouts that were made.
-/
import DiscountBazar.Finance.Types
import DiscountBazar.Lib.Tasks

namespace DiscountBazar.Workflow.RiderSearch

open Tasks Finance Runs Prog
open Contract (Sound)
open List

/-! ## A search -/

/-- `deliverySearchMeta` and `returnSearchMeta`, with the defaults of the schema. -/
structure SearchMeta where
  radiusMeters : ℕ := 5000
  attempt : ℕ := 1
  deriving DecidableEq

structure SearchOrder (σ : Type) where
  status : σ
  rider : Option ObjectId
  expiresAt : Option Date
  searchMeta : SearchMeta

structure SearchSettings where
  maxAttempts : ℕ := 3
  initialRadius : ℕ := 5000
  multiplier : ℚ := 3 / 2
  timeoutMs : ℤ := 60000

/-- A kind of search: when it is on, which does not depend on its attempt; what giving it up writes,
which ends it; and whether a run whose update finds nothing goes on as if it had. -/
structure SearchKind (σ : Type) where
  searching : SearchOrder σ → Bool
  givenUp : SearchOrder σ → SearchOrder σ
  ends : ∀ order, searching (givenUp order) = false
  keeps : ∀ order searchMeta expiresAt,
    searching { order with searchMeta := searchMeta, expiresAt := expiresAt } = searching order
  goesOn : Bool

def deliverySearch : SearchKind WorkflowStatus where
  searching order := decide (order.status = .deliverySearch)
  givenUp order := { order with status := .cancelled }
  ends _ := rfl
  keeps _ _ _ := rfl
  goesOn := true

def returnSearch : SearchKind ReturnStatus where
  searching order := decide (order.status = .returnPickupAssigned ∧ order.rider = none)
  givenUp order := { order with status := .returnApproved, expiresAt := none, searchMeta := {} }
  ends _ := rfl
  keeps _ _ _ := rfl
  goesOn := false

structure Search (σ : Type) where
  order : SearchOrder σ
  clock : Date
  started : List SearchMeta
  expiries : ℕ := 0

/-! ## Calls -/

inductive Kind where
  /-- `new Date()` -/
  | now
  | findOrder
  /-- the update that starts the next attempt, if the search is on -/
  | widen (searchMeta : SearchMeta) (expiresAt : Date)
  /-- the update that gives the search up, if it is on -/
  | giveUp
  | scheduleTimeoutJob (attempt : ℕ)
  | broadcast (retryAttempt : ℕ)
  /-- what follows a search that is given up -/
  | announce

@[reducible] def Kind.Reply (σ : Type) : Kind → Type
  | .now => Date
  | .findOrder => SearchOrder σ
  | .widen _ _ | .giveUp => Bool
  | _ => Unit

section Job

variable {σ : Type} (kind : SearchKind σ) (settings : SearchSettings)

/-- The next attempt is started. -/
def Search.widened (s : Search σ) (searchMeta : SearchMeta) (expiresAt : Date) : Search σ :=
  { s with
    order := { s.order with searchMeta := searchMeta, expiresAt := some expiresAt }
    started := searchMeta :: s.started
    expiries := s.expiries + 1 }

def effect (s : Search σ) : (call : Kind) → Except ServiceError (call.Reply σ) × Search σ
  | .now => (.ok s.clock, s)
  | .findOrder => (.ok s.order, s)
  | .widen searchMeta expiresAt =>
    if kind.searching s.order then (.ok true, s.widened searchMeta expiresAt) else (.ok false, s)
  | .giveUp =>
    if kind.searching s.order then
      (.ok true, { s with order := kind.givenUp s.order, expiries := s.expiries + 1 })
    else (.ok false, s)
  | .scheduleTimeoutJob _ => (.ok (), s)
  | .broadcast _ => (.ok (), s)
  | .announce => (.ok (), s)

/-! ## The job -/

abbrev M (σ : Type) := Prog Kind (Kind.Reply σ) ServiceError

/-- `meta.attempt || attempt || 1`. -/
def currentAttempt (searchMeta : SearchMeta) (attempt : ℕ) : ℕ :=
  if searchMeta.attempt ≠ 0 then searchMeta.attempt else if attempt ≠ 0 then attempt else 1

def nextRadius (searchMeta : SearchMeta) : ℕ :=
  let radius :=
    if searchMeta.radiusMeters ≠ 0 then searchMeta.radiusMeters else settings.initialRadius
  (mathRound (radius * settings.multiplier)).toNat

def startNextAttempt (now : Date) (searchMeta : SearchMeta) (attempt : ℕ) : M σ Unit := do
  let updated ← perform (Kind.widen ⟨nextRadius settings searchMeta, attempt + 1⟩
    (now + settings.timeoutMs))
  if updated = false ∧ kind.goesOn = false then pure ()
  else do
    perform (Kind.scheduleTimeoutJob (attempt + 1))
    perform (Kind.broadcast (attempt + 1))

def giveUpSearch : M σ Unit := do
  let updated ← perform Kind.giveUp
  if updated then perform Kind.announce else pure ()

def processTimeoutJob (attempt : ℕ) : M σ Unit := do
  let now ← perform Kind.now
  let order ← perform Kind.findOrder
  if kind.searching order = false then pure ()
  else if order.expiresAt.any (fun t => decide (now < t)) then pure ()
  else if currentAttempt order.searchMeta attempt < settings.maxAttempts then
    startNextAttempt kind settings now order.searchMeta (currentAttempt order.searchMeta attempt)
  else giveUpSearch

end Job

def processDeliveryTimeoutJob (settings : SearchSettings) (attempt : ℕ) : M WorkflowStatus Unit :=
  processTimeoutJob deliverySearch settings attempt

def processReturnPickupTimeoutJob (settings : SearchSettings) (attempt : ℕ) : M ReturnStatus Unit :=
  processTimeoutJob returnSearch settings attempt

/-! ## Runs -/

/-- Time passes; or the search ends otherwise, and what the order then becomes: a rider accepts, or
the order is cancelled. -/
inductive Event (σ : Type) where
  | elapse (milliseconds : ℕ)
  | leave (order : SearchOrder σ)

section System

variable {σ : Type} (kind : SearchKind σ) (settings : SearchSettings)

def performOp (_ : ℕ) (call : Kind) (c : Outcome ServiceError) (s : Search σ) :
    Option (Except ServiceError (call.Reply σ) × Search σ) :=
  some (c.perform (effect kind s call) s)

def outside : Event σ → Search σ → Option (Search σ)
  | .elapse milliseconds, s => some { s with clock := s.clock + milliseconds }
  | .leave order, s => if kind.searching order then none else some { s with order }

/-- Any number of jobs, from the queue and from the sweep, each with the attempt it is for. -/
def searchSystem :
    System Kind (Kind.Reply σ) ServiceError (Search σ) (Outcome ServiceError) (Event σ) ℕ where
  perform := performOp kind
  outside := outside kind
  entry := processTimeoutJob kind settings
  mayStart := fun _ _ => true

abbrev Act (σ : Type) := Action (Outcome ServiceError) (Event σ) ℕ

end System

def sellerAccepted (settings : SearchSettings) (now : Date) : Search WorkflowStatus where
  order := ⟨.deliverySearch, none, some (now + settings.timeoutMs), ⟨settings.initialRadius, 1⟩⟩
  clock := now
  started := [⟨settings.initialRadius, 1⟩]

def startReturnPickupBroadcast (settings : SearchSettings) (now : Date) : Search ReturnStatus where
  order :=
    ⟨.returnPickupAssigned, none, some (now + settings.timeoutMs), ⟨settings.initialRadius, 1⟩⟩
  clock := now
  started := [⟨settings.initialRadius, 1⟩]

/-! ## What is to hold -/

section Statements

variable {σ : Type} (kind : SearchKind σ) (settings : SearchSettings)

/-- The search makes progress: what it has stored is the last attempt started; each attempt was
started once, after those before it and not within a smaller radius; and no more than the maximum of
timeouts are made, the last of which ends it. -/
structure Progress (s : Search σ) : Prop where
  stored : kind.searching s.order = true → s.started.head? = some s.order.searchMeta
  attempts : s.started.Pairwise (fun later earlier =>
    earlier.attempt < later.attempt ∧ earlier.radiusMeters ≤ later.radiusMeters)
  bounded : s.expiries ≤ settings.maxAttempts
  ends : kind.searching s.order = true → s.expiries < settings.maxAttempts

/-- The condition: an update that starts an attempt finds the attempt before it, if it finds the
search on and takes effect. -/
def FindsAttemptBefore (_ : ℕ) (call : Kind) (c : Outcome ServiceError) (s : Search σ) : Prop :=
  match call with
  | .widen searchMeta _ =>
    c.takesEffect = true → kind.searching s.order = true →
      searchMeta.attempt = s.order.searchMeta.attempt + 1
  | _ => True

instance (task : ℕ) (call : Kind) (c : Outcome ServiceError) (s : Search σ) :
    Decidable (FindsAttemptBefore kind task call c s) := by
  unfold FindsAttemptBefore
  split
  · infer_instance
  · infer_instance

end Statements

/-! ## The radius -/

theorem le_mathRound {x : ℚ} {n : ℤ} (h : n ≤ x) : n ≤ mathRound x := by
  unfold mathRound
  refine Int.le_floor.mpr ?_
  linarith

variable {settings : SearchSettings}

theorem le_nextRadius (h : 1 ≤ settings.multiplier) (searchMeta : SearchMeta) :
    searchMeta.radiusMeters ≤ nextRadius settings searchMeta := by
  unfold nextRadius
  by_cases hzero : searchMeta.radiusMeters = 0
  · rw [hzero]
    exact Nat.zero_le _
  · rw [if_pos hzero]
    have hwider : ((searchMeta.radiusMeters : ℤ) : ℚ)
        ≤ (searchMeta.radiusMeters : ℚ) * settings.multiplier := by
      rw [Int.cast_natCast]
      exact le_mul_of_one_le_right (Nat.cast_nonneg _) h
    have hround := le_mathRound hwider
    dsimp only
    omega

/-! ## The invariant -/

def Ascending (started : List SearchMeta) : Prop :=
  started.Pairwise (fun later earlier => earlier.attempt < later.attempt)

section Invariant

variable {σ : Type} (kind : SearchKind σ) (settings : SearchSettings)

/-- What the search has stored is what was started last; and as long as the attempts were started in
their order there is one for each timeout, and none after the last. -/
structure Inv (s : Search σ) : Prop where
  stored : kind.searching s.order = true → s.started.head? = some s.order.searchMeta
  positive : ∀ searchMeta ∈ s.started, searchMeta.attempt ≠ 0
  wider : Ascending s.started → s.started.Pairwise (fun later earlier =>
    earlier.attempt < later.attempt ∧ earlier.radiusMeters ≤ later.radiusMeters)
  bounded : Ascending s.started → s.expiries ≤ settings.maxAttempts
  counted : Ascending s.started → kind.searching s.order = true →
    s.expiries + 1 = s.order.searchMeta.attempt ∧ s.order.searchMeta.attempt ≤ settings.maxAttempts

/-- What a run has read before it starts an attempt: one that was started, and is not the last. -/
def Follows (searchMeta : SearchMeta) (s : Search σ) : Prop :=
  ∃ before ∈ s.started, searchMeta.attempt = before.attempt + 1 ∧
    searchMeta.radiusMeters = nextRadius settings before ∧ before.attempt < settings.maxAttempts

def Ready (call : Kind) (s : Search σ) : Prop :=
  match call with
  | .widen searchMeta _ => Follows settings searchMeta s
  | _ => True

/-- What was started stays so. -/
def Remembers (s s' : Search σ) : Prop := ∀ searchMeta ∈ s.started, searchMeta ∈ s'.started

variable {kind settings} {s : Search σ}

theorem Inv.progress_iff (h : Inv kind settings s) :
    Progress kind settings s ↔ Ascending s.started := by
  constructor
  · intro hp
    exact hp.attempts.imp (fun h => h.1)
  · intro hasc
    refine ⟨h.stored, h.wider hasc, h.bounded hasc, fun hsearching => ?_⟩
    obtain ⟨hcount, hle⟩ := h.counted hasc hsearching
    omega

theorem Inv.eq_cons (h : Inv kind settings s) (hsearching : kind.searching s.order = true) :
    ∃ rest, s.started = s.order.searchMeta :: rest := by
  cases hstarted : s.started with
  | nil =>
    have hhead := h.stored hsearching
    rw [hstarted] at hhead
    cases hhead
  | cons last rest =>
    have hhead := h.stored hsearching
    rw [hstarted, head?_cons, Option.some.injEq] at hhead
    exact ⟨rest, by rw [hhead]⟩

variable {searchMeta : SearchMeta}

theorem Inv.last (h : Inv kind settings s) (hsearching : kind.searching s.order = true)
    (hasc : Ascending s.started) (hmem : searchMeta ∈ s.started) :
    searchMeta = s.order.searchMeta ∨ searchMeta.attempt < s.order.searchMeta.attempt := by
  obtain ⟨rest, hrest⟩ := h.eq_cons hsearching
  unfold Ascending at hasc
  rw [hrest] at hasc hmem
  rcases mem_cons.mp hmem with rfl | hmem
  · exact .inl rfl
  · exact .inr (rel_of_pairwise_cons hasc hmem)

theorem Inv.ascending_cons_iff (h : Inv kind settings s)
    (hsearching : kind.searching s.order = true) (hready : Follows settings searchMeta s) :
    Ascending (searchMeta :: s.started) ↔
      Ascending s.started ∧ searchMeta.attempt = s.order.searchMeta.attempt + 1 := by
  obtain ⟨before, hbefore, hnext, -, -⟩ := hready
  obtain ⟨rest, hrest⟩ := h.eq_cons hsearching
  constructor
  · intro hasc
    obtain ⟨hall, hold⟩ := pairwise_cons.mp hasc
    have hstored := hall s.order.searchMeta (by rw [hrest]; exact mem_cons_self ..)
    refine ⟨hold, ?_⟩
    rcases h.last hsearching hold hbefore with rfl | hlt
    · exact hnext
    · omega
  · rintro ⟨hold, hattempt⟩
    refine pairwise_cons.mpr ⟨fun earlier hmem => ?_, hold⟩
    rcases h.last hsearching hold hmem with rfl | hlt
    · omega
    · omega

/-! ## One call -/

theorem Inv.widened (h : Inv kind settings s) (hm : 1 ≤ settings.multiplier)
    (hsearching : kind.searching s.order = true) (expiresAt : Date)
    (hready : Follows settings searchMeta s) :
    Inv kind settings (s.widened searchMeta expiresAt) := by
  have hiff := h.ascending_cons_iff hsearching hready
  obtain ⟨before, hbefore, hnext, hradius, hmax⟩ := hready
  -- in its order, the attempt follows the stored one
  have hfrom : Ascending (searchMeta :: s.started) → before = s.order.searchMeta := by
    intro hasc
    obtain ⟨hold, hattempt⟩ := hiff.mp hasc
    rcases h.last hsearching hold hbefore with heq | hlt
    · exact heq
    · omega
  refine ⟨fun _ => rfl, ?_, fun hasc => ?_, fun hasc => ?_, fun hasc _ => ?_⟩
  · intro other hmem
    rcases mem_cons.mp hmem with rfl | hmem
    · omega
    · exact h.positive other hmem
  · obtain ⟨hall, hold⟩ := pairwise_cons.mp hasc
    have hwider := h.wider hold
    refine pairwise_cons.mpr ⟨fun earlier hmem => ⟨hall earlier hmem, ?_⟩, hwider⟩
    have hle := le_nextRadius hm before
    obtain ⟨rest, hrest⟩ := h.eq_cons hsearching
    rw [hfrom hasc] at hle hradius
    rw [hrest] at hmem hwider
    rcases mem_cons.mp hmem with rfl | hmem
    · omega
    · have := (rel_of_pairwise_cons hwider hmem).2
      omega
  · obtain ⟨hold, hattempt⟩ := hiff.mp hasc
    obtain ⟨hcount, -⟩ := h.counted hold hsearching
    rw [hfrom hasc] at hmax
    change s.expiries + 1 ≤ settings.maxAttempts
    omega
  · obtain ⟨hold, hattempt⟩ := hiff.mp hasc
    obtain ⟨hcount, -⟩ := h.counted hold hsearching
    rw [hfrom hasc] at hmax
    change s.expiries + 1 + 1 = searchMeta.attempt ∧ searchMeta.attempt ≤ settings.maxAttempts
    omega

theorem Inv.givenUp (h : Inv kind settings s) (hsearching : kind.searching s.order = true) :
    Inv kind settings { s with order := kind.givenUp s.order, expiries := s.expiries + 1 } := by
  have hends : kind.searching (kind.givenUp s.order) ≠ true := by
    rw [kind.ends]
    exact Bool.false_ne_true
  refine ⟨fun hon => absurd hon hends, h.positive, h.wider, fun hasc => ?_,
    fun _ hon => absurd hon hends⟩
  obtain ⟨hcount, hle⟩ := h.counted hasc hsearching
  change s.expiries + 1 ≤ settings.maxAttempts
  omega

theorem effect_keeps (hm : 1 ≤ settings.multiplier) {call : Kind} (h : Inv kind settings s)
    (hready : Ready settings call s) :
    Inv kind settings (effect kind s call).2 ∧ Remembers s (effect kind s call).2 := by
  cases call with
  | widen searchMeta expiresAt =>
    unfold effect
    dsimp only
    split
    next hsearching =>
      exact ⟨h.widened hm hsearching expiresAt hready,
        fun other hmem => mem_cons_of_mem _ hmem⟩
    next => exact ⟨h, fun _ hmem => hmem⟩
  | giveUp =>
    unfold effect
    dsimp only
    split
    next hsearching => exact ⟨h.givenUp hsearching, fun _ hmem => hmem⟩
    next => exact ⟨h, fun _ hmem => hmem⟩
  | now | findOrder | scheduleTimeoutJob | broadcast | announce => exact ⟨h, fun _ hmem => hmem⟩

theorem effect_progress_iff {call : Kind} (h : Inv kind settings s) (hp : Progress kind settings s)
    (h' : Inv kind settings (effect kind s call).2) :
    Progress kind settings (effect kind s call).2 ↔
      FindsAttemptBefore kind 0 call .done s := by
  have hasc := h.progress_iff.mp hp
  rw [h'.progress_iff]
  cases call with
  | widen searchMeta expiresAt =>
    unfold effect at h' ⊢
    unfold FindsAttemptBefore
    dsimp only at h' ⊢
    cases hsearching : kind.searching s.order with
    | false => exact iff_of_true hasc (fun _ hon => by cases hon)
    | true =>
      rw [hsearching, if_pos rfl] at h'
      rw [if_pos rfl]
      constructor
      · intro hasc' _ _
        obtain ⟨hcount, -⟩ := h.counted hasc hsearching
        have hstill : kind.searching (s.widened searchMeta expiresAt).order = true := by
          unfold Search.widened
          rw [kind.keeps, hsearching]
        obtain ⟨hcount', -⟩ := h'.counted hasc' hstill
        change s.expiries + 1 + 1 = searchMeta.attempt at hcount'
        omega
      · intro hfinds
        have hnext := hfinds rfl rfl
        refine pairwise_cons.mpr ⟨fun earlier hmem => ?_, hasc⟩
        rcases h.last hsearching hasc hmem with rfl | hlt
        · omega
        · omega
  | giveUp =>
    refine iff_of_true ?_ trivial
    unfold effect
    dsimp only
    split
    · exact hasc
    · exact hasc
  | now | findOrder | scheduleTimeoutJob | broadcast | announce => exact iff_of_true hasc trivial

end Invariant

/-! ## A job -/

section Sound

variable {σ : Type} (kind : SearchKind σ) (settings : SearchSettings)

/-- Jobs that start attempts after ones that were started. -/
def searchContract : Contract (searchSystem kind settings) where
  inv := Inv kind settings
  rely := fun _ => Remembers

variable {kind settings} {i : ℕ} {s : Search σ}

theorem sound_perform (hm : 1 ≤ settings.multiplier) {call : Kind}
    {Q : call.Reply σ → Search σ → Prop} (hready : ∀ s', Remembers s s' → Ready settings call s')
    (hok : ∀ s' a, Remembers s s' → Inv kind settings s' → (effect kind s' call).1 = .ok a →
      Q a (effect kind s' call).2) :
    (searchContract kind settings).Sound i Q (fun _ _ => True) (perform call) s := by
  refine Sound.perform_outcome (o := id) (f := fun _ s => effect kind s call)
    (fun _ _ => rfl) (fun _ _ _ h => h) ?_ ?_ ?_ ?_ ?_
  · intro c s' hrely hinv _ _
    obtain ⟨hinv', hothers⟩ := effect_keeps hm hinv (hready s' hrely)
    exact ⟨hinv', fun _ _ => hothers⟩
  · exact fun _ s' a hrely hinv _ _ hreply => hok s' a hrely hinv hreply
  · exact fun _ _ _ _ _ _ _ _ => trivial
  · exact fun _ _ _ _ _ _ _ => trivial
  · exact fun _ _ _ _ _ _ _ => trivial

theorem startNextAttempt_sound (hm : 1 ≤ settings.multiplier) (now : Date) {before : SearchMeta}
    (hbefore : before ∈ s.started) (hmax : before.attempt < settings.maxAttempts) :
    (searchContract kind settings).Keeps i
      (startNextAttempt kind settings now before before.attempt) s := by
  have hfollows : ∀ s', Remembers s s' →
      Follows settings ⟨nextRadius settings before, before.attempt + 1⟩ s' :=
    fun s' hs => ⟨before, hs before hbefore, rfl, rfl, hmax⟩
  refine Sound.bind (R := fun _ _ => True)
    (sound_perform hm hfollows (fun _ _ _ _ _ => trivial)) (fun updated s _ => ?_)
  refine Sound.ite (fun _ => Sound.ret trivial) (fun _ => ?_)
  refine Sound.bind (R := fun _ _ => True)
    (sound_perform hm (fun _ _ => trivial) (fun _ _ _ _ _ => trivial)) (fun _ s _ => ?_)
  exact sound_perform hm (fun _ _ => trivial) (fun _ _ _ _ _ => trivial)

theorem giveUpSearch_sound (hm : 1 ≤ settings.multiplier) :
    (searchContract kind settings).Keeps i (giveUpSearch : M σ Unit) s := by
  refine Sound.bind (R := fun _ _ => True)
    (sound_perform hm (fun _ _ => trivial) (fun _ _ _ _ _ => trivial)) (fun updated s _ => ?_)
  refine Sound.ite (fun _ => ?_) (fun _ => Sound.ret trivial)
  exact sound_perform hm (fun _ _ => trivial) (fun _ _ _ _ _ => trivial)

theorem processTimeoutJob_sound (hm : 1 ≤ settings.multiplier) (attempt : ℕ) :
    (searchContract kind settings).Keeps i (processTimeoutJob kind settings attempt) s := by
  refine Sound.bind (R := fun _ _ => True)
    (sound_perform hm (fun _ _ => trivial) (fun _ _ _ _ _ => trivial)) (fun now s _ => ?_)
  have hfind : (searchContract kind settings).Sound i
      (fun order s => kind.searching order = true →
        order.searchMeta ∈ s.started ∧ order.searchMeta.attempt ≠ 0)
      (fun _ _ => True) (perform Kind.findOrder) s := by
    refine sound_perform hm (fun _ _ => trivial) (fun s' order _ hinv hreply hsearching => ?_)
    cases hreply
    obtain ⟨rest, hrest⟩ := hinv.eq_cons hsearching
    have hmem : s'.order.searchMeta ∈ s'.started := by
      rw [hrest]
      exact mem_cons_self ..
    exact ⟨hmem, hinv.positive _ hmem⟩
  refine Sound.bind hfind (fun order s hread => ?_)
  refine Sound.ite (fun _ => Sound.ret trivial) (fun hsearching => ?_)
  refine Sound.ite (fun _ => Sound.ret trivial) (fun _ => ?_)
  obtain ⟨hmem, hne⟩ := hread ((Bool.not_eq_false _).mp hsearching)
  have hcurrent : currentAttempt order.searchMeta attempt = order.searchMeta.attempt := if_pos hne
  rw [hcurrent]
  exact Sound.ite (fun hmax => startNextAttempt_sound hm now hmem hmax)
    (fun _ => giveUpSearch_sound hm)

end Sound

/-! ## Every interleaving -/

section Runs

variable {σ : Type} (kind : SearchKind σ) {settings : SearchSettings}

theorem searchContract_lawful (hm : 1 ≤ settings.multiplier) :
    (searchContract kind settings).Lawful where
  refl := fun _ _ _ h => h
  trans := fun _ _ _ _ h h' searchMeta hmem => h' searchMeta (h searchMeta hmem)
  idle := fun _ _ _ _ _ => trivial
  outside := by
    intro e s s' hinv _ hout
    cases e with
    | elapse milliseconds =>
      cases hout
      exact ⟨⟨hinv.stored, hinv.positive, hinv.wider, hinv.bounded, hinv.counted⟩,
        fun _ _ hmem => hmem⟩
    | leave order =>
      unfold searchSystem outside at hout
      dsimp only at hout
      split at hout
      next => cases hout
      next hover =>
        cases hout
        exact ⟨⟨fun hon => absurd hon hover, hinv.positive, hinv.wider, hinv.bounded,
          fun _ hon => absurd hon hover⟩, fun _ _ hmem => hmem⟩
  entry := fun attempt _ _ _ _ _ => processTimeoutJob_sound hm attempt

theorem search_progress_iff (hm : 1 ≤ settings.multiplier) {s : Search σ}
    (hs : Inv kind settings s) (hp : Progress kind settings s) (acts : List (Act σ)) :
    Along (searchSystem kind settings).step (fun p => Progress kind settings p.shared) ⟨s, []⟩
        acts ↔
      Guarded (searchSystem kind settings).step (OnOps (FindsAttemptBefore kind)) ⟨s, []⟩
        acts := by
  have hlawful := searchContract_lawful kind hm
  have hholds : (searchContract kind settings).Holds ⟨s, []⟩ :=
    Contract.holds_start hs (fun _ => trivial)
  refine hlawful.along_iff_onOps (P := Progress kind settings) ?_ ?_ hholds hp
    (guarded_of_forall ?_ _ _)
  · intro i call c s hinv hprogress _
    refine ⟨_, _, rfl, fun hinv' => ?_⟩
    cases c with
    | refused e =>
      refine iff_of_true hprogress ?_
      unfold FindsAttemptBefore
      split
      · exact fun htakes => by cases htakes
      · trivial
    | done | lost => exact effect_progress_iff hinv hprogress hinv'
  · intro e s s' hinv _ hprogress hout hinv'
    have hsame : s'.started = s.started := by
      cases e with
      | elapse milliseconds =>
        cases hout
        rfl
      | leave order =>
        unfold searchSystem outside at hout
        dsimp only at hout
        split at hout
        · cases hout
        · cases hout
          rfl
    rw [hinv'.progress_iff, hsame]
    exact hinv.progress_iff.mp hprogress
  · intro p a
    cases a with
    | run i c => exact fun _ _ _ => trivial
    | outside | start => trivial

def TimeIsUp (s : Search σ) : Prop :=
  kind.searching s.order = true ∧ ∀ t, s.order.expiresAt = some t → t ≤ s.clock

theorem job_makes_timeout {s : Search σ} (h : TimeIsUp kind s) (attempt : ℕ) :
    ((processTimeoutJob kind settings attempt).run (fun call s => effect kind s call) s).2.expiries
      = s.expiries + 1 := by
  obtain ⟨hsearching, hup⟩ := h
  have hany : s.order.expiresAt.any (fun t => decide (s.clock < t)) ≠ true := by
    cases hexpires : s.order.expiresAt with
    | none => exact Bool.false_ne_true
    | some t =>
      rw [Option.any_some, ne_eq, decide_eq_true_eq, not_lt]
      exact hup t hexpires
  have hon : ¬ kind.searching s.order = false := by
    rw [hsearching]
    exact Bool.noConfusion
  unfold processTimeoutJob
  rw [run_bind_ok (run_perform Kind.now s),
    run_bind_ok (run_perform Kind.findOrder s), if_neg hon, if_neg hany]
  split
  · unfold startNextAttempt
    rw [run_bind, run_perform]
    unfold effect
    dsimp only
    rw [hsearching, if_pos rfl]
    rfl
  · unfold giveUpSearch
    rw [run_bind, run_perform]
    unfold effect
    dsimp only
    rw [hsearching, if_pos rfl]
    rfl

end Runs

/-! ## Main result -/

theorem inv_start {σ : Type} (kind : SearchKind σ) (hmax : 0 < settings.maxAttempts)
    {order : SearchOrder σ} {clock : Date} (horder : order.searchMeta = ⟨settings.initialRadius, 1⟩) :
    Inv kind settings ⟨order, clock, [order.searchMeta], 0⟩ := by
  refine ⟨fun _ => rfl, fun searchMeta hmem => ?_, fun _ => pairwise_singleton _ _,
    fun _ => Nat.zero_le _, fun _ _ => ?_⟩
  · cases mem_singleton.mp hmem
    rw [horder]
    exact Nat.one_ne_zero
  · rw [horder]
    exact ⟨rfl, hmax⟩

/-- Searches that do not narrow. A search for a rider makes progress along every interleaving of
its jobs with acceptances and cancellations exactly where each update that starts an attempt finds
the attempt before it; and a job that runs by itself when the time is up is one of its timeouts.
The same holds of a search for a return pickup. -/
theorem rider_search_progress (settings : SearchSettings) (hm : 1 ≤ settings.multiplier)
    (hmax : 0 < settings.maxAttempts) (now : Date) :
    ((∀ acts, Along (searchSystem deliverySearch settings).step
          (fun p => Progress deliverySearch settings p.shared)
          ⟨sellerAccepted settings now, []⟩ acts ↔
        Guarded (searchSystem deliverySearch settings).step
          (OnOps (FindsAttemptBefore deliverySearch)) ⟨sellerAccepted settings now, []⟩ acts) ∧
      ∀ s, TimeIsUp deliverySearch s → ∀ attempt,
        ((processDeliveryTimeoutJob settings attempt).run
          (fun call s => effect deliverySearch s call) s).2.expiries = s.expiries + 1) ∧
    ((∀ acts, Along (searchSystem returnSearch settings).step
          (fun p => Progress returnSearch settings p.shared)
          ⟨startReturnPickupBroadcast settings now, []⟩ acts ↔
        Guarded (searchSystem returnSearch settings).step
          (OnOps (FindsAttemptBefore returnSearch))
          ⟨startReturnPickupBroadcast settings now, []⟩ acts) ∧
      ∀ s, TimeIsUp returnSearch s → ∀ attempt,
        ((processReturnPickupTimeoutJob settings attempt).run
          (fun call s => effect returnSearch s call) s).2.expiries = s.expiries + 1) := by
  have hascending : ∀ searchMeta : SearchMeta, Ascending [searchMeta] :=
    fun searchMeta => pairwise_singleton _ _
  have hdelivery : Inv deliverySearch settings (sellerAccepted settings now) :=
    inv_start deliverySearch hmax rfl
  have hreturn : Inv returnSearch settings (startReturnPickupBroadcast settings now) :=
    inv_start returnSearch hmax rfl
  refine ⟨⟨fun acts => ?_, fun s hs => job_makes_timeout deliverySearch hs⟩,
    fun acts => ?_, fun s hs => job_makes_timeout returnSearch hs⟩
  · exact search_progress_iff deliverySearch hm hdelivery
      (hdelivery.progress_iff.mpr (hascending _)) acts
  · exact search_progress_iff returnSearch hm hreturn
      (hreturn.progress_iff.mpr (hascending _)) acts

/-- Three times up, one after the other: the search is given up. -/
def threeTimeouts : List (Act WorkflowStatus) :=
  let job := fun i => .outside (.elapse 60000) :: .start 1 :: replicate 5 (.run i .done)
  job 0 ++ job 1 ++ job 2

theorem rider_search_progress_threeTimeouts :
    Along (searchSystem deliverySearch {}).step
      (fun p => Progress deliverySearch {} p.shared) ⟨sellerAccepted {} 0, []⟩ threeTimeouts :=
  ((rider_search_progress {} (by decide +kernel) (by decide) 0).1.1 threeTimeouts).mpr
    (by decide +kernel)

/-- The queue's job and the sweep both find the first attempt; the sweep is slow, and the queue goes
on to the third attempt before it. -/
def slowSweep : List (Act WorkflowStatus) :=
  [.outside (.elapse 60000), .start 1, .start 1, .run 1 .done, .run 1 .done] ++
    replicate 5 (.run 0 .done) ++ [.outside (.elapse 60000), .start 2] ++
    replicate 5 (.run 2 .done) ++ [.run 1 .done]

/-- The search goes back from the third attempt to the second, and to its radius. -/
theorem search_goes_back :
    ¬ ∀ acts, Along (searchSystem deliverySearch {}).step
        (fun p => Progress deliverySearch {} p.shared) ⟨sellerAccepted {} 0, []⟩ acts := by
  intro h
  have hlast := (h slowSweep).last
  have hstarted : (exec (searchSystem deliverySearch {}).step ⟨sellerAccepted {} 0, []⟩
      slowSweep).shared.started = [⟨7500, 2⟩, ⟨11250, 3⟩, ⟨7500, 2⟩, ⟨5000, 1⟩] := by
    decide +kernel
  have hpairs := hlast.attempts
  rw [hstarted] at hpairs
  exact absurd (rel_of_pairwise_cons hpairs (mem_cons_self ..)).1 (by decide)

end DiscountBazar.Workflow.RiderSearch
