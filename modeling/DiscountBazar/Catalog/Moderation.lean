/-
The approval of products (`productModerationService.js`, and `createProduct`, `updateProduct`,
`approveProduct` and `rejectProduct` in `productController.js`).

A seller's edit settles the approval by the product it has read first and writes it at every
attempt, whatever an admin did in between. What customers see has been approved all the same.
-/
import DiscountBazar.Catalog.ProductEdit

namespace DiscountBazar.Catalog.Moderation

open Tasks Runs Function
open Contract (Sound)
open Prog (perform)
open List

/-! ## The approval -/

/-- What a moderation update sets `approvalStatus` to. -/
inductive ApprovalStatus where
  | pending
  | approved
  | rejected
  | draft
  deriving DecidableEq

def ApprovalStatus.text : ApprovalStatus → String
  | pending => "pending"
  | approved => "approved"
  | rejected => "rejected"
  | draft => "draft"

/-- The status is missing, `null` or empty on a legacy product. -/
def resolveProductApprovalStatus (approvalStatus : Option String) : ApprovalStatus :=
  let status := toLowerCase (trim (approvalStatus.getD ""))
  let statuses : List ApprovalStatus := [.pending, .approved, .rejected, .draft]
  (statuses.find? (fun known => decide (known.text = status))).getD .approved

theorem resolve_text (status : ApprovalStatus) :
    resolveProductApprovalStatus (some status.text) = status := by
  cases status <;> decide +kernel

/-- `productApproval` of the settings; what is no boolean there is `none`. -/
structure RawConfig where
  sellerCreateRequiresApproval : Option Bool := none
  sellerEditRequiresApproval : Option Bool := none

structure ProductApprovalConfig where
  sellerCreateRequiresApproval : Bool
  sellerEditRequiresApproval : Bool

def normalizeProductApprovalConfig (raw : RawConfig) : ProductApprovalConfig where
  sellerCreateRequiresApproval := raw.sellerCreateRequiresApproval.getD true
  sellerEditRequiresApproval := raw.sellerEditRequiresApproval.getD false

/-! ## The shared state -/

/-- A missing image is empty. -/
structure Photos where
  mainImage : String := ""
  galleryImages : List String := []

def Photos.hasImage (photos : Photos) : Bool :=
  decide (trim photos.mainImage ≠ "") || photos.galleryImages.any (fun url => decide (url ≠ ""))

inductive Role where
  | seller
  | admin
  deriving DecidableEq

structure User where
  role : Role
  id : ObjectId

structure Listing where
  sellerId : ObjectId
  photos : Photos
  approvalStatus : Option String
  updatedAt : Option Date

def Listing.IsApproved (listing : Listing) : Prop :=
  resolveProductApprovalStatus listing.approvalStatus = .approved

instance (listing : Listing) : Decidable listing.IsApproved := inferInstanceAs (Decidable (_ = _))

/-- `getCustomerVisibleFilter`. -/
def Listing.IsVisible (listing : Listing) : Prop :=
  listing.approvalStatus ∈ [some ApprovalStatus.approved.text, none, some ""] ∧
    listing.photos.mainImage ≠ ""

/-- The products, the settings and the time; as history, the products that were approved at the
start or that an admin has made, edited or approved. -/
structure Shop where
  clock : Date
  settings : RawConfig := {}
  products : ObjectId → Option Listing
  cleared : List ObjectId

/-- A product written by a user, with its new status. -/
def Shop.save (s : Shop) (user : User) (id : ObjectId) (listing : Listing)
    (status : ApprovalStatus) : Shop :=
  { s with
    products := update s.products id
      (some { listing with approvalStatus := some status.text, updatedAt := some s.clock })
    cleared := if user.role = .admin ∧ status = .approved then id :: s.cleared else s.cleared }

/-! ## Calls -/

inductive Kind where
  /-- uploads, slug, SKU, brand, item master: what else can end a request -/
  | check
  | getProductApprovalConfig
  /-- `Product.create`, under an id that the payload may name -/
  | create (user : User) (id : ObjectId) (sellerId : ObjectId) (photos : Photos)
      (status : ApprovalStatus)
  /-- `Product.findOne`, of the seller's own products or of all -/
  | findProduct (user : User) (id : ObjectId)
  /-- the update of a product; a seller's is guarded by the time of the one it has read -/
  | write (user : User) (id : ObjectId) (updatedAt : Option Date) (edits : Photos → Photos)
      (status : ApprovalStatus)

@[reducible] def Kind.Reply : Kind → Type
  | .getProductApprovalConfig => ProductApprovalConfig
  | .findProduct _ _ => Option Listing
  | .write _ _ _ _ _ => Bool
  | _ => Unit

/-- An admin's query names no seller. -/
def Shop.find (s : Shop) (user : User) (id : ObjectId) : Option Listing :=
  (s.products id).filter (fun listing => user.role = .admin ∨ listing.sellerId = user.id)

def effect (s : Shop) : (kind : Kind) → Except EditError kind.Reply × Shop
  | .check => (.ok (), s)
  | .getProductApprovalConfig => (.ok (normalizeProductApprovalConfig s.settings), s)
  | .create user id sellerId photos status =>
    match s.products id with
    | some _ => (.error (.response 400 "Slug or SKU already exists"), s)
    | none => (.ok (), s.save user id ⟨sellerId, photos, none, none⟩ status)
  | .findProduct user id => (.ok (s.find user id), s)
  | .write user id updatedAt edits status =>
    match s.products id with
    | some listing =>
      if user.role = .admin ∨ listing.updatedAt = updatedAt then
        (.ok true, s.save user id { listing with photos := edits listing.photos } status)
      else (.ok false, s)
    | none => (.ok false, s)

/-! ## The handlers -/

abbrev M := Prog Kind Kind.Reply EditError

/-- The status that an edit or a new product gets. -/
def moderationUpdate (user : User) (hasImage : Bool)
    (requiresApproval : ProductApprovalConfig → Bool) : M ApprovalStatus :=
  if user.role = .admin then pure .approved
  else if hasImage = false then pure .draft
  else do
    let config ← perform Kind.getProductApprovalConfig
    if requiresApproval config = true then pure .pending else pure .approved

/-- `createProduct`, of a payload with these photos after `applyMediaFields`. -/
def createProduct (user : User) (sellerId : Option ObjectId) (id : ObjectId) (photos : Photos) :
    M Unit :=
  match if user.role = .admin then sellerId else some user.id with
  | none => .throw (.response 400 "sellerId is required for admin-created products")
  | some sellerId => do
    perform Kind.check
    let status ← moderationUpdate user photos.hasImage
      ProductApprovalConfig.sellerCreateRequiresApproval
    perform Kind.check
    perform (Kind.create user id sellerId photos status)

/-- The write, with the attempts that are left; an admin's has one. -/
def tryWrite (user : User) (id : ObjectId) (edits : Photos → Photos) (status : ApprovalStatus) :
    ℕ → Listing → M Unit
  | 0, _ => .throw changedError
  | attempts + 1, current => do
    let updated ← perform (Kind.write user id current.updatedAt edits status)
    if updated = true then pure ()
    else if user.role = .admin then .throw changedError
    else do
      let next ← perform (Kind.findProduct user id)
      match next with
      | none => .throw notFoundError
      | some next => tryWrite user id edits status attempts next

/-- `updateProduct`; the edits are what `applyProductPhotoEdits` makes of the payload by the photos
it has read, set on the ones that are stored. -/
def updateProduct (user : User) (id : ObjectId) (edits : Photos → Photos → Photos) : M Unit := do
  perform Kind.check
  let product ← perform (Kind.findProduct user id)
  match product with
  | none => .throw notFoundError
  | some product => do
    perform Kind.check
    let status ← moderationUpdate user (edits product.photos product.photos).hasImage
      (fun config => config.sellerEditRequiresApproval || decide (¬ product.IsApproved))
    perform Kind.check
    tryWrite user id (edits product.photos) status 3 product

/-- `approveProduct` and `rejectProduct`, which differ in the status they set. -/
def reviewProduct (status : ApprovalStatus) (adminId id : ObjectId) : M Unit := do
  let updated ← perform (Kind.write ⟨.admin, adminId⟩ id none (fun photos => photos) status)
  if updated = true then pure () else .throw (.response 404 "Product not found")

def approveProduct := reviewProduct .approved

def rejectProduct := reviewProduct .rejected

inductive Request where
  | createProduct (user : User) (sellerId : Option ObjectId) (id : ObjectId) (photos : Photos)
  | updateProduct (user : User) (id : ObjectId) (edits : Photos → Photos → Photos)
  | approveProduct (adminId id : ObjectId)
  | rejectProduct (adminId id : ObjectId)

def handler : Request → M Unit
  | .createProduct user sellerId id photos => createProduct user sellerId id photos
  | .updateProduct user id edits => updateProduct user id edits
  | .approveProduct adminId id => approveProduct adminId id
  | .rejectProduct adminId id => rejectProduct adminId id

/-- Time passes, the settings are written, a product is deleted, or a sale, a rating or anything
else writes one and leaves its photos and its approval. -/
inductive Event where
  | elapse (milliseconds : ℕ)
  | writeSettings (raw : RawConfig)
  | delete (id : ObjectId)
  | touch (id : ObjectId)

def outside : Event → Shop → Option Shop
  | .elapse milliseconds, s => some { s with clock := s.clock + milliseconds }
  | .writeSettings raw, s => some { s with settings := raw }
  | .delete id, s => some { s with products := update s.products id none }
  | .touch id, s =>
    (s.products id).map (fun listing =>
      { s with products := update s.products id (some { listing with updatedAt := some s.clock }) })

def moderationSystem : System Kind Kind.Reply EditError Shop (Outcome EditError) Event Request where
  perform := fun _ kind outcome s => some (outcome.perform (effect s kind) s)
  outside := outside
  entry := handler
  mayStart := fun _ _ => true

abbrev Act := Action (Outcome EditError) Event Request

/-! ## What is to hold -/

def WasCleared (cleared : List ObjectId) (id : ObjectId) (entry : Option Listing) : Prop :=
  ∀ listing, entry = some listing → listing.IsApproved → id ∈ cleared

/-- Every product that counts as approved was cleared, and new products need an approval. -/
structure Reviewed (s : Shop) : Prop where
  required : (normalizeProductApprovalConfig s.settings).sellerCreateRequiresApproval = true
  cleared : ∀ id, WasCleared s.cleared id (s.products id)

/-- The settings go on to ask for the approval of new products. -/
def Event.keepsReview : Event → Bool
  | .writeSettings raw => (normalizeProductApprovalConfig raw).sellerCreateRequiresApproval
  | _ => true

theorem Listing.IsVisible.isApproved {listing : Listing} (h : listing.IsVisible) :
    listing.IsApproved := by
  have hstatuses : ∀ status ∈ [some ApprovalStatus.approved.text, none, some ""],
      resolveProductApprovalStatus status = .approved := by decide +kernel
  exact hstatuses _ h.1

/-! ## One call -/

variable {s s' : Shop} {user : User} {id : ObjectId} {status : ApprovalStatus}

/-- The user may write this: an admin may, and anybody else where it approves nothing that is not
cleared. -/
def Permitted (user : User) (id : ObjectId) (status : ApprovalStatus) (s : Shop) : Prop :=
  user.role = .admin ∨ (status = .approved → id ∈ s.cleared)

theorem Permitted.mono (h : Permitted user id status s) (hs : s.cleared ⊆ s'.cleared) :
    Permitted user id status s' :=
  h.imp_right (fun hcleared happroved => hs (hcleared happroved))

theorem save_cleared (s : Shop) (user : User) (id : ObjectId) (listing : Listing)
    (status : ApprovalStatus) : s.cleared ⊆ (s.save user id listing status).cleared := by
  unfold Shop.save
  dsimp only
  split
  · exact subset_cons_self id s.cleared
  · exact Subset.refl _

theorem Reviewed.save (listing : Listing) (h : Reviewed s)
    (hpermitted : Permitted user id status s) : Reviewed (s.save user id listing status) := by
  refine ⟨h.required, (forall_update_iff s.products (WasCleared (s.save ..).cleared)).mpr
    ⟨fun stored hstored happroved => ?_, fun other _ stored hstored happroved =>
      save_cleared s user id listing status (h.cleared other stored hstored happroved)⟩⟩
  cases hstored
  have hsame : status = .approved := (resolve_text status).symm.trans happroved
  rcases hpermitted with hadmin | hcleared
  · unfold Shop.save
    rw [if_pos ⟨hadmin, hsame⟩]
    exact mem_cons_self
  · exact save_cleared s user id listing status (hcleared hsame)

def Prepared (s : Shop) : Kind → Prop
  | .create user id _ _ status | .write user id _ _ status => Permitted user id status s
  | _ => True

theorem effect_keeps (kind : Kind) (h : Reviewed s) (hprepared : Prepared s kind) :
    Reviewed (effect s kind).2 ∧ s.cleared ⊆ (effect s kind).2.cleared := by
  have hsame : Reviewed s ∧ s.cleared ⊆ s.cleared := ⟨h, Subset.refl _⟩
  cases kind with
  | check | getProductApprovalConfig | findProduct => exact hsame
  | create user id sellerId photos status =>
    unfold effect
    dsimp only
    split
    · exact hsame
    · exact ⟨h.save _ hprepared, save_cleared ..⟩
  | write user id updatedAt edits status =>
    unfold effect
    dsimp only
    split
    · split
      · exact ⟨h.save _ hprepared, save_cleared ..⟩
      · exact hsame
    · exact hsame

def reviewContract : Contract moderationSystem where
  inv := Reviewed
  rely := fun _ s s' => s.cleared ⊆ s'.cleared
  mayOutside := fun e _ => e.keepsReview = true

/-! ## The handlers keep it -/

variable {i : ℕ}

theorem sound_perform (kind : Kind) {Q : kind.Reply → Shop → Prop}
    (hprepared : ∀ s', s.cleared ⊆ s'.cleared → Prepared s' kind)
    (hok : ∀ s' a, s.cleared ⊆ s'.cleared → Reviewed s' → (effect s' kind).1 = .ok a →
      Q a (effect s' kind).2) :
    reviewContract.Sound i Q (fun _ _ => True) (perform kind) s :=
  Sound.perform_outcome (o := id) (f := fun _ s => effect s kind) (fun _ _ => rfl)
    (fun _ s => Subset.refl s.cleared)
    (fun _ s' hrely hinv _ _ =>
      ⟨(effect_keeps _ hinv (hprepared s' hrely)).1,
        fun _ _ => (effect_keeps _ hinv (hprepared s' hrely)).2⟩)
    (fun _ s' a hrely hinv _ _ => hok s' a hrely hinv) (fun _ _ _ _ _ _ _ _ => trivial)
    (fun _ _ _ _ _ _ _ => trivial) (fun _ _ _ _ _ _ _ => trivial)

/-- A call that needs nothing, before which something is cleared. -/
theorem sound_call (kind : Kind) (hprepared : ∀ s, Prepared s kind) (s : Shop) :
    reviewContract.Sound i (fun _ s' => s.cleared ⊆ s'.cleared) (fun _ _ => True) (perform kind)
      s :=
  sound_perform _ (fun s' _ => hprepared s')
    (fun s' _ hrely hinv _ => Subset.trans hrely (effect_keeps _ hinv (hprepared s')).2)

/-- What is read of a product that counts as approved is cleared. -/
theorem findProduct_sound (user : User) (id : ObjectId) (s : Shop) :
    reviewContract.Sound i
      (fun product s => ∀ listing, product = some listing → listing.IsApproved → id ∈ s.cleared)
      (fun _ _ => True) (perform (Kind.findProduct user id)) s := by
  refine sound_perform _ (fun _ _ => trivial) (fun s' product _ hinv hread listing hsome => ?_)
  have hfind : s'.find user id = product := Except.ok.inj hread
  rw [hsome] at hfind
  exact hinv.cleared id listing (Option.filter_eq_some_iff.mp hfind).1

/-- An approval that nobody is asked for is of a product that is cleared. -/
theorem moderationUpdate_sound {requiresApproval : ProductApprovalConfig → Bool} (id : ObjectId)
    (hasImage : Bool) (hrequires : ∀ s', s.cleared ⊆ s'.cleared → Reviewed s' →
      requiresApproval (normalizeProductApprovalConfig s'.settings) = false → id ∈ s'.cleared) :
    reviewContract.Sound i (fun status s => Permitted user id status s) (fun _ _ => True)
      (moderationUpdate user hasImage requiresApproval) s := by
  unfold moderationUpdate
  refine Sound.ite (fun hadmin => Sound.ret (.inl hadmin)) (fun _ => ?_)
  refine Sound.ite (fun _ => Sound.ret (.inr nofun)) (fun _ => ?_)
  refine Sound.bind (R := fun config s => requiresApproval config = false → id ∈ s.cleared)
    (sound_perform _ (fun _ _ => trivial) (fun s' config hrely hinv hread => ?_))
    (fun config s hconfig => ?_)
  · cases Except.ok.inj hread
    exact hrequires s' hrely hinv
  · exact Sound.ite (fun _ => Sound.ret (.inr nofun))
      (fun h => Sound.ret (.inr (fun _ => hconfig (Bool.eq_false_iff.mpr h))))

theorem createProduct_sound (user : User) (sellerId : Option ObjectId) (id : ObjectId)
    (photos : Photos) (s : Shop) :
    reviewContract.Keeps i (createProduct user sellerId id photos) s := by
  unfold createProduct
  split
  · exact Sound.throw trivial
  next owner _ =>
    refine Sound.bind (sound_call .check (fun _ => trivial) s) (fun _ s _ => ?_)
    refine Sound.bind (moderationUpdate_sound id photos.hasImage (fun s' _ hinv hnot => ?_))
      (fun status s hpermitted => ?_)
    · rw [hinv.required] at hnot
      cases hnot
    · refine Sound.bind (sound_call .check (fun _ => trivial) s) (fun _ s' hs => ?_)
      exact sound_perform _ (fun s'' hrely => (hpermitted.mono hs).mono hrely)
        (fun _ _ _ _ _ => trivial)

theorem tryWrite_sound (edits : Photos → Photos) (attempts : ℕ) (current : Listing)
    (hs : Permitted user id status s) :
    reviewContract.Keeps i (tryWrite user id edits status attempts current) s := by
  induction attempts generalizing current s with
  | zero => exact Sound.throw trivial
  | succ attempts ih =>
    have hwrite : ∀ s', s.cleared ⊆ s'.cleared →
        Prepared s' (.write user id current.updatedAt edits status) := fun _ hrely => hs.mono hrely
    refine Sound.bind (R := fun _ => Permitted user id status)
      (sound_perform _ hwrite (fun s' _ hrely hinv _ =>
        (hs.mono hrely).mono (effect_keeps _ hinv (hwrite s' hrely)).2)) (fun updated s hs => ?_)
    refine Sound.ite (fun _ => Sound.ret trivial) (fun _ => ?_)
    refine Sound.ite_throw (fun _ => ?_)
    refine Sound.bind (sound_call (.findProduct user id) (fun _ => trivial) s)
      (fun next s' hs' => ?_)
    cases next with
    | none => exact Sound.throw trivial
    | some next => exact ih next (hs.mono hs')

theorem updateProduct_sound (user : User) (id : ObjectId) (edits : Photos → Photos → Photos)
    (s : Shop) : reviewContract.Keeps i (updateProduct user id edits) s := by
  unfold updateProduct
  refine Sound.bind (sound_call .check (fun _ => trivial) s) (fun _ s _ => ?_)
  refine Sound.bind (findProduct_sound user id s) (fun product s hread => ?_)
  cases product with
  | none => exact Sound.throw trivial
  | some product =>
    refine Sound.bind (sound_call .check (fun _ => trivial) s) (fun _ s' hs => ?_)
    refine Sound.bind (moderationUpdate_sound id _ (fun s'' hrely _ hnot => ?_))
      (fun status s hpermitted => ?_)
    · have happroved := of_not_not (of_decide_eq_false (Bool.or_eq_false_iff.mp hnot).2)
      exact hrely (hs (hread product rfl happroved))
    · refine Sound.bind (sound_call .check (fun _ => trivial) s) (fun _ s' hs => ?_)
      exact tryWrite_sound _ 3 product (hpermitted.mono hs)

theorem reviewProduct_sound (status : ApprovalStatus) (adminId id : ObjectId) (s : Shop) :
    reviewContract.Keeps i (reviewProduct status adminId id) s := by
  refine Sound.bind (sound_call (.write ..) (fun _ => .inl rfl) s) (fun updated s _ => ?_)
  exact Sound.ite (fun _ => Sound.ret trivial) (fun _ => Sound.throw trivial)

theorem handler_sound (request : Request) (s : Shop) :
    reviewContract.Keeps i (handler request) s := by
  cases request with
  | createProduct user sellerId id photos => exact createProduct_sound user sellerId id photos s
  | updateProduct user id edits => exact updateProduct_sound user id edits s
  | approveProduct adminId id => exact reviewProduct_sound .approved adminId id s
  | rejectProduct adminId id => exact reviewProduct_sound .rejected adminId id s

/-! ## Every interleaving -/

theorem reviewContract_lawful : reviewContract.Lawful where
  refl := fun _ s => Subset.refl s.cleared
  trans := fun _ _ _ _ => Subset.trans
  idle := fun _ _ _ _ _ => trivial
  outside := by
    intro e s s' h hkeeps hout
    cases e with
    | elapse milliseconds =>
      cases hout
      exact ⟨⟨h.required, h.cleared⟩, fun _ => Subset.refl _⟩
    | writeSettings raw =>
      cases hout
      exact ⟨⟨hkeeps, h.cleared⟩, fun _ => Subset.refl _⟩
    | delete id =>
      cases hout
      exact ⟨⟨h.required, (forall_update_iff s.products (WasCleared s.cleared)).mpr
        ⟨nofun, fun other _ => h.cleared other⟩⟩, fun _ => Subset.refl _⟩
    | touch id =>
      obtain ⟨listing, hlisting, rfl⟩ := Option.map_eq_some_iff.mp hout
      refine ⟨⟨h.required, (forall_update_iff s.products (WasCleared s.cleared)).mpr
        ⟨fun stored hstored => ?_, fun other _ => h.cleared other⟩⟩, fun _ => Subset.refl _⟩
      cases hstored
      exact h.cleared id listing hlisting
  entry := fun request _ s _ _ _ => handler_sound request s

/-- Requests in any number and any interleaving, while the settings ask for the approval of new
products: every product that customers see was approved at the start, or has been by an admin. -/
theorem visible_was_cleared (shop : Shop) (hreviewed : Reviewed shop) (acts : List Act)
    (hsettings : Guarded moderationSystem.step (OnEvents (fun e _ => e.keepsReview = true))
      ⟨shop, []⟩ acts) :
    Along moderationSystem.step (fun p => ∀ id listing, p.shared.products id = some listing →
      listing.IsVisible → id ∈ p.shared.cleared) ⟨shop, []⟩ acts := by
  have hmeets : Guarded moderationSystem.step reviewContract.Meets ⟨shop, []⟩ acts := by
    refine hsettings.mono (fun p a h => ?_)
    cases a with
    | run => exact fun _ _ _ => trivial
    | outside => exact h
    | start => trivial
  have hholds := Contract.holds_start (K := reviewContract) hreviewed (fun _ => trivial)
  exact (reviewContract_lawful.along hholds hmeets).mono
    (fun p hp id listing hlisting hvisible =>
      hp.inv.cleared id listing hlisting hvisible.isApproved)

/-- A seller's lamp is approved, and rejected while he edits it: his edit puts it on sale again. -/
def editWhileRejected : List Act :=
  [.start (.createProduct ⟨.seller, 7⟩ none 1 { mainImage := "lamp.png" }),
    .start (.approveProduct 0 1), .start (.updateProduct ⟨.seller, 7⟩ 1 (fun _ photos => photos)),
    .start (.rejectProduct 0 1)] ++ [0, 0, 0, 0, 1, 2, 2].map (fun task => .run task .done) ++
    .outside (.elapse 1) :: [3, 2, 2, 2, 2, 2, 2].map (fun task => .run task .done)

theorem visible_was_cleared_editWhileRejected :
    Along moderationSystem.step (fun p => ∀ id listing, p.shared.products id = some listing →
      listing.IsVisible → id ∈ p.shared.cleared) ⟨⟨0, {}, fun _ => none, []⟩, []⟩
      editWhileRejected :=
  visible_was_cleared ⟨0, {}, fun _ => none, []⟩ ⟨rfl, fun _ _ h => nomatch h⟩ editWhileRejected
    (by decide +kernel)

end DiscountBazar.Catalog.Moderation
