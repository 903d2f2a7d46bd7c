/-
A seller's edit keeps the stock of every variant that it keeps.

The guard on `updatedAt` makes an edit write over the product it has copied the stock from, as long
as no two writes fall into one millisecond. What is copied is the stock of the first saved variant
with the id or the SKU, and zero where that variant has none; so the condition is on what it counts.
-/
import DiscountBazar.Catalog.ProductEdit

namespace DiscountBazar.Catalog

open Tasks Runs
open Contract (Sound)
open List Option

/-! ## What is to hold -/

/-- Every variant that an edit kept sells after its write what it sold just before. -/
def StockKept (s : Shelf) : Prop := ∀ stocks ∈ s.kept, stocks.1 = stocks.2

instance (s : Shelf) : Decidable (StockKept s) :=
  inferInstanceAs (Decidable (∀ stocks ∈ s.kept, stocks.1 = stocks.2))

/-! ## The condition -/

/-- The stock that is copied onto a variant is the one of the saved variant that it is, and that is
a stock of its own, or there is nothing to sell. -/
def CopiesStock (saved : Product) (variant : Variant) : Prop :=
  match savedAs saved variant with
  | some ev =>
    (existingVariant saved variant).map Variant.stock = some ev.stock ∧
      (ev.stock = none → masterStock saved = 0)
  | none => True

instance (saved : Product) (variant : Variant) : Decidable (CopiesStock saved variant) := by
  unfold CopiesStock
  split
  · infer_instance
  · infer_instance

/-- The master stock is copied as it is sold, or not sold at all. -/
def CopiesMaster (saved : Product) : Prop :=
  saved.stock = none → saved.variants ≠ [] ∧ ∀ v ∈ saved.variants, v.stock ≠ none

instance (saved : Product) : Decidable (CopiesMaster saved) := inferInstanceAs (Decidable (_ → _))

/-- The edit copies the stock of every variant that it keeps, and names no stock itself. -/
def Copies (data : ProductData) (saved : Product) : Prop :=
  match data.variants with
  | some [] => saved.variants = [] → saved.stock ≠ none
  | some variants => ∀ v ∈ variants, CopiesStock saved v
  | none => data.stockPaths = [] ∧ CopiesMaster saved

instance (data : ProductData) (saved : Product) : Decidable (Copies data saved) := by
  unfold Copies
  split
  · infer_instance
  · infer_instance
  · infer_instance

/-- No write of the product was in this millisecond. -/
def Alone (s : Shelf) : Prop :=
  (s.product.bind Stored.updatedAt).all (fun updatedAt => decide (updatedAt < s.clock)) = true

instance (s : Shelf) : Decidable (Alone s) := inferInstanceAs (Decidable (_ = _))

/-- The condition on a call: a write that goes through is alone in its millisecond, and copies the
stock. -/
def Careful (_ : ℕ) (kind : Kind) (c : Choice) (s : Shelf) : Prop :=
  match kind with
  | .write data current =>
    c.outcome.takesEffect = true → conflicts data = false →
      s.product.map Stored.updatedAt = some current.updatedAt → Alone s ∧ Copies data current.doc
  | _ => True

instance (task : ℕ) (kind : Kind) (c : Choice) (s : Shelf) : Decidable (Careful task kind c s) := by
  unfold Careful
  split
  · infer_instance
  · infer_instance

/-- The condition on a write by anybody else. -/
def AloneAt (e : Event) (s : Shelf) : Prop :=
  match e with
  | .write _ => Alone s
  | _ => True

instance (e : Event) (s : Shelf) : Decidable (AloneAt e s) := by
  unfold AloneAt
  split
  · infer_instance
  · infer_instance

/-! ## Which variant is which -/

theorem sameSku_self {sku : String} (h : sku ≠ "") : sameSku sku sku = true := by
  unfold sameSku
  rw [decide_eq_true h, decide_eq_true rfl]
  rfl

theorem sameSku_empty (sku : String) : sameSku "" sku = false := by
  unfold sameSku
  rw [decide_eq_false (fun h => h rfl)]
  rfl

theorem sameId_of_none {variant : Variant} (h : variant.id = none) (saved : Variant) :
    sameId variant saved = false := by
  unfold sameId
  rw [h]
  rfl

variable {saved : Product}

theorem savedAs_congr {v w : Variant} (hid : ∀ ev ∈ savedVariants saved, sameId w ev = sameId v ev)
    (hsku : w.sku = v.sku) :
    savedAs saved w = savedAs saved v := by
  unfold savedAs
  rw [filter_congr hid, hsku]

variable {variants : List Variant} {v ev : Variant}

theorem eq_of_filter {p : Variant → Bool} (h : variants.filter p = [ev]) (hv : v ∈ variants)
    (hp : p v = true) : v = ev := by
  have hmem := mem_filter.mpr ⟨hv, hp⟩
  rw [h] at hmem
  exact mem_singleton.mp hmem

theorem savedVariants_of_mem {v : Variant} (h : v ∈ saved.variants) :
    savedVariants saved = saved.variants := by
  unfold savedVariants
  split
  next hnil =>
    rw [hnil] at h
    cases h
  next => rfl

theorem savedAs_self (hv : v ∈ saved.variants) (h : savedAs saved v = some ev) : v = ev := by
  have hself : v ∈ savedVariants saved := savedVariants_of_mem hv ▸ hv
  unfold savedAs at h
  split at h
  next found hfound =>
    cases h
    -- without an id no saved variant has it
    cases hid : v.id with
    | none =>
      have hmem : ev ∈ (savedVariants saved).filter (sameId v) :=
        hfound ▸ mem_singleton_self ev
      have hsame := (mem_filter.mp hmem).2
      rw [sameId_of_none hid] at hsame
      cases hsame
    | some id =>
      refine eq_of_filter hfound hself ?_
      unfold sameId
      rw [hid, decide_eq_true rfl]
      rfl
  next =>
    split at h
    next found hfound =>
      cases h
      by_cases hsku : v.sku = ""
      · have hmem : ev ∈ (savedVariants saved).filter (fun ev => sameSku v.sku ev.sku) :=
          hfound ▸ mem_singleton_self ev
        have hsame := (mem_filter.mp hmem).2
        rw [hsku, sameSku_empty] at hsame
        cases hsame
      · exact eq_of_filter hfound hself (sameSku_self hsku)
    next => cases h
  next => cases h

/-! ## New ids -/

theorem id_lt_newId {v : Variant} {id : ℕ} (hv : v ∈ variants) (hid : v.id = some id) :
    id < newId variants := by
  induction variants with
  | nil => cases hv
  | cons w variants ih =>
    have hcons : newId (w :: variants) = max (newId variants) (w.id.getD 0 + 1) := rfl
    rw [hcons]
    rcases mem_cons.mp hv with rfl | htail
    · rw [hid]
      exact lt_of_lt_of_le (Nat.lt_succ_self id) (le_max_right _ _)
    · exact lt_of_lt_of_le (ih htail) (le_max_left _ _)

theorem savedAs_withId {v : Variant} {n : ℕ} (hn : newId (saved.variants ++ variants) ≤ n) :
    savedAs saved { v with id := some (v.id.getD n) } = savedAs saved v := by
  refine savedAs_congr (fun ev hev => ?_) rfl
  cases hid : v.id with
  | some id =>
    unfold sameId
    rw [hid]
    rfl
  | none =>
    rw [sameId_of_none hid]
    -- the new id is none that a saved variant has
    have hne : ev.id ≠ some n := by
      intro hsame
      cases hvariants : saved.variants with
      | nil =>
        unfold savedVariants at hev
        rw [hvariants] at hev
        rw [mem_singleton.mp hev] at hsame
        cases hsame
      | cons w ws =>
        have hmem : ev ∈ saved.variants := by
          unfold savedVariants at hev
          rw [hvariants] at hev ⊢
          exact hev
        have hlt := id_lt_newId (mem_append_left variants hmem) hsame
        exact absurd hn (not_le.mpr hlt)
    exact decide_eq_false hne

/-! ## One edit -/

theorem max_keptStock (h : CopiesStock saved v) (hsaved : savedAs saved v = some ev) :
    max 0 (keptStock saved v) = sellable saved ev := by
  unfold CopiesStock at h
  rw [hsaved] at h
  obtain ⟨hstock, hnone⟩ := h
  obtain ⟨existing, hexisting, hsame⟩ := map_eq_some_iff.mp hstock
  unfold keptStock sellable
  rw [hexisting]
  dsimp only
  rw [hsame]
  cases hown : ev.stock with
  | some stock => rfl
  | none =>
    dsimp only [getD_none]
    rw [hnone hown]
    rfl

theorem masterStock_some {product : Product} {stock : ℤ} (h : product.stock = some stock) :
    masterStock product = max 0 stock := by
  unfold masterStock
  rw [h]

variable {data : ProductData}

theorem keptStocks_variants (hvariants : data.variants = some variants) (hne : variants ≠ [])
    (h : ∀ v ∈ variants, CopiesStock saved v) :
    ∀ stocks ∈ keptStocks saved (edited (keepSavedStock data saved) saved),
      stocks.1 = stocks.2 := by
  have hkeep : keepSavedStock data saved =
      { data with
        variants := some (variants.map (fun v => { v with stock := some (keptStock saved v) }))
        stock := variantStockSum
          (variants.map (fun v => { v with stock := some (keptStock saved v) })) } := by
    unfold keepSavedStock
    rw [hvariants]
    cases variants with
    | nil => exact absurd rfl hne
    | cons v variants => rfl
  intro stocks hstocks
  rw [hkeep] at hstocks
  unfold keptStocks edited editedVariants at hstocks
  dsimp only at hstocks
  rw [if_neg (fun hboth => hne (by
    have hlength := congrArg length hboth.2
    unfold withIds at hlength
    rw [length_mapIdx, length_map, length_nil] at hlength
    exact length_eq_zero_iff.mp hlength))] at hstocks
  obtain ⟨w, hw, hstocks⟩ := mem_filterMap.mp hstocks
  obtain ⟨ev, hsaved, rfl⟩ := map_eq_some_iff.mp hstocks
  unfold withIds at hw
  obtain ⟨i, hi, rfl⟩ := mem_mapIdx.mp hw
  rw [length_map] at hi
  rw [getElem_map] at hsaved ⊢
  have hsavedAs : savedAs saved variants[i] = some ev := by
    refine Eq.trans ?_ hsaved
    exact (savedAs_withId (v := { variants[i] with stock := some (keptStock saved variants[i]) })
      (Nat.le_add_right _ i)).symm
  exact (max_keptStock (h variants[i] (getElem_mem hi)) hsavedAs).symm

theorem keptStocks_unnamed (hvariants : data.variants = none) (hpaths : data.stockPaths = [])
    (hmaster : CopiesMaster saved) :
    ∀ stocks ∈ keptStocks saved (edited (keepSavedStock data saved) saved),
      stocks.1 = stocks.2 := by
  have hkeep : keepSavedStock data saved = { data with stock := saved.stock.getD 0 } := by
    unfold keepSavedStock
    rw [hvariants]
  intro stocks hstocks
  rw [hkeep] at hstocks
  unfold keptStocks edited editedVariants applyPaths at hstocks
  dsimp only at hstocks
  rw [hvariants, hpaths, foldl_nil] at hstocks
  dsimp only at hstocks
  have hsame : ∀ (stock : ℤ) (after : Product), saved.stock = some stock →
      after.stock = some (saved.stock.getD 0) → masterStock saved = masterStock after := by
    intro stock after hstock hafter
    rw [masterStock_some hstock, masterStock_some hafter, hstock, getD_some]
  split at hstocks
  next hnone =>
    have hstock : saved.stock ≠ none := fun hstock => (hmaster hstock).1 hnone.1
    obtain ⟨stock, hstock⟩ := ne_none_iff_exists'.mp hstock
    rw [mem_singleton.mp hstocks]
    dsimp only
    exact hsame stock _ hstock rfl
  next =>
    obtain ⟨v, hv, hpair⟩ := mem_filterMap.mp hstocks
    obtain ⟨ev, hsaved, rfl⟩ := map_eq_some_iff.mp hpair
    rw [← savedAs_self hv hsaved]
    unfold sellable
    cases hown : v.stock with
    | some own => rfl
    | none =>
      have hstock : saved.stock ≠ none := fun hstock => (hmaster hstock).2 v hv hown
      obtain ⟨stock, hstock⟩ := ne_none_iff_exists'.mp hstock
      dsimp only
      exact hsame stock _ hstock rfl

theorem keptStocks_removed (hvariants : data.variants = some [])
    (hmaster : saved.variants = [] → saved.stock ≠ none) :
    ∀ stocks ∈ keptStocks saved (edited (keepSavedStock data saved) saved),
      stocks.1 = stocks.2 := by
  have hkeep : keepSavedStock data saved = { data with stock := saved.stock.getD 0 } := by
    unfold keepSavedStock
    rw [hvariants]
  intro stocks hstocks
  rw [hkeep] at hstocks
  unfold keptStocks edited editedVariants at hstocks
  dsimp only at hstocks
  rw [hvariants] at hstocks
  dsimp only at hstocks
  split at hstocks
  next hnone =>
    obtain ⟨stock, hstock⟩ := ne_none_iff_exists'.mp (hmaster hnone.1)
    rw [mem_singleton.mp hstocks]
    dsimp only
    rw [masterStock_some hstock]
    refine (masterStock_some ?_).symm
    rw [hstock, getD_some]
  next => cases hstocks

theorem keptStocks_edited (h : Copies data saved) :
    ∀ stocks ∈ keptStocks saved (edited (keepSavedStock data saved) saved),
      stocks.1 = stocks.2 := by
  unfold Copies at h
  split at h
  next hvariants => exact keptStocks_removed hvariants h
  next variants hne hvariants => exact keptStocks_variants hvariants hne h
  next hvariants => exact keptStocks_unnamed hvariants h.1 h.2

/-! ## What the guard sees -/

def Later (before after : Option Date) : Prop :=
  ∃ time, after = some time ∧ ∀ earlier, before = some earlier → earlier < time

theorem Later.ne {before after : Option Date} (h : Later before after) : after ≠ before := by
  intro hsame
  obtain ⟨time, hafter, hlater⟩ := h
  exact lt_irrefl time (hlater time (hsame ▸ hafter))

theorem Later.trans {a b c : Option Date} (h : Later a b) (h' : Later b c) : Later a c := by
  obtain ⟨time, hb, hlater⟩ := h
  obtain ⟨time', hc, hlater'⟩ := h'
  exact ⟨time', hc, fun earlier hearlier => (hlater earlier hearlier).trans (hlater' time hb)⟩

def Known (s : Shelf) (read : Stored) : Prop :=
  ∀ stored, s.product = some stored → stored = read ∨ Later read.updatedAt stored.updatedAt

variable {s : Shelf} {read : Stored}

theorem Known.refl (h : s.product = some read) : Known s read :=
  fun _ hstored => .inl (some.inj (hstored.symm.trans h))

theorem Known.eq_of_updatedAt {read stored : Stored} (h : Known s read)
    (hstored : s.product = some stored) (hsame : stored.updatedAt = read.updatedAt) :
    stored = read := by
  rcases h stored hstored with heq | hlater
  · exact heq
  · exact absurd hsame hlater.ne

/-- What the others do to a task: the product it has read is known, and one that is gone does not
come back. -/
structure Others (s s' : Shelf) : Prop where
  gone : s.product = none → s'.product = none
  known : ∀ read, s.product = some read → Known s' read

theorem Others.of_product {s s' : Shelf} (h : s'.product = s.product) : Others s s' :=
  ⟨fun hnone => h.trans hnone, fun _ hread => Known.refl (h.trans hread)⟩

theorem Others.refl (s : Shelf) : Others s s := Others.of_product rfl

theorem Known.others {s s' : Shelf} (h : Known s read) (hothers : Others s s') :
    Known s' read := by
  intro stored' hstored'
  cases hproduct : s.product with
  | none =>
    rw [hothers.gone hproduct] at hstored'
    cases hstored'
  | some stored =>
    rcases h stored hproduct with rfl | hlater
    · exact hothers.known stored hproduct stored' hstored'
    · rcases hothers.known stored hproduct stored' hstored' with rfl | hlater'
      · exact .inr hlater
      · exact .inr (hlater.trans hlater')

theorem Others.trans {s s' s'' : Shelf} (h : Others s s') (h' : Others s' s'') : Others s s'' :=
  ⟨fun hnone => h'.gone (h.gone hnone), fun read hread => (h.known read hread).others h'⟩

theorem others_of_write {s s' : Shelf} {stored : Stored} {doc : Product}
    (hstored : s.product = some stored) (halone : Alone s)
    (hproduct : s'.product = some ⟨doc, some s.clock⟩) : Others s s' := by
  have hgone : s.product ≠ none := fun hnone => by
    rw [hnone] at hstored
    cases hstored
  refine ⟨fun hnone => absurd hnone hgone, fun read hread other hother => ?_⟩
  cases hstored.symm.trans hread
  cases hproduct.symm.trans hother
  refine .inr ⟨s.clock, rfl, fun earlier hearlier => ?_⟩
  unfold Alone at halone
  rw [hstored, bind_some, hearlier] at halone
  exact of_decide_eq_true halone

/-! ## One call -/

def Prepared (s : Shelf) : Kind → Prop
  | .write _ current => Known s current
  | _ => True

variable {i : ℕ} {c : Choice} {s : Shelf}

variable {kind : Kind}

theorem effect_keeps (h : StockKept s) (hcareful : Careful i kind c s)
    (htakes : c.outcome.takesEffect = true) (hprepared : Prepared s kind) :
    StockKept (effect c s kind).2 ∧ Others s (effect c s kind).2 := by
  cases kind with
  | findProduct | check | makeSkus | ensureUniqueSku => exact ⟨h, Others.refl s⟩
  | write data current =>
    unfold effect
    dsimp only
    split
    next => exact ⟨h, Others.refl s⟩
    next hconflicts =>
      split
      next stored hstored =>
        split
        next hsame =>
          -- the guard has let the write through
          have hcurrent := hprepared.eq_of_updatedAt hstored hsame
          obtain ⟨halone, hcopies⟩ := hcareful htakes (Bool.eq_false_iff.mpr hconflicts)
            (by rw [hstored, map_some, hsame])
          refine ⟨fun stocks hstocks => ?_, others_of_write hstored halone rfl⟩
          rcases mem_append.mp hstocks with hold | hnew
          · exact h stocks hold
          · rw [hcurrent] at hnew
            exact keptStocks_edited hcopies stocks hnew
        next => exact ⟨h, Others.refl s⟩
      next => exact ⟨h, Others.refl s⟩

def carefulContract : Contract editSystem where
  inv := StockKept
  rely := fun _ => Others
  may := Careful
  mayOutside := AloneAt

/-! ## The handler -/

theorem sound_perform {Q : kind.Reply → Shelf → Prop}
    (hprepared : ∀ s', Others s s' → Prepared s' kind)
    (hok : ∀ c s' a, Others s s' → (effect c s' kind).1 = .ok a → Q a (effect c s' kind).2) :
    carefulContract.Sound i Q (fun _ _ => True) (Prog.perform kind) s :=
  Sound.perform_outcome (o := Choice.outcome) (f := fun c s => effect c s kind)
    (fun _ _ => rfl) (fun _ => Others.refl)
    (fun _ s' hrely hinv hmay htakes =>
      ⟨(effect_keeps (i := i) hinv hmay htakes (hprepared s' hrely)).1,
        fun _ _ => (effect_keeps (i := i) hinv hmay htakes (hprepared s' hrely)).2⟩)
    (fun c s' a hrely _ _ _ => hok c s' a hrely) (fun _ _ _ _ _ _ _ _ => trivial)
    (fun _ _ _ _ _ _ _ => trivial) (fun _ _ _ _ _ _ _ => trivial)

theorem sound_known (hs : Known s read) (hprepared : ∀ s', Prepared s' kind) :
    carefulContract.Sound i (fun _ s => Known s read) (fun _ _ => True) (Prog.perform kind) s := by
  have hcall : carefulContract.Keeps i (Prog.perform kind) s :=
    sound_perform (fun s' _ => hprepared s') (fun _ _ _ _ _ => trivial)
  have hframe := hcall.frame (F := fun s => Known s read)
    (fun _ _ _ hrely h => Known.others h hrely) hs
  exact hframe.mono (fun _ _ h => h.2) (fun _ _ _ => trivial)

theorem findProduct_sound (s : Shelf) :
    carefulContract.Sound i (fun product s => ∀ read, product = some read → Known s read)
      (fun _ _ => True) (Prog.perform Kind.findProduct) s := by
  refine sound_perform (fun _ _ => trivial) (fun c s' product _ hread read hsome => ?_)
  have hproduct : s'.product = product := Except.ok.inj hread
  exact Known.refl (hproduct.trans hsome)

theorem tryWrite_sound (attempts : ℕ) (data : ProductData) {current : Stored} (hs : Known s current) :
    carefulContract.Keeps i (tryWrite attempts data current)
      s := by
  induction attempts generalizing data current s with
  | zero => exact Sound.throw trivial
  | succ attempts ih =>
    refine Sound.bind (R := fun _ _ => True)
      (sound_perform (fun s' hrely => hs.others hrely) (fun _ _ _ _ _ => trivial))
      (fun updated s _ => ?_)
    refine Sound.ite (fun _ => Sound.ret trivial) (fun _ => ?_)
    refine Sound.bind (findProduct_sound s) (fun next s hnext => ?_)
    cases next with
    | none => exact Sound.throw trivial
    | some next => exact ih (keepSavedStock data current.doc) (hnext next rfl)

theorem prepareVariants_sound (data : ProductData) (saved : Product) (hs : Known s read) :
    carefulContract.Sound i (fun _ s => Known s read) (fun _ _ => True) (prepareVariants data saved)
      s := by
  unfold prepareVariants
  split
  · exact Sound.ret hs
  · exact Sound.ret hs
  · refine Sound.bind (sound_known hs (fun _ => trivial)) (fun made s hs => ?_)
    refine Sound.bind (sound_known hs (fun _ => trivial)) (fun sku s hs => ?_)
    exact Sound.ret hs

theorem updateProduct_sound (payload : ProductData) (s : Shelf) :
    carefulContract.Keeps i (updateProduct payload) s := by
  unfold updateProduct
  refine Sound.bind (R := fun _ _ => True)
    (sound_perform (fun _ _ => trivial) (fun _ _ _ _ _ => trivial)) (fun _ s _ => ?_)
  refine Sound.bind (findProduct_sound s) (fun product s hproduct => ?_)
  cases product with
  | none => exact Sound.throw trivial
  | some product =>
    refine Sound.bind (prepareVariants_sound payload product.doc (hproduct product rfl))
      (fun data s hs => ?_)
    refine Sound.bind (sound_known hs (fun _ => trivial)) (fun _ s hs => ?_)
    exact tryWrite_sound 3 data hs

/-! ## Every interleaving -/

theorem carefulContract_lawful : carefulContract.Lawful where
  refl := fun _ => Others.refl
  trans := fun _ _ _ _ => Others.trans
  idle := fun _ _ _ _ _ => trivial
  outside := by
    intro e s s' h halone hout
    cases e with
    | elapse milliseconds =>
      cases hout
      exact ⟨h, fun _ => Others.of_product rfl⟩
    | write doc =>
      unfold editSystem outside at hout
      dsimp only at hout
      split at hout
      next stored hstored =>
        cases hout
        exact ⟨h, fun _ => others_of_write hstored halone rfl⟩
      next => cases hout
    | delete =>
      cases hout
      exact ⟨h, fun _ => ⟨fun _ => rfl, fun _ _ _ hstored => by cases hstored⟩⟩
  entry := fun payload _ s _ _ _ => updateProduct_sound payload s

def redShirt (stock : Option ℤ) : Product where
  sellerId := 1
  name := "Shirt"
  sku := "SHIRT"
  stock := some 10
  variants := [{ id := some 0, sku := "RED", stock }]

/-- The shirt is edited, with the stock that the page shows; in the meantime it becomes this. -/
def editWhile (doc : Product) : List Act :=
  [.start { variants := some [{ id := some 0, sku := "RED", stock := some 100 }] },
    .run 0 {}, .run 0 {}, .run 0 { made := fun _ => "RED" }, .run 0 { sku := "SHIRT" },
    .outside (.elapse 1), .outside (.write doc), .outside (.elapse 1)] ++ replicate 5 (.run 0 {})

end DiscountBazar.Catalog
