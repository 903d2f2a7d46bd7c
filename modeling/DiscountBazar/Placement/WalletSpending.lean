/-
What a customer redeems over a run of checkouts, refunds and credits.

Every movement of a customer's money runs in a transaction that writes the user's document
or the wallet, so two of them never interleave and a run is a list of them; between them
prices, coupons, stock and the redemption flag may change in any way. What is redeemed and
what can still be redeemed always come to the opening balance and the credits, as long as no
checkout debits the user's field of a customer whose wallet still holds the money.
-/
import DiscountBazar.Placement.PlaceOrder

namespace DiscountBazar.Placement

open Finance Runs Transaction Pricing

/-! ## Runs -/

/-- The options of a credit of a customer's wallet other than the seed's: the mirror is
kept in step, and the ledger key is not a seed's. -/
structure CreditOptions where
  options : MovementOptions
  synced : options.syncUserWalletBalance = true
  notSeed : ∀ c, options.idempotencyKey ≠ some (seedIdempotencyKey c)

inductive WalletAction where
  | placeOrder (r : Request)
  | creditWallet (customer : ObjectId) (amount : ℚ) (options : CreditOptions)
  /-- Prices, coupons, flags, stock and carts become anything. -/
  | environment (store : Store) (stock : Inventory.Products)
      (carts : ObjectId → List OrderItemInput)

/-- The store, and what each customer has redeemed and been credited so far. -/
structure Spending where
  world : World
  redeemed : ObjectId → ℤ := fun _ => 0
  credited : ObjectId → ℤ := fun _ => 0

namespace Spending

def step (h : Spending) : WalletAction → Spending
  | .placeOrder r =>
    match Placement.placeOrder h.world r with
    | .ok (world, placed) =>
      { h with
        world
        redeemed := fun c => h.redeemed c + if c = r.customerId then placed.walletDebit else 0 }
    | .error _ => h
  | .creditWallet customer amount o =>
    match Finance.creditWallet h.world.funds.db (.customer customer) amount .available o.options with
    | .ok (db, m) =>
      { h with
        world := { h.world with funds := h.world.funds.moved customer db }
        credited := fun c => h.credited c + if c = customer then m.amount else 0 }
    | .error _ => h
  | .environment store stock carts => { h with world := { h.world with store, stock, carts } }

end Spending

/-- The balances before a run: none is negative, a customer without a wallet document has
nothing in it, and nothing has been seeded. -/
structure Opening (f : Funds) : Prop where
  available : ∀ c, 0 ≤ f.available c
  wallet : ∀ c, f.hasWallet c = false → f.available c = 0
  unseeded : ∀ c, ¬Seeded f c

/-- The opening balance: the larger of the two fields, to which the wallet is seeded. -/
def openingBalance (f : Funds) (customer : ObjectId) : ℤ :=
  max (f.userBalance customer) (f.available customer)

/-- A checkout that goes through without netting the wallet finds it not seeded, and what is
left of the user's field covers what the wallet holds. -/
def DebitsOneCopy (h : Spending) : WalletAction → Prop
  | .placeOrder r =>
    ∀ result, placeOrder h.world r = .ok result →
      h.world.store.flags.walletRedemptionReducesPayable = true ∨ r.payload.redeemed = 0 ∨
        (¬Seeded h.world.funds r.customerId ∧
          h.world.funds.available r.customerId + r.payload.redeemed
            ≤ h.world.funds.db.users r.customerId)
  | _ => True

/-! ## One customer -/

structure Sound (f : Funds) (c : ObjectId) : Prop where
  nonneg : 0 ≤ f.available c
  wallet : f.hasWallet c = false → f.available c = 0
  agree : Seeded f c → f.available c = f.db.users c

/-- A movement that keeps the balances sound and changes what can be redeemed by `d`. -/
def Shifts (f f' : Funds) (customer : ObjectId) (d : ℤ) : Prop :=
  ∀ c, Sound f c → Sound f' c ∧
    f'.spendable c = f.spendable c + if c = customer then d else 0

section Customer

variable {f f' f₁ : Funds} {customer : ObjectId} {d : ℤ}

theorem Shifts.refl (f : Funds) (customer : ObjectId) : Shifts f f customer 0 :=
  fun c h => ⟨h, by simp⟩

theorem Shifts.trans {d' : ℤ} (h : Shifts f f₁ customer d) (h' : Shifts f₁ f' customer d') :
    Shifts f f' customer (d + d') := by
  intro c hc
  obtain ⟨hc₁, h₁⟩ := h c hc
  obtain ⟨hc', h₂⟩ := h' c hc₁
  refine ⟨hc', ?_⟩
  rw [h₂, h₁]
  split <;> omega

theorem Moves.other {wallet user : ℤ} {seeds : ObjectId → Prop}
    (h : Moves f f' customer wallet user seeds) {c : ObjectId} (hc : c ≠ customer) (hseed : ¬seeds c)
    (hs : Sound f c) : Sound f' c ∧ f'.spendable c = f.spendable c := by
  have ha : f'.available c = f.available c := by
    rw [h.available, if_neg hc, add_zero]
  have hu : f'.db.users c = f.db.users c := by
    rw [h.users, if_neg hc, add_zero]
  have hseeded : Seeded f' c ↔ Seeded f c := by
    rw [h.seeded, or_iff_left hseed]
  refine ⟨⟨?_, ?_, ?_⟩, ?_⟩
  · rw [ha]
    exact hs.nonneg
  · rw [ha, h.hasWallet c hc]
    exact hs.wallet
  · rw [ha, hu, hseeded]
    exact hs.agree
  · simp only [Funds.spendable, Funds.userBalance, ha, hu, hseeded, h.hasUser]

theorem Moves.shifts {seeds : ObjectId → Prop} (h : Moves f f' customer d d seeds)
    (hseeds : ∀ c, ¬seeds c) (hwallet : f'.hasWallet customer = true)
    (hd : 0 ≤ f.available customer + d) : Shifts f f' customer d := by
  intro c hs
  by_cases hc : c = customer
  · subst hc
    have ha : f'.available c = f.available c + d := by
      rw [h.available, if_pos rfl]
    have hu : f'.db.users c = f.db.users c + d := by
      rw [h.users, if_pos rfl]
    have hseeded : Seeded f' c ↔ Seeded f c := by
      rw [h.seeded, or_iff_left (hseeds c)]
    refine ⟨⟨?_, ?_, ?_⟩, ?_⟩
    · rw [ha]
      exact hd
    · rw [hwallet]
      exact fun hfalse => Bool.noConfusion hfalse
    · rw [ha, hu, hseeded]
      exact fun hseed => by rw [hs.agree hseed]
    · rw [if_pos rfl]
      have hnonneg := hs.nonneg
      unfold Funds.spendable
      by_cases hseed : Seeded f c
      · rw [if_pos hseed, if_pos (hseeded.mpr hseed), ha]
      · rw [if_neg hseed, if_neg (mt hseeded.mp hseed), ha]
        simp only [Funds.userBalance, h.hasUser, hu]
        split <;> omega
  · obtain ⟨hs', hsame⟩ := h.other hc (hseeds c) hs
    rw [if_neg hc, add_zero]
    exact ⟨hs', hsame⟩

theorem shifts_moved (f : Funds) (customer : ObjectId) :
    Shifts f (f.moved customer f.db) customer 0 := by
  intro c hs
  refine ⟨⟨hs.nonneg, fun hno => ?_, hs.agree⟩, ?_⟩
  · by_cases hc : c = customer
    · subst hc
      rw [moved_hasWallet_self] at hno
      cases hno
    · rw [moved_hasWallet_ne f customer f.db hc] at hno
      exact hs.wallet hno
  · rw [ite_self, add_zero]
    rfl

theorem userBalance_of_gap (hgap : 0 < seedGap f customer) (hnonneg : 0 ≤ f.available customer) :
    f.userBalance customer = f.db.users customer := by
  unfold seedGap at hgap
  unfold Funds.userBalance
  split at hgap
  next huser => exact if_pos huser
  next => omega

theorem seed_shifts (h : seedCanonicalCustomerWalletFromUser f customer = .ok f') :
    Shifts f f' customer 0 := by
  unfold seedCanonicalCustomerWalletFromUser at h
  split at h
  next hfree =>
    split at h
    next hgap =>
      rw [pure_eq_ok.mp h]
      exact shifts_moved f customer
    next hgap =>
      obtain ⟨⟨db, m⟩, hcredit, h⟩ := bind_eq_ok.mp h
      rw [pure_eq_ok.mp h]
      obtain ⟨hmoves, -⟩ := creditWallet_moves hcredit
      rw [roundCurrency_fromPaise] at hmoves
      intro c hs
      by_cases hc : c = customer
      · subst hc
        rw [if_pos rfl, add_zero]
        have huser := userBalance_of_gap (not_le.mp hgap) hs.nonneg
        have hgapEq : seedGap f c = f.userBalance c - f.available c := rfl
        have ha : (f.moved c db).available c = f.db.users c := by
          rw [hmoves.available, if_pos rfl, hgapEq, huser]
          omega
        have hu : (f.moved c db).db.users c = f.db.users c := by
          rw [hmoves.users, if_pos rfl]
          exact add_zero _
        have hnonneg := hs.nonneg
        refine ⟨⟨?_, fun hno => ?_, fun _ => ha.trans hu.symm⟩, ?_⟩
        · rw [ha]
          omega
        · rw [moved_hasWallet_self] at hno
          cases hno
        · have hspend : (f.moved c db).userBalance c = f.db.users c := by
            rw [← huser, Funds.userBalance, Funds.userBalance, hu, hmoves.hasUser]
          have hbefore : f.spendable c = f.db.users c := by
            rw [spendable_unseeded (fun hseed => hseed hfree), huser]
            omega
          rw [hbefore]
          by_cases hseed : Seeded (f.moved c db) c
          · exact (spendable_seeded hseed).trans ha
          · exact (spendable_unseeded hseed).trans (by rw [hspend, ha, max_self])
      · have hseed : ¬(db.ledger ≠ f.db.ledger ∧
            (seedOptions customer).idempotencyKey = some (seedIdempotencyKey c)) :=
          fun hboth => hc (seedIdempotencyKey_inj.mp (Option.some.inj hboth.2)).symm
        rw [if_neg hc, add_zero]
        exact hmoves.other hc hseed hs
  next htaken =>
    rw [pure_eq_ok.mp h]
    exact Shifts.refl f customer

theorem redeemFromWallet_shifts {group : ObjectId} {amount : ℤ}
    (h : redeemFromWallet f customer group amount = .ok f') : Shifts f f' customer (-amount) := by
  unfold redeemFromWallet at h
  obtain ⟨f₁, hseed, h⟩ := bind_eq_ok.mp h
  obtain ⟨⟨db, m⟩, hdebit, h⟩ := bind_eq_ok.mp h
  rw [pure_eq_ok.mp h]
  obtain ⟨hmoves, -, hle⟩ := debitWallet_moves hdebit
  rw [roundCurrency_fromPaise] at hmoves hle
  have hseeds : ∀ c, ¬(db.ledger ≠ f₁.db.ledger ∧
      (redeemOptions group).idempotencyKey = some (seedIdempotencyKey c)) :=
    fun c hboth => checkoutIdempotencyKey_ne_seed group c (Option.some.inj hboth.2)
  have hdebits := hmoves.shifts hseeds (Function.update_self ..) (by omega)
  have htotal := (seed_shifts hseed).trans hdebits
  rwa [zero_add] at htotal

theorem redeemFromUser_shifts {amount : ℤ} (hpos : 0 < amount) (hseed : ¬Seeded f customer)
    (hle : f.available customer + amount ≤ f.db.users customer)
    (h : redeemFromUser f customer amount = .ok f') : Shifts f f' customer (-amount) := by
  obtain ⟨hmoves, huser, hwallet⟩ := redeemFromUser_moves h
  intro c hs
  by_cases hc : c = customer
  · subst hc
    have ha : f'.available c = f.available c := by
      rw [hmoves.available, ite_self, add_zero]
    have hseed' : ¬Seeded f' c := by
      rw [hmoves.seeded, or_false]
      exact hseed
    refine ⟨⟨?_, ?_, fun hseeded => absurd hseeded hseed'⟩, ?_⟩
    · rw [ha]
      exact hs.nonneg
    · rw [ha, hwallet]
      exact hs.wallet
    · rw [spendable_unseeded hseed, spendable_unseeded hseed', ha, if_pos rfl]
      simp only [Funds.userBalance, hmoves.hasUser, huser, if_true, hmoves.users]
      omega
  · rw [if_neg hc, add_zero]
    exact hmoves.other hc not_false hs

end Customer

/-! ## Runs -/

section Runs

variable {h : Spending} {w : World}

/-- What every state of a run keeps: sound balances, and what is redeemed and what can still
be come to the opening balance and the credits. -/
def Kept (w : World) (h : Spending) : Prop :=
  ∀ c, Sound h.world.funds c ∧
    h.redeemed c + h.world.funds.spendable c = openingBalance w.funds c + h.credited c

theorem kept_of_shifts {h' : Spending} (customer : ObjectId) {d : ℤ} (redeemed credited : ℤ)
    (hk : Kept w h) (hs : Shifts h.world.funds h'.world.funds customer d)
    (hr : ∀ c, h'.redeemed c = h.redeemed c + if c = customer then redeemed else 0)
    (hc : ∀ c, h'.credited c = h.credited c + if c = customer then credited else 0)
    (hd : redeemed + d = credited) : Kept w h' := by
  intro c
  obtain ⟨hsound, heq⟩ := hk c
  obtain ⟨hsound', hspend⟩ := hs c hsound
  refine ⟨hsound', ?_⟩
  rw [hr, hc, hspend]
  split <;> omega

/-- The wallet step of a placement that goes through. -/
theorem redeem_shifts {f f' : Funds} {netted : Bool} {customer group : ObjectId} {amount : ℤ}
    (hok : netted = true ∨ amount ≤ 0 ∨
      (¬Seeded f customer ∧ f.available customer + amount ≤ f.db.users customer))
    (h : redeem netted f customer group amount = .ok f') : Shifts f f' customer (-max 0 amount) := by
  unfold redeem at h
  split at h
  next hzero =>
    rw [pure_eq_ok.mp h, max_eq_left hzero, neg_zero]
    exact Shifts.refl f customer
  next hpos =>
    rw [max_eq_right (by omega)]
    split at h
    next => exact redeemFromWallet_shifts h
    next hoff =>
      rcases hok with hon | hzero | ⟨hseed, hle⟩
      · exact absurd hon hoff
      · exact absurd hzero hpos
      · exact redeemFromUser_shifts (by omega) hseed hle h

theorem placeOrder_shifts {w' : World} {r : Request} {placed : Placed}
    (hok : DebitsOneCopy h (.placeOrder r)) (hplaced : placeOrder h.world r = .ok (w', placed)) :
    Shifts h.world.funds w'.funds r.customerId (-placed.walletDebit) := by
  obtain ⟨items, source, snapshot, -, stock, -, -, hdebit, hredeem, -⟩ :=
    (committed_of_placeOrder hplaced).priced
  rw [hdebit]
  refine redeem_shifts ?_ hredeem
  by_cases hflag : h.world.store.flags.walletRedemptionReducesPayable = true
  · exact .inl hflag
  · -- without netting the debit is the amount of the payload
    rw [walletDebitAmount, if_neg hflag]
    rcases hok _ hplaced with hon | hzero | hunseeded
    · exact absurd hon hflag
    · exact .inr (.inl (le_of_eq hzero))
    · exact .inr (.inr hunseeded)

theorem creditWallet_shifts {f : Funds} {customer : ObjectId} {amount : ℚ} {o : CreditOptions}
    {db : Db} {m : Movement} (hnonneg : 0 ≤ f.available customer)
    (hcredit : creditWallet f.db (.customer customer) amount .available o.options = .ok (db, m)) :
    Shifts f (f.moved customer db) customer m.amount := by
  obtain ⟨-, -, -, -, -, hm⟩ := creditWallet_eq_ok.mp hcredit
  obtain ⟨hmoves, hpos⟩ := creditWallet_moves hcredit
  rw [o.synced, if_pos rfl] at hmoves
  rw [hm]
  exact hmoves.shifts (fun c hboth => o.notSeed c hboth.2) (moved_hasWallet_self ..) (by omega)

theorem step_kept (a : WalletAction) (hk : Kept w h) (hok : DebitsOneCopy h a) :
    Kept w (h.step a) := by
  cases a with
  | placeOrder r =>
    unfold Spending.step
    dsimp only
    split
    next w' placed hplaced =>
      refine kept_of_shifts r.customerId placed.walletDebit 0 hk (placeOrder_shifts hok hplaced)
        (fun c => rfl) (fun c => ?_) (add_neg_cancel _)
      rw [ite_self, add_zero]
    next => exact hk
  | creditWallet customer amount o =>
    unfold Spending.step
    dsimp only
    split
    next db m hcredit =>
      refine kept_of_shifts customer 0 m.amount hk
        (creditWallet_shifts (hk customer).1.nonneg hcredit) (fun c => ?_) (fun c => rfl) (zero_add _)
      rw [ite_self, add_zero]
    next => exact hk
  | environment store stock carts => exact hk

theorem opening_kept (hw : Opening w.funds) : Kept w { world := w } := by
  intro c
  refine ⟨⟨hw.available c, hw.wallet c, fun hseed => absurd hseed (hw.unseeded c)⟩, ?_⟩
  rw [spendable_unseeded (hw.unseeded c)]
  exact add_comm ..

end Runs

/-! ## Two runs -/

/-- A credit without a ledger row. -/
def plainCredit : CreditOptions where
  options := {}
  synced := rfl
  notSeed _ h := by cases h

def scarfStore (netted : Bool) : Store :=
  { scarfShop.store with flags := { walletRedemptionReducesPayable := netted } }

def flip (netted : Bool) : WalletAction := .environment (scarfStore netted) scarfShop.stock scarfShop.carts

/-- A customer with 500 rupees and no wallet document pays 100 without netting, is credited 100,
and pays 100 with netting, which seeds the wallet. -/
def flippedRun : List WalletAction :=
  [flip false, .placeOrder (scarfRequest "COD" 100), .creditWallet 1 100 plainCredit, flip true,
    .placeOrder { scarfRequest "COD" 100 with checkoutGroupId := 1 }]

theorem scarfShop_opening : Opening scarfShop.funds where
  available _ := le_refl 0
  wallet _ _ := rfl
  unseeded _ hseed := hseed (fun _ hrow => absurd hrow List.not_mem_nil)

/-- The shop without netting, where no customer has anything yet. -/
def pennilessShop : World :=
  { scarfShop with store := scarfStore false, funds := { db := Db.fresh Table.empty } }

end DiscountBazar.Placement
