/-
The money a customer can redeem (`walletService.js`, `orderPlacementService.js`).

A customer's balance is kept twice: in the canonical wallet, which may not exist yet, and
in the older field of the user. A balance is read from the wallet where there is one; with
wallet redemption on, a checkout debits the wallet, after it has been seeded once from the
user's field, and without it a checkout debits the user's field alone.
-/
import DiscountBazar.Finance.WalletService

namespace DiscountBazar.Placement

open Finance Function

/-- The finance documents, and which customers have a user and a wallet document. -/
structure Funds where
  db : Db
  hasUser : ObjectId → Bool := fun _ => true
  hasWallet : ObjectId → Bool := fun _ => false

namespace Funds

/-- `Wallet.availableBalance` of a customer. -/
def available (f : Funds) (customer : ObjectId) : ℤ :=
  (f.db.wallets (.customer customer)).availableBalance

/-- `Math.floor` of an amount: whole rupees, downwards. -/
def mathFloor (paise : ℤ) : ℤ := paise / 100 * 100

/-- `getCustomerBalance`: the wallet first, else the user's field. -/
def getCustomerBalance (f : Funds) (customer : ObjectId) : ℤ :=
  if f.hasWallet customer then mathFloor (f.available customer)
  else if f.hasUser customer then mathFloor (f.db.users customer)
  else 0

/-- The documents after a movement of the customer's wallet, which creates the wallet. -/
def moved (f : Funds) (customer : ObjectId) (db : Db) : Funds :=
  { f with db, hasWallet := update f.hasWallet customer true }

end Funds

def seedIdempotencyKey (customer : ObjectId) : IdempotencyKey :=
  .named ("WLT-SEED-" ++ Nat.repr customer)

def checkoutIdempotencyKey (checkoutGroupId : ObjectId) : IdempotencyKey :=
  .named ("WLT-CHOUT-" ++ Nat.repr checkoutGroupId)

def seedOptions (customer : ObjectId) : MovementOptions where
  ledgerType := some .adjustment
  idempotencyKey := some (seedIdempotencyKey customer)
  syncUserWalletBalance := false

def redeemOptions (checkoutGroupId : ObjectId) : MovementOptions where
  ledgerType := some .walletPayment
  idempotencyKey := some (checkoutIdempotencyKey checkoutGroupId)

/-- The gap that `seedCanonicalCustomerWalletFromUser` closes. -/
def seedGap (f : Funds) (customer : ObjectId) : ℤ :=
  (if f.hasUser customer then f.db.users customer else 0) - f.available customer

def seedCanonicalCustomerWalletFromUser (f : Funds) (customer : ObjectId) :
    Except ServiceError Funds :=
  if keyFree f.db (some (seedIdempotencyKey customer)) then
    if seedGap f customer ≤ 0 then pure (f.moved customer f.db)
    else do
      let credit ← creditWallet f.db (.customer customer) (fromPaise (seedGap f customer)) .available
        (seedOptions customer)
      pure (f.moved customer credit.1)
  else pure f

def redeemFromWallet (f : Funds) (customer checkoutGroupId : ObjectId) (amount : ℤ) :
    Except ServiceError Funds := do
  let f ← seedCanonicalCustomerWalletFromUser f customer
  let debit ← debitWallet f.db (.customer customer) (fromPaise amount) .available
    (redeemOptions checkoutGroupId)
  pure (f.moved customer debit.1)

/-- The debit of a checkout from the user's field, `user.walletBalance -= walletAmount`. -/
def redeemFromUser (f : Funds) (customer : ObjectId) (amount : ℤ) : Except ServiceError Funds :=
  if f.hasUser customer then
    pure { f with db := { f.db with
      users := update f.db.users customer (f.db.users customer - amount) } }
  else throw ⟨"Cannot read properties of null (reading 'walletBalance')", none⟩

/-- The wallet step of a placement: what it takes, and nothing where that is nothing. -/
def redeem (walletNetted : Bool) (f : Funds) (customer checkoutGroupId : ObjectId) (amount : ℤ) :
    Except ServiceError Funds :=
  if amount ≤ 0 then pure f
  else if walletNetted then redeemFromWallet f customer checkoutGroupId amount
  else redeemFromUser f customer amount

/-! ## What a movement of a customer's money does -/

/-- The seed of the customer's wallet has been written. -/
def Seeded (f : Funds) (customer : ObjectId) : Prop :=
  ¬keyFree f.db (some (seedIdempotencyKey customer))

instance (f : Funds) (customer : ObjectId) : Decidable (Seeded f customer) :=
  inferInstanceAs (Decidable ¬_)

namespace Funds

/-- `User.walletBalance` where there is a user. -/
def userBalance (f : Funds) (customer : ObjectId) : ℤ :=
  if f.hasUser customer then f.db.users customer else 0

/-- What a customer can come to redeem: the wallet once it is seeded, and before that the
larger of the two balances. -/
def spendable (f : Funds) (customer : ObjectId) : ℤ :=
  if Seeded f customer then f.available customer
  else max (f.userBalance customer) (f.available customer)

end Funds

section Funds

variable (f : Funds) (customer : ObjectId) (db : Db)

@[simp] theorem moved_hasWallet_self : (f.moved customer db).hasWallet customer = true :=
  update_self ..

theorem moved_hasWallet_ne {c : ObjectId} (hc : c ≠ customer) :
    (f.moved customer db).hasWallet c = f.hasWallet c := update_of_ne hc ..

variable {f customer}

theorem spendable_seeded (h : Seeded f customer) : f.spendable customer = f.available customer :=
  if_pos h

theorem spendable_unseeded (h : ¬Seeded f customer) :
    f.spendable customer = max (f.userBalance customer) (f.available customer) := if_neg h

end Funds

/-- The customer's two balances change by these amounts, nobody else's does, and no seed is
written but those of `seeds`. -/
structure Moves (f f' : Funds) (customer : ObjectId) (wallet user : ℤ) (seeds : ObjectId → Prop) :
    Prop where
  available : ∀ c, f'.available c = f.available c + if c = customer then wallet else 0
  users : ∀ c, f'.db.users c = f.db.users c + if c = customer then user else 0
  hasUser : f'.hasUser = f.hasUser
  hasWallet : ∀ c, c ≠ customer → f'.hasWallet c = f.hasWallet c
  seeded : ∀ c, Seeded f' c ↔ Seeded f c ∨ seeds c

theorem seedIdempotencyKey_inj {c c' : ObjectId} :
    seedIdempotencyKey c = seedIdempotencyKey c' ↔ c = c' := by
  constructor
  · intro h
    have hlist := congrArg String.toList (IdempotencyKey.named.inj h)
    rw [String.toList_append, String.toList_append, List.append_cancel_left_eq, Nat.toList_repr,
      Nat.toList_repr] at hlist
    rw [← @Nat.ofDigitChars_ten_toDigits c, hlist, Nat.ofDigitChars_ten_toDigits]
  · rintro rfl
    rfl

theorem checkoutIdempotencyKey_ne_seed (group c : ObjectId) :
    checkoutIdempotencyKey group ≠ seedIdempotencyKey c := by
  unfold checkoutIdempotencyKey seedIdempotencyKey
  intro h
  have hlist := congrArg String.toList (IdempotencyKey.named.inj h)
  simp at hlist

section Movements

variable {f : Funds} {db db₁ : Db} {customer : ObjectId} {m : Movement}

variable {options : MovementOptions}

/-- What the ledger step of a movement leaves: everything but the ledger, to which at most
a row with the movement's key is added. -/
theorem maybeWriteLedgerEntry_frame {owner : Owner} {direction : LedgerDirection}
    {amount before after : ℤ} (ha : 0 ≤ amount)
    (h : maybeWriteLedgerEntry db owner direction amount before after options = .ok db₁) :
    db₁.wallets = db.wallets ∧ db₁.users = db.users ∧
      (db₁.ledger = db.ledger ∨
        ∃ entry, entry.idempotencyKey = options.idempotencyKey ∧
          db₁.ledger = db.ledger ++ [entry]) := by
  obtain ⟨-, ⟨-, rfl⟩ | ⟨t, -, -, rfl⟩⟩ := (maybeWriteLedgerEntry_eq_ok ha).mp h
  · exact ⟨rfl, rfl, .inl rfl⟩
  · exact ⟨rfl, rfl, .inr ⟨_, rfl, rfl⟩⟩

variable {key : Option IdempotencyKey}

theorem seeded_of_frame {f₁ : Funds}
    (hledger : f₁.db.ledger = f.db.ledger ∨
      ∃ entry, entry.idempotencyKey = key ∧ f₁.db.ledger = f.db.ledger ++ [entry]) (c : ObjectId) :
    Seeded f₁ c ↔ Seeded f c ∨
      (f₁.db.ledger ≠ f.db.ledger ∧ key = some (seedIdempotencyKey c)) := by
  unfold Seeded keyFree
  rcases hledger with hsame | ⟨entry, rfl, hrow⟩
  · rw [hsame]
    simp
  · rw [hrow]
    simp only [List.forall_mem_append, List.forall_mem_singleton, not_and_or, ne_eq, not_not,
      List.append_right_eq_self, reduceCtorEq, not_false_eq_true, true_and]

theorem maybeSync_users (c : ObjectId) (d : ℤ) (sync : Bool) :
    (maybeSyncUserWalletBalance db (.customer customer) d sync).users c
      = db.users c + if c = customer then (if sync then d else 0) else 0 := by
  unfold maybeSyncUserWalletBalance
  cases sync with
  | true =>
    by_cases hc : c = customer
    · subst hc
      simp
    · simp [hc]
  | false => simp

theorem available_update {wallets : Owner → Wallet} {w : Wallet} (c : ObjectId) {d : ℤ}
    (hw : w.availableBalance = (wallets (.customer customer)).availableBalance + d) :
    (update wallets (.customer customer) w (.customer c)).availableBalance
      = (wallets (.customer c)).availableBalance + if c = customer then d else 0 := by
  by_cases hc : c = customer
  · subst hc
    simp [hw]
  · have hne : Owner.customer c ≠ .customer customer := fun h => hc (Owner.customer.inj h)
    rw [update_of_ne hne, if_neg hc, add_zero]

/-- The shared part of credit and debit: the wallet changes by `d`, the mirror follows where
it is kept in step, and a row is written at most. -/
theorem moves_of_write {w : Wallet} {d : ℤ} {sync : Bool}
    (hw : w.availableBalance = (f.db.wallets (.customer customer)).availableBalance + d)
    (hwallets : db₁.wallets = update f.db.wallets (.customer customer) w)
    (husers : db₁.users = f.db.users)
    (hledger : db₁.ledger = f.db.ledger ∨
      ∃ entry, entry.idempotencyKey = key ∧ db₁.ledger = f.db.ledger ++ [entry])
    (hdb : db = maybeSyncUserWalletBalance db₁ (.customer customer) d sync) :
    Moves f (f.moved customer db) customer d (if sync then d else 0)
      (fun c => db.ledger ≠ f.db.ledger ∧ key = some (seedIdempotencyKey c)) := by
  subst hdb
  refine ⟨fun c => ?_, fun c => ?_, rfl, fun c hc => ?_, fun c => ?_⟩
  · unfold Funds.available Funds.moved
    rw [maybeSyncUserWalletBalance_wallets, hwallets]
    exact available_update c hw
  · rw [Funds.moved, maybeSync_users, husers]
  · exact update_of_ne hc ..
  · refine seeded_of_frame ?_ c
    rw [Funds.moved, maybeSyncUserWalletBalance_ledger]
    exact hledger

theorem creditWallet_moves {amount : ℚ}
    (h : creditWallet f.db (.customer customer) amount .available options = .ok (db, m)) :
    Moves f (f.moved customer db) customer (roundCurrency amount)
        (if options.syncUserWalletBalance then roundCurrency amount else 0)
        (fun c => db.ledger ≠ f.db.ledger ∧ options.idempotencyKey = some (seedIdempotencyKey c)) ∧
      0 < roundCurrency amount := by
  obtain ⟨db₁, hpos, -, hwrite, hdb, -⟩ := creditWallet_eq_ok.mp h
  obtain ⟨hwallets, husers, hledger⟩ := maybeWriteLedgerEntry_frame (le_of_lt hpos) hwrite
  exact ⟨moves_of_write rfl hwallets husers hledger hdb, hpos⟩

theorem debitWallet_moves {amount : ℚ}
    (h : debitWallet f.db (.customer customer) amount .available options = .ok (db, m)) :
    Moves f (f.moved customer db) customer (-roundCurrency amount)
        (if options.syncUserWalletBalance then -roundCurrency amount else 0)
        (fun c => db.ledger ≠ f.db.ledger ∧ options.idempotencyKey = some (seedIdempotencyKey c)) ∧
      0 < roundCurrency amount ∧ roundCurrency amount ≤ f.available customer := by
  obtain ⟨db₁, hpos, -, hle, hwrite, hdb, -⟩ := debitWallet_eq_ok.mp h
  obtain ⟨hwallets, husers, hledger⟩ := maybeWriteLedgerEntry_frame (le_of_lt hpos) hwrite
  exact ⟨moves_of_write rfl hwallets husers hledger hdb, hpos, hle⟩

/-- A debit of the user's field alone. -/
theorem redeemFromUser_moves {f' : Funds} {amount : ℤ}
    (h : redeemFromUser f customer amount = .ok f') :
    Moves f f' customer 0 (-amount) (fun _ => False) ∧ f.hasUser customer = true ∧
      f'.hasWallet = f.hasWallet := by
  unfold redeemFromUser at h
  split at h
  next huser =>
    rw [Transaction.pure_eq_ok.mp h]
    refine ⟨⟨fun c => ?_, fun c => ?_, rfl, fun c _ => rfl, fun c => ?_⟩, huser, rfl⟩
    · rw [ite_self, add_zero]
      rfl
    · by_cases hc : c = customer
      · subst hc
        simp [sub_eq_add_neg]
      · simp [hc]
    · rw [or_false]
      rfl
  next => cases h

end Movements

end DiscountBazar.Placement
