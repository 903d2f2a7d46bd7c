/-
What the movements of money write.

A movement for an allocation writes one ledger row under the allocation's key, or nothing
when the key is taken. The two transactions of the engine are chains of such movements and
of writes to the record and the order; nothing else of the world is in their reach.
-/
import DiscountBazar.Cancellation.RefundRecord

namespace DiscountBazar.Cancellation

open Finance Transaction Table Option

namespace World

section Movements

variable {w w' : World} {order : Order} {allocation : Allocation}

/-- A movement under a free key: the store keeps its orders, and its ledger has one new
row, under the key. -/
structure Keyed (db db' : Db) (key : IdempotencyKey) : Prop where
  orders : db'.orders = db.orders
  ledger : ∃ row, db'.ledger = db.ledger ++ [row] ∧ row.idempotencyKey = some key

variable {owner : Owner} {options : MovementOptions} {t : LedgerTransactionType}
  {key : IdempotencyKey}

theorem keyed_of_write {db db₀ db₁ : Db} {direction : LedgerDirection} {amount before after : ℤ}
    (ha : 0 ≤ amount) (ht : options.ledgerType = some t) (hk : options.idempotencyKey = some key)
    (hfree : keyFree db (some key)) (hledger : db₀.ledger = db.ledger)
    (horders : db₀.orders = db.orders)
    (h : maybeWriteLedgerEntry db₀ owner direction amount before after options = .ok db₁) :
    Keyed db db₁ key := by
  have hfree₀ : keyFree db₀ options.idempotencyKey := by
    rw [hk]
    intro row hrow
    rw [hledger] at hrow
    exact hfree row hrow
  obtain ⟨-, ⟨hno, -⟩ | ⟨t', -, -, rfl⟩⟩ := (maybeWriteLedgerEntry_eq_ok ha).mp h
  · exact absurd ⟨by rw [ht]; exact some_ne_none t, hfree₀⟩ hno
  · refine ⟨horders, options.entry t' owner direction amount before after, ?_, hk⟩
    rw [Db.appendLedger_ledger, hledger]

theorem keyed_of_creditWallet {db db' : Db} {amount : ℚ} {m : Movement}
    (ht : options.ledgerType = some t) (hk : options.idempotencyKey = some key)
    (hfree : keyFree db (some key))
    (h : creditWallet db owner amount .available options = .ok (db', m)) : Keyed db db' key := by
  obtain ⟨db₁, hpos, -, hwrite, rfl, -⟩ := creditWallet_eq_ok.mp h
  have hkeyed : Keyed db db₁ key :=
    keyed_of_write (le_of_lt hpos) ht hk hfree (Db.saveWallet_ledger db owner _)
      (Db.saveWallet_orders db owner _) hwrite
  rw [if_pos rfl] at h ⊢
  refine ⟨?_, ?_⟩
  · rw [maybeSyncUserWalletBalance_orders]
    exact hkeyed.orders
  · rw [maybeSyncUserWalletBalance_ledger]
    exact hkeyed.ledger

theorem keyed_of_debitWallet {db db' : Db} {amount : ℚ} {m : Movement}
    (ht : options.ledgerType = some t) (hk : options.idempotencyKey = some key)
    (hfree : keyFree db (some key))
    (h : debitWallet db owner amount .available options = .ok (db', m)) : Keyed db db' key := by
  obtain ⟨db₁, hpos, -, -, hwrite, rfl, -⟩ := debitWallet_eq_ok.mp h
  have hkeyed : Keyed db db₁ key :=
    keyed_of_write (le_of_lt hpos) ht hk hfree (Db.saveWallet_ledger db owner _)
      (Db.saveWallet_orders db owner _) hwrite
  rw [if_pos rfl] at h ⊢
  refine ⟨?_, ?_⟩
  · rw [maybeSyncUserWalletBalance_orders]
    exact hkeyed.orders
  · rw [maybeSyncUserWalletBalance_ledger]
    exact hkeyed.ledger

theorem debitPlatform_cases (h : w.debitPlatformForGatewayRefund order allocation = .ok w') :
    (¬ keyFree w.db (some (w.platformKey allocation.id)) ∧ w' = w) ∨
      ∃ db kind, keyFree w.db (some (w.platformKey allocation.id)) ∧
        (kind = .platformDebit ∨ kind = .platformShortfall) ∧
        Keyed w.db db (w.platformKey allocation.id) ∧ w' = w.moved db allocation.id kind := by
  unfold debitPlatformForGatewayRefund at h
  dsimp only at h
  by_cases hfree : keyFree w.db (some (w.platformKey allocation.id))
  · rw [if_pos hfree] at h
    refine .inr ?_
    split at h
    next db m hdebit =>
      obtain rfl := pure_eq_ok.mp h
      exact ⟨db, .platformDebit, hfree, .inl rfl,
        keyed_of_debitWallet rfl rfl hfree hdebit, rfl⟩
    next e hdebit =>
      split at h
      · obtain ⟨db, hcreate, h⟩ := bind_eq_ok.mp h
        obtain rfl := pure_eq_ok.mp h
        obtain ⟨-, -, hdb⟩ := createLedgerEntry_eq_ok.mp hcreate
        refine ⟨db, .platformShortfall, hfree, .inr rfl, ⟨?_, ?_⟩, rfl⟩
        · rw [hdb]
          rfl
        · rw [hdb]
          exact ⟨_, rfl, rfl⟩
      · exact absurd h throw_ne_ok
  · rw [if_neg hfree] at h
    exact .inl ⟨hfree, pure_eq_ok.mp h⟩

theorem creditCustomer_cases (h : w.creditCustomerWallet order allocation = .ok w') :
    (¬ keyFree w.db (some (w.customerKey allocation.id)) ∧ w' = w) ∨
      ∃ db, keyFree w.db (some (w.customerKey allocation.id)) ∧
        Keyed w.db db (w.customerKey allocation.id) ∧
        w' = w.moved db allocation.id .customerCredit := by
  unfold creditCustomerWallet at h
  dsimp only at h
  by_cases hfree : keyFree w.db (some (w.customerKey allocation.id))
  · rw [if_pos hfree] at h
    obtain ⟨⟨db, m⟩, hcredit, h⟩ := bind_eq_ok.mp h
    obtain rfl := pure_eq_ok.mp h
    exact .inr ⟨db, hfree, keyed_of_creditWallet rfl rfl hfree hcredit, rfl⟩
  · rw [if_neg hfree] at h
    exact .inl ⟨hfree, pure_eq_ok.mp h⟩

theorem completeTransaction_cases (h : w.completeTransaction order allocation = .ok w') :
    w' = w ∨ ∃ w₁,
      (w.markCompleted allocation.id).debitPlatformForGatewayRefund order allocation = .ok w₁ ∧
      w' = w₁.markOrderGatewayRefunded := by
  unfold completeTransaction at h
  split at h
  · dsimp only at h
    obtain ⟨w₁, hdebit, h⟩ := bind_eq_ok.mp h
    exact .inr ⟨w₁, hdebit, pure_eq_ok.mp h⟩
  · exact .inl (pure_eq_ok.mp h)

theorem debitGatewaySource_cases (h : w.debitGatewaySource order allocation = .ok w') :
    (allocation.source = .wallet ∧ w' = w) ∨
      (allocation.source = .gateway ∧ ∃ w₁,
        w.debitPlatformForGatewayRefund order allocation = .ok w₁ ∧
          w' = w₁.markOrderGatewayRefunded) := by
  unfold debitGatewaySource at h
  split at h
  next hsource => exact .inl ⟨hsource, pure_eq_ok.mp h⟩
  next hsource =>
    obtain ⟨w₁, hdebit, h⟩ := bind_eq_ok.mp h
    exact .inr ⟨hsource, w₁, hdebit, pure_eq_ok.mp h⟩

theorem walletTransaction_cases (h : w.walletTransaction order allocation = .ok w') :
    w' = w ∨ ∃ w₁ w₂,
      w.canClaim allocation.id [.pending, .failed] false = true ∧
      (w.markClaimed allocation.id).debitGatewaySource order allocation = .ok w₁ ∧
      w₁.creditCustomerWallet order allocation = .ok w₂ ∧
      w' = w₂.markCompleted allocation.id := by
  unfold walletTransaction at h
  split at h
  next hcan =>
    dsimp only at h
    rw [claimAllocation, if_pos hcan] at h
    obtain ⟨w₁, hplatform, h⟩ := bind_eq_ok.mp h
    obtain ⟨w₂, hcredit, h⟩ := bind_eq_ok.mp h
    exact .inr ⟨w₁, w₂, hcan, hplatform, hcredit, pure_eq_ok.mp h⟩
  next => exact .inl (pure_eq_ok.mp h)

/-- What is outside the reach of a transaction: the payments, the gateway and the clock. -/
def books (w : World) :
    List (Option ObjectId) × Table GatewayRefund.id × Date × List GatewayCall × List ObjectId :=
  (w.capturedPayments, w.gatewayRefunds, w.now, w.gatewayCalls, w.resolvedManually)

theorem books_updateOrder (w : World) (f : Order → Order) : (w.updateOrder f).books = w.books := by
  unfold updateOrder
  split <;> rfl

theorem books_debitPlatform (h : w.debitPlatformForGatewayRefund order allocation = .ok w') :
    w'.books = w.books := by
  rcases debitPlatform_cases h with ⟨-, rfl⟩ | ⟨db, kind, -, -, -, rfl⟩
  · rfl
  · rfl

theorem books_completeTransaction (h : w.completeTransaction order allocation = .ok w') :
    w'.books = w.books := by
  rcases completeTransaction_cases h with rfl | ⟨w₁, hdebit, rfl⟩
  · rfl
  · have hbooks := books_debitPlatform hdebit
    exact (books_updateOrder w₁ _).trans hbooks

theorem books_walletTransaction (h : w.walletTransaction order allocation = .ok w') :
    w'.books = w.books := by
  rcases walletTransaction_cases h with rfl | ⟨w₁, w₂, -, hplatform, hcredit, rfl⟩
  · rfl
  · have hfirst : w₁.books = w.books := by
      rcases debitGatewaySource_cases hplatform with ⟨-, rfl⟩ | ⟨-, v, hdebit, rfl⟩
      · rfl
      · have hbooks := books_debitPlatform hdebit
        exact (books_updateOrder v _).trans hbooks
    have hsecond : w₂.books = w₁.books := by
      rcases creditCustomer_cases hcredit with ⟨-, rfl⟩ | ⟨db, -, -, rfl⟩
      · rfl
      · rfl
    exact hsecond.trans hfirst

/-! ## The record -/

theorem record_updateOrder (w : World) (f : Order → Order) :
    (w.updateOrder f).record = w.record := by
  unfold updateOrder
  split <;> rfl

theorem record_debitPlatform (h : w.debitPlatformForGatewayRefund order allocation = .ok w') :
    w'.record = w.record := by
  rcases debitPlatform_cases h with ⟨-, rfl⟩ | ⟨db, kind, -, -, -, rfl⟩
  · rfl
  · rfl

theorem record_debitGatewaySource (h : w.debitGatewaySource order allocation = .ok w') :
    w'.record = w.record := by
  rcases debitGatewaySource_cases h with ⟨-, rfl⟩ | ⟨-, v, hdebit, rfl⟩
  · rfl
  · exact (record_updateOrder v _).trans (record_debitPlatform hdebit)

theorem record_creditCustomer (h : w.creditCustomerWallet order allocation = .ok w') :
    w'.record = w.record := by
  rcases creditCustomer_cases h with ⟨-, rfl⟩ | ⟨db, -, -, rfl⟩
  · rfl
  · rfl

theorem allocation?_updateAllocation (w : World) (id : ObjectId) (f : Allocation → Allocation)
    (hf : ∀ a, (f a).id = a.id) (k : ObjectId) :
    (w.updateAllocation id f hf).allocation? k
      = (w.allocation? k).map (fun a => if k = id then f a else a) := by
  unfold allocation? updateAllocation withRefund Refund.mapAllocations
  dsimp only
  rw [get?_map]
  cases hget : w.record.refund.allocations.get? k with
  | none => rfl
  | some a =>
    have hkey : a.id = k := key_of_get? hget
    rw [map_some, map_some, hkey]

theorem allocation?_markClaimed (w : World) (id k : ObjectId) :
    (w.markClaimed id).allocation? k
      = (w.allocation? k).map (fun a => if k = id then a.claimed w.now else a) :=
  allocation?_updateAllocation w id (fun a => a.claimed w.now) (fun a => a.claimed_id w.now) k

theorem allocation?_markCompleted (w : World) (id k : ObjectId) :
    (w.markCompleted id).allocation? k
      = (w.allocation? k).map (fun a => if k = id then a.completed w.now else a) :=
  allocation?_updateAllocation w id (fun a => a.completed w.now) (fun a => a.completed_id w.now) k

theorem allocation?_of_record {w w' : World} (h : w'.record = w.record) (k : ObjectId) :
    w'.allocation? k = w.allocation? k := by
  rw [allocation?, h, allocation?]

/-- A completion writes its own row only. -/
theorem allocation?_completeTransaction (h : w.completeTransaction order allocation = .ok w')
    (k : ObjectId) :
    w'.allocation? k = w.allocation? k ∨
      (k = allocation.id ∧ w'.allocation? k = (w.allocation? k).map (fun a => a.completed w.now)) := by
  rcases completeTransaction_cases h with rfl | ⟨w₁, hdebit, rfl⟩
  · exact .inl rfl
  · have hrow : w₁.markOrderGatewayRefunded.allocation? k
        = (w.allocation? k).map (fun a => if k = allocation.id then a.completed w.now else a) := by
      have horder : w₁.markOrderGatewayRefunded.allocation? k = w₁.allocation? k :=
        allocation?_of_record (record_updateOrder w₁ _) k
      rw [horder, allocation?_of_record (record_debitPlatform hdebit), allocation?_markCompleted]
    rw [hrow]
    by_cases hk : k = allocation.id
    · refine .inr ⟨hk, ?_⟩
      simp only [if_pos hk]
    · refine .inl ?_
      simp only [if_neg hk, map_id']

theorem allocation?_walletTransaction (h : w.walletTransaction order allocation = .ok w')
    (k : ObjectId) :
    w'.allocation? k = w.allocation? k ∨
      (k = allocation.id ∧ w.canClaim k [.pending, .failed] false = true ∧
        ∃ now, w'.allocation? k = (w.allocation? k).map (fun a => (a.claimed w.now).completed now)) := by
  rcases walletTransaction_cases h with rfl | ⟨w₁, w₂, hcan, hplatform, hcredit, rfl⟩
  · exact .inl rfl
  · have hrow : (w₂.markCompleted allocation.id).allocation? k
        = ((w.allocation? k).map (fun a => if k = allocation.id then a.claimed w.now else a)).map
          (fun a => if k = allocation.id then a.completed w₂.now else a) := by
      rw [allocation?_markCompleted, allocation?_of_record (record_creditCustomer hcredit),
        allocation?_of_record (record_debitGatewaySource hplatform), allocation?_markClaimed]
    rw [hrow]
    by_cases hk : k = allocation.id
    · refine .inr ⟨hk, hk ▸ hcan, w₂.now, ?_⟩
      rw [map_map]
      simp only [if_pos hk]
      rfl
    · refine .inl ?_
      simp only [if_neg hk, map_id']

theorem get?_addAllocations {r : Refund} {k : ObjectId} {a : Allocation}
    (h : r.allocations.get? k = some a) (ps : List PlannedAllocation) :
    (r.addAllocations ps).allocations.get? k = some a := by
  unfold Refund.addAllocations
  dsimp only
  generalize r.allocations = t at h
  induction ps generalizing t with
  | nil => exact h
  | cons p ps ih =>
    rw [List.foldl_cons]
    refine ih _ (get?_eq_some_iff.mpr ?_)
    obtain ⟨hmem, hkey⟩ := get?_eq_some_iff.mp h
    exact ⟨(mem_insert t.freshKey_notMem).mpr (.inl hmem), hkey⟩

end Movements

end World

end DiscountBazar.Cancellation
