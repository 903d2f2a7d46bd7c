/-
Reserved stock goes back once.

The paths that give the stock of an order back run as tasks beside each other. A task may
increment only while it holds the claim that flipped the reservation to RELEASED; the flag
never goes back, so no second task gets that claim. What the holder still has to restore
and what it has restored add up to no more than the order's lines.
-/
import DiscountBazar.Inventory.Release

namespace DiscountBazar.Inventory

open Tasks Transaction
open Contract (Sound)
open List Option Nat

/-! ## The system -/

/-- What happens to the order and the products on other paths: the order moves on or is
paid, the parcel is returned, and other orders, sales and sellers change the stock. -/
structure Elsewhere where
  workflowStatus : Finance.WorkflowStatus
  paid : Bool
  inventory : InventoryStatus
  products : Products

/-- The paths that may give stock back. -/
inductive Path where
  | compensate (skipStockRelease : Bool)
  | cancelAndCompensate (filter : Order → Bool)
  | customerCancels (filter : Order → Bool)
  | paymentFailed
  | inspect (role : InspectorRole) (rows : List InspectionRow)

def Path.program : Path → M Unit
  | .compensate skip => compensateOrderCancellation skip
  | .cancelAndCompensate filter => Inventory.cancelAndCompensate filter
  | .customerCancels filter => (Prog.perform (Op.executeDirectCancellation filter)).discard
  | .paymentFailed => Prog.perform Op.paymentFailed
  | .inspect role rows => inspectReturnedParcel role rows

def system : System Op Op.Reply ServiceError World Outcome Elsewhere Path where
  perform := fun i op outcome w => some (performOp i op outcome w)
  outside := fun e w => some { w with
    order := { w.order with workflowStatus := e.workflowStatus, paid := e.paid }
    inventory := e.inventory
    products := e.products }
  entry := Path.program
  mayStart := fun _ _ => true

/-! ## Restored and due -/

def restoredOf (restored : List Increment) (index : ℕ) : ℕ :=
  ((restored.filter (fun r => decide (r.index = index))).map Increment.quantity).sum

/-- The units that a list of lines would restore of a line. -/
def dueOf (items : List (Line × ℕ)) (index : ℕ) : ℕ :=
  ((items.filter (fun item => decide (item.2 = index))).map (fun item => item.1.quantity)).sum

def orderedOf (items : List Line) (index : ℕ) : ℕ := (items[index]?.map Line.quantity).getD 0

/-- At most one task has restored stock, and of no line more than was ordered. -/
structure RestoredOnce (w : World) : Prop where
  one : ∀ r ∈ w.restored, ∀ r' ∈ w.restored, r.task = r'.task
  within : ∀ index, restoredOf w.restored index ≤ orderedOf w.order.items index

theorem restoredOf_append (restored : List Increment) (r : Increment) (index : ℕ) :
    restoredOf (restored ++ [r]) index
      = restoredOf restored index + if r.index = index then r.quantity else 0 := by
  unfold restoredOf
  by_cases h : r.index = index
  · simp [h]
  · simp [h]

theorem dueOf_cons (item : Line × ℕ) (items : List (Line × ℕ)) (index : ℕ) :
    dueOf (item :: items) index
      = (if item.2 = index then item.1.quantity else 0) + dueOf items index := by
  unfold dueOf
  by_cases h : item.2 = index
  · simp [h]
  · simp [h]

theorem dueOf_zipIdx (items : List Line) (index : ℕ) :
    dueOf items.zipIdx index = orderedOf items index := by
  have hfrom : ∀ (items : List Line) (start : ℕ), dueOf (items.zipIdx start) index
      = if index < start then 0 else orderedOf items (index - start) := by
    intro items
    induction items with
    | nil =>
      intro start
      simp [dueOf, orderedOf]
    | cons l items ih =>
      intro start
      rw [zipIdx_cons, dueOf_cons, ih]
      rcases lt_trichotomy start index with hlt | heq | hgt
      · rw [if_neg (by omega), if_neg (by omega), if_neg (by omega)]
        have hidx : index - start = (index - (start + 1)) + 1 := by omega
        rw [hidx, orderedOf, orderedOf, getElem?_cons_succ, zero_add]
      · subst heq
        rw [if_pos rfl, if_pos (by omega), if_neg (by omega), Nat.sub_self]
        rfl
      · rw [if_neg (by omega), if_pos (by omega), if_pos hgt]
  rw [hfrom items 0, if_neg (Nat.not_lt_zero index), Nat.sub_zero]

variable {items : List (Line × ℕ)}

/-- Lines that restore less are due less. -/
theorem dueOf_map_le {f : Line × ℕ → Line × ℕ} (hidx : ∀ item, (f item).2 = item.2)
    (hle : ∀ item ∈ items, (f item).1.quantity ≤ item.1.quantity) (index : ℕ) :
    dueOf (items.map f) index ≤ dueOf items index := by
  induction items with
  | nil => exact le_refl _
  | cons item items ih =>
    rw [map_cons, dueOf_cons, dueOf_cons, hidx]
    have hrest := ih (fun item h => hle item (mem_cons_of_mem _ h))
    have hitem := hle item (mem_cons_self ..)
    split
    · omega
    · omega

/-! ## What an inspection says -/

theorem checkInspection_ok {byIndex : Inspection} {u : Unit}
    (h : checkInspection byIndex items = .ok u) :
    ∀ item ∈ items, ∃ entry, byIndex item.2 = some entry ∧
      entry.sellableQty + entry.damagedQty + entry.missingQty = item.1.quantity := by
  induction items with
  | nil => exact fun item hitem => absurd hitem not_mem_nil
  | cons first items ih =>
    unfold checkInspection at h
    split at h
    next => cases h
    next entry hentry =>
      rw [ite_throw_eq_ok] at h
      obtain ⟨hsum, hrest⟩ := h
      intro item hitem
      rcases mem_cons.mp hitem with rfl | hitem
      · exact ⟨entry, hentry, not_not.mp hsum⟩
      · exact ih hrest item hitem

theorem dueOf_sellableItems {items : List Line} {rows : List InspectionRow} {inspection : Inspection}
    (h : normalizeInspection items rows = .ok inspection) (index : ℕ) :
    dueOf (sellableItems items inspection) index ≤ orderedOf items index := by
  unfold normalizeInspection at h
  obtain ⟨byIndex, -, hrest⟩ := bind_eq_ok.mp h
  obtain ⟨u, hcheck, hpure⟩ := bind_eq_ok.mp hrest
  cases pure_eq_ok.mp hpure
  rw [← dueOf_zipIdx]
  unfold sellableItems
  refine dueOf_map_le ?_ (fun item hitem => ?_) index
  · exact fun _ => rfl
  obtain ⟨entry, hentry, hsum⟩ := checkInspection_ok hcheck item hitem
  rw [hentry, map_some, getD_some]
  change entry.sellableQty ≤ item.1.quantity
  omega

/-! ## The contract -/

/-- Nothing is restored before the flag is flipped, and then only by the task that flipped
it and no more than was ordered. -/
structure ReleaseInv (w : World) : Prop where
  fresh : w.order.reservation ≠ .released → w.restored = []
  flipped : ∀ i, w.claimedBy = some i → w.order.reservation = .released
  claimed : ∀ r ∈ w.restored, w.claimedBy = some r.task
  within : ∀ index, restoredOf w.restored index ≤ orderedOf w.order.items index

/-- The others keep the lines, and leave the claim and what is restored to its holder. -/
def rely (i : ℕ) (w w' : World) : Prop :=
  w'.order.items = w.order.items ∧
    (w.claimedBy = some i → w'.claimedBy = some i ∧ w'.restored = w.restored)

def contract : Contract system where
  inv := ReleaseInv
  rely := rely

/-- Task `i` holds the claim and these lines are still to be restored. -/
structure Holds (i : ℕ) (items : List (Line × ℕ)) (w : World) : Prop where
  claimed : w.claimedBy = some i
  room : ∀ index, restoredOf w.restored index + dueOf items index ≤ orderedOf w.order.items index

/-- A change that has nothing to do with the release, or flips the flag where nothing can
depend on it. -/
structure Aside (w w' : World) : Prop where
  items : w'.order.items = w.order.items
  flag : w.order.reservation = .released → w'.order.reservation = .released
  claimedBy : w'.claimedBy = w.claimedBy
  restored : w'.restored = w.restored

section Steps

variable {i : ℕ} {w w' : World} {item : Line × ℕ} {items : List (Line × ℕ)}

theorem rely_refl (i : ℕ) (w : World) : rely i w w := ⟨rfl, fun h => ⟨h, rfl⟩⟩

theorem rely_trans {w'' : World} (h : rely i w w') (h' : rely i w' w'') : rely i w w'' := by
  refine ⟨h'.1.trans h.1, fun hclaim => ?_⟩
  obtain ⟨hclaim', hrestored⟩ := h.2 hclaim
  obtain ⟨hclaim'', hrestored'⟩ := h'.2 hclaim'
  exact ⟨hclaim'', hrestored'.trans hrestored⟩

theorem Aside.refl (w : World) : Aside w w := ⟨rfl, id, rfl, rfl⟩

theorem Aside.inv (h : Aside w w') (hw : ReleaseInv w) : ReleaseInv w' := by
  refine ⟨fun hnot => ?_, fun i hi => ?_, fun r hr => ?_, fun index => ?_⟩
  · rw [h.restored]
    exact hw.fresh (fun hyes => hnot (h.flag hyes))
  · rw [h.claimedBy] at hi
    exact h.flag (hw.flipped i hi)
  · rw [h.restored] at hr
    rw [h.claimedBy]
    exact hw.claimed r hr
  · rw [h.restored, h.items]
    exact hw.within index

theorem Aside.rely (h : Aside w w') (j : ℕ) : rely j w w' :=
  ⟨h.items, fun hj => ⟨h.claimedBy.trans hj, h.restored⟩⟩

theorem Aside.holds (h : Aside w w') (hw : Holds i items w) : Holds i items w' := by
  refine ⟨h.claimedBy.trans hw.claimed, fun index => ?_⟩
  rw [h.restored, h.items]
  exact hw.room index

theorem Holds.rely (h : Holds i items w) (hrely : rely i w w') : Holds i items w' := by
  obtain ⟨hitems, hkeep⟩ := hrely
  obtain ⟨hclaim, hrestored⟩ := hkeep h.claimed
  refine ⟨hclaim, fun index => ?_⟩
  rw [hrestored, hitems]
  exact h.room index

theorem aside_keepMasterStock (w : World) (id : ObjectId) (updated : Product) :
    Aside w (w.keepMasterStock id updated) := by
  unfold World.keepMasterStock
  split
  · exact Aside.refl w
  · exact ⟨rfl, fun h => h, rfl, rfl⟩

theorem aside_cancelOrder (w : World) (filter : Order → Bool) :
    Aside w (w.cancelOrder filter).2 := by
  unfold World.cancelOrder
  split
  · exact ⟨rfl, fun h => h, rfl, rfl⟩
  · exact Aside.refl w

theorem claim_cases (hw : ReleaseInv w) (i : ℕ) :
    ((w.claimReservationRelease i).1 = false ∧ (w.claimReservationRelease i).2 = w) ∨
      ((w.claimReservationRelease i).1 = true ∧
        ReleaseInv (w.claimReservationRelease i).2 ∧
        (∀ j, j ≠ i → rely j w (w.claimReservationRelease i).2) ∧
        (w.claimReservationRelease i).2.order.items = w.order.items ∧
        ∀ items, (∀ index, dueOf items index ≤ orderedOf w.order.items index) →
          Holds i items (w.claimReservationRelease i).2) := by
  unfold World.claimReservationRelease
  by_cases hflag : w.order.reservation = .released
  · rw [if_pos hflag]
    exact .inl ⟨rfl, rfl⟩
  · rw [if_neg hflag]
    have hnone := hw.fresh hflag
    refine .inr ⟨rfl, ⟨fun h => absurd rfl h, fun _ _ => rfl, ?_, hw.within⟩, ?_, rfl, ?_⟩
    · intro r hr
      rw [hnone] at hr
      exact absurd hr not_mem_nil
    · intro j hj
      refine ⟨rfl, fun hclaim => ?_⟩
      exact absurd (hw.flipped j hclaim) hflag
    · intro items hdue
      refine ⟨rfl, fun index => ?_⟩
      have hzero : restoredOf w.restored index = 0 := by
        rw [hnone]
        rfl
      dsimp only
      rw [hzero, zero_add]
      exact hdue index

/-- One increment of the holder takes a line off what is due. -/
theorem increment_kept (hw : ReleaseInv w) (h : Holds i (item :: items) w) :
    ReleaseInv (w.incrementProductStock i item.2 item.1).2 ∧
      (∀ j, j ≠ i → rely j w (w.incrementProductStock i item.2 item.1).2) ∧
      Holds i items (w.incrementProductStock i item.2 item.1).2 := by
  have hroom : ∀ index, restoredOf w.restored index + dueOf items index
      ≤ orderedOf w.order.items index := by
    intro index
    have := h.room index
    rw [dueOf_cons] at this
    omega
  unfold World.incrementProductStock
  cases w.products item.1.product with
  | none => exact ⟨hw, fun j _ => rely_refl j w, ⟨h.claimed, hroom⟩⟩
  | some p =>
    have hroom' : ∀ index, restoredOf (w.restored ++ [⟨i, item.2, item.1.quantity⟩]) index
        + dueOf items index ≤ orderedOf w.order.items index := by
      intro index
      have hline := h.room index
      rw [dueOf_cons] at hline
      rw [restoredOf_append]
      dsimp only
      omega
    refine ⟨⟨?_, hw.flipped, ?_, ?_⟩, ?_, ⟨h.claimed, hroom'⟩⟩
    · intro hnot
      exact absurd (hw.flipped i h.claimed) hnot
    · intro r hr
      rcases mem_append.mp hr with hr | hr
      · exact hw.claimed r hr
      · rw [mem_singleton.mp hr]
        exact h.claimed
    · intro index
      exact le_trans (le_add_right _ _) (hroom' index)
    · intro j hj
      refine ⟨rfl, fun hclaim => ?_⟩
      exact absurd (some.inj (hclaim.symm.trans h.claimed)) hj

theorem Holds.tail (h : Holds i (item :: items) w) : Holds i items w := by
  refine ⟨h.claimed, fun index => ?_⟩
  have := h.room index
  rw [dueOf_cons] at this
  omega

theorem restoreItem_kept (hw : ReleaseInv w) (h : Holds i (item :: items) w) :
    ReleaseInv (w.restoreItem i item) ∧ (∀ j, j ≠ i → rely j w (w.restoreItem i item)) ∧
      Holds i items (w.restoreItem i item) := by
  obtain ⟨hinv, hother, hholds⟩ := increment_kept hw h
  unfold World.restoreItem
  split
  · exact ⟨hw, fun j _ => rely_refl j w, h.tail⟩
  · split
    next w' heq =>
      rw [heq] at hinv hother hholds
      exact ⟨hinv, hother, hholds⟩
    next p w' heq =>
      rw [heq] at hinv hother hholds
      have haside := aside_keepMasterStock w' item.1.product p
      exact ⟨haside.inv hinv, fun j hj => rely_trans (hother j hj) (haside.rely j),
        haside.holds hholds⟩

theorem restoreItems_kept (hw : ReleaseInv w) (h : Holds i items w) :
    ReleaseInv (w.restoreItems i items) ∧ ∀ j, j ≠ i → rely j w (w.restoreItems i items) := by
  induction items generalizing w with
  | nil => exact ⟨hw, fun j _ => rely_refl j w⟩
  | cons item items ih =>
    obtain ⟨hinv, hother, hholds⟩ := restoreItem_kept hw h
    obtain ⟨hinv', hother'⟩ := ih hinv hholds
    exact ⟨hinv', fun j hj => rely_trans (hother j hj) (hother' j hj)⟩

theorem restoreReservedInventory_kept (hw : ReleaseInv w) (i : ℕ) :
    ReleaseInv (w.restoreReservedInventory i) ∧
      ∀ j, j ≠ i → rely j w (w.restoreReservedInventory i) := by
  unfold World.restoreReservedInventory
  rcases claim_cases hw i with ⟨hfalse, hsame⟩ | ⟨htrue, hinv, hother, hitems, hholds⟩
  · split
    next w' heq =>
      rw [heq] at hsame
      rw [show w' = w from hsame]
      exact ⟨hw, fun j _ => rely_refl j w⟩
    next w' heq =>
      rw [heq] at hfalse
      cases hfalse
  · split
    next w' heq =>
      rw [heq] at htrue
      cases htrue
    next w' heq =>
      rw [heq] at hinv hother hitems hholds
      obtain ⟨hinv', hother'⟩ := restoreItems_kept hinv
        (hholds w'.order.items.zipIdx (fun index => by rw [dueOf_zipIdx, hitems]))
      exact ⟨hinv', fun j hj => rely_trans (hother j hj) (hother' j hj)⟩

end Steps

/-! ## The transactions -/

section Transactions

variable {i : ℕ} {w w' : World}

/-- What an operation of task `i` may leave behind. -/
def Kept (i : ℕ) (w w' : World) : Prop := ReleaseInv w' ∧ ∀ j, j ≠ i → rely j w w'

theorem Aside.kept (h : Aside w w') (hw : ReleaseInv w) : Kept i w w' :=
  ⟨h.inv hw, fun j _ => h.rely j⟩

theorem Kept.trans {w'' : World} (h : Kept i w w') (h' : Kept i w' w'') : Kept i w w'' :=
  ⟨h'.1, fun j hj => rely_trans (h.2 j hj) (h'.2 j hj)⟩

theorem kept_executeDirectCancellation (hw : ReleaseInv w) (filter : Order → Bool) :
    Kept i w (w.executeDirectCancellation i filter).2 := by
  have haside := aside_cancelOrder w filter
  unfold World.executeDirectCancellation
  split
  next w' heq =>
    rw [heq] at haside
    exact haside.kept hw
  next w' heq =>
    rw [heq] at haside
    exact (haside.kept hw).trans (restoreReservedInventory_kept (haside.inv hw) i)

theorem kept_releaseReservedStockForOrder (hw : ReleaseInv w) :
    Kept i w (w.releaseReservedStockForOrder i) := by
  unfold World.releaseReservedStockForOrder
  split
  · exact (Aside.refl w).kept hw
  · split
    · exact (Aside.refl w).kept hw
    · exact restoreReservedInventory_kept hw i

theorem kept_paymentFailed (hw : ReleaseInv w) : Kept i w (w.paymentFailed i) := by
  unfold World.paymentFailed
  split
  · have hrelease : Kept i w (w.releaseReservedStockForOrder i) :=
      kept_releaseReservedStockForOrder hw
    exact hrelease.trans ((aside_cancelOrder _ _).kept hrelease.1)
  · exact (Aside.refl w).kept hw

theorem kept_inspectReturnedParcel (hw : ReleaseInv w) {allowed : List InventoryStatus}
    {inspection : Inspection}
    (hdue : ∀ index, dueOf (sellableItems w.order.items inspection) index
      ≤ orderedOf w.order.items index)
    (h : w.inspectReturnedParcel i allowed inspection = .ok w') : Kept i w w' := by
  unfold World.inspectReturnedParcel at h
  rw [ite_throw_eq_ok] at h
  have haside : Aside w { w with inventory := .inspected } := ⟨rfl, fun h => h, rfl, rfl⟩
  have hclaim := claim_cases (haside.inv hw) i
  split at h
  next => cases h.2
  next w₁ heq =>
    cases pure_eq_ok.mp h.2
    rw [heq] at hclaim
    rcases hclaim with ⟨hfalse, -⟩ | ⟨-, hinv, hother, hitems, hholds⟩
    · cases hfalse
    · have hitems' : w₁.order.items = w.order.items := hitems
      have hall : ∀ index, dueOf (sellableItems w₁.order.items inspection) index
          ≤ orderedOf w.order.items index := by
        rw [hitems']
        exact hdue
      obtain ⟨hinv', hother'⟩ := restoreItems_kept hinv (hholds _ hall)
      exact (haside.kept hw).trans ⟨hinv', fun j hj => rely_trans (hother j hj) (hother' j hj)⟩

end Transactions

/-! ## The programs -/

section Programs

variable {i : ℕ} {s : World} {E : ServiceError → World → Prop}

theorem performOp_cases {op : Op} {outcome : Outcome} {w w' : World}
    {r : Except ServiceError op.Reply} (h : system.perform i op outcome w = some (r, w')) :
    (r, w') = op.run i w ∨ ∃ e, r = .error e ∧ (w' = w ∨ w' = (op.run i w).2) := by
  have hrun : performOp i op outcome w = (r, w') := some.inj h
  cases outcome with
  | done => exact .inl hrun.symm
  | refused e =>
    cases hrun
    exact .inr ⟨e, rfl, .inl rfl⟩
  | lost e =>
    cases hrun
    exact .inr ⟨e, rfl, .inr rfl⟩

theorem Sound.op {op : Op} {Q : op.Reply → World → Prop}
    (hkept : ∀ w, rely i s w → ReleaseInv w → Kept i w (op.run i w).2)
    (hQ : ∀ w a, rely i s w → ReleaseInv w → (op.run i w).1 = .ok a → Q a (op.run i w).2) :
    contract.Sound i Q (fun _ _ => True) (Prog.perform op) s := by
  refine Sound.perform (fun w hrely hinv outcome _ r w' hstep => ?_)
  have hinv : ReleaseInv w := hinv
  rcases performOp_cases hstep with hrun | ⟨e, rfl, rfl | rfl⟩
  · obtain ⟨hinv', hother⟩ := hkept w hrely hinv
    have hstate : (op.run i w).2 = w' := (congrArg Prod.snd hrun).symm
    have hreply : (op.run i w).1 = r := (congrArg Prod.fst hrun).symm
    rw [hstate] at hinv' hother
    refine ⟨hinv', hother, fun a ha => ?_, fun _ _ => trivial⟩
    rw [← hstate]
    exact hQ w a hrely hinv (hreply.trans ha)
  · exact ⟨hinv, fun j _ => rely_refl j w', nofun, fun _ _ => trivial⟩
  · obtain ⟨hinv', hother⟩ := hkept w hrely hinv
    exact ⟨hinv', hother, nofun, fun _ _ => trivial⟩

theorem Sound.op_aside {op : Op} (hkept : ∀ w, ReleaseInv w → Kept i w (op.run i w).2) :
    contract.Keeps i (Prog.perform op) s :=
  Sound.op (fun w _ hw => hkept w hw) (fun _ _ _ _ _ => trivial)

variable {items : List (Line × ℕ)}

theorem Holds.sound_restoreItem {item : Line × ℕ} (h : Holds i (item :: items) s) :
    contract.Sound i (fun _ => Holds i items) (fun _ _ => True) (restoreItem item) s := by
  unfold restoreItem
  split
  · exact Sound.ret h.tail
  · refine Sound.bind (R := fun _ => Holds i items) (Sound.op ?_ ?_) ?_
    · intro w hrely hw
      obtain ⟨hinv, hother, -⟩ := increment_kept hw (h.rely hrely)
      exact ⟨hinv, hother⟩
    · intro w a hrely hw _
      exact (increment_kept hw (h.rely hrely)).2.2
    · intro updated t ht
      cases updated with
      | none => exact Sound.ret ht
      | some p =>
        refine Sound.op ?_ ?_
        · intro w _ hw
          exact (aside_keepMasterStock w item.1.product p).kept hw
        · intro w _ hrely _ _
          exact (aside_keepMasterStock w item.1.product p).holds (ht.rely hrely)

theorem Holds.sound_restoreItems (h : Holds i items s) :
    contract.Keeps i (restoreItems items) s := by
  induction items generalizing s with
  | nil => exact Sound.ret trivial
  | cons item items ih => exact Sound.bind h.sound_restoreItem (fun _ _ ht => ih ht)

theorem sound_restoreReservedInventory {order : Order} (hitems : order.items = s.order.items) :
    contract.Keeps i (restoreReservedInventory order) s := by
  unfold restoreReservedInventory
  refine Sound.bind
    (R := fun claimed w => claimed = true → Holds i order.items.zipIdx w) (Sound.op ?_ ?_) ?_
  · intro w _ hw
    rcases claim_cases hw i with ⟨-, hsame⟩ | ⟨-, hinv, hother, -⟩
    · change Kept i w (w.claimReservationRelease i).2
      rw [hsame]
      exact (Aside.refl w).kept hw
    · exact ⟨hinv, hother⟩
  · intro w claimed hrely hw hreply hclaimed
    have hreply' : (w.claimReservationRelease i).1 = claimed := Except.ok.inj hreply
    rcases claim_cases hw i with ⟨hfalse, -⟩ | ⟨-, -, -, -, hholds⟩
    · rw [hreply', hclaimed] at hfalse
      cases hfalse
    · refine hholds _ (fun index => ?_)
      rw [dueOf_zipIdx, hitems, hrely.1]
  · intro claimed t ht
    cases claimed with
    | false => exact Sound.ret trivial
    | true =>
      rw [if_pos rfl]
      exact Sound.bind (ht rfl).sound_restoreItems
        (fun _ _ _ => Sound.ret trivial)

theorem aside_saveOrder (w : World) (released : Bool) :
    Aside w ((Op.saveOrder released).run i w).2 := by
  cases released with
  | false => exact Aside.refl w
  | true => exact ⟨rfl, fun _ => rfl, rfl, rfl⟩

theorem sound_releaseReservedStockForOrder {order : Order}
    (hitems : order.items = s.order.items) :
    contract.Keeps i (releaseReservedStockForOrder order) s := by
  unfold releaseReservedStockForOrder
  split
  · exact Sound.ret trivial
  · split
    · exact Sound.ret trivial
    · exact sound_restoreReservedInventory hitems

theorem sound_compensateOrderCancellation (skip : Bool) :
    contract.Keeps i (compensateOrderCancellation skip) s := by
  unfold compensateOrderCancellation
  refine Sound.bind (R := fun order w => order.items = w.order.items) (Sound.op ?_ ?_) ?_
  · intro w _ hw
    exact (Aside.refl w).kept hw
  · intro w order _ _ hreply
    rw [← Except.ok.inj hreply]
    rfl
  · intro order t ht
    cases skip with
    | true => exact Sound.op_aside (fun w hw => (Aside.refl w).kept hw)
    | false =>
      change contract.Sound i _ _ (releaseReservedStockForOrder order >>= fun released =>
        saveOrder released >>= fun _ => restOfCompensation) t
      refine Sound.bind (sound_releaseReservedStockForOrder ht) (fun released _ _ => ?_)
      refine Sound.bind
        (Sound.op_aside (fun w hw => (aside_saveOrder w released).kept hw)) (fun _ _ _ => ?_)
      exact Sound.op_aside (fun w hw => (Aside.refl w).kept hw)

theorem sound_cancelAndCompensate (filter : Order → Bool) :
    contract.Keeps i (cancelAndCompensate filter) s := by
  unfold cancelAndCompensate
  refine Sound.bind (Sound.op_aside (fun w hw => (aside_cancelOrder w filter).kept hw))
    (fun updated _ _ => ?_)
  split
  · exact sound_compensateOrderCancellation false
  · exact Sound.ret trivial

theorem sound_inspectReturnedParcel (role : InspectorRole) (rows : List InspectionRow) :
    contract.Keeps i (inspectReturnedParcel role rows) s := by
  unfold inspectReturnedParcel
  refine Sound.bind (Sound.op_aside (fun w hw => (Aside.refl w).kept hw))
    (fun status _ _ => ?_)
  split
  · exact Sound.ret trivial
  · split
    · exact Sound.throw trivial
    · refine Sound.bind (R := fun order w => order.items = w.order.items)
        (Sound.op ?_ ?_) ?_
      · intro w _ hw
        exact (Aside.refl w).kept hw
      · intro w order _ _ hreply
        rw [← Except.ok.inj hreply]
        rfl
      · intro order t ht
        split
        next => exact Sound.throw trivial
        next inspection hok =>
          refine Sound.op ?_ (fun _ _ _ _ _ => trivial)
          intro w hrely hw
          have hitems : order.items = w.order.items := ht.trans hrely.1.symm
          have hdue := dueOf_sellableItems hok
          rw [hitems] at hdue
          change Kept i w (World.commit w (w.inspectReturnedParcel i role.allowed inspection)).2
          cases hrun : w.inspectReturnedParcel i role.allowed inspection with
          | ok w' => exact kept_inspectReturnedParcel hw hdue hrun
          | error e => exact (Aside.refl w).kept hw

theorem sound_program (path : Path) :
    contract.Keeps i path.program s := by
  cases path with
  | compensate skip => exact sound_compensateOrderCancellation skip
  | cancelAndCompensate filter => exact sound_cancelAndCompensate filter
  | customerCancels filter =>
    exact Sound.discard
      (Sound.op_aside (fun w hw => kept_executeDirectCancellation hw filter))
  | paymentFailed => exact Sound.op_aside (fun w hw => kept_paymentFailed hw)
  | inspect role rows => exact sound_inspectReturnedParcel role rows

end Programs

/-! ## Every run -/

theorem lawful : contract.Lawful where
  refl := rely_refl
  trans := fun i _ _ _ => rely_trans
  idle := fun _ _ _ _ _ => trivial
  outside := by
    rintro e w w' hw - ⟨⟩
    have haside : Aside w { w with
        order := { w.order with workflowStatus := e.workflowStatus, paid := e.paid }
        inventory := e.inventory
        products := e.products } := ⟨rfl, fun h => h, rfl, rfl⟩
    exact ⟨haside.inv hw, haside.rely⟩
  entry := fun path _ _ _ _ _ => sound_program path

theorem ReleaseInv.restoredOnce {w : World} (h : ReleaseInv w) : RestoredOnce w :=
  ⟨fun r hr r' hr' => some.inj ((h.claimed r hr).symm.trans (h.claimed r' hr')), h.within⟩

/-- Whatever the order, and however the paths that may give its stock back interleave,
fail and are retried: at most one of them restores stock, and no more than was ordered. -/
theorem stock_goes_back_once (order : Order) (inventory : InventoryStatus) (products : Products)
    (actions : List (Action Outcome Elsewhere Path)) :
    Runs.Along system.step (fun pool => RestoredOnce pool.shared)
      ⟨{ order, inventory, products }, []⟩ actions := by
  have hstart : ReleaseInv { order, inventory, products } := by
    refine ⟨fun _ => rfl, nofun, ?_, fun index => zero_le _⟩
    intro r hr
    exact absurd hr not_mem_nil
  have hpool := contract.holds_start hstart (fun _ => trivial)
  have hrun := lawful.along hpool
    (Contract.guarded_meets (Runs.guarded_of_forall (fun _ a => by cases a <;> trivial) _ _)
      (Runs.guarded_of_forall (fun _ a => by cases a <;> first | trivial | exact fun _ _ _ => trivial) _ actions))
  exact hrun.mono (fun pool h => h.inv.restoredOnce)

end DiscountBazar.Inventory
