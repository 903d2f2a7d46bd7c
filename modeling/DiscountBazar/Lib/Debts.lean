/-
What tasks still owe a book.

Two books that are to agree are often written one after the other, so that between the two writes the
task owes the second book the amount. A ledger of debts is a table of what each task owes; paying is
owing the opposite. `owed` is what all of them owe together: it moves by what a task owes or pays, and
it is zero once no task owes anything.
-/
import DiscountBazar.Lib.Table

/-- What a task owes. -/
structure Debt (τ M : Type*) where
  task : τ
  amount : M

/-- What the tasks owe; a task that is not listed owes nothing. -/
abbrev Debts (τ M : Type*) := Table (Debt.task : Debt τ M → τ)

namespace Debts

open Table

variable {τ M : Type*} [DecidableEq τ] [AddCommGroup M]

def owes (d : Debts τ M) (task : τ) : M :=
  match d.get? task with
  | some debt => debt.amount
  | none => 0

omit [DecidableEq τ] in
/-- What all tasks owe together. -/
def owed (d : Debts τ M) : M := d.sum Debt.amount

/-- A task owes an amount more. -/
def owe (d : Debts τ M) (task : τ) (amount : M) : Debts τ M :=
  match d.get? task with
  | some debt => d.set ⟨task, debt.amount + amount⟩
  | none => d.insert ⟨task, amount⟩

variable (d : Debts τ M) (task : τ) (amount : M)

omit [AddCommGroup M] in
theorem notMem_of_get? {d : Debts τ M} {task : τ} (h : d.get? task = none) :
    task ∉ d.rows.map Debt.task := by
  intro hmem
  obtain ⟨debt, hdebt, rfl⟩ := List.mem_map.mp hmem
  rw [get?_of_mem hdebt] at h
  cases h

theorem owed_owe : (d.owe task amount).owed = d.owed + amount := by
  unfold owe owed
  cases hget : d.get? task with
  | some debt =>
    have hsum := sum_set (t := d) (r := ⟨task, debt.amount + amount⟩) hget Debt.amount
    dsimp only at hsum ⊢
    have hamount : d.sum Debt.amount + (debt.amount + amount)
        = d.sum Debt.amount + amount + debt.amount := by rw [add_comm debt.amount, ← add_assoc]
    exact add_right_cancel (hsum.trans hamount)
  | none => exact sum_insert (notMem_of_get? hget) Debt.amount

theorem owes_owe_self : (d.owe task amount).owes task = d.owes task + amount := by
  unfold owe owes
  cases hget : d.get? task with
  | some debt =>
    have hset : (d.set ⟨task, debt.amount + amount⟩).get? task
        = some ⟨task, debt.amount + amount⟩ := get?_set_self (r := (⟨task, debt.amount + amount⟩ : Debt τ M)) hget
    rw [hset]
  | none =>
    have hinsert : (d.insert ⟨task, amount⟩).get? task = some ⟨task, amount⟩ :=
      get?_insert_self (r := (⟨task, amount⟩ : Debt τ M)) (notMem_of_get? hget)
    rw [hinsert, zero_add]

variable {task}

theorem owes_owe_ne {other : τ} (h : other ≠ task) : (d.owe task amount).owes other = d.owes other := by
  unfold owe owes
  cases hget : d.get? task with
  | some debt =>
    have hset : (d.set ⟨task, debt.amount + amount⟩).get? other = d.get? other :=
      get?_set_ne (r := (⟨task, debt.amount + amount⟩ : Debt τ M)) h.symm
    rw [hset]
  | none =>
    have hinsert : (d.insert ⟨task, amount⟩).get? other = d.get? other :=
      get?_insert_ne (r := (⟨task, amount⟩ : Debt τ M)) (notMem_of_get? hget) h.symm
    rw [hinsert]

variable {d}

/-- Where no task owes anything, nothing is owed. -/
theorem owed_eq_zero (h : ∀ task, d.owes task = 0) : d.owed = 0 := by
  refine (sum_congr (fun debt hdebt => ?_)).trans (sum_zero d)
  have htask := h debt.task
  unfold owes at htask
  rw [get?_of_mem hdebt] at htask
  exact htask

@[simp] theorem owes_empty : owes (empty : Debts τ M) task = 0 := rfl

omit [DecidableEq τ] in
@[simp] theorem owed_empty : owed (empty : Debts τ M) = 0 := rfl

end Debts
