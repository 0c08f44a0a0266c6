/-! Tables of records numbered from zero.  A number beyond the end stands for the blank record, so
look-up and update need no bounds, and an update changes exactly one record. -/
namespace RelayBench

structure Table (α : Type) where
  rows : List α := []

namespace Table

variable {α : Type} [Inhabited α]

def get (table : Table α) (index : Nat) : α := table.rows.getD index default

/-- Rows in which one row has changed; missing rows before it are blank. -/
def updateRows : List α → Nat → (α → α) → List α
  | [], 0, change => [change default]
  | [], index + 1, change => default :: updateRows [] index change
  | row :: rest, 0, change => change row :: rest
  | row :: rest, index + 1, change => row :: updateRows rest index change

def update (table : Table α) (index : Nat) (change : α → α) : Table α :=
  { rows := updateRows table.rows index change }

theorem getD_updateRows (rows : List α) (index : Nat) (change : α → α) (other : Nat) :
    (updateRows rows index change).getD other default =
      if other = index then change (rows.getD index default) else rows.getD other default := by
  fun_induction updateRows rows index change generalizing other with
  | case1 => cases other <;> simp
  | case2 _ _ ih => cases other <;> simp_all
  | case3 => cases other <;> simp
  | case4 _ _ _ _ ih => cases other <;> simp_all

theorem updateRows_congr (rows : List α) (index : Nat) (change other : α → α)
    (same : change (rows.getD index default) = other (rows.getD index default)) :
    updateRows rows index change = updateRows rows index other := by
  fun_induction updateRows rows index change with
  | case1 => simp_all [updateRows]
  | case2 _ _ ih => simp_all [updateRows]
  | case3 => simp_all [updateRows]
  | case4 _ _ _ _ ih => simp_all [updateRows]

/-- An update depends only on what it makes of the record of its number. -/
theorem update_congr (table : Table α) (index : Nat) (change other : α → α)
    (same : change (table.get index) = other (table.get index)) :
    table.update index change = table.update index other :=
  congrArg Table.mk (updateRows_congr table.rows index change other same)

theorem updateRows_updateRows (rows : List α) (index : Nat) (first second : α → α) :
    updateRows (updateRows rows index first) index second =
      updateRows rows index fun row => second (first row) := by
  fun_induction updateRows rows index first with
  | case1 => simp_all [updateRows]
  | case2 _ _ ih => simp_all [updateRows]
  | case3 => simp_all [updateRows]
  | case4 _ _ _ _ ih => simp_all [updateRows]

/-- Two updates of one record are one update. -/
theorem update_update (table : Table α) (index : Nat) (first second : α → α) :
    (table.update index first).update index second =
      table.update index fun row => second (first row) :=
  congrArg Table.mk (updateRows_updateRows table.rows index first second)

/-- An update changes the record of its number and no other. -/
theorem get_update (table : Table α) (index : Nat) (change : α → α) (other : Nat) :
    (table.update index change).get other =
      if other = index then change (table.get index) else table.get other :=
  getD_updateRows table.rows index change other

@[simp] theorem get_update_self (table : Table α) (index : Nat) (change : α → α) :
    (table.update index change).get index = change (table.get index) := by
  simp [get_update]

theorem get_update_of_ne (table : Table α) {index other : Nat} (change : α → α)
    (h : other ≠ index) : (table.update index change).get other = table.get other := by
  simp [get_update, h]

end Table
end RelayBench
