/-!
Numbered rows of objects. A table never ends: from some number on every object in it is the
default one, so that looking up and replacing need no proof that an object is there.
-/

namespace AdmissionControl

/-- The number of an object in its table. -/
structure Ref (α : Type u) where
  index : Nat

instance {α : Type u} : Inhabited (Ref α) := ⟨⟨0⟩⟩

instance {α : Type u} : DecidableEq (Ref α) := fun one other =>
  decidable_of_iff (one.index = other.index) ⟨fun same => by cases one; simp_all, fun same => by
    rw [same]⟩

structure Table (α : Type u) where
  entries : Array α := #[]

namespace Table

variable {α : Type u} [Inhabited α]

instance : Inhabited (Table α) := ⟨{}⟩

def size (table : Table α) : Nat := table.entries.size

def get (table : Table α) (ref : Ref α) : α := table.entries[ref.index]?.getD default

/-- Puts an object at a number, and default ones at the numbers left out before it. -/
def set (table : Table α) (ref : Ref α) (object : α) : Table α :=
  if ref.index < table.entries.size then ⟨table.entries.setIfInBounds ref.index object⟩
  else
    ⟨(table.entries ++ Array.replicate (ref.index - table.entries.size) default).push object⟩

def modify (table : Table α) (ref : Ref α) (change : α → α) : Table α :=
  table.set ref (change (table.get ref))

def add (table : Table α) (object : α) : Ref α × Table α :=
  (⟨table.entries.size⟩, ⟨table.entries.push object⟩)

theorem get_set (table : Table α) (ref other : Ref α) (object : α) :
    (table.set ref object).get other = if ref = other then object else table.get other := by
  cases ref with
  | mk place =>
  cases other with
  | mk wanted =>
  simp only [set, get, Ref.mk.injEq]
  split
  · next inside =>
    by_cases same : place = wanted
    · subst same
      simp [inside]
    · simp [Array.getElem?_setIfInBounds_ne same, same]
  · next outside =>
    have padded : (table.entries ++
        Array.replicate (place - table.entries.size) default).size = place := by
      simp; omega
    rw [Array.getElem?_push, padded]
    by_cases same : wanted = place
    · simp [same]
    · have apart : ¬ place = wanted := fun equal => same equal.symm
      simp only [same, apart, if_false]
      by_cases inside : wanted < table.entries.size
      · rw [Array.getElem?_append_left inside]
      · rw [Array.getElem?_append_right (by omega), Array.getElem?_replicate,
          Array.getElem?_eq_none (Nat.le_of_not_lt inside)]
        split <;> rfl

@[simp] theorem get_set_self (table : Table α) (ref : Ref α) (object : α) :
    (table.set ref object).get ref = object := by
  simp [get_set]

theorem get_modify (table : Table α) (ref other : Ref α) (change : α → α) :
    (table.modify ref change).get other =
      if ref = other then change (table.get ref) else table.get other := by
  simp [modify, get_set]

theorem get_add_self (table : Table α) (object : α) :
    (table.add object).2.get (table.add object).1 = object := by
  simp [add, get]

theorem get_add_of_lt (table : Table α) (object : α) {ref : Ref α}
    (earlier : ref.index < table.size) :
    (table.add object).2.get ref = table.get ref := by
  simp only [add, get, size] at *
  rw [Array.getElem?_push_lt earlier, Array.getElem?_eq_getElem earlier]

theorem get_of_size_le {table : Table α} {ref : Ref α} (beyond : table.size ≤ ref.index) :
    table.get ref = default := by
  rw [get, Array.getElem?_eq_none beyond, Option.getD_none]

private theorem size_set (table : Table α) (ref : Ref α) (object : α) :
    (table.set ref object).size = max table.size (ref.index + 1) := by
  simp only [set, size]
  split
  · rw [Array.size_setIfInBounds]
    omega
  · simp only [Array.size_push, Array.size_append, Array.size_replicate]
    omega

theorem ext {one other : Table α} (size : one.size = other.size)
    (get : ∀ ref, one.get ref = other.get ref) : one = other := by
  obtain ⟨ones⟩ := one
  obtain ⟨others⟩ := other
  congr 1
  refine Array.ext size fun place here there => ?_
  have same := get ⟨place⟩
  simpa [Table.get, Array.getElem?_eq_getElem here, Array.getElem?_eq_getElem there] using same

theorem modify_comm (table : Table α) (one other : Ref α) (change : α → α) :
    (table.modify one change).modify other change =
      (table.modify other change).modify one change := by
  apply ext
  · simp only [modify, size_set]
    omega
  · intro ref
    simp only [get_modify]
    by_cases same : one = other
    · rw [same]
    · simp only [same, Ne.symm same, if_false]
      by_cases first : one = ref
      · have apart : other ≠ ref := fun second => same (first.trans second.symm)
        simp only [first, apart, if_true, if_false]
      · simp only [first, if_false]

omit [Inhabited α] in
theorem size_add (table : Table α) (object : α) : (table.add object).2.size = table.size + 1 := by
  simp [add, size]

theorem set_add (table : Table α) (first object : α) :
    (table.add first).2.set ⟨table.size⟩ object = (table.add object).2 := by
  simp [set, add, size, Array.setIfInBounds, Array.set_push]

theorem size_set_of_lt {table : Table α} {ref : Ref α} (inside : ref.index < table.size)
    (object : α) : (table.set ref object).size = table.size := by
  rw [size_set]
  omega

theorem countP_set {table : Table α} {ref : Ref α} (inside : ref.index < table.size)
    (test : α → Bool) (object : α) :
    (table.set ref object).entries.countP test + (test (table.get ref)).toNat =
      table.entries.countP test + (test object).toNat := by
  have inside : ref.index < table.entries.size := inside
  have replaced : (table.set ref object).entries = table.entries.set ref.index object inside := by
    rw [set, if_pos inside, Array.setIfInBounds, dif_pos inside]
  have there : table.get ref = table.entries[ref.index] := by
    rw [get, Array.getElem?_eq_getElem inside, Option.getD_some]
  rw [replaced, Array.countP_set, there]
  cases old : test table.entries[ref.index] with
  | false => cases test object <;> rfl
  | true =>
    have some : 0 < table.entries.countP test :=
      Array.countP_pos_iff.mpr ⟨_, Array.getElem_mem inside, old⟩
    rw [if_pos rfl, Nat.add_right_comm, Bool.toNat_true, Nat.sub_add_cancel some]
    cases test object <;> rfl

end Table

end AdmissionControl
