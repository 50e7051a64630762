/-!
# Stores of shared objects

Some objects are shared: a handler and a script may hold the same property, and a
change by one is seen by the other. A store keeps such objects under references,
which are handed out once and never reused. `Store.get_set` and `Store.get_add` say
all there is to know about reading.
-/

namespace Componentry

/-- The kinds of shared objects. -/
inductive Kind
  | component
  | service
  | property
  | provider
  | configurator
  | caller

/-- A reference to an object of a kind. -/
structure Ref (kind : Kind) where
  index : Nat
  deriving DecidableEq, Repr

/-- Objects of a kind under references. A reference that was not handed out reads as
the default object. -/
structure Store (kind : Kind) (α : Type) where
  next : Nat
  rows : List (Nat × α)

namespace Store

variable {kind : Kind} {α : Type} [Inhabited α]

/-- The store without objects. -/
def empty : Store kind α := ⟨0, []⟩

instance : Inhabited (Store kind α) := ⟨empty⟩

/-- The object of a reference. -/
def get (store : Store kind α) (r : Ref kind) : α := (store.rows.lookup r.index).getD default

/-- Replace the object under an index, or add it at the end. -/
def place (index : Nat) (a : α) : List (Nat × α) → List (Nat × α)
  | [] => [(index, a)]
  | row :: rest => if index = row.1 then (index, a) :: rest else row :: place index a rest

/-- Replace the object of a reference. -/
def set (store : Store kind α) (r : Ref kind) (a : α) : Store kind α :=
  { store with rows := place r.index a store.rows }

/-- Change the object of a reference. -/
def modify (store : Store kind α) (r : Ref kind) (f : α → α) : Store kind α :=
  store.set r (f (store.get r))

/-- Keep a new object, and the reference to it. -/
def add (store : Store kind α) (a : α) : Ref kind × Store kind α :=
  (⟨store.next⟩, ⟨store.next + 1, place store.next a store.rows⟩)

omit [Inhabited α] in
theorem lookup_place (index other : Nat) (a : α) (rows : List (Nat × α)) :
    (place index a rows).lookup other = if other = index then some a else rows.lookup other := by
  induction rows with
  | nil =>
      by_cases h : other = index
      · simp [place, h]
      · simp [place, h, List.lookup_cons, beq_eq_false_iff_ne.mpr h]
  | cons row rest ih =>
      obtain ⟨k, v⟩ := row
      unfold place
      split
      next heq =>
        have heq : index = k := heq
        by_cases h : other = index
        · simp [h]
        · simp [← heq, h, List.lookup_cons, beq_eq_false_iff_ne.mpr h]
      next hne =>
        have hne : ¬ index = k := hne
        by_cases h : other = k
        · simp [h, show ¬ k = index from fun hk => hne hk.symm]
        · simp [List.lookup_cons, beq_eq_false_iff_ne.mpr h, ih]

/-- A replacement changes the object of its reference and no other. -/
@[simp] theorem get_set (store : Store kind α) (r s : Ref kind) (a : α) :
    (store.set r a).get s = if s = r then a else store.get s := by
  have hindex : s = r ↔ s.index = r.index :=
    ⟨fun h => h ▸ rfl, fun h => by cases s; cases r; cases h; rfl⟩
  simp only [get, set, lookup_place, hindex]
  split <;> rfl

/-- The reference to a new object reads as that object, and every other one as
before. -/
@[simp] theorem get_add (store : Store kind α) (s : Ref kind) (a : α) :
    (store.add a).2.get s = if s = (store.add a).1 then a else store.get s := by
  have hindex : s = ⟨store.next⟩ ↔ s.index = store.next :=
    ⟨fun h => h ▸ rfl, fun h => by cases s; cases h; rfl⟩
  simp only [get, add, lookup_place, hindex]
  split <;> rfl

end Store

end Componentry
