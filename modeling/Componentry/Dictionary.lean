/-!
# Dictionaries

A dictionary maps strings to entries and lists its keys in increasing order of
code points. The order is part of the type, so a dictionary is determined by what
it holds: `Dictionary.ext_get?` says that two dictionaries with the same entry
under every key are equal.
-/

namespace Componentry

namespace Entries

variable {α : Type}

/-- The keys strictly increase along the list. -/
abbrev Ordered (entries : List (String × α)) : Prop :=
  entries.Pairwise fun a b => a.1 < b.1

/-- Put an entry at its place, instead of one with the same key. -/
def insert (key : String) (value : α) : List (String × α) → List (String × α)
  | [] => [(key, value)]
  | (k, v) :: rest =>
      if key < k then (key, value) :: (k, v) :: rest
      else if key = k then (key, value) :: rest
      else (k, v) :: insert key value rest

theorem key_mem_insert {key : String} {value : α} {entries : List (String × α)}
    {entry : String × α} (hentry : entry ∈ insert key value entries) :
    entry.1 = key ∨ entry ∈ entries := by
  induction entries with
  | nil => simp_all [insert]
  | cons head rest ih =>
      unfold insert at hentry
      split at hentry
      · simp only [List.mem_cons] at hentry ⊢
        rcases hentry with rfl | hrest
        · exact .inl rfl
        · exact .inr hrest
      · split at hentry
        · rcases List.mem_cons.mp hentry with rfl | hrest
          · exact .inl rfl
          · exact .inr (List.mem_cons_of_mem _ hrest)
        · rcases List.mem_cons.mp hentry with rfl | hrest
          · exact .inr List.mem_cons_self
          · exact (ih hrest).imp_right (List.mem_cons_of_mem _)

theorem ordered_insert {key : String} {value : α} {entries : List (String × α)}
    (hordered : Ordered entries) : Ordered (insert key value entries) := by
  induction entries with
  | nil => exact List.pairwise_singleton _ _
  | cons head rest ih =>
      obtain ⟨hhead, hrest⟩ := List.pairwise_cons.mp hordered
      unfold insert
      split
      next hlt =>
        refine List.pairwise_cons.mpr ⟨fun entry hentry => ?_, hordered⟩
        rcases List.mem_cons.mp hentry with rfl | hentry
        · exact hlt
        · exact String.lt_trans hlt (hhead entry hentry)
      next hlt =>
        split
        next heq => exact List.pairwise_cons.mpr ⟨heq ▸ hhead, hrest⟩
        next hne =>
          refine List.pairwise_cons.mpr ⟨fun entry hentry => ?_, ih hrest⟩
          rcases key_mem_insert hentry with hkey | hentry
          · rw [hkey]
            exact Std.lt_of_le_of_ne hlt (Ne.symm hne)
          · exact hhead entry hentry

theorem lookup_insert (key other : String) (value : α) (entries : List (String × α)) :
    (insert key value entries).lookup other =
      if other = key then some value else entries.lookup other := by
  by_cases hother : other = key
  · subst hother
    simp only [if_pos]
    induction entries with
    | nil => simp [insert]
    | cons head rest ih =>
        unfold insert
        split
        next => simp
        next =>
          split
          next => simp
          next hne =>
            rw [List.lookup_cons, beq_eq_false_iff_ne.mpr hne]
            exact ih
  · simp only [if_neg hother]
    have hmiss : (other == key) = false := beq_eq_false_iff_ne.mpr hother
    induction entries with
    | nil => simp [insert, List.lookup_cons, hmiss]
    | cons head rest ih =>
        unfold insert
        split
        next => rw [List.lookup_cons, hmiss]
        next =>
          split
          next heq =>
            obtain ⟨k, v⟩ := head
            cases heq
            simp [List.lookup_cons, hmiss]
          next =>
            obtain ⟨k, v⟩ := head
            simp [List.lookup_cons, ih]

/-- Among entries with increasing keys, membership is looking up the key. -/
theorem lookup_eq_some_iff {entries : List (String × α)} (hordered : Ordered entries)
    {key : String} {value : α} :
    entries.lookup key = some value ↔ (key, value) ∈ entries := by
  induction entries with
  | nil => simp
  | cons head rest ih =>
      obtain ⟨hhead, hrest⟩ := List.pairwise_cons.mp hordered
      rw [List.lookup_cons, List.mem_cons]
      by_cases hkey : key = head.1
      · have hmiss : (key, value) ∉ rest := fun hmem =>
          String.lt_irrefl _ (hkey ▸ hhead _ hmem)
        simp [hkey, Prod.ext_iff, eq_comm]
        intro hmem
        exact absurd (hkey ▸ hmem) hmiss
      · rw [show (key == head.1) = false by simpa using hkey]
        simp [ih hrest, Prod.ext_iff, hkey]

end Entries

/-- Entries under strings, by increasing key. -/
structure Dictionary (α : Type) where
  entries : List (String × α)
  ordered : Entries.Ordered entries

namespace Dictionary

variable {α β : Type}

/-- The dictionary without entries. -/
def empty : Dictionary α := ⟨[], List.Pairwise.nil⟩

instance : EmptyCollection (Dictionary α) := ⟨empty⟩

instance : Inhabited (Dictionary α) := ⟨empty⟩

instance [DecidableEq α] : DecidableEq (Dictionary α) := fun d e =>
  decidable_of_iff (d.entries = e.entries)
    ⟨fun h => by cases d; cases e; cases h; rfl, fun h => h ▸ rfl⟩

/-- The entry under a key. -/
def get? (d : Dictionary α) (key : String) : Option α := d.entries.lookup key

/-- Whether there is an entry under a key. -/
def contains (d : Dictionary α) (key : String) : Bool := (d.get? key).isSome

/-- Put an entry under a key, instead of the one that is there. -/
def insert (d : Dictionary α) (key : String) (value : α) : Dictionary α :=
  ⟨Entries.insert key value d.entries, Entries.ordered_insert d.ordered⟩

/-- Keep the entries whose key satisfies a test. -/
def keep (d : Dictionary α) (test : String → Bool) : Dictionary α :=
  ⟨d.entries.filter fun entry => test entry.1, d.ordered.filter _⟩

/-- Insert entries one after the other; of entries with one key the last counts. -/
def insertAll (d : Dictionary α) (entries : List (String × α)) : Dictionary α :=
  entries.foldl (fun d entry => d.insert entry.1 entry.2) d

/-- The dictionary of a list; of entries with one key the last counts. -/
def ofList (entries : List (String × α)) : Dictionary α := empty.insertAll entries

/-- The entries of `d` overridden by those of `newer`. -/
def override (d newer : Dictionary α) : Dictionary α := d.insertAll newer.entries

/-- The entries of `d` whose keys are no keys of `other`. -/
def without (d : Dictionary α) (other : Dictionary β) : Dictionary α :=
  d.keep fun key => !other.contains key

/-- The keys in increasing order. -/
def keys (d : Dictionary α) : List String := d.entries.map Prod.fst

/-- The number of entries. -/
def size (d : Dictionary α) : Nat := d.entries.length

/-- Whether there is no entry. -/
def isEmpty (d : Dictionary α) : Bool := d.entries.isEmpty

theorem mem_entries_iff {d : Dictionary α} {key : String} {value : α} :
    (key, value) ∈ d.entries ↔ d.get? key = some value :=
  (Entries.lookup_eq_some_iff d.ordered).symm

@[simp] theorem get?_empty (key : String) : (empty : Dictionary α).get? key = none := rfl

/-- An insertion changes the entry under its key and no other. -/
theorem get?_insert (d : Dictionary α) (key other : String) (value : α) :
    (d.insert key value).get? other = if other = key then some value else d.get? other :=
  Entries.lookup_insert key other value d.entries

/-- Keeping some keys hides the entries under the others. -/
theorem get?_keep (d : Dictionary α) (test : String → Bool) (key : String) :
    (d.keep test).get? key = if test key then d.get? key else none := by
  rw [Option.ext_iff]
  intro value
  rw [← mem_entries_iff]
  simp only [keep, List.mem_filter, mem_entries_iff]
  by_cases h : test key = true <;> simp [h]

/-- A dictionary is determined by its entries under all keys. -/
theorem ext_get? {d e : Dictionary α} (hget : ∀ key, d.get? key = e.get? key) : d = e := by
  obtain ⟨entries, hd⟩ := d
  obtain ⟨entries', he⟩ := e
  suffices entries = entries' by cases this; rfl
  have hmem : ∀ entry, entry ∈ entries ↔ entry ∈ entries' := by
    intro entry
    rw [show entry = (entry.1, entry.2) from rfl, ← Entries.lookup_eq_some_iff hd,
      ← Entries.lookup_eq_some_iff he]
    exact iff_of_eq (congrArg (· = some entry.2) (hget entry.1))
  clear hget
  induction entries generalizing entries' with
  | nil =>
      cases entries' with
      | nil => rfl
      | cons head rest => exact absurd ((hmem head).mpr List.mem_cons_self) (by simp)
  | cons head rest ih =>
      cases entries' with
      | nil => exact absurd ((hmem head).mp List.mem_cons_self) (by simp)
      | cons head' rest' =>
          obtain ⟨hhead, hrest⟩ := List.pairwise_cons.mp hd
          obtain ⟨hhead', hrest'⟩ := List.pairwise_cons.mp he
          have heq : head = head' := by
            rcases List.mem_cons.mp ((hmem head).mp List.mem_cons_self) with h | h
            · exact h
            · rcases List.mem_cons.mp ((hmem head').mpr List.mem_cons_self) with h' | h'
              · exact h'.symm
              · exact absurd (String.lt_trans (hhead' _ h) (hhead _ h')) (String.lt_irrefl _)
          subst heq
          refine congrArg (head :: ·) (ih hrest _ hrest' fun entry => ?_)
          constructor
          · intro hentry
            rcases List.mem_cons.mp ((hmem entry).mp (List.mem_cons_of_mem _ hentry)) with rfl | h
            · exact absurd (hhead _ hentry) (String.lt_irrefl _)
            · exact h
          · intro hentry
            rcases List.mem_cons.mp ((hmem entry).mpr (List.mem_cons_of_mem _ hentry)) with rfl | h
            · exact absurd (hhead' _ hentry) (String.lt_irrefl _)
            · exact h

/-- Among entries that are inserted with increasing keys each one counts. -/
theorem get?_insertAll (d : Dictionary α) {entries : List (String × α)}
    (hordered : Entries.Ordered entries) (key : String) :
    (d.insertAll entries).get? key = (entries.lookup key).or (d.get? key) := by
  induction entries generalizing d with
  | nil => rfl
  | cons head rest ih =>
      obtain ⟨hhead, hrest⟩ := List.pairwise_cons.mp hordered
      rw [insertAll, List.foldl_cons, ← insertAll, ih (d.insert head.1 head.2) hrest, get?_insert,
        List.lookup_cons]
      by_cases hkey : key = head.1
      · have hmiss : rest.lookup key = none := by
          rw [Option.eq_none_iff_forall_ne_some]
          intro value hvalue
          have hlt := hhead _ ((Entries.lookup_eq_some_iff hrest).mp hvalue)
          exact String.lt_irrefl _ (hkey ▸ hlt)
        rw [hmiss, hkey, if_pos rfl, beq_self_eq_true]
        rfl
      · simp [hkey, beq_eq_false_iff_ne.mpr hkey]

/-- Of the entries of a list that have one key the last counts. -/
theorem get?_insertAll_reverse (d : Dictionary α) (entries : List (String × α)) (key : String) :
    (d.insertAll entries).get? key = (entries.reverse.lookup key).or (d.get? key) := by
  induction entries generalizing d with
  | nil => rfl
  | cons head rest ih =>
      rw [insertAll, List.foldl_cons, ← insertAll, ih, get?_insert, List.reverse_cons,
        List.lookup_append, Option.or_assoc]
      congr 1
      rw [List.lookup_cons]
      by_cases hkey : key = head.1
      · simp [hkey]
      · simp [hkey, beq_eq_false_iff_ne.mpr hkey]

/-- What is found under a key of a list is the entry that counts among those with the key. -/
theorem get?_ofList_eq_some {entries : List (String × α)} {key : String} {value : α}
    (hvalue : (ofList entries).get? key = some value) : (key, value) ∈ entries := by
  rw [ofList, get?_insertAll_reverse, get?_empty, Option.or_none, List.lookup_eq_some_iff] at hvalue
  obtain ⟨ahead, behind, heq, -⟩ := hvalue
  rw [← List.mem_reverse, heq]
  exact List.mem_append_right ahead List.mem_cons_self

theorem get?_ofList_eq_none_iff {entries : List (String × α)} {key : String} :
    (ofList entries).get? key = none ↔ ∀ entry ∈ entries, entry.1 ≠ key := by
  rw [ofList, get?_insertAll_reverse, get?_empty, Option.or_none, List.lookup_eq_none_iff]
  simp only [List.mem_reverse, bne_iff_ne, ne_comm]

theorem mem_keys_iff_exists {d : Dictionary α} {key : String} :
    key ∈ d.keys ↔ ∃ value, d.get? key = some value := by
  rw [keys, List.mem_map]
  constructor
  · rintro ⟨⟨k, value⟩, hmem, rfl⟩
    exact ⟨value, mem_entries_iff.mp hmem⟩
  · exact fun ⟨value, hvalue⟩ => ⟨(key, value), mem_entries_iff.mpr hvalue, rfl⟩

theorem mem_keys_iff {d : Dictionary α} {key : String} :
    key ∈ d.keys ↔ d.contains key = true := by
  rw [mem_keys_iff_exists, contains, Option.isSome_iff_exists]

theorem get?_insertAll_of_not_mem (d : Dictionary α) {entries : List (String × α)} {key : String}
    (hnot : ∀ entry ∈ entries, entry.1 ≠ key) : (d.insertAll entries).get? key = d.get? key := by
  induction entries generalizing d with
  | nil => rfl
  | cons head rest ih =>
      rw [List.forall_mem_cons] at hnot
      rw [insertAll, List.foldl_cons, ← insertAll, ih (d.insert head.1 head.2) hnot.2, get?_insert,
        if_neg (Ne.symm hnot.1)]

/-- Of the entries of a list that have one key the last counts. -/
theorem get?_ofList_append (ahead : List (String × α)) (key : String) (value : α)
    {behind : List (String × α)} (hlast : ∀ entry ∈ behind, entry.1 ≠ key) :
    (ofList (ahead ++ (key, value) :: behind)).get? key = some value := by
  rw [ofList, insertAll, List.foldl_append, List.foldl_cons, ← insertAll, ← insertAll,
    get?_insertAll_of_not_mem _ hlast, get?_insert, if_pos rfl]

/-- A newer dictionary hides the entries under its keys. -/
theorem get?_override (d newer : Dictionary α) (key : String) :
    (d.override newer).get? key = (newer.get? key).or (d.get? key) :=
  d.get?_insertAll newer.ordered key

theorem get?_without (d : Dictionary α) (other : Dictionary β) (key : String) :
    (d.without other).get? key = if other.contains key then none else d.get? key := by
  rw [without, get?_keep]
  cases other.contains key <;> rfl

@[simp] theorem empty_override (d : Dictionary α) : empty.override d = d := by
  apply ext_get?
  intro key
  rw [get?_override, get?_empty, Option.or_none]

@[simp] theorem override_empty (d : Dictionary α) : d.override empty = d := rfl

@[simp] theorem override_self (d : Dictionary α) : d.override d = d := by
  apply ext_get?
  intro key
  rw [get?_override, Option.or_self]

@[simp] theorem without_self (d : Dictionary α) : d.without d = empty := by
  apply ext_get?
  intro key
  rw [get?_without, get?_empty, contains]
  cases d.get? key <;> rfl

@[simp] theorem empty_without (d : Dictionary β) : (empty : Dictionary α).without d = empty := rfl

/-- Without entries that it does not have a dictionary is the same. -/
theorem without_eq_self {d : Dictionary α} {other : Dictionary β}
    (hsize : (d.without other).size = d.size) : d.without other = d := by
  apply ext_get?
  intro key
  have hentries : (d.without other).entries = d.entries :=
    List.filter_sublist.eq_of_length hsize
  rw [get?, get?, hentries]

/-- The dictionary of the entries of a dictionary under some keys. -/
theorem ofList_filter (d : Dictionary α) (test : String → Bool) :
    ofList (d.entries.filter fun entry => test entry.1) = d.keep test :=
  empty_override (d.keep test)

@[simp] theorem isEmpty_iff {d : Dictionary α} : d.isEmpty = true ↔ d = empty := by
  rw [isEmpty, List.isEmpty_iff]
  constructor
  · intro h
    apply ext_get?
    intro key
    rw [get?, h]
    rfl
  · rintro rfl
    rfl

end Dictionary

end Componentry
