import Componentry.Proofs.Run.Turn
import Componentry.Registry
import Mathlib.Data.List.Nodup

/-!
# Registries in memory

What a successful call of a registry does to the records that it holds, and what it
means that a collaborator is such a registry: it answers as the registry in the
surroundings does, and changes nothing else.

Handles are numbered in order of creation, so a new handle is that of no record.
-/

namespace Componentry

namespace Registry

variable {registry after : Registry} {handle other : Registration}

/-- The number of every registered handle has been reached. -/
def Numbered (registry : Registry) : Prop :=
  ∀ record ∈ registry.records, record.handle.number ≤ registry.registrations

theorem numbered_empty : Numbered .empty := by
  intro record hrecord
  cases hrecord

theorem handle_of_record? {record : ServiceRecord}
    (hrecord : registry.record? handle = some record) :
    record.handle = handle := by
  have hsame := List.find?_some hrecord
  exact eq_of_beq hsame

theorem mem_of_record? {record : ServiceRecord} (hrecord : registry.record? handle = some record) :
    record ∈ registry.records :=
  List.mem_of_find?_eq_some hrecord

theorem Numbered.of_isRegistered (hnumbered : registry.Numbered)
    (hregistered : registry.isRegistered handle = true) :
    handle.number ≤ registry.registrations := by
  obtain ⟨record, hrecord⟩ := Option.isSome_iff_exists.mp hregistered
  rw [← handle_of_record? hrecord]
  exact hnumbered record (mem_of_record? hrecord)

/-- A handle whose number has not been reached is not registered. -/
theorem Numbered.record?_eq_none (hnumbered : registry.Numbered)
    (hlarge : registry.registrations < handle.number) : registry.record? handle = none := by
  rw [record?, List.find?_eq_none]
  intro record hrecord hhandle
  have hle := hnumbered record hrecord
  rw [eq_of_beq hhandle] at hle
  omega

section Register

variable {specifications : List String} {properties : Properties} {factory : FactoryPolicy}

/-- A successful registration has the next handle and adds a record behind the others. -/
theorem register_ok
    (hregister : registry.register specifications properties factory = .ok (handle, after)) :
    handle = registry.nextHandle ∧
      after.records = registry.records ++ [⟨handle, specifications, properties, factory⟩] ∧
      after.registrations = registry.registrations + 1 := by
  unfold register at hregister
  split at hregister
  · cases hregister
  · cases hregister
    exact ⟨rfl, rfl, rfl⟩

/-- Registration with a specification succeeds. -/
theorem register_error {failure : Failure}
    (hregister : registry.register specifications properties factory = .error failure) :
    specifications = [] := by
  unfold register at hregister
  split at hregister
  next hempty => exact List.isEmpty_iff.mp hempty
  next => cases hregister

theorem number_of_register
    (hregister : registry.register specifications properties factory = .ok (handle, after)) :
    handle.number = registry.registrations + 1 := by
  rw [(register_ok hregister).1, nextHandle]

theorem Numbered.register (hnumbered : registry.Numbered)
    (hregister : registry.register specifications properties factory = .ok (handle, after)) :
    after.Numbered := by
  obtain ⟨hhandle, hrecords, hcount⟩ := register_ok hregister
  intro record hrecord
  rw [hrecords, List.mem_append, List.mem_singleton] at hrecord
  rw [hcount]
  rcases hrecord with hold | rfl
  · exact Nat.le_succ_of_le (hnumbered record hold)
  · rw [hhandle]
    exact Nat.le_refl _

/-- Registration adds the record of the new handle. -/
theorem record?_register (hnumbered : registry.Numbered)
    (hregister : registry.register specifications properties factory = .ok (handle, after))
    (other : Registration) :
    after.record? other =
      if other = handle then some ⟨handle, specifications, properties, factory⟩
      else registry.record? other := by
  have hnumber := number_of_register hregister
  obtain ⟨-, hrecords, -⟩ := register_ok hregister
  have hnew : registry.record? handle = none := hnumbered.record?_eq_none (by omega)
  rw [record?] at hnew ⊢
  rw [hrecords, List.find?_append]
  by_cases hother : other = handle
  · rw [hother, hnew, if_pos rfl]
    simp
  · have hmiss : (handle == other) = false := beq_eq_false_iff_ne.mpr (Ne.symm hother)
    rw [if_neg hother, List.find?_cons, hmiss, List.find?_nil, Option.or_none]
    rfl

/-- Registration makes the new handle known, and no other. -/
theorem isRegistered_register (hnumbered : registry.Numbered)
    (hregister : registry.register specifications properties factory = .ok (handle, after))
    (other : Registration) :
    after.isRegistered other = true ↔ other = handle ∨ registry.isRegistered other = true := by
  rw [isRegistered, record?_register hnumbered hregister]
  split
  next heq => simp [heq]
  next hne =>
    rw [or_iff_right hne]
    rfl

end Register

theorem unregister_ok (hunregister : registry.unregister handle = .ok after) :
    registry.isRegistered handle = true ∧
      after.records = registry.records.filter (fun record => record.handle != handle) ∧
      after.registrations = registry.registrations := by
  unfold unregister at hunregister
  split at hunregister
  next hregistered =>
    cases hunregister
    exact ⟨hregistered, rfl, rfl⟩
  next => cases hunregister

/-- Only an unknown handle cannot be taken back. -/
theorem unregister_error {failure : Failure}
    (hunregister : registry.unregister handle = .error failure) :
    registry.isRegistered handle = false := by
  unfold unregister at hunregister
  split at hunregister
  next => cases hunregister
  next hunknown => exact Bool.eq_false_iff.mpr hunknown

theorem Numbered.unregister (hnumbered : registry.Numbered)
    (hunregister : registry.unregister handle = .ok after) : after.Numbered := by
  obtain ⟨-, hrecords, hcount⟩ := unregister_ok hunregister
  intro record hrecord
  rw [hrecords, List.mem_filter] at hrecord
  rw [hcount]
  exact hnumbered record hrecord.1

/-- Taking a handle back concerns the records of no other handle. -/
theorem record?_unregister (hunregister : registry.unregister handle = .ok after)
    (other : Registration) (hother : other ≠ handle) :
    after.record? other = registry.record? other := by
  obtain ⟨-, hrecords, -⟩ := unregister_ok hunregister
  rw [record?, record?, hrecords, List.find?_filter]
  congr 1
  funext record
  by_cases heq : record.handle = other <;> simp [heq, hother]

/-- Taking a handle back makes it unknown, and no other. -/
theorem isRegistered_unregister (hunregister : registry.unregister handle = .ok after)
    (other : Registration) :
    after.isRegistered other = true ↔ registry.isRegistered other = true ∧ other ≠ handle := by
  by_cases hother : other = handle
  · obtain ⟨-, hrecords, -⟩ := unregister_ok hunregister
    have hnone : after.record? other = none := by
      rw [record?, hrecords, hother, List.find?_eq_none]
      intro record hrecord hhandle
      have hkept := (List.mem_filter.mp hrecord).2
      rw [eq_of_beq hhandle] at hkept
      simp at hkept
    rw [isRegistered, hnone]
    simp [hother]
  · rw [isRegistered, record?_unregister hunregister other hother, and_iff_left hother]
    rfl

section Update

variable {properties : Properties}

theorem update_ok (hupdate : registry.update handle properties = .ok after) :
    registry.isRegistered handle = true ∧
      after.records = registry.records.map (fun record =>
        if record.handle = handle then { record with properties := properties } else record) ∧
      after.registrations = registry.registrations := by
  unfold update at hupdate
  split at hupdate
  next hregistered =>
    cases hupdate
    exact ⟨hregistered, rfl, rfl⟩
  next => cases hupdate

/-- Only an unknown handle cannot be updated. -/
theorem update_error {failure : Failure}
    (hupdate : registry.update handle properties = .error failure) :
    registry.isRegistered handle = false := by
  unfold update at hupdate
  split at hupdate
  next => cases hupdate
  next hunknown => exact Bool.eq_false_iff.mpr hunknown

theorem Numbered.update (hnumbered : registry.Numbered)
    (hupdate : registry.update handle properties = .ok after) : after.Numbered := by
  obtain ⟨-, hrecords, hcount⟩ := update_ok hupdate
  intro record hrecord
  rw [hrecords, List.mem_map] at hrecord
  obtain ⟨before, hbefore, rfl⟩ := hrecord
  rw [hcount]
  have hle := hnumbered before hbefore
  split <;> exact hle

/-- An update replaces the properties in the record of its handle. -/
theorem record?_update (hupdate : registry.update handle properties = .ok after)
    (other : Registration) :
    after.record? other =
      if other = handle then
        (registry.record? handle).map fun record => { record with properties := properties }
      else registry.record? other := by
  obtain ⟨-, hrecords, -⟩ := update_ok hupdate
  rw [record?, record?, record?, hrecords, List.find?_map]
  have hhandle : ((fun record : ServiceRecord => record.handle == other) ∘ fun record =>
      if record.handle = handle then { record with properties := properties } else record) =
      fun record => record.handle == other := by
    funext record
    simp only [Function.comp_apply]
    split <;> rfl
  rw [hhandle]
  split
  next hother =>
    rw [hother]
    refine Option.map_congr fun record hrecord => ?_
    rw [if_pos (handle_of_record? hrecord)]
  next hother =>
    refine (Option.map_congr fun record hrecord => ?_).trans Option.map_id'
    rw [handle_of_record? hrecord, if_neg hother]

/-- An update leaves which handles are known. -/
theorem isRegistered_update (hupdate : registry.update handle properties = .ok after)
    (other : Registration) :
    after.isRegistered other = true ↔ registry.isRegistered other = true := by
  rw [isRegistered, record?_update hupdate]
  split
  next heq =>
    rw [Option.isSome_map, heq]
    rfl
  next => rfl

end Update

/-- The registry holds some records, in whatever order, under distinct handles. -/
structure Holds (registry : Registry) (records : List ServiceRecord) : Prop where
  perm : registry.records.Perm records
  distinct : (records.map ServiceRecord.handle).Nodup
  numbered : registry.Numbered

namespace Holds

variable {records rest : List ServiceRecord} {record : ServiceRecord}

theorem of_perm (h : registry.Holds records) (hperm : records.Perm rest) :
    registry.Holds rest where
  perm := h.perm.trans hperm
  distinct := (hperm.map _).nodup h.distinct
  numbered := h.numbered

theorem isRegistered (h : registry.Holds records) (hrecord : record ∈ records) :
    registry.isRegistered record.handle = true := by
  rw [Registry.isRegistered, record?, List.find?_isSome]
  exact ⟨record, h.perm.mem_iff.mpr hrecord, beq_self_eq_true _⟩

theorem record?_eq (h : registry.Holds records) (hrecord : record ∈ records) :
    registry.record? record.handle = some record := by
  obtain ⟨found, hfound⟩ := Option.isSome_iff_exists.mp (h.isRegistered hrecord)
  rw [hfound]
  have hmem := h.perm.mem_iff.mp (mem_of_record? hfound)
  exact congrArg some
    (List.inj_on_of_nodup_map h.distinct hmem hrecord (handle_of_record? hfound))

/-- The handles of the other records differ from that of the first. -/
theorem handle_ne (h : registry.Holds (record :: rest)) {other : ServiceRecord}
    (hother : other ∈ rest) : other.handle ≠ record.handle := by
  intro heq
  have hdistinct := h.distinct
  rw [List.map_cons, List.nodup_cons] at hdistinct
  exact hdistinct.1 (heq ▸ List.mem_map_of_mem hother)

theorem register (h : registry.Holds records) {specifications : List String}
    {properties : Properties} {factory : FactoryPolicy}
    (hregister : registry.register specifications properties factory = .ok (handle, after)) :
    after.Holds (⟨handle, specifications, properties, factory⟩ :: records) := by
  have hnumber := number_of_register hregister
  obtain ⟨-, hrecords, -⟩ := register_ok hregister
  refine ⟨?_, ?_, h.numbered.register hregister⟩
  · rw [hrecords]
    exact (List.perm_append_singleton _ _).trans (h.perm.cons _)
  · rw [List.map_cons, List.nodup_cons]
    refine ⟨?_, h.distinct⟩
    intro hmem
    obtain ⟨old, hold, heq⟩ := List.mem_map.mp hmem
    -- A record under the new handle would be numbered higher than any record is.
    have hle := h.numbered old (h.perm.mem_iff.mpr hold)
    rw [heq, hnumber] at hle
    omega

theorem unregister (h : registry.Holds (record :: rest))
    (hunregister : registry.unregister record.handle = .ok after) : after.Holds rest := by
  obtain ⟨-, hrecords, -⟩ := unregister_ok hunregister
  have hdistinct := h.distinct
  rw [List.map_cons, List.nodup_cons] at hdistinct
  refine ⟨?_, hdistinct.2, h.numbered.unregister hunregister⟩
  have hkept : rest.filter (fun other => other.handle != record.handle) = rest := by
    rw [List.filter_eq_self]
    intro other hother
    exact bne_iff_ne.mpr (h.handle_ne hother)
  have hperm := h.perm.filter fun other => other.handle != record.handle
  rw [List.filter_cons_of_neg (by simp), hkept] at hperm
  rw [hrecords]
  exact hperm

theorem update {properties : Properties} (h : registry.Holds (record :: rest))
    (hupdate : registry.update record.handle properties = .ok after) :
    after.Holds ({ record with properties := properties } :: rest) := by
  obtain ⟨-, hrecords, -⟩ := update_ok hupdate
  have hkept : rest.map (fun other => if other.handle = record.handle then
      { other with properties := properties } else other) = rest := by
    refine (List.map_congr_left fun other hother => ?_).trans (List.map_id rest)
    rw [if_neg (h.handle_ne hother)]
    rfl
  have hperm := h.perm.map fun other : ServiceRecord => if other.handle = record.handle then
    { other with properties := properties } else other
  rw [List.map_cons, if_pos rfl, hkept] at hperm
  refine ⟨?_, h.distinct, h.numbered.update hupdate⟩
  rw [hrecords]
  exact hperm

end Holds

end Registry

variable {σ α τ : Type}

/-- Something happens around the platform that a view of the surroundings does not show. -/
def Idle (view : σ → τ) (w w' : World σ) : Prop :=
  w'.platform = w.platform ∧ view w'.surroundings = view w.surroundings

/-- The registry in the surroundings is asked for something, and the answer is what it
says. -/
inductive Answers (registry : σ → Registry)
    (ask : Registry → Except Failure (α × Registry)) (w w' : World σ) : Except Failure α → Prop
  | served {a : α} (hplatform : w'.platform = w.platform)
      (hask : ask (registry w.surroundings) = .ok (a, registry w'.surroundings)) :
      Answers registry ask w w' (.ok a)
  | refused {failure : Failure} (hidle : Idle registry w w')
      (hask : ask (registry w.surroundings) = .error failure) :
      Answers registry ask w w' (.error failure)

namespace Registry

/-- Ask for a registration to be taken back. -/
def askUnregister (handle : Registration) (registry : Registry) :
    Except Failure (Unit × Registry) :=
  (registry.unregister handle).map fun after => ((), after)

/-- Ask for the properties of a registration to be replaced. -/
def askUpdate (handle : Registration) (properties : Properties) (registry : Registry) :
    Except Failure (Unit × Registry) :=
  (registry.update handle properties).map fun after => ((), after)

theorem askUnregister_ok {registry after : Registry} {handle : Registration}
    (hask : registry.askUnregister handle = .ok ((), after)) :
    registry.unregister handle = .ok after := by
  unfold askUnregister at hask
  cases hunregister : registry.unregister handle with
  | error failure => rw [hunregister] at hask; cases hask
  | ok result => rw [hunregister] at hask; cases hask; rfl

theorem askUnregister_error {registry : Registry} {handle : Registration} {failure : Failure}
    (hask : registry.askUnregister handle = .error failure) :
    registry.isRegistered handle = false := by
  unfold askUnregister at hask
  cases hunregister : registry.unregister handle with
  | error failure => exact unregister_error hunregister
  | ok result => rw [hunregister] at hask; cases hask

theorem askUpdate_error {registry : Registry} {handle : Registration}
    {properties : Properties} {failure : Failure}
    (hask : registry.askUpdate handle properties = .error failure) :
    registry.isRegistered handle = false := by
  unfold askUpdate at hask
  cases hupdate : registry.update handle properties with
  | error failure => exact update_error hupdate
  | ok result => rw [hupdate] at hask; cases hask

theorem askUpdate_ok {registry after : Registry} {handle : Registration}
    {properties : Properties} (hask : registry.askUpdate handle properties = .ok ((), after)) :
    registry.update handle properties = .ok after := by
  unfold askUpdate at hask
  cases hupdate : registry.update handle properties with
  | error failure => rw [hupdate] at hask; cases hask
  | ok result => rw [hupdate] at hask; cases hask; rfl

end Registry

/-- Ask a registry that is kept in the surroundings. -/
def askRegistry (registry : σ → Registry) (store : Registry → σ → σ)
    (ask : Registry → Except Failure (α × Registry)) : Run σ (Except Failure α) := do
  match ask (registry (← Run.surroundings)) with
  | .ok (a, after) =>
      Run.changeSurroundings (store after)
      return .ok a
  | .error failure => return .error failure

theorem answers_askRegistry {registry : σ → Registry} {store : Registry → σ → σ}
    (hstore : ∀ after s, registry (store after s) = after)
    (ask : Registry → Except Failure (α × Registry)) (w : World σ) :
    (askRegistry registry store ask).Ensures w fun answer w' =>
      Answers registry ask w w' answer := by
  simp only [askRegistry, Run.ensures_bind, Run.ensures_surroundings]
  split
  next a after hask =>
    simp only [Run.ensures_bind, Run.ensures_changeSurroundings, Run.ensures_pure]
    refine .served rfl ?_
    rw [World.surroundings_changeSurroundings, hstore]
    exact hask
  next failure hask => exact (Run.ensures_pure _).mpr (.refused ⟨rfl, rfl⟩ hask)

end Componentry
