import Componentry.Proofs.Property.Sparing
import Mathlib.Data.List.Nodup

/-!
# What properties receive

A property that is given a value holds it, changes it if it is another one, and counts that. A
property receives of entries the one under its name, brought to its type; what it has received
it does not receive again.

For an ensemble whose properties have distinct names and distinct fields the effect of entries
is put together from the effects on single properties: a field gives its value to the property
that it backs, an entry is applied to the property that it names, and entries are received one
behind the other.
-/

namespace Componentry

variable {σ α : Type}

/-! ## Properties -/

namespace Value

mutual

theorem equal_refl : (a : Value) → a.equal a = true
  | null => by rw [equal]
  | boolean b => by simp [equal]
  | integer n => by simp [equal]
  | double x => by simp [equal, Double.equal]
  | text s => by simp [equal]
  | list items => by rw [equal, equalItems_refl]
  | object entries => by rw [equal, equalEntries_refl]

theorem equalItems_refl : (items : List Value) → equalItems items items = true
  | [] => by rw [equalItems]
  | a :: rest => by rw [equalItems, equal_refl a, equalItems_refl rest, Bool.and_self]

theorem equalEntries_refl : (entries : List (String × Value)) → equalEntries entries entries = true
  | [] => by rw [equalEntries]
  | (key, a) :: rest => by
      rw [equalEntries, equal_refl a, equalEntries_refl rest, beq_self_eq_true, Bool.and_self,
        Bool.and_self]

end

@[simp] theorem sameOption_refl (a : Option Value) : sameOption a a = true := by
  cases a with
  | none => rfl
  | some a => exact equal_refl a

end Value

namespace ConfigurableProperty

theorem assign_eq (property : ConfigurableProperty) (value : Value) :
    property.assign value =
      if property.holds value then property
      else { property with value := some value, modifications := property.modifications + 1 } := by
  rw [assign, assign?]
  split <;> rfl

@[simp] theorem typeName_assign (property : ConfigurableProperty) (value : Value) :
    (property.assign value).typeName = property.typeName := by
  rw [assign_eq]
  split <;> rfl

/-- A property holds what it has been given. -/
@[simp] theorem holds_assign (property : ConfigurableProperty) (value : Value) :
    (property.assign value).holds value = true := by
  rw [assign_eq]
  split
  next hholds => exact hholds
  next => exact Value.equal_refl value

/-- What is given to a property twice changes it once. -/
@[simp] theorem assign_assign (property : ConfigurableProperty) (value : Value) :
    (property.assign value).assign value = property.assign value := by
  rw [assign_eq (property.assign value), if_pos (holds_assign property value)]

/-- A property changes its value if it is given one that it does not hold, and counts that. -/
theorem modifications_assign (property : ConfigurableProperty) (value : Value) :
    (property.assign value).modifications = property.modifications +
      if Value.sameOption property.value (property.assign value).value then 0 else 1 := by
  rw [assign_eq]
  split
  next => simp
  next hother =>
    have hchanged : Value.sameOption property.value (some value) = false :=
      (Bool.not_eq_true _).mp hother
    simp [hchanged]

/-- What comes in is brought to a type, whatever else there is to a property. -/
theorem coerce_fst_congr {property other : ConfigurableProperty}
    (htype : other.typeName = property.typeName) (incoming : Value) :
    (other.coerce incoming).1 = (property.coerce incoming).1 := by
  cases incoming with
  | text raw =>
      simp only [coerce, htype]
      split <;> rfl
  | _ => rfl

/-- The property after entries have been delivered. -/
def received (property : ConfigurableProperty) (entries : List (String × Value)) :
    ConfigurableProperty :=
  match entries.lookup property.name with
  | some incoming => property.assign (property.coerce incoming).1
  | none => property

/-- Whether entries that are delivered change the value of the property. -/
def isChangedBy (property : ConfigurableProperty) (entries : List (String × Value)) : Bool :=
  !Value.sameOption property.value (property.received entries).value

variable {property : ConfigurableProperty} {entries : List (String × Value)}

theorem received_of_lookup {incoming : Value} (hlookup : entries.lookup property.name = some incoming) :
    property.received entries = property.assign (property.coerce incoming).1 := by
  rw [received, hlookup]

theorem received_of_lookup_none (hlookup : entries.lookup property.name = none) :
    property.received entries = property := by
  rw [received, hlookup]

@[simp] theorem name_received : (property.received entries).name = property.name := by
  rw [received]
  split <;> simp

@[simp] theorem field_received : (property.received entries).field = property.field := by
  rw [received]
  split <;> simp

@[simp] theorem typeName_received : (property.received entries).typeName = property.typeName := by
  rw [received]
  split <;> simp

/-- Entries that are delivered twice change a property once. -/
@[simp] theorem received_received :
    (property.received entries).received entries = property.received entries := by
  cases hlookup : entries.lookup property.name with
  | none => rw [received_of_lookup_none hlookup, received_of_lookup_none hlookup]
  | some incoming =>
      have hlookup' : entries.lookup (property.received entries).name = some incoming := by
        rw [name_received, hlookup]
      rw [received_of_lookup hlookup', coerce_fst_congr typeName_received,
        received_of_lookup hlookup, assign_assign]

theorem modifications_received :
    (property.received entries).modifications = property.modifications +
      if Value.sameOption property.value (property.received entries).value then 0 else 1 := by
  rw [received]
  split
  · exact modifications_assign _ _
  · simp

end ConfigurableProperty

/-! ## Steps -/

variable {e : Ensemble} {u v w w' : World σ}

/-- The properties have pairwise distinct names and pairwise distinct backing fields. -/
structure Ensemble.Distinct (e : Ensemble) (w : World σ) : Prop where
  names : (e.properties.map fun r => (w.property r).name).Nodup
  fields : (e.properties.filterMap fun r => (w.property r).field).Nodup

/-- Where what items come to is pairwise distinct, they do not come to the same. -/
theorem eq_of_nodup_filterMap {β : Type} {f : α → Option β} {items : List α}
    (hnodup : (items.filterMap f).Nodup) {a b : α} (ha : a ∈ items) (hb : b ∈ items) {c : β}
    (hfirst : f a = some c) (hsecond : f b = some c) : a = b := by
  induction items with
  | nil => cases ha
  | cons item rest ih =>
      have hrest : (rest.filterMap f).Nodup :=
        hnodup.sublist ((List.sublist_cons_self item rest).filterMap f)
      rcases List.mem_cons.mp ha with rfl | ha' <;> rcases List.mem_cons.mp hb with rfl | hb'
      · rfl
      · rw [List.filterMap_cons_some hfirst, List.nodup_cons] at hnodup
        exact absurd (List.mem_filterMap.mpr ⟨b, hb', hsecond⟩) hnodup.1
      · rw [List.filterMap_cons_some hsecond, List.nodup_cons] at hnodup
        exact absurd (List.mem_filterMap.mpr ⟨a, ha', hfirst⟩) hnodup.1
      · exact ih hrest ha' hb'

namespace Ensemble.Distinct

theorem of_same (h : e.Distinct w) (hname : ∀ r, (w'.property r).name = (w.property r).name)
    (hfield : ∀ r, (w'.property r).field = (w.property r).field) : e.Distinct w' where
  names := by
    simp only [hname]
    exact h.names
  fields := by
    simp only [hfield]
    exact h.fields

theorem eq_of_name (h : e.Distinct w) {r s : Ref .property} (hr : r ∈ e.properties)
    (hs : s ∈ e.properties) (hname : (w.property r).name = (w.property s).name) : r = s :=
  List.inj_on_of_nodup_map h.names hr hs hname

theorem eq_of_field (h : e.Distinct w) {r s : Ref .property} (hr : r ∈ e.properties)
    (hs : s ∈ e.properties) {field : String} (hfirst : (w.property r).field = some field)
    (hsecond : (w.property s).field = some field) : r = s :=
  eq_of_nodup_filterMap h.fields hr hs hfirst hsecond

end Ensemble.Distinct

theorem Spares.distinct (h : Spares e w w') (hw : e.Distinct w) : e.Distinct w' :=
  hw.of_same (fun r => by rw [h.property]) fun r => by rw [h.property]

/-- The field of a property backs it. -/
theorem ConfigurableProperty.isBackedBy_iff {property : ConfigurableProperty} {field : String} :
    property.isBackedBy field = true ↔ property.field = some field := by
  rw [isBackedBy, beq_iff_eq]

/-- A step that gives a value to those of some properties that a field backs, and to no
others. -/
structure Gives (e : Ensemble) (items : List (Ref .property)) (field : String) (value : Value)
    (w w' : World σ) : Prop where
  stands : e.Stands w → e.Stands w'
  attachments :
    (w'.component e.component).attachments = (w.component e.component).attachments
  property : ∀ r, w'.property r =
    if r ∈ items ∧ (w.property r).field = some field then (w.property r).assign value
    else w.property r

/-- A step that gives a value to one property, through its field if it has one. Nothing is
stored, unless it is in the field of a property that did not hold the value. -/
structure Applies (e : Ensemble) (r : Ref .property) (value : Value) (w w' : World σ) : Prop where
  stands : e.Stands w → e.Stands w'
  attachments :
    (w'.component e.component).attachments = (w.component e.component).attachments
  property : ∀ s, w'.property s = if s = r then (w.property r).assign value else w.property s
  fields : ∀ field,
    (w'.component e.component).fields.get? field = (w.component e.component).fields.get? field ∨
      (w.property r).field = some field ∧ (w.property r).holds value = false

namespace Applies

variable {r : Ref .property} {value : Value}

theorem name_eq (h : Applies e r value w w')
    (s : Ref .property) : (w'.property s).name = (w.property s).name := by
  rw [h.property]
  split
  next heq => simp [heq]
  next => rfl

theorem field_eq (h : Applies e r value w w')
    (s : Ref .property) : (w'.property s).field = (w.property s).field := by
  rw [h.property]
  split
  next heq => simp [heq]
  next => rfl

/-- A property that holds a value already is given nothing. -/
theorem of_holds (hholds : (w.property r).holds value = true) : Applies e r value w w where
  stands := id
  attachments := rfl
  property s := by
    rw [ConfigurableProperty.assign_eq, if_pos hholds]
    split
    next heq => rw [heq]
    next => rfl
  fields _ := .inl rfl

/-- A property without a field is given a value by itself. -/
theorem setProperty (r : Ref .property) (value : Value) :
    Applies e r value w (w.setProperty r ((w.property r).assign value)) where
  stands hw := hw.of_quiet (Slight.setProperty w r (by simp) (by simp)).quiet
  attachments := rfl
  property := fun s => w.property_setProperty r s _
  fields _ := .inl rfl

/-- A field that is written backs one property. -/
theorem of_gives {field : String} (h : Gives e e.properties field value w w')
    (hstored : (w'.component e.component).fields =
      (w.component e.component).fields.insert field value)
    (hdistinct : e.Distinct w) (hr : r ∈ e.properties) (hfield : (w.property r).field = some field)
    (hother : (w.property r).holds value = false) : Applies e r value w w' where
  stands := h.stands
  attachments := h.attachments
  property s := by
    rw [h.property]
    by_cases heq : s = r
    · rw [heq, if_pos ⟨hr, hfield⟩, if_pos rfl]
    · rw [if_neg heq, if_neg]
      rintro ⟨hs, hbacked⟩
      exact heq (hdistinct.eq_of_field hs hr hbacked hfield)
  fields other := by
    by_cases heq : other = field
    · exact .inr ⟨heq ▸ hfield, hother⟩
    · rw [hstored, Dictionary.get?_insert, if_neg heq]
      exact .inl rfl

theorem of_spares (h : Spares e u v) (happlies : Applies e r value v w) : Applies e r value u w where
  stands hu := happlies.stands (h.stands hu)
  attachments := happlies.attachments.trans h.attachments
  property s := by rw [happlies.property, h.property]
  fields field := by
    rw [← h.fields, ← h.property]
    exact happlies.fields field

end Applies

/-- A step in which the properties of an ensemble receive entries. Nothing is stored, unless it
is in the field of a property that is changed. -/
structure Receives (e : Ensemble) (entries : List (String × Value)) (w w' : World σ) : Prop where
  stands : e.Stands w → e.Stands w'
  attachments :
    (w'.component e.component).attachments = (w.component e.component).attachments
  property : ∀ r, w'.property r =
    if r ∈ e.properties then (w.property r).received entries else w.property r
  fields : ∀ field,
    (w'.component e.component).fields.get? field = (w.component e.component).fields.get? field ∨
      ∃ r ∈ e.properties, (w.property r).field = some field ∧
        (w.property r).isChangedBy entries = true

namespace ConfigurableProperty

variable {property : ConfigurableProperty} {key : String} {incoming : Value}
  {rest : List (String × Value)}

theorem received_cons_of_ne (hname : property.name ≠ key) :
    property.received ((key, incoming) :: rest) = property.received rest := by
  rw [received, received, List.lookup_cons, beq_eq_false_iff_ne.mpr hname]

theorem received_cons_self (hname : property.name = key) :
    property.received ((key, incoming) :: rest) =
      property.assign (property.coerce incoming).1 := by
  apply received_of_lookup
  rw [hname, List.lookup_cons_self]

/-- A property that has been given a value is not concerned by entries of other names. -/
theorem received_of_not_mem (hnot : property.name ∉ rest.map Prod.fst) :
    property.received rest = property := by
  apply received_of_lookup_none
  rw [List.lookup_eq_none_iff]
  intro entry hentry
  apply bne_iff_ne.mpr
  intro hname
  exact hnot (hname ▸ List.mem_map_of_mem hentry)

end ConfigurableProperty

theorem Receives.name_eq {entries : List (String × Value)} (h : Receives e entries w w')
    (r : Ref .property) : (w'.property r).name = (w.property r).name := by
  rw [h.property]
  split <;> simp

theorem Receives.field_eq {entries : List (String × Value)} (h : Receives e entries w w')
    (r : Ref .property) : (w'.property r).field = (w.property r).field := by
  rw [h.property]
  split <;> simp

section Entries

variable {key : String} {incoming : Value} {rest : List (String × Value)}

theorem Spares.receives (h : Spares e w w') : Receives e [] w w' where
  stands := h.stands
  attachments := h.attachments
  property r := by
    rw [h.property, ConfigurableProperty.received_of_lookup_none List.lookup_nil, ite_self]
  fields field := by
    rw [h.fields]
    exact .inl rfl

theorem Receives.between {entries : List (String × Value)} {x : World σ}
    (h : Receives e entries v w) (huv : Spares e u v) (hwx : Spares e w x) :
    Receives e entries u x where
  stands hu := hwx.stands (h.stands (huv.stands hu))
  attachments := (hwx.attachments.trans h.attachments).trans huv.attachments
  property r := by rw [hwx.property, h.property, huv.property]
  fields field := by
    rw [hwx.fields, ← huv.fields, ← huv.property]
    exact h.fields field

/-- An entry that no property claims is received by none. -/
theorem Spares.receives_cons (h : Spares e u v) (hnone : ∀ r ∈ e.properties, (u.property r).name ≠ key)
    (hrest : Receives e rest v w) : Receives e ((key, incoming) :: rest) u w where
  stands hu := hrest.stands (h.stands hu)
  attachments := hrest.attachments.trans h.attachments
  property r := by
    rw [hrest.property, h.property]
    split
    next hr => rw [ConfigurableProperty.received_cons_of_ne (hnone r hr)]
    next => rfl
  fields field := by
    rcases hrest.fields field with hsame | ⟨r, hr, hfield, hchanged⟩
    · rw [hsame, h.fields]
      exact .inl rfl
    · rw [h.property] at hfield hchanged
      refine .inr ⟨r, hr, hfield, ?_⟩
      rw [ConfigurableProperty.isChangedBy, ConfigurableProperty.received_cons_of_ne (hnone r hr)]
      exact hchanged

/-- An entry is received by the one property that claims it. -/
theorem Applies.receives_cons {r : Ref .property} (hdistinct : e.Distinct u)
    (hr : r ∈ e.properties) (hname : (u.property r).name = key) (hnot : key ∉ rest.map Prod.fst)
    (h : Applies e r ((u.property r).coerce incoming).1 u v) (hrest : Receives e rest v w) :
    Receives e ((key, incoming) :: rest) u w := by
  have hother : ∀ s ∈ e.properties, s ≠ r → (u.property s).name ≠ key := by
    intro s hs hne hsame
    exact hne (hdistinct.eq_of_name hs hr (hsame.trans hname.symm))
  have hself : (v.property r).received rest = v.property r := by
    apply ConfigurableProperty.received_of_not_mem
    rw [h.name_eq, hname]
    exact hnot
  have hgiven : (u.property r).received ((key, incoming) :: rest) = v.property r := by
    rw [ConfigurableProperty.received_cons_self hname, h.property, if_pos rfl]
  constructor
  · exact fun hu => hrest.stands (h.stands hu)
  · exact hrest.attachments.trans h.attachments
  · intro s
    rw [hrest.property]
    by_cases heq : s = r
    · rw [heq, if_pos hr, if_pos hr, hself, hgiven]
    · rw [h.property, if_neg heq]
      split
      next hs => rw [ConfigurableProperty.received_cons_of_ne (hother s hs heq)]
      next => rfl
  · intro field
    rcases hrest.fields field with hsame | ⟨s, hs, hfield, hchanged⟩
    · rcases h.fields field with hsame' | ⟨hfield, hnot⟩
      · exact .inl (hsame.trans hsame')
      · refine .inr ⟨r, hr, hfield, ?_⟩
        rw [ConfigurableProperty.isChangedBy, hgiven, h.property, if_pos rfl,
          ConfigurableProperty.assign_eq, if_neg (by simp [hnot])]
        exact congrArg (!·) hnot
    · -- The property with the entry is not changed again behind it.
      by_cases heq : s = r
      · rw [heq, ConfigurableProperty.isChangedBy, hself, Value.sameOption_refl] at hchanged
        cases hchanged
      · rw [h.property, if_neg heq] at hfield hchanged
        refine .inr ⟨s, hs, hfield, ?_⟩
        rw [ConfigurableProperty.isChangedBy,
          ConfigurableProperty.received_cons_of_ne (hother s hs heq)]
        exact hchanged

end Entries

/-- Entries that are received a second time change no property, and nothing is stored. -/
theorem Receives.again {entries : List (String × Value)} {u' : World σ}
    (hfirst : Receives e entries w w') (hsecond : Receives e entries u u')
    (hproperty : u.property = w'.property) :
    u'.property = w'.property ∧
      (u'.component e.component).fields = (u.component e.component).fields := by
  have hsettled : ∀ r ∈ e.properties, (u.property r).received entries = u.property r := by
    intro r hr
    rw [hproperty, hfirst.property, if_pos hr, ConfigurableProperty.received_received]
  constructor
  · funext r
    rw [hsecond.property, ← hproperty]
    split
    next hr => exact hsettled r hr
    next => rfl
  · apply Dictionary.ext_get?
    intro field
    rcases hsecond.fields field with hsame | ⟨r, hr, -, hchanged⟩
    · exact hsame
    · rw [ConfigurableProperty.isChangedBy, hsettled r hr, Value.sameOption_refl] at hchanged
      cases hchanged

end Componentry
