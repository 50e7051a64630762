import Componentry.Proofs.Field.Writing

/-!
# What one update does

An update gives each property that it names the value under its name, brought to its type, and
leaves all others. A value for a property with a field goes through the component: all handlers
that are interested in the field are told of the write, and among them the configurator, which
gives the property its value. So every entry is applied once, and to one property; where it
changes nothing there is no write at all. An update that is delivered again does nothing more.
-/

namespace Componentry

variable {σ : Type} {e : Ensemble} {u v w w' : World σ}

/-! ## Writes -/

section Writing

/-- Among the handlers that are interested in a field the provider comes ahead of the
configurator, and the caller behind it. -/
theorem Ensemble.Wired.exists_interested (hw : e.Wired w) {field : String}
    (hmem : .configurator e.configurator ∈ (w.component e.component).interested field) :
    ∃ ahead behind : List Handler,
      (w.component e.component).interested field =
        ahead ++ .configurator e.configurator :: behind ∧
      (∀ handler ∈ ahead, handler = .provider e.provider) ∧
      ∀ handler ∈ behind, handler = .caller e.caller := by
  have hsublist : ((w.component e.component).interested field).Sublist e.handlers :=
    (List.filter_sublist.map Attachment.handler).trans hw.inOrder
  -- What stands to the left and to the right of the configurator in the order of the handlers.
  have horder : e.handlers.Pairwise fun left right =>
      (right = .configurator e.configurator → left = .provider e.provider) ∧
        (left = .configurator e.configurator → right = .caller e.caller) := by
    simp [Ensemble.handlers]
  obtain ⟨ahead, behind, heq⟩ := List.append_of_mem hmem
  have hpairwise := horder.sublist hsublist
  rw [heq, List.pairwise_append] at hpairwise
  obtain ⟨-, hbehind, hahead⟩ := hpairwise
  refine ⟨ahead, behind, heq, ?_, ?_⟩
  · intro handler hhandler
    exact (hahead handler hhandler _ List.mem_cons_self).1 rfl
  · intro handler hhandler
    exact ((List.pairwise_cons.mp hbehind).1 handler hhandler).2 rfl

/-- A field that is written gives its value to the properties that it backs. -/
theorem Stores.gives {τ : Type} {view : σ → τ} {field : String} {value : Value} (hw : e.Stands w)
    (hmem : .configurator e.configurator ∈ (w.component e.component).interested field)
    (h : Stores view e field value w w') : Gives e e.properties field value w w' := by
  have hheld : ∀ r,
      r ∈ ((w.component e.component).interested field).flatMap w.propertiesOf ↔ r ∈ e.properties := by
    intro r
    rw [List.mem_flatMap, ← hw.properties]
    constructor
    · rintro ⟨handler, hhandler, hr⟩
      rcases Ensemble.mem_handlers.mp (hw.staffed.mem_interested hhandler) with rfl | rfl | rfl
      · cases hr
      · exact hr
      · cases hr
    · exact fun hr => ⟨_, hmem, hr⟩
  have hcomponent : (w'.component e.component).attachments = (w.component e.component).attachments ∧
      (w'.component e.component).owned = (w.component e.component).owned := by
    rw [h.component, if_pos rfl]
    exact ⟨rfl, rfl⟩
  obtain ⟨hattachments, howned⟩ := hcomponent
  refine ⟨fun hw => ?_, hattachments, fun r => ?_⟩
  · obtain ⟨howned', hhandlers, hprovider, hregistered, hbound, hproperties, hcalled⟩ := hw
    constructor <;> simp only [Component.handlers, howned, hattachments, h.writes.provider,
      h.writes.configurator, h.writes.caller] <;> assumption
  · rw [h.writes.property]
    simp only [hheld]

end Writing

/-! ## Entries -/

theorem returns_find? (name : String) (properties : List (Ref .property))
    {post : Option (Ref .property) → World σ → Prop} :
    (Configurator.find? name properties).Returns w post ↔
      post (properties.find? fun r => (w.property r).name == name) w := by
  induction properties with
  | nil => exact Run.returns_pure none
  | cons r rest ih =>
      rw [Configurator.find?, Run.returns_bind, Run.returns_property]
      by_cases hname : (w.property r).name = name
      · rw [if_pos hname, Run.returns_pure, List.find?_cons_of_pos (by simpa using hname)]
      · rw [if_neg hname, ih, List.find?_cons_of_neg (by simpa using hname)]

section Updating

variable {out : Collaborators σ} (hout : Receptive out)
include hout

/-- An entry is applied to its property. Where the property holds the value there is no write;
else the write of its field comes back to it, and to no other property. -/
theorem returns_applyEntry (hw : e.Wired w) (hdistinct : e.Distinct w) {r : Ref .property}
    (hr : r ∈ e.properties) (incoming : Value) :
    (Configurator.applyEntry out e.component r incoming).Returns w fun _ =>
      Applies e r ((w.property r).coerce incoming).1 w := by
  simp only [Configurator.applyEntry, Run.returns_bind, Run.returns_property]
  generalize ((w.property r).coerce incoming).1 = value
  refine (Sparing.noteAll (e := e) out _ w).mono ?_
  intro _ u hnoted
  rw [← hnoted.property]
  split
  next hholds => exact (Run.returns_pure _).mpr (.of_spares hnoted (.of_holds hholds))
  next hother =>
    split
    next field hfield =>
      have hu := hnoted.wired hw
      have hdistinct' := hnoted.distinct hdistinct
      refine (returns_setField hout.placid hu.stands.staffed field value).mono ?_
      intro _ v hstores
      have hgives := hstores.gives hu.stands (hu.interested r hr field hfield)
      have hstored : (v.component e.component).fields =
          (u.component e.component).fields.insert field value := by
        rw [hstores.component, if_pos rfl]
      exact .of_spares hnoted (.of_gives hgives hstored hdistinct' hr hfield
        ((Bool.not_eq_true _).mp hother))
    next =>
      rw [Run.returns_setProperty]
      exact .of_spares hnoted (.setProperty r value)

/-- Entries are received by the properties that they name. -/
theorem returns_applyEntries (hw : e.Wired w) (hdistinct : e.Distinct w) (className : String)
    {entries : List (String × Value)} (hkeys : (entries.map Prod.fst).Nodup) :
    (Configurator.applyEntries out e.component className e.properties entries).Returns w
      fun _ => Receives e entries w := by
  induction entries generalizing w with
  | nil => exact (Run.returns_pure []).mpr (Spares.refl w).receives
  | cons entry rest ih =>
      obtain ⟨key, incoming⟩ := entry
      rw [List.map_cons, List.nodup_cons] at hkeys
      obtain ⟨hnot, hkeys⟩ := hkeys
      rw [Configurator.applyEntries, Run.returns_bind, returns_find?]
      split
      next r hfound =>
        have hr := List.mem_of_find?_eq_some hfound
        have hname : (w.property r).name = key := by simpa using List.find?_some hfound
        rw [Run.returns_bind]
        refine (returns_applyEntry hout hw hdistinct hr incoming).mono ?_
        intro _ u happlies
        have hu : e.Wired u :=
          hw.of_same (happlies.stands hw.stands) happlies.attachments
            fun s _ => happlies.field_eq s
        have hdistinct' := hdistinct.of_same happlies.name_eq happlies.field_eq
        refine (ih hu hdistinct' hkeys).mono ?_
        intro _ v hrest
        exact happlies.receives_cons hdistinct hr hname hnot hrest
      next hfound =>
        have hnone : ∀ r ∈ e.properties, (w.property r).name ≠ key := by
          intro r hr
          simpa using List.find?_eq_none.mp hfound r hr
        rw [Run.returns_bind]
        refine (Sparing.note (e := e) out _ w).mono ?_
        intro _ u hnoted
        rw [Run.returns_bind]
        refine (ih (hnoted.wired hw) (hnoted.distinct hdistinct) hkeys).mono ?_
        intro unmatched v hrest
        exact (Run.returns_pure _).mpr (hnoted.receives_cons hnone hrest)

/-- The properties receive the entries of an update, and what they do not claim is propagated. -/
theorem returns_updated (hw : e.Wired w) (hdistinct : e.Distinct w) (configuration : Properties) :
    (Configurator.updated out e.configurator (some configuration)).Returns w fun _ =>
      Receives e configuration.entries w := by
  have hkeys : (configuration.entries.map Prod.fst).Nodup :=
    List.pairwise_map.mpr (configuration.ordered.imp String.ne_of_lt)
  have hheld : Spares e w (w.hold e.component) := .hold e.component
  rw [Configurator.updated, Run.returns_bind, Run.returns_configurator, hw.stands.configurator,
    hw.stands.properties, Run.returns_whileAlive_owned hw.stands.owned, Run.returns_bind,
    Run.returns_component, Run.returns_bind]
  refine (returns_applyEntries hout (hheld.wired hw) (hheld.distinct hdistinct) _ hkeys).mono ?_
  intro unmatched u hreceives
  have hpropagated : Sparing e (Configurator.propagate out e.configurator e.component
      (.ofList unmatched)) := sparing_propagate hout _ _ _
  refine (hpropagated u).mono ?_
  intro _ v hspared
  exact hreceives.between hheld (hspared.trans (.release e.component))

end Updating

/-! ## Reads -/

section Reading

variable {r : Ref .property} {field : String} {value : Value}

/-- The value of a property decides what its field comes to, as the configurator is the last of
the handlers that have a value for it. -/
theorem Ensemble.Wired.fieldValue_eq (hw : e.Wired w) (hdistinct : e.Distinct w)
    (hr : r ∈ e.properties) (hfield : (w.property r).field = some field)
    (hvalue : (w.property r).value = some value) :
    w.fieldValue e.component field = some value := by
  obtain ⟨ahead, behind, heq, -, hbehind⟩ :=
    hw.exists_interested (hw.interested r hr field hfield)
  have hfound : (e.properties.map w.property).find? (·.isBackedBy field) = some (w.property r) := by
    have hbacked := ConfigurableProperty.isBackedBy_iff.mpr hfield
    cases hfind : (e.properties.map w.property).find? (·.isBackedBy field) with
    | none =>
        exact absurd hbacked (List.find?_eq_none.mp hfind _ (List.mem_map_of_mem hr))
    | some found =>
        obtain ⟨s, hs, rfl⟩ := List.mem_map.mp (List.mem_of_find?_eq_some hfind)
        have hbacked' : (w.property s).isBackedBy field = true := by
          simpa using List.find?_some hfind
        rw [hdistinct.eq_of_field hs hr (ConfigurableProperty.isBackedBy_iff.mp hbacked') hfield]
  have hown : w.reading field (.configurator e.configurator) = some value := by
    rw [World.reading, hw.stands.properties, hfound, Option.bind_some, hvalue]
  have hnone : behind.filterMap (w.reading field) = [] := by
    apply List.filterMap_eq_nil_iff.mpr
    intro handler hhandler
    rw [hbehind handler hhandler, World.reading]
  rw [World.fieldValue, World.readings, heq, List.filterMap_append, List.filterMap_cons_some hown,
    hnone, List.getLast?_append]
  simp

end Reading

/-! ## One update -/

/-- What one update does to an ensemble. -/
structure Ensemble.Updates (e : Ensemble) (out : Collaborators σ) (configuration : Properties)
    (w w' : World σ) : Prop where
  /-- A property that is named by a key holds what is under it, brought to its type. -/
  held : ∀ r ∈ e.properties, ∀ incoming,
    configuration.get? (w.property r).name = some incoming →
      (w'.property r).holds ((w.property r).coerce incoming).1 = true
  /-- Every other property is what it was. -/
  unnamed : ∀ r, (r ∈ e.properties → configuration.get? (w.property r).name = none) →
    w'.property r = w.property r
  /-- A change of a value is counted once, and nothing else is. -/
  counted : ∀ r, (w'.property r).modifications = (w.property r).modifications +
    if Value.sameOption (w.property r).value (w'.property r).value then 0 else 1
  /-- A field reads as the value of the property that it backs. -/
  read : ∀ r ∈ e.properties, ∀ field ∈ (w'.property r).field, ∀ value ∈ (w'.property r).value,
    (Component.getField out e.component field).Returns w' fun answer _ => answer = some value
  /-- What is stored in a field stays if the field backs no property that has changed. -/
  untouched : ∀ field,
    (∀ r ∈ e.properties, (w.property r).field = some field →
      Value.sameOption (w.property r).value (w'.property r).value = true) →
    (w'.component e.component).fields.get? field = (w.component e.component).fields.get? field
  /-- The update that is delivered again changes no property and writes no field. -/
  again : (Configurator.updated out e.configurator (some configuration)).Returns w' fun _ w'' =>
    w''.property = w'.property ∧
      (w''.component e.component).fields = (w'.component e.component).fields
  /-- It would be seen if a field were written with the value that is stored in it: whatever
  were stored, it would stay. -/
  unwritten : ∀ stored : Properties,
    (Configurator.updated out e.configurator (some configuration)).Returns
      (w'.changeComponent e.component fun c => { c with fields := stored }) fun _ w'' =>
        w''.property = w'.property ∧ (w''.component e.component).fields = stored

theorem Receives.updates {out : Collaborators σ} (hout : Receptive out) {configuration : Properties}
    (h : Receives e configuration.entries w w') (hw : e.Wired w) (hdistinct : e.Distinct w) :
    e.Updates out configuration w w' := by
  have hw' : e.Wired w' := hw.of_same (h.stands hw.stands) h.attachments fun r _ => h.field_eq r
  have hdistinct' : e.Distinct w' := hdistinct.of_same h.name_eq h.field_eq
  constructor
  case held =>
    intro r hr incoming hget
    rw [h.property, if_pos hr, ConfigurableProperty.received_of_lookup hget,
      ConfigurableProperty.holds_assign]
  case unnamed =>
    intro r hnone
    rw [h.property]
    split
    next hr => exact ConfigurableProperty.received_of_lookup_none (hnone hr)
    next => rfl
  case counted =>
    intro r
    rw [h.property]
    split
    next => exact ConfigurableProperty.modifications_received
    next => simp
  case read =>
    intro r hr field hfield value hvalue
    refine (returns_getField_staffed out hw'.stands.staffed field).mono ?_
    rintro answer _ rfl
    exact hw'.fieldValue_eq hdistinct' hr hfield hvalue
  case untouched =>
    intro field hsame
    rcases h.fields field with hstored | ⟨r, hr, hfield, hchanged⟩
    · exact hstored
    · have hkept := hsame r hr hfield
      rw [h.property, if_pos hr] at hkept
      rw [ConfigurableProperty.isChangedBy, hkept] at hchanged
      cases hchanged
  case again =>
    refine (returns_updated hout hw' hdistinct' configuration).mono ?_
    intro _ w'' hagain
    exact h.again hagain rfl
  case unwritten =>
    intro stored
    let u := w'.changeComponent e.component fun c => { c with fields := stored }
    have hstands : e.Stands u := hw'.stands.changeComponent (fun _ => rfl) fun _ => rfl
    have hu : e.Wired u := hw'.of_same hstands (by simp [u]) fun _ _ => rfl
    have hdistinct'' : e.Distinct u := hdistinct'.of_same (fun _ => rfl) fun _ => rfl
    refine (returns_updated hout hu hdistinct'' configuration).mono ?_
    intro _ w'' hagain
    obtain ⟨hproperty, hfields⟩ := h.again hagain rfl
    refine ⟨hproperty, hfields.trans ?_⟩
    simp [u]

/-- After any operations of a component that was configured with its handlers in their own
order, whoever ran operations within them, an update is applied entry by entry, each to its
property and once, whether or not the registry refuses what it is told. -/
theorem entries_applied_once {out out' : Collaborators σ} {w₀ w₁ w₂ : World σ}
    (hout : Layered e.Operates (Sociable e) out) (hassembled : e.AssembledInOrder out w₀ w₁)
    (hturn : Turn (Elsewhere e) (e.Operates out) w₁ w₂) (hdistinct : e.Distinct w₂)
    (hreceptive : Receptive out') (configuration : Properties) :
    (Configurator.updated out' e.configurator (some configuration)).Returns w₂ fun _ =>
      e.Updates out' configuration w₂ := by
  have hw : e.Wired w₂ := hassembled.wired.of_turn hout hturn
  refine (returns_updated hreceptive hw hdistinct configuration).mono ?_
  intro _ w' hreceives
  exact hreceives.updates hreceptive hw hdistinct

/-! ## The panel is configured anew -/

/-- A configuration with text that converts, text that does not, text that a property holds
already, a typed value, and a key that no property has. -/
def Properties.panel : Properties :=
  .ofList [("gain", .text "7"), ("label", .text "main"), ("mode", .boolean true),
    ("rate", .text "fast"), ("zone", .text "CET")]

/-- The panel is started, whereby it is tuned, and then configured anew. What its method has
written is overwritten, and the label is neither changed nor stored. -/
theorem entries_applied_once_panel :
    ∃ w₁ w₂ w₃ : World Registry,
      (Component.configure Registry.tuning ⟨0⟩ Ensemble.panel.handlers .empty).run
        (.panel .empty) = some ((), w₁) ∧
      (Component.start Registry.tuning ⟨0⟩).run w₁ = some ((), w₂) ∧
      (Configurator.updated Registry.refusing ⟨0⟩ (some Properties.panel)).run w₂ =
        some ((), w₃) ∧
      (w₃.property ⟨0⟩).holds (.integer 7) = true ∧ (w₃.property ⟨2⟩).holds (.text "fast") = true ∧
      Ensemble.panel.properties.map (fun r => (w₃.property r).modifications) = [2, 0, 1, 1] ∧
      (w₃.component ⟨0⟩).fields.keys = ["gain", "rate"] ∧
      Ensemble.panel.Updates Registry.refusing Properties.panel w₂ w₃ := by
  have hends : ((Component.configure Registry.tuning ⟨0⟩ Ensemble.panel.handlers .empty).run
      (.panel .empty)).bind (fun first => ((Component.start Registry.tuning ⟨0⟩).run first.2).bind
        fun second => ((Configurator.updated Registry.refusing ⟨0⟩
          (some Properties.panel)).run second.2).map fun third =>
            decide ((first.2.provider ⟨0⟩).services = Ensemble.panel.services ∧
              (first.2.configurator ⟨0⟩).properties = Ensemble.panel.properties ∧
              (Ensemble.panel.properties.map fun r => (second.2.property r).name).Nodup ∧
              (Ensemble.panel.properties.filterMap fun r => (second.2.property r).field).Nodup ∧
              (third.2.property ⟨0⟩).holds (.integer 7) = true ∧
              (third.2.property ⟨2⟩).holds (.text "fast") = true ∧
              Ensemble.panel.properties.map (fun r => (third.2.property r).modifications) =
                [2, 0, 1, 1] ∧
              (third.2.component ⟨0⟩).fields.keys = ["gain", "rate"])) = some true := by
    decide +kernel
  obtain ⟨⟨⟨⟩, w₁⟩, hconfigured, hends⟩ := Option.bind_eq_some_iff.mp hends
  obtain ⟨⟨⟨⟩, w₂⟩, hstarted, hends⟩ := Option.bind_eq_some_iff.mp hends
  obtain ⟨⟨⟨⟩, w₃⟩, hupdated, hfacts⟩ := Option.map_eq_some_iff.mp hends
  obtain ⟨hservices, hproperties, hnames, hfields, hgain, hrate, hcounts, hkeys⟩ :=
    of_decide_eq_true hfacts
  have hassembled : Ensemble.panel.AssembledInOrder Registry.tuning (.panel .empty) w₁ :=
    ⟨⟨_, _, rfl⟩, ⟨.empty, hconfigured⟩, hservices, hproperties⟩
  obtain ⟨⟨⟩, w, hrun, hupdates⟩ := entries_applied_once Registry.layered_tuning hassembled
    (.single (.inr ⟨.start, hstarted⟩)) ⟨hnames, hfields⟩ Registry.receptive_refusing
    Properties.panel
  cases hrun.symm.trans hupdated
  exact ⟨w₁, w₂, w₃, hconfigured, hstarted, hupdated, hgain, hrate, hcounts, hkeys, hupdates⟩

end Componentry
