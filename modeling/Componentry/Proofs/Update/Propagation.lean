import Componentry.Proofs.Ensemble.Assembly
import Componentry.Proofs.Update.Replacement

/-!
# Propagated entries

A configuration update puts the entries that no property claims onto every service, in
place of those that the update before has put there. Nothing else touches them, and a
registry that refuses to be told of them does not keep them from the services.
-/

namespace Componentry

variable {σ α : Type}

namespace Ensemble

variable (e : Ensemble) (books : σ → Books)

/-- Whether a key is the name of a property of the ensemble. -/
def claims (w : World σ) (key : String) : Bool :=
  e.properties.any fun r => (w.property r).name == key

/-- The entries of the latest configuration that no property claims; none before there
was one. -/
def unclaimed (w : World σ) : Properties :=
  ((books w.surroundings).latest.map (·.keep fun key => !e.claims w key)).getD .empty

/-- What happens to an ensemble: an operation that delivers no configuration ends, or a
configuration is noted in the books as the latest one and delivered. -/
inductive Performs (out : Collaborators σ) (w w' : World σ) : Prop
  | operate (operation : Operation)
      (hother : ∀ configuration, operation ≠ .update (some configuration))
      (hrun : (operation.run out e).run w = some ((), w'))
  | deliver {configuration : Properties} {u : World σ} (hplatform : u.platform = w.platform)
      (hbooks : books u.surroundings =
        { books w.surroundings with latest := some configuration })
      (hrun : ((Operation.update (some configuration)).run out e).run u = some ((), w'))

end Ensemble

/-- What decides which entries are to be propagated has not changed, nor has what the
configurator remembers. -/
structure Unaltered (books : σ → Books) (e : Ensemble) (w w' : World σ) : Prop where
  names : ∀ r, (w'.property r).name = (w.property r).name
  remembered : (w'.configurator e.configurator).propagated =
    (w.configurator e.configurator).propagated
  latest : (books w'.surroundings).latest = (books w.surroundings).latest

variable {books : σ → Books} {others : List ServiceRecord} {e : Ensemble} {w w' : World σ}

/-- What is claimed is a matter of the names of the properties. -/
theorem Ensemble.claims_congr (hnames : ∀ r, (w'.property r).name = (w.property r).name) :
    e.claims w' = e.claims w := by
  funext key
  simp only [claims, hnames]

namespace Unaltered

theorem refl (w : World σ) : Unaltered books e w w := ⟨fun _ => rfl, rfl, rfl⟩

theorem trans {u v : World σ} (huv : Unaltered books e u v) (hvw : Unaltered books e v w) :
    Unaltered books e u w :=
  ⟨fun r => (hvw.names r).trans (huv.names r), hvw.remembered.trans huv.remembered,
    hvw.latest.trans huv.latest⟩

theorem claims_eq (h : Unaltered books e w w') : e.claims w' = e.claims w :=
  Ensemble.claims_congr h.names

theorem unclaimed_eq (h : Unaltered books e w w') :
    e.unclaimed books w' = e.unclaimed books w := by
  rw [Ensemble.unclaimed, Ensemble.unclaimed, h.claims_eq, h.latest]

theorem of_quiet (h : Quiet w w') : Unaltered books e w w' :=
  ⟨h.propertyName, h.propagated _, by rw [h.surroundings]⟩

theorem of_platform (hplatform : w'.platform = w.platform)
    (hlatest : (books w'.surroundings).latest = (books w.surroundings).latest) :
    Unaltered books e w w' := by
  obtain ⟨-, -, hproperty, -, hconfigurator, -⟩ := World.objects_of_platform hplatform
  refine ⟨?_, ?_, hlatest⟩
  · rw [hproperty]
    exact fun _ => rfl
  · rw [hconfigurator]

theorem of_replaced {s : Ref .service} {service : Service}
    (h : Replaced books others e s service w w') : Unaltered books e w w' := by
  obtain ⟨-, -, hproperty, -, hconfigurator, -⟩ := World.objects_of_platform h.platform
  have hframe := World.setService_frame w s service
  refine ⟨?_, ?_, h.unheard.latest⟩
  · rw [hproperty, hframe.2.2.1]
    exact fun _ => rfl
  · rw [hconfigurator, hframe.2.2.2.2.1]

end Unaltered

/-- The regime of steps that change no service. -/
def settled (books : σ → Books) (others : List ServiceRecord) (e : Ensemble) : Regime σ where
  holds := Sound books others e
  leads w w' := Unaltered books e w w' ∧ w'.service = w.service
  refl w := ⟨.refl w, rfl⟩
  trans huv hvw := ⟨huv.1.trans hvw.1, hvw.2.trans huv.2⟩

/-- The regime of what happens between two updates: the services carry what the
configurator remembers. -/
def carrying (books : σ → Books) (others : List ServiceRecord) (e : Ensemble) : Regime σ where
  holds w := Sound books others e w ∧ Carries e (w.configurator e.configurator).propagated w
  leads := Unaltered books e
  refl := .refl
  trans := .trans

/-- The regime of all that happens: the services carry what the configurator remembers,
which are the entries that are unclaimed. -/
def propagating (books : σ → Books) (others : List ServiceRecord) (e : Ensemble) : Regime σ where
  holds w := (carrying books others e).holds w ∧
    (w.configurator e.configurator).propagated = e.unclaimed books w
  leads _ _ := True
  refl _ := trivial
  trans _ _ := trivial

theorem settled_of_idle (hidle : Idle books w w') : (settled books others e).Allows w w' := by
  intro hw
  refine ⟨hw.of_platform hidle.1 ?_, .of_platform hidle.1 (by rw [hidle.2]),
    (World.objects_of_platform hidle.1).2.1⟩
  rw [hidle.2]
  exact hw.ledger

theorem carrying_of_settled (hallows : (settled books others e).Allows w w') :
    (carrying books others e).Allows w w' := by
  rintro ⟨hw, hcarries⟩
  obtain ⟨hw', hunaltered, hservice⟩ := hallows hw
  refine ⟨⟨hw', fun s hs => ?_⟩, hunaltered⟩
  rw [hservice, hunaltered.remembered]
  exact hcarries s hs

theorem propagating_of_carrying (hallows : (carrying books others e).Allows w w') :
    (propagating books others e).Allows w w' := by
  rintro ⟨hw, hremembered⟩
  obtain ⟨hw', hunaltered⟩ := hallows hw
  refine ⟨⟨hw', ?_⟩, trivial⟩
  rw [hunaltered.remembered, hunaltered.unclaimed_eq]
  exact hremembered

/-- A change of a service that leaves its propagated entries. -/
theorem carrying_of_replaced {s : Ref .service} {service : Service} (hs : s ∈ e.services)
    (hreplaced : Replaced books others e s service w w')
    (hextras : service.extras = (w.service s).extras) :
    (carrying books others e).Allows w w' := by
  rintro ⟨hsound, hcarries⟩
  have hunaltered := Unaltered.of_replaced hreplaced
  refine ⟨⟨hreplaced.sound hsound.stands, fun t ht => ?_⟩, hunaltered⟩
  rw [hreplaced.service_eq, hunaltered.remembered]
  split
  · rw [hextras]
    exact hcarries s hs
  · exact hcarries t ht

section Layer

variable {callbacks : World σ → World σ → Prop} {out : Collaborators σ}
  (hout : InMemory books callbacks out)
include hout

theorem settled_tell (event : Event) : (settled books others e).Keeps (out.tell event) := by
  intro w _
  rw [Run.ensures_tell]
  have hbooks : books (w.changeSurroundings (out.announce event)).surroundings =
      { books w.surroundings with events := (books w.surroundings).events ++ [event] } :=
    hout.announce event w.surroundings
  intro hw
  refine ⟨hw.of_platform rfl ?_, .of_platform rfl (by rw [hbooks]), rfl⟩
  rw [hbooks]
  exact hw.ledger

theorem carrying_tell (event : Event) : (carrying books others e).Keeps (out.tell event) :=
  (settled_tell hout event).weaken (fun _ hw => hw.1) fun _ _ => carrying_of_settled

theorem admits_settled : (settled books others e).Admits e out where
  stands hw := hw.stands
  quiet hquiet hw := by
    refine ⟨hw.of_service (hw.stands.of_quiet hquiet) hquiet.service ?_, .of_quiet hquiet,
      hquiet.service⟩
    rw [hquiet.surroundings]
    exact hw.ledger
  note record w _ := by
    rw [Run.ensures_note]
    exact settled_of_idle ⟨rfl, hout.log record _⟩
  published _ _ := settled_tell hout _
  withdrawn _ _ := settled_tell hout _
  publish _ _ _ w _ := (hout.publish _ _ _ w).mono fun _ _ => settled_of_idle
  withdraw _ w _ := (hout.withdraw _ w).mono fun _ _ => settled_of_idle

theorem admits_carrying : (carrying books others e).Admits e out :=
  (admits_settled hout).weaken (fun _ hw => hw.1) fun _ _ => carrying_of_settled

theorem admits_propagating : (propagating books others e).Admits e out :=
  (admits_carrying hout).weaken (fun _ hw => hw.1) fun _ _ => propagating_of_carrying

theorem carrying_write {s : Ref .service} (hs : s ∈ e.services) (field : String)
    (value : Value) : (carrying books others e).Keeps (Service.write out s field value) := by
  intro w hw
  refine (ensures_write_prompt hout hw.1.toKept hs field value).mono ?_
  intro _ w' hfollows
  apply hfollows.allows
  intro changed hwritten hreplaced
  exact carrying_of_replaced hs hreplaced (Service.written?_eq_some hwritten).2

theorem carrying_registerService {s : Ref .service} (hs : s ∈ e.services) (className : String) :
    (carrying books others e).Keeps (Provider.registerService out className s) := by
  have H : (carrying books others e).Admits e out := admits_carrying hout
  have hregister : (carrying books others e).Keeps (Service.register out s) := by
    refine keeps_register_prompt hout (fun hw => hw.1.toKept) hs ?_ ?_
    · intro w w' handle hreplaced
      exact carrying_of_replaced hs hreplaced rfl
    · intro w w' hplatform hkept hunheard
      apply carrying_of_settled
      intro hw
      exact ⟨⟨hkept, hw.stands.of_platform hplatform⟩, .of_platform hplatform hunheard.latest,
        (World.objects_of_platform hplatform).2.1⟩
  exact Regime.keeps_registerService H.note (carrying_tell hout) hregister className

theorem carrying_unregisterService {s : Ref .service} (hs : s ∈ e.services)
    (className : String) :
    (carrying books others e).Keeps (Provider.unregisterService out className s) := by
  have H : (carrying books others e).Admits e out := admits_carrying hout
  have hunregister : (carrying books others e).Keeps (Service.unregister out s) :=
    keeps_unregister_prompt hout (fun hw => hw.1.toKept) hs
      fun hreplaced => carrying_of_replaced hs hreplaced rfl
  exact Regime.keeps_unregisterService H.note (carrying_tell hout) hunregister className

end Layer

/-! ## The exchange of entries -/

/-- The regime in which the entries of services are exchanged: what a service carries
meanwhile is no matter. -/
def exchanging (books : σ → Books) (others : List ServiceRecord) (e : Ensemble) : Regime σ where
  holds := Sound books others e
  leads := Unaltered books e
  refl := .refl
  trans := .trans

theorem exchanging_of_settled (hallows : (settled books others e).Allows w w') :
    (exchanging books others e).Allows w w' := by
  intro hw
  obtain ⟨hw', hunaltered, -⟩ := hallows hw
  exact ⟨hw', hunaltered⟩

theorem exchanged_of_follows {s : Ref .service} {change : Option Service}
    (hw : Sound books others e w) (hfollows : Follows books others e s change w w') :
    (exchanging books others e).Exchanged (fun _ => True) e s
      (change.getD (w.service s)).extras w w' := by
  cases change with
  | none =>
      cases hfollows
      exact ⟨hw, .refl w, fun _ => rfl, fun _ _ _ _ => rfl⟩
  | some service =>
      refine ⟨hfollows.sound hw.stands, .of_replaced hfollows, fun _ => ?_, fun _ t _ ht => ?_⟩
      · rw [hfollows.service_eq, if_pos rfl, Option.getD_some]
      · rw [hfollows.service_eq, if_neg ht]

section Exchange

variable {callbacks : World σ → World σ → Prop} {out : Collaborators σ}
  (hout : InMemory books callbacks out)
include hout

theorem admits_exchanging : (exchanging books others e).Admits e out :=
  (admits_settled hout).weaken (fun _ hw => hw) fun _ _ => exchanging_of_settled

theorem exchanges_exchanging :
    (exchanging books others e).Exchanges e out fun _ => True where
  toBears := (admits_exchanging hout).toBears
  calmed _ _ := trivial
  extend s hs entries w hw := by
    rw [← Service.extras_extended?]
    exact (ensures_extend_prompt hout hw.toKept hs entries).mono fun _ _ => exchanged_of_follows hw
  reduce s hs entries w hw := by
    rw [← Service.extras_reduced?]
    exact (ensures_reduce_prompt hout hw.toKept hs entries).mono fun _ _ => exchanged_of_follows hw

omit hout in
/-- The configurator remembers what the services carry. -/
theorem holds_remembering {entries : Properties} (hw : Sound books others e w)
    (hcarries : Carries e entries w) :
    (carrying books others e).holds
      (w.changeConfigurator e.configurator fun c => { c with propagated := entries }) := by
  constructor
  · exact hw.of_service (hw.stands.changeConfigurator (fun _ => rfl) fun _ => rfl) rfl hw.ledger
  · rw [World.configurator_changeConfigurator, if_pos rfl]
    exact hcarries

theorem ensures_propagate (hservices : e.services ≠ [])
    (hw : (carrying books others e).holds w) (entries : Properties) :
    (Configurator.propagate out e.configurator e.component entries).Ensures w fun _ w' =>
      (carrying books others e).holds w' ∧ e.claims w' = e.claims w ∧
        (books w'.surroundings).latest = (books w.surroundings).latest ∧
        (w'.configurator e.configurator).propagated = entries := by
  have H : (exchanging books others e).Exchanges e out fun _ => True := exchanges_exchanging hout
  have hnoted : ∀ record, (exchanging books others e).Allows w
      (w.changeSurroundings (out.log record)) := by
    intro record
    have hnote := H.note record w hw.1
    rwa [Run.ensures_note] at hnote
  refine (H.ensures_propagate hservices hw.1.stands entries fun record _ =>
    (hnoted record hw.1).1).mono ?_
  rintro _ w' (⟨rfl, hnone⟩ | ⟨record, -, u, hrenewed, rfl⟩)
  · exact ⟨hw, rfl, rfl, hnone⟩
  · have hunaltered := (hnoted record hw.1).2.trans hrenewed.leads
    exact ⟨holds_remembering hrenewed.holds (hrenewed.carries trivial hw.2),
      hunaltered.claims_eq, hunaltered.latest, by simp⟩

end Exchange

/-! ## Updates -/

/-- Searching for a property finds one exactly if one has the name. -/
theorem ensures_find? (name : String) (properties : List (Ref .property)) (w : World σ) :
    (Configurator.find? name properties).Ensures w fun found w' =>
      w' = w ∧ found.isSome = properties.any fun r => (w.property r).name == name := by
  induction properties with
  | nil => exact (Run.ensures_pure _).mpr ⟨rfl, rfl⟩
  | cons r rest ih =>
      rw [Configurator.find?, Run.ensures_bind, Run.ensures_property]
      split
      next hname =>
        refine (Run.ensures_pure _).mpr ⟨rfl, ?_⟩
        rw [List.any_cons, hname, beq_self_eq_true, Bool.true_or]
        rfl
      next hname =>
        rw [List.any_cons, beq_eq_false_iff_ne.mpr hname, Bool.false_or]
        exact ih

/-- The entries that are handed back are those that no property claims, where the names of
the properties stay. -/
theorem Regime.Bears.ensures_applyEntries {R : Regime σ} {out : Collaborators σ}
    (H : R.Bears e out)
    (hwrite : ∀ s ∈ e.services, ∀ field value, R.Keeps (Service.write out s field value))
    (hnames : ∀ {w w'}, R.leads w w' → ∀ r, (w'.property r).name = (w.property r).name)
    (className : String) (entries : List (String × Value)) (hw : R.holds w) :
    (Configurator.applyEntries out e.component className e.properties entries).Ensures w
      fun unmatched w' => R.Allows w w' ∧
        unmatched = entries.filter fun entry => !e.claims w entry.1 := by
  induction entries generalizing w with
  | nil => exact (Run.ensures_pure _).mpr ⟨.refl w, rfl⟩
  | cons entry rest ih =>
      obtain ⟨key, incoming⟩ := entry
      rw [Configurator.applyEntries, Run.ensures_bind]
      refine (ensures_find? key e.properties w).mono ?_
      rintro found u ⟨rfl, hfound⟩
      have hclaims : found.isSome = e.claims u key := hfound
      have hrest : ∀ v, R.Allows u v →
          (Configurator.applyEntries out e.component className e.properties rest).Ensures v
            fun unmatched w' => R.Allows u w' ∧
              unmatched = rest.filter fun entry => !e.claims u entry.1 := by
        intro v hallows
        obtain ⟨hv, hleads⟩ := hallows hw
        refine (ih hv).mono ?_
        rintro unmatched w' ⟨hallows', hunmatched⟩
        refine ⟨hallows.trans hallows', ?_⟩
        rw [hunmatched, Ensemble.claims_congr (hnames hleads)]
      rw [List.filter_cons, ← hclaims]
      split
      next r =>
        refine (Run.ensures_bind _ _).mpr ((H.tolerates.applyEntry hwrite r incoming u hw).mono ?_)
        intro _ v hallows
        exact hrest v hallows
      next =>
        refine (Run.ensures_bind _ _).mpr ((H.note _ u hw).mono ?_)
        intro _ v hallows
        refine (Run.ensures_bind _ _).mpr ((hrest v hallows).mono ?_)
        rintro unmatched w' ⟨hallows', rfl⟩
        exact (Run.ensures_pure _).mpr ⟨hallows', rfl⟩

section Updates

variable {callbacks : World σ → World σ → Prop} {out : Collaborators σ}
  (hout : InMemory books callbacks out)
include hout

/-- A configuration that is delivered leaves the services with its unclaimed entries,
whatever they have carried before. -/
theorem ensures_updated (hservices : e.services ≠ []) (hw : (carrying books others e).holds w)
    {configuration : Properties}
    (hlatest : (books w.surroundings).latest = some configuration) :
    (Configurator.updated out e.configurator (some configuration)).Ensures w
      fun _ w' => (propagating books others e).holds w' := by
  have H : (carrying books others e).Admits e out := admits_carrying hout
  have hstands := hw.1.stands
  rw [Configurator.updated, Run.ensures_bind, Run.ensures_configurator, hstands.configurator,
    hstands.properties, Run.ensures_whileAlive_owned hstands.owned, Run.ensures_bind,
    Run.ensures_component]
  obtain ⟨hheld, hunaltered⟩ := H.slight (.hold w e.component) hw
  have hwrite : ∀ s ∈ e.services, ∀ field value,
      (carrying books others e).Keeps (Service.write out s field value) :=
    fun s hs field value => carrying_write hout hs field value
  refine (Run.ensures_bind _ _).mpr ((H.ensures_applyEntries hwrite (fun hleads => hleads.names) _
    configuration.entries hheld).mono ?_)
  rintro unmatched u ⟨hallows, rfl⟩
  obtain ⟨hu, hunaltered'⟩ := hallows hheld
  rw [Dictionary.ofList_filter configuration fun key => !e.claims (w.hold e.component) key]
  refine (ensures_propagate hout hservices hu _).mono ?_
  rintro _ v ⟨hv, hclaims, hknown, hremembered⟩
  have hpropagating : (propagating books others e).holds v := by
    refine ⟨hv, ?_⟩
    rw [hremembered, Ensemble.unclaimed, hknown, hunaltered'.latest, hunaltered.latest, hlatest,
      hclaims, hunaltered'.claims_eq]
    rfl
  exact ((admits_propagating hout).slight (.release v e.component) hpropagating).1

end Updates

theorem propagating_of_keeps {m : Run σ α} (hm : (carrying books others e).Keeps m) :
    (propagating books others e).Keeps m :=
  hm.weaken (fun _ hw => hw.1) fun _ _ => propagating_of_carrying

theorem propagating_of_idle (hidle : Idle books w w') :
    (propagating books others e).Allows w w' :=
  propagating_of_carrying (carrying_of_settled (settled_of_idle hidle))

/-- The state of the component is no matter to what is propagated. -/
theorem propagating_changeState (state : Validity) : (propagating books others e).Keeps
    (Run.changeComponent e.component fun c => { c with state := state }) := by
  intro w _
  rw [Run.ensures_changeComponent]
  apply propagating_of_carrying
  apply carrying_of_settled
  intro hw
  exact ⟨hw.of_service (hw.stands.changeComponent (fun _ => rfl) fun _ => rfl) rfl hw.ledger,
    ⟨fun _ => rfl, rfl, rfl⟩, rfl⟩

/-- There is nothing to heed in a change of state. -/
theorem propagating_heeds :
    (propagating books others e).Heeds e (.provider e.provider) fun _ => True where
  kept _ _ := trivial
  changed _ := .inl trivial
  absent _ _ := trivial
  admitted {w} state hw := (propagating_changeState state w hw () _ rfl hw).1
  leads _ _ _ := trivial

section Operations

variable {callbacks : World σ → World σ → Prop} {out : Collaborators σ}
  (hout : InMemory books callbacks out)
include hout

theorem propagating_registerService (s : Ref .service) (hs : s ∈ e.services)
    (className : String) :
    (propagating books others e).Keeps (Provider.registerService out className s) :=
  propagating_of_keeps (carrying_registerService hout hs className)

theorem propagating_unregisterService (s : Ref .service) (hs : s ∈ e.services)
    (className : String) :
    (propagating books others e).Keeps (Provider.unregisterService out className s) :=
  propagating_of_keeps (carrying_unregisterService hout hs className)

theorem ensures_provider_propagating (state : Validity) (w : World σ)
    (hw : (propagating books others e).holds w)
    (_hstate : (w.component e.component).state = state) :
    (Provider.stateChanged out e.provider state).Ensures w fun _ w' =>
      (propagating books others e).Allows w w' ∧ True := by
  have H : (propagating books others e).Admits e out := admits_propagating hout
  refine (H.tolerates.provider_stateChanged (propagating_registerService hout)
    (propagating_unregisterService hout) state w hw).mono ?_
  exact fun _ _ hallows => ⟨hallows, trivial⟩

/-- An update without a configuration changes nothing. -/
theorem propagating_updated_none :
    (propagating books others e).Keeps (Configurator.updated out e.configurator none) := by
  have H : (propagating books others e).Admits e out := admits_propagating hout
  refine H.configurator_bind fun before _ _ => H.tolerates.whileAlive fun component _ => ?_
  exact (Regime.keeps_component component).bind fun c => H.note _

variable (hcallbacks : ∀ w w', callbacks w w' → (propagating books others e).Allows w w')
include hcallbacks

theorem propagating_call (number : Nat) (component : Ref .component) :
    (propagating books others e).Keeps (out.call number component) := by
  intro w _
  refine (hout.call number component w).mono ?_
  intro _ w' hturn
  exact .of_turn (fun _ _ => propagating_of_idle) hcallbacks hturn

/-- Operations that deliver no configuration leave what is propagated, also if methods
are called within them that deliver some. -/
theorem propagating_operation {operation : Ensemble.Operation}
    (hother : ∀ configuration, operation ≠ .update (some configuration)) :
    (propagating books others e).Keeps (operation.run out e) := by
  have H : (propagating books others e).Admits e out := admits_propagating hout
  have K : (propagating books others e).Heeds e (.provider e.provider) fun _ => True :=
    propagating_heeds
  have hcall : ∀ number component, (propagating books others e).Keeps (out.call number component) :=
    propagating_call hout hcallbacks
  have htell : ∀ className transition,
      (propagating books others e).Keeps (out.tell (.stateChanged className transition)) :=
    fun _ _ => propagating_of_keeps (carrying_tell hout _)
  have htold := H.ensures_stateChanged (ensures_provider_propagating hout) hcall
  cases operation with
  | start =>
      exact H.component_start K htold htell
        (H.tolerates.provider_start (propagating_registerService hout))
  | stop =>
      refine H.tolerates.holding e.component (H.component_bind fun c hc => ?_)
      refine Regime.Keeps.bind ?_ fun _ => (propagating_changeState .invalid).bind fun _ => H.note _
      exact Regime.forM_handlers hc (H.tolerates.provider_stop (propagating_unregisterService hout))
        H.configurator_withdraw (H.tracked .invalid)
  | checkValidity =>
      exact H.component_checkValidity K htold htell
  | setState state =>
      exact H.component_setState K htold htell state
  | setField field value =>
      exact H.tolerates.component_setField
        (fun s hs field value => propagating_of_keeps (carrying_write hout hs field value))
        field value
  | update configuration =>
      cases configuration with
      | some configuration => exact absurd rfl (hother configuration)
      | none => exact propagating_updated_none hout

end Operations

theorem propagating_performs {out : Collaborators σ} (hservices : e.services ≠ [])
    (hout : Layered (e.Performs books) (InMemory books) out)
    (hperforms : e.Performs books out w w') : (propagating books others e).Allows w w' := by
  refine hout.acts_allowed ?_ w w' hperforms
  intro callbacks out hcallbacks hrule w w' hperforms hw
  cases hperforms with
  | operate operation hother hrun =>
      exact propagating_operation hrule hcallbacks hother w hw () w' hrun hw
  | @deliver configuration u hplatform hbooks hrun =>
      obtain ⟨⟨hsound, hcarries⟩, -⟩ := hw
      obtain ⟨-, hservice, -, -, hconfigurator, -⟩ := World.objects_of_platform hplatform
      have hu : (carrying books others e).holds u := by
        constructor
        · refine hsound.of_platform hplatform ?_
          rw [hbooks]
          exact hsound.ledger
        · rw [Carries, hservice, hconfigurator]
          exact hcarries
      have hlatest : (books u.surroundings).latest = some configuration := by rw [hbooks]
      exact ⟨ensures_updated hrule hservices hu hlatest () w' hrun, trivial⟩

/-- What is propagated follows the updates of an ensemble with services, over a registry
in memory that may refuse any call, after any operations and deliveries. The services
carry what the configurator remembers, which are the entries of the latest configuration
that no property claims, and show them over their declared properties. As long as the
registry has refused nothing the records of registered services show the same. -/
theorem propagation_follows_updates {out : Collaborators σ} {w₀ w₁ w₂ : World σ}
    (hout : Layered (e.Performs books) (InMemory books) out) (hassembled : e.Assembled out w₀ w₁)
    (hothers : (books w₀.surroundings).registry.Holds others)
    (hlatest : (books w₀.surroundings).latest = none) (hservices : e.services ≠ [])
    (hturn : Turn (Idle books) (e.Performs books out) w₁ w₂) :
    (w₂.configurator e.configurator).propagated = e.unclaimed books w₂ ∧
    ∀ s ∈ (w₂.provider e.provider).services,
      (w₂.service s).extras = (w₂.configurator e.configurator).propagated ∧
      (w₂.service s).visible =
        (Dictionary.ofList ((w₂.service s).properties.filterMap ServiceProperty.entry?)).override
          (e.unclaimed books w₂) ∧
      ((books w₂.surroundings).refused = false →
        ∀ handle, (w₂.service s).registration = some handle →
          ∃ record, (books w₂.surroundings).registry.record? handle = some record ∧
            record.properties = (w₂.service s).visible) := by
  obtain ⟨callbacks, hrule⟩ := hout.exists_rule
  obtain ⟨hnew, hbooks⟩ := hassembled.new hrule.log
  have hstart : (propagating books others e).holds w₁ := by
    refine ⟨⟨hnew.sound (hbooks ▸ hothers), fun s hs => ?_⟩, ?_⟩
    · rw [(hnew.fresh s hs).extras, hnew.propagated]
    · rw [hnew.propagated, Ensemble.unclaimed, hbooks, hlatest]
      rfl
  have hallows : (propagating books others e).Allows w₁ w₂ :=
    .of_turn (fun _ _ => propagating_of_idle) (fun _ _ => propagating_performs hservices hout) hturn
  obtain ⟨⟨⟨hsound, hcarries⟩, hremembered⟩, -⟩ := hallows hstart
  rw [hsound.stands.provider]
  refine ⟨hremembered, fun s hs => ⟨hcarries s hs, ?_, ?_⟩⟩
  · rw [Service.visible, hcarries s hs, hremembered]
  · intro hserved handle hheld
    exact ⟨_, (hsound.holds_cons hs hheld hserved).record?_eq List.mem_cons_self, rfl⟩

/-! ## An exchange -/

namespace Books

/-- Collaborators whose surroundings are their own books. -/
def collaborators : Collaborators Books :=
  .inMemory registry (fun after books => { books with registry := after })
    (fun event books => { books with events := books.events ++ [event] })
    fun _ => return .returned

/-- A configuration is noted as the latest one. -/
def deliver (configuration : Properties) (books : Books) : Books :=
  { books with latest := some configuration }

theorem layered_collaborators (e : Ensemble) :
    Layered (e.Performs id) (InMemory id) collaborators :=
  .bottom (inMemory_of_method (fun _ => rfl) (fun _ _ => rfl) (fun _ _ => rfl) fun _ _ =>
    (Run.ensures_pure _).mpr .refl)

/-- Books in which nothing is noted yet. -/
def blank : Books := ⟨.empty, [], false, none⟩

/-- A configuration that overrides the zone. -/
def former : Properties := .ofList [("rate", .text "2"), ("zone", .text "CET")]

/-- A configuration that says nothing of the zone. -/
def latter : Properties := .ofList [("rate", .text "3"), ("step", .text "1")]

end Books

/-- The zone is overridden before the service is registered, and is the declared one
again behind the second delivery. -/
theorem propagation_follows_updates_clock :
    ∃ w₁ w₂ w₃ w₄ : World Books,
      (Component.configure Books.collaborators ⟨0⟩
        [.provider ⟨0⟩, .configurator ⟨0⟩, .caller ⟨0⟩] .empty).run (.clock .blank) =
          some ((), w₁) ∧
      (Configurator.updated Books.collaborators ⟨0⟩ (some Books.former)).run
        (w₁.changeSurroundings (Books.deliver Books.former)) = some ((), w₂) ∧
      (Component.start Books.collaborators ⟨0⟩).run w₂ = some ((), w₃) ∧
      (Configurator.updated Books.collaborators ⟨0⟩ (some Books.latter)).run
        (w₃.changeSurroundings (Books.deliver Books.latter)) = some ((), w₄) ∧
      (w₂.service ⟨0⟩).extras.keys = ["zone"] ∧ (w₄.service ⟨0⟩).extras.keys = ["step"] ∧
      (w₄.surroundings.registry.record? ⟨1⟩).map ServiceRecord.properties =
        some (w₄.service ⟨0⟩).visible := by
  have hends : ((Component.configure Books.collaborators ⟨0⟩
      [.provider ⟨0⟩, .configurator ⟨0⟩, .caller ⟨0⟩] .empty).run (.clock .blank)).bind (fun first =>
        ((Configurator.updated Books.collaborators ⟨0⟩ (some Books.former)).run
          (first.2.changeSurroundings (Books.deliver Books.former))).bind fun second =>
            ((Component.start Books.collaborators ⟨0⟩).run second.2).bind fun third =>
              ((Configurator.updated Books.collaborators ⟨0⟩ (some Books.latter)).run
                (third.2.changeSurroundings (Books.deliver Books.latter))).map fun fourth =>
                  decide ((first.2.provider ⟨0⟩).services = [⟨0⟩] ∧
                    (first.2.configurator ⟨0⟩).properties = [⟨0⟩] ∧
                    (second.2.service ⟨0⟩).extras.keys = ["zone"] ∧
                    (fourth.2.service ⟨0⟩).extras.keys = ["step"] ∧
                    ⟨0⟩ ∈ (fourth.2.provider ⟨0⟩).services ∧
                    (fourth.2.service ⟨0⟩).registration = some ⟨1⟩ ∧
                    fourth.2.surroundings.refused = false)) = some true := by
    decide +kernel
  obtain ⟨⟨⟨⟩, w₁⟩, hconfigured, hends⟩ := Option.bind_eq_some_iff.mp hends
  obtain ⟨⟨⟨⟩, w₂⟩, hformer, hends⟩ := Option.bind_eq_some_iff.mp hends
  obtain ⟨⟨⟨⟩, w₃⟩, hstarted, hends⟩ := Option.bind_eq_some_iff.mp hends
  obtain ⟨⟨⟨⟩, w₄⟩, hlatter, hfacts⟩ := Option.map_eq_some_iff.mp hends
  obtain ⟨hservices, hproperties, hzone, hstep, hservice, hheld, hserved⟩ :=
    of_decide_eq_true hfacts
  have hfirst : Ensemble.clock.Performs id Books.collaborators w₁ w₂ :=
    .deliver (u := w₁.changeSurroundings (Books.deliver Books.former)) rfl rfl hformer
  have hsecond : Ensemble.clock.Performs id Books.collaborators w₂ w₃ :=
    .operate .start (by simp) hstarted
  have hthird : Ensemble.clock.Performs id Books.collaborators w₃ w₄ :=
    .deliver (u := w₃.changeSurroundings (Books.deliver Books.latter)) rfl rfl hlatter
  have hturn : Turn (Idle id) (Ensemble.clock.Performs id Books.collaborators) w₁ w₄ :=
    ((Relation.ReflTransGen.single (.inr hfirst)).tail (.inr hsecond)).tail (.inr hthird)
  obtain ⟨-, hcarried⟩ := propagation_follows_updates
    (Books.layered_collaborators Ensemble.clock)
    (Ensemble.assembled_clock (.refl _) hconfigured hservices hproperties)
    ⟨.refl [], .nil, Registry.numbered_empty⟩ rfl (List.cons_ne_nil _ _) hturn
  obtain ⟨-, -, hshown⟩ := hcarried ⟨0⟩ hservice
  obtain ⟨record, hrecord, hproperties⟩ := hshown hserved ⟨1⟩ hheld
  refine ⟨w₁, w₂, w₃, w₄, hconfigured, hformer, hstarted, hlatter, hzone, hstep, ?_⟩
  rw [show w₄.surroundings.registry.record? ⟨1⟩ = some record from hrecord, Option.map_some,
    hproperties]

end Componentry
