import Componentry.Proofs.Service.Pushing
import Componentry.Proofs.Update.Propagation

/-!
# Overlapping updates

A registry that is told of a service may deliver a further update before it answers. If both
updates replace propagated entries, the inner one takes what the outer one has put and puts
what the outer one then forgets: it goes on with the entries that it has read at its start,
and in the end the configurator remembers those of the outer one alone. What the inner one
has put stays on the services from then on, whatever is delivered later.

That is the only way. As long as no exchange of entries begins within another one, the
services carry what the configurator remembers, however deep operations and updates are
nested, and whatever the registry answers. While an exchange goes on nothing else touches
the entries, since an update within has none to put and none to take.
-/

namespace Componentry

variable {σ : Type}

/-! ## Watching updates -/

/-- What is seen of the updates under way: for each of them, the innermost one first, whether
it has come to replace entries, and whether any has ever done so within another. -/
structure Watch where
  updates : List Bool
  overlapped : Bool

namespace Watch

/-- An update is delivered. -/
def deliver (watch : Watch) : Watch := { watch with updates := false :: watch.updates }

/-- The innermost update has been applied. -/
def settle (watch : Watch) : Watch := { watch with updates := watch.updates.tail }

/-- The innermost update comes to replace entries. That happens once in an update. -/
def exchange (watch : Watch) : Watch :=
  match watch.updates with
  | false :: rest => ⟨true :: rest, watch.overlapped || rest.contains true⟩
  | updates => ⟨updates, true⟩

/-- A record is read. -/
def read (record : Log.Record) (watch : Watch) : Watch :=
  if record.Replaces then watch.exchange else watch

/-- From one watch to another one of the same updates, where at most the innermost of them
has come to replace entries, and only if no other had. -/
def Proceeds (watch watch' : Watch) : Prop :=
  watch'.updates = watch.updates ∨
    ∃ rest, watch.updates = false :: rest ∧ true ∉ rest ∧ watch'.updates = true :: rest

variable {watch watch' watch'' : Watch}

/-- An exchange that does not overlap another is the only one. -/
theorem of_exchange (hapart : watch.exchange.overlapped = false) :
    watch.overlapped = false ∧
      ∃ rest, watch.updates = false :: rest ∧ true ∉ rest ∧
        watch.exchange.updates = true :: rest := by
  obtain ⟨updates, overlapped⟩ := watch
  match updates with
  | false :: rest =>
      simp only [exchange, Bool.or_eq_false_iff, List.contains_eq_mem, decide_eq_false_iff_not]
        at hapart
      exact ⟨hapart.1, rest, rfl, hapart.2, rfl⟩
  | true :: rest => cases hapart
  | [] => cases hapart

theorem of_read {record : Log.Record} (hapart : (watch.read record).overlapped = false) :
    watch.overlapped = false ∧ watch.Proceeds (watch.read record) := by
  unfold read at hapart ⊢
  split at hapart
  next hreplaces =>
    rw [if_pos hreplaces]
    obtain ⟨hbefore, hbegun⟩ := of_exchange hapart
    exact ⟨hbefore, .inr hbegun⟩
  next hother =>
    rw [if_neg hother]
    exact ⟨hapart, .inl rfl⟩

namespace Proceeds

theorem trans (h : watch.Proceeds watch') (h' : watch'.Proceeds watch'') :
    watch.Proceeds watch'' := by
  rcases h with hsame | ⟨rest, hfirst, hrest, hbegun⟩
  · simpa only [Proceeds, hsame] using h'
  · rcases h' with hsame | ⟨rest', hfirst', -, -⟩
    · exact .inr ⟨rest, hfirst, hrest, hsame.trans hbegun⟩
    · rw [hbegun] at hfirst'
      cases hfirst'

/-- While an exchange goes on no other one begins. -/
theorem updates_eq (h : watch.Proceeds watch') (hgoing : true ∈ watch.updates) :
    watch'.updates = watch.updates := by
  rcases h with hsame | ⟨rest, hfirst, hrest, -⟩
  · exact hsame
  · rw [hfirst] at hgoing
    simp [hrest] at hgoing

theorem going (h : watch.Proceeds watch') (hgoing : true ∈ watch.updates) :
    true ∈ watch'.updates := by
  rwa [h.updates_eq hgoing]

/-- Once an update has been applied those around it are the same. -/
theorem settle (h : watch.deliver.Proceeds watch') : watch.Proceeds watch'.settle := by
  rcases h with hsame | ⟨rest, hfirst, -, hbegun⟩
  · exact .inl (congrArg List.tail hsame)
  · obtain ⟨-, rfl⟩ := List.cons.inj hfirst
    exact .inl (congrArg List.tail hbegun)

end Proceeds

end Watch

namespace Ensemble

/-- A configuration is delivered and applied. -/
def Delivers (watch : σ → Watch) (e : Ensemble) (out : Collaborators σ)
    (configuration : Properties) (w w' : World σ) : Prop :=
  ∃ u v : World σ, u.platform = w.platform ∧
    watch u.surroundings = (watch w.surroundings).deliver ∧
    ((Operation.update (some configuration)).run out e).run u = some ((), v) ∧
    w'.platform = v.platform ∧ watch w'.surroundings = (watch v.surroundings).settle

/-- What happens to an ensemble that is watched: an operation that delivers no configuration
ends, or a configuration is delivered and applied. -/
inductive Undergoes (watch : σ → Watch) (e : Ensemble) (out : Collaborators σ)
    (w w' : World σ) : Prop
  | operate (operation : Operation)
      (hother : ∀ configuration, operation ≠ .update (some configuration))
      (hrun : (operation.run out e).run w = some ((), w'))
  | deliver (configuration : Properties) (hdelivers : e.Delivers watch out configuration w w')

end Ensemble

/-- Collaborators that may call back whenever they are called, and answer as they like. The
log is read for exchanges. -/
structure Intervening (watch : σ → Watch) (callbacks : World σ → World σ → Prop)
    (out : Collaborators σ) : Prop where
  log : ∀ record t, watch (out.log record t) = (watch t).read record
  announce : ∀ event t, watch (out.announce event t) = watch t
  register : ∀ specifications properties factory w,
    (out.register specifications properties factory).Ensures w fun _ =>
      Turn (Idle watch) callbacks w
  unregister : ∀ handle w,
    (out.unregister handle).Ensures w fun _ => Turn (Idle watch) callbacks w
  update : ∀ handle properties w,
    (out.update handle properties).Ensures w fun _ => Turn (Idle watch) callbacks w
  publish : ∀ identity properties target w,
    (out.publish identity properties target).Ensures w fun _ => Turn (Idle watch) callbacks w
  withdraw : ∀ handle w,
    (out.withdraw handle).Ensures w fun _ => Turn (Idle watch) callbacks w
  call : ∀ number component w,
    (out.call number component).Ensures w fun _ => Turn (Idle watch) callbacks w

/-- No exchange has begun within another one. -/
def Apart (watch : σ → Watch) (w : World σ) : Prop := (watch w.surroundings).overlapped = false

/-- The services carry what the configurator remembers. -/
def Remembered (e : Ensemble) (w : World σ) : Prop :=
  Carries e (w.configurator e.configurator).propagated w

/-- What becomes of the entries of an ensemble, as far as no exchanges overlap: they stay what
they are while an exchange goes on, and those that are remembered stay remembered. -/
structure Overlooks (watch : σ → Watch) (e : Ensemble) (w w' : World σ) : Prop where
  names : ∀ r, (w'.property r).name = (w.property r).name
  apart : Apart watch w' → Apart watch w
  proceeds : Apart watch w' → (watch w.surroundings).Proceeds (watch w'.surroundings)
  unchanged : Apart watch w' → true ∈ (watch w.surroundings).updates →
    (w'.configurator e.configurator).propagated = (w.configurator e.configurator).propagated ∧
      ∀ s ∈ e.services, (w'.service s).extras = (w.service s).extras
  remembered : Apart watch w' → Remembered e w → Remembered e w'

namespace Overlooks

variable {watch : σ → Watch} {e : Ensemble} {u v w w' : World σ}

theorem refl (w : World σ) : Overlooks watch e w w where
  names _ := rfl
  apart := id
  proceeds _ := .inl rfl
  unchanged _ _ := ⟨rfl, fun _ _ => rfl⟩
  remembered _ := id

theorem trans (huv : Overlooks watch e u v) (hvw : Overlooks watch e v w) :
    Overlooks watch e u w where
  names r := (hvw.names r).trans (huv.names r)
  apart hapart := huv.apart (hvw.apart hapart)
  proceeds hapart := (huv.proceeds (hvw.apart hapart)).trans (hvw.proceeds hapart)
  unchanged hapart hgoing := by
    obtain ⟨hpropagated, hextras⟩ := huv.unchanged (hvw.apart hapart) hgoing
    obtain ⟨hpropagated', hextras'⟩ :=
      hvw.unchanged hapart ((huv.proceeds (hvw.apart hapart)).going hgoing)
    constructor
    · exact hpropagated'.trans hpropagated
    · exact fun s hs => (hextras' s hs).trans (hextras s hs)
  remembered hapart hremembered :=
    hvw.remembered hapart (huv.remembered (hvw.apart hapart) hremembered)

/-- A step that has nothing to do with the entries. -/
theorem of_kept (hnames : ∀ r, (w'.property r).name = (w.property r).name)
    (hpropagated : (w'.configurator e.configurator).propagated =
      (w.configurator e.configurator).propagated)
    (hextras : ∀ s, (w'.service s).extras = (w.service s).extras)
    (hproceeds : Apart watch w' →
      Apart watch w ∧ (watch w.surroundings).Proceeds (watch w'.surroundings)) :
    Overlooks watch e w w' where
  names := hnames
  apart hapart := (hproceeds hapart).1
  proceeds hapart := (hproceeds hapart).2
  unchanged _ _ := ⟨hpropagated, fun s _ => hextras s⟩
  remembered _ hremembered s hs := by
    rw [hextras, hpropagated]
    exact hremembered s hs

/-- A step aside from the platform that the watch proceeds in. -/
theorem of_platform (hplatform : w'.platform = w.platform)
    (hproceeds : Apart watch w' →
      Apart watch w ∧ (watch w.surroundings).Proceeds (watch w'.surroundings)) :
    Overlooks watch e w w' := by
  obtain ⟨-, hservice, hproperty, -, hconfigurator, -⟩ := World.objects_of_platform hplatform
  apply of_kept _ _ _ hproceeds
  · simp [hproperty]
  · rw [hconfigurator]
  · simp [hservice]

/-- An update that was delivered, applied and settled. -/
theorem of_delivered (hw : u.platform = w.platform)
    (hdelivered : watch u.surroundings = (watch w.surroundings).deliver)
    (huv : Overlooks watch e u v) (hw' : w'.platform = v.platform)
    (hsettled : watch w'.surroundings = (watch v.surroundings).settle) :
    Overlooks watch e w w' := by
  obtain ⟨-, hservice, hproperty, -, hconfigurator, -⟩ := World.objects_of_platform hw
  obtain ⟨-, hservice', hproperty', -, hconfigurator', -⟩ := World.objects_of_platform hw'
  have hapart : Apart watch w' → Apart watch v := by
    intro hapart
    rwa [Apart, hsettled] at hapart
  have hbefore : Apart watch u → Apart watch w := by
    intro hapart
    rwa [Apart, hdelivered] at hapart
  refine ⟨?_, ?_, ?_, ?_, ?_⟩
  · intro r
    rw [hproperty', huv.names, hproperty]
  · exact fun happart => hbefore (huv.apart (hapart happart))
  · intro happart
    have hproceeds := huv.proceeds (hapart happart)
    rw [hdelivered] at hproceeds
    rw [hsettled]
    exact hproceeds.settle
  · intro happart hgoing
    have hgoing' : true ∈ (watch u.surroundings).updates := by
      rw [hdelivered]
      exact List.mem_cons_of_mem _ hgoing
    have hunchanged := huv.unchanged (hapart happart) hgoing'
    rwa [hservice, hconfigurator, ← hservice', ← hconfigurator'] at hunchanged
  · intro happart hremembered
    have hafter : Remembered e v := by
      apply huv.remembered (hapart happart)
      rw [Remembered, Carries, hservice, hconfigurator]
      exact hremembered
    rw [Remembered, Carries, hservice', hconfigurator']
    exact hafter

end Overlooks

/-- The regime of all that happens to an ensemble that is watched. -/
def overlooking (watch : σ → Watch) (e : Ensemble) : Regime σ where
  holds := e.Stands
  leads := Overlooks watch e
  refl := .refl
  trans := .trans

/-- The regime of what happens while an exchange goes on. -/
def swapping (watch : σ → Watch) (e : Ensemble) : Regime σ where
  holds w := e.Stands w ∧ (Apart watch w → true ∈ (watch w.surroundings).updates)
  leads w w' := (∀ r, (w'.property r).name = (w.property r).name) ∧
    (Apart watch w' →
      Apart watch w ∧ (watch w'.surroundings).updates = (watch w.surroundings).updates)
  refl _ := ⟨fun _ => rfl, fun hapart => ⟨hapart, rfl⟩⟩
  trans huv hvw := by
    refine ⟨fun r => (hvw.1 r).trans (huv.1 r), fun hapart => ?_⟩
    obtain ⟨hbetween, hsame⟩ := hvw.2 hapart
    obtain ⟨hbefore, hsame'⟩ := huv.2 hbetween
    exact ⟨hbefore, hsame.trans hsame'⟩

section Regimes

variable {watch : σ → Watch} {e : Ensemble} {w w' : World σ}

theorem overlooking_of_idle (hidle : Idle watch w w') : (overlooking watch e).Allows w w' := by
  intro hw
  refine ⟨hw.of_platform hidle.1, .of_platform hidle.1 fun hapart => ?_⟩
  rw [Apart, hidle.2] at hapart
  exact ⟨hapart, .inl (by rw [hidle.2])⟩

theorem overlooking_of_quiet (hquiet : Quiet w w') : (overlooking watch e).Allows w w' := by
  intro hw
  refine ⟨hw.of_quiet hquiet, .of_kept hquiet.propertyName (hquiet.propagated _) ?_ ?_⟩
  · simp [hquiet.service]
  · intro hapart
    rw [Apart, hquiet.surroundings] at hapart
    exact ⟨hapart, .inl (by rw [hquiet.surroundings])⟩

theorem overlooking_setService {s : Ref .service} {service : Service}
    (hextras : service.extras = (w.service s).extras) :
    (overlooking watch e).Allows w (w.setService s service) := by
  intro hw
  refine ⟨hw.of_setService rfl, .of_kept (fun _ => rfl) rfl ?_ fun hapart => ⟨hapart, .inl rfl⟩⟩
  intro t
  by_cases hts : t = s
  · simp [hts, hextras]
  · simp [hts]

theorem swapping_of_overlooking (hallows : (overlooking watch e).Allows w w') :
    (swapping watch e).Allows w w' := by
  rintro ⟨hw, hgoing⟩
  obtain ⟨hw', hoverlooks⟩ := hallows hw
  have hsame : Apart watch w' → (watch w'.surroundings).updates = (watch w.surroundings).updates :=
    fun hapart => (hoverlooks.proceeds hapart).updates_eq (hgoing (hoverlooks.apart hapart))
  refine ⟨⟨hw', fun hapart => ?_⟩, hoverlooks.names, fun hapart => ?_⟩
  · rw [hsame hapart]
    exact hgoing (hoverlooks.apart hapart)
  · exact ⟨hoverlooks.apart hapart, hsame hapart⟩

end Regimes

section Layer

variable {watch : σ → Watch} {e : Ensemble} {w w' : World σ}
  {callbacks : World σ → World σ → Prop} {out : Collaborators σ}
  (hout : Intervening watch callbacks out)
  (hcallbacks : ∀ w w', callbacks w w' → (overlooking watch e).Allows w w')

include hout in
theorem overlooking_note (record : Log.Record) :
    (overlooking watch e).Keeps (out.note record) := by
  intro w _
  rw [Run.ensures_note]
  intro hw
  refine ⟨hw.of_platform rfl, .of_platform rfl fun hapart => ?_⟩
  have hlog : watch (out.log record w.surroundings) = (watch w.surroundings).read record :=
    hout.log record _
  rw [Apart, World.surroundings_changeSurroundings, hlog] at hapart
  rw [World.surroundings_changeSurroundings, hlog]
  exact Watch.of_read hapart

include hcallbacks in
theorem overlooking_of_turn (hturn : Turn (Idle watch) callbacks w w') :
    (overlooking watch e).Allows w w' :=
  .of_turn (fun _ _ => overlooking_of_idle) hcallbacks hturn

include hout hcallbacks

theorem overlooking_update (handle : Registration) (properties : Properties) :
    (overlooking watch e).Keeps (out.update handle properties) := by
  intro w _
  exact (hout.update handle properties w).mono fun _ _ => overlooking_of_turn hcallbacks

theorem admits_overlooking : (overlooking watch e).Admits e out where
  stands := id
  quiet := overlooking_of_quiet
  note := overlooking_note hout
  published className identity w _ := by
    rw [Run.ensures_tell]
    exact overlooking_of_idle ⟨rfl, hout.announce _ _⟩
  withdrawn className identity w _ := by
    rw [Run.ensures_tell]
    exact overlooking_of_idle ⟨rfl, hout.announce _ _⟩
  publish _ _ _ w _ := (hout.publish _ _ _ w).mono fun _ _ => overlooking_of_turn hcallbacks
  withdraw _ w _ := (hout.withdraw _ w).mono fun _ _ => overlooking_of_turn hcallbacks

theorem overlooking_register (s : Ref .service) :
    (overlooking watch e).Keeps (Service.register out s) := by
  apply Regime.keeps_register (overlooking_update hout hcallbacks)
  · intro specifications properties factory w _
    exact (hout.register _ _ _ w).mono fun _ _ => overlooking_of_turn hcallbacks
  · exact fun _ _ => overlooking_setService rfl

theorem overlooking_unregister (s : Ref .service) :
    (overlooking watch e).Keeps (Service.unregister out s) := by
  apply Regime.keeps_unregister
  · intro handle w _
    exact (hout.unregister handle w).mono fun _ _ => overlooking_of_turn hcallbacks
  · exact fun _ => overlooking_setService rfl

theorem overlooking_write (s : Ref .service) (field : String) (value : Value) :
    (overlooking watch e).Keeps (Service.write out s field value) := by
  apply Regime.keeps_write (overlooking_update hout hcallbacks)
  exact fun _ _ hextras => overlooking_setService hextras

/-! ## Exchanges that do not overlap -/

/-- While an exchange goes on, what it puts on a service is all that becomes of entries. -/
theorem exchanged_commit {s : Ref .service} (hs : s ∈ e.services) (changed : Service)
    (hw : (swapping watch e).holds w) :
    (Service.commit out s changed).Ensures w fun _ =>
      (swapping watch e).Exchanged (Apart watch) e s changed.extras w := by
  simp only [Service.commit, Run.ensures_bind, Run.ensures_setService]
  have hstands : e.Stands (w.setService s changed) := hw.1.of_setService rfl
  have hset : (swapping watch e).holds (w.setService s changed) := ⟨hstands, hw.2⟩
  -- Whatever is called back while the registry is told, no other exchange begins if the world
  -- is apart in the end, so the entries stay as they were put.
  refine (Regime.keeps_push (overlooking_update hout hcallbacks) _ _ _ hstands).mono ?_
  intro _ w' hallows
  obtain ⟨-, hoverlooks⟩ := hallows hstands
  obtain ⟨hholds, hleads⟩ := swapping_of_overlooking hallows hset
  have hextras : Apart watch w' → ∀ t ∈ e.services,
      (w'.service t).extras = ((w.setService s changed).service t).extras :=
    fun hapart => (hoverlooks.unchanged hapart (hset.2 (hoverlooks.apart hapart))).2
  refine ⟨hholds, hleads, fun hapart => ?_, fun hapart t ht hts => ?_⟩
  · rw [hextras hapart s hs]
    simp
  · rw [hextras hapart t ht]
    simp [hts]

theorem admits_swapping : (swapping watch e).Admits e out :=
  (admits_overlooking hout hcallbacks).weaken (fun _ hw => hw.1) fun _ _ => swapping_of_overlooking

theorem exchanges_swapping : (swapping watch e).Exchanges e out (Apart watch) where
  toBears := (admits_swapping hout hcallbacks).toBears
  calmed hleads hapart := (hleads.2 hapart).1
  extend s hs entries w hw := by
    rw [← Service.extras_extended?]
    simp only [Service.extend, Run.ensures_bind, Run.ensures_service]
    split
    next hnone =>
      rw [hnone, Run.ensures_pure]
      exact .refl hw s
    next changed hsome =>
      rw [hsome]
      exact exchanged_commit hout hcallbacks hs changed hw
  reduce s hs entries w hw := by
    rw [← Service.extras_reduced?]
    simp only [Service.reduce, Run.ensures_bind, Run.ensures_service]
    split
    next hnone =>
      rw [hnone, Run.ensures_pure]
      exact .refl hw s
    next changed hsome =>
      rw [hsome]
      exact exchanged_commit hout hcallbacks hs changed hw

/-- Entries that are propagated are remembered then, and carried by the services if the ones
before were, unless another exchange has begun meanwhile. -/
theorem ensures_propagate_apart (hservices : e.services ≠ []) (hw : e.Stands w)
    (entries : Properties) :
    (Configurator.propagate out e.configurator e.component entries).Ensures w fun _ w' =>
      (overlooking watch e).Allows w w' ∧
        (Apart watch w' → (w'.configurator e.configurator).propagated = entries) := by
  have H : (swapping watch e).Exchanges e out (Apart watch) := exchanges_swapping hout hcallbacks
  -- The record that announces the exchange is where it begins.
  have hbegun : ∀ record : Log.Record, record.Replaces →
      Apart watch (w.changeSurroundings (out.log record)) → Apart watch w ∧
        ∃ rest, (watch w.surroundings).updates = false :: rest ∧ true ∉ rest ∧
          (watch (out.log record w.surroundings)).updates = true :: rest := by
    intro record hreplaces hapart
    have hlog : watch (out.log record w.surroundings) = (watch w.surroundings).exchange := by
      rw [hout.log, Watch.read, if_pos hreplaces]
    rw [Apart, World.surroundings_changeSurroundings, hlog] at hapart
    rw [hlog]
    exact Watch.of_exchange hapart
  refine (H.ensures_propagate hservices hw entries fun record hreplaces => ?_).mono ?_
  · refine ⟨hw.of_platform rfl, fun hapart => ?_⟩
    obtain ⟨-, rest, -, -, hgoing⟩ := hbegun record hreplaces hapart
    rw [World.surroundings_changeSurroundings, hgoing]
    exact List.mem_cons_self
  · rintro _ w' (⟨rfl, hnone⟩ | ⟨record, hreplaces, u, hrenewed, rfl⟩)
    · exact ⟨.refl _, fun _ => hnone⟩
    · obtain ⟨⟨hu, -⟩, hleads, hcarries⟩ := hrenewed
      refine ⟨fun _ => ⟨hu.changeConfigurator (fun _ => rfl) fun _ => rfl, ?_⟩, fun _ => by simp⟩
      refine ⟨hleads.1, fun hapart => ?_, fun hapart => ?_, fun hapart hgoing => ?_,
        fun hapart hremembered => ?_⟩
      · exact (hbegun record hreplaces (hleads.2 hapart).1).1
      · obtain ⟨hnoted, hsame⟩ := hleads.2 hapart
        obtain ⟨-, rest, hfirst, hrest, hgoing⟩ := hbegun record hreplaces hnoted
        exact .inr ⟨rest, hfirst, hrest, hsame.trans hgoing⟩
      · obtain ⟨-, rest, hfirst, hrest, -⟩ := hbegun record hreplaces (hleads.2 hapart).1
        rw [hfirst] at hgoing
        simp [hrest] at hgoing
      · rw [Remembered, World.configurator_changeConfigurator, if_pos rfl]
        exact hcarries hapart hremembered

theorem tends_overlooking (hservices : e.services ≠ []) :
    (overlooking watch e).Tends e out := by
  have H : (overlooking watch e).Admits e out := admits_overlooking hout hcallbacks
  exact
    { H.tolerates with
      state := fun state w _ => by
        rw [Run.ensures_changeComponent]
        exact fun hw => ⟨hw.changeComponent (fun _ => rfl) fun _ => rfl,
          .of_kept (fun _ => rfl) rfl (fun _ => rfl) fun hapart => ⟨hapart, .inl rfl⟩⟩
      tracked := H.tracked
      tell := fun event w _ => by
        rw [Run.ensures_tell]
        exact overlooking_of_idle ⟨rfl, hout.announce event _⟩
      call := fun number component w _ =>
        (hout.call number component w).mono fun _ _ => overlooking_of_turn hcallbacks
      publish := H.configurator_publish
      withdraw := H.configurator_withdraw
      register := fun s _ => overlooking_register hout hcallbacks s
      unregister := fun s _ => overlooking_unregister hout hcallbacks s
      write := fun s _ => overlooking_write hout hcallbacks s
      propagate := fun entries w hw =>
        (ensures_propagate_apart hout hcallbacks hservices hw entries).mono fun _ _ h => h.1 }

/-- Behind an update the configurator remembers the entries that no property claims, unless
exchanges have overlapped. -/
theorem ensures_updated_apart (hservices : e.services ≠ []) (hw : e.Stands w)
    (configuration : Properties) :
    (Configurator.updated out e.configurator (some configuration)).Ensures w fun _ w' =>
      (overlooking watch e).Allows w w' ∧ (Apart watch w' →
        (w'.configurator e.configurator).propagated =
          configuration.keep fun key => !e.claims w key) := by
  have H : (overlooking watch e).Admits e out := admits_overlooking hout hcallbacks
  rw [Configurator.updated, Run.ensures_bind, Run.ensures_configurator, hw.configurator,
    hw.properties, Run.ensures_whileAlive_owned hw.owned, Run.ensures_bind, Run.ensures_component]
  have hhold : (overlooking watch e).Allows w (w.hold e.component) := H.slight (.hold w _)
  obtain ⟨hheld, hleads⟩ := hhold hw
  refine (Run.ensures_bind _ _).mpr ((H.ensures_applyEntries
    (fun s _ => overlooking_write hout hcallbacks s) (fun hleads => hleads.names) _
    configuration.entries hheld).mono ?_)
  rintro unmatched u ⟨happlied, rfl⟩
  rw [Dictionary.ofList_filter configuration fun key => !e.claims (w.hold e.component) key,
    Ensemble.claims_congr hleads.names]
  refine (ensures_propagate_apart hout hcallbacks hservices (happlied hheld).1 _).mono ?_
  rintro _ v ⟨hpropagated, hremembers⟩
  have hrelease : (overlooking watch e).Allows v (v.release e.component) := H.slight (.release v _)
  refine ⟨((hhold.trans happlied).trans hpropagated).trans hrelease, fun hapart => ?_⟩
  have hv := ((hhold.trans happlied).trans hpropagated) hw
  exact hremembers ((hrelease hv.1).2.apart hapart)

theorem ensures_delivers (hservices : e.services ≠ []) (hw : e.Stands w)
    {configuration : Properties} (hdelivers : e.Delivers watch out configuration w w') :
    (overlooking watch e).Allows w w' ∧ (Apart watch w' →
      (w'.configurator e.configurator).propagated =
        configuration.keep fun key => !e.claims w key) := by
  obtain ⟨u, v, hplatform, hdelivered, hrun, hplatform', hsettled⟩ := hdelivers
  have hu : e.Stands u := hw.of_platform hplatform
  obtain ⟨hallows, hremembers⟩ :=
    ensures_updated_apart hout hcallbacks hservices hu configuration () v hrun
  obtain ⟨hv, hoverlooks⟩ := hallows hu
  refine ⟨fun _ => ⟨hv.of_platform hplatform',
    .of_delivered hplatform hdelivered hoverlooks hplatform' hsettled⟩, fun hapart => ?_⟩
  -- What is delivered is delivered to the same platform, where the same names are claimed.
  have hclaims : e.claims u = e.claims w := by
    apply Ensemble.claims_congr
    rw [(World.objects_of_platform hplatform).2.2.1]
    exact fun _ => rfl
  rw [(World.objects_of_platform hplatform').2.2.2.2.1, ← hclaims]
  apply hremembers
  rwa [Apart, hsettled] at hapart

end Layer

section Undergoing

variable {watch : σ → Watch} {e : Ensemble} {w w' : World σ} {out : Collaborators σ}
  (hservices : e.services ≠ [])
include hservices

theorem overlooking_of_layer {callbacks : World σ → World σ → Prop}
    (hcallbacks : ∀ w w', callbacks w w' → (overlooking watch e).Allows w w')
    (hrule : Intervening watch callbacks out) (hundergoes : e.Undergoes watch out w w') :
    (overlooking watch e).Allows w w' := by
  intro hw
  cases hundergoes with
  | operate operation _ hrun =>
      exact (tends_overlooking hrule hcallbacks hservices).operation operation w hw () w' hrun hw
  | deliver configuration hdelivers =>
      exact (ensures_delivers hrule hcallbacks hservices hw hdelivers).1 hw

/-- The services of an ensemble carry what its configurator remembers, after any operations
and updates and whatever is delivered within them, as long as no exchange of entries has
begun within another one. An update that follows, and that no exchange overlaps either,
leaves them with its own unclaimed entries, so with none if all are claimed. -/
theorem propagated_unless_overlapped {w₀ w₁ w₂ : World σ}
    (hout : Layered (e.Undergoes watch) (Intervening watch) out)
    (hassembled : e.Assembled out w₀ w₁)
    (hturn : Turn (Idle watch) (e.Undergoes watch out) w₁ w₂)
    (hapart : (watch w₂.surroundings).overlapped = false) :
    (∀ s ∈ (w₂.provider e.provider).services,
      (w₂.service s).extras = (w₂.configurator e.configurator).propagated) ∧
    ∀ configuration w₃, e.Delivers watch out configuration w₂ w₃ →
      (watch w₃.surroundings).overlapped = false →
      ∀ s ∈ (w₃.provider e.provider).services,
        (w₃.service s).extras = configuration.keep fun key => !e.claims w₂ key := by
  have hlayer : ∀ callbacks out,
      (∀ w w', callbacks w w' → (overlooking watch e).Allows w w') →
      Intervening watch callbacks out →
      ∀ w w', e.Undergoes watch out w w' → (overlooking watch e).Allows w w' :=
    fun _ _ hcallbacks hrule _ _ => overlooking_of_layer hservices hcallbacks hrule
  obtain ⟨callbacks, hcallbacks, hrule⟩ := hout.exists_rule_allowed hlayer
  have hunseen : ∀ record t, Function.const σ () (out.log record t) = Function.const σ () t :=
    fun _ _ => rfl
  obtain ⟨hnew, -⟩ := hassembled.new hunseen
  have hallows : (overlooking watch e).Allows w₁ w₂ := by
    apply Regime.Allows.of_turn (fun _ _ => overlooking_of_idle) _ hturn
    exact hlayer callbacks out hcallbacks hrule
  obtain ⟨hstands, hoverlooks⟩ := hallows hnew.stands
  have hremembered : Remembered e w₂ := by
    apply hoverlooks.remembered hapart
    intro s hs
    rw [(hnew.fresh s hs).extras, hnew.propagated]
  constructor
  · rw [hstands.provider]
    exact hremembered
  · intro configuration w₃ hdelivers hapart'
    obtain ⟨hallows', hremembers⟩ :=
      ensures_delivers hrule hcallbacks hservices hstands hdelivers
    obtain ⟨hstands', hoverlooks'⟩ := hallows' hstands
    rw [hstands'.provider, ← hremembers hapart']
    exact hoverlooks'.remembered hapart' hremembered

end Undergoing

/-! ## A registry that delivers updates -/

/-- A registry, what is seen of the updates, and how often the registry was told of a
service. -/
structure Bureau where
  registry : Registry
  watch : Watch
  told : Nat

namespace Bureau

/-- A bureau in which nothing has happened. -/
def empty : Bureau := ⟨.empty, ⟨[], false⟩, 0⟩

/-- Keep another registry. -/
def store (after : Registry) (bureau : Bureau) : Bureau := { bureau with registry := after }

/-- Look at the updates again. -/
def look (f : Watch → Watch) (bureau : Bureau) : Bureau := { bureau with watch := f bureau.watch }

/-- Collaborators in memory that deliver nothing. -/
def waiting : Collaborators Bureau :=
  { Collaborators.inMemory Bureau.registry store (fun _ bureau => bureau)
      fun _ => return .returned with
    log := fun record => look (Watch.read record)
    rounds := 4 }

/-- Deliver a configuration. -/
def deliver (below : Collaborators Bureau) (configuration : Properties) : Run Bureau Unit := do
  Run.changeSurroundings (look Watch.deliver)
  (Ensemble.Operation.update (some configuration)).run below .clock
  Run.changeSurroundings (look Watch.settle)

/-- Collaborators whose registry, when it is told of a service for the given time, delivers a
configuration before it answers. -/
def delivering (number : Nat) (configuration : Properties) : Collaborators Bureau :=
  { waiting with
    update := fun handle properties => do
      Run.changeSurroundings fun bureau => { bureau with told := bureau.told + 1 }
      if (← Run.surroundings).told = number then deliver waiting configuration
      waiting.update handle properties }

theorem ensures_deliver (below : Collaborators Bureau) (configuration : Properties)
    (w : World Bureau) : (deliver below configuration).Ensures w fun _ =>
      Ensemble.clock.Delivers Bureau.watch below configuration w := by
  simp only [deliver, Run.ensures_bind, Run.ensures_changeSurroundings]
  intro _ v hrun
  exact ⟨w.changeSurroundings (look Watch.deliver), v, rfl, rfl, hrun, rfl, rfl⟩

theorem turn_askRegistry {α : Type} {callbacks : World Bureau → World Bureau → Prop}
    (ask : Registry → Except Failure (α × Registry)) (w : World Bureau) :
    (askRegistry Bureau.registry store ask).Ensures w fun _ =>
      Turn (Idle Bureau.watch) callbacks w := by
  simp only [askRegistry, Run.ensures_bind, Run.ensures_surroundings]
  split
  · simp only [Run.ensures_bind, Run.ensures_changeSurroundings, Run.ensures_pure]
    exact .single (.inl ⟨rfl, rfl⟩)
  · exact (Run.ensures_pure _).mpr .refl

theorem intervening_waiting {callbacks : World Bureau → World Bureau → Prop} :
    Intervening Bureau.watch callbacks waiting where
  log _ _ := rfl
  announce _ _ := rfl
  register specifications properties factory :=
    turn_askRegistry (·.register specifications properties factory)
  unregister handle := turn_askRegistry (·.askUnregister handle)
  update handle properties := turn_askRegistry (·.askUpdate handle properties)
  publish _ _ _ _ := (Run.ensures_pure _).mpr .refl
  withdraw _ _ := (Run.ensures_pure _).mpr .refl
  call _ _ _ := (Run.ensures_pure _).mpr .refl

theorem layered_delivering (number : Nat) (configuration : Properties) :
    Layered (Ensemble.clock.Undergoes Bureau.watch) (Intervening Bureau.watch)
      (delivering number configuration) := by
  refine .above (.bottom intervening_waiting) { intervening_waiting with update := ?_ }
  intro handle properties w
  simp only [delivering, Run.ensures_bind, Run.ensures_changeSurroundings,
    Run.ensures_surroundings]
  have hcounted : Turn (Idle Bureau.watch) (Ensemble.clock.Undergoes Bureau.watch waiting) w
      (w.changeSurroundings fun bureau => { bureau with told := bureau.told + 1 }) :=
    .single (.inl ⟨rfl, rfl⟩)
  have hanswered : ∀ u, Turn (Idle Bureau.watch) (Ensemble.clock.Undergoes Bureau.watch waiting) w u →
      (waiting.update handle properties).Ensures u fun _ =>
        Turn (Idle Bureau.watch) (Ensemble.clock.Undergoes Bureau.watch waiting) w :=
    fun u hu => (turn_askRegistry (·.askUpdate handle properties) u).mono fun _ _ => hu.trans
  split
  · rw [Run.ensures_bind]
    refine (ensures_deliver waiting configuration _).mono ?_
    intro _ u hdelivers
    exact hanswered u (hcounted.tail (.inr (.deliver configuration hdelivers)))
  · exact hanswered _ hcounted

/-- A configuration with an entry that no property claims. -/
def former : Properties := .ofList [("rate", .text "2"), ("step", .text "1")]

/-- A configuration whose entries are all claimed. -/
def latter : Properties := .ofList [("rate", .text "3")]

/-- A configuration with another entry that no property claims. -/
def inner : Properties := .ofList [("phase", .text "0")]

end Bureau

/-- A configuration is delivered while another one is being applied, and has nothing to put.
What the other one puts is carried, and gone once an update has nothing to put either. -/
theorem propagated_unless_overlapped_delivering :
    ∃ w₁ w₂ w₃ w₄ : World Bureau,
      (Component.configure (Bureau.delivering 1 Bureau.latter) ⟨0⟩
        [.provider ⟨0⟩, .configurator ⟨0⟩, .caller ⟨0⟩] .empty).run (.clock .empty) =
          some ((), w₁) ∧
      (Component.start (Bureau.delivering 1 Bureau.latter) ⟨0⟩).run w₁ = some ((), w₂) ∧
      (Bureau.deliver (Bureau.delivering 1 Bureau.latter) Bureau.former).run w₂ =
        some ((), w₃) ∧
      (Bureau.deliver (Bureau.delivering 1 Bureau.latter) Bureau.latter).run w₃ =
        some ((), w₄) ∧
      (w₃.service ⟨0⟩).extras = (w₃.configurator ⟨0⟩).propagated ∧
      (w₃.configurator ⟨0⟩).propagated.keys = ["step"] ∧ (w₄.service ⟨0⟩).extras.keys = [] := by
  have hends : ((Component.configure (Bureau.delivering 1 Bureau.latter) ⟨0⟩
      [.provider ⟨0⟩, .configurator ⟨0⟩, .caller ⟨0⟩] .empty).run (.clock .empty)).bind
        (fun first => ((Component.start (Bureau.delivering 1 Bureau.latter) ⟨0⟩).run first.2).bind
          fun second => ((Bureau.deliver (Bureau.delivering 1 Bureau.latter) Bureau.former).run
            second.2).bind fun third =>
              ((Bureau.deliver (Bureau.delivering 1 Bureau.latter) Bureau.latter).run third.2).map
                fun fourth =>
                  decide ((first.2.provider ⟨0⟩).services = [⟨0⟩] ∧
                    (first.2.configurator ⟨0⟩).properties = [⟨0⟩] ∧
                    ⟨0⟩ ∈ (third.2.provider ⟨0⟩).services ∧
                    third.2.surroundings.watch.overlapped = false ∧
                    (third.2.configurator ⟨0⟩).propagated.keys = ["step"] ∧
                    ⟨0⟩ ∈ (fourth.2.provider ⟨0⟩).services ∧
                    fourth.2.surroundings.watch.overlapped = false ∧
                    (Bureau.latter.keep fun key => !Ensemble.clock.claims third.2 key).keys =
                      [])) = some true := by
    decide +kernel
  obtain ⟨⟨⟨⟩, w₁⟩, hconfigured, hends⟩ := Option.bind_eq_some_iff.mp hends
  obtain ⟨⟨⟨⟩, w₂⟩, hstarted, hends⟩ := Option.bind_eq_some_iff.mp hends
  obtain ⟨⟨⟨⟩, w₃⟩, hformer, hends⟩ := Option.bind_eq_some_iff.mp hends
  obtain ⟨⟨⟨⟩, w₄⟩, hlatter, hfacts⟩ := Option.map_eq_some_iff.mp hends
  obtain ⟨hservices, hproperties, hthird, hapart, hkeys, hfourth, hapart', hnone⟩ :=
    of_decide_eq_true hfacts
  have hdelivers : Ensemble.clock.Delivers Bureau.watch (Bureau.delivering 1 Bureau.latter)
      Bureau.former w₂ w₃ := Bureau.ensures_deliver _ _ w₂ () w₃ hformer
  have hdelivers' : Ensemble.clock.Delivers Bureau.watch (Bureau.delivering 1 Bureau.latter)
      Bureau.latter w₃ w₄ := Bureau.ensures_deliver _ _ w₃ () w₄ hlatter
  have hturn : Turn (Idle Bureau.watch) (Ensemble.clock.Undergoes Bureau.watch
      (Bureau.delivering 1 Bureau.latter)) w₁ w₃ :=
    (Relation.ReflTransGen.single (.inr (.operate .start (by simp) hstarted))).tail
      (.inr (.deliver Bureau.former hdelivers))
  obtain ⟨hcarried, hgone⟩ := propagated_unless_overlapped (List.cons_ne_nil _ _)
    (Bureau.layered_delivering 1 Bureau.latter)
    (Ensemble.assembled_clock (.refl _) hconfigured hservices hproperties) hturn hapart
  refine ⟨w₁, w₂, w₃, w₄, hconfigured, hstarted, hformer, hlatter, hcarried ⟨0⟩ hthird, hkeys, ?_⟩
  rw [hgone Bureau.latter w₄ hdelivers' hapart' ⟨0⟩ hfourth]
  exact hnone

/-- Entries may be forgotten: a configuration that is delivered while another one is being
propagated leaves its entry on the service behind an update that has none. -/
theorem entry_forgotten :
    ¬ ∀ (number : Nat) (configuration : Properties) (w₁ w₂ : World Bureau),
      Ensemble.clock.Assembled (Bureau.delivering number configuration) (.clock .empty) w₁ →
      Turn (Idle Bureau.watch)
        (Ensemble.clock.Undergoes Bureau.watch (Bureau.delivering number configuration)) w₁ w₂ →
      ∀ s ∈ (w₂.provider ⟨0⟩).services,
        (w₂.service s).extras = (w₂.configurator ⟨0⟩).propagated := by
  intro hall
  have hends : ((Component.configure (Bureau.delivering 1 Bureau.inner) ⟨0⟩
      [.provider ⟨0⟩, .configurator ⟨0⟩, .caller ⟨0⟩] .empty).run (.clock .empty)).bind
        (fun first => ((Component.start (Bureau.delivering 1 Bureau.inner) ⟨0⟩).run first.2).bind
          fun second => ((Bureau.deliver (Bureau.delivering 1 Bureau.inner) Bureau.former).run
            second.2).bind fun third =>
              ((Bureau.deliver (Bureau.delivering 1 Bureau.inner) .empty).run third.2).map
                fun fourth =>
                  decide ((first.2.provider ⟨0⟩).services = [⟨0⟩] ∧
                    (first.2.configurator ⟨0⟩).properties = [⟨0⟩] ∧
                    ⟨0⟩ ∈ (fourth.2.provider ⟨0⟩).services ∧
                    (fourth.2.service ⟨0⟩).extras.keys = ["phase"] ∧
                    (fourth.2.configurator ⟨0⟩).propagated.keys = [])) = some true := by
    decide +kernel
  obtain ⟨⟨⟨⟩, w₁⟩, hconfigured, hends⟩ := Option.bind_eq_some_iff.mp hends
  obtain ⟨⟨⟨⟩, w₂⟩, hstarted, hends⟩ := Option.bind_eq_some_iff.mp hends
  obtain ⟨⟨⟨⟩, w₃⟩, hformer, hends⟩ := Option.bind_eq_some_iff.mp hends
  obtain ⟨⟨⟨⟩, w₄⟩, hlast, hfacts⟩ := Option.map_eq_some_iff.mp hends
  obtain ⟨hservices, hproperties, hfourth, hleft, hnone⟩ := of_decide_eq_true hfacts
  have hdelivers : Ensemble.clock.Delivers Bureau.watch (Bureau.delivering 1 Bureau.inner)
      Bureau.former w₂ w₃ := Bureau.ensures_deliver _ _ w₂ () w₃ hformer
  have hdelivers' : Ensemble.clock.Delivers Bureau.watch (Bureau.delivering 1 Bureau.inner)
      .empty w₃ w₄ := Bureau.ensures_deliver _ _ w₃ () w₄ hlast
  have hturn : Turn (Idle Bureau.watch) (Ensemble.clock.Undergoes Bureau.watch
      (Bureau.delivering 1 Bureau.inner)) w₁ w₄ :=
    ((Relation.ReflTransGen.single (.inr (.operate .start (by simp) hstarted))).tail
      (.inr (.deliver Bureau.former hdelivers))).tail (.inr (.deliver .empty hdelivers'))
  have hcarried := hall 1 Bureau.inner w₁ w₄
    (Ensemble.assembled_clock (.refl _) hconfigured hservices hproperties) hturn ⟨0⟩ hfourth
  rw [hcarried, hnone] at hleft
  cases hleft

end Componentry
