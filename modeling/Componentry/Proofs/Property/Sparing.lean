import Componentry.Proofs.Field.Binding
import Componentry.Proofs.Run.Returning

/-!
# What spares properties and fields

Much of what an update does is of no concern to the properties of the ensemble and to what is
stored in its fields: log records, whatever becomes of services, and what is told to the
registry, which may refuse it. All of this returns where the registry answers and calls nobody
back.
-/

namespace Componentry

variable {σ α : Type}

/-- A registry that may refuse updates, but answers them and calls nobody back. -/
structure Receptive (out : Collaborators σ) : Prop where
  update : ∀ handle properties w,
    (out.update handle properties).Returns w fun _ w' => w'.platform = w.platform
  rounds : 0 < out.rounds

/-- A registry that may refuse updates, but answers them and calls nobody back. Neither they nor
log records touch what a view shows of the surroundings, such as which handles are live. -/
structure Placid {τ : Type} (view : σ → τ) (out : Collaborators σ) : Prop where
  log : ∀ record t, view (out.log record t) = view t
  update : ∀ handle properties w,
    (out.update handle properties).Returns w fun _ w' => Idle view w w'
  rounds : 0 < out.rounds

theorem Receptive.placid {out : Collaborators σ} (hout : Receptive out) :
    Placid (fun _ => ()) out where
  log _ _ := rfl
  update handle properties w :=
    (hout.update handle properties w).mono fun _ _ hplatform => ⟨hplatform, rfl⟩
  rounds := hout.rounds

/-- A step that spares an ensemble: it stands as it did, and nothing becomes of properties or
of what is stored in fields. -/
structure Spares (e : Ensemble) (w w' : World σ) : Prop where
  stands : e.Stands w → e.Stands w'
  attachments :
    (w'.component e.component).attachments = (w.component e.component).attachments
  fields : (w'.component e.component).fields = (w.component e.component).fields
  property : w'.property = w.property

variable {e : Ensemble} {u v w w' : World σ}

namespace Spares

theorem refl (w : World σ) : Spares e w w := ⟨id, rfl, rfl, rfl⟩

theorem trans (huv : Spares e u v) (hvw : Spares e v w) : Spares e u w where
  stands hu := hvw.stands (huv.stands hu)
  attachments := hvw.attachments.trans huv.attachments
  fields := hvw.fields.trans huv.fields
  property := hvw.property.trans huv.property

theorem of_platform (hplatform : w'.platform = w.platform) : Spares e w w' := by
  obtain ⟨hcomponent, -, hproperty, -⟩ := World.objects_of_platform hplatform
  exact ⟨fun hw => hw.of_platform hplatform, by rw [hcomponent], by rw [hcomponent], hproperty⟩

/-- An ensemble that is spared stays wired. -/
theorem wired (h : Spares e w w') (hw : e.Wired w) : e.Wired w' := by
  apply hw.of_same (h.stands hw.stands) h.attachments
  intro r _
  rw [h.property]

theorem changeComponent (r : Ref .component) {f : Component → Component}
    (howned : ∀ c, (f c).owned = c.owned) (hattachments : ∀ c, (f c).attachments = c.attachments)
    (hfields : ∀ c, (f c).fields = c.fields) : Spares e w (w.changeComponent r f) where
  stands hw := hw.changeComponent howned hattachments
  attachments := w.component_changeComponent_same Component.attachments hattachments r e.component
  fields := w.component_changeComponent_same Component.fields hfields r e.component
  property := rfl

theorem hold (r : Ref .component) : Spares e w (w.hold r) :=
  changeComponent r (fun _ => rfl) (fun _ => rfl) fun _ => rfl

theorem release (r : Ref .component) : Spares e w (w.release r) :=
  changeComponent r (fun _ => rfl) (fun _ => rfl) fun _ => rfl

theorem setService (s : Ref .service) (service : Service) : Spares e w (w.setService s service) where
  stands hw := hw.of_setService rfl
  attachments := rfl
  fields := rfl
  property := rfl

theorem changeConfigurator (r : Ref .configurator) {f : Configurator → Configurator}
    (hcomponent : ∀ c, (f c).component = c.component)
    (hproperties : ∀ c, (f c).properties = c.properties) :
    Spares e w (w.changeConfigurator r f) where
  stands hw := by
    by_cases heq : r = e.configurator
    · subst heq
      exact hw.changeConfigurator hcomponent hproperties
    · have hkept : (w.changeConfigurator r f).configurator e.configurator =
          w.configurator e.configurator := by
        rw [World.configurator_changeConfigurator, if_neg (Ne.symm heq)]
      refine ⟨hw.owned, hw.handlers, hw.provider, hw.registered, ?_, ?_, hw.caller⟩
      · rw [hkept, hw.configurator]
      · rw [hkept, hw.properties]
  attachments := rfl
  fields := rfl
  property := rfl

end Spares

/-- The run returns from every world, and spares the ensemble. -/
def Sparing (e : Ensemble) (m : Run σ α) : Prop := ∀ w, m.Returns w fun _ => Spares e w

namespace Sparing

variable {β : Type}

theorem of_pure (a : α) : Sparing e (pure a : Run σ α) :=
  fun w => (Run.returns_pure a).mpr (.refl w)

theorem bind {m : Run σ β} {f : β → Run σ α} (hm : Sparing e m) (hf : ∀ b, Sparing e (f b)) :
    Sparing e (m >>= f) := by
  intro w
  rw [Run.returns_bind]
  refine (hm w).mono ?_
  intro b u hspared
  exact (hf b u).mono fun _ _ hrest => hspared.trans hrest

theorem forM {f : α → Run σ Unit} {items : List α} (hf : ∀ a ∈ items, Sparing e (f a)) :
    Sparing e (items.forM f) := by
  induction items with
  | nil => exact of_pure ()
  | cons a rest ih =>
      apply (hf a List.mem_cons_self).bind
      intro _
      exact ih fun b hb => hf b (List.mem_cons_of_mem a hb)

theorem component (r : Ref .component) : Sparing e (Run.component r : Run σ Component) :=
  fun w => (Run.returns_component r).mpr (.refl w)

theorem service (s : Ref .service) : Sparing e (Run.service s : Run σ Service) :=
  fun w => (Run.returns_service s).mpr (.refl w)

theorem provider (r : Ref .provider) : Sparing e (Run.provider r : Run σ Provider) :=
  fun w => (Run.returns_provider r).mpr (.refl w)

theorem configurator (r : Ref .configurator) :
    Sparing e (Run.configurator r : Run σ Configurator) :=
  fun w => (Run.returns_configurator r).mpr (.refl w)

theorem note (out : Collaborators σ) (record : Log.Record) : Sparing e (out.note record) := by
  intro w
  rw [Run.returns_note]
  exact .of_platform rfl

theorem noteAll (out : Collaborators σ) (records : List Log.Record) :
    Sparing e (out.noteAll records) :=
  forM fun record _ => note out record

theorem whileAlive {r : Option (Ref .component)} {m : Ref .component → Run σ Unit}
    (hm : ∀ s, Sparing e (m s)) : Sparing e (Run.whileAlive r m) := by
  cases r with
  | none => exact of_pure ()
  | some s =>
      apply (component s).bind
      intro c
      split
      · intro w
        rw [Run.returns_holding]
        refine (hm s (w.hold s)).mono ?_
        intro _ u hspared
        exact ((Spares.hold s).trans hspared).trans (.release s)
      · exact of_pure ()

end Sparing

section Registry

variable {out : Collaborators σ}

/-- One update is enough where nobody changes the service meanwhile, whatever the answer. -/
theorem returns_push_placid {τ : Type} {view : σ → τ} (hout : Placid view out) (s : Ref .service)
    {pending : Option Update}
    (hpending : ∀ update ∈ pending, (w.service s).registration = some update.handle ∧
      (w.service s).revision = update.revision) :
    (Service.push out s out.rounds pending).Returns w fun _ => Idle view w := by
  obtain ⟨rounds, hrounds⟩ := Nat.exists_eq_succ_of_ne_zero (Nat.ne_of_gt hout.rounds)
  rw [hrounds]
  cases pending with
  | none =>
      rw [Service.push, Run.returns_pure]
      exact ⟨rfl, rfl⟩
  | some update =>
      obtain ⟨hheld, hrevision⟩ := hpending update rfl
      simp only [Service.push, Run.returns_bind, Run.returns_service]
      refine (hout.update _ _ w).mono ?_
      intro pushed u hidle
      rw [(World.objects_of_platform hidle.1).2.1, hheld, hrevision]
      cases pushed with
      | error failure => simpa using hidle
      | ok _ => cases rounds <;> simpa [Service.push] using hidle

/-- A changed service is put in place, and the registry is told. -/
theorem returns_commit_placid {τ : Type} {view : σ → τ} (hout : Placid view out) (s : Ref .service)
    (changed : Service) (w : World σ) :
    (Service.commit out s changed).Returns w fun _ => Idle view (w.setService s changed) := by
  simp only [Service.commit, Run.returns_bind, Run.returns_setService]
  apply returns_push_placid hout
  intro update hupdate
  obtain ⟨handle, hheld, rfl⟩ := Option.map_eq_some_iff.mp hupdate
  simp [hheld]

variable (hout : Receptive out)
include hout

theorem sparing_commit (s : Ref .service) (changed : Service) :
    Sparing e (Service.commit out s changed) := by
  intro w
  refine (returns_commit_placid hout.placid s changed w).mono ?_
  intro _ u hidle
  exact (Spares.setService s changed).trans (.of_platform hidle.1)

theorem sparing_extend (s : Ref .service) (entries : Properties) :
    Sparing e (Service.extend out s entries) := by
  apply (Sparing.service s).bind
  intro service
  split
  · exact .of_pure _
  · exact sparing_commit hout s _

theorem sparing_reduce (s : Ref .service) (entries : Properties) :
    Sparing e (Service.reduce out s entries) := by
  apply (Sparing.service s).bind
  intro service
  split
  · exact .of_pure _
  · exact sparing_commit hout s _

omit hout in
theorem sparing_exchangeAll (r : Ref .provider) (operation : String)
    {exchange : Ref .service → Run σ (Except Failure Unit)}
    (hexchange : ∀ s, Sparing e (exchange s)) :
    Sparing e (Provider.exchangeAll out r operation exchange) := by
  apply (Sparing.provider r).bind
  intro provider
  apply Sparing.whileAlive
  intro component
  apply (Sparing.component component).bind
  intro c
  apply (Sparing.provider r).bind
  intro holder
  apply Sparing.forM
  intro s _
  apply (hexchange s).bind
  intro answer
  split
  · exact .of_pure ()
  · exact .note out _

/-- What no property claims is propagated to the services, and that is all. -/
theorem sparing_propagate (r : Ref .configurator) (component : Ref .component)
    (entries : Properties) :
    Sparing e (Configurator.propagate out r component entries) := by
  unfold Configurator.propagate
  apply (Sparing.configurator r).bind
  intro before
  extract_lets previous
  split
  · exact .of_pure ()
  · apply (Sparing.component component).bind
    intro holder
    split
    · exact .note out _
    next provider _ =>
      apply (Sparing.note out _).bind
      intro _
      extract_lets remember
      have hremember : ∀ x, Sparing e (remember x) := by
        intro x
        simp only [remember]
        have hchanged : Sparing e (Run.changeConfigurator r fun c =>
            { c with propagated := entries } : Run σ Unit) := by
          intro w
          exact ⟨(), _, rfl, .changeConfigurator r (fun _ => rfl) fun _ => rfl⟩
        split
        · rw [Provider.extendAll_eq]
          exact (sparing_exchangeAll provider _ fun s => sparing_extend hout s entries).bind
            fun _ => hchanged
        · exact hchanged
      split
      · rw [Provider.reduceAll_eq]
        exact (sparing_exchangeAll provider _ fun s => sparing_reduce hout s previous).bind
          hremember
      · exact hremember ()

end Registry

end Componentry
