import Componentry.Proofs.Registration.Correspondence

/-!
# Indifference to the registry

Whether the registry refuses its calls is nothing that a component can tell. Two runs of
the same operations over registries that refuse different calls go side by side: all that
differs between them is which services are registered, what is logged, and which
registrations are announced.

What the registry has to do with happens unnoticed, on either side by itself. All else
happens on both sides alike.
-/

namespace Componentry

variable {σ τ ν α β : Type}

/-! ## Collaborators that match -/

/-- A call of a body enters its number ahead of all that the body does. -/
def Sight.Runs (V : Sight σ τ ν) (out : Collaborators σ) (number : Nat)
    (body : Ref .component → Run σ Ending) : Prop :=
  ∃ enter : σ → σ,
    (∀ s, V.called (enter s) = V.called s ++ [number] ∧ V.live (enter s) = V.live s ∧
      V.rest (enter s) = V.rest s ∧ V.name (enter s) = V.name s) ∧
    ∀ component, out.call number component =
      Run.changeSurroundings enter >>= fun _ => body component

/-- Two calls both fail, or both succeed with answers that agree. -/
def Likewise (agree : α → β → Prop) : Except Failure α → Except Failure β → Prop
  | .ok a, .ok b => agree a b
  | .error _, .error _ => True
  | _, _ => False

/-- Collaborators that do alike in worlds that are alike, but for the log and the registry,
which may do on either side what nobody notices. -/
structure Matched (V : Sight σ τ ν) (out₁ out₂ : Collaborators σ) : Prop where
  left : Muted V.view out₁
  right : Muted V.view out₂
  tell : ∀ event, Run.Twins (Alike V) Eq (out₁.tell event) (out₂.tell event)
  publish : ∀ identity properties target w₁ w₂, Alike V w₁ w₂ →
    (out₁.publish identity properties target).Jointly (out₂.publish identity properties target)
      w₁ w₂ fun answer₁ u₁ answer₂ u₂ => Alike V u₁ u₂ ∧
        Likewise (V.SameName u₁.surroundings u₂.surroundings) answer₁ answer₂
  withdraw : ∀ handle₁ handle₂ w₁ w₂, Alike V w₁ w₂ →
    V.SameName w₁.surroundings w₂.surroundings handle₁ handle₂ →
    (out₁.withdraw handle₁).Jointly (out₂.withdraw handle₂) w₁ w₂
      fun answer₁ u₁ answer₂ u₂ => Alike V u₁ u₂ ∧ Likewise Eq answer₁ answer₂
  call : ∀ number, ∃ body₁ body₂, V.Runs out₁ number body₁ ∧ V.Runs out₂ number body₂ ∧
    ∀ component, Run.Twins (Alike V) Eq (body₁ component) (body₂ component)
  configure : ∀ number component descriptor configuration, Run.Twins (Alike V) Eq
    (out₁.configure number component descriptor configuration)
    (out₂.configure number component descriptor configuration)
  notify : ∀ number notice,
    Run.Twins (Alike V) Eq (out₁.notify number notice) (out₂.notify number notice)
  read : ∀ number field value,
    Run.Twins (Alike V) Eq (out₁.read number field value) (out₂.read number field value)
  ready : ∀ number, Run.Twins (Alike V) Eq (out₁.ready number) (out₂.ready number)

/-! ## The provider -/

section Layer

variable {V : Sight σ τ ν} {out₁ out₂ : Collaborators σ} (hmatched : Matched V out₁ out₂)
include hmatched

/-- What is done for the sake of the registry goes side by side, whatever it is done with. -/
theorem twins_muted (a₁ a₂ : α) {m : Collaborators σ → α → Run σ Unit}
    (hm : ∀ {out}, Muted V.view out → ∀ a, Unnoticed V.view (m out a)) :
    Run.Twins (Alike V) Eq (m out₁ a₁) (m out₂ a₂) :=
  Alike.twins_unnoticed (hm hmatched.left a₁) (hm hmatched.right a₂) fun _ _ => rfl

theorem twins_note (record₁ record₂ : Log.Record) :
    Run.Twins (Alike V) Eq (out₁.note record₁) (out₂.note record₂) :=
  twins_muted hmatched _ _ unnoticed_note

theorem twins_noteAll (records₁ records₂ : List Log.Record) :
    Run.Twins (Alike V) Eq (out₁.noteAll records₁) (out₂.noteAll records₂) :=
  twins_muted hmatched _ _ unnoticed_noteAll

/-- Services that change alike are kept alike, whatever the registries answer. -/
theorem twins_commit (r : Ref .service) {changed₁ changed₂ : Service}
    (hsame : changed₁.detached = changed₂.detached) :
    Run.Twins (Alike V) (fun _ _ => True) (Service.commit out₁ r changed₁)
      (Service.commit out₂ r changed₂) := by
  intro w₁ w₂ halike
  apply (returns_commit hmatched.left r changed₁ w₁).jointly
    (returns_commit hmatched.right r changed₂ w₂)
  intro _ u₁ _ u₂ hidle₁ hidle₂
  exact ⟨(halike.setService r hsame).of_faint hidle₁.faint hidle₂.faint, trivial⟩

theorem twins_write (r : Ref .service) (field : String) (value : Value) :
    Run.Twins (Alike V) (fun _ _ => True) (Service.write out₁ r field value)
      (Service.write out₂ r field value) := by
  apply (Alike.twins_service r).bind
  intro service₁ service₂ hsame
  have hchange := Service.written?_of_detached hsame field value
  generalize service₁.written? field value = change₁, service₂.written? field value = change₂
    at hchange
  cases hchange with
  | none => exact Run.twins_pure trivial
  | some hchanged =>
      apply (twins_commit hmatched r hchanged).bind
      exact fun _ _ _ => Run.twins_pure trivial

theorem twins_extend (r : Ref .service) (entries : Properties) :
    Run.Twins (Alike V) (fun _ _ => True) (Service.extend out₁ r entries)
      (Service.extend out₂ r entries) := by
  apply (Alike.twins_service r).bind
  intro service₁ service₂ hsame
  have hchange := Service.extended?_of_detached hsame entries
  generalize service₁.extended? entries = change₁, service₂.extended? entries = change₂ at hchange
  cases hchange with
  | none => exact Run.twins_pure trivial
  | some hchanged => exact twins_commit hmatched r hchanged

theorem twins_reduce (r : Ref .service) (entries : Properties) :
    Run.Twins (Alike V) (fun _ _ => True) (Service.reduce out₁ r entries)
      (Service.reduce out₂ r entries) := by
  apply (Alike.twins_service r).bind
  intro service₁ service₂ hsame
  have hchange := Service.reduced?_of_detached hsame entries
  generalize service₁.reduced? entries = change₁, service₂.reduced? entries = change₂ at hchange
  cases hchange with
  | none => exact Run.twins_pure trivial
  | some hchanged => exact twins_commit hmatched r hchanged

theorem twins_writeService (className field : String) (value : Value) (r : Ref .service) :
    Run.Twins (Alike V) Eq (Provider.writeService out₁ className field value r)
      (Provider.writeService out₂ className field value r) := by
  apply (Alike.twins_service r).bind
  intro service₁ service₂ hsame
  rw [Service.hasField_of_detached hsame]
  split
  · apply (twins_write hmatched r field value).bind
    intro answer₁ answer₂ _
    apply twins_muted hmatched answer₁ answer₂
    intro out hout answer
    cases answer with
    | ok _ => exact .pure ()
    | error failure => exact unnoticed_noteCaught hout _ _ _ _
  · exact Run.twins_pure rfl

theorem twins_provider_fieldWritten (r : Ref .provider) (field : String) (value : Value) :
    Run.Twins (Alike V) Eq (Provider.fieldWritten out₁ r field value)
      (Provider.fieldWritten out₂ r field value) := by
  apply (Alike.twins_provider r).bind
  rintro provider _ rfl
  apply Alike.twins_whileAlive
  intro component
  apply (Alike.twins_component component).bind
  rintro c _ rfl
  apply (Alike.twins_provider r).bind
  rintro holder _ rfl
  exact Run.Twins.forM fun s _ => twins_writeService hmatched _ field value s

theorem twins_exchangeAll (r : Ref .provider) (operation : String)
    {exchange₁ exchange₂ : Ref .service → Run σ (Except Failure Unit)}
    (hexchange : ∀ s, Run.Twins (Alike V) (fun _ _ => True) (exchange₁ s) (exchange₂ s)) :
    Run.Twins (Alike V) Eq (Provider.exchangeAll out₁ r operation exchange₁)
      (Provider.exchangeAll out₂ r operation exchange₂) := by
  apply (Alike.twins_provider r).bind
  rintro provider _ rfl
  apply Alike.twins_whileAlive
  intro component
  apply (Alike.twins_component component).bind
  rintro c _ rfl
  apply (Alike.twins_provider r).bind
  rintro holder _ rfl
  apply Run.Twins.forM
  intro s _
  apply (hexchange s).bind
  intro answer₁ answer₂ _
  apply twins_muted hmatched answer₁ answer₂
  intro out hout answer
  cases answer with
  | ok _ => exact .pure ()
  | error failure => exact unnoticed_noteCaught hout _ _ _ _

theorem twins_extendAll (r : Ref .provider) (entries : Properties) :
    Run.Twins (Alike V) Eq (Provider.extendAll out₁ r entries)
      (Provider.extendAll out₂ r entries) := by
  rw [Provider.extendAll_eq, Provider.extendAll_eq]
  exact twins_exchangeAll hmatched r _ fun s => twins_extend hmatched s entries

theorem twins_reduceAll (r : Ref .provider) (entries : Properties) :
    Run.Twins (Alike V) Eq (Provider.reduceAll out₁ r entries)
      (Provider.reduceAll out₂ r entries) := by
  rw [Provider.reduceAll_eq, Provider.reduceAll_eq]
  exact twins_exchangeAll hmatched r _ fun s => twins_reduce hmatched s entries

end Layer

/-- The value that a field is read with does not depend on registrations. -/
theorem twins_provider_readField {V : Sight σ τ ν} (r : Ref .provider) (field : String)
    (value : Option Value) :
    Run.Twins (Alike V) Eq (Provider.readField r field value : Run σ (Option Value))
      (Provider.readField r field value) := by
  apply (Alike.twins_provider r).bind
  rintro provider _ rfl
  apply (Run.Twins.mapM fun s _ => Alike.twins_service s).bind
  intro services₁ services₂ hsame
  apply Run.twins_pure
  congr 1
  induction hsame with
  | nil => rfl
  | cons hfirst _ ih =>
      rw [List.findSome?_cons, List.findSome?_cons, Service.field?_of_detached hfirst, ih]

/-! ## The configurator -/

theorem twins_configurator_readField {V : Sight σ τ ν} (r : Ref .configurator) (field : String)
    (value : Option Value) :
    Run.Twins (Alike V) Eq (Configurator.readField r field value : Run σ (Option Value))
      (Configurator.readField r field value) := by
  apply (Alike.twins_configurator r).bind
  rintro c _ ⟨publication, rfl, -⟩
  apply (Run.Twins.mapM fun s _ => Alike.twins_property s).bind
  intro properties₁ properties₂ hproperties
  rw [List.forall₂_eq_eq_eq] at hproperties
  subst hproperties
  exact Run.twins_pure rfl

section Layer

variable {V : Sight σ τ ν} {out₁ out₂ : Collaborators σ} (hmatched : Matched V out₁ out₂)
include hmatched

theorem twins_writeProperty (field : String) (value : Value) (r : Ref .property) :
    Run.Twins (Alike V) Eq (Configurator.writeProperty out₁ field value r)
      (Configurator.writeProperty out₂ field value r) := by
  apply (Alike.twins_property r).bind
  rintro property _ rfl
  split
  · split
    · exact Run.twins_pure rfl
    next changed _ =>
      apply (Alike.twins_setProperty r changed).bind
      exact fun _ _ _ => twins_note hmatched _ _
  · exact Run.twins_pure rfl

theorem twins_configurator_fieldWritten (r : Ref .configurator) (field : String) (value : Value) :
    Run.Twins (Alike V) Eq (Configurator.fieldWritten out₁ r field value)
      (Configurator.fieldWritten out₂ r field value) := by
  apply (Alike.twins_configurator r).bind
  rintro c _ ⟨publication, rfl, -⟩
  exact Run.Twins.forM fun s _ => twins_writeProperty hmatched field value s

/-- An endpoint is withdrawn under the name that it has on either side. -/
theorem twins_configurator_withdraw (r : Ref .configurator) :
    Run.Twins (Alike V) Eq (Configurator.withdraw out₁ r) (Configurator.withdraw out₂ r) := by
  intro w₁ w₂ halike
  apply Run.jointly_bind_of_steps (c := w₁.configurator r) (d := w₂.configurator r) rfl rfl
  have hpublication := halike.publication r
  rw [Configurator.eq_of_concealed (halike.configurator r)]
  generalize (w₁.configurator r).publication = publication₁,
    (w₂.configurator r).publication = publication₂ at hpublication ⊢
  cases hpublication with
  | none => exact .some ⟨halike, rfl⟩
  | @some handle₁ handle₂ hname =>
      apply Run.jointly_bind_of_steps (c := ()) (d := ()) rfl rfl
      apply (halike.forget r).jointly_whileAlive
      intro s u₁ u₂ hheld hsurroundings₁ hsurroundings₂
      apply Run.jointly_bind_of_steps (c := u₁.component s) (d := u₂.component s) rfl rfl
      rw [hheld.component]
      apply (hmatched.withdraw handle₁ handle₂ u₁ u₂ hheld
        (hsurroundings₁ ▸ hsurroundings₂ ▸ hname)).bind
      rintro answer₁ v₁ answer₂ v₂ ⟨halike', hlikewise⟩
      cases answer₁ <;> cases answer₂
      · exact twins_note hmatched _ _ v₁ v₂ halike'
      · exact hlikewise.elim
      · exact hlikewise.elim
      · apply ((twins_note hmatched _ _).bind _) v₁ v₂ halike'
        intro _ _ _
        apply (Alike.twins_configurator r).bind
        rintro c _ ⟨publication, rfl, -⟩
        exact hmatched.tell _

/-- An endpoint is published under names that agree. -/
theorem twins_configurator_publish (r : Ref .configurator) :
    Run.Twins (Alike V) Eq (Configurator.publish out₁ r) (Configurator.publish out₂ r) := by
  intro w₁ w₂ halike
  apply Run.jointly_bind_of_steps (c := w₁.configurator r) (d := w₂.configurator r) rfl rfl
  have hpublication := halike.publication r
  rw [Configurator.eq_of_concealed (halike.configurator r)]
  split
  · exact .some ⟨halike, rfl⟩
  apply Run.jointly_bind_of_steps (c := ()) (d := ()) rfl rfl
  apply (halike.forget r).jointly_whileAlive
  intro s u₁ u₂ hheld hsurroundings₁ hsurroundings₂
  apply Run.jointly_bind_of_steps (c := u₁.component s) (d := u₂.component s) rfl rfl
  rw [hheld.component]
  extract_lets className anew₁ anew₂
  have hanew : ∀ p, Run.Twins (Alike V) Eq (anew₁ p) (anew₂ p) := by
    intro p v₁ v₂ hcleared
    dsimp only [anew₁, anew₂]
    apply Run.jointly_bind_of_steps (c := v₁.platform) (d := v₂.platform) rfl rfl
    rw [hcleared.settings]
    apply (hmatched.publish _ _ _ v₁ v₂ hcleared).bind
    rintro answer₁ x₁ answer₂ x₂ ⟨hpublished, hlikewise⟩
    cases answer₁ <;> cases answer₂
    · exact twins_note hmatched _ _ x₁ x₂ hpublished
    · exact hlikewise.elim
    · exact hlikewise.elim
    next handle₁ handle₂ =>
      apply Run.jointly_bind_of_steps (c := ()) (d := ()) rfl rfl
      have hrecorded : Alike V
          (x₁.changeConfigurator r fun c => { c with publication := some handle₁ })
          (x₂.changeConfigurator r fun c => { c with publication := some handle₂ }) :=
        hpublished.changeConfigurator r (fun _ _ hsame => hsame) (.some hlikewise)
      apply ((twins_note hmatched _ _).bind _) _ _ hrecorded
      exact fun _ _ _ => hmatched.tell _
  generalize (w₁.configurator r).publication = publication₁,
    (w₂.configurator r).publication = publication₂ at hpublication ⊢
  cases hpublication with
  | none => exact hanew () u₁ u₂ hheld
  | @some previous₁ previous₂ hname =>
      apply (hmatched.withdraw previous₁ previous₂ u₁ u₂ hheld
        (hsurroundings₁ ▸ hsurroundings₂ ▸ hname)).bind
      rintro answer₁ v₁ answer₂ v₂ ⟨hwithdrawn, hlikewise⟩
      cases answer₁ <;> cases answer₂
      · apply ((twins_note hmatched _ _).bind _) v₁ v₂ hwithdrawn
        exact fun _ _ _ => hanew ()
      · exact hlikewise.elim
      · exact hlikewise.elim
      · exact hanew () v₁ v₂ hwithdrawn

theorem twins_configurator_stateChanged (r : Ref .configurator) (state : Validity) :
    Run.Twins (Alike V) Eq (Configurator.stateChanged out₁ r state)
      (Configurator.stateChanged out₂ r state) := by
  cases state with
  | valid =>
      apply (Alike.twins_configurator r).bind
      rintro c _ ⟨publication, rfl, hnone⟩
      simp only [hnone]
      split
      · exact twins_configurator_publish hmatched r
      · exact Run.twins_pure rfl
  | invalid => exact twins_configurator_withdraw hmatched r

/-! ## The caller -/

/-- A body is entered on both sides, and then runs on both sides. -/
theorem twins_call (number : Nat) (component : Ref .component) :
    Run.Twins (Alike V) Eq (out₁.call number component) (out₂.call number component) := by
  obtain ⟨body₁, body₂, ⟨enter₁, henter₁, hcall₁⟩, ⟨enter₂, henter₂, hcall₂⟩, hbody⟩ :=
    hmatched.call number
  rw [hcall₁, hcall₂]
  have hentered : Run.Twins (Alike V) Eq (Run.changeSurroundings enter₁ : Run σ Unit)
      (Run.changeSurroundings enter₂) := by
    apply Run.twins_of_steps (fun _ => rfl) (fun _ => rfl)
    intro w₁ w₂ h
    obtain ⟨hcalled₁, hlive₁, hrest₁, hname₁⟩ := henter₁ w₁.surroundings
    obtain ⟨hcalled₂, hlive₂, hrest₂, hname₂⟩ := henter₂ w₂.surroundings
    obtain ⟨hcalled, hlive, hrest⟩ := Prod.mk.inj h.seen |>.imp_right Prod.mk.inj
    refine ⟨h.changeSurroundings hname₁ hname₂ ?_, rfl⟩
    rw [Sight.seen, Sight.seen, hcalled₁, hcalled₂, hlive₁, hlive₂, hrest₁, hrest₂, hcalled, hlive,
      hrest]
  exact hentered.bind fun _ _ _ => hbody component

theorem twins_callback (callback : Callback) (component : Ref .component) :
    Run.Twins (Alike V) Eq (callback.invoke out₁ component) (callback.invoke out₂ component) := by
  unfold Callback.invoke
  split
  · exact Run.twins_pure rfl
  · unfold Method.invoke
    split
    · exact Run.twins_pure rfl
    · apply (twins_call hmatched _ component).bind
      rintro ending _ rfl
      exact Run.twins_pure rfl

theorem twins_caller_run (className : String) (component : Ref .component) (callback : Callback) :
    Run.Twins (Alike V) Eq (Caller.run out₁ className component callback)
      (Caller.run out₂ className component callback) := by
  apply (twins_note hmatched _ _).bind
  intro _ _ _
  apply (twins_callback hmatched callback component).bind
  rintro answer _ rfl
  split
  · exact Run.twins_pure rfl
  · exact twins_note hmatched _ _

theorem twins_caller_stateChanged (r : Ref .caller) (state : Validity) :
    Run.Twins (Alike V) Eq (Caller.stateChanged out₁ r state)
      (Caller.stateChanged out₂ r state) := by
  apply (Alike.twins_caller r).bind
  rintro before _ rfl
  apply (Alike.twins_changeCaller r _).bind
  intro _ _ _
  apply Alike.twins_whileAlive
  intro component
  apply (Alike.twins_component component).bind
  rintro c _ rfl
  exact Run.Twins.forM fun callback _ => twins_caller_run hmatched _ component callback

/-! ## Handlers -/

theorem twins_handler_start (handler : Handler) :
    Run.Twins (Alike V) Eq (handler.start out₁) (handler.start out₂) := by
  cases handler with
  | provider r =>
      exact Alike.twins_unnoticed (unnoticed_provider_start hmatched.left r)
        (unnoticed_provider_start hmatched.right r) fun _ _ => rfl
  | configurator r => exact twins_configurator_publish hmatched r
  | caller r => exact Run.twins_pure rfl
  | guest name number => exact hmatched.notify number .started

theorem twins_handler_stop (handler : Handler) :
    Run.Twins (Alike V) Eq (handler.stop out₁) (handler.stop out₂) := by
  cases handler with
  | provider r =>
      exact Alike.twins_unnoticed (unnoticed_provider_stop hmatched.left r)
        (unnoticed_provider_stop hmatched.right r) fun _ _ => rfl
  | configurator r => exact twins_configurator_withdraw hmatched r
  | caller r => exact Alike.twins_changeCaller r _
  | guest name number => exact hmatched.notify number .stopped

theorem twins_handler_stateChanged (state : Validity) (handler : Handler) :
    Run.Twins (Alike V) Eq (handler.stateChanged out₁ state) (handler.stateChanged out₂ state) := by
  cases handler with
  | provider r =>
      exact Alike.twins_unnoticed (unnoticed_provider_stateChanged hmatched.left r state)
        (unnoticed_provider_stateChanged hmatched.right r state) fun _ _ => rfl
  | configurator r => exact twins_configurator_stateChanged hmatched r state
  | caller r => exact twins_caller_stateChanged hmatched r state
  | guest name number => exact hmatched.notify number (.stateChanged state)

theorem twins_handler_fieldWritten (field : String) (value : Value) (handler : Handler) :
    Run.Twins (Alike V) Eq (handler.fieldWritten out₁ field value)
      (handler.fieldWritten out₂ field value) := by
  cases handler with
  | provider r => exact twins_provider_fieldWritten hmatched r field value
  | configurator r => exact twins_configurator_fieldWritten hmatched r field value
  | caller r => exact Run.twins_pure rfl
  | guest name number => exact hmatched.notify number (.fieldWritten field value)

theorem twins_handler_readField (field : String) (value : Option Value) (handler : Handler) :
    Run.Twins (Alike V) Eq (handler.readField out₁ field value)
      (handler.readField out₂ field value) := by
  cases handler with
  | provider r => exact twins_provider_readField r field value
  | configurator r => exact twins_configurator_readField r field value
  | caller r => exact Run.twins_pure rfl
  | guest name number => exact hmatched.read number field value

theorem twins_handler_isReady (handler : Handler) :
    Run.Twins (Alike V) Eq (handler.isReady out₁) (handler.isReady out₂) := by
  cases handler with
  | guest name number => exact hmatched.ready number
  | _ => exact Run.twins_pure rfl

/-! ## The component -/

theorem twins_setField (r : Ref .component) (field : String) (value : Value) :
    Run.Twins (Alike V) Eq (Component.setField out₁ r field value)
      (Component.setField out₂ r field value) := by
  apply Alike.twins_holding
  apply (Alike.twins_component r).bind
  rintro c _ rfl
  apply (Run.Twins.forM fun handler _ =>
    twins_handler_fieldWritten hmatched field value handler).bind
  exact fun _ _ _ => Alike.twins_changeComponent r _

theorem twins_getField (r : Ref .component) (field : String) :
    Run.Twins (Alike V) Eq (Component.getField out₁ r field) (Component.getField out₂ r field) := by
  apply Alike.twins_holding
  apply (Alike.twins_component r).bind
  rintro c _ rfl
  apply Run.Twins.foldlM
  exact fun value handler _ => twins_handler_readField hmatched field value handler

theorem twins_dispatch (r : Ref .component) (state : Validity) (handlers : List Handler) :
    Run.Twins (Alike V) Eq (Component.dispatch out₁ r state handlers)
      (Component.dispatch out₂ r state handlers) := by
  induction handlers with
  | nil => exact Run.twins_pure rfl
  | cons handler rest ih =>
      apply (Alike.twins_component r).bind
      rintro c _ rfl
      split
      · exact twins_note hmatched _ _
      · apply (twins_handler_stateChanged hmatched state handler).bind
        exact fun _ _ _ => ih

theorem twins_setState (r : Ref .component) (state : Validity) :
    Run.Twins (Alike V) Eq (Component.setState out₁ r state) (Component.setState out₂ r state) := by
  apply Alike.twins_holding
  apply (Alike.twins_component r).bind
  rintro c _ rfl
  split
  · exact Run.twins_pure rfl
  · apply (Alike.twins_changeComponent r _).bind
    intro _ _ _
    apply (twins_note hmatched _ _).bind
    intro _ _ _
    apply (hmatched.tell _).bind
    intro _ _ _
    apply (Alike.twins_component r).bind
    rintro c _ rfl
    exact twins_dispatch hmatched r state _

theorem twins_allReady (handlers : List Handler) :
    Run.Twins (Alike V) Eq (Component.allReady out₁ handlers)
      (Component.allReady out₂ handlers) := by
  induction handlers with
  | nil => exact Run.twins_pure rfl
  | cons handler rest ih =>
      apply (twins_handler_isReady hmatched handler).bind
      rintro ready _ rfl
      split
      · exact ih
      · exact Run.twins_pure rfl

theorem twins_checkValidity (r : Ref .component) :
    Run.Twins (Alike V) Eq (Component.checkValidity out₁ r) (Component.checkValidity out₂ r) := by
  apply Alike.twins_holding
  apply (Alike.twins_component r).bind
  rintro c _ rfl
  apply (twins_allReady hmatched _).bind
  rintro ready _ rfl
  exact twins_setState hmatched r _

theorem twins_start (r : Ref .component) :
    Run.Twins (Alike V) Eq (Component.start out₁ r) (Component.start out₂ r) := by
  apply Alike.twins_holding
  apply (Alike.twins_component r).bind
  rintro c _ rfl
  apply (Run.Twins.forM fun handler _ => twins_handler_start hmatched handler).bind
  intro _ _ _
  apply (twins_note hmatched _ _).bind
  exact fun _ _ _ => twins_checkValidity hmatched r

theorem twins_stop (r : Ref .component) :
    Run.Twins (Alike V) Eq (Component.stop out₁ r) (Component.stop out₂ r) := by
  apply Alike.twins_holding
  apply (Alike.twins_component r).bind
  rintro c _ rfl
  apply (Run.Twins.forM fun handler _ => twins_handler_stop hmatched handler).bind
  intro _ _ _
  apply (Alike.twins_changeComponent r _).bind
  exact fun _ _ _ => twins_note hmatched _ _

/-! ## Updates -/

omit hmatched in
theorem twins_find? (name : String) (properties : List (Ref .property)) :
    Run.Twins (Alike V) Eq
      (Configurator.find? name properties : Run σ (Option (Ref .property)))
      (Configurator.find? name properties) := by
  induction properties with
  | nil => exact Run.twins_pure rfl
  | cons r rest ih =>
      apply (Alike.twins_property r).bind
      rintro property _ rfl
      split
      · exact Run.twins_pure rfl
      · exact ih

theorem twins_applyEntry (component : Ref .component) (r : Ref .property) (incoming : Value) :
    Run.Twins (Alike V) Eq (Configurator.applyEntry out₁ component r incoming)
      (Configurator.applyEntry out₂ component r incoming) := by
  unfold Configurator.applyEntry
  apply (Alike.twins_property r).bind
  rintro property _ rfl
  obtain ⟨value, notes⟩ := property.coerce incoming
  apply (twins_noteAll hmatched notes notes).bind
  intro _ _ _
  split
  · exact Run.twins_pure rfl
  · split
    · exact twins_setField hmatched component _ _
    · exact Alike.twins_setProperty r _

theorem twins_applyEntries (component : Ref .component) (className : String)
    (properties : List (Ref .property)) (entries : List (String × Value)) :
    Run.Twins (Alike V) Eq
      (Configurator.applyEntries out₁ component className properties entries)
      (Configurator.applyEntries out₂ component className properties entries) := by
  induction entries with
  | nil => exact Run.twins_pure rfl
  | cons entry rest ih =>
      unfold Configurator.applyEntries
      apply (twins_find? entry.1 properties).bind
      rintro found _ rfl
      split
      · apply (twins_applyEntry hmatched component _ _).bind
        exact fun _ _ _ => ih
      · apply (twins_note hmatched _ _).bind
        intro _ _ _
        apply ih.bind
        rintro unmatched _ rfl
        exact Run.twins_pure rfl

theorem twins_propagate (r : Ref .configurator) (component : Ref .component)
    (entries : Properties) :
    Run.Twins (Alike V) Eq (Configurator.propagate out₁ r component entries)
      (Configurator.propagate out₂ r component entries) := by
  unfold Configurator.propagate
  apply (Alike.twins_configurator r).bind
  rintro c _ ⟨publication, rfl, -⟩
  dsimp only
  split
  · exact Run.twins_pure rfl
  · apply (Alike.twins_component component).bind
    rintro holder _ rfl
    split
    · exact twins_note hmatched _ _
    next provider _ =>
      apply (twins_note hmatched _ _).bind
      intro _ _ _
      let remember : Run σ Unit :=
        Run.changeConfigurator r fun c => { c with propagated := entries }
      have hremember : Run.Twins (Alike V) Eq remember remember :=
        Alike.twins_changeConfigurator r (fun _ => rfl) fun _ => rfl
      have hextend : Run.Twins (Alike V) Eq
          (if !entries.isEmpty then Provider.extendAll out₁ provider entries >>= fun _ => remember
            else remember)
          (if !entries.isEmpty then Provider.extendAll out₂ provider entries >>= fun _ => remember
            else remember) := by
        split
        · apply (twins_extendAll hmatched provider entries).bind
          exact fun _ _ _ => hremember
        · exact hremember
      split
      · apply (twins_reduceAll hmatched provider c.propagated).bind
        exact fun _ _ _ => hextend
      · exact hextend

theorem twins_updated (r : Ref .configurator) (configuration : Option Properties) :
    Run.Twins (Alike V) Eq (Configurator.updated out₁ r configuration)
      (Configurator.updated out₂ r configuration) := by
  apply (Alike.twins_configurator r).bind
  rintro before _ ⟨publication, rfl, -⟩
  apply Alike.twins_whileAlive
  intro component
  apply (Alike.twins_component component).bind
  rintro c _ rfl
  split
  · exact twins_note hmatched _ _
  · apply (twins_applyEntries hmatched component _ _ _).bind
    rintro unmatched _ rfl
    exact twins_propagate hmatched r component _

/-! ## Configuration -/

theorem twins_attach (r : Ref .component) (handler : Handler) (fields : List String) :
    Run.Twins (Alike V) Eq (Component.attach out₁ r handler fields)
      (Component.attach out₂ r handler fields) := by
  apply (Alike.twins_component r).bind
  rintro c _ rfl
  split
  · apply (twins_note hmatched _ _).bind
    exact fun _ _ _ => Alike.twins_changeComponent r _
  · exact Alike.twins_changeComponent r _

theorem twins_offer (component : Ref .component) (declared : ServiceDescriptor)
    (configuration : Properties) :
    Run.Twins (Alike V) Eq (Provider.offer out₁ component declared configuration)
      (Provider.offer out₂ component declared configuration) := by
  unfold Provider.offer
  obtain ⟨created, notes⟩ := Service.create declared
  apply (twins_noteAll hmatched notes notes).bind
  intro _ _ _
  apply (Alike.twins_changeComponent component _).bind
  exact fun _ _ _ => Alike.twins_addService _

theorem twins_offerAll (component : Ref .component) (descriptor : ComponentDescriptor)
    (configuration : Properties) (elements : List Element) :
    Run.Twins (Alike V) Eq
      (Provider.offerAll out₁ component descriptor configuration elements)
      (Provider.offerAll out₂ component descriptor configuration elements) := by
  induction elements with
  | nil => exact Run.twins_pure rfl
  | cons element rest ih =>
      unfold Provider.offerAll
      obtain ⟨declared, notes⟩ := ServiceDescriptor.ofElement element descriptor configuration
      apply (twins_noteAll hmatched notes notes).bind
      intro _ _ _
      apply (twins_noteAll hmatched _ _).bind
      intro _ _ _
      split
      · apply (twins_offer hmatched component _ configuration).bind
        rintro s _ rfl
        apply ih.bind
        rintro services _ rfl
        exact Run.twins_pure rfl
      · apply (twins_note hmatched _ _).bind
        exact fun _ _ _ => ih

omit hmatched in
theorem fieldsOf_of_detached {services₁ services₂ : List Service}
    (hsame : List.Forall₂ (fun s₁ s₂ : Service => s₁.detached = s₂.detached) services₁ services₂) :
    Provider.fieldsOf services₁ = Provider.fieldsOf services₂ := by
  unfold Provider.fieldsOf
  induction hsame with
  | nil => rfl
  | cons hfirst _ ih =>
      obtain ⟨registration, rfl⟩ := Service.eq_of_detached hfirst
      rw [List.flatMap_cons, List.flatMap_cons, ih]

theorem twins_provider_configure (r : Ref .provider) (component : Ref .component)
    (descriptor : ComponentDescriptor) (configuration : Properties) :
    Run.Twins (Alike V) Eq (Provider.configure out₁ r component descriptor configuration)
      (Provider.configure out₂ r component descriptor configuration) := by
  apply (Alike.twins_changeProvider r _).bind
  intro _ _ _
  apply (twins_offerAll hmatched component descriptor configuration _).bind
  rintro services _ rfl
  split
  · exact Run.twins_pure rfl
  · apply (Run.Twins.mapM fun s _ => Alike.twins_service s).bind
    intro services₁ services₂ hsame
    rw [fieldsOf_of_detached hsame]
    apply (twins_note hmatched _ _).bind
    intro _ _ _
    apply (Alike.twins_changeProvider r _).bind
    exact fun _ _ _ => twins_attach hmatched component _ _

theorem twins_bindProperty (r : Ref .configurator) (component : Ref .component)
    (descriptor : ComponentDescriptor) (configuration : Properties) (element : Element) :
    Run.Twins (Alike V) Eq
      (Configurator.bindProperty out₁ r component descriptor configuration element)
      (Configurator.bindProperty out₂ r component descriptor configuration element) := by
  unfold Configurator.bindProperty
  dsimp only
  split
  · exact twins_note hmatched _ _
  · apply (twins_noteAll hmatched _ _).bind
    intro _ _ _
    apply (Alike.twins_changeComponent component _).bind
    intro _ _ _
    apply (Alike.twins_addProperty _).bind
    rintro added _ rfl
    exact Alike.twins_changeConfigurator r (fun _ => rfl) fun _ => rfl

omit hmatched in
theorem twins_injectTyped (configuration : Properties) (r : Ref .property) :
    Run.Twins (Alike V) Eq (Configurator.injectTyped configuration r : Run σ Unit)
      (Configurator.injectTyped configuration r) := by
  apply (Alike.twins_property r).bind
  rintro property _ rfl
  split
  · exact Alike.twins_setProperty r _
  · exact Run.twins_pure rfl

theorem twins_configurator_configure (r : Ref .configurator) (component : Ref .component)
    (descriptor : ComponentDescriptor) (configuration : Properties) :
    Run.Twins (Alike V) Eq (Configurator.configure out₁ r component descriptor configuration)
      (Configurator.configure out₂ r component descriptor configuration) := by
  apply (Alike.twins_resetConfigurator r component).bind
  intro _ _ _
  split
  · exact Run.twins_pure rfl
  · apply (Run.Twins.forM fun element _ =>
      twins_bindProperty hmatched r component descriptor configuration element).bind
    intro _ _ _
    apply Alike.twins_platform.bind
    intro p₁ p₂ hsettings
    dsimp only
    rw [hsettings]
    apply Run.Twins.bind
    · exact Alike.twins_changeConfigurator r (fun _ => rfl) fun _ => rfl
    intro _ _ _
    apply (Alike.twins_configurator r).bind
    rintro c _ ⟨publication, rfl, -⟩
    split
    · exact Run.twins_pure rfl
    · apply (Run.Twins.forM fun property _ => twins_injectTyped configuration property).bind
      intro _ _ _
      apply (Run.Twins.mapM fun property _ => Alike.twins_property property).bind
      intro properties₁ properties₂ hsame
      rw [List.forall₂_eq_eq_eq] at hsame
      subst hsame
      apply (twins_attach hmatched component _ _).bind
      exact fun _ _ _ => twins_note hmatched _ _

theorem twins_caller_configure (r : Ref .caller) (component : Ref .component)
    (descriptor : ComponentDescriptor) :
    Run.Twins (Alike V) Eq (Caller.configure out₁ r component descriptor)
      (Caller.configure out₂ r component descriptor) := by
  unfold Caller.configure
  apply (Alike.twins_component component).bind
  rintro c _ rfl
  dsimp only
  obtain ⟨callbacks, notes⟩ := Caller.readCallbacks descriptor.className c.methods
    (descriptor.root.childrenNamed "callback")
  apply (twins_noteAll hmatched notes notes).bind
  intro _ _ _
  apply (Alike.twins_changeCaller r _).bind
  intro _ _ _
  split
  · exact Run.twins_pure rfl
  · apply (twins_attach hmatched component _ _).bind
    exact fun _ _ _ => twins_note hmatched _ _

theorem twins_handler_configure (component : Ref .component) (descriptor : ComponentDescriptor)
    (configuration : Properties) (handler : Handler) :
    Run.Twins (Alike V) Eq (handler.configure out₁ component descriptor configuration)
      (handler.configure out₂ component descriptor configuration) := by
  cases handler with
  | provider r => exact twins_provider_configure hmatched r component descriptor configuration
  | configurator r =>
      exact twins_configurator_configure hmatched r component descriptor configuration
  | caller r => exact twins_caller_configure hmatched r component descriptor
  | guest name number => exact hmatched.configure number component descriptor configuration

theorem twins_configure (r : Ref .component) (candidates : List Handler)
    (configuration : Properties) :
    Run.Twins (Alike V) Eq (Component.configure out₁ r candidates configuration)
      (Component.configure out₂ r candidates configuration) := by
  apply Alike.twins_holding
  apply (Alike.twins_component r).bind
  rintro c _ rfl
  apply (Run.Twins.forM fun handler _ =>
    twins_handler_configure hmatched r c.descriptor configuration handler).bind
  intro _ _ _
  apply (Alike.twins_component r).bind
  exact fun _ _ _ => twins_note hmatched _ _

/-! ## Operations of an ensemble -/

theorem twins_operation (e : Ensemble) (operation : Ensemble.Operation) :
    Run.Twins (Alike V) Eq (operation.run out₁ e) (operation.run out₂ e) := by
  cases operation with
  | start => exact twins_start hmatched e.component
  | stop => exact twins_stop hmatched e.component
  | checkValidity => exact twins_checkValidity hmatched e.component
  | setState state => exact twins_setState hmatched e.component state
  | setField field value => exact twins_setField hmatched e.component field value
  | update configuration => exact twins_updated hmatched e.configurator configuration

/-- Methods that perform operations over collaborators that match are twins, and so may be
the bodies of the next layer. -/
theorem twins_performing (e : Ensemble) (operations : List Ensemble.Operation) (ending : Ending) :
    Run.Twins (Alike V) Eq (e.performing out₁ operations ending)
      (e.performing out₂ operations ending) := by
  apply (Run.Twins.forM fun operation _ => twins_operation hmatched e operation).bind
  exact fun _ _ _ => Run.twins_pure rfl

end Layer

end Componentry
