import Componentry.Proofs.Handler.Seclusion
import Componentry.Proofs.Registration.Masking

/-!
# Handlers in any order

Where nobody calls back the three handlers of a component may be configured in any order.
Each acts on its own side, so that worlds which are level, in which nothing differs but the
order of handlers, stay level whatever a component is asked for.

Reads alone may tell the order: a field is passed on from handler to handler, and the last
one that has a value for it decides. They do not if the handlers that have one agree, or
stand in the same order. So a group of sides may be level too, for which an order is kept.
-/

namespace Componentry

variable {σ α β : Type}

/-- A run does what an equal one does. -/
theorem Run.Returns.of_run_eq {m m' : Run σ α} {w : World σ} {post : α → World σ → Prop}
    (h : m'.Returns w post) (hrun : m.run w = m'.run w) : m.Returns w post := by
  rwa [Run.Returns, hrun]

/-! ## Level worlds -/

/-- Groups of sides, for which an order of handlers is kept. A side by itself is a group. -/
structure Grouping where
  holds : List Side → Prop
  alone : ∀ side, holds [side]

/-- The groups of sides whose handlers stand in the same order in two lists. -/
def Grouping.between (handlers₁ handlers₂ : List Handler)
    (halone : ∀ side, Handler.on [side] handlers₁ = Handler.on [side] handlers₂) : Grouping where
  holds sides := Handler.on sides handlers₁ = Handler.on sides handlers₂
  alone := halone

/-- Worlds in which nothing differs but the order of handlers of different groups and what
others can see of components. -/
def Level (premises : σ → Premises) (grouping : Grouping) (w₁ w₂ : World σ) : Prop :=
  ∀ sides, grouping.holds sides → Akin premises sides w₁ w₂

/-- Components in which nothing differs but the order of handlers of different groups and what
others can see. -/
structure Component.Level (grouping : Grouping) (c₁ c₂ : Component) : Prop where
  core : c₁.core = c₂.core
  attachments : ∀ sides, grouping.holds sides → c₁.attachmentsOn sides = c₂.attachmentsOn sides

section Level

variable {premises : σ → Premises} {grouping : Grouping} {w₁ w₂ : World σ}

/-- Level components are the same in whatever is read off their cores. -/
theorem Component.Level.same {c₁ c₂ : Component} (h : c₁.Level grouping c₂) {g : Component → α}
    (hcore : ∀ c, g c = g c.core) : g c₁ = g c₂ := by
  rw [hcore, h.core, ← hcore]

/-- The provider of a component is a handler on the side of providers. -/
theorem Handler.findSome?_on (handlers : List Handler) :
    (Handler.on [.provider] handlers).findSome? Handler.provider? =
      handlers.findSome? Handler.provider? := by
  induction handlers with
  | nil => rfl
  | cons handler rest ih =>
      cases handler with
      | provider r => rfl
      | _ => exact ih

theorem Component.Level.provider? {c₁ c₂ : Component} (h : c₁.Level grouping c₂) :
    c₁.provider? = c₂.provider? := by
  rw [Component.provider?, Component.provider?, ← Handler.findSome?_on,
    Component.handlers_on (h.attachments _ (grouping.alone .provider)), Handler.findSome?_on]

theorem Level.refl (w : World σ) : Level premises grouping w w := fun _ _ => .refl w

theorem Level.symm (h : Level premises grouping w₁ w₂) : Level premises grouping w₂ w₁ :=
  fun sides hsides => (h sides hsides).symm

theorem Level.component (h : Level premises grouping w₁ w₂) (r : Ref .component) :
    (w₁.component r).Level grouping (w₂.component r) :=
  ⟨(h _ (grouping.alone .provider)).core r, fun sides hsides => (h sides hsides).attachments r⟩

/-- Runs that meet on the sides of every group leave worlds level. -/
theorem meets_level {agree : α → β → Prop} {m₁ : Run σ α} {m₂ : Run σ β}
    (hm : ∀ sides, grouping.holds sides → Run.Meets (Akin premises sides) agree m₁ m₂) :
    Run.Meets (Level premises grouping) agree m₁ m₂ := by
  intro w₁ w₂ h
  have : Nonempty { sides // grouping.holds sides } := ⟨⟨[.provider], grouping.alone .provider⟩⟩
  have hmeets := fun group : { sides // grouping.holds sides } =>
    hm group.1 group.2 w₁ w₂ (h group.1 group.2)
  refine (Run.returns_forall hmeets).mono ?_
  intro a u₁ hreturns
  refine (Run.returns_forall hreturns).mono ?_
  intro b u₂ hends
  exact ⟨fun sides hsides => (hends ⟨sides, hsides⟩).1,
    (hends ⟨[.provider], grouping.alone .provider⟩).2⟩

/-- Loops over handlers that stand in the same order in every group come to the same. -/
theorem Sided.level {f : Handler → Run σ Unit} (hf : Sided premises f)
    {handlers₁ handlers₂ : List Handler}
    (hsame : ∀ sides, grouping.holds sides →
      Handler.on sides handlers₁ = Handler.on sides handlers₂) :
    Run.Meets (Level premises grouping) Eq (handlers₁.forM f) (handlers₂.forM f) :=
  meets_level fun sides hsides => meets_forM hf (hsame sides hsides)

/-- A run within a side leaves worlds level. -/
theorem Within.level {side : Side} {m : Run σ α} (hm : Within premises side m) :
    Run.Meets (Level premises grouping) Eq m m := by
  intro w₁ w₂ h
  have : Nonempty { sides // grouping.holds sides ∧ side ∈ sides } :=
    ⟨⟨[side], grouping.alone side, List.mem_cons_self⟩⟩
  have hmeets := fun group : { sides // grouping.holds sides ∧ side ∈ sides } =>
    hm.meets group.1 group.2.2 w₁ w₂ (h group.1 group.2.1)
  refine ((Run.returns_forall hmeets).and (hm.aside w₁)).mono ?_
  rintro a u₁ ⟨hreturns, haside₁⟩
  refine ((Run.returns_forall hreturns).and (hm.aside w₂)).mono ?_
  rintro b u₂ ⟨hends, haside₂⟩
  refine ⟨fun sides hsides => ?_, (hends ⟨[side], grouping.alone side, List.mem_cons_self⟩).2⟩
  -- On groups with the side the runs meet, and on others nothing has been seen of either.
  by_cases hside : side ∈ sides
  · exact (hends ⟨sides, hsides, hside⟩).1
  · exact ((haside₁ sides hside).symm.trans (h sides hsides)).trans (haside₂ sides hside)

/-- Idle runs meet, whatever they are. -/
theorem Idles.level {agree : α → β → Prop} {m₁ : Run σ α} {m₂ : Run σ β}
    (h₁ : Idles premises m₁) (h₂ : Idles premises m₂) (hagree : ∀ a b, agree a b) :
    Run.Meets (Level premises grouping) agree m₁ m₂ :=
  meets_level fun sides _ => h₁.meets h₂ hagree sides

theorem meets_component (r : Ref .component) :
    Run.Meets (Level premises grouping) (Component.Level grouping)
      (Run.component r : Run σ Component) (Run.component r) :=
  fun _ _ h => ⟨_, _, rfl, _, _, rfl, h, h.component r⟩

/-- The same change of a component, which leaves its handlers alone. -/
theorem meets_changeComponent (r : Ref .component) {f : Component → Component}
    (hcore : ∀ c₁ c₂, c₁.core = c₂.core → (f c₁).core = (f c₂).core)
    (hattachments : ∀ c, (f c).attachments = c.attachments) :
    Run.Meets (Level premises grouping) Eq (Run.changeComponent r f : Run σ Unit)
      (Run.changeComponent r f) := by
  apply meets_level
  intro sides _ w₁ w₂ h
  refine ⟨_, _, rfl, _, _, rfl, h.changeComponent r hcore ?_, rfl⟩
  intro c₁ c₂ hsame
  simpa only [Component.attachmentsOn, hattachments] using hsame

theorem meets_changeState (r : Ref .component) (state : Validity) :
    Run.Meets (Level premises grouping) Eq
      (Run.changeComponent r fun c => { c with state := state } : Run σ Unit)
      (Run.changeComponent r fun c => { c with state := state }) := by
  apply meets_changeComponent r
  · intro c₁ c₂ hcore
    exact congrArg (fun c : Component => { c with state := state }) hcore
  · exact fun _ => rfl

theorem meets_holding {agree : α → β → Prop} {m₁ : Run σ α} {m₂ : Run σ β} (r : Ref .component)
    (hm : Run.Meets (Level premises grouping) agree m₁ m₂) :
    Run.Meets (Level premises grouping) agree (Run.holding r m₁) (Run.holding r m₂) := by
  intro w₁ w₂ h
  rw [Run.returns_holding]
  refine (hm _ _ fun sides hsides => (h sides hsides).hold r).mono fun a u₁ hends => ?_
  rw [Run.returns_holding]
  refine hends.mono ?_
  rintro b u₂ ⟨hlevel, hagree⟩
  exact ⟨fun sides hsides => (hlevel sides hsides).release r, hagree⟩

theorem meets_whileAlive {r : Option (Ref .component)} {m₁ m₂ : Ref .component → Run σ Unit}
    (hm : ∀ s, Run.Meets (Level premises grouping) Eq (m₁ s) (m₂ s)) :
    Run.Meets (Level premises grouping) Eq (Run.whileAlive r m₁) (Run.whileAlive r m₂) := by
  cases r with
  | none => exact Run.meets_pure rfl
  | some s =>
      apply (meets_component s).bind
      intro c₁ c₂ hlevel
      rw [hlevel.same (g := Component.isAlive) fun _ => rfl]
      split
      · exact meets_holding s (hm s)
      · exact Run.meets_pure rfl

end Level

/-! ## What a component is asked for -/

section Asked

variable {premises : σ → Premises} {grouping : Grouping} {out : Collaborators σ}
  (hout : Secluded premises out)
include hout

/-- Notes need not be the same. -/
theorem meets_note (record₁ record₂ : Log.Record) :
    Run.Meets (Level premises grouping) Eq (out.note record₁) (out.note record₂) :=
  (idles_note hout record₁).level (idles_note hout record₂) fun _ _ => rfl

theorem meets_tell (event₁ event₂ : Event) :
    Run.Meets (Level premises grouping) Eq (out.tell event₁) (out.tell event₂) :=
  (idles_tell hout event₁).level (idles_tell hout event₂) fun _ _ => rfl

theorem meets_configure (r : Ref .component) {candidates₁ candidates₂ : List Handler}
    (hsame : ∀ sides, grouping.holds sides →
      Handler.on sides candidates₁ = Handler.on sides candidates₂)
    (configuration : Properties) :
    Run.Meets (Level premises grouping) Eq (Component.configure out r candidates₁ configuration)
      (Component.configure out r candidates₂ configuration) := by
  apply meets_holding r
  apply (meets_component r).bind
  intro c₁ c₂ hlevel
  rw [hlevel.same (g := Component.descriptor) fun _ => rfl]
  apply ((sided_configure hout r c₂.descriptor configuration).level hsame).bind
  intro _ _ _
  apply (meets_component r).bind
  exact fun _ _ _ => meets_note hout _ _

/-- Where the component has come to a state, all handlers are told of it: none of them
changes the state. -/
theorem run_dispatch {r : Ref .component} {state : Validity} {w : World σ}
    (hstate : (w.component r).state = state) (handlers : List Handler) :
    (Component.dispatch out r state handlers).run w =
      (handlers.forM (Handler.stateChanged out state)).run w := by
  induction handlers generalizing w with
  | nil => rfl
  | cons handler rest ih =>
      -- The state is in the core, which the handler leaves: the next one is told as well.
      obtain ⟨_, u, hrun, hcore⟩ := (sided_stateChanged hout state).core handler w
      have hstate' : (u.component r).state = state :=
        (congrArg Component.state (hcore r)).trans hstate
      have htold : (Component.dispatch out r state (handler :: rest)).run w =
          (do handler.stateChanged out state; Component.dispatch out r state rest).run w := by
        change (if (w.component r).state ≠ state then _ else _ : Run σ Unit).run w = _
        rw [if_neg (not_not.mpr hstate)]
      rw [htold, List.forM_eq_forM, List.forM_cons, StateT.run_bind, StateT.run_bind, hrun]
      exact ih hstate'

theorem idles_superseded {r : Ref .component} {state : Validity} {w : World σ}
    (hstate : (w.component r).state ≠ state) (handlers : List Handler) :
    (Component.dispatch out r state handlers).Returns w fun _ => Idle premises w := by
  cases handlers with
  | nil => exact (Run.returns_pure _).mpr ⟨rfl, rfl⟩
  | cons handler rest =>
      simp only [Component.dispatch, Run.returns_bind, Run.returns_component]
      rw [if_pos hstate]
      exact idles_note hout _ w

theorem meets_dispatch (r : Ref .component) (state : Validity) {handlers₁ handlers₂ : List Handler}
    (hsame : ∀ sides, grouping.holds sides →
      Handler.on sides handlers₁ = Handler.on sides handlers₂) :
    Run.Meets (Level premises grouping) Eq (Component.dispatch out r state handlers₁)
      (Component.dispatch out r state handlers₂) := by
  intro w₁ w₂ h
  have hsameState : (w₁.component r).state = (w₂.component r).state :=
    (h.component r).same fun _ => rfl
  by_cases hstate : (w₁.component r).state = state
  · have htold := (sided_stateChanged hout state).level hsame w₁ w₂ h
    apply Run.Returns.of_run_eq _ (run_dispatch hout hstate handlers₁)
    refine htold.mono fun _ u₁ hends => ?_
    exact hends.of_run_eq (run_dispatch hout (hsameState.symm.trans hstate) handlers₂)
  · refine (idles_superseded hout hstate handlers₁).mono fun _ u₁ hidle₁ => ?_
    rw [hsameState] at hstate
    refine (idles_superseded hout hstate handlers₂).mono fun _ u₂ hidle₂ => ?_
    refine ⟨fun sides hsides => ?_, rfl⟩
    exact ((Akin.of_idle hidle₁).symm.trans (h sides hsides)).trans (.of_idle hidle₂)

theorem meets_setState (r : Ref .component) (state : Validity) :
    Run.Meets (Level premises grouping) Eq (Component.setState out r state)
      (Component.setState out r state) := by
  apply meets_holding r
  apply (meets_component r).bind
  intro c₁ c₂ hlevel
  dsimp only
  rw [hlevel.same (g := Component.state) fun _ => rfl]
  split
  · exact Run.meets_pure rfl
  · apply (meets_changeState r state).bind
    intro _ _ _
    apply (meets_note hout _ _).bind
    intro _ _ _
    apply (meets_tell hout _ _).bind
    intro _ _ _
    apply (meets_component r).bind
    intro d₁ d₂ hlevel'
    exact meets_dispatch hout r state fun sides hsides =>
      Component.handlers_on (hlevel'.attachments sides hsides)

/-- All handlers are ready, also guests. -/
theorem returns_allReady (handlers : List Handler) (w : World σ) :
    (Component.allReady out handlers).Returns w fun answer w' =>
      answer = true ∧ Idle premises w w' := by
  induction handlers generalizing w with
  | nil => exact (Run.returns_pure _).mpr ⟨rfl, rfl, rfl⟩
  | cons handler rest ih =>
      have hready : (handler.isReady out).Returns w fun answer w' =>
          answer = true ∧ Idle premises w w' := by
        cases handler with
        | guest _ number => exact hout.ready number w
        | _ => exact (Run.returns_pure _).mpr ⟨rfl, rfl, rfl⟩
      rw [Component.allReady, Run.returns_bind]
      refine hready.mono ?_
      rintro _ u ⟨rfl, hfirst⟩
      refine (ih u).mono ?_
      rintro _ v ⟨rfl, hrest⟩
      exact ⟨rfl, hrest.1.trans hfirst.1, hrest.2.trans hfirst.2⟩

theorem meets_checkValidity (r : Ref .component) :
    Run.Meets (Level premises grouping) Eq (Component.checkValidity out r)
      (Component.checkValidity out r) := by
  apply meets_holding r
  apply (meets_component r).bind
  intro c₁ c₂ _
  have hready : Run.Meets (Level premises grouping) Eq (Component.allReady out c₁.handlers)
      (Component.allReady out c₂.handlers) := by
    intro w₁ w₂ h
    refine (returns_allReady hout c₁.handlers w₁).mono fun _ u₁ ⟨hready₁, hidle₁⟩ => ?_
    refine (returns_allReady hout c₂.handlers w₂).mono fun _ u₂ ⟨hready₂, hidle₂⟩ => ?_
    refine ⟨fun sides hsides => ?_, hready₁.trans hready₂.symm⟩
    exact ((Akin.of_idle hidle₁).symm.trans (h sides hsides)).trans (.of_idle hidle₂)
  apply hready.bind
  rintro ready _ rfl
  exact meets_setState hout r _

theorem meets_start (r : Ref .component) :
    Run.Meets (Level premises grouping) Eq (Component.start out r) (Component.start out r) := by
  apply meets_holding r
  apply (meets_component r).bind
  intro c₁ c₂ hlevel
  apply ((sided_start hout).level fun sides hsides =>
    Component.handlers_on (hlevel.attachments sides hsides)).bind
  intro _ _ _
  apply (meets_note hout _ _).bind
  exact fun _ _ _ => meets_checkValidity hout r

theorem meets_stop (r : Ref .component) :
    Run.Meets (Level premises grouping) Eq (Component.stop out r) (Component.stop out r) := by
  apply meets_holding r
  apply (meets_component r).bind
  intro c₁ c₂ hlevel
  apply ((sided_stop hout).level fun sides hsides =>
    Component.handlers_on (hlevel.attachments sides hsides)).bind
  intro _ _ _
  apply (meets_changeState r .invalid).bind
  exact fun _ _ _ => meets_note hout _ _

theorem meets_setField (r : Ref .component) (field : String) (value : Value) :
    Run.Meets (Level premises grouping) Eq (Component.setField out r field value)
      (Component.setField out r field value) := by
  apply meets_holding r
  apply (meets_component r).bind
  intro c₁ c₂ hlevel
  apply ((sided_fieldWritten hout field value).level fun sides hsides =>
    Component.interested_on (hlevel.attachments sides hsides) field).bind
  intro _ _ _
  apply meets_changeComponent r
  · intro c₁ c₂ hcore
    exact congrArg (fun c : Component => { c with fields := c.fields.insert field value }) hcore
  · exact fun _ => rfl

/-! ## Updates -/

omit hout in
theorem within_find? (name : String) (properties : List (Ref .property)) :
    Within premises .configurator
      (Configurator.find? name properties : Run σ (Option (Ref .property))) := by
  induction properties with
  | nil => exact .pure none
  | cons r rest ih =>
      apply (within_property r).bind
      intro property
      split
      · exact .pure _
      · exact ih

theorem meets_applyEntry (component : Ref .component) (r : Ref .property) (incoming : Value) :
    Run.Meets (Level premises grouping) Eq (Configurator.applyEntry out component r incoming)
      (Configurator.applyEntry out component r incoming) := by
  unfold Configurator.applyEntry
  apply (within_property r).level.bind
  rintro property _ rfl
  obtain ⟨value, notes⟩ := property.coerce incoming
  have hnotes : Within premises .configurator (out.noteAll notes) := within_noteAll hout notes
  apply hnotes.level.bind
  intro _ _ _
  split
  · exact Run.meets_pure rfl
  · split
    · exact meets_setField hout component _ _
    · exact (within_setProperty r _).level

theorem meets_applyEntries (component : Ref .component) (className : String)
    (properties : List (Ref .property)) (entries : List (String × Value)) :
    Run.Meets (Level premises grouping) Eq
      (Configurator.applyEntries out component className properties entries)
      (Configurator.applyEntries out component className properties entries) := by
  induction entries with
  | nil => exact Run.meets_pure rfl
  | cons entry rest ih =>
      unfold Configurator.applyEntries
      apply (within_find? entry.1 properties).level.bind
      rintro found _ rfl
      split
      · apply (meets_applyEntry hout component _ _).bind
        exact fun _ _ _ => ih
      · apply (meets_note hout _ _).bind
        intro _ _ _
        apply ih.bind
        rintro unmatched _ rfl
        exact Run.meets_pure rfl

theorem meets_propagate (r : Ref .configurator) (component : Ref .component)
    (entries : Properties) :
    Run.Meets (Level premises grouping) Eq (Configurator.propagate out r component entries)
      (Configurator.propagate out r component entries) := by
  unfold Configurator.propagate
  apply (within_configurator r).level.bind
  rintro c _ rfl
  dsimp only
  split
  · exact Run.meets_pure rfl
  · apply (meets_component component).bind
    intro holder₁ holder₂ hlevel
    rw [hlevel.provider?]
    split
    · exact meets_note hout _ _
    next provider _ =>
      apply (meets_note hout _ _).bind
      intro _ _ _
      let remember : Run σ Unit :=
        Run.changeConfigurator r fun c => { c with propagated := entries }
      have hremember : Run.Meets (Level premises grouping) Eq remember remember :=
        (within_changeConfigurator r _).level
      have hextend : Run.Meets (Level premises grouping) Eq
          (if !entries.isEmpty then Provider.extendAll out provider entries >>= fun _ => remember
            else remember)
          (if !entries.isEmpty then Provider.extendAll out provider entries >>= fun _ => remember
            else remember) := by
        split
        · apply (within_extendAll hout provider entries).level.bind
          exact fun _ _ _ => hremember
        · exact hremember
      split
      · apply (within_reduceAll hout provider c.propagated).level.bind
        exact fun _ _ _ => hextend
      · exact hextend

theorem meets_updated (r : Ref .configurator) (configuration : Option Properties) :
    Run.Meets (Level premises grouping) Eq (Configurator.updated out r configuration)
      (Configurator.updated out r configuration) := by
  apply (within_configurator r).level.bind
  rintro before _ rfl
  apply meets_whileAlive
  intro component
  apply (meets_component component).bind
  intro c₁ c₂ hlevel
  rw [hlevel.same (g := Component.className) fun _ => rfl]
  split
  · exact meets_note hout _ _
  · apply (meets_applyEntries hout component _ _ _).bind
    rintro unmatched _ rfl
    exact meets_propagate hout r component _

/-! ## Courses -/

theorem meets_operation (e : Ensemble) (operation : Ensemble.Operation) :
    Run.Meets (Level premises grouping) Eq (operation.run out e) (operation.run out e) := by
  cases operation with
  | start => exact meets_start hout e.component
  | stop => exact meets_stop hout e.component
  | checkValidity => exact meets_checkValidity hout e.component
  | setState state => exact meets_setState hout e.component state
  | setField field value => exact meets_setField hout e.component field value
  | update configuration => exact meets_updated hout e.configurator configuration

theorem meets_course (e : Ensemble) {candidates₁ candidates₂ : List Handler}
    (hsame : ∀ sides, grouping.holds sides →
      Handler.on sides candidates₁ = Handler.on sides candidates₂)
    (configuration : Properties) (operations : List Ensemble.Operation) :
    Run.Meets (Level premises grouping) Eq (e.course out candidates₁ configuration operations)
      (e.course out candidates₂ configuration operations) := by
  apply (meets_configure hout e.component hsame configuration).bind
  intro _ _ _
  exact Run.Meets.forM fun operation _ => meets_operation hout e operation

end Asked

/-! ## Reads -/

namespace World

/-- The value that a handler of the library has for a field, if it has one. -/
def reading (w : World σ) (field : String) : Handler → Option Value
  | .provider r => ((w.provider r).services.map w.service).findSome? (·.field? field)
  | .configurator r =>
      (((w.configurator r).properties.map w.property).find? (·.isBackedBy field)).bind
        ConfigurableProperty.value
  | .caller _ => none
  | .guest _ _ => none

/-- The values that interested handlers have for a field, in the order of the handlers. -/
def readings (w : World σ) (r : Ref .component) (field : String) : List Value :=
  ((w.component r).interested field).filterMap (w.reading field)

/-- What a field comes to: the last handler that has a value for it decides. -/
def fieldValue (w : World σ) (r : Ref .component) (field : String) : Option Value :=
  (w.readings r field).getLast?.or ((w.component r).fields.get? field)

/-- No two handlers have different values for a field. -/
def Undisputed (w : World σ) (r : Ref .component) (field : String) : Prop :=
  ∀ value ∈ w.readings r field, ∀ other ∈ w.readings r field, value = other

theorem reading_of_platform {w w' : World σ} (hplatform : w'.platform = w.platform)
    (field : String) : w'.reading field = w.reading field := by
  obtain ⟨_, hservice, hproperty, hprovider, hconfigurator, _⟩ := objects_of_platform hplatform
  funext handler
  cases handler with
  | provider r => rw [reading, reading, hprovider, hservice]
  | configurator r => rw [reading, reading, hconfigurator, hproperty]
  | _ => rfl

end World

section Reads

variable {premises : σ → Premises} {grouping : Grouping} {out : Collaborators σ} {w₁ w₂ : World σ}

/-- A handler of the library passes its own value on, or else the one that it is given. -/
theorem returns_readField_of_library {handler : Handler} (hlibrary : handler.guest? = none)
    (field : String) (value : Option Value) (w : World σ) :
    (handler.readField out field value).Returns w fun answer w' =>
      answer = (w.reading field handler).or value ∧ w' = w := by
  cases handler with
  | provider r =>
      simp only [Handler.readField, Provider.readField, Run.returns_bind, Run.returns_provider,
        Run.returns_mapM_service]
      exact (Run.returns_pure _).mpr ⟨rfl, rfl⟩
  | configurator r =>
      simp only [Handler.readField, Configurator.readField, Run.returns_bind,
        Run.returns_configurator, Run.returns_mapM_property]
      exact (Run.returns_pure _).mpr ⟨rfl, rfl⟩
  | caller r => exact (Run.returns_pure _).mpr ⟨rfl, rfl⟩
  | guest name number => cases hlibrary

/-- A handler passes its own value on, or else the one that it is given. -/
theorem returns_readField (hout : Secluded premises out) (field : String) (value : Option Value)
    (handler : Handler) (w : World σ) :
    (handler.readField out field value).Returns w fun answer w' =>
      answer = (w.reading field handler).or value ∧ w'.platform = w.platform := by
  cases hguest : handler.guest? with
  | none =>
      refine (returns_readField_of_library hguest field value w).mono ?_
      rintro answer _ ⟨hanswer, rfl⟩
      exact ⟨hanswer, rfl⟩
  | some number =>
      cases handler with
      | guest _ number =>
          exact (hout.read number field value w).mono fun _ _ h => ⟨h.1, h.2.1⟩
      | _ => cases hguest

/-- Where each handler passes its own value on, or else the one that it is given, the last one
that has a value decides. -/
theorem returns_readFields {field : String} {handlers : List Handler}
    (hread : ∀ handler ∈ handlers, ∀ value w, (handler.readField out field value).Returns w
      fun answer w' => answer = (w.reading field handler).or value ∧ w'.platform = w.platform)
    (value : Option Value) (w : World σ) :
    (handlers.foldlM (fun value (handler : Handler) => handler.readField out field value)
      value).Returns w fun answer _ =>
        answer = (handlers.filterMap (w.reading field)).getLast?.or value := by
  induction handlers generalizing value w with
  | nil => exact (Run.returns_pure _).mpr rfl
  | cons handler rest ih =>
      rw [List.foldlM_cons, Run.returns_bind]
      refine (hread handler List.mem_cons_self value w).mono ?_
      rintro _ u ⟨rfl, hplatform⟩
      refine (ih (fun other hother => hread other (List.mem_cons_of_mem handler hother)) _ u).mono ?_
      rintro _ v rfl
      rw [World.reading_of_platform hplatform]
      cases hreading : w.reading field handler with
      | none => rw [List.filterMap_cons_none hreading, Option.none_or]
      | some own =>
          rw [List.filterMap_cons_some hreading, List.getLast?_cons]
          cases (rest.filterMap (w.reading field)).getLast? <;> rfl

/-- A read of a field returns what the field comes to. -/
theorem returns_getField_of_reads {r : Ref .component} {field : String} {w : World σ}
    (hread : ∀ handler ∈ (w.component r).interested field, ∀ value u,
      (handler.readField out field value).Returns u
        fun answer u' => answer = (u.reading field handler).or value ∧ u'.platform = u.platform) :
    (Component.getField out r field).Returns w fun value _ => value = w.fieldValue r field := by
  have hheld : (w.hold r).component r = { w.component r with holds := (w.component r).holds + 1 } :=
    by simp [World.hold]
  rw [Component.getField, Run.returns_holding]
  simp only [Run.returns_bind, Run.returns_component, hheld]
  exact returns_readFields hread _ (w.hold r)

theorem returns_getField (hout : Secluded premises out) (r : Ref .component) (field : String)
    (w : World σ) :
    (Component.getField out r field).Returns w fun value _ => value = w.fieldValue r field :=
  returns_getField_of_reads fun handler _ value u => returns_readField hout field value handler u

theorem Level.reading (h : Level premises grouping w₁ w₂) (field : String) :
    w₁.reading field = w₂.reading field := by
  obtain ⟨hprovider, hservice, -, -⟩ :=
    (h _ (grouping.alone .provider)).offered List.mem_cons_self
  obtain ⟨hconfigurator, hproperty, -, -⟩ :=
    (h _ (grouping.alone .configurator)).bound List.mem_cons_self
  funext handler
  cases handler with
  | provider r => rw [World.reading, World.reading, hprovider, hservice]
  | configurator r => rw [World.reading, World.reading, hconfigurator, hproperty]
  | _ => rfl

/-- In level worlds handlers have the same values for a field. -/
theorem Level.mem_readings (h : Level premises grouping w₁ w₂) {r : Ref .component}
    {field : String} {value : Value} (hvalue : value ∈ w₁.readings r field) :
    value ∈ w₂.readings r field := by
  obtain ⟨handler, hhandler, hreading⟩ := List.mem_filterMap.mp hvalue
  obtain ⟨side, hside⟩ : ∃ side, handler.side? = some side := by
    cases handler with
    | provider _ => exact ⟨.provider, rfl⟩
    | configurator _ => exact ⟨.configurator, rfl⟩
    | caller _ => cases hreading
    | guest _ _ => cases hreading
  have hon : handler ∈ Handler.on [side] ((w₁.component r).interested field) :=
    List.mem_filter.mpr ⟨hhandler, (Handler.isOn_of_side hside).mpr List.mem_cons_self⟩
  rw [Component.interested_on ((h.component r).attachments _ (grouping.alone side))] at hon
  rw [h.reading] at hreading
  exact List.mem_filterMap.mpr ⟨handler, (List.mem_filter.mp hon).1, hreading⟩

/-- If the handlers that have values are a group, they stand in the same order in level
worlds. -/
theorem Level.readings (h : Level premises grouping w₁ w₂)
    (hgroup : grouping.holds [.provider, .configurator]) (r : Ref .component) (field : String) :
    w₁.readings r field = w₂.readings r field := by
  have hon : ∀ handlers : List Handler, handlers.filterMap (w₁.reading field) =
      (Handler.on [.provider, .configurator] handlers).filterMap (w₁.reading field) := by
    intro handlers
    rw [Handler.on, List.filterMap_filter]
    apply List.filterMap_congr
    intro handler _
    cases handler <;> rfl
  rw [World.readings, World.readings, ← h.reading, hon,
    Component.interested_on ((h.component r).attachments _ hgroup), ← hon]

/-- In level worlds an undisputed field has the same last value. -/
theorem Level.getLast?_readings (h : Level premises grouping w₁ w₂) {r : Ref .component}
    {field : String} (hundisputed : w₁.Undisputed r field) :
    (w₁.readings r field).getLast? = (w₂.readings r field).getLast? := by
  cases hlast₁ : (w₁.readings r field).getLast? with
  | none =>
      have hnone : w₂.readings r field = [] := by
        apply List.eq_nil_iff_forall_not_mem.mpr
        intro value hvalue
        have hmem := h.symm.mem_readings hvalue
        rw [List.getLast?_eq_none_iff.mp hlast₁] at hmem
        cases hmem
      rw [hnone]
      rfl
  | some value =>
      have hvalue : value ∈ w₁.readings r field := List.mem_of_getLast? hlast₁
      cases hlast₂ : (w₂.readings r field).getLast? with
      | none =>
          have hmem := h.mem_readings hvalue
          rw [List.getLast?_eq_none_iff.mp hlast₂] at hmem
          cases hmem
      | some other =>
          have hother := h.symm.mem_readings (List.mem_of_getLast? hlast₂)
          rw [hundisputed value hvalue other hother]

/-- In level worlds a field comes to the same if the handlers that have values stand in the same
order, or have the same value. -/
theorem Level.fieldValue (h : Level premises grouping w₁ w₂) {r : Ref .component} {field : String}
    (hsettled : grouping.holds [.provider, .configurator] ∨ w₁.Undisputed r field) :
    w₁.fieldValue r field = w₂.fieldValue r field := by
  -- What is stored is in the core, so only the last value of a handler can differ.
  have hlast : (w₁.readings r field).getLast? = (w₂.readings r field).getLast? := by
    rcases hsettled with hgroup | hundisputed
    · rw [h.readings hgroup]
    · exact h.getLast?_readings hundisputed
  have hstored : (w₁.component r).fields = (w₂.component r).fields :=
    (h.component r).same fun _ => rfl
  rw [World.fieldValue, World.fieldValue, hlast, hstored]

end Reads

/-! ## Any order -/

/-- An ensemble that was configured with candidates in one world, and with its handlers in their
own order in the other, is the same in all that can be seen of it. Only a field that its
handlers dispute may read differently, as the last handler decides, and only if the
configurator came before the provider. -/
structure Uniform (premises : σ → Premises) (out : Collaborators σ) (e : Ensemble)
    (candidates : List Handler) (w₁ w₂ : World σ) : Prop where
  state : (w₁.component e.component).state = (w₂.component e.component).state
  properties : (w₁.configurator e.configurator).properties.map (fun r => (w₁.property r).value) =
    (w₂.configurator e.configurator).properties.map fun r => (w₂.property r).value
  services : (w₁.provider e.provider).services.map (fun r => (w₁.service r).visible) =
    (w₂.provider e.provider).services.map fun r => (w₂.service r).visible
  registry : (premises w₁.surroundings).registry = (premises w₂.surroundings).registry
  host : (premises w₁.surroundings).host = (premises w₂.surroundings).host
  read₁ : ∀ field, (Component.getField out e.component field).Returns w₁ fun value _ =>
    value = w₁.fieldValue e.component field
  read₂ : ∀ field, (Component.getField out e.component field).Returns w₂ fun value _ =>
    value = w₂.fieldValue e.component field
  fields : ∀ field,
    [.provider e.provider, .configurator e.configurator].Sublist candidates ∨
      w₁.Undisputed e.component field →
    w₁.fieldValue e.component field = w₂.fieldValue e.component field

section Order

variable {premises : σ → Premises} {out : Collaborators σ} {e : Ensemble}
  {candidates : List Handler}

/-- An ensemble has one handler on each side, in whatever order they are named. -/
theorem Ensemble.on_alone (hcandidates : candidates.Perm e.handlers) (side : Side) :
    Handler.on [side] candidates = Handler.on [side] e.handlers := by
  have hone : ∃ handler, Handler.on [side] e.handlers = [handler] := by
    cases side with
    | provider => exact ⟨.provider e.provider, rfl⟩
    | configurator => exact ⟨.configurator e.configurator, rfl⟩
    | caller => exact ⟨.caller e.caller, rfl⟩
  obtain ⟨handler, hhandler⟩ := hone
  have hperm : (Handler.on [side] candidates).Perm (Handler.on [side] e.handlers) :=
    hcandidates.filter _
  rw [hhandler] at hperm ⊢
  exact List.perm_singleton.mp hperm

/-- Of the handlers that have values the provider comes first in an ensemble. -/
theorem Ensemble.on_both (hcandidates : candidates.Perm e.handlers)
    (hfirst : [.provider e.provider, .configurator e.configurator].Sublist candidates) :
    Handler.on [.provider, .configurator] candidates =
      Handler.on [.provider, .configurator] e.handlers := by
  have hperm : (Handler.on [.provider, .configurator] candidates).Perm
      (Handler.on [.provider, .configurator] e.handlers) := hcandidates.filter _
  have hsublist : (Handler.on [.provider, .configurator] e.handlers).Sublist
      (Handler.on [.provider, .configurator] candidates) :=
    hfirst.filter (Handler.isOn [.provider, .configurator])
  exact (hsublist.eq_of_length hperm.length_eq.symm).symm

theorem Level.uniform {w₁ w₂ : World σ} (hout : Secluded premises out)
    (hcandidates : candidates.Perm e.handlers)
    (h : Level premises (.between candidates e.handlers (Ensemble.on_alone hcandidates)) w₁ w₂) :
    Uniform premises out e candidates w₁ w₂ := by
  obtain ⟨hprovider, hservice, -, hregistry⟩ :=
    (h [.provider] (Ensemble.on_alone hcandidates .provider)).offered List.mem_cons_self
  obtain ⟨hconfigurator, hproperty, -, hhost⟩ :=
    (h [.configurator] (Ensemble.on_alone hcandidates .configurator)).bound List.mem_cons_self
  constructor
  · exact (h.component e.component).same fun _ => rfl
  · rw [hconfigurator, hproperty]
  · rw [hprovider, hservice]
  · exact hregistry
  · exact hhost
  · exact fun field => returns_getField hout e.component field w₁
  · exact fun field => returns_getField hout e.component field w₂
  · exact fun field hsettled =>
      h.fieldValue (hsettled.imp_left (Ensemble.on_both hcandidates))

/-- Where nobody calls back handlers may be configured in any order. Whatever operations
follow, they come to an end, and behind any number of them the ensemble is as it would be
with its handlers in their own order, but for fields that are disputed. -/
theorem handlers_in_any_order (hout : Secluded premises out)
    (hcandidates : candidates.Perm e.handlers) (configuration : Properties)
    (operations : List Ensemble.Operation) (w : World σ) :
    (e.course out candidates configuration operations).Returns w fun _ w₁ =>
      (e.course out e.handlers configuration operations).Returns w fun _ w₂ =>
        Uniform premises out e candidates w₁ w₂ := by
  have hmeets : Run.Meets
      (Level premises (.between candidates e.handlers (Ensemble.on_alone hcandidates))) Eq
      (e.course out candidates configuration operations)
      (e.course out e.handlers configuration operations) :=
    meets_course hout e (fun _ hsides => hsides) configuration operations
  refine (hmeets w w (.refl w)).mono fun _ w₁ hends => ?_
  exact hends.mono fun _ w₂ ⟨hlevel, _⟩ => hlevel.uniform hout hcandidates

end Order

/-! ## A gauge -/

/-- Collaborators that are no more than a registry and a host. -/
def Premises.collaborators : Collaborators Premises :=
  (Collaborators.inMemory registry (fun after p => { p with registry := after }) (fun _ p => p)
    fun _ => return .returned).hosting host fun after p => { p with host := after }

theorem Premises.secluded_collaborators : Secluded id collaborators :=
  secluded_inMemory (fun _ => rfl) (fun _ _ => rfl) (fun _ _ => rfl) (fun _ _ => rfl)
    fun _ => .pure _

/-- A component whose service and whose configurable property share a field, and begin with
different values for it. -/
def Component.gauge : Component :=
  .create
    (.build "Gauge" [("level", Value.textTypeName)] ["Meter"]
      [(Element.leaf "Provides").withChild
          (((Element.leaf "Property").withAttribute "field" "level").withAttribute "value" "low"),
        ((Element.leaf "Properties").withAttribute "configurable" "true").withChild
          (((Element.leaf "Property").withAttribute "field" "level").withAttribute "value" "high"),
        ((Element.leaf "callback").withAttribute "final" "VALID").withAttribute "method" "ring"])
    (.ofList [("ring", ⟨"ring", false, false, 0⟩)])

/-- The gauge on a platform of its own. -/
def World.gauge : World Premises where
  platform :=
    { Platform.ofSettings .standard with components := (Store.empty.add Component.gauge).2 }
  surroundings := ⟨.empty, .empty⟩

/-- The gauge with its handlers, its service and its property. -/
def Ensemble.gauge : Ensemble := ⟨⟨0⟩, ⟨0⟩, ⟨0⟩, ⟨0⟩, [⟨0⟩], [⟨0⟩]⟩

/-- The gauge is started and configured anew, with its handlers the other way round: it is the
same, registered and published, and reads the same. -/
theorem handlers_in_any_order_gauge :
    ∃ w₁ w₂ : World Premises,
      (Ensemble.gauge.course Premises.collaborators Ensemble.gauge.handlers.reverse .empty
        [.start, .update (some (.ofList [("level", .text "full")]))]).run .gauge =
          some ((), w₁) ∧
      (Ensemble.gauge.course Premises.collaborators Ensemble.gauge.handlers .empty
        [.start, .update (some (.ofList [("level", .text "full")]))]).run .gauge =
          some ((), w₂) ∧
      (w₁.component ⟨0⟩).handlers = (w₂.component ⟨0⟩).handlers.reverse ∧
      (w₁.component ⟨0⟩).state = .valid ∧
      w₁.surroundings.registry.records.length = 1 ∧ w₁.surroundings.host.endpoints.length = 1 ∧
      (w₁.fieldValue ⟨0⟩ "level").bind Value.text? = some "full" ∧
      Uniform id Premises.collaborators .gauge Ensemble.gauge.handlers.reverse w₁ w₂ := by
  have hreturns := handlers_in_any_order Premises.secluded_collaborators
    (List.reverse_perm Ensemble.gauge.handlers) .empty
    [.start, .update (some (.ofList [("level", .text "full")]))] .gauge
  obtain ⟨⟨⟩, w₁, hrun₁, ⟨⟩, w₂, hrun₂, huniform⟩ := hreturns
  have hends : ((Ensemble.gauge.course Premises.collaborators Ensemble.gauge.handlers.reverse
      .empty [.start, .update (some (.ofList [("level", .text "full")]))]).run .gauge).bind
        (fun first => ((Ensemble.gauge.course Premises.collaborators Ensemble.gauge.handlers
          .empty [.start, .update (some (.ofList [("level", .text "full")]))]).run .gauge).map
            fun second =>
              decide ((first.2.component ⟨0⟩).handlers =
                  (second.2.component ⟨0⟩).handlers.reverse ∧
                (first.2.component ⟨0⟩).state = .valid ∧
                first.2.surroundings.registry.records.length = 1 ∧
                first.2.surroundings.host.endpoints.length = 1 ∧
                (first.2.fieldValue ⟨0⟩ "level").bind Value.text? = some "full")) =
          some true := by
    decide +kernel
  rw [hrun₁, hrun₂] at hends
  obtain ⟨horder, hvalid, hregistered, hpublished, hfull⟩ :=
    of_decide_eq_true (Option.some.inj hends)
  exact ⟨w₁, w₂, hrun₁, hrun₂, horder, hvalid, hregistered, hpublished, hfull, huniform⟩

/-- Reads may tell the order of handlers: as long as the gauge has not been written, whichever
of its handlers comes last decides what its field reads. -/
theorem order_told_by_reads :
    ¬ ∀ candidates : List Handler, candidates.Perm Ensemble.gauge.handlers →
      ((do Ensemble.gauge.course Premises.collaborators candidates .empty []
           Component.getField Premises.collaborators ⟨0⟩ "level").run .gauge).map Prod.fst =
        ((do Ensemble.gauge.course Premises.collaborators Ensemble.gauge.handlers .empty []
             Component.getField Premises.collaborators ⟨0⟩ "level").run .gauge).map Prod.fst := by
  intro hall
  have hsame := hall Ensemble.gauge.handlers.reverse (List.reverse_perm _)
  have htexts := congrArg (Option.map fun value => value.bind Value.text?) hsame
  revert htexts
  decide +kernel

end Componentry
