import Componentry.Proofs.Endpoint.Publishing

/-!
# Events of endpoints

Over a host in memory every endpoint that is published is announced, and so is every endpoint
that is withdrawn, but for one that is replaced: a publication that finds an older one withdraws
it without a word. Only a start publishes an endpoint where there is one already. So the
announced publications are the announced withdrawals, the live endpoints and the starts that
began with an endpoint published.

Whether a start began so cannot be seen afterwards, so the surroundings note it.
-/

namespace Componentry

variable {σ τ υ α : Type}

/-- A loop with one item that leads from one condition to another, while the other items keep
both, leads from the one to the other. -/
theorem Run.ensures_forM_once (unsettled settled : World σ → Prop) {herald : α} {f : α → Run σ Unit}
    {items : List α} (hherald : herald ∈ items) (hdistinct : items.Nodup)
    (hothers : ∀ a ∈ items, a ≠ herald → ∀ w, unsettled w → (f a).Ensures w fun _ => unsettled)
    (hbehind : ∀ a ∈ items, a ≠ herald → ∀ w, settled w → (f a).Ensures w fun _ => settled)
    (hsettles : ∀ w, unsettled w → (f herald).Ensures w fun _ => settled) {w : World σ}
    (hw : unsettled w) : (items.forM f).Ensures w fun _ => settled := by
  induction items generalizing w with
  | nil => cases hherald
  | cons a rest ih =>
      obtain ⟨hnot, hrest⟩ := List.nodup_cons.mp hdistinct
      rw [Run.ensures_forM_cons]
      by_cases heq : a = herald
      · refine (heq ▸ hsettles w hw).mono fun _ u hu => ?_
        refine Run.ensures_forM settled (fun b hb => ?_) hu
        exact hbehind b (List.mem_cons_of_mem a hb) fun hsame => hnot (heq ▸ hsame ▸ hb)
      · refine (hothers a List.mem_cons_self heq w hw).mono fun _ u hu => ?_
        refine ih ((List.mem_cons.mp hherald).resolve_left (Ne.symm heq)) hrest ?_ ?_ hu
        · exact fun b hb => hothers b (List.mem_cons_of_mem a hb)
        · exact fun b hb => hbehind b (List.mem_cons_of_mem a hb)

/-- How many of some events have a name. -/
def Event.count (name : String) (events : List Event) : Nat :=
  events.countP fun event => event.name == name

@[simp] theorem Event.count_append (name : String) (events added : List Event) :
    Event.count name (events ++ added) = Event.count name events + Event.count name added :=
  List.countP_append

@[simp] theorem Event.count_singleton (name : String) (event : Event) :
    Event.count name [event] = if event.name = name then 1 else 0 := by
  simp only [count, List.countP_singleton, beq_iff_eq]

/-- What the surroundings keep of endpoints. -/
structure Bulletin where
  host : Host Target
  /-- The announced events. -/
  events : List Event
  /-- How many starts have begun with an endpoint published. -/
  restarts : Nat

/-- Collaborators whose host and event channel are those of the bulletin, and that take turns only
while a method is called. -/
structure Announcing (bulletin : σ → Bulletin) (callbacks : World σ → World σ → Prop)
    (out : Collaborators σ) : Prop where
  log : ∀ record t, bulletin (out.log record t) = bulletin t
  announce : ∀ event t, bulletin (out.announce event t) =
    { bulletin t with events := (bulletin t).events ++ [event] }
  register : ∀ specifications properties factory w,
    (out.register specifications properties factory).Ensures w fun _ => Idle bulletin w
  unregister : ∀ handle w, (out.unregister handle).Ensures w fun _ => Idle bulletin w
  update : ∀ handle properties w,
    (out.update handle properties).Ensures w fun _ => Idle bulletin w
  publish : ∀ identity properties target w,
    (out.publish identity properties target).Ensures w fun answer w' =>
      w'.platform = w.platform ∧
        answer =
          .ok ((bulletin w.surroundings).host.publish identity properties target).1 ∧
        bulletin w'.surroundings =
          { bulletin w.surroundings with
            host := ((bulletin w.surroundings).host.publish identity properties target).2 }
  withdraw : ∀ handle w, (out.withdraw handle).Ensures w fun answer w' =>
    w'.platform = w.platform ∧
      match (bulletin w.surroundings).host.withdraw handle with
      | .ok after =>
          answer = .ok () ∧
            bulletin w'.surroundings = { bulletin w.surroundings with host := after }
      | .error failure =>
          answer = .error failure ∧ bulletin w'.surroundings = bulletin w.surroundings
  call : ∀ number component w,
    (out.call number component).Ensures w fun _ => Turn (Idle bulletin) callbacks w

/-- What happens to an ensemble: an operation other than starting ends, or a start for which it was
noted whether an endpoint was published when it began. -/
inductive Ensemble.Airs (bulletin : σ → Bulletin) (e : Ensemble) (out : Collaborators σ)
    (w w' : World σ) : Prop
  | operate (operation : Operation) (hother : operation ≠ .start)
      (hrun : (operation.run out e).run w = some ((), w'))
  | start {u : World σ} (hplatform : u.platform = w.platform)
      (hnoted : bulletin u.surroundings =
        { bulletin w.surroundings with
          restarts := (bulletin w.surroundings).restarts +
            (w.configurator e.configurator).publication.toList.length })
      (hrun : (Operation.start.run out e).run u = some ((), w'))

theorem Idle.weaken {view : σ → τ} (f : τ → υ) {w w' : World σ} (h : Idle view w w') :
    Idle (fun t => f (view t)) w w' :=
  ⟨h.1, congrArg f h.2⟩

theorem Aside.weaken {view : σ → τ} (f : τ → υ) {w w' : World σ} (h : Aside view w w') :
    Aside (fun t => f (view t)) w w' :=
  { h with surroundings := congrArg f h.surroundings }

/-- Such collaborators have their host in memory. -/
theorem Announcing.hosting {bulletin : σ → Bulletin} {callbacks : World σ → World σ → Prop}
    {out : Collaborators σ} (hout : Announcing bulletin callbacks out) :
    Hosting (fun t => (bulletin t).host) callbacks out where
  log record t := by rw [hout.log]
  announce event t := by rw [hout.announce]
  register _ _ _ w := (hout.register _ _ _ w).mono fun _ _ => Idle.weaken Bulletin.host
  unregister _ w := (hout.unregister _ w).mono fun _ _ => Idle.weaken Bulletin.host
  update _ _ w := (hout.update _ _ w).mono fun _ _ => Idle.weaken Bulletin.host
  publish identity properties target w := by
    refine (hout.publish identity properties target w).mono ?_
    rintro answer w' ⟨hplatform, hanswer, hbulletin⟩
    exact ⟨hplatform, hanswer, by rw [hbulletin]⟩
  withdraw handle w := by
    refine (hout.withdraw handle w).mono ?_
    rintro answer w' ⟨hplatform, hanswer⟩
    refine ⟨hplatform, ?_⟩
    cases hwithdraw : (bulletin w.surroundings).host.withdraw handle <;>
      rw [hwithdraw] at hanswer
    · exact ⟨hanswer.1, by rw [hanswer.2]⟩
    · exact ⟨hanswer.1, by rw [hanswer.2]⟩
  call number component w := by
    refine (hout.call number component w).mono fun _ w' hturn => ?_
    exact Relation.ReflTransGen.mono (fun _ _ => Or.imp_left (Idle.weaken Bulletin.host)) _ _ hturn

theorem World.className_hold (w : World σ) (r s : Ref .component) :
    ((w.hold r).component s).className = (w.component s).className :=
  w.component_changeComponent_same Component.className
    (f := fun c => { c with holds := c.holds + 1 }) (fun _ => rfl) r s

/-! ## The balance -/

/-- Since the bulletin was another, so many publications have been announced without the
announcement of a withdrawal. -/
def Bulletin.Since (before now : Bulletin) (unmatched : Nat) : Prop :=
  ∃ since, now.events = before.events ++ since ∧
    Event.count "configuration.published" since =
      Event.count "configuration.withdrawn" since + unmatched

theorem Bulletin.Since.append {before now after : Bulletin} {added : List Event} {m n : Nat}
    (h : before.Since now m) (hevents : after.events = now.events ++ added)
    (hadded : Event.count "configuration.published" added + m =
      Event.count "configuration.withdrawn" added + n) : before.Since after n := by
  obtain ⟨since, hsince, hcount⟩ := h
  refine ⟨since ++ added, ?_, ?_⟩
  · rw [hevents, hsince, List.append_assoc]
  · rw [Event.count_append, Event.count_append]
    omega

/-- The endpoint of a configurator is posted, and its events have been announced. The publications
that were announced alone are the live one and those that were replaced. A replacement may be due:
it has been noted, but has not happened yet. -/
structure Aired (bulletin : σ → Bulletin) (before : Bulletin) (identity : String) (e : Ensemble)
    (own : Option (Endpoint Target)) (publication : Option Publication) (state : Validity)
    (due : Nat) (w : World σ) : Prop where
  posted : Posted (fun t => (bulletin t).host) before.host.endpoints identity e own publication
    state w
  separate : (w.component e.component).handlers.Nodup
  counted : ∃ replaced, (bulletin w.surroundings).restarts = before.restarts + replaced + due ∧
    before.Since (bulletin w.surroundings) (own.toList.length + replaced)

/-- The regime of steps that neither publish nor withdraw nor change the state. -/
def muted (bulletin : σ → Bulletin) (before : Bulletin) (identity : String) (e : Ensemble)
    (own : Option (Endpoint Target)) (publication : Option Publication) (state : Validity)
    (due : Nat) : Regime σ where
  holds := Aired bulletin before identity e own publication state due
  leads _ _ := True
  refl _ := trivial
  trans _ _ := trivial

/-- The regime of operations on an ensemble. -/
def airing (bulletin : σ → Bulletin) (before : Bulletin) (identity : String) (e : Ensemble) :
    Regime σ where
  holds w := ∃ own state,
    Aired bulletin before identity e own (own.map Endpoint.handle) state 0 w
  leads _ _ := True
  refl _ := trivial
  trans _ _ := trivial

variable {bulletin : σ → Bulletin} {before : Bulletin} {identity : String} {e : Ensemble}
  {own : Option (Endpoint Target)} {publication : Option Publication} {state : Validity} {due : Nat}
  {w w' : World σ}

/-- Events have been announced, and what an endpoint is about is as it was or has followed. -/
theorem Aired.step {own' : Option (Endpoint Target)} {publication' : Option Publication}
    {state' : Validity} {due' : Nat}
    (hw : Aired bulletin before identity e own publication state due w) (added : List Event)
    (hposted : Posted (fun t => (bulletin t).host) before.host.endpoints identity e own'
      publication' state' w')
    (hhandlers : (w'.component e.component).handlers = (w.component e.component).handlers)
    (hrestarts : (bulletin w'.surroundings).restarts = (bulletin w.surroundings).restarts)
    (hevents : (bulletin w'.surroundings).events = (bulletin w.surroundings).events ++ added)
    (hadded : ∀ replaced, ∃ replaced', replaced' + due' = replaced + due ∧
      Event.count "configuration.published" added + (own.toList.length + replaced) =
        Event.count "configuration.withdrawn" added + (own'.toList.length + replaced')) :
    Aired bulletin before identity e own' publication' state' due' w' := by
  obtain ⟨replaced, hnoted, hsince⟩ := hw.counted
  obtain ⟨replaced', hdue, hcount⟩ := hadded replaced
  refine ⟨hposted, hhandlers ▸ hw.separate, replaced', ?_, hsince.append hevents hcount⟩
  rw [hrestarts, hnoted]
  omega

/-- Nothing has been announced that the balance is about. -/
theorem Aired.quiet {publication' : Option Publication} {state' : Validity}
    (hw : Aired bulletin before identity e own publication state due w)
    (hposted : Posted (fun t => (bulletin t).host) before.host.endpoints identity e own
      publication' state' w')
    (hhandlers : (w'.component e.component).handlers = (w.component e.component).handlers)
    (hbulletin : bulletin w'.surroundings = bulletin w.surroundings) :
    Aired bulletin before identity e own publication' state' due w' := by
  refine hw.step [] hposted hhandlers (by rw [hbulletin]) ?_ fun replaced => ?_
  · rw [hbulletin, List.append_nil]
  · exact ⟨replaced, rfl, rfl⟩

/-- An event has been announced, no start was noted, and the components are what they were. -/
structure Announces (bulletin : σ → Bulletin) (event : Event) (w w' : World σ) : Prop where
  component : w'.component = w.component
  restarts : (bulletin w'.surroundings).restarts = (bulletin w.surroundings).restarts
  events : (bulletin w'.surroundings).events = (bulletin w.surroundings).events ++ [event]

theorem muted_of_slight (h : Slight w w') :
    (muted bulletin before identity e own publication state due).Allows w w' := by
  intro hw
  refine ⟨hw.quiet (resting_of_slight h hw.posted).1 ?_ ?_, trivial⟩
  · exact congrArg (List.map Attachment.handler) (h.attachments e.component)
  · rw [h.surroundings]

theorem muted_of_aside (h : Aside bulletin w w') :
    (muted bulletin before identity e own publication state due).Allows w w' := by
  intro hw
  have hposted := (resting_of_aside (h.weaken Bulletin.host) hw.posted).1
  exact ⟨hw.quiet hposted (by rw [h.component]) h.surroundings, trivial⟩

theorem airing_of_muted
    (h : ∀ own state,
      (muted bulletin before identity e own (own.map Endpoint.handle) state 0).Allows w w') :
    (airing bulletin before identity e).Allows w w' := by
  rintro ⟨own, state, hw⟩
  exact ⟨⟨own, state, (h own state hw).1⟩, trivial⟩

theorem airing_keeps_of_muted {m : Run σ α}
    (hm : ∀ own state,
      (muted bulletin before identity e own (own.map Endpoint.handle) state 0).Keeps m) :
    (airing bulletin before identity e).Keeps m := by
  rintro w ⟨own, state, hw⟩
  refine (hm own state w hw).mono ?_
  exact fun _ _ hallows _ => ⟨⟨own, state, (hallows hw).1⟩, trivial⟩

section Layer

variable {callbacks : World σ → World σ → Prop} {out : Collaborators σ}
  (hout : Announcing bulletin callbacks out)
include hout

/-- Announcing an event that is about no endpoint. -/
theorem muted_tell {event : Event} (hpublished : event.name ≠ "configuration.published")
    (hwithdrawn : event.name ≠ "configuration.withdrawn") :
    (muted bulletin before identity e own publication state due).Keeps (out.tell event) := by
  intro w hw
  rw [Run.ensures_tell]
  intro _
  have hposted := Regime.keeps_tell_aside hout.hosting.toDiscreet resting_of_aside event w hw.posted
  rw [Run.ensures_tell] at hposted
  refine ⟨hw.step [event] (hposted hw.posted).1 rfl ?_ ?_ fun replaced => ?_, trivial⟩
  · rw [World.surroundings_changeSurroundings, hout.announce]
  · rw [World.surroundings_changeSurroundings, hout.announce]
  · refine ⟨replaced, rfl, ?_⟩
    rw [Event.count_singleton, Event.count_singleton, if_neg hpublished, if_neg hwithdrawn]

theorem bears_muted :
    (muted bulletin before identity e own publication state due).Bears e out where
  stands hw := hw.posted.stands
  slight := muted_of_slight
  note record w _ := by
    rw [Run.ensures_note]
    exact muted_of_aside (Idle.aside ⟨rfl, hout.log record _⟩)

theorem bears_airing : (airing bulletin before identity e).Bears e out where
  stands := fun ⟨_, _, hw⟩ => hw.posted.stands
  slight h := airing_of_muted fun _ _ => muted_of_slight h
  note record := airing_keeps_of_muted fun _ _ => (bears_muted hout).note record

/-! ## Services -/

theorem muted_update (handle : Registration) (properties : Properties) :
    (muted bulletin before identity e own publication state due).Keeps
      (out.update handle properties) :=
  fun w _ => (hout.update handle properties w).mono fun _ _ hidle => muted_of_aside hidle.aside

theorem muted_write (s : Ref .service) (field : String) (value : Value) :
    (muted bulletin before identity e own publication state due).Keeps
      (Service.write out s field value) :=
  Regime.keeps_write (muted_update hout)
    (fun _ _ _ => muted_of_aside (.setService _ s _)) field value

theorem muted_extend (s : Ref .service) (entries : Properties) :
    (muted bulletin before identity e own publication state due).Keeps
      (Service.extend out s entries) :=
  Regime.keeps_extend (muted_update hout) (fun _ _ => muted_of_aside (.setService _ s _)) entries

theorem muted_reduce (s : Ref .service) (entries : Properties) :
    (muted bulletin before identity e own publication state due).Keeps
      (Service.reduce out s entries) :=
  Regime.keeps_reduce (muted_update hout) (fun _ _ => muted_of_aside (.setService _ s _)) entries

theorem muted_registerService (className : String) (s : Ref .service) :
    (muted bulletin before identity e own publication state due).Keeps
      (Provider.registerService out className s) := by
  refine Regime.keeps_registerService_telling (bears_muted hout).note ?_ ?_
  · exact fun _ _ => muted_tell hout (by simp [Event.serviceRegistered])
      (by simp [Event.serviceRegistered])
  · refine Regime.keeps_register (muted_update hout) (fun _ _ _ w _ => ?_) ?_
    · exact (hout.register _ _ _ w).mono fun _ _ hidle => muted_of_aside hidle.aside
    · exact fun _ _ => muted_of_aside (.setService _ s _)

theorem muted_unregisterService (className : String) (s : Ref .service) :
    (muted bulletin before identity e own publication state due).Keeps
      (Provider.unregisterService out className s) := by
  refine Regime.keeps_unregisterService_telling (bears_muted hout).note ?_ ?_
  · exact fun _ => muted_tell hout (by simp [Event.serviceUnregistered])
      (by simp [Event.serviceUnregistered])
  · refine Regime.keeps_unregister (fun _ w _ => ?_) ?_
    · exact (hout.unregister _ w).mono fun _ _ hidle => muted_of_aside hidle.aside
    · exact fun _ => muted_of_aside (.setService _ s _)

/-! ## What publishes and withdraws -/

omit hout in
/-- An event has been announced, and what became of the host is not looked at. -/
theorem announces_release {u : World σ} {event : Event}
    (hcomponent : u.component = (w.hold e.component).component)
    (hrestarts : (bulletin u.surroundings).restarts = (bulletin w.surroundings).restarts)
    (hevents : (bulletin u.surroundings).events = (bulletin w.surroundings).events ++ [event]) :
    Announces bulletin event w (u.release e.component) :=
  ⟨World.component_release_of_hold hcomponent, hrestarts, hevents⟩

/-- An endpoint that is withdrawn is announced. -/
theorem ensures_withdraw_announced {endpoint : Endpoint Target}
    (hw : Aired bulletin before identity e (some endpoint) (some endpoint.handle) state due w) :
    (Configurator.withdraw out e.configurator).Ensures w fun _ w' =>
      Announces bulletin
        (.configurationWithdrawn (w.component e.component).className identity) w w' := by
  obtain ⟨after, hafter, -⟩ := hw.posted.shows.withdraw
  simp only [Configurator.withdraw, Run.ensures_bind, Run.ensures_configurator, hw.posted.recorded,
    Run.ensures_changeConfigurator, hw.posted.stands.configurator]
  have hcleared := hw.posted.record none
  rw [Run.ensures_whileAlive_owned hcleared.stands.owned]
  simp only [Run.ensures_bind, Run.ensures_component]
  refine (hout.withdraw endpoint.handle _).mono ?_
  rintro answer u ⟨hplatform, hanswer⟩
  simp only [World.hold, World.changeComponent_frame, World.changeConfigurator_frame] at hanswer
  rw [hafter] at hanswer
  obtain ⟨rfl, hbulletin⟩ := hanswer
  obtain ⟨hcomponent, -, -, -, hconfigurator, -⟩ := World.objects_of_platform hplatform
  have hidentity : (u.configurator e.configurator).identity = identity := by
    rw [hconfigurator]
    exact hcleared.named
  simp only [Run.ensures_bind, Run.ensures_note, Run.ensures_configurator, Run.ensures_tell]
  refine announces_release hcomponent ?_ ?_
  · simp only [World.surroundings_changeSurroundings, hout.announce, hout.log, hbulletin]
  · simp only [World.surroundings_changeSurroundings, hout.announce, hout.log, hbulletin,
      World.changeSurroundings_frame, hidentity]
    rw [← World.className_hold w e.component]
    rfl

/-- An endpoint that is published is announced, and the one that it replaces is not. -/
theorem ensures_publish_announced
    (hw : Aired bulletin before identity e own (own.map Endpoint.handle) state due w) :
    (Configurator.publish out e.configurator).Ensures w fun _ w' =>
      Announces bulletin
        (.configurationPublished (w.component e.component).className identity) w w' := by
  simp -zeta only [Configurator.publish, Run.ensures_bind, Run.ensures_configurator,
    hw.posted.configurable, hw.posted.recorded, hw.posted.named, hw.posted.stands.configurator,
    Bool.not_true, Bool.false_eq_true, if_false, Run.ensures_changeConfigurator]
  have hcleared := hw.posted.record none
  rw [Run.ensures_whileAlive_owned hcleared.stands.owned]
  simp -zeta only [Run.ensures_bind, Run.ensures_component]
  extract_lets className anew
  have hclass : className = (w.component e.component).className :=
    World.className_hold w e.component e.component
  have hanew : ∀ {u} p, u.component = (w.hold e.component).component →
      (bulletin u.surroundings).restarts = (bulletin w.surroundings).restarts →
      (bulletin u.surroundings).events = (bulletin w.surroundings).events →
      (anew p).Ensures u fun _ u' =>
        Announces bulletin (.configurationPublished (w.component e.component).className identity) w
          (u'.release e.component) := by
    intro u p hcomponent hrestarts hevents
    simp only [anew, Run.ensures_bind, Run.ensures_platform]
    refine (hout.publish identity _ _ u).mono ?_
    rintro answer v ⟨hplatform, rfl, hbulletin⟩
    simp only [Run.ensures_bind, Run.ensures_changeConfigurator, Run.ensures_note,
      Run.ensures_tell]
    refine announces_release ((World.objects_of_platform hplatform).1.trans hcomponent) ?_ ?_
    · simp only [World.surroundings_changeSurroundings, hout.announce, hout.log,
        World.changeConfigurator_frame, hbulletin, hrestarts]
    · simp only [World.surroundings_changeSurroundings, hout.announce, hout.log,
        World.changeConfigurator_frame, hbulletin, hevents, hclass]
  cases own with
  | none => exact hanew () rfl rfl rfl
  | some previous =>
      obtain ⟨after, hafter, -⟩ := hw.posted.shows.withdraw
      simp -zeta only [Option.map_some, Run.ensures_bind]
      refine (hout.withdraw previous.handle _).mono ?_
      rintro answer u ⟨hplatform, hanswer⟩
      simp only [World.hold, World.changeComponent_frame, World.changeConfigurator_frame] at hanswer
      rw [hafter] at hanswer
      obtain ⟨rfl, hbulletin⟩ := hanswer
      refine hanew () (World.objects_of_platform hplatform).1 ?_ ?_ <;> rw [hbulletin]

/-- Withdrawing leaves nothing published, and the balance as it is. -/
theorem ensures_withdraw_aired
    (hw : Aired bulletin before identity e own (own.map Endpoint.handle) state due w) :
    (Configurator.withdraw out e.configurator).Ensures w fun _ =>
      Aired bulletin before identity e none none state due := by
  cases own with
  | none =>
      simp only [Configurator.withdraw, Run.ensures_bind, Run.ensures_configurator,
        hw.posted.recorded, Option.map_none, Run.ensures_pure]
      exact hw
  | some endpoint =>
      refine ((ensures_configurator_withdraw hout.hosting hw.posted).and
        (ensures_withdraw_announced hout hw)).mono ?_
      rintro _ w' ⟨hposted, hcomponent, hrestarts, hevents⟩
      refine hw.step _ hposted (by rw [hcomponent]) hrestarts hevents fun replaced => ?_
      refine ⟨replaced, rfl, ?_⟩
      simp [Event.configurationWithdrawn]

/-- Publishing replaces the endpoint that it was due to replace. -/
theorem ensures_publish_aired
    (hw : Aired bulletin before identity e own (own.map Endpoint.handle) state
      own.toList.length w) :
    (Configurator.publish out e.configurator).Ensures w fun _ w' => ∃ endpoint,
      Aired bulletin before identity e (some endpoint) (some endpoint.handle) state 0 w' := by
  refine ((ensures_configurator_publish hout.hosting hw.posted).and
    (ensures_publish_announced hout hw)).mono ?_
  rintro _ w' ⟨⟨endpoint, hposted⟩, hcomponent, hrestarts, hevents⟩
  refine ⟨endpoint, hw.step _ hposted (by rw [hcomponent]) hrestarts hevents fun replaced => ?_⟩
  refine ⟨replaced + own.toList.length, rfl, ?_⟩
  simp [Event.configurationPublished]
  omega

/-! ## Operations -/

omit hout in
theorem Aired.changeState
    (hw : Aired bulletin before identity e own publication state due w) (state' : Validity) :
    Aired bulletin before identity e own publication state' due
      (w.changeComponent e.component fun c => { c with state := state' }) :=
  hw.quiet (hw.posted.changeState state') (by simp [Component.handlers]) rfl

omit hout in
theorem airing_heeds :
    (airing bulletin before identity e).Heeds e (.configurator e.configurator) fun _ => True where
  kept _ _ := trivial
  changed _ := .inl trivial
  absent _ _ := trivial
  admitted state' := fun ⟨own, _, hw⟩ => ⟨own, state', hw.changeState state'⟩
  leads _ _ _ := trivial

omit hout in
theorem muted_tracked (tracked : Validity) :
    (muted bulletin before identity e own publication state due).Keeps
      (Run.changeCaller e.caller fun c => { c with tracked := tracked }) := by
  intro w hw
  have hkeeps : (resting (fun t => (bulletin t).host) before.host.endpoints identity e own publication
      state).Keeps (Run.changeCaller e.caller fun c => { c with tracked := tracked }) :=
    resting_tracked tracked
  have hposted := hkeeps w hw.posted
  rw [Run.ensures_changeCaller] at hposted ⊢
  exact fun _ => ⟨hw.quiet (hposted hw.posted).1 rfl rfl, trivial⟩

theorem airing_tell_stateChanged (className : String) (transition : Transition) :
    (airing bulletin before identity e).Keeps (out.tell (.stateChanged className transition)) :=
  airing_keeps_of_muted fun _ _ => muted_tell hout (by simp [Event.stateChanged])
    (by simp [Event.stateChanged])

theorem airing_withdraw :
    (airing bulletin before identity e).Keeps (Configurator.withdraw out e.configurator) := by
  rintro w ⟨own, state, hw⟩
  refine (ensures_withdraw_aired hout hw).mono ?_
  exact fun _ w' hw' _ => ⟨⟨none, state, hw'⟩, trivial⟩

/-- A configurator that is told of a state publishes only where nothing is published. -/
theorem airing_configurator_stateChanged (told : Validity) :
    (airing bulletin before identity e).Keeps
      (Configurator.stateChanged out e.configurator told) := by
  cases told with
  | invalid => exact airing_withdraw hout
  | valid =>
      rintro w ⟨own, state, hw⟩
      simp only [Configurator.stateChanged, Run.ensures_bind, Run.ensures_configurator,
        hw.posted.recorded]
      split
      next hnone =>
        cases own with
        | some endpoint => cases hnone
        | none =>
            refine (ensures_publish_aired hout hw).mono ?_
            rintro _ w' ⟨endpoint, hw'⟩ _
            exact ⟨⟨some endpoint, state, hw'⟩, trivial⟩
      next => exact (Run.ensures_pure _).mpr (.refl w)

theorem airing_stop : (airing bulletin before identity e).Keeps (Component.stop out e.component) := by
  have H : (airing bulletin before identity e).Bears e out := bears_airing hout
  refine H.tolerates.holding e.component (H.component_bind fun c hhandlers => ?_)
  refine Regime.Keeps.bind ?_ fun _ => Regime.Keeps.bind ?_ fun _ => H.note _
  · refine Regime.forM_handlers hhandlers ?_ (airing_withdraw hout) ?_
    · refine airing_keeps_of_muted fun _ _ => (bears_muted hout).tolerates.provider_stop ?_
      exact fun s _ className => muted_unregisterService hout className s
    · exact airing_keeps_of_muted fun _ _ => muted_tracked .invalid
  · rintro w ⟨own, state, hw⟩
    rw [Run.ensures_changeComponent]
    exact fun _ => ⟨⟨own, .invalid, hw.changeState .invalid⟩, trivial⟩

/-- Of the handlers that are started only the configurator publishes. -/
theorem starts_muted {handler : Handler} (hhandler : handler ∈ e.handlers)
    (hother : handler ≠ .configurator e.configurator) :
    (muted bulletin before identity e own publication state due).Keeps (handler.start out) := by
  rcases Ensemble.mem_handlers.mp hhandler with rfl | rfl | rfl
  · refine (bears_muted hout).tolerates.provider_start ?_
    exact fun s _ className => muted_registerService hout className s
  · exact absurd rfl hother
  · exact Regime.keeps_pure ()

theorem airing_updated (configuration : Option Properties) :
    (airing bulletin before identity e).Keeps
      (Configurator.updated out e.configurator configuration) := by
  apply airing_keeps_of_muted
  intro own state
  have H : (muted bulletin before identity e own (own.map Endpoint.handle) state 0).Bears e out :=
    bears_muted hout
  apply H.tolerates.configurator_updated
  · exact fun s _ => muted_write hout s
  · apply H.tolerates.configurator_propagate
    · exact fun s _ => muted_extend hout s
    · exact fun s _ => muted_reduce hout s
    · intro entries w hw
      rw [Run.ensures_changeConfigurator]
      have hstands : e.Stands
          (w.changeConfigurator e.configurator fun c => { c with propagated := entries }) :=
        hw.posted.stands.changeConfigurator (fun _ => rfl) fun _ => rfl
      have hposted := hw.posted.of_unchanged hstands rfl rfl (by simp) (by simp) (by simp) rfl
      exact fun _ => ⟨hw.quiet hposted rfl rfl, trivial⟩

variable (hcallbacks : ∀ w w', callbacks w w' → (airing bulletin before identity e).Allows w w')
include hcallbacks

theorem airing_told (told : Validity) {handler : Handler} (hhandler : handler ∈ e.handlers) :
    (airing bulletin before identity e).Keeps (handler.stateChanged out told) := by
  have H : (airing bulletin before identity e).Bears e out := bears_airing hout
  rcases Ensemble.mem_handlers.mp hhandler with rfl | rfl | rfl
  · refine airing_keeps_of_muted fun _ _ => (bears_muted hout).tolerates.provider_stateChanged ?_ ?_ told
    · exact fun s _ className => muted_registerService hout className s
    · exact fun s _ className => muted_unregisterService hout className s
  · exact airing_configurator_stateChanged hout told
  · refine H.tolerates.caller_stateChanged
      (fun tracked => airing_keeps_of_muted fun _ _ => muted_tracked tracked) ?_ told
    intro number component w _
    refine (hout.call number component w).mono fun _ w' hturn => ?_
    refine Regime.Allows.of_turn (fun u v hidle => ?_) hcallbacks hturn
    exact airing_of_muted fun _ _ => muted_of_aside hidle.aside

theorem airing_checkValidity :
    (airing bulletin before identity e).Keeps (Component.checkValidity out e.component) := by
  refine (bears_airing hout).component_checkValidity airing_heeds ?_ (airing_tell_stateChanged hout)
  intro told w hw _ handler hhandler
  exact (airing_told hout hcallbacks told hhandler w hw).mono fun _ _ h => ⟨h, .inl trivial⟩

/-- A start replaces what it is due to replace, and checks the validity behind that. -/
theorem ensures_start_aired
    (hw : Aired bulletin before identity e own (own.map Endpoint.handle) state
      own.toList.length w) :
    (Component.start out e.component).Ensures w fun _ =>
      (airing bulletin before identity e).holds := by
  have H : (airing bulletin before identity e).Bears e out := bears_airing hout
  rw [Component.start, Run.ensures_holding]
  obtain ⟨hheld, -⟩ := muted_of_slight (.hold w e.component) hw
  have hhandlers := hheld.posted.stands.handlers
  simp only [Run.ensures_bind, Run.ensures_component]
  have hstarted := Run.ensures_forM_once (f := fun handler => handler.start out)
    (Aired bulletin before identity e own (own.map Endpoint.handle) state own.toList.length)
    (airing bulletin before identity e).holds hheld.posted.registered hheld.separate
    ?_ ?_ ?_ hheld
  · refine hstarted.mono fun _ u hu => (H.note _ u hu).mono fun _ v hnoted => ?_
    refine (airing_checkValidity hout hcallbacks v (hnoted hu).1).mono fun _ w' hallows => ?_
    exact (H.slight (.release w' e.component) (hallows (hnoted hu).1).1).1
  · intro handler hmem hother u hu
    refine (starts_muted hout (hhandlers handler hmem) hother u hu).mono ?_
    exact fun _ _ hallows => (hallows hu).1
  · rintro handler hmem hother u ⟨own', state', hu⟩
    refine (starts_muted hout (hhandlers handler hmem) hother u hu).mono ?_
    exact fun _ _ hallows => ⟨own', state', (hallows hu).1⟩
  · intro u hu
    refine (ensures_publish_aired hout hu).mono ?_
    rintro _ v ⟨endpoint, hv⟩
    exact ⟨some endpoint, state, hv⟩

theorem airing_operation {operation : Ensemble.Operation} (hother : operation ≠ .start) :
    (airing bulletin before identity e).Keeps (operation.run out e) := by
  have H : (airing bulletin before identity e).Bears e out := bears_airing hout
  cases operation with
  | start => exact absurd rfl hother
  | stop => exact airing_stop hout
  | checkValidity => exact airing_checkValidity hout hcallbacks
  | setState state =>
      refine H.component_setState airing_heeds ?_ ?_ state
      · intro told w hw _ handler hhandler
        exact (airing_told hout hcallbacks told hhandler w hw).mono fun _ _ h => ⟨h, .inl trivial⟩
      · exact airing_tell_stateChanged hout
  | setField field value =>
      refine H.tolerates.component_setField (fun s _ field value => ?_) field value
      exact airing_keeps_of_muted fun _ _ => muted_write hout s field value
  | update configuration => exact airing_updated hout configuration

end Layer

theorem airing_airs {out : Collaborators σ}
    (hout : Layered (e.Airs bulletin) (Announcing bulletin) out)
    (hairs : e.Airs bulletin out w w') : (airing bulletin before identity e).Allows w w' := by
  refine hout.acts_allowed ?_ w w' hairs
  intro callbacks out hcallbacks hrule w w' hairs
  cases hairs with
  | operate operation hother hrun =>
      intro hw
      exact airing_operation hrule hcallbacks hother w hw () w' hrun hw
  | @start u hplatform hnoted hrun =>
      rintro ⟨own, state, hw⟩
      -- What is published when the start begins is due to be replaced.
      have hdue : Aired bulletin before identity e own (own.map Endpoint.handle) state
          own.toList.length u := by
        obtain ⟨replaced, hrestarts, since, hevents, hcount⟩ := hw.counted
        refine ⟨hw.posted.of_platform hplatform ?_ hw.posted.addressed, ?_, replaced, ?_, since, ?_,
          hcount⟩
        · rw [hnoted]
          exact hw.posted.shows
        · rw [(World.objects_of_platform hplatform).1]
          exact hw.separate
        · rw [hnoted, hrestarts, hw.posted.recorded]
          cases own <;> rfl
        · rw [hnoted, hevents]
      exact ⟨ensures_start_aired hrule hcallbacks hdue () w' hrun, trivial⟩

/-- Over a host in memory the publications of a configurable component that were announced are
its announced withdrawals, its live endpoint if there is one, and the starts that began while one
was live: after any operations, whose methods may run operations themselves, to any depth, and may
fail in any way. So the announced publications exceed the announced withdrawals by the live
endpoints exactly if no start began with the endpoint published. -/
theorem endpoint_events_account_iff {out : Collaborators σ} {w₀ w₁ w₂ : World σ}
    (hout : Layered (e.Airs bulletin) (Announcing bulletin) out) (hassembled : e.Assembled out w₀ w₁)
    (hasks : (w₁.component e.component).descriptor.IsConfigurable)
    (hothers : (bulletin w₀.surroundings).host.Orderly)
    (hfree : ∀ endpoint ∈ (bulletin w₀.surroundings).host.endpoints,
      endpoint.target ≠ .configurator e.configurator)
    (hturn : Turn (Idle bulletin) (e.Airs bulletin out) w₁ w₂) :
    ∃ since replaced,
      (bulletin w₂.surroundings).events = (bulletin w₀.surroundings).events ++ since ∧
      (bulletin w₂.surroundings).restarts = (bulletin w₀.surroundings).restarts + replaced ∧
      Event.count "configuration.published" since =
        Event.count "configuration.withdrawn" since +
          ((bulletin w₂.surroundings).host.endpointsFor (.configurator e.configurator)).length +
            replaced ∧
      ((Event.count "configuration.published" since : Int) -
          Event.count "configuration.withdrawn" since =
        ((bulletin w₂.surroundings).host.endpointsFor (.configurator e.configurator)).length ↔
          replaced = 0) := by
  obtain ⟨callbacks, hrule⟩ := hout.exists_rule
  obtain ⟨hnew, hbulletin⟩ := hassembled.new hrule.log
  have hposted : Posted (fun t => (bulletin t).host) (bulletin w₁.surroundings).host.endpoints
      (w₁.configurator e.configurator).identity e none none .invalid w₁ :=
    hnew.posted hasks (hbulletin ▸ hothers)
  rw [hbulletin] at hposted
  have hstart : Aired bulletin (bulletin w₀.surroundings) (w₁.configurator e.configurator).identity
      e none none .invalid 0 w₁ := by
    refine ⟨hposted, hnew.separate, 0, by rw [hbulletin]; rfl, [], ?_, rfl⟩
    rw [hbulletin, List.append_nil]
  have hallows : (airing bulletin (bulletin w₀.surroundings)
      (w₁.configurator e.configurator).identity e).Allows w₁ w₂ := by
    refine Regime.Allows.of_turn (fun u v hidle => ?_) (fun _ _ => airing_airs hout) hturn
    exact airing_of_muted fun _ _ => muted_of_aside hidle.aside
  obtain ⟨⟨own, state, hend⟩, -⟩ := hallows ⟨none, .invalid, hstart⟩
  obtain ⟨replaced, hrestarts, since, hevents, hcount⟩ := hend.counted
  rw [hend.posted.shows.endpointsFor_eq hfree fun endpoint hown =>
    (hend.posted.addressed endpoint hown).2]
  refine ⟨since, replaced, hevents, hrestarts, ?_, ?_⟩ <;> omega

/-! ## A dial that is started twice -/

/-- A registry with a bulletin. -/
structure Board where
  registry : Registry
  notices : Bulletin

namespace Board

/-- A board with nothing on it. -/
def blank : Board := ⟨.empty, .empty, [], 0⟩

/-- Keep another host. -/
def setHost (host : Host Target) (board : Board) : Board :=
  { board with notices := { board.notices with host := host } }

/-- Keep an event. -/
def announce (event : Event) (board : Board) : Board :=
  { board with
    notices := { board.notices with events := board.notices.events ++ [event] } }

/-- Note the start of a configurator with a publication or none. -/
def noteStart (publication : Option Publication) (board : Board) : Board :=
  { board with
    notices := { board.notices with
      restarts := board.notices.restarts + publication.toList.length } }

/-- The collaborators of a board, with the bodies of methods. -/
def collaborators (method : Run Board Ending) : Collaborators Board :=
  (Collaborators.inMemory registry (fun after board => { board with registry := after }) announce
    fun _ => method).hosting (fun board => board.notices.host) setHost

/-- Start an ensemble, and note that. -/
def start (e : Ensemble) (out : Collaborators Board) : Run Board Unit := do
  let publication := (← Run.configurator e.configurator).publication
  Run.changeSurroundings (noteStart publication)
  Component.start out e.component

theorem airs_start {e : Ensemble} {out : Collaborators Board} {w w' : World Board}
    (hrun : (start e out).run w = some ((), w')) : e.Airs notices out w w' :=
  .start (u := w.changeSurroundings (noteStart (w.configurator e.configurator).publication)) rfl rfl
    hrun

theorem announcing_collaborators {callbacks : World Board → World Board → Prop}
    {method : Run Board Ending}
    (hmethod : ∀ w, method.Ensures w fun _ => Turn (Idle notices) callbacks w) :
    Announcing notices callbacks (collaborators method) := by
  -- What the registry is asked has nothing to do with events.
  have hdiscreet : Discreet notices (Collaborators.inMemory registry
      (fun after board => { board with registry := after }) (fun _ board => board) fun _ => method) :=
    discreet_inMemory (fun _ _ => rfl) fun _ _ => rfl
  exact
    { log := fun _ _ => rfl
      announce := fun _ _ => rfl
      register := hdiscreet.register
      unregister := hdiscreet.unregister
      update := hdiscreet.update
      publish := fun identity properties target w => by
        simp [collaborators, Collaborators.hosting, setHost]
      withdraw := fun handle w => by
        simp only [collaborators, Collaborators.hosting, Run.ensures_bind,
          Run.ensures_surroundings]
        cases hanswer : w.surroundings.notices.host.withdraw handle <;> simp [setHost]
      call := fun _ _ => hmethod }

/-- The method does nothing. -/
def plain : Collaborators Board := collaborators (return .returned)

/-- The method starts the dial once more, and fails. -/
def insisting : Collaborators Board :=
  collaborators do
    start .dial plain
    return .failed "stuck"

theorem layered_insisting :
    Layered (Ensemble.dial.Airs notices) (Announcing notices) insisting := by
  have hbelow : Layered (Ensemble.dial.Airs notices) (Announcing notices) plain :=
    .bottom (announcing_collaborators fun w => (Run.ensures_pure _).mpr .refl)
  refine hbelow.above (announcing_collaborators fun w => ?_)
  rw [Run.ensures_bind]
  intro _ u hrun
  exact (Run.ensures_pure _).mpr (.single (.inr (airs_start hrun)))

end Board

/-- The dial is started, and once more by its method when it becomes valid, which is noted. When it
is flipped to invalid, two publications and one withdrawal have been announced. -/
theorem endpoint_events_account_iff_insisting :
    ∃ w₁ w₂ w₃ : World Board,
      (Component.configure Board.insisting ⟨0⟩
        [.caller ⟨0⟩, .configurator ⟨0⟩, .provider ⟨0⟩] .empty).run (.dial .blank) =
          some ((), w₁) ∧
      (Board.start .dial Board.insisting).run w₁ = some ((), w₂) ∧
      (Component.setState Board.insisting ⟨0⟩ .invalid).run w₂ = some ((), w₃) ∧
      w₃.surroundings.notices.restarts = 1 ∧
      Event.count "configuration.published" w₃.surroundings.notices.events =
        Event.count "configuration.withdrawn" w₃.surroundings.notices.events +
          (w₃.surroundings.notices.host.endpointsFor (.configurator ⟨0⟩)).length + 1 := by
  have hends : ((Component.configure Board.insisting ⟨0⟩
      [.caller ⟨0⟩, .configurator ⟨0⟩, .provider ⟨0⟩] .empty).run (.dial .blank)).bind
        (fun first => ((Board.start .dial Board.insisting).run first.2).bind fun second =>
          ((Component.setState Board.insisting ⟨0⟩ .invalid).run second.2).map fun third =>
            decide ((first.2.provider ⟨0⟩).services = [] ∧
              (first.2.configurator ⟨0⟩).properties = [⟨0⟩] ∧
              (first.2.component ⟨0⟩).descriptor.IsConfigurable ∧
              third.2.surroundings.notices.restarts = 1)) = some true := by
    decide +kernel
  obtain ⟨⟨⟨⟩, w₁⟩, hconfigured, hends⟩ := Option.bind_eq_some_iff.mp hends
  obtain ⟨⟨⟨⟩, w₂⟩, hstarted, hends⟩ := Option.bind_eq_some_iff.mp hends
  obtain ⟨⟨⟨⟩, w₃⟩, hflipped, hfacts⟩ := Option.map_eq_some_iff.mp hends
  obtain ⟨hservices, hproperties, hasks, hrestarts⟩ := of_decide_eq_true hfacts
  have hassembled : Ensemble.dial.Assembled Board.insisting (.dial .blank) w₁ :=
    ⟨⟨_, _, rfl⟩, ⟨_, _, by decide, hconfigured⟩, hservices, hproperties⟩
  have hturn : Turn (Idle Board.notices) (Ensemble.dial.Airs Board.notices Board.insisting)
      w₁ w₃ :=
    .tail (.single (.inr (Board.airs_start hstarted)))
      (.inr (.operate (.setState .invalid) (by simp) hflipped))
  obtain ⟨since, replaced, hevents, hnoted, hcount, -⟩ :=
    endpoint_events_account_iff Board.layered_insisting hassembled hasks Host.orderly_empty nofun
      hturn
  have hevents : w₃.surroundings.notices.events = since := hevents
  have hreplaced : replaced = 1 := by
    rw [← Nat.zero_add replaced]
    exact hnoted.symm.trans hrestarts
  refine ⟨w₁, w₂, w₃, hconfigured, hstarted, hflipped, hrestarts, ?_⟩
  rw [hevents, hcount, hreplaced]
  rfl

/-- A dial that is started twice has announced two publications and no withdrawal, and has one
endpoint. -/
theorem endpoint_replaced_unannounced :
    ∃ w₁ w₂ w₃ : World Board,
      (Component.configure Board.plain ⟨0⟩
        [.provider ⟨0⟩, .configurator ⟨0⟩, .caller ⟨0⟩] .empty).run (.dial .blank) =
          some ((), w₁) ∧
      (Component.start Board.plain ⟨0⟩).run w₁ = some ((), w₂) ∧
      (Component.start Board.plain ⟨0⟩).run w₂ = some ((), w₃) ∧
      Event.count "configuration.published" w₃.surroundings.notices.events = 2 ∧
      Event.count "configuration.withdrawn" w₃.surroundings.notices.events = 0 ∧
      (w₃.surroundings.notices.host.endpointsFor (.configurator ⟨0⟩)).length = 1 := by
  have hends : ((Component.configure Board.plain ⟨0⟩
      [.provider ⟨0⟩, .configurator ⟨0⟩, .caller ⟨0⟩] .empty).run (.dial .blank)).bind
        (fun first => ((Component.start Board.plain ⟨0⟩).run first.2).bind fun second =>
          ((Component.start Board.plain ⟨0⟩).run second.2).map fun third =>
            decide (Event.count "configuration.published" third.2.surroundings.notices.events = 2 ∧
              Event.count "configuration.withdrawn" third.2.surroundings.notices.events = 0 ∧
              (third.2.surroundings.notices.host.endpointsFor (.configurator ⟨0⟩)).length = 1)) =
        some true := by
    decide +kernel
  obtain ⟨⟨⟨⟩, w₁⟩, hconfigured, hends⟩ := Option.bind_eq_some_iff.mp hends
  obtain ⟨⟨⟨⟩, w₂⟩, hstarted, hends⟩ := Option.bind_eq_some_iff.mp hends
  obtain ⟨⟨⟨⟩, w₃⟩, hagain, hfacts⟩ := Option.map_eq_some_iff.mp hends
  exact ⟨w₁, w₂, w₃, hconfigured, hstarted, hagain, of_decide_eq_true hfacts⟩

end Componentry
