import Componentry.Engine.Living
import Componentry.Proofs.Registry.Memory

/-!
# Who is told of a change of state

A change of state is told to the handlers of a component one after the other, and each
of them may change the state again before it returns. `Component.tellings` dispatches a
state and hands back whom it has told. So it can be said of every dispatch, whatever the
handlers do, where it ends: with the last handler, or with the first one behind which
the component has another state than the one that is dispatched.

The state is compared and not the transition. A handler that takes the state away and
brings it back lets the dispatch go on, although all handlers have been told of both.
-/

namespace Componentry

variable {σ : Type}

/-- A handler that is told of a change of state, with the world in which it is told and
the world that it leaves. -/
structure Telling (σ : Type) where
  handler : Handler
  before : World σ
  behind : World σ

namespace Component

variable (out : Collaborators σ) (r : Ref .component) (state : Validity)

/-- Dispatch a state, and hand back whom it was told to. -/
def tellings : List Handler → Run σ (List (Telling σ))
  | [] => return []
  | handler :: rest => do
      let component ← Run.component r
      if component.state ≠ state then
        out.note
          (report .debug "Transition superseded, remaining handlers skipped"
            component.className [Log.shown "to" state.name])
        return []
      else
        let before ← get
        handler.stateChanged out state
        let behind ← get
        return ⟨handler, before, behind⟩ :: (← tellings rest)

/-- Set a state, and hand back whom the change was told to. -/
def setStateTelling : Run σ (List (Telling σ)) :=
  Run.holding r do
    let component ← Run.component r
    if component.state = state then return []
    let transition : Transition := ⟨component.state, state⟩
    Run.changeComponent r fun c => { c with state := state }
    out.note
      (report .info "Component state changed" component.className
        [Log.shown "from" transition.source.name, Log.shown "to" transition.target.name])
    out.tell (.stateChanged component.className transition)
    tellings out r state (← Run.component r).handlers

theorem forget_tellings (handlers : List Handler) :
    (fun _ => ()) <$> tellings out r state handlers = dispatch out r state handlers := by
  induction handlers with
  | nil => rfl
  | cons handler rest ih =>
      simp only [tellings, dispatch, map_bind, ← ih]
      refine bind_congr fun component => ?_
      split
      · simp only [map_bind, map_pure, bind_pure_unit]
      · ext w
        simp

theorem forget_setStateTelling :
    (fun _ => ()) <$> setStateTelling out r state = setState out r state := by
  simp only [setStateTelling, setState, Run.holding, ← forget_tellings, map_bind, map_pure,
    bind_assoc]
  refine bind_congr fun _ => bind_congr fun component => ?_
  split
  · simp
  · simp

/-- What a dispatch of a state to handlers comes to: the handlers that it was told to, as
far as it went, and where it ended. -/
structure Dispatched (handlers : List Handler) (w : World σ) (told : List (Telling σ)) :
    Prop where
  order : told.map Telling.handler <+: handlers
  current : ∀ t ∈ told, (t.before.component r).state = state
  ran : ∀ t ∈ told, (t.handler.stateChanged out state).run t.before = some ((), t.behind)
  begins : told ≠ [] ↔ handlers ≠ [] ∧ (w.component r).state = state
  goesOn : ∀ i, (hi : i < told.length) →
    (i + 1 < told.length ↔
      i + 1 < handlers.length ∧ (told[i].behind.component r).state = state)

variable {out r state}

/-- A dispatch that tells no handler. -/
theorem Dispatched.none {handlers : List Handler} {w : World σ}
    (hnobody : handlers = [] ∨ (w.component r).state ≠ state) :
    Dispatched out r state handlers w [] where
  order := List.nil_prefix
  current := by simp
  ran := by simp
  begins := by
    simp only [ne_eq, not_true_eq_false, false_iff, not_and]
    intro hhandlers
    exact hnobody.resolve_left hhandlers
  goesOn := by simp

/-- A handler is told of the state, and the dispatch goes on behind it. -/
theorem Dispatched.cons {handler : Handler} {rest : List Handler} {w u : World σ}
    {told : List (Telling σ)} (hstate : (w.component r).state = state)
    (hran : (handler.stateChanged out state).run w = some ((), u))
    (hrest : Dispatched out r state rest u told) :
    Dispatched out r state (handler :: rest) w (⟨handler, w, u⟩ :: told) where
  order := by
    rw [List.map_cons, List.cons_prefix_cons]
    exact ⟨rfl, hrest.order⟩
  current := List.forall_mem_cons.mpr ⟨hstate, hrest.current⟩
  ran := List.forall_mem_cons.mpr ⟨hran, hrest.ran⟩
  begins := by simp [hstate]
  goesOn i hi := by
    cases i with
    | zero =>
        simp only [List.length_cons, Nat.zero_add, Nat.lt_add_left_iff_pos, List.getElem_cons_zero,
          List.length_pos_iff]
        exact hrest.begins
    | succ i =>
        simp only [List.length_cons, Nat.add_lt_add_iff_right, List.getElem_cons_succ]
        exact hrest.goesOn i (Nat.lt_of_succ_lt_succ hi)

theorem ensures_tellings (handlers : List Handler) (w : World σ) :
    (tellings out r state handlers).Ensures w fun told _ =>
      Dispatched out r state handlers w told := by
  induction handlers generalizing w with
  | nil => exact (Run.ensures_pure _).mpr (.none (.inl rfl))
  | cons handler rest ih =>
      simp only [tellings, Run.ensures_bind, Run.ensures_component]
      split
      next hsuperseded =>
        simp only [Run.ensures_bind, Run.ensures_note, Run.ensures_pure]
        exact .none (.inr hsuperseded)
      next hcurrent =>
        simp only [Run.ensures_bind, Run.ensures_get, Run.ensures_pure]
        intro _ u hran
        exact (ih u).mono fun told _ hrest => .cons (Decidable.not_not.mp hcurrent) hran hrest

/-- A state that the component has already is not dispatched; another one is dispatched to
all its handlers. -/
theorem ensures_setStateTelling (w : World σ) :
    (setStateTelling out r state).Ensures w fun told _ =>
      if (w.component r).state = state then told = []
      else ∃ v, (v.component r).state = state ∧
        Dispatched out r state (w.component r).handlers v told := by
  have hheld : (w.hold r).component r =
      { w.component r with holds := (w.component r).holds + 1 } := by
    simp [World.hold]
  simp only [setStateTelling, Run.ensures_holding, Run.ensures_bind, Run.ensures_component, hheld]
  split
  next => exact (Run.ensures_pure _).mpr rfl
  next =>
    simp only [Run.ensures_bind, Run.ensures_changeComponent, Run.ensures_note,
      Run.ensures_tell, Run.ensures_component]
    refine (ensures_tellings _ _).mono ?_
    intro told _ hdispatched
    rw [World.changeSurroundings_frame _ _ |>.2.1, World.changeSurroundings_frame _ _ |>.2.1,
      World.component_changeComponent, if_pos rfl, hheld] at hdispatched
    exact ⟨_, by simp, hdispatched⟩

/-- A change of state is told to handlers in order. It goes on behind a handler exactly if
there is a further one and the component has, when the handler returns, the state that is
being told. -/
theorem dispatch_goes_on_iff {w w' : World σ}
    (hrun : (setState out r state).run w = some ((), w')) :
    ∃ told : List (Telling σ), (setStateTelling out r state).run w = some (told, w') ∧
      told.map Telling.handler <+: (w.component r).handlers ∧
      (told ≠ [] ↔ (w.component r).handlers ≠ [] ∧ (w.component r).state ≠ state) ∧
      (∀ t ∈ told, (t.before.component r).state = state ∧
        (t.handler.stateChanged out state).run t.before = some ((), t.behind)) ∧
      ∀ i, (hi : i < told.length) →
        (i + 1 < told.length ↔
          i + 1 < (w.component r).handlers.length ∧
            (told[i].behind.component r).state = state) := by
  rw [← forget_setStateTelling, StateT.run_map] at hrun
  obtain ⟨⟨told, u⟩, htelling, heq⟩ := Option.map_eq_some_iff.mp hrun
  cases heq
  refine ⟨told, htelling, ?_⟩
  have htold := ensures_setStateTelling w told _ htelling
  split at htold
  next hsame =>
    subst htold
    simp [hsame]
  next hchanged =>
    obtain ⟨v, hstate, hdispatched⟩ := htold
    refine ⟨hdispatched.order, ?_, fun t ht => ⟨hdispatched.current t ht, hdispatched.ran t ht⟩,
      hdispatched.goesOn⟩
    rw [hdispatched.begins]
    simp [hstate, hchanged]

end Component

/-! ## A guest that takes a state away and brings it back -/

/-- A transition of a component: a state is set, or the component is stopped. -/
def Transits (out : Collaborators σ) (r : Ref .component) (w w' : World σ) : Prop :=
  (∃ state, (Component.setState out r state).run w = some ((), w')) ∨
    (Component.stop out r).run w = some ((), w')

/-- While the handler is told, a transition within changes the state of the component. -/
def Telling.Interrupted (below : Collaborators σ) (r : Ref .component) (t : Telling σ) : Prop :=
  ∃ u v, Turn (fun w w' => w'.platform = w.platform) (Transits below r) t.before u ∧
    Transits below r u v ∧ (v.component r).state ≠ (u.component r).state ∧
    Turn (fun w w' => w'.platform = w.platform) (Transits below r) v t.behind

/-- Which guests were told which states, in order. -/
abbrev Journal := List (Nat × Validity)

/-- A component with two guests. -/
def Component.visited : Component :=
  { Component.create (.build "Visited" [] [] []) (.ofList []) with
    attachments := [⟨.guest "first" 0, []⟩, ⟨.guest "second" 1, []⟩] }

/-- The component with two guests on a platform of its own. Nobody has been told anything. -/
def World.visited : World Journal where
  platform :=
    { Platform.ofSettings .standard with components := (Store.empty.add Component.visited).2 }
  surroundings := []

namespace Journal

/-- Guests that write down the states they are told, and then do something. -/
def collaborators (react : Nat → Validity → Run Journal Unit) : Collaborators Journal :=
  { Collaborators.inMemory (fun _ => .empty) (fun _ journal => journal) (fun _ journal => journal)
      fun _ => return .returned with
    notify := fun number notice =>
      match notice with
      | .stateChanged state => do
          Run.changeSurroundings fun journal => journal ++ [(number, state)]
          react number state
      | _ => return }

/-- Guests that do nothing more. -/
def calm : Collaborators Journal := collaborators fun _ _ => return

/-- The first guest makes the component invalid and valid again when it becomes valid. -/
def restoring : Collaborators Journal :=
  collaborators fun number state =>
    match number, state with
    | 0, .valid => do
        Component.setState calm ⟨0⟩ .invalid
        Component.setState calm ⟨0⟩ .valid
    | _, _ => return

/-- The first guest interrupts a dispatch of the valid state, if its own transition changes
the state. -/
theorem interrupted_restoring {w v : World Journal} {name : String}
    (hset : (Component.setState calm ⟨0⟩ .invalid).run
      (w.changeSurroundings fun journal => journal ++ [(0, .valid)]) = some ((), v))
    (hchanged : (v.component ⟨0⟩).state ≠ (w.component ⟨0⟩).state) :
    (Handler.stateChanged restoring .valid (.guest name 0)).Ensures w fun _ w' =>
      Telling.Interrupted calm ⟨0⟩ ⟨.guest name 0, w, w'⟩ := by
  simp only [Handler.stateChanged, restoring, collaborators, Run.ensures_bind,
    Run.ensures_changeSurroundings]
  intro _ u hrevoked _ w' hrestored
  cases hset.symm.trans hrevoked
  have hwritten : World.platform (w.changeSurroundings fun journal => journal ++ [(0, .valid)]) =
      w.platform := rfl
  have hrestores : Transits calm ⟨0⟩ v w' := .inl ⟨.valid, hrestored⟩
  exact ⟨_, v, .single (.inl hwritten), .inl ⟨.invalid, hset⟩, hchanged, .single (.inr hrestores)⟩

end Journal

/-- The first guest is told that the component is valid, and the second one exactly if the
component is still valid, or valid again, when the first one returns. -/
theorem dispatch_goes_on_iff_visited :
    ∃ (told : List (Telling Journal)) (w : World Journal),
      (Component.setState Journal.restoring ⟨0⟩ .valid).run .visited = some ((), w) ∧
      (Component.setStateTelling Journal.restoring ⟨0⟩ .valid).run .visited = some (told, w) ∧
      told ≠ [] ∧ ∀ hfirst : 0 < told.length,
        1 < told.length ↔ (told[0].behind.component ⟨0⟩).state = .valid := by
  have hends : ((Component.setState Journal.restoring ⟨0⟩ .valid).run .visited).map
      (fun _ => decide ((World.visited.component ⟨0⟩).handlers.length = 2 ∧
        (World.visited.component ⟨0⟩).state ≠ .valid)) = some true := by
    decide +kernel
  obtain ⟨⟨⟨⟩, w⟩, hset, hfacts⟩ := Option.map_eq_some_iff.mp hends
  obtain ⟨hhandlers, hinvalid⟩ := of_decide_eq_true hfacts
  obtain ⟨told, htelling, -, hbegins, -, hgoesOn⟩ := Component.dispatch_goes_on_iff hset
  refine ⟨told, w, hset, htelling, hbegins.mpr ⟨?_, hinvalid⟩, fun hfirst => ?_⟩
  · exact List.length_pos_iff.mp (by omega)
  · rw [hgoesOn 0 hfirst, hhandlers]
    exact and_iff_right (by decide)

/-- The first guest takes the state away and brings it back while it is told of it. The
second guest is told of all of that, and then the dispatch goes on and tells it again. -/
theorem dispatch_resumed :
    ∃ (first second : Telling Journal) (w : World Journal),
      (Component.setState Journal.restoring ⟨0⟩ .valid).run .visited = some ((), w) ∧
      (Component.setStateTelling Journal.restoring ⟨0⟩ .valid).run .visited =
        some ([first, second], w) ∧
      first.Interrupted Journal.calm ⟨0⟩ ∧
      w.surroundings =
        [(0, .valid), (0, .invalid), (1, .invalid), (0, .valid), (1, .valid), (1, .valid)] := by
  have hends : ((Component.setStateTelling Journal.restoring ⟨0⟩ .valid).run .visited).bind
      (fun telling =>
        match telling.1 with
        | [] => none
        | [_] => none
        | [first, _] =>
            ((Component.setState Journal.calm ⟨0⟩ .invalid).run
              (first.before.changeSurroundings fun journal => journal ++ [(0, .valid)])).map
                fun revoked => decide (first.handler = .guest "first" 0 ∧
                  (World.visited.component ⟨0⟩).state ≠ .valid ∧
                  (revoked.2.component ⟨0⟩).state ≠ (first.before.component ⟨0⟩).state ∧
                  telling.2.surroundings = [(0, .valid), (0, .invalid), (1, .invalid), (0, .valid),
                    (1, .valid), (1, .valid)])
        | _ :: _ :: _ :: _ => none) = some true := by
    decide +kernel
  obtain ⟨⟨told, w⟩, htelling, hends⟩ := Option.bind_eq_some_iff.mp hends
  rcases told with _ | ⟨first, _ | ⟨second, _ | ⟨third, rest⟩⟩⟩
  · cases hends
  · cases hends
  · obtain ⟨⟨⟨⟩, v⟩, hset, hfacts⟩ := Option.map_eq_some_iff.mp hends
    obtain ⟨hhandler, hinvalid, hchanged, hjournal⟩ := of_decide_eq_true hfacts
    refine ⟨first, second, w, ?_, htelling, ?_, hjournal⟩
    · rw [← Component.forget_setStateTelling, StateT.run_map, htelling]
      rfl
    · have htold := Component.ensures_setStateTelling World.visited _ _ htelling
      simp only [if_neg hinvalid] at htold
      obtain ⟨_, -, hdispatched⟩ := htold
      obtain ⟨handler, before, behind⟩ := first
      cases hhandler
      exact Journal.interrupted_restoring hset hchanged _ _ (hdispatched.ran _ List.mem_cons_self)
  · cases hends

end Componentry
