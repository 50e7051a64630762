import Componentry.Proofs.Ensemble.Assembly
import Componentry.Proofs.Service.Acceptance

/-!
# Interception

A component passes every write and every read of a field through the handlers that are
interested in it. Handlers may be registered again and again, with fields that overlap or with
none. `Component.interception_follows_registrations` says who is asked in the end: every handler
that has named the field in any of its registrations, once, in the order in which the handlers
were first registered.

`Run.Relay` says what it is to be asked one after the other. What the handlers do while they are
asked is left open; they may write and read fields in turn, as long as they register nobody.
-/

namespace Componentry

variable {σ α β : Type}

namespace Run

/-- Items are asked one after the other about a value: each is asked about what the one before
has made of it, in the world that that one has left. -/
inductive Relay (ask : β → α → Run σ α) : List β → α × World σ → α × World σ → Prop
  | done (s : α × World σ) : Relay ask [] s s
  | turn {b : β} {rest : List β} {a : α} {w : World σ} {s t : α × World σ}
      (hasked : (ask b a).run w = some s) (hrest : Relay ask rest s t) :
      Relay ask (b :: rest) (a, w) t

theorem run_foldlM_eq_some_iff {ask : β → α → Run σ α} {items : List β} {a : α} {w : World σ}
    {t : α × World σ} :
    (items.foldlM (fun a b => ask b a) a).run w = some t ↔ Relay ask items (a, w) t := by
  induction items generalizing a w with
  | nil =>
      constructor
      · intro hrun
        cases hrun
        exact .done _
      · intro hrelay
        cases hrelay
        rfl
  | cons b rest ih =>
      rw [List.foldlM_cons, StateT.run_bind]
      constructor
      · intro hrun
        obtain ⟨s, hasked, hrest⟩ := Option.bind_eq_some_iff.mp hrun
        exact .turn hasked (ih.mp hrest)
      · intro hrelay
        cases hrelay with
        | turn hasked hrest => exact Option.bind_eq_some_iff.mpr ⟨_, hasked, ih.mpr hrest⟩

/-- What comes of asking in a loop is what comes of a relay. -/
theorem returns_foldlM_iff {ask : β → α → Run σ α} {items : List β} {a : α} {w : World σ}
    {post : α → World σ → Prop} :
    (items.foldlM (fun a b => ask b a) a).Returns w post ↔
      ∃ b u, Relay ask items (a, w) (b, u) ∧ post b u := by
  simp only [Returns, run_foldlM_eq_some_iff]

theorem forM_eq_foldlM (f : β → Run σ Unit) (items : List β) :
    items.forM f = items.foldlM (fun _ b => f b) () := by
  induction items with
  | nil => rfl
  | cons b rest ih =>
      rw [List.foldlM_cons]
      exact bind_congr fun _ => ih

theorem run_eq_some_iff {m : Run σ α} {a : α} {w w' : World σ} :
    m.run w = some (a, w') ↔ m.Returns w fun b u => b = a ∧ u = w' := by
  constructor
  · intro hrun
    exact ⟨a, w', hrun, rfl, rfl⟩
  · rintro ⟨b, u, hrun, rfl, rfl⟩
    exact hrun

end Run

namespace World

/-- The world with a value stored under a field of a component. -/
def storeField (w : World σ) (r : Ref .component) (field : String) (value : Value) : World σ :=
  w.changeComponent r fun c => { c with fields := c.fields.insert field value }

theorem component_hold (w : World σ) (r : Ref .component) : (w.hold r).component r =
    { w.component r with holds := (w.component r).holds + 1 } := by
  simp [hold]

end World

namespace Component

variable {out : Collaborators σ} {r : Ref .component} {w w' : World σ}

/-- Handlers are told of a write, one after the other. -/
def WritesThrough (out : Collaborators σ) (field : String) (value : Value)
    (handlers : List Handler) (w u : World σ) : Prop :=
  Run.Relay (fun handler (_ : Unit) => handler.fieldWritten out field value) handlers
    ((), w) ((), u)

/-- Handlers are asked about a read, one after the other: the first about what is stored, and
each of the others about the answer of the one before. -/
def ReadsThrough (out : Collaborators σ) (field : String) (handlers : List Handler)
    (stored answer : Option Value × World σ) : Prop :=
  Run.Relay (fun handler value => handler.readField out field value) handlers stored answer

theorem run_setField {field : String} {value : Value} :
    (setField out r field value).run w = some ((), w') ↔
      ∃ u, WritesThrough out field value ((w.component r).interested field) (w.hold r) u ∧
        w' = (u.storeField r field value).release r := by
  rw [Run.run_eq_some_iff]
  simp only [setField, Run.returns_holding, Run.returns_bind, Run.returns_component,
    Run.returns_changeComponent, Run.forM_eq_foldlM, World.component_hold]
  refine Run.returns_foldlM_iff.trans ?_
  constructor
  · rintro ⟨_, u, hrelay, -, rfl⟩
    exact ⟨u, hrelay, rfl⟩
  · rintro ⟨u, hrelay, rfl⟩
    exact ⟨(), u, hrelay, trivial, rfl⟩

theorem run_getField {field : String} {answer : Option Value} :
    (getField out r field).run w = some (answer, w') ↔
      ∃ u, ReadsThrough out field ((w.component r).interested field)
          ((w.component r).fields.get? field, w.hold r) (answer, u) ∧
        w' = u.release r := by
  rw [Run.run_eq_some_iff]
  simp only [getField, Run.returns_holding, Run.returns_bind, Run.returns_component,
    World.component_hold]
  refine Run.returns_foldlM_iff.trans ?_
  constructor
  · rintro ⟨_, u, hrelay, rfl, rfl⟩
    exact ⟨u, hrelay, rfl⟩
  · rintro ⟨u, hrelay, rfl⟩
    exact ⟨answer, u, hrelay, rfl, rfl⟩

end Component

/-! ## Who is registered -/

namespace Attachment

/-- The handlers that have named a field in any of their registrations, in the order in which
they were first registered. -/
def naming (field : String) (history : List Attachment) : List Handler :=
  (history.map handler).eraseDups.filter fun handler =>
    history.any fun a => a.handler == handler && a.fields.contains field

/-- The attachments of a component reflect a history of registrations: each handler once, in the
order of first registration, with the fields of all its registrations. -/
structure Reflects (history attachments : List Attachment) : Prop where
  handlers : attachments.map handler = (history.map handler).eraseDups
  distinct : (attachments.map handler).Nodup
  fields : ∀ handler field, (∃ a ∈ attachments, a.handler = handler ∧ field ∈ a.fields) ↔
    ∃ a ∈ history, a.handler = handler ∧ field ∈ a.fields

variable {history attachments : List Attachment}

/-- A handler that is registered again keeps its place. -/
theorem handlers_register_of_mem {handler : Handler}
    (hmem : handler ∈ attachments.map Attachment.handler) (fields : List String) :
    (register handler fields attachments).map Attachment.handler =
      attachments.map Attachment.handler := by
  induction attachments with
  | nil => cases hmem
  | cons a rest ih =>
      unfold register
      split
      next => rfl
      next hne =>
        have hrest := (List.mem_cons.mp hmem).resolve_left (Ne.symm hne)
        rw [List.map_cons, ih hrest, List.map_cons]

theorem Reflects.nil : Reflects [] [] := ⟨rfl, List.nodup_nil, fun _ _ => Iff.rfl⟩

/-- A further registration is reflected by registering the handler. -/
theorem Reflects.register (h : Reflects history attachments) (handler : Handler)
    (fields : List String) :
    Reflects (history ++ [⟨handler, fields⟩]) (register handler fields attachments) where
  handlers := by
    have hseen : handler ∈ attachments.map Attachment.handler ↔
        handler ∈ history.map Attachment.handler := by
      rw [h.handlers, List.mem_eraseDups]
    rw [List.map_append, List.map_singleton, eraseDups_concat, ← h.handlers]
    split
    next hmem => exact handlers_register_of_mem (hseen.mpr hmem) fields
    next hnew =>
      rw [register_of_not_mem (fun hmem => hnew (hseen.mp hmem)), List.map_append,
        List.map_singleton]
  distinct := nodup_handlers_register handler fields h.distinct
  fields other field := by
    rw [exists_register_iff, h.fields]
    simp only [List.mem_append, List.mem_singleton, or_and_right, exists_or, exists_eq_left]
    rw [or_comm, eq_comm]

/-- The handlers that are interested in a field are those that have named it. -/
theorem Reflects.interested {c : Component} (h : Reflects history c.attachments) (field : String) :
    c.interested field = naming field history := by
  rw [Component.interested, naming, ← h.handlers, List.filter_map]
  refine congrArg (List.map handler) (List.filter_congr fun a ha => ?_)
  rw [Bool.eq_iff_iff]
  have hfields := h.fields a.handler field
  simp only [List.contains_iff_mem, Function.comp_apply, List.any_eq_true, Bool.and_eq_true,
    beq_iff_eq]
  rw [← hfields]
  constructor
  · exact fun hnamed => ⟨a, ha, rfl, hnamed⟩
  · rintro ⟨b, hb, hsame, hnamed⟩
    rwa [List.inj_on_of_nodup_map h.distinct hb ha hsame] at hnamed

end Attachment

/-! ## Registering, writing and reading -/

namespace Component

/-- What is asked of a component: to register a handler, with fields or with none, and to write
or to read a field. -/
inductive Request
  | register (handler : Handler) (fields : List String)
  | write (field : String) (value : Value)
  | read (field : String)

/-- Do what is asked. -/
def Request.run (out : Collaborators σ) (r : Ref .component) : Request → Run σ Unit
  | register handler fields => attach out r handler fields
  | write field value => setField out r field value
  | read field => (fun _ => ()) <$> getField out r field

/-- The registration that is asked for, if one is. -/
def Request.registration? : Request → Option Attachment
  | register handler fields => some ⟨handler, fields⟩
  | write _ _ | read _ => none

/-- The registrations among requests. -/
def registrations (requests : List Request) : List Attachment :=
  requests.filterMap Request.registration?

/-- The regime of a component whose handlers are among some, and that registers no others. -/
def enrolled (r : Ref .component) (handlers : List Handler) : Regime σ where
  holds w := ∀ handler ∈ (w.component r).handlers, handler ∈ handlers
  leads w w' := (w'.component r).attachments = (w.component r).attachments
  refl _ := rfl
  trans huv hvw := hvw.trans huv

/-- Handlers that register nobody with the component, neither while they are told of a write nor
while they are asked about a read, as long as the component has no others. -/
structure Unobtrusive (out : Collaborators σ) (r : Ref .component) (handlers : List Handler) :
    Prop where
  fieldWritten : ∀ handler ∈ handlers, ∀ field value,
    (enrolled r handlers).Keeps (handler.fieldWritten out field value)
  readField : ∀ handler ∈ handlers, ∀ field value,
    (enrolled r handlers).Keeps (handler.readField out field value)

variable {out : Collaborators σ} {r : Ref .component} {handlers : List Handler} {w w' : World σ}

theorem enrolled_of_attachments
    (hsame : (w'.component r).attachments = (w.component r).attachments) :
    (enrolled r handlers).Allows w w' := by
  refine fun hw => ⟨fun handler hmem => hw handler ?_, hsame⟩
  rwa [Component.handlers, hsame] at hmem

theorem enrolled_changeComponent {s : Ref .component} {f : Component → Component}
    (hsame : ∀ c, (f c).attachments = c.attachments) :
    (enrolled r handlers).Allows w (w.changeComponent s f) :=
  enrolled_of_attachments (w.component_changeComponent_same Component.attachments hsame s r)

theorem enrolled_holding {s : Ref .component} {m : Run σ α} (hm : (enrolled r handlers).Keeps m) :
    (enrolled r handlers).Keeps (Run.holding s m) :=
  hm.holding (fun _ => enrolled_changeComponent fun _ => rfl) fun _ =>
    enrolled_changeComponent fun _ => rfl

theorem mem_handlers_of_interested {c : Component} {handler : Handler} {field : String}
    (hmem : handler ∈ c.interested field) : handler ∈ c.handlers :=
  (List.filter_sublist.map Attachment.handler).subset hmem

theorem enrolled_setField (hout : Unobtrusive out r handlers) (field : String) (value : Value) :
    (enrolled r handlers).Keeps (setField out r field value) := by
  refine enrolled_holding fun w hw => ?_
  simp only [Run.ensures_bind, Run.ensures_component, Run.ensures_changeComponent]
  have htold : (enrolled r handlers).Keeps
      (((w.component r).interested field).forM fun handler =>
        handler.fieldWritten out field value) :=
    .forM fun handler hmem =>
      hout.fieldWritten handler (hw handler (mem_handlers_of_interested hmem)) field value
  exact (htold w hw).mono fun _ _ hwu => hwu.trans (enrolled_changeComponent fun _ => rfl)

theorem enrolled_getField (hout : Unobtrusive out r handlers) (field : String) :
    (enrolled r handlers).Keeps (getField out r field) := by
  refine enrolled_holding fun w hw => ?_
  simp only [Run.ensures_bind, Run.ensures_component]
  refine Regime.Keeps.foldlM (fun value handler hmem => ?_) _ w hw
  exact hout.readField handler (hw handler (mem_handlers_of_interested hmem)) field value

/-- Registrations that are asked for come behind those that have been. -/
theorem ensures_requests (hout : Unobtrusive out r handlers) {requests : List Request}
    (hrequests : ∀ a ∈ registrations requests, a.handler ∈ handlers)
    {history : List Attachment} (hw : (enrolled r handlers).holds w)
    (hhistory : Attachment.Reflects history (w.component r).attachments) :
    (requests.forM (Request.run out r)).Ensures w fun _ v =>
      Attachment.Reflects (history ++ registrations requests) (v.component r).attachments := by
  -- By induction on the requests: a registration makes the history longer, while a write or a
  -- read may run every handler, but leaves the attachments.
  induction requests generalizing history w with
  | nil =>
      refine (Run.ensures_pure _).mpr ?_
      rwa [registrations, List.filterMap_nil, List.append_nil]
  | cons request rest ih =>
      rw [Run.ensures_forM_cons]
      cases request with
      | register handler fields =>
          obtain ⟨hhandler, hrest⟩ := List.forall_mem_cons.mp hrequests
          have hattach := returns_attaches out r handler fields w
          rw [Run.returns_iff (hattach.mono fun _ _ _ => trivial)] at hattach
          refine hattach.mono fun _ u hattached => ?_
          have hu : (enrolled r handlers).holds u := by
            intro other hmem
            rw [Component.handlers, hattached.attachments, Attachment.mem_handlers_register] at hmem
            rcases hmem with rfl | hmem
            · exact hhandler
            · exact hw other hmem
          have hlonger : Attachment.Reflects (history ++ [⟨handler, fields⟩])
              (u.component r).attachments := by
            rw [hattached.attachments]
            exact hhistory.register handler fields
          have hbehind := ih hrest hu hlonger
          rwa [List.append_assoc] at hbehind
      | write field value =>
          refine (enrolled_setField hout field value w hw).mono fun _ u hwu => ?_
          obtain ⟨hu, hsame⟩ := hwu hw
          exact ih hrequests hu (by rwa [hsame])
      | read field =>
          simp only [Request.run, Run.ensures_map]
          refine (enrolled_getField hout field w hw).mono fun _ u hwu => ?_
          obtain ⟨hu, hsame⟩ := hwu hw
          exact ih hrequests hu (by rwa [hsame])

/-- A component intercepts accesses to its fields as a history of registrations demands. -/
structure Intercepts (out : Collaborators σ) (r : Ref .component) (history : List Attachment)
    (w : World σ) : Prop where
  /-- The handlers stand in the order in which they were first registered. -/
  handlers : (w.component r).handlers = (history.map Attachment.handler).eraseDups
  /-- No handler stands there twice. -/
  distinct : (w.component r).handlers.Nodup
  /-- A write tells those that have named the field, one after the other, and stores then. -/
  writes : ∀ field value w', (setField out r field value).run w = some ((), w') ↔
    ∃ u, WritesThrough out field value (Attachment.naming field history) (w.hold r) u ∧
      w' = (u.storeField r field value).release r
  /-- A read asks those that have named the field, one after the other, from what is stored. -/
  reads : ∀ field answer w', (getField out r field).run w = some (answer, w') ↔
    ∃ u, ReadsThrough out field (Attachment.naming field history)
        ((w.component r).fields.get? field, w.hold r) (answer, u) ∧
      w' = u.release r

theorem intercepts_of_reflects {history : List Attachment}
    (hhistory : Attachment.Reflects history (w.component r).attachments) :
    Intercepts out r history w where
  handlers := hhistory.handlers
  distinct := hhistory.distinct
  writes field value w' := by
    rw [run_setField, hhistory.interested]
  reads field answer w' := by
    rw [run_getField, hhistory.interested]

/-- Registrations return, if nothing else is asked for. -/
theorem returns_registrations {requests : List Request}
    (hall : ∀ request ∈ requests, request.registration?.isSome) :
    (requests.forM (Request.run out r)).Returns w fun _ _ => True := by
  induction requests generalizing w with
  | nil => exact (Run.returns_pure ()).mpr trivial
  | cons request rest ih =>
      obtain ⟨hrequest, hrest⟩ := List.forall_mem_cons.mp hall
      refine (Run.returns_bind (Request.run out r request) fun _ => rest.forM _).mpr ?_
      cases request with
      | register handler fields =>
          exact (returns_attaches out r handler fields w).mono fun _ _ _ => ih hrest
      | write _ _ => cases hrequest
      | read _ => cases hrequest

/-- A component that nobody has been registered with is asked for registrations, writes and
reads, in any order. The handlers register nobody themselves. Then every handler stands there
once, where it was first registered, and each access to a field goes through those handlers
that have named the field in any of their registrations, once each and in that order. -/
theorem interception_follows_registrations {requests : List Request}
    (hnew : (w.component r).attachments = [])
    (hout : Unobtrusive out r ((registrations requests).map Attachment.handler)) :
    ((∀ request ∈ requests, request.registration?.isSome) →
      (requests.forM (Request.run out r)).Returns w fun _ _ => True) ∧
    (requests.forM (Request.run out r)).Ensures w fun _ v =>
      Intercepts out r (registrations requests) v := by
  refine ⟨returns_registrations, ?_⟩
  have hnobody : (enrolled r ((registrations requests).map Attachment.handler)).holds w := by
    intro handler hmem
    rw [Component.handlers, hnew] at hmem
    cases hmem
  have hempty : Attachment.Reflects [] (w.component r).attachments := by
    rw [hnew]
    exact .nil
  exact (ensures_requests hout (fun _ => List.mem_map_of_mem) hnobody hempty).mono
    fun _ _ hhistory => intercepts_of_reflects hhistory

end Component

/-! ## A dimmer and a scribe -/

/-- Who has been told of a write, and of which field. -/
abbrev Minutes := List (Nat × String)

namespace Minutes

/-- Guests that write down the writes that they are told of, and then do something. They answer
a read with their number and what they have been asked about. -/
def collaborators (react : Nat → String → Run Minutes Unit) : Collaborators Minutes :=
  { Collaborators.inMemory (fun _ => .empty) (fun _ minutes => minutes) (fun _ minutes => minutes)
      fun _ => return .returned with
    notify := fun number notice =>
      match notice with
      | .fieldWritten field _ => do
          Run.changeSurroundings fun minutes => minutes ++ [(number, field)]
          react number field
      | _ => return
    read := fun number _ value => return some (.list [.integer number, value.getD .null]) }

/-- Guests that do nothing more. -/
def calm : Collaborators Minutes := collaborators fun _ _ => return

/-- The first guest writes the mode when the level is written. -/
def dimming : Collaborators Minutes :=
  collaborators fun number field =>
    if number = 0 ∧ field = "level" then Component.setField calm ⟨0⟩ "mode" (.text "dimmed")
    else return

variable {r : Ref .component} {handlers : List Handler}

theorem unobtrusive_collaborators {react : Nat → String → Run Minutes Unit}
    (hguests : ∀ handler ∈ handlers, ∃ name number, handler = .guest name number)
    (hreact : ∀ number field, (Component.enrolled r handlers).Keeps (react number field)) :
    Component.Unobtrusive (collaborators react) r handlers where
  fieldWritten handler hmem field value := by
    obtain ⟨name, number, rfl⟩ := hguests handler hmem
    intro w hw
    simp only [Handler.fieldWritten, collaborators, Run.ensures_bind,
      Run.ensures_changeSurroundings]
    exact (Component.enrolled_of_attachments rfl).then hw (hreact number field)
  readField handler hmem field value := by
    obtain ⟨name, number, rfl⟩ := hguests handler hmem
    exact Regime.keeps_pure _

theorem unobtrusive_dimming
    (hguests : ∀ handler ∈ handlers, ∃ name number, handler = .guest name number) :
    Component.Unobtrusive dimming ⟨0⟩ handlers := by
  have hcalm : Component.Unobtrusive calm ⟨0⟩ handlers :=
    unobtrusive_collaborators hguests fun _ _ => Regime.keeps_pure ()
  refine unobtrusive_collaborators hguests fun number field => ?_
  split
  · exact Component.enrolled_setField hcalm "mode" (.text "dimmed")
  · exact Regime.keeps_pure ()

end Minutes

namespace Component

/-- A component that nobody has been registered with, on a platform of its own. -/
def vacant : World Minutes where
  platform :=
    { Platform.ofSettings .standard with
      components := (Store.empty.add (create (.build "Lamp" [] [] []) (.ofList []))).2 }
  surroundings := []

/-- The scribe comes first, without fields, and names the level only after the dimmer has. In
between the level is written. -/
def enlisting : List Request :=
  [.register (.guest "scribe" 1) [], .register (.guest "dimmer" 0) ["level"],
    .write "level" (.integer 3), .register (.guest "scribe" 1) ["mode", "level"],
    .register (.guest "dimmer" 0) ["level"]]

/-- The scribe is told of the level before the dimmer, and of the mode while the dimmer is told
of the level. What is read of the level has been through both, too. -/
theorem interception_follows_registrations_lamp :
    ∃ v w' told asked answer,
      (v.component ⟨0⟩).handlers = [.guest "scribe" 1, .guest "dimmer" 0] ∧
      (setField Minutes.dimming ⟨0⟩ "level" (.integer 5)).run v = some ((), w') ∧
      WritesThrough Minutes.dimming "level" (.integer 5)
        [.guest "scribe" 1, .guest "dimmer" 0] (v.hold ⟨0⟩) told ∧
      w' = (told.storeField ⟨0⟩ "level" (.integer 5)).release ⟨0⟩ ∧
      w'.surroundings = [(0, "level"), (1, "level"), (0, "level"), (1, "mode")] ∧
      ReadsThrough Minutes.dimming "level" [.guest "scribe" 1, .guest "dimmer" 0]
        ((v.component ⟨0⟩).fields.get? "level", v.hold ⟨0⟩) (answer, asked) ∧
      answer = some (.list [.integer 0, .list [.integer 1, .integer 3]]) := by
  have hguests : ∀ handler ∈ (registrations enlisting).map Attachment.handler,
      ∃ name number, handler = .guest name number := by
    simp [registrations, enlisting, Request.registration?, or_imp, forall_and]
  have hrun : ((enlisting.forM (Request.run Minutes.dimming ⟨0⟩)).run vacant).bind (fun u =>
      ((setField Minutes.dimming ⟨0⟩ "level" (.integer 5)).run u.2).map fun v =>
        v.2.surroundings) = some [(0, "level"), (1, "level"), (0, "level"), (1, "mode")] := by
    rfl
  obtain ⟨⟨⟨⟩, v⟩, hrequests, hwrite⟩ := Option.bind_eq_some_iff.mp hrun
  obtain ⟨⟨⟨⟩, w'⟩, hwrite, hminutes⟩ := Option.map_eq_some_iff.mp hwrite
  have hread : ((enlisting.forM (Request.run Minutes.dimming ⟨0⟩)).run vacant).bind (fun u =>
      ((getField Minutes.dimming ⟨0⟩ "level").run u.2).map Prod.fst) =
        some (some (.list [.integer 0, .list [.integer 1, .integer 3]])) := by
    rfl
  rw [hrequests, Option.bind_some] at hread
  obtain ⟨⟨answer, asked⟩, hread, rfl⟩ := Option.map_eq_some_iff.mp hread
  have hintercepts := (interception_follows_registrations (w := vacant) rfl
    (Minutes.unobtrusive_dimming hguests)).2 () v hrequests
  obtain ⟨told, htold, hstored⟩ := (hintercepts.writes "level" (.integer 5) w').mp hwrite
  obtain ⟨u, hasked, -⟩ := (hintercepts.reads "level" _ asked).mp hread
  exact ⟨v, w', told, u, _, hintercepts.handlers, hwrite, htold, hstored, hminutes, hasked, rfl⟩

end Component

end Componentry
