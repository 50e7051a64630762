import Componentry.Proofs.Registry.Memory
import Componentry.Proofs.Run.Returning
import Componentry.Proofs.Service.Convergence

/-!
# A service as others see it

What a service is to the registry can be told without its revision and without the rounds in
which changes are sent: the values of its declared properties, a map of entries on top of them,
and whether it is registered. Operations change this portrait in the obvious way.

Over a registry in memory that calls nobody back a service refines its portrait. The calls that
the registry sees follow from how an operation changes the portrait: a registration or the
return of one if the service changes sides, an update if it stays registered and the operation
had an effect, and else none. The record of the service shows the portrait throughout.
-/

namespace Componentry

variable {σ α : Type}

/-- Nothing is taken away exactly if there is nothing under any of the keys. -/
theorem Dictionary.size_without_eq_iff {β : Type} {d : Dictionary α} {other : Dictionary β} :
    (d.without other).size = d.size ↔ other.keys.any (fun key => (d.get? key).isSome) = false := by
  simp only [List.any_eq_false, mem_keys_iff, Bool.not_eq_true, Option.isSome_eq_false_iff,
    Option.isNone_iff_eq_none]
  constructor
  · intro hsize key hkey
    rw [← without_eq_self hsize, get?_without, if_pos hkey]
  · intro hnone
    suffices d.without other = d by rw [this]
    apply ext_get?
    intro key
    rw [get?_without]
    split
    next hkey => exact (hnone key hkey).symm
    next => rfl

/-- A call that a registry sees, with what properties show under each key. -/
inductive Registry.Call
  | register (specifications : List String) (shown : String → Option Value)
      (factory : FactoryPolicy)
  | unregister (handle : Registration)
  | update (handle : Registration) (shown : String → Option Value)

/-- What the surroundings keep of a registry. -/
structure Audit where
  registry : Registry
  /-- The calls that the registry has seen. -/
  calls : List Registry.Call

/-- A call of the registry that is answered at once, and seen. -/
def Audit.Serves (audit : σ → Audit) (ask : Registry → Except Failure (α × Registry))
    (call : Registry.Call) (m : Run σ (Except Failure α)) : Prop :=
  ∀ w, m.Returns w fun answer w' =>
    Answers (fun t => (audit t).registry) ask w w' answer ∧
      (audit w'.surroundings).calls = (audit w.surroundings).calls ++ [call]

/-- Collaborators with a registry in memory that calls nobody back, and whose calls are seen. -/
structure Overheard (audit : σ → Audit) (out : Collaborators σ) : Prop where
  register : ∀ specifications properties factory,
    Audit.Serves audit (·.register specifications properties factory)
      (.register specifications properties.get? factory)
      (out.register specifications properties factory)
  unregister : ∀ handle,
    Audit.Serves audit (·.askUnregister handle) (.unregister handle) (out.unregister handle)
  update : ∀ handle properties,
    Audit.Serves audit (·.askUpdate handle properties) (.update handle properties.get?)
      (out.update handle properties)
  rounds : 0 < out.rounds

/-- What others see of a service. -/
structure Portrait where
  /-- The declared properties with their values. -/
  properties : List ServiceProperty
  /-- The entries on top of them. -/
  extras : String → Option Value
  /-- The handle of the service while it is registered. -/
  handle : Option Registration
  /-- The number of the last registration that was made. -/
  made : Nat

namespace Portrait

/-- The value that is declared under a key: of properties with one name the last that has a value
counts. -/
def declared (p : Portrait) (key : String) : Option Value :=
  (p.properties.filterMap ServiceProperty.entry?).reverse.lookup key

/-- What is shown under a key: the entry on top, else the declared value. -/
def shown (p : Portrait) (key : String) : Option Value := (p.extras key).or (p.declared key)

end Portrait

namespace Service.Operation

/-- Run an operation of a service. The answer says whether it had an effect, where the operation
tells. -/
def ask (out : Collaborators σ) (r : Ref .service) :
    Operation → Run σ (Except Failure (Option Bool))
  | write field value => Except.map some <$> Service.write out r field value
  | extend entries => Except.map (fun _ => none) <$> Service.extend out r entries
  | reduce entries => Except.map (fun _ => none) <$> Service.reduce out r entries
  | register => Except.map some <$> Service.register out r
  | unregister => Except.map some <$> Service.unregister out r

/-- The portrait behind an operation. -/
def after : Operation → Portrait → Portrait
  | write field value, p =>
      { p with properties := (assignFirst? field value p.properties).getD p.properties }
  | extend entries, p => { p with extras := fun key => (entries.get? key).or (p.extras key) }
  | reduce entries, p =>
      { p with extras := fun key => if entries.contains key then none else p.extras key }
  | register, p =>
      if p.handle.isSome then p else { p with handle := some ⟨p.made + 1⟩, made := p.made + 1 }
  | unregister, p => { p with handle := none }

/-- Whether an operation changes what is shown, or may: a value is written that is another one,
entries are put on top, or some that are on top are removed. -/
def isEffective : Operation → Portrait → Bool
  | write field value, p => (assignFirst? field value p.properties).isSome
  | extend entries, _ => !entries.isEmpty
  | reduce entries, p => entries.keys.any fun key => (p.extras key).isSome
  | register, _ | unregister, _ => false

/-- What an operation answers. -/
def answer : Operation → Portrait → Option Bool
  | write field value, p => some ((write field value).isEffective p)
  | extend _, _ | reduce _, _ => none
  | register, p => some p.handle.isNone
  | unregister, p => some p.handle.isSome

end Service.Operation

namespace Portrait

/-- An operation with the portraits before and behind it. -/
structure Step where
  before : Portrait
  operation : Service.Operation
  behind : Portrait

/-- The calls that the registry sees in a step of a service. -/
def Step.calls (step : Step) (specifications : List String) (factory : FactoryPolicy) :
    List Registry.Call :=
  match step.before.handle, step.behind.handle with
  | none, some _ => [.register specifications step.before.shown factory]
  | some handle, none => [.unregister handle]
  | some handle, some _ =>
      if step.operation.isEffective step.before then [.update handle step.behind.shown] else []
  | none, none => []

/-- The step of an operation. -/
def step (p : Portrait) (operation : Service.Operation) : Step := ⟨p, operation, operation.after p⟩

section Calls

variable {p : Portrait} {operation : Service.Operation} {handle handle' : Registration}
  (specifications : List String) (factory : FactoryPolicy)

theorem calls_free (hbefore : p.handle = none) (hbehind : (operation.after p).handle = none) :
    (p.step operation).calls specifications factory = [] := by
  simp only [Step.calls, step, hbefore, hbehind]

theorem calls_kept (hbefore : p.handle = some handle)
    (hbehind : (operation.after p).handle = some handle') :
    (p.step operation).calls specifications factory =
      if operation.isEffective p then [.update handle (operation.after p).shown] else [] := by
  simp only [Step.calls, step, hbefore, hbehind]
  rfl

theorem calls_registered (hbefore : p.handle = none)
    (hbehind : (operation.after p).handle = some handle) :
    (p.step operation).calls specifications factory = [.register specifications p.shown factory] := by
  simp only [Step.calls, step, hbefore, hbehind]

theorem calls_unregistered (hbefore : p.handle = some handle)
    (hbehind : (operation.after p).handle = none) :
    (p.step operation).calls specifications factory = [.unregister handle] := by
  simp only [Step.calls, step, hbefore, hbehind]

end Calls

/-- The steps of operations, one behind the other. -/
def steps (p : Portrait) : List Service.Operation → List Step
  | [] => []
  | operation :: rest => p.step operation :: (operation.after p).steps rest

/-- The portrait behind operations. -/
def run (p : Portrait) (operations : List Service.Operation) : Portrait :=
  operations.foldl (fun p operation => operation.after p) p

end Portrait

variable {audit : σ → Audit} {r : Ref .service} {w w' : World σ} {out : Collaborators σ}

/-! ## What the registry keeps -/

/-- The records of a registry but for that of a handle. -/
def Registry.besides (registry : Registry) (handle : Option Registration) : List ServiceRecord :=
  registry.records.filter fun record => some record.handle != handle

namespace Registry

variable {registry after : Registry} {handle : Registration}

theorem besides_none (registry : Registry) : registry.besides none = registry.records :=
  List.filter_eq_self.mpr fun _ _ => rfl

theorem besides_update {properties : Properties}
    (hupdate : registry.update handle properties = .ok after) :
    after.besides (some handle) = registry.besides (some handle) := by
  obtain ⟨-, hrecords, -⟩ := update_ok hupdate
  have hhandle : ((fun record : ServiceRecord => some record.handle != some handle) ∘ fun record =>
      if record.handle = handle then { record with properties := properties } else record) =
      fun record => some record.handle != some handle := by
    funext record
    simp only [Function.comp_apply]
    split <;> rfl
  rw [besides, besides, hrecords, List.filter_map, hhandle]
  refine (List.map_congr_left fun record hrecord => ?_).trans (List.map_id _)
  have hother : record.handle ≠ handle := by simpa using (List.mem_filter.mp hrecord).2
  exact if_neg hother

theorem besides_register (hnumbered : registry.Numbered) {specifications : List String}
    {properties : Properties} {factory : FactoryPolicy}
    (hregister : registry.register specifications properties factory = .ok (handle, after)) :
    after.besides (some handle) = registry.besides none := by
  have hnumber := number_of_register hregister
  obtain ⟨-, hrecords, -⟩ := register_ok hregister
  rw [besides, besides_none, hrecords, List.filter_append, List.filter_cons_of_neg (by simp),
    List.filter_nil, List.append_nil, List.filter_eq_self]
  intro record hrecord
  have hle := hnumbered record hrecord
  rw [bne_iff_ne]
  rintro ⟨⟩
  omega

theorem besides_unregister (hunregister : registry.unregister handle = .ok after) :
    after.besides none = registry.besides (some handle) := by
  obtain ⟨-, hrecords, -⟩ := unregister_ok hunregister
  rw [besides_none, hrecords, besides]
  refine List.filter_congr fun record _ => ?_
  rw [Bool.eq_iff_iff, bne_iff_ne, bne_iff_ne, ne_eq, ne_eq, Option.some_inj]

end Registry

/-! ## Single operations -/

/-- What a service in a world looks like to others. -/
def World.portrait (audit : σ → Audit) (r : Ref .service) (w : World σ) : Portrait where
  properties := (w.service r).properties
  extras := (w.service r).extras.get?
  handle := (w.service r).registration
  made := (audit w.surroundings).registry.registrations

/-- The visible properties are what the portrait shows. -/
theorem Service.get?_visible (audit : σ → Audit) (r : Ref .service) (w : World σ) :
    (w.service r).visible.get? = (w.portrait audit r).shown := by
  funext key
  rw [Service.visible, Dictionary.get?_override, Dictionary.ofList,
    Dictionary.get?_insertAll_reverse, Dictionary.get?_empty, Option.or_none]
  rfl

/-- The registry has the record of a service that is registered, and it shows the portrait. -/
structure Faithful (audit : σ → Audit) (r : Ref .service) (w : World σ) : Prop where
  numbered : (audit w.surroundings).registry.Numbered
  record : ∀ handle, (w.service r).registration = some handle →
    ∃ record, (audit w.surroundings).registry.record? handle = some record ∧
      record.specifications = (w.service r).specifications ∧
      record.factory = (w.service r).declared.factory ∧
      record.properties.get? = (w.portrait audit r).shown

theorem Faithful.of_unregistered (hnumbered : (audit w.surroundings).registry.Numbered)
    (hfree : (w.service r).registration = none) : Faithful audit r w where
  numbered := hnumbered
  record handle hheld := by
    rw [hfree] at hheld
    cases hheld

/-- A step of the portrait is one of the service: the answer and the calls that the registry sees
are those of the step, the registry keeps the record of the service, and all other records. -/
structure Refines (audit : σ → Audit) (r : Ref .service) (operation : Service.Operation)
    (w : World σ) (answer : Except Failure (Option Bool)) (w' : World σ) : Prop where
  answered : answer = .ok (operation.answer (w.portrait audit r))
  seen : (audit w'.surroundings).calls = (audit w.surroundings).calls ++
    ((w.portrait audit r).step operation).calls (w.service r).specifications
      (w.service r).declared.factory
  behind : w'.portrait audit r = operation.after (w.portrait audit r)
  declared : (w'.service r).declared = (w.service r).declared
  faithful : Faithful audit r w'
  besides : (audit w'.surroundings).registry.besides (w'.service r).registration =
    (audit w.surroundings).registry.besides (w.service r).registration

/-- An operation without effect. -/
theorem Refines.unchanged {operation : Service.Operation} {answer : Except Failure (Option Bool)}
    (hw : Faithful audit r w) (hanswer : answer = .ok (operation.answer (w.portrait audit r)))
    (hbehind : operation.after (w.portrait audit r) = w.portrait audit r)
    (hsilent : operation.isEffective (w.portrait audit r) = false) :
    Refines audit r operation w answer w := by
  refine ⟨hanswer, ?_, hbehind.symm, rfl, hw, rfl⟩
  suffices hcalls : ∀ specifications factory,
      ((w.portrait audit r).step operation).calls specifications factory = [] by
    rw [hcalls, List.append_nil]
  intro specifications factory
  cases hhandle : (w.portrait audit r).handle with
  | none => exact Portrait.calls_free _ _ hhandle (by rw [hbehind, hhandle])
  | some handle => rw [Portrait.calls_kept _ _ hhandle (by rw [hbehind, hhandle]), hsilent]; rfl

section Layer

variable (hout : Overheard audit out)
include hout

omit hout in
/-- Where there is nothing to send the registry sees nothing. -/
theorem returns_push_nothing (r : Ref .service) (rounds : Nat) (w : World σ) :
    (Service.push out r rounds none).Returns w fun answer w' => answer = .ok () ∧ w' = w := by
  cases rounds <;> simp [Service.push]

/-- A registered service that has changed is sent to the registry once. -/
theorem returns_push_seen {update : Update}
    (hsnapshot : (w.service r).snapshot = some update)
    (hlive : (audit w.surroundings).registry.isRegistered update.handle = true) :
    (Service.push out r out.rounds (some update)).Returns w fun answer w' =>
      answer = .ok () ∧ w'.platform = w.platform ∧
        (audit w.surroundings).registry.update update.handle update.properties =
          .ok (audit w'.surroundings).registry ∧
        (audit w'.surroundings).calls =
          (audit w.surroundings).calls ++ [.update update.handle update.properties.get?] := by
  obtain ⟨hheld, -, hrevision⟩ := Service.snapshot_eq_some hsnapshot
  obtain ⟨rounds, hrounds⟩ := Nat.exists_eq_succ_of_ne_zero (Nat.ne_of_gt hout.rounds)
  rw [hrounds]
  simp only [Service.push, Run.returns_bind, Run.returns_service]
  refine (hout.update _ _ w).mono ?_
  rintro answer u ⟨hanswer, hseen⟩
  cases hanswer with
  | served hplatform hask =>
      have hservice : u.service r = w.service r :=
        congrFun (Service.service_of_platform hplatform) r
      rw [hservice, hheld, if_neg (not_not.mpr rfl), hrevision, if_neg (not_not.mpr rfl)]
      refine (returns_push_nothing r rounds u).mono ?_
      rintro _ _ ⟨rfl, rfl⟩
      exact ⟨rfl, hplatform, Registry.askUpdate_ok hask, hseen⟩
  | refused _ hask =>
      rw [Registry.askUpdate_error hask] at hlive
      cases hlive

/-- A change of what is shown is committed. The registry sees an update if the service is
registered. -/
theorem returns_commit_refines {operation : Service.Operation} {changed : Service}
    (hw : Faithful audit r w) (hrevised : (w.service r).Revised changed)
    (hafter : operation.after (w.portrait audit r) = (w.setService r changed).portrait audit r)
    (heffective : operation.isEffective (w.portrait audit r) = true) :
    (Service.commit out r changed).Returns w fun result w' => result = .ok () ∧
      Refines audit r operation w (.ok (operation.answer (w.portrait audit r))) w' := by
  simp only [Service.commit, Run.returns_bind, Run.returns_setService]
  have hservice : (w.setService r changed).service r = changed := by simp
  have hsurroundings : (w.setService r changed).surroundings = w.surroundings := rfl
  generalize w.setService r changed = u at hafter hservice hsurroundings ⊢
  have hbehind : (operation.after (w.portrait audit r)).handle = (w.service r).registration := by
    rw [hafter, World.portrait, hservice, hrevised.registration]
  cases hheld : (w.service r).registration with
  | none =>
      have hfree : changed.registration = none := hrevised.registration.trans hheld
      rw [Service.snapshot, hfree, Option.map_none]
      refine (returns_push_nothing r out.rounds u).mono ?_
      rintro _ _ ⟨rfl, rfl⟩
      refine ⟨rfl, rfl, ?_, hafter.symm, ?_, .of_unregistered ?_ (hservice ▸ hfree), ?_⟩
      · rw [Portrait.calls_free _ _ hheld (hbehind.trans hheld), List.append_nil, hsurroundings]
      · rw [hservice, hrevised.declared]
      · exact hsurroundings ▸ hw.numbered
      · rw [hservice, hfree, hheld, hsurroundings]
  | some handle =>
      have hkept : changed.registration = some handle := hrevised.registration.trans hheld
      have hsnapshot : changed.snapshot = some ⟨handle, changed.visible, changed.revision⟩ := by
        rw [Service.snapshot, hkept]
        rfl
      obtain ⟨record, hrecord, hspecifications, hfactory, -⟩ := hw.record handle hheld
      have hlive : (audit u.surroundings).registry.isRegistered handle = true := by
        rw [Registry.isRegistered, hsurroundings, hrecord]
        rfl
      rw [hsnapshot]
      refine (returns_push_seen hout (by rw [hservice, hsnapshot]) hlive).mono ?_
      rintro _ w' ⟨rfl, hplatform, hupdate, hcalls⟩
      have hservice' : w'.service r = changed :=
        (congrFun (Service.service_of_platform hplatform) r).trans hservice
      have hportrait : w'.portrait audit r = u.portrait audit r := by
        rw [World.portrait, World.portrait, hservice', hservice, (Registry.update_ok hupdate).2.2]
      have hshown : changed.visible.get? = (w'.portrait audit r).shown := by
        rw [← hservice', Service.get?_visible]
      rw [hsurroundings] at hupdate hcalls
      refine ⟨rfl, rfl, ?_, hportrait.trans hafter.symm, ?_, ⟨?_, ?_⟩, ?_⟩
      · rw [Portrait.calls_kept _ _ hheld (hbehind.trans hheld), hcalls, if_pos heffective, hshown,
          hportrait, hafter]
      · rw [hservice', hrevised.declared]
      · exact hw.numbered.update hupdate
      · intro other hother
        rw [hservice', hkept] at hother
        cases hother
        rw [Registry.record?_update hupdate, if_pos rfl, hrecord, hservice', ← hshown]
        refine ⟨_, rfl, ?_, ?_, rfl⟩
        · rw [hspecifications, Service.specifications, Service.specifications, hrevised.declared]
        · rw [hfactory, hrevised.declared]
      · rw [hservice', hkept, hheld]
        exact Registry.besides_update hupdate

theorem returns_write_refines (field : String) (value : Value) (hw : Faithful audit r w) :
    ((Service.Operation.write field value).ask out r).Returns w
      (Refines audit r (.write field value) w) := by
  simp only [Service.Operation.ask, Service.write, map_eq_pure_bind, Run.returns_bind,
    Run.returns_service]
  have heffective : (Service.Operation.write field value).isEffective (w.portrait audit r) =
      ((w.service r).written? field value).isSome :=
    Option.isSome_map.symm
  cases hwritten : (w.service r).written? field value with
  | none =>
      have hsame := Option.map_eq_none_iff.mp hwritten
      rw [hwritten] at heffective
      simp only [Run.returns_pure]
      refine Refines.unchanged hw ?_ ?_ heffective
      · rw [Service.Operation.answer, heffective]
        rfl
      · simp [Service.Operation.after, World.portrait, hsame]
  | some changed =>
      rw [hwritten] at heffective
      obtain ⟨hrevised, -⟩ := Service.written?_eq_some hwritten
      obtain ⟨properties, hassigned, rfl⟩ := Option.map_eq_some_iff.mp hwritten
      simp only [Run.returns_bind, Run.returns_pure]
      refine (returns_commit_refines hout hw hrevised ?_ heffective).mono ?_
      · simp [Service.Operation.after, World.portrait, hassigned, Service.revised]
      · rintro _ w' ⟨rfl, hrefines⟩
        rw [Service.Operation.answer, heffective] at hrefines
        exact hrefines

/-- An operation that changes the entries on top, or leaves them as they are. -/
theorem returns_overlay_refines {operation : Service.Operation} {revised? : Option Service}
    (hw : Faithful audit r w)
    (hrevised : ∀ changed, revised? = some changed →
      (w.service r).Revised changed ∧ changed.properties = (w.service r).properties)
    (hafter : operation.after (w.portrait audit r) =
      { w.portrait audit r with extras := (revised?.getD (w.service r)).extras.get? })
    (hanswer : operation.answer (w.portrait audit r) = none)
    (heffective : operation.isEffective (w.portrait audit r) = revised?.isSome) :
    Run.Returns
      (match revised? with
        | none => return .ok ()
        | some changed => Service.commit out r changed)
      w fun result => Refines audit r operation w (result.map fun _ => none) := by
  cases revised? with
  | none =>
      rw [Run.returns_pure]
      exact .unchanged hw (by rw [hanswer]; rfl) hafter heffective
  | some changed =>
      obtain ⟨hchanged, hproperties⟩ := hrevised changed rfl
      refine (returns_commit_refines hout hw hchanged ?_ heffective).mono ?_
      · rw [hafter]
        simp [World.portrait, hproperties, hchanged.registration]
      · rintro _ w' ⟨rfl, hrefines⟩
        rw [hanswer] at hrefines
        exact hrefines

theorem returns_extend_refines (entries : Properties) (hw : Faithful audit r w) :
    ((Service.Operation.extend entries).ask out r).Returns w
      (Refines audit r (.extend entries) w) := by
  simp only [Service.Operation.ask, Service.extend, map_eq_pure_bind, Run.returns_bind,
    Run.returns_service, Run.returns_pure]
  refine returns_overlay_refines hout hw (fun changed hextended => ?_) ?_ rfl ?_
  · obtain ⟨hrevised, hproperties, -⟩ := Service.extended?_eq_some hextended
    exact ⟨hrevised, hproperties⟩
  · rw [Service.extras_extended?, Service.Operation.after, Portrait.mk.injEq]
    exact ⟨rfl, funext fun key => (Dictionary.get?_override _ _ key).symm, rfl, rfl⟩
  · rw [Service.Operation.isEffective, Service.extended?]
    cases entries.isEmpty <;> rfl

theorem returns_reduce_refines (entries : Properties) (hw : Faithful audit r w) :
    ((Service.Operation.reduce entries).ask out r).Returns w
      (Refines audit r (.reduce entries) w) := by
  simp only [Service.Operation.ask, Service.reduce, map_eq_pure_bind, Run.returns_bind,
    Run.returns_service, Run.returns_pure]
  refine returns_overlay_refines hout hw (fun changed hreduced => ?_) ?_ rfl ?_
  · obtain ⟨hrevised, hproperties, -⟩ := Service.reduced?_eq_some hreduced
    exact ⟨hrevised, hproperties⟩
  · rw [Service.extras_reduced?, Service.Operation.after, Portrait.mk.injEq]
    exact ⟨rfl, funext fun key => (Dictionary.get?_without _ _ key).symm, rfl, rfl⟩
  · rw [Service.Operation.isEffective, World.portrait, Service.reduced?]
    split
    next hsize => exact Dictionary.size_without_eq_iff.mp hsize
    next hsize => exact (Bool.not_eq_false _).mp (mt Dictionary.size_without_eq_iff.mpr hsize)

/-- A service is registered that was not. It has a specification. -/
theorem returns_register_refines (hspecified : (w.service r).specifications ≠ [])
    (hw : Faithful audit r w) :
    (Service.Operation.register.ask out r).Returns w (Refines audit r .register w) := by
  simp only [Service.Operation.ask, Service.register, map_eq_pure_bind, Run.returns_bind,
    Run.returns_service]
  cases hheld : (w.service r).registration with
  | some handle =>
      simp only [Option.isSome_some, if_true, Run.returns_pure]
      refine Refines.unchanged hw ?_ ?_ rfl
      · simp [Service.Operation.answer, World.portrait, hheld, Except.map]
      · simp [Service.Operation.after, World.portrait, hheld]
  | none =>
      simp only [Option.isSome_none, Bool.false_eq_true, if_false, Run.returns_bind]
      refine (hout.register _ _ _ w).mono ?_
      rintro answer u ⟨hanswer, hseen⟩
      cases hanswer with
      | refused _ hask => exact absurd (Registry.register_error hask) hspecified
      | @served handle hplatform hask =>
          have hservice : u.service r = w.service r :=
            congrFun (Service.service_of_platform hplatform) r
          obtain ⟨hhandle, -, hmade⟩ := Registry.register_ok hask
          have hafter : Service.Operation.register.after (w.portrait audit r) =
              ⟨(w.service r).properties, (w.service r).extras.get?, some handle,
                (audit u.surroundings).registry.registrations⟩ := by
            simp [Service.Operation.after, World.portrait, hheld, hhandle, Registry.nextHandle, hmade]
          simp only [Run.returns_bind, Run.returns_service, Run.returns_setService, hservice, ne_eq,
            not_true_eq_false, if_false]
          refine (Run.Returns.mono (returns_push_nothing _ _ _) ?_)
          rintro _ _ ⟨rfl, rfl⟩
          simp only [Run.returns_pure]
          let registered : Service := { w.service r with registration := some handle }
          have hservice' : (u.setService r registered).service r = registered := by simp
          have hsurroundings : (u.setService r registered).surroundings = u.surroundings := rfl
          have hbehind : (u.setService r registered).portrait audit r =
              Service.Operation.register.after (w.portrait audit r) := by
            rw [hafter, World.portrait, hservice', hsurroundings]
          refine ⟨?_, ?_, hbehind, ?_, ⟨?_, ?_⟩, ?_⟩
          · simp [Service.Operation.answer, World.portrait, hheld, Except.map]
          · rw [Portrait.calls_registered _ _ hheld (by rw [hafter]), ← Service.get?_visible]
            exact hseen
          · rw [hservice']
          · exact hw.numbered.register hask
          · intro other hother
            rw [hservice'] at hother
            cases hother
            rw [hservice', hsurroundings, Registry.record?_register hw.numbered hask, if_pos rfl]
            refine ⟨_, rfl, rfl, rfl, ?_⟩
            rw [hbehind, hafter, Service.get?_visible audit r w]
            rfl
          · rw [hservice', hsurroundings, hheld]
            exact Registry.besides_register hw.numbered hask

theorem returns_unregister_refines (hw : Faithful audit r w) :
    (Service.Operation.unregister.ask out r).Returns w (Refines audit r .unregister w) := by
  simp only [Service.Operation.ask, Service.unregister, map_eq_pure_bind, Run.returns_bind,
    Run.returns_service]
  cases hheld : (w.service r).registration with
  | none =>
      simp only [Run.returns_pure]
      refine Refines.unchanged hw ?_ ?_ rfl
      · simp [Service.Operation.answer, World.portrait, hheld, Except.map]
      · simp [Service.Operation.after, World.portrait, hheld]
  | some handle =>
      obtain ⟨record, hrecord, -⟩ := hw.record handle hheld
      let freed : Service := { w.service r with registration := none }
      have hfreed : (w.setService r freed).service r = freed := by simp
      have hsurroundings : (w.setService r freed).surroundings = w.surroundings := rfl
      simp only [Run.returns_bind, Run.returns_setService, Run.returns_pure]
      change (out.unregister handle).Returns (w.setService r freed) _
      generalize w.setService r freed = u at hfreed hsurroundings ⊢
      refine (hout.unregister handle u).mono ?_
      rintro answer w' ⟨hanswer, hseen⟩
      rw [hsurroundings] at hseen
      cases hanswer with
      | refused _ hask =>
          have hunknown := Registry.askUnregister_error hask
          rw [hsurroundings, Registry.isRegistered, hrecord] at hunknown
          cases hunknown
      | served hplatform hask =>
          have hunregister := Registry.askUnregister_ok hask
          rw [hsurroundings] at hunregister
          have hservice : w'.service r = freed :=
            (congrFun (Service.service_of_platform hplatform) r).trans hfreed
          have hafter : (Service.Operation.unregister.after (w.portrait audit r)).handle = none := rfl
          refine ⟨?_, ?_, ?_, ?_, .of_unregistered (hw.numbered.unregister hunregister) ?_, ?_⟩
          · simp [Service.Operation.answer, World.portrait, hheld, Except.map]
          · rw [Portrait.calls_unregistered _ _ hheld hafter, hseen]
          · rw [World.portrait, hservice, (Registry.unregister_ok hunregister).2.2]
            rfl
          · rw [hservice]
          · rw [hservice]
          · rw [hservice, hheld]
            exact Registry.besides_unregister hunregister

/-- Every operation of a service is a step of its portrait. -/
theorem returns_ask_refines (operation : Service.Operation)
    (hunfailing : operation = .register → (w.service r).specifications ≠ [])
    (hw : Faithful audit r w) :
    (operation.ask out r).Returns w (Refines audit r operation w) := by
  cases operation with
  | write field value => exact returns_write_refines hout field value hw
  | extend entries => exact returns_extend_refines hout entries hw
  | reduce entries => exact returns_reduce_refines hout entries hw
  | register => exact returns_register_refines hout (hunfailing rfl) hw
  | unregister => exact returns_unregister_refines hout hw

end Layer

/-! ## Runs -/

/-- A registered service keeps its handle until it is unregistered. -/
theorem Service.Operation.handle_after {operation : Service.Operation} {p : Portrait}
    {handle : Registration} (hheld : p.handle = some handle) (hother : operation ≠ .unregister) :
    (operation.after p).handle = some handle := by
  cases operation with
  | unregister => exact absurd rfl hother
  | register => simp [after, hheld]
  | _ => exact hheld

theorem Portrait.mem_steps {p : Portrait} {operations : List Service.Operation} {step : Step}
    (hstep : step ∈ p.steps operations) : step.behind = step.operation.after step.before := by
  induction operations generalizing p with
  | nil => cases hstep
  | cons operation rest ih =>
      rcases List.mem_cons.mp hstep with rfl | hrest
      · rfl
      · exact ih hrest

/-- A service refines its portrait. Over a registry in memory that calls nobody back operations
on it return, and none of them fails, provided that it has a specification if it is to be
registered. They answer as the portrait says. The registry sees a registration where the service
was not registered and then is, the return of one where it was and then is not, an update where
it stays registered and the operation had an effect, and no other call. While the service is
registered it keeps its handle, under which the registry has a record with its specifications
and its factory that shows the portrait; all other records stay as they are. -/
theorem service_refines_portrait (hout : Overheard audit out) (hw : Faithful audit r w)
    (operations : List Service.Operation)
    (hunfailing : .register ∈ operations → (w.service r).specifications ≠ []) :
    (operations.mapM (Service.Operation.ask out r)).Returns w fun answers w' =>
      answers = ((w.portrait audit r).steps operations).map
        (fun step => .ok (step.operation.answer step.before)) ∧
      (audit w'.surroundings).calls = (audit w.surroundings).calls ++
        ((w.portrait audit r).steps operations).flatMap
          (fun step => step.calls (w.service r).specifications (w.service r).declared.factory) ∧
      (∀ step ∈ (w.portrait audit r).steps operations, ∀ handle,
        step.before.handle = some handle → step.operation ≠ .unregister →
          step.behind.handle = some handle) ∧
      w'.portrait audit r = (w.portrait audit r).run operations ∧
      (w'.service r).declared = (w.service r).declared ∧
      Faithful audit r w' ∧
      (audit w'.surroundings).registry.besides (w'.service r).registration =
        (audit w.surroundings).registry.besides (w.service r).registration := by
  have hkept : ∀ step ∈ (w.portrait audit r).steps operations, ∀ handle,
      step.before.handle = some handle → step.operation ≠ .unregister →
        step.behind.handle = some handle := by
    intro step hstep handle hheld hother
    rw [Portrait.mem_steps hstep]
    exact Service.Operation.handle_after hheld hother
  induction operations generalizing w with
  | nil =>
      rw [List.mapM_nil, Run.returns_pure]
      exact ⟨rfl, (List.append_nil _).symm, hkept, rfl, rfl, hw, rfl⟩
  | cons operation rest ih =>
      rw [List.mapM_cons]
      simp only [Run.returns_bind, Run.returns_pure]
      refine (returns_ask_refines hout operation (fun heq => ?_) hw).mono fun answer u hstep => ?_
      · exact hunfailing (heq ▸ List.mem_cons_self)
      have hspecifications : (u.service r).specifications = (w.service r).specifications := by
        rw [Service.specifications, hstep.declared, Service.specifications]
      refine (ih hstep.faithful (fun hmem => ?_) ?_).mono ?_
      · rw [hspecifications]
        exact hunfailing (List.mem_cons_of_mem _ hmem)
      · rw [hstep.behind]
        exact fun step hmem => hkept step (List.mem_cons_of_mem _ hmem)
      rintro answers w' ⟨hanswers, hcalls, -, hportrait, hdeclared, hfaithful, hbesides⟩
      rw [hstep.behind] at hanswers hcalls hportrait
      rw [hspecifications, hstep.declared, hstep.seen, List.append_assoc] at hcalls
      refine ⟨?_, hcalls, hkept, hportrait, hdeclared.trans hstep.declared, hfaithful,
        hbesides.trans hstep.besides⟩
      rw [hanswers, hstep.answered]
      rfl

/-! ## A barometer -/

/-- A barometer whose level comes from a field. -/
def Service.barometer : Service where
  declared := ⟨["Barometer"], .singleton, []⟩
  properties :=
    [⟨⟨"unit", none, none, none⟩, some (.text "hPa")⟩,
      ⟨⟨"level", some "level", none, none⟩, none⟩]
  extras := .empty
  registration := none
  revision := 0

/-- The barometer on a platform of its own, in whose registry there is a clock already. -/
def World.barometer : World Audit where
  platform :=
    { Platform.ofSettings .standard with services := (Store.empty.add Service.barometer).2 }
  surroundings := ⟨⟨[⟨⟨1⟩, ["Clock"], .empty, .singleton⟩], 1, 0, 0⟩, []⟩

namespace Audit

/-- Note a call behind it. -/
def noting (call : Registry.Call) (m : Run Audit (Except Failure α)) :
    Run Audit (Except Failure α) := do
  let answer ← m
  Run.changeSurroundings fun audit => { audit with calls := audit.calls ++ [call] }
  return answer

/-- A registry in memory whose calls are noted. -/
def collaborators : Collaborators Audit :=
  let plain := Collaborators.inMemory registry (fun after audit => { audit with registry := after })
    (fun _ audit => audit) fun _ => return .returned
  { plain with
    register := fun specifications properties factory =>
      noting (.register specifications properties.get? factory)
        (plain.register specifications properties factory)
    unregister := fun handle => noting (.unregister handle) (plain.unregister handle)
    update := fun handle properties =>
      noting (.update handle properties.get?) (plain.update handle properties) }

theorem serves_noting (ask : Registry → Except Failure (α × Registry)) (call : Registry.Call) :
    Serves id ask call (noting call
      (askRegistry registry (fun after audit => { audit with registry := after }) ask)) := by
  intro w
  simp only [noting, askRegistry, Run.returns_bind, Run.returns_surroundings]
  split
  next a after hask =>
    simp only [Run.returns_bind, Run.returns_changeSurroundings, Run.returns_pure]
    exact ⟨.served rfl hask, rfl⟩
  next failure hask =>
    simp only [Run.returns_changeSurroundings, Run.returns_pure]
    exact ⟨.refused ⟨rfl, rfl⟩ hask, rfl⟩

theorem overheard_collaborators : Overheard id collaborators where
  register _ _ _ := serves_noting _ _
  unregister _ := serves_noting _ _
  update _ _ := serves_noting _ _
  rounds := Nat.one_pos

end Audit

/-- The barometer is registered, shows another unit for a while, and its level is written twice
with one value. The registry sees a registration, three updates and the return of the
registration, and the clock stays. -/
theorem service_refines_portrait_barometer :
    let operations : List Service.Operation :=
      [.reduce (.ofList [("unit", .null)]), .register, .extend (.ofList [("unit", .text "mmHg")]),
        .write "level" (.integer 7), .write "level" (.integer 7), .register,
        .reduce (.ofList [("unit", .null), ("rate", .null)]), .unregister]
    ∃ answers w', (operations.mapM (Service.Operation.ask Audit.collaborators ⟨0⟩)).run .barometer =
        some (answers, w') ∧
      answers = [.ok none, .ok (some true), .ok none, .ok (some true), .ok (some false),
        .ok (some false), .ok none, .ok (some true)] ∧
      w'.surroundings.calls.length = 5 ∧
      w'.surroundings.registry.besides (w'.service ⟨0⟩).registration =
        [⟨⟨1⟩, ["Clock"], .empty, .singleton⟩] := by
  intro operations
  have hnumbered : World.barometer.surroundings.registry.Numbered := by
    intro record hrecord
    rw [List.mem_singleton.mp hrecord]
    exact Nat.le_refl 1
  obtain ⟨answers, w', hrun, hanswers, hcalls, -, -, -, -, hbesides⟩ :=
    service_refines_portrait (w := .barometer) (r := ⟨0⟩) Audit.overheard_collaborators
      (.of_unregistered hnumbered rfl) operations fun _ => by decide
  refine ⟨answers, w', hrun, ?_, ?_, hbesides⟩
  · have hsteps : ((World.barometer.portrait id ⟨0⟩).steps operations).map
        (fun step => step.operation.answer step.before) =
          [none, some true, none, some true, some false, some false, none, some true] := by
      decide +kernel
    exact hanswers.trans (List.map_map.symm.trans (congrArg (List.map Except.ok) hsteps))
  · have hcalls := congrArg List.length hcalls
    refine hcalls.trans ?_
    decide +kernel

end Componentry
