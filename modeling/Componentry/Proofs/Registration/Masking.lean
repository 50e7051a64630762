import Componentry.Proofs.Ensemble.Assembly
import Componentry.Proofs.Registration.Indifference

/-!
# Masked failures

A component masks the failures of its registry. Whichever calls the registry refuses, before
they take effect or behind that, the life of the component is the same in all that can be
seen of it: its state and what its methods are called for, its fields and properties, what
its services show, and where it can be configured.

The failures may even depend on what the registry holds. The methods of the component may
run operations themselves, as long as they do not look at the registry.
-/

namespace Componentry

variable {σ τ ν α : Type}

/-- A component is configured with handlers, and then operations run, one after the other. -/
def Ensemble.course (e : Ensemble) (out : Collaborators σ) (candidates : List Handler)
    (configuration : Properties) (operations : List Ensemble.Operation) : Run σ Unit := do
  Component.configure out e.component candidates configuration
  operations.forM fun operation => operation.run out e

/-- An ensemble is seen alike in two worlds, where fields are read with the collaborators of
either side. -/
structure Agree (V : Sight σ τ ν) (out₁ out₂ : Collaborators σ) (e : Ensemble)
    (w₁ w₂ : World σ) : Prop where
  state : (w₁.component e.component).state = (w₂.component e.component).state
  tracked : (w₁.caller e.caller).tracked = (w₂.caller e.caller).tracked
  called : V.called w₁.surroundings = V.called w₂.surroundings
  fields : ∀ field, ((Component.getField out₁ e.component field).run w₁).map Prod.fst =
    ((Component.getField out₂ e.component field).run w₂).map Prod.fst
  properties :
    (w₁.configurator e.configurator).properties.map
        (fun r => ((w₁.property r).value, (w₁.property r).modifications)) =
      (w₂.configurator e.configurator).properties.map
        fun r => ((w₂.property r).value, (w₂.property r).modifications)
  propagated :
    (w₁.configurator e.configurator).propagated = (w₂.configurator e.configurator).propagated
  services : (w₁.provider e.provider).services.map (fun r => (w₁.service r).visible) =
    (w₂.provider e.provider).services.map fun r => (w₂.service r).visible
  live : V.live w₁.surroundings = V.live w₂.surroundings

section Masking

variable {V : Sight σ τ ν} {out₁ out₂ : Collaborators σ} {w₁ w₂ : World σ}

/-- In worlds that are alike an ensemble is seen alike. -/
theorem Alike.agree (halike : Alike V w₁ w₂) (hmatched : Matched V out₁ out₂) (e : Ensemble) :
    Agree V out₁ out₂ e w₁ w₂ where
  state := by rw [halike.component]
  tracked := by rw [halike.caller]
  called := congrArg Prod.fst halike.seen
  fields field := by
    apply Run.Jointly.map_fst_eq
    exact (twins_getField hmatched e.component field w₁ w₂ halike).mono fun _ _ _ _ h => h.2
  properties := by
    rw [Configurator.eq_of_concealed (halike.configurator e.configurator), halike.property]
  propagated := by rw [Configurator.eq_of_concealed (halike.configurator e.configurator)]
  services := by
    rw [halike.provider]
    apply List.map_congr_left
    exact fun r _ => Service.visible_of_detached (halike.service r)
  live := congrArg (fun seen => seen.2.1) halike.seen

/-- Failures of the registry are masked. Two courses of the same operations, over registries
that may refuse different calls, both come to an end or neither does, and behind any number
of operations the ensemble is seen alike. -/
theorem registry_failures_masked (hmatched : Matched V out₁ out₂) (halike : Alike V w₁ w₂)
    (e : Ensemble) (candidates : List Handler) (configuration : Properties)
    (operations : List Ensemble.Operation) :
    (e.course out₁ candidates configuration operations).Jointly
      (e.course out₂ candidates configuration operations) w₁ w₂
      fun _ u₁ _ u₂ => Agree V out₁ out₂ e u₁ u₂ := by
  have htwins : Run.Twins (Alike V) Eq (e.course out₁ candidates configuration operations)
      (e.course out₂ candidates configuration operations) := by
    apply (twins_configure hmatched e.component candidates configuration).bind
    intro _ _ _
    exact Run.Twins.forM fun operation _ => twins_operation hmatched e operation
  exact (htwins w₁ w₂ halike).mono fun _ _ _ _ h => h.1.agree hmatched e

end Masking

/-! ## A lamp on a market -/

/-- How a call of a registry may go wrong. -/
inductive Mishap
  | none
  /-- The call is refused and has no effect. -/
  | before
  /-- The call has its effect, and is refused all the same. -/
  | behind

/-- A registry that counts its calls, a host, and the bodies that were called. -/
structure Market where
  registry : Registry
  asked : Nat
  host : Host Target
  called : List Nat

namespace Market

/-- A market where nothing has happened. -/
def empty : Market := ⟨.empty, 0, .empty, []⟩

/-- Keep another registry. -/
def store (after : Registry) (market : Market) : Market := { market with registry := after }

/-- Keep another host. -/
def setHost (after : Host Target) (market : Market) : Market := { market with host := after }

/-- Enter that a body is called. -/
def enter (number : Nat) (market : Market) : Market :=
  { market with called := market.called ++ [number] }

/-- All of a market is seen but the registry. -/
def sight : Sight Market (Host Target) Publication where
  called := called
  live market := market.host.endpoints.map fun endpoint =>
    (endpoint.identity, endpoint.properties, endpoint.target)
  rest := host
  name _ handle := some handle

/-- Ask the registry, where the call may go wrong that has the next number. -/
def ask (mishap : Nat → Mishap) (question : Registry → Except Failure (α × Registry)) :
    Run Market (Except Failure α) := do
  let number := (← Run.surroundings).asked
  Run.changeSurroundings fun market => { market with asked := number + 1 }
  match mishap number with
  | .none => askRegistry registry store question
  | .before => return .error (.registry (.refused "closed"))
  | .behind => do
      let _ ← askRegistry registry store question
      return .error (.registry (.refused "closed"))

/-- The collaborators of a market, whose registry refuses some of its calls. -/
def collaborators (mishap : Nat → Mishap) (method : Nat → Run Market Ending) :
    Collaborators Market :=
  let memory : Collaborators Market := .inMemory registry store (fun _ market => market) method
  { memory.hosting host setHost with
    register := fun specifications properties factory =>
      ask mishap (·.register specifications properties factory)
    unregister := fun handle => ask mishap (·.askUnregister handle)
    update := fun handle properties => ask mishap (·.askUpdate handle properties)
    call := fun number _ => do
      Run.changeSurroundings (enter number)
      method number }

theorem returns_ask (mishap : Nat → Mishap)
    (question : Registry → Except Failure (α × Registry)) (w : World Market) :
    (ask mishap question).Returns w fun _ => Idle sight.view w := by
  have hasked : ∀ u, Idle sight.view w u →
      (askRegistry registry store question).Returns u fun _ => Idle sight.view w := by
    intro u hidle
    simp only [askRegistry, Run.returns_bind, Run.returns_surroundings]
    split
    · simp only [Run.returns_bind, Run.returns_changeSurroundings, Run.returns_pure]
      exact hidle
    · exact (Run.returns_pure _).mpr hidle
  simp only [ask, Run.returns_bind, Run.returns_surroundings, Run.returns_changeSurroundings]
  split
  · exact hasked _ ⟨rfl, rfl⟩
  · exact (Run.returns_pure _).mpr ⟨rfl, rfl⟩
  · simp only [Run.returns_bind, Run.returns_pure]
    exact hasked _ ⟨rfl, rfl⟩

theorem muted_collaborators (mishap : Nat → Mishap) (method : Nat → Run Market Ending) :
    Muted sight.view (collaborators mishap method) where
  log _ _ := rfl
  registered _ _ _ _ := rfl
  unregistered _ _ _ := rfl
  register _ _ _ := returns_ask mishap _
  unregister _ := returns_ask mishap _
  update _ _ := returns_ask mishap _
  rounds := Nat.one_pos

theorem host_of_alike {w₁ w₂ : World Market} (halike : Alike sight w₁ w₂) :
    w₁.surroundings.host = w₂.surroundings.host :=
  congrArg (fun seen => seen.2.2) halike.seen

theorem alike_setHost {w₁ w₂ : World Market} (halike : Alike sight w₁ w₂) (after : Host Target) :
    Alike sight (w₁.changeSurroundings (setHost after))
      (w₂.changeSurroundings (setHost after)) := by
  have hcalled : w₁.surroundings.called = w₂.surroundings.called := congrArg Prod.fst halike.seen
  apply halike.changeSurroundings rfl rfl
  simp [Sight.seen, sight, setHost, hcalled]

/-- Whatever calls go wrong on either side, methods that do alike make collaborators that
match. -/
theorem matched_collaborators {mishap₁ mishap₂ : Nat → Mishap}
    {method₁ method₂ : Nat → Run Market Ending}
    (hmethod : ∀ number, Run.Twins (Alike sight) Eq (method₁ number) (method₂ number)) :
    Matched sight (collaborators mishap₁ method₁) (collaborators mishap₂ method₂) where
  left := muted_collaborators mishap₁ method₁
  right := muted_collaborators mishap₂ method₂
  tell _ := Run.twins_of_steps (fun _ => rfl) (fun _ => rfl) fun _ _ halike => ⟨halike, rfl⟩
  publish identity properties target w₁ w₂ halike := by
    simp only [collaborators, Collaborators.hosting]
    apply Run.jointly_bind_of_steps (c := w₁.surroundings) (d := w₂.surroundings) rfl rfl
    rw [host_of_alike halike]
    apply Run.jointly_bind_of_steps (c := ()) (d := ()) rfl rfl
    exact .some ⟨alike_setHost halike _, _, rfl, rfl⟩
  withdraw handle₁ handle₂ w₁ w₂ halike hname := by
    obtain ⟨name, hname₁, hname₂⟩ := hname
    cases hname₁
    cases hname₂
    simp only [collaborators, Collaborators.hosting]
    apply Run.jointly_bind_of_steps (c := w₁.surroundings) (d := w₂.surroundings) rfl rfl
    rw [host_of_alike halike]
    split
    · apply Run.jointly_bind_of_steps (c := ()) (d := ()) rfl rfl
      exact .some ⟨alike_setHost halike _, rfl⟩
    · exact .some ⟨halike, trivial⟩
  call number := by
    have hruns : ∀ mishap (method : Nat → Run Market Ending),
        sight.Runs (collaborators mishap method) number fun _ => method number :=
      fun _ _ => ⟨enter number, fun _ => ⟨rfl, rfl, rfl, rfl⟩, fun _ => rfl⟩
    exact ⟨_, _, hruns _ _, hruns _ _, fun _ => hmethod number⟩
  configure _ _ _ _ := Run.twins_pure rfl
  notify _ _ := Run.twins_pure rfl
  read _ _ _ := Run.twins_pure rfl
  ready _ := Run.twins_pure rfl

/-- The method of the lamp writes the field of its service, and fails. -/
def glowing (mishap : Nat → Mishap) : Collaborators Market :=
  collaborators mishap fun _ =>
    Ensemble.lamp.performing (collaborators mishap fun _ => return .returned)
      [.setField "color" (.text "green")] (.failed "too bright")

theorem matched_glowing (mishap₁ mishap₂ : Nat → Mishap) :
    Matched sight (glowing mishap₁) (glowing mishap₂) := by
  have hbelow : Matched sight (collaborators mishap₁ fun _ => return .returned)
      (collaborators mishap₂ fun _ => return .returned) :=
    matched_collaborators fun _ => Run.twins_pure rfl
  exact matched_collaborators fun _ => twins_performing hbelow Ensemble.lamp _ _

/-- The lamp is started, written, configured anew, and started once more behind a change. -/
def script : List Ensemble.Operation :=
  [.start, .setField "color" (.text "blue"),
    .update (some (.ofList [("level", .text "3"), ("mood", .text "calm")])),
    .setState .invalid, .start]

/-- The registry does all that it is asked for, and says each time that it has not. -/
def denying : Collaborators Market := glowing fun _ => .behind

/-- The registry refuses only the second call. -/
def faltering : Collaborators Market :=
  glowing fun number => if number = 1 then .before else .none

end Market

/-- Over a registry that denies all it has done the lamp is not registered in the end, and
over one that falters it is, but it is seen alike. Its method was called twice. -/
theorem registry_failures_masked_lamp :
    ∃ w₁ w₂ : World Market,
      (Ensemble.lamp.course Market.denying Ensemble.lamp.handlers .empty Market.script).run
        (.lamp .empty) = some ((), w₁) ∧
      (Ensemble.lamp.course Market.faltering Ensemble.lamp.handlers .empty Market.script).run
        (.lamp .empty) = some ((), w₂) ∧
      (w₁.service ⟨0⟩).registration = none ∧ (w₂.service ⟨0⟩).registration = some ⟨2⟩ ∧
      w₁.surroundings.called = [0, 0] ∧
      Agree Market.sight Market.denying Market.faltering .lamp w₁ w₂ := by
  have hends : ((Ensemble.lamp.course Market.denying Ensemble.lamp.handlers .empty
      Market.script).run (.lamp .empty)).bind (fun first =>
        ((Ensemble.lamp.course Market.faltering Ensemble.lamp.handlers .empty
          Market.script).run (.lamp .empty)).map fun second =>
            decide ((first.2.service ⟨0⟩).registration = none ∧
              (second.2.service ⟨0⟩).registration = some ⟨2⟩ ∧
              first.2.surroundings.called = [0, 0])) = some true := by
    decide +kernel
  obtain ⟨⟨⟨⟩, w₁⟩, hdenied, hends⟩ := Option.bind_eq_some_iff.mp hends
  obtain ⟨⟨⟨⟩, w₂⟩, hfaltered, hfacts⟩ := Option.map_eq_some_iff.mp hends
  obtain ⟨hfree, hheld, hcalled⟩ := of_decide_eq_true hfacts
  have halike : Alike Market.sight (.lamp .empty) (.lamp .empty) := .refl fun _ _ _ => rfl
  have hmatched : Matched Market.sight Market.denying Market.faltering :=
    Market.matched_glowing _ _
  have hagree := registry_failures_masked hmatched halike .lamp Ensemble.lamp.handlers .empty
    Market.script
  rw [Run.Jointly, hdenied, hfaltered] at hagree
  cases hagree with
  | some hagree => exact ⟨w₁, w₂, hdenied, hfaltered, hfree, hheld, hcalled, hagree⟩

end Componentry
