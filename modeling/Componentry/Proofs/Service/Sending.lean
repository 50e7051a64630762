import Componentry.Proofs.Run.Returning
import Componentry.Proofs.Service.Convergence
import Componentry.Proofs.Service.Pushing

/-!
# Updates come to an end

A push goes on as long as it finds a newer revision than the one that it has sent, and the
registry may change the service in every call. `Service.send` sends updates as a push does, but
stops behind a number of them, and hands back what it has sent and with what the push has ended,
if it has.

Revisions only grow, however deep operations are nested in the calls of the registry, and each
further update is sent for a revision that no update before it had. So a push that is
interrupted by so many changes sends at most one update more, and then it returns.
-/

namespace Componentry.Service

variable {σ : Type}

/-- An update that is sent, with the world in which the registry is called and the world that
the call leaves. -/
structure Sending (σ : Type) where
  update : Update
  before : World σ
  behind : World σ

/-- How far a push has come: what it has sent, and its answer if it has ended. -/
structure Pushed (σ : Type) where
  sent : List (Sending σ)
  answer : Option (Except Failure Unit)

/-- The same with an update that was sent before. -/
def Pushed.after (first : Sending σ) (rest : Pushed σ) : Pushed σ :=
  { rest with sent := first :: rest.sent }

/-- What comes of an update when the service is looked at again: the push ends with an answer,
or a newer update is to be sent. -/
def verdict (service : Service) (update : Update) (pushed : Except Failure Unit) :
    Except Failure Unit ⊕ Update :=
  if service.registration ≠ some update.handle then .inl (.ok ())
  else
    match pushed with
    | .error failure => .inl (.error failure)
    | .ok () =>
        match if service.revision ≠ update.revision then service.snapshot else none with
        | none => .inl (.ok ())
        | some newer => .inr newer

variable (out : Collaborators σ) (r : Ref .service)

/-- Send updates as a push does, but at most so many. -/
def send : (rounds : Nat) → Update → Run σ (Pushed σ)
  | 0, _ => return ⟨[], none⟩
  | rounds + 1, update => do
      let before ← get
      let pushed ← out.update update.handle update.properties
      let behind ← get
      match (behind.service r).verdict update pushed with
      | .inl answer => return ⟨[⟨update, before, behind⟩], some answer⟩
      | .inr newer => return (← send rounds newer).after ⟨update, before, behind⟩

variable {out r} {rounds : Nat} {update newer : Update} {w w' : World σ}

/-- A newer update is that of the service, at a revision that has not been sent. -/
theorem verdict_eq_inr {service : Service} {pushed : Except Failure Unit}
    (hverdict : service.verdict update pushed = .inr newer) :
    service.snapshot = some newer ∧ service.revision ≠ update.revision := by
  unfold verdict at hverdict
  split at hverdict
  · cases hverdict
  cases pushed with
  | error failure => cases hverdict
  | ok answer =>
      by_cases hsame : service.revision = update.revision
      · simp [hsame] at hverdict
      · rw [if_pos hsame] at hverdict
        cases hsnapshot : service.snapshot with
        | none => simp [hsnapshot] at hverdict
        | some current =>
            rw [hsnapshot] at hverdict
            cases hverdict
            exact ⟨rfl, hsame⟩

theorem push_succ (rounds : Nat) (update : Update) :
    push out r (rounds + 1) (some update) = (do
      let pushed ← out.update update.handle update.properties
      let service ← Run.service r
      match service.verdict update pushed with
      | .inl answer => return answer
      | .inr newer => push out r rounds (some newer)) := by
  rw [push]
  refine bind_congr fun pushed => bind_congr fun service => ?_
  unfold verdict
  split
  · rfl
  cases pushed with
  | error failure => rfl
  | ok answer =>
      dsimp only
      generalize (if service.revision ≠ update.revision then service.snapshot else none) = pending
      cases pending with
      | none => rw [push.eq_def]
      | some newer => rfl

theorem run_push_succ :
    (push out r (rounds + 1) (some update)).run w =
      ((out.update update.handle update.properties).run w).bind fun called =>
        match (called.2.service r).verdict update called.1 with
        | .inl answer => some (answer, called.2)
        | .inr newer => (push out r rounds (some newer)).run called.2 := by
  rw [push_succ, StateT.run_bind]
  refine Option.bind_congr fun ⟨pushed, v⟩ _ => ?_
  change (match (v.service r).verdict update pushed with | .inl _ => _ | .inr _ => _ : Run σ _).run v
    = match (v.service r).verdict update pushed with | .inl _ => _ | .inr _ => _
  cases (v.service r).verdict update pushed with
  | inl answer => rfl
  | inr newer => rfl

theorem run_send_succ :
    (send out r (rounds + 1) update).run w =
      ((out.update update.handle update.properties).run w).bind fun called =>
        match (called.2.service r).verdict update called.1 with
        | .inl answer => some (⟨[⟨update, w, called.2⟩], some answer⟩, called.2)
        | .inr newer => ((send out r rounds newer).run called.2).map fun told =>
            (told.1.after ⟨update, w, called.2⟩, told.2) := by
  change ((out.update update.handle update.properties).run w).bind _ = _
  refine Option.bind_congr fun ⟨pushed, v⟩ _ => ?_
  change (match (v.service r).verdict update pushed with | .inl _ => _ | .inr _ => _ : Run σ _).run v
    = match (v.service r).verdict update pushed with | .inl _ => _ | .inr _ => _
  cases (v.service r).verdict update pushed with
  | inl answer => rfl
  | inr newer => exact StateT.run_map _ _ v

/-- A push answers what `send` says, and gives up where that has not ended. -/
theorem run_push (rounds : Nat) (update : Update) (w : World σ) :
    (push out r rounds (some update)).run w =
      ((send out r rounds update).run w).bind fun told =>
        told.1.answer.map fun answer => (answer, told.2) := by
  induction rounds generalizing update w with
  | zero => rfl
  | succ rounds ih =>
      rw [run_push_succ, run_send_succ, Option.bind_assoc]
      refine Option.bind_congr fun called _ => ?_
      split
      · rfl
      · rw [ih, Option.bind_map]
        rfl

/-! ## Rounds to spare -/

/-- Rounds that are not needed change nothing. -/
theorem run_send_of_le {sent : List (Sending σ)} {answer : Except Failure Unit} {others : Nat}
    (hsend : (send out r rounds update).run w = some (⟨sent, some answer⟩, w'))
    (hle : sent.length ≤ others) :
    (send out r others update).run w = some (⟨sent, some answer⟩, w') := by
  induction rounds generalizing update w sent others with
  | zero => cases hsend
  | succ rounds ih =>
      rw [run_send_succ] at hsend
      obtain ⟨⟨pushed, v⟩, hcall, hrest⟩ := Option.bind_eq_some_iff.mp hsend
      cases others with
      | zero =>
          cases List.length_eq_zero_iff.mp (Nat.le_zero.mp hle)
          cases hverdict : (v.service r).verdict update pushed with
          | inl answer => simp [hverdict] at hrest
          | inr newer => simp [hverdict, Pushed.after] at hrest
      | succ others =>
          rw [run_send_succ, hcall, Option.bind_some]
          cases hverdict : (v.service r).verdict update pushed with
          | inl answer => simpa only [hverdict] using hrest
          | inr newer =>
              simp only [hverdict] at hrest ⊢
              obtain ⟨⟨⟨rest, ending⟩, u⟩, hnewer, heq⟩ := Option.map_eq_some_iff.mp hrest
              cases heq
              rw [ih hnewer (Nat.le_of_succ_le_succ hle)]
              rfl

/-- A push that has too few rounds for what it sends gives up. -/
theorem run_push_of_lt {sent : List (Sending σ)} {answer : Except Failure Unit} {others : Nat}
    (hsend : (send out r rounds update).run w = some (⟨sent, some answer⟩, w'))
    (hlt : others < sent.length) : (push out r others (some update)).run w = none := by
  induction rounds generalizing update w sent others with
  | zero => cases hsend
  | succ rounds ih =>
      rw [run_send_succ] at hsend
      obtain ⟨⟨pushed, v⟩, hcall, hrest⟩ := Option.bind_eq_some_iff.mp hsend
      cases others with
      | zero => rfl
      | succ others =>
          rw [run_push_succ, hcall, Option.bind_some]
          cases hverdict : (v.service r).verdict update pushed with
          | inl answer =>
              simp only [hverdict] at hrest
              cases hrest
              cases hlt with
              | step hlt => cases hlt
          | inr newer =>
              simp only [hverdict] at hrest ⊢
              obtain ⟨⟨⟨rest, ending⟩, u⟩, hnewer, heq⟩ := Option.map_eq_some_iff.mp hrest
              cases heq
              exact ih hnewer (Nat.lt_of_succ_lt_succ hlt)

/-! ## Counting -/

/-- What is known of a push that has had so many rounds: each update is that of the service in
the world in which it is sent, and there is a change for each update but the first. If the push
has not ended, there is one for each round. -/
structure Counted (out : Collaborators σ) (r : Ref .service) (rounds : Nat) (w : World σ)
    (told : Pushed σ) (w' : World σ) : Prop where
  begun : 0 < rounds → told.sent ≠ []
  called : ∀ s ∈ told.sent, (s.before.service r).snapshot = some s.update ∧
    ∃ pushed, (out.update s.update.handle s.update.properties).run s.before =
      some (pushed, s.behind)
  counted : (w.service r).revision + told.sent.length ≤ (w'.service r).revision + 1
  cut : told.answer = none → (w.service r).revision + rounds ≤ (w'.service r).revision

/-- The push ends with the first update. -/
theorem Counted.ended {pushed : Except Failure Unit} {v : World σ}
    (hcaptured : (w.service r).snapshot = some update)
    (hcall : (out.update update.handle update.properties).run w = some (pushed, v))
    (hgrown : (w.service r).revision ≤ (v.service r).revision) (answer : Except Failure Unit) :
    Counted out r (rounds + 1) w ⟨[⟨update, w, v⟩], some answer⟩ v where
  begun _ := List.cons_ne_nil _ _
  called s hs := by
    cases List.mem_singleton.mp hs
    exact ⟨hcaptured, pushed, hcall⟩
  counted := Nat.add_le_add_right hgrown 1
  cut hnone := by cases hnone

/-- The push goes on behind an update, since the service has changed. -/
theorem Counted.after {pushed : Except Failure Unit} {v : World σ} {told : Pushed σ}
    (hcaptured : (w.service r).snapshot = some update)
    (hcall : (out.update update.handle update.properties).run w = some (pushed, v))
    (hchanged : (w.service r).revision < (v.service r).revision)
    (hrest : Counted out r rounds v told w') :
    Counted out r (rounds + 1) w (told.after ⟨update, w, v⟩) w' where
  begun _ := List.cons_ne_nil _ _
  called := List.forall_mem_cons.mpr ⟨⟨hcaptured, pushed, hcall⟩, hrest.called⟩
  counted := by
    have hcounted := hrest.counted
    rw [Pushed.after, List.length_cons]
    omega
  cut hnone := by
    have hcut := hrest.cut hnone
    omega

/-- The regime in which the revision of a service only grows. -/
def growing (r : Ref .service) : Regime σ where
  holds _ := True
  leads w w' := (w.service r).revision ≤ (w'.service r).revision
  refl _ := Nat.le_refl _
  trans := Nat.le_trans

theorem ensures_send (hupdate : ∀ handle properties,
      (growing r).Keeps (out.update handle properties)) (rounds : Nat)
    (hcaptured : (w.service r).snapshot = some update) :
    (send out r rounds update).Ensures w (Counted out r rounds w) := by
  induction rounds generalizing update w with
  | zero =>
      refine (Run.ensures_pure _).mpr ⟨fun hpos => absurd hpos (Nat.lt_irrefl 0), ?_, ?_, ?_⟩
      · simp
      · exact Nat.le_succ _
      · exact fun _ => Nat.le_refl _
  | succ rounds ih =>
      intro told w' hrun
      rw [run_send_succ] at hrun
      obtain ⟨⟨pushed, v⟩, hcall, hrest⟩ := Option.bind_eq_some_iff.mp hrun
      have hgrown := (hupdate _ _ w trivial _ _ hcall trivial).2
      cases hverdict : (v.service r).verdict update pushed with
      | inl answer =>
          simp only [hverdict] at hrest
          cases hrest
          exact .ended hcaptured hcall hgrown answer
      | inr newer =>
          simp only [hverdict] at hrest
          obtain ⟨⟨rest, u⟩, hnewer, heq⟩ := Option.map_eq_some_iff.mp hrest
          cases heq
          obtain ⟨hcurrent, hother⟩ := verdict_eq_inr hverdict
          rw [(snapshot_eq_some hcaptured).2.2] at hother
          exact .after hcaptured hcall (Nat.lt_of_le_of_ne hgrown (Ne.symm hother))
            (ih hcurrent _ _ hnewer)

/-! ## A registry that calls back -/

/-- The revision of the service stays. -/
def Unrevised (r : Ref .service) (w w' : World σ) : Prop :=
  (w'.service r).revision = (w.service r).revision

/-- Collaborators whose registry may take a turn in every call, in which it may do anything but
change the revision of the service on its own. It may refuse any call. -/
structure Reentering (r : Ref .service) (callbacks : World σ → World σ → Prop)
    (out : Collaborators σ) : Prop where
  register : ∀ specifications properties factory w,
    (out.register specifications properties factory).Ensures w fun _ =>
      Turn (Unrevised r) callbacks w
  unregister : ∀ handle w,
    (out.unregister handle).Ensures w fun _ => Turn (Unrevised r) callbacks w
  update : ∀ handle properties w,
    (out.update handle properties).Ensures w fun _ => Turn (Unrevised r) callbacks w

theorem growing_of_unrevised (hsame : Unrevised r w w') : (growing r).Allows w w' :=
  fun _ => ⟨trivial, Nat.le_of_eq hsame.symm⟩

theorem growing_setService {service : Service}
    (hle : (w.service r).revision ≤ service.revision) :
    (growing r).Allows w (w.setService r service) := by
  refine fun _ => ⟨trivial, ?_⟩
  simpa [growing] using hle

theorem growing_revised {changed : Service} (hrevised : (w.service r).Revised changed) :
    (growing r).Allows w (w.setService r changed) :=
  growing_setService (by rw [hrevised.revision]; exact Nat.le_succ _)

section Layer

variable {callbacks : World σ → World σ → Prop}
  (hcallbacks : ∀ w w', callbacks w w' → (growing r).Allows w w')
include hcallbacks

theorem growing_of_turn {α : Type} {call : Run σ α}
    (hcall : ∀ w, call.Ensures w fun _ => Turn (Unrevised r) callbacks w) :
    (growing r).Keeps call :=
  fun w _ => (hcall w).mono fun _ _ =>
    .of_turn (fun _ _ => growing_of_unrevised) hcallbacks

variable (hout : Reentering r callbacks out)
include hout

theorem growing_update (handle : Registration) (properties : Properties) :
    (growing r).Keeps (out.update handle properties) :=
  growing_of_turn hcallbacks (hout.update handle properties)

theorem growing_operation (operation : Operation) :
    (growing r).Keeps (operation.run out r) := by
  have hupdate := growing_update hcallbacks hout
  cases operation with
  | write field value =>
      exact (Regime.keeps_write hupdate (fun _ hrevised _ => growing_revised hrevised)
        field value).map _
  | extend entries =>
      exact (Regime.keeps_extend hupdate (fun _ hrevised => growing_revised hrevised) entries).map _
  | reduce entries =>
      exact (Regime.keeps_reduce hupdate (fun _ hrevised => growing_revised hrevised) entries).map _
  | register =>
      refine (Regime.keeps_register hupdate (fun _ _ _ => ?_) fun _ _ => ?_).map _
      · exact growing_of_turn hcallbacks (hout.register _ _ _)
      · exact growing_setService (Nat.le_refl _)
  | unregister =>
      refine (Regime.keeps_unregister (fun handle => ?_) fun _ => ?_).map _
      · exact growing_of_turn hcallbacks (hout.unregister handle)
      · exact growing_setService (Nat.le_refl _)

theorem growing_operates (hoperates : Operates r out w w') : (growing r).Allows w w' := by
  obtain ⟨operation, hrun⟩ := hoperates
  exact fun hw => growing_operation hcallbacks hout operation w hw () w' hrun hw

end Layer

/-- However deep operations are nested in its calls, the registry makes revisions only grow. -/
theorem growing_layered (hout : Layered (Operates r) (Reentering r) out) (handle : Registration)
    (properties : Properties) : (growing r).Keeps (out.update handle properties) := by
  have hlayer : ∀ callbacks (out : Collaborators σ),
      (∀ w w', callbacks w w' → (growing r).Allows w w') → Reentering r callbacks out →
        ∀ w w', Operates r out w w' → (growing r).Allows w w' :=
    fun _ _ hcallbacks hrule _ _ => growing_operates hcallbacks hrule
  obtain ⟨callbacks, hcallbacks, hrule⟩ := hout.exists_rule_allowed hlayer
  exact growing_update hcallbacks hrule handle properties

/-! ## The end of a push -/

/-- What a push of an update from a world comes to: it sends these updates, each one that of the
service in the world in which it is sent, and then returns. With fewer rounds it gives up. -/
structure Ends (out : Collaborators σ) (r : Ref .service) (update : Update) (w : World σ)
    (sent : List (Sending σ)) (answer : Except Failure Unit) (w' : World σ) : Prop where
  called : ∀ s ∈ sent, (s.before.service r).snapshot = some s.update ∧
    ∃ pushed, (out.update s.update.handle s.update.properties).run s.before =
      some (pushed, s.behind)
  tells : ∀ rounds, sent.length ≤ rounds →
    (send out r rounds update).run w = some (⟨sent, some answer⟩, w')
  returns : ∀ rounds, sent.length ≤ rounds →
    (push out r rounds (some update)).run w = some (answer, w')
  givesUp : ∀ rounds < sent.length, (push out r rounds (some update)).run w = none

theorem Ends.of_send {sent : List (Sending σ)} {answer : Except Failure Unit}
    (hcalled : ∀ s ∈ sent, (s.before.service r).snapshot = some s.update ∧
      ∃ pushed, (out.update s.update.handle s.update.properties).run s.before =
        some (pushed, s.behind))
    (hsend : (send out r rounds update).run w = some (⟨sent, some answer⟩, w')) :
    Ends out r update w sent answer w' where
  called := hcalled
  tells _ hle := run_send_of_le hsend hle
  returns others hle := by
    rw [run_push, run_send_of_le hsend hle]
    rfl
  givesUp _ hlt := run_push_of_lt hsend hlt

/-- An update of a call that leaves the service is the only one. -/
theorem Ends.of_unchanged {pushed : Except Failure Unit}
    (hcaptured : (w.service r).snapshot = some update)
    (hcall : (out.update update.handle update.properties).run w = some (pushed, w'))
    (hsame : w'.service r = w.service r) :
    Ends out r update w [⟨update, w, w'⟩] pushed w' := by
  obtain ⟨hheld, -, hrevision⟩ := snapshot_eq_some hcaptured
  have hverdict : (w'.service r).verdict update pushed = .inl pushed := by
    unfold verdict
    rw [hsame, hheld, hrevision]
    cases pushed <;> simp
  have hsend : (send out r 1 update).run w = some (⟨[⟨update, w, w'⟩], some pushed⟩, w') := by
    rw [run_send_succ, hcall, Option.bind_some]
    simp only [hverdict]
  refine .of_send ?_ hsend
  intro s hs
  cases List.mem_singleton.mp hs
  exact ⟨hcaptured, pushed, hcall⟩

/-- A push comes to an end. Of an update that was captured from the service, over a registry that
calls back into the service to any depth: if the registry returns from its calls, and the
service changes at most `k` times while `k + 1` updates are sent, then the push sends at least
one update and at most `k + 1`, and returns. If the registry leaves the service as it is, the
push sends that update and no other, and returns what the registry has answered. -/
theorem push_ends_within_changes (hout : Layered (Operates r) (Reentering r) out)
    (hcaptured : (w.service r).snapshot = some update) :
    (∀ k, ((send out r (k + 1) update).Returns w fun _ w' =>
        (w'.service r).revision ≤ (w.service r).revision + k) →
      ∃ sent answer w', Ends out r update w sent answer w' ∧ sent ≠ [] ∧ sent.length ≤ k + 1) ∧
      ∀ pushed w', (out.update update.handle update.properties).run w = some (pushed, w') →
        w'.service r = w.service r → Ends out r update w [⟨update, w, w'⟩] pushed w' := by
  refine ⟨fun k hchanges => ?_, fun pushed w' hcall => .of_unchanged hcaptured hcall⟩
  obtain ⟨⟨sent, answer⟩, w', hsend, hbound⟩ := hchanges
  have hcounted := ensures_send (growing_layered hout) (k + 1) hcaptured _ _ hsend
  cases answer with
  | none =>
      have hcut := hcounted.cut rfl
      omega
  | some answer =>
      refine ⟨sent, answer, w', .of_send hcounted.called hsend, hcounted.begun k.succ_pos, ?_⟩
      have hlength := hcounted.counted
      dsimp only at hlength
      omega

/-! ## A thermostat -/

/-- Collaborators with a registry in memory that runs something before every update. -/
def interjecting (before : Run Registry Unit) : Collaborators Registry :=
  { unmeddling with
    update := fun handle properties => do
      before
      askRegistry id (fun after _ => after) (·.askUpdate handle properties) }

theorem service_askRegistry {α : Type} (ask : Registry → Except Failure (α × Registry))
    (w : World Registry) :
    (askRegistry id (fun after _ => after) ask).Ensures w fun _ w' => w'.service = w.service := by
  refine (answers_askRegistry (fun _ _ => rfl) ask w).mono fun answer w' hanswer => ?_
  cases hanswer with
  | served hplatform _ => exact service_of_platform hplatform
  | refused hidle _ => exact service_of_platform hidle.1

/-- The registry alone leaves the revision of the service. -/
theorem turn_askRegistry {α : Type} {acts : World Registry → World Registry → Prop}
    {u v : World Registry} (hturn : Turn (Unrevised r) acts u v)
    (ask : Registry → Except Failure (α × Registry)) :
    (askRegistry id (fun after _ => after) ask).Ensures v fun _ => Turn (Unrevised r) acts u := by
  refine (service_askRegistry ask v).mono fun _ w hsame => hturn.tail (.inl ?_)
  rw [Unrevised, hsame]

theorem reentering_interjecting {callbacks : World Registry → World Registry → Prop}
    {before : Run Registry Unit}
    (hbefore : ∀ w, before.Ensures w fun _ => Turn (Unrevised r) callbacks w) :
    Reentering r callbacks (interjecting before) where
  register specifications properties factory w := by
    simp only [interjecting, unmeddling, meddling, pure_bind, bind_pure]
    exact turn_askRegistry .refl _
  unregister handle w := turn_askRegistry .refl _
  update handle properties w := by
    simp only [interjecting, Run.ensures_bind]
    exact (hbefore w).mono fun _ _ hturn => turn_askRegistry hturn _

/-- An operation of a layer before every update makes the next layer. -/
theorem layered_interjecting {below : Collaborators Registry}
    (hbelow : Layered (Operates r) (Reentering r) below) (before : Operation) :
    Layered (Operates r) (Reentering r) (interjecting (before.run below r)) :=
  .above hbelow (reentering_interjecting fun _ _ _ hrun => .single (.inr ⟨before, hrun⟩))

/-- A registered thermostat with a level and a unit. -/
def thermostat : Service where
  declared := ⟨["Thermostat"], .singleton, []⟩
  properties :=
    [⟨⟨"level", some "level", none, none⟩, none⟩, ⟨⟨"unit", some "unit", none, none⟩, none⟩]
  extras := .empty
  registration := some ⟨1⟩
  revision := 0

/-- The thermostat on a platform of its own, with its record. -/
def heated : World Registry where
  platform := { Platform.ofSettings .standard with services := (Store.empty.add thermostat).2 }
  surroundings := ⟨[⟨⟨1⟩, ["Thermostat"], .empty, .singleton⟩], 1, 0, 0⟩

/-- The update that the thermostat has to send. -/
def heating : Update := ⟨⟨1⟩, thermostat.visible, 0⟩

/-- Before every update the level is written, and before every update within that the unit. Both
writes have an effect once, so there are two changes, both during the first update. A second one
is sent, and the push ends. Over the registry alone the first update is the only one. -/
theorem push_ends_within_changes_thermostat :
    let calm := interjecting (pure ())
    let inner := interjecting (Operation.run calm ⟨0⟩ (.write "unit" (.text "C")))
    let out := interjecting (Operation.run inner ⟨0⟩ (.write "level" (.integer 20)))
    (∃ sent answer w', Ends out ⟨0⟩ heating heated sent answer w' ∧ sent.length = 2 ∧
      sent.length ≤ 2 + 1) ∧
      ∃ sent answer w', Ends calm ⟨0⟩ heating heated [sent] answer w' := by
  intro calm inner out
  have hcalm : Layered (Operates ⟨0⟩) (Reentering ⟨0⟩) calm :=
    .bottom (reentering_interjecting fun _ => (Run.ensures_pure _).mpr .refl)
  have hout : Layered (Operates ⟨0⟩) (Reentering ⟨0⟩) out :=
    layered_interjecting (layered_interjecting hcalm _) _
  constructor
  · have hend : ((send out ⟨0⟩ 3 heating).run heated).map (fun told =>
        decide (told.1.sent.length = 2 ∧ (told.2.service ⟨0⟩).revision ≤ 0 + 2)) = some true := by
      decide +kernel
    obtain ⟨⟨told, u⟩, hsend, hfacts⟩ := Option.map_eq_some_iff.mp hend
    obtain ⟨hlength, hchanges⟩ := of_decide_eq_true hfacts
    obtain ⟨sent, answer, w', hends, -, hbound⟩ :=
      (push_ends_within_changes (w := heated) hout rfl).1 2 ⟨told, u, hsend, hchanges⟩
    refine ⟨sent, answer, w', hends, ?_, hbound⟩
    cases hsend.symm.trans (hends.tells 3 hbound)
    exact hlength
  · have hend : ((calm.update ⟨1⟩ thermostat.visible).run heated).isSome = true := by
      decide +kernel
    obtain ⟨⟨pushed, w'⟩, hcall⟩ := Option.isSome_iff_exists.mp hend
    have hservice : w'.service = heated.service := service_askRegistry _ _ _ _ hcall
    exact ⟨_, pushed, w', (push_ends_within_changes hcalm rfl).2 pushed w' hcall (by rw [hservice])⟩

end Componentry.Service
