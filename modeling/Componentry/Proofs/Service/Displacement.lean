import Componentry.Proofs.Registry.Memory
import Componentry.Proofs.Service.Convergence
import Componentry.Proofs.Service.Pushing

/-!
# Displaced registrations

A service looks whether it is registered before it calls the registry, and records the
handle that it is given without looking again. If the registry has the service registered
while it is being called, two handles are handed over. The first one is displaced by the
second: nothing holds it, and its record is never taken back.

No record is lost in another way. However deep operations are nested in the calls of the
registry, the records that were made and not taken back are those of the handle that the
service holds and of the displaced ones. The proof follows the loose handles, those of
records that are neither held nor displaced: each operation ends with those that it has
found.
-/

namespace Componentry.Service

variable {σ α : Type}

/-- A registry, and the handles that a service has lost to newer ones. -/
@[ext] structure Tally where
  registry : Registry
  displaced : List Registration

/-- The tally when a handle is handed over to a service that may hold another one. -/
def Tally.displace (tally : Tally) (held : Option Registration) : Tally :=
  { tally with displaced := held.toList ++ tally.displaced }

/-- The registry of the tally is asked for something. -/
structure Asked (tally : σ → Tally) (ask : Registry → Except Failure (α × Registry))
    (w w' : World σ) (answer : Except Failure α) : Prop where
  answers : Answers (fun s => (tally s).registry) ask w w' answer
  displaced : (tally w'.surroundings).displaced = (tally w.surroundings).displaced

/-- The registry of the tally is asked for something, with a turn before and a turn
behind. -/
def Surrounded (tally : σ → Tally) (callbacks : World σ → World σ → Prop)
    (ask : Registry → Except Failure (α × Registry)) (w w' : World σ)
    (answer : Except Failure α) : Prop :=
  ∃ u v, Turn (Idle tally) callbacks w u ∧ Asked tally ask u v answer ∧
    Turn (Idle tally) callbacks v w'

/-- An answer is handed over to the service that has asked to be registered. A handle
displaces the one that the service holds by then. -/
def HandedOver (tally : σ → Tally) (r : Ref .service) :
    Except Failure Registration → World σ → World σ → Prop
  | .ok _, w, w' =>
      w'.platform = w.platform ∧
        tally w'.surroundings = (tally w.surroundings).displace (w.service r).registration
  | .error _, w, w' => Idle tally w w'

/-- Collaborators whose registry is the one of the tally, with turns around every call, and
that note when a handle is displaced. -/
structure Displacing (tally : σ → Tally) (r : Ref .service)
    (callbacks : World σ → World σ → Prop) (out : Collaborators σ) : Prop where
  register : ∀ specifications properties factory w,
    (out.register specifications properties factory).Ensures w fun answer w' =>
      ∃ x, Surrounded tally callbacks (·.register specifications properties factory) w x answer ∧
        HandedOver tally r answer x w'
  unregister : ∀ handle w, (out.unregister handle).Ensures w fun answer w' =>
    Surrounded tally callbacks (·.askUnregister handle) w w' answer
  update : ∀ handle properties w, (out.update handle properties).Ensures w fun answer w' =>
    Surrounded tally callbacks (·.askUpdate handle properties) w w' answer

/-- The handle that a service holds, with the tally of its registry. -/
structure Stock where
  held : Option Registration
  tally : Tally

namespace Stock

/-- The handle of a record that is neither held nor displaced. -/
structure Loose (k : Stock) (handle : Registration) : Prop where
  live : k.tally.registry.isRegistered handle = true
  unheld : k.held ≠ some handle
  settled : handle ∉ k.tally.displaced

/-- Each handle that is held or displaced is that of a record, and none is both. -/
structure Backed (k : Stock) : Prop where
  numbered : k.tally.registry.Numbered
  held : ∀ handle, k.held = some handle →
    k.tally.registry.isRegistered handle = true ∧ handle ∉ k.tally.displaced
  displaced : ∀ handle ∈ k.tally.displaced, k.tally.registry.isRegistered handle = true

variable {k : Stock} {handle : Registration}

theorem Backed.isRegistered_iff (hk : k.Backed) (handle : Registration) :
    k.tally.registry.isRegistered handle = true ↔
      k.Loose handle ∨ k.held = some handle ∨ handle ∈ k.tally.displaced := by
  constructor
  · intro hlive
    by_cases hheld : k.held = some handle
    · exact .inr (.inl hheld)
    · by_cases hdisplaced : handle ∈ k.tally.displaced
      · exact .inr (.inr hdisplaced)
      · exact .inl ⟨hlive, hheld, hdisplaced⟩
  · rintro (hloose | hheld | hdisplaced)
    · exact hloose.live
    · exact (hk.held handle hheld).1
    · exact hk.displaced handle hdisplaced

/-- A handle that becomes loose and then is not leaves what was loose. -/
theorem or_loose_and_ne (hloose : ¬ k.Loose handle) (other : Registration) :
    (other = handle ∨ k.Loose other) ∧ other ≠ handle ↔ k.Loose other := by
  constructor
  · rintro ⟨heq | hother, hne⟩
    · exact absurd heq hne
    · exact hother
  · intro hother
    exact ⟨.inr hother, fun heq => hloose (heq ▸ hother)⟩

/-- The service gives up its handle, which is loose from then on. -/
theorem Backed.giveUp (hk : k.Backed) (hheld : k.held = some handle) :
    Backed ⟨none, k.tally⟩ ∧
      ∀ other, Loose ⟨none, k.tally⟩ other ↔ other = handle ∨ k.Loose other := by
  refine ⟨⟨hk.numbered, by simp, hk.displaced⟩, fun other => ⟨?_, ?_⟩⟩
  · rintro ⟨hlive, -, hsettled⟩
    by_cases heq : other = handle
    · exact .inl heq
    · refine .inr ⟨hlive, fun hother => heq ?_, hsettled⟩
      exact Option.some.inj (hother.symm.trans hheld)
  · rintro (rfl | hloose)
    · obtain ⟨hlive, hsettled⟩ := hk.held other hheld
      exact ⟨hlive, by simp, hsettled⟩
    · exact ⟨hloose.live, by simp, hloose.settled⟩

/-- A loose handle is handed over to the service, and displaces the one that it holds. -/
theorem Backed.handOver (hk : k.Backed) (hloose : k.Loose handle) :
    Backed ⟨some handle, k.tally.displace k.held⟩ ∧
      ∀ other, Loose ⟨some handle, k.tally.displace k.held⟩ other ↔
        k.Loose other ∧ other ≠ handle := by
  have hdisplaced : ∀ other, other ∈ (k.tally.displace k.held).displaced ↔
      k.held = some other ∨ other ∈ k.tally.displaced := by
    intro other
    rw [Tally.displace, List.mem_append, Option.mem_toList]
  refine ⟨⟨hk.numbered, ?_, ?_⟩, fun other => ⟨?_, ?_⟩⟩
  · intro other hother
    cases hother
    refine ⟨hloose.live, ?_⟩
    rw [hdisplaced]
    exact fun hlost => hlost.elim hloose.unheld hloose.settled
  · intro other hother
    rcases (hdisplaced other).mp hother with hheld | hbefore
    · exact (hk.held other hheld).1
    · exact hk.displaced other hbefore
  · rintro ⟨hlive, hunheld, hsettled⟩
    rw [hdisplaced, not_or] at hsettled
    exact ⟨⟨hlive, hsettled.1, hsettled.2⟩, fun heq => hunheld (congrArg some heq.symm)⟩
  · rintro ⟨⟨hlive, hunheld, hsettled⟩, hne⟩
    refine ⟨hlive, fun heq => hne (Option.some.inj heq).symm, ?_⟩
    rw [hdisplaced, not_or]
    exact ⟨hunheld, hsettled⟩

section Registry

variable {after : Registry}

theorem Backed.register (hk : k.Backed) {specifications : List String} {properties : Properties}
    {factory : FactoryPolicy} (hregister :
      k.tally.registry.register specifications properties factory = .ok (handle, after)) :
    Backed ⟨k.held, after, k.tally.displaced⟩ ∧
      ∀ other, Loose ⟨k.held, after, k.tally.displaced⟩ other ↔
        other = handle ∨ k.Loose other := by
  have hlive := Registry.isRegistered_register hk.numbered hregister
  -- The registry has not known the handle, so it is neither held nor displaced.
  have hnew : k.tally.registry.isRegistered handle ≠ true := by
    intro hknown
    have hle := hk.numbered.of_isRegistered hknown
    rw [Registry.number_of_register hregister] at hle
    omega
  refine ⟨⟨hk.numbered.register hregister, ?_, ?_⟩, fun other => ⟨?_, ?_⟩⟩
  · intro other hheld
    exact ⟨(hlive other).mpr (.inr (hk.held other hheld).1), (hk.held other hheld).2⟩
  · intro other hdisplaced
    exact (hlive other).mpr (.inr (hk.displaced other hdisplaced))
  · rintro ⟨hknown, hunheld, hsettled⟩
    exact ((hlive other).mp hknown).imp_right fun hbefore => ⟨hbefore, hunheld, hsettled⟩
  · rintro (rfl | hloose)
    · exact ⟨(hlive other).mpr (.inl rfl), fun hheld => hnew (hk.held other hheld).1,
        fun hdisplaced => hnew (hk.displaced other hdisplaced)⟩
    · exact ⟨(hlive other).mpr (.inr hloose.live), hloose.unheld, hloose.settled⟩

theorem Backed.unregister (hk : k.Backed) (hloose : k.Loose handle)
    (hunregister : k.tally.registry.unregister handle = .ok after) :
    Backed ⟨k.held, after, k.tally.displaced⟩ ∧
      ∀ other, Loose ⟨k.held, after, k.tally.displaced⟩ other ↔
        k.Loose other ∧ other ≠ handle := by
  have hlive := Registry.isRegistered_unregister hunregister
  refine ⟨⟨hk.numbered.unregister hunregister, ?_, ?_⟩, fun other => ⟨?_, ?_⟩⟩
  · intro other hheld
    refine ⟨(hlive other).mpr ⟨(hk.held other hheld).1, ?_⟩, (hk.held other hheld).2⟩
    rintro rfl
    exact hloose.unheld hheld
  · intro other hdisplaced
    refine (hlive other).mpr ⟨hk.displaced other hdisplaced, ?_⟩
    rintro rfl
    exact hloose.settled hdisplaced
  · rintro ⟨hknown, hunheld, hsettled⟩
    obtain ⟨hbefore, hne⟩ := (hlive other).mp hknown
    exact ⟨⟨hbefore, hunheld, hsettled⟩, hne⟩
  · rintro ⟨hbefore, hne⟩
    exact ⟨(hlive other).mpr ⟨hbefore.live, hne⟩, hbefore.unheld, hbefore.settled⟩

theorem Backed.update (hk : k.Backed) {properties : Properties}
    (hupdate : k.tally.registry.update handle properties = .ok after) :
    Backed ⟨k.held, after, k.tally.displaced⟩ ∧
      ∀ other, Loose ⟨k.held, after, k.tally.displaced⟩ other ↔ k.Loose other := by
  have hlive := Registry.isRegistered_update hupdate
  refine ⟨⟨hk.numbered.update hupdate, ?_, ?_⟩, fun other => ⟨?_, ?_⟩⟩
  · intro other hheld
    exact ⟨(hlive other).mpr (hk.held other hheld).1, (hk.held other hheld).2⟩
  · intro other hdisplaced
    exact (hlive other).mpr (hk.displaced other hdisplaced)
  · rintro ⟨hknown, hunheld, hsettled⟩
    exact ⟨(hlive other).mp hknown, hunheld, hsettled⟩
  · rintro ⟨hknown, hunheld, hsettled⟩
    exact ⟨(hlive other).mpr hknown, hunheld, hsettled⟩

end Registry

end Stock

section Regime

variable (tally : σ → Tally) (r : Ref .service)

/-- The handle that the service of a reference holds, with the tally in the surroundings. -/
def stock (w : World σ) : Stock := ⟨(w.service r).registration, tally w.surroundings⟩

/-- The regime of operations on a service: they end with the loose handles that they have
found. -/
def keeping : Regime σ where
  holds w := (stock tally r w).Backed
  leads w w' := ∀ handle, (stock tally r w').Loose handle ↔ (stock tally r w).Loose handle
  refl _ _ := .rfl
  trans huv hvw handle := (hvw handle).trans (huv handle)

end Regime

variable {tally : σ → Tally} {r : Ref .service} {u v w w' : World σ}

theorem keeping_of_stock (hstock : stock tally r v = stock tally r u) :
    (keeping tally r).Allows u v := by
  intro hu
  refine ⟨?_, fun handle => by rw [hstock]⟩
  change (stock tally r v).Backed
  rw [hstock]
  exact hu

theorem stock_idle (hidle : Idle tally u v) : stock tally r v = stock tally r u := by
  rw [stock, stock, service_of_platform hidle.1, hidle.2]

theorem stock_setService (w : World σ) (service : Service) :
    stock tally r (w.setService r service) = ⟨service.registration, tally w.surroundings⟩ := by
  simp [stock]

theorem Asked.stock_eq {ask : Registry → Except Failure (α × Registry)} {answer : Except Failure α}
    (hasked : Asked tally ask u v answer) (hplatform : v.platform = u.platform) :
    stock tally r v = ⟨(u.service r).registration, (tally v.surroundings).registry,
      (tally u.surroundings).displaced⟩ := by
  rw [stock, service_of_platform hplatform, ← hasked.displaced]

/-- A call that the registry refuses changes nothing. -/
theorem Asked.idle_of_error {ask : Registry → Except Failure (α × Registry)} {failure : Failure}
    (hasked : Asked tally ask u v (.error failure)) : Idle tally u v := by
  obtain ⟨hanswers, hdisplaced⟩ := hasked
  cases hanswers with
  | refused hidle _ => exact ⟨hidle.1, Tally.ext hidle.2 hdisplaced⟩

section Layer

variable {callbacks : World σ → World σ → Prop} {out : Collaborators σ}
  (hcallbacks : ∀ w w', callbacks w w' → (keeping tally r).Allows w w')
include hcallbacks

theorem keeping_of_turn (hturn : Turn (Idle tally) callbacks u v) :
    (keeping tally r).Allows u v :=
  .of_turn (fun _ _ hidle => keeping_of_stock (stock_idle hidle)) hcallbacks hturn

variable (hout : Displacing tally r callbacks out)
include hout

theorem keeping_update (handle : Registration) (properties : Properties) :
    (keeping tally r).Keeps (out.update handle properties) := by
  intro w _
  refine (hout.update handle properties w).mono ?_
  rintro answer w' ⟨u, v, hbefore, hasked, hbehind⟩
  refine (keeping_of_turn hcallbacks hbefore).trans
    (Regime.Allows.trans ?_ (keeping_of_turn hcallbacks hbehind))
  cases answer with
  | error failure => exact keeping_of_stock (stock_idle hasked.idle_of_error)
  | ok result =>
      intro hu
      cases hasked.answers with
      | served hplatform hask =>
          simp only [keeping, hasked.stock_eq hplatform]
          exact Stock.Backed.update hu (Registry.askUpdate_ok hask)

omit hcallbacks hout in
/-- A change of the service that leaves its handle. -/
theorem keeping_revised {changed : Service} (hrevised : (w.service r).Revised changed) :
    (keeping tally r).Allows w (w.setService r changed) := by
  refine keeping_of_stock ?_
  rw [stock_setService, hrevised.registration]
  rfl

/-- The handle that is made is loose until it is handed over. -/
theorem keeping_register : (keeping tally r).Keeps (register out r) := by
  intro w hw
  simp only [register, Run.ensures_bind, Run.ensures_service]
  split
  · exact (Run.ensures_pure _).mpr (.refl w)
  refine (Run.ensures_bind _ _).mpr ((hout.register _ _ _ w).mono ?_)
  rintro answer w' ⟨x, ⟨u, v, hbefore, hasked, hbehind⟩, hhanded⟩
  have hwu := keeping_of_turn hcallbacks hbefore
  have hvx := keeping_of_turn hcallbacks hbehind
  cases answer with
  | error failure =>
      have huv := keeping_of_stock (r := r) (stock_idle hasked.idle_of_error)
      have hxw := keeping_of_stock (r := r) (stock_idle hhanded)
      exact (Run.ensures_pure _).mpr ((hwu.trans huv).trans (hvx.trans hxw))
  | ok handle =>
      obtain ⟨hplatform', hdisplaced⟩ := hhanded
      -- What the service has come to hold while the registry was called is displaced.
      have htaken : ∀ service : Service, service.registration = some handle →
          (keeping tally r).Allows w (w'.setService r service) := by
        intro service hgiven hw
        obtain ⟨hu, hfirst⟩ := hwu hw
        cases hasked.answers with
        | served hplatform hask =>
            have hmade := Stock.Backed.register hu hask
            rw [show (stock tally r u).held = (u.service r).registration from rfl,
              show (stock tally r u).tally = tally u.surroundings from rfl,
              ← hasked.stock_eq hplatform] at hmade
            obtain ⟨hx, hlast⟩ := hvx hmade.1
            have hloose := (hlast handle).mpr ((hmade.2 handle).mpr (.inl rfl))
            have hend : stock tally r (w'.setService r service) =
                ⟨some handle, (tally x.surroundings).displace (x.service r).registration⟩ := by
              rw [stock_setService, hgiven, hdisplaced]
            simp only [keeping, hend]
            refine ⟨(hx.handOver hloose).1, fun other => ?_⟩
            -- A handle is made by the call that answers with it, so it was not loose before.
            have hunknown : ¬ (stock tally r u).Loose handle := by
              intro hbefore
              have hle := hu.numbered.of_isRegistered hbefore.live
              rw [Registry.number_of_register hask] at hle
              exact Nat.not_succ_le_self _ hle
            calc (Stock.mk (some handle) _).Loose other
                ↔ (stock tally r x).Loose other ∧ other ≠ handle := (hx.handOver hloose).2 other
              _ ↔ (other = handle ∨ (stock tally r u).Loose other) ∧ other ≠ handle := by
                  rw [hlast, hmade.2]
              _ ↔ (stock tally r u).Loose other := Stock.or_loose_and_ne hunknown other
              _ ↔ (stock tally r w).Loose other := hfirst other
      simp only [Run.ensures_bind, Run.ensures_service, Run.ensures_setService]
      have hchanged := htaken { w'.service r with registration := some handle } rfl
      have hpush := Regime.keeps_push (s := r) (keeping_update hcallbacks hout)
      refine (hchanged.then hw (hpush _ _)).mono ?_
      intro answer w'' hallows
      exact (Run.ensures_pure _).mpr hallows

/-- The handle that is given up is loose until it is taken back. -/
theorem keeping_unregister : (keeping tally r).Keeps (unregister out r) := by
  intro w hw
  simp only [unregister, Run.ensures_bind, Run.ensures_service]
  split
  next => exact (Run.ensures_pure _).mpr (.refl w)
  next handle hheld =>
    simp only [Run.ensures_bind, Run.ensures_setService, Run.ensures_pure]
    change (out.unregister handle).Ensures (w.setRegistration r none) _
    refine (hout.unregister handle _).mono ?_
    rintro answer w' ⟨u, v, hbefore, hasked, hbehind⟩
    obtain ⟨hgiven, hloose⟩ := Stock.Backed.giveUp hw hheld
    rw [← show stock tally r (w.setRegistration r none) = ⟨none, (stock tally r w).tally⟩ from
      stock_setService w _] at hgiven hloose
    obtain ⟨hu, hfirst⟩ := keeping_of_turn hcallbacks hbefore hgiven
    have hstill := (hfirst handle).mpr ((hloose handle).mpr (.inl rfl))
    refine Regime.Allows.trans ?_ (keeping_of_turn hcallbacks hbehind)
    intro _
    cases hasked.answers with
    | refused _ hask =>
        -- A loose handle is that of a record, and is not refused.
        have hlive : (tally u.surroundings).registry.isRegistered handle = true := hstill.live
        rw [Registry.askUnregister_error hask] at hlive
        cases hlive
    | served hplatform hask =>
        have htaken := Stock.Backed.unregister hu hstill (Registry.askUnregister_ok hask)
        rw [show (stock tally r u).held = (u.service r).registration from rfl,
          show (stock tally r u).tally = tally u.surroundings from rfl,
          ← hasked.stock_eq hplatform] at htaken
        refine ⟨htaken.1, fun other => ?_⟩
        calc (stock tally r v).Loose other
            ↔ (stock tally r u).Loose other ∧ other ≠ handle := htaken.2 other
          _ ↔ (other = handle ∨ (stock tally r w).Loose other) ∧ other ≠ handle := by
              rw [hfirst, hloose]
          _ ↔ (stock tally r w).Loose other :=
              Stock.or_loose_and_ne (fun hbefore => hbefore.unheld hheld) other

theorem keeping_operation (operation : Operation) :
    (keeping tally r).Keeps (operation.run out r) := by
  have hupdate := keeping_update hcallbacks hout
  cases operation with
  | write field value =>
      exact (Regime.keeps_write hupdate (fun _ hrevised _ => keeping_revised hrevised)
        field value).map _
  | extend entries =>
      exact (Regime.keeps_extend hupdate (fun _ hrevised => keeping_revised hrevised) entries).map _
  | reduce entries =>
      exact (Regime.keeps_reduce hupdate (fun _ hrevised => keeping_revised hrevised) entries).map _
  | register => exact (keeping_register hcallbacks hout).map _
  | unregister => exact (keeping_unregister hcallbacks hout).map _

end Layer

theorem keeping_operates {out : Collaborators σ}
    (hout : Layered (Operates r) (Displacing tally r) out) (hoperates : Operates r out w w') :
    (keeping tally r).Allows w w' := by
  refine hout.acts_allowed ?_ w w' hoperates
  rintro callbacks out hcallbacks hrule w w' ⟨operation, hrun⟩ hw
  exact keeping_operation hcallbacks hrule operation w hw () w' hrun hw

/-- After any operations on a service that was not registered, one after the other and each
with operations nested in its calls of the registry: the records that the registry has
beside the former ones are those of the handle that the service holds and of the displaced
ones. So every one is that of the handle that the service holds exactly if none has been
displaced. -/
theorem records_held_iff {out : Collaborators σ}
    (hout : Layered (Operates r) (Displacing tally r) out)
    (hnumbered : (tally w.surroundings).registry.Numbered)
    (hnone : (tally w.surroundings).displaced = []) (hfree : (w.service r).registration = none)
    (hturn : Turn (Idle tally) (Operates r out) w w') :
    (∀ handle, (tally w'.surroundings).registry.isRegistered handle = true ↔
        (tally w.surroundings).registry.isRegistered handle = true ∨
          (w'.service r).registration = some handle ∨
          handle ∈ (tally w'.surroundings).displaced) ∧
      ((∀ handle, (tally w'.surroundings).registry.isRegistered handle = true →
          (tally w.surroundings).registry.isRegistered handle = true ∨
            (w'.service r).registration = some handle) ↔
        (tally w'.surroundings).displaced = []) := by
  have hallows : (keeping tally r).Allows w w' :=
    .of_turn (fun _ _ hidle => keeping_of_stock (stock_idle hidle))
      (fun _ _ => keeping_operates hout) hturn
  have hstart : (stock tally r w).Backed := by
    refine ⟨hnumbered, fun handle hheld => ?_, fun handle hdisplaced => ?_⟩
    · rw [stock, hfree] at hheld
      cases hheld
    · rw [stock, hnone] at hdisplaced
      cases hdisplaced
  obtain ⟨hend, hleads⟩ := hallows hstart
  -- At the beginning nothing is held or displaced, so every record is loose.
  have hloose : ∀ handle, (stock tally r w').Loose handle ↔
      (tally w.surroundings).registry.isRegistered handle = true := by
    intro handle
    rw [hleads, show (tally w.surroundings).registry = (stock tally r w).tally.registry from rfl,
      hstart.isRegistered_iff]
    simp [stock, hfree, hnone]
  have hrecords := hend.isRegistered_iff
  simp only [hloose] at hrecords
  refine ⟨hrecords, fun hheld => ?_, fun hempty handle hlive => ?_⟩
  · refine List.eq_nil_iff_forall_not_mem.mpr fun handle hdisplaced => ?_
    rcases hheld handle (hend.displaced handle hdisplaced) with hbefore | hnamed
    · exact ((hloose handle).mpr hbefore).settled hdisplaced
    · exact (hend.held handle hnamed).2 hdisplaced
  · rcases (hrecords handle).mp hlive with hbefore | hnamed | hdisplaced
    · exact .inl hbefore
    · exact .inr hnamed
    · rw [show (stock tally r w').tally = tally w'.surroundings from rfl, hempty] at hdisplaced
      cases hdisplaced

/-! ## A registry that registers in between -/

/-- A registry in memory that runs something before it is asked to register a service and
something behind, and notes when a handle is displaced. -/
def displacing (r : Ref .service) (before behind : Run Tally Unit) : Collaborators Tally :=
  { Collaborators.inMemory Tally.registry (fun after tally => { tally with registry := after })
      (fun _ tally => tally) (fun _ => return .returned) with
    register := fun specifications properties factory => do
      before
      let answer ← askRegistry Tally.registry (fun after tally => { tally with registry := after })
        (·.register specifications properties factory)
      behind
      match answer with
      | .ok handle =>
          let service ← Run.service r
          Run.changeSurroundings (·.displace service.registration)
          return .ok handle
      | .error failure => return .error failure }

theorem asked_askRegistry (ask : Registry → Except Failure (α × Registry)) (w : World Tally) :
    (askRegistry Tally.registry (fun after tally => { tally with registry := after }) ask).Ensures w
      fun answer w' => Asked id ask w w' answer := by
  refine ((answers_askRegistry (fun _ _ => rfl) ask w).and ?_).mono fun _ _ h => ⟨h.1, h.2⟩
  simp only [askRegistry, Run.ensures_bind, Run.ensures_surroundings]
  split <;> simp

theorem displacing_of_turns {r : Ref .service} {callbacks : World Tally → World Tally → Prop}
    {before behind : Run Tally Unit}
    (hbefore : ∀ w, before.Ensures w fun _ => Turn (Idle id) callbacks w)
    (hbehind : ∀ w, behind.Ensures w fun _ => Turn (Idle id) callbacks w) :
    Displacing id r callbacks (displacing r before behind) where
  register specifications properties factory w := by
    simp only [displacing, Run.ensures_bind]
    refine (hbefore w).mono ?_
    intro _ u hu
    refine (asked_askRegistry _ u).mono ?_
    intro answer v hasked
    refine (hbehind v).mono ?_
    intro _ x hx
    cases answer with
    | ok handle =>
        simp only [Run.ensures_bind, Run.ensures_service, Run.ensures_changeSurroundings,
          Run.ensures_pure]
        exact ⟨x, ⟨u, v, hu, hasked, hx⟩, rfl, rfl⟩
    | error failure => exact (Run.ensures_pure _).mpr ⟨x, ⟨u, v, hu, hasked, hx⟩, rfl, rfl⟩
  unregister _ w := (asked_askRegistry _ w).mono fun _ w' hasked => ⟨w, w', .refl, hasked, .refl⟩
  update _ _ w := (asked_askRegistry _ w).mono fun _ w' hasked => ⟨w, w', .refl, hasked, .refl⟩

/-- The service on a platform of its own, with an empty registry that has displaced
nothing. -/
def tallied : World Tally := ⟨lone.platform, .empty, []⟩

/-- While the service is being registered it is registered. It holds the second handle, and
the first one is displaced. -/
theorem records_held_iff_registered_twice :
    let out := displacing ⟨0⟩
      (Operation.run (displacing ⟨0⟩ (pure ()) (pure ())) ⟨0⟩ .register) (pure ())
    ∃ w', (Operation.run out ⟨0⟩ .register).run tallied = some ((), w') ∧
      (w'.service ⟨0⟩).registration = some ⟨2⟩ ∧ w'.surroundings.displaced = [⟨1⟩] ∧
      w'.surroundings.registry.isRegistered ⟨1⟩ = true := by
  intro out
  have hend : ((Operation.run out ⟨0⟩ .register).run tallied).map
      (fun ending => ((ending.2.service ⟨0⟩).registration, ending.2.surroundings.displaced)) =
        some (some ⟨2⟩, [⟨1⟩]) := by
    decide +kernel
  obtain ⟨⟨⟨⟩, w'⟩, hrun, hfields⟩ := Option.map_eq_some_iff.mp hend
  obtain ⟨hheld, hdisplaced⟩ := Prod.mk.inj hfields
  have hpure : ∀ {callbacks : World Tally → World Tally → Prop} (w : World Tally),
      (pure () : Run Tally Unit).Ensures w fun _ => Turn (Idle id) callbacks w :=
    fun _ => (Run.ensures_pure _).mpr .refl
  have hout : Layered (Operates ⟨0⟩) (Displacing id ⟨0⟩) out := by
    refine .above (.bottom (displacing_of_turns hpure hpure)) (displacing_of_turns ?_ hpure)
    exact fun w _ w' hrun => .single (.inr ⟨.register, hrun⟩)
  obtain ⟨hrecords, -⟩ := records_held_iff (w := tallied) hout Registry.numbered_empty rfl rfl
    (.single (.inr ⟨.register, hrun⟩))
  refine ⟨w', hrun, hheld, hdisplaced, (hrecords ⟨1⟩).mpr (.inr (.inr ?_))⟩
  rw [show (id w'.surroundings : Tally).displaced = w'.surroundings.displaced from rfl, hdisplaced]
  exact List.mem_singleton_self _

/-- A registry that has the service registered before every registration. -/
def hasty : Collaborators Registry :=
  meddling (Operation.run unmeddling ⟨0⟩ .register) (Operation.run unmeddling ⟨0⟩ (.reduce .empty))

/-- The registry may be left with the record of a service that is not registered: the
service has been registered while it was being registered, and then its registration has
been taken back. -/
theorem record_orphaned :
    ¬ ∀ (out : Collaborators Registry) (w w' : World Registry) (r : Ref .service),
      Layered (Operates r) (Interrupting id) out → w.surroundings.Numbered →
      (w.service r).registration = none → Turn (Idle id) (Operates r out) w w' →
      ∀ handle, w'.surroundings.isRegistered handle = true →
        w.surroundings.isRegistered handle = true ∨
          (w'.service r).registration = some handle := by
  intro hall
  have hend : ((Operation.run hasty ⟨0⟩ .register >>= fun _ =>
      Operation.run hasty ⟨0⟩ .unregister).run lone).map
        (fun ending => ((ending.2.service ⟨0⟩).registration,
          ending.2.surroundings.isRegistered ⟨1⟩)) = some (none, true) := by
    decide +kernel
  obtain ⟨⟨⟨⟩, w'⟩, hrun, hfields⟩ := Option.map_eq_some_iff.mp hend
  obtain ⟨hfree, hlive⟩ := Prod.mk.inj hfields
  rw [StateT.run_bind] at hrun
  obtain ⟨⟨⟨⟩, u⟩, hregister, hunregister⟩ := Option.bind_eq_some_iff.mp hrun
  have hturn : Turn (Idle id) (Operates ⟨0⟩ hasty) lone w' :=
    (Relation.ReflTransGen.single (.inr ⟨.register, hregister⟩)).tail
      (.inr ⟨.unregister, hunregister⟩)
  have hhasty : Layered (Operates ⟨0⟩) (Interrupting id) hasty :=
    layered_meddling (layered_unmeddling ⟨0⟩) _ _
  rcases hall hasty lone w' ⟨0⟩ hhasty Registry.numbered_empty rfl hturn ⟨1⟩ hlive with
    hbefore | hheld
  · cases hbefore
  · rw [hfree] at hheld
    cases hheld

end Componentry.Service
