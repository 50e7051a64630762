import Componentry.Proofs.Ensemble.Admission

/-!
# Replacing propagated entries

An update takes the old entries from the services one by one and then puts the new ones
there. So meanwhile a service carries either what it did or what it is to carry, and taking
or putting entries a second time does no more than the first time. The services end up with
the new entries wherever a change of one of them changes just its own entries, and that is
asked for only as long as the world stays calm.
-/

namespace Componentry

variable {σ : Type}

/-- The services of the ensemble carry these propagated entries. -/
def Carries (e : Ensemble) (entries : Properties) (w : World σ) : Prop :=
  ∀ s ∈ e.services, (w.service s).extras = entries

/-- A step between worlds with the same services leaves what they carry. -/
theorem Carries.of_service {e : Ensemble} {entries : Properties} {w w' : World σ}
    (hcarries : Carries e entries w) (hservice : w'.service = w.service) :
    Carries e entries w' := by
  intro s hs
  rw [hservice]
  exact hcarries s hs

/-- A record says that the propagated entries are about to be replaced. -/
def Log.Record.Replaces (record : Log.Record) : Prop :=
  record.message = "Properties will be propagated"

instance (record : Log.Record) : Decidable record.Replaces :=
  inferInstanceAs (Decidable (record.message = "Properties will be propagated"))

namespace Regime

/-- The entries of one service are changed, and those of no other one as long as the world
is calm. -/
structure Exchanged (R : Regime σ) (calm : World σ → Prop) (e : Ensemble) (s : Ref .service)
    (extras : Properties) (w w' : World σ) : Prop where
  holds : R.holds w'
  leads : R.leads w w'
  extras : calm w' → (w'.service s).extras = extras
  others : calm w' → ∀ t ∈ e.services, t ≠ s → (w'.service t).extras = (w.service t).extras

/-- Services that carried the old entries carry the new ones, if the world is calm still. -/
structure Renewed (R : Regime σ) (calm : World σ → Prop) (e : Ensemble) (old new : Properties)
    (w w' : World σ) : Prop where
  holds : R.holds w'
  leads : R.leads w w'
  carries : calm w' → Carries e old w → Carries e new w'

/-- A regime in which the entries of services are put and taken one by one. A world that has
lost its calm does not find it again. -/
structure Exchanges (R : Regime σ) (e : Ensemble) (out : Collaborators σ)
    (calm : World σ → Prop) : Prop extends R.Bears e out where
  calmed : ∀ {w w'}, R.leads w w' → calm w' → calm w
  extend : ∀ s ∈ e.services, ∀ entries w, R.holds w → (Service.extend out s entries).Ensures w
    fun _ => R.Exchanged calm e s ((w.service s).extras.override entries) w
  reduce : ∀ s ∈ e.services, ∀ entries w, R.holds w → (Service.reduce out s entries).Ensures w
    fun _ => R.Exchanged calm e s ((w.service s).extras.without entries) w

variable {R : Regime σ} {calm : World σ → Prop} {e : Ensemble} {out : Collaborators σ}
  {u w w' : World σ} {old new : Properties}

theorem Exchanged.refl (hw : R.holds w) (s : Ref .service) :
    R.Exchanged calm e s (w.service s).extras w w :=
  ⟨hw, R.refl w, fun _ => rfl, fun _ _ _ _ => rfl⟩

/-- A step that leaves the services renews nothing. -/
theorem Renewed.of_allows (hw : R.holds w) (hallows : R.Allows w w')
    (hservice : w'.service = w.service) : R.Renewed calm e old old w w' where
  holds := (hallows hw).1
  leads := (hallows hw).2
  carries _ hcarries := hcarries.of_service hservice

namespace Exchanges

variable (H : R.Exchanges e out calm)
include H

theorem renewed_trans {entries : Properties} (huw : R.Renewed calm e old entries u w)
    (hww' : R.Renewed calm e entries new w w') : R.Renewed calm e old new u w' where
  holds := hww'.holds
  leads := R.trans huw.leads hww'.leads
  carries hcalm hcarries := hww'.carries hcalm (huw.carries (H.calmed hww'.leads hcalm) hcarries)

/-- A record behind an exchange is no matter. -/
theorem note_before {s : Ref .service} {extras : Properties}
    (h : R.Exchanged calm e s extras w u) (record : Log.Record) :
    (out.note record).Ensures u fun _ => R.Exchanged calm e s extras w := by
  have hnote := H.note record u h.holds
  rw [Run.ensures_note] at hnote ⊢
  obtain ⟨hholds, hleads⟩ := hnote h.holds
  refine ⟨hholds, R.trans h.leads hleads, ?_, ?_⟩
  · exact fun hcalm => h.extras (H.calmed hleads hcalm)
  · exact fun hcalm => h.others (H.calmed hleads hcalm)

/-- A loop that exchanges the entries of every service renews them. The exchange is done for
each service that carries either the old or the new ones. -/
theorem ensures_exchanges {exchange : Ref .service → Run σ Unit}
    (f : Properties → Properties) (hold : f old = new) (hnew : f new = new)
    (hexchange : ∀ s ∈ e.services, ∀ u, R.holds u →
      (exchange s).Ensures u fun _ => R.Exchanged calm e s (f (u.service s).extras) u)
    (hw : R.holds w) :
    (e.services.forM exchange).Ensures w fun _ => R.Renewed calm e old new w := by
  refine (Run.ensures_forM_reached
    (fun u => R.holds u ∧ R.leads w u ∧ (calm u → Carries e old w →
      ∀ t ∈ e.services, (u.service t).extras = old ∨ (u.service t).extras = new))
    (fun s u => calm u → Carries e old w → (u.service s).extras = new) ?_
    ⟨hw, R.refl w, fun _ hcarries t ht => .inl (hcarries t ht)⟩).mono ?_
  · rintro s hs u ⟨hu, hleads, heither⟩
    refine (hexchange s hs u hu).mono ?_
    intro _ u' hexchanged
    -- The exchange is the same whether it is made for the first time or again.
    have hreached : calm u' → Carries e old w → (u'.service s).extras = new := by
      intro hcalm hcarries
      rw [hexchanged.extras hcalm]
      rcases heither (H.calmed hexchanged.leads hcalm) hcarries s hs with hextras | hextras
      · rw [hextras, hold]
      · rw [hextras, hnew]
    refine ⟨⟨hexchanged.holds, R.trans hleads hexchanged.leads, ?_⟩, hreached, ?_⟩
    · intro hcalm hcarries t ht
      by_cases heq : t = s
      · exact heq ▸ .inr (hreached hcalm hcarries)
      · rw [hexchanged.others hcalm t ht heq]
        exact heither (H.calmed hexchanged.leads hcalm) hcarries t ht
    · intro t ht hbefore hcalm hcarries
      by_cases heq : t = s
      · exact heq ▸ hreached hcalm hcarries
      · rw [hexchanged.others hcalm t ht heq]
        exact hbefore (H.calmed hexchanged.leads hcalm) hcarries
  · rintro _ w' ⟨⟨hw', hleads, -⟩, hreached⟩
    exact ⟨hw', hleads, fun hcalm hcarries s hs => hreached s hs hcalm hcarries⟩

/-- The services are renewed with the component held, and what fails is noted. -/
theorem ensures_exchangeAll (operation : String)
    {exchange : Ref .service → Run σ (Except Failure Unit)}
    (f : Properties → Properties) (hold : f old = new) (hnew : f new = new)
    (hexchange : ∀ s ∈ e.services, ∀ u, R.holds u →
      (exchange s).Ensures u fun _ => R.Exchanged calm e s (f (u.service s).extras) u)
    (hw : R.holds w) :
    (Provider.exchangeAll out e.provider operation exchange).Ensures w fun _ =>
      R.Renewed calm e old new w := by
  rw [Provider.exchangeAll, Run.ensures_bind, Run.ensures_provider, (H.stands hw).provider,
    Run.ensures_whileAlive_owned (H.stands hw).owned]
  have hheld : R.Renewed calm e old old w (w.hold e.component) :=
    .of_allows hw (H.slight (.hold w _)) rfl
  simp only [Run.ensures_bind, Run.ensures_component, Run.ensures_provider,
    (H.stands hheld.holds).provider]
  refine (H.ensures_exchanges f hold hnew ?_ hheld.holds).mono ?_
  · intro s hs u hu
    rw [Run.ensures_bind]
    refine (hexchange s hs u hu).mono ?_
    intro answer v hexchanged
    split
    · exact (Run.ensures_pure _).mpr hexchanged
    · exact H.note_before hexchanged _
  · intro _ u hrenewed
    have hreleased : R.Renewed calm e new new u (u.release e.component) :=
      .of_allows hrenewed.holds (H.slight (.release u _)) rfl
    exact H.renewed_trans (H.renewed_trans hheld hrenewed) hreleased

/-- Entries are taken from services that carry them. -/
theorem ensures_reduceAll (previous : Properties) (hw : R.holds w) :
    (Provider.reduceAll out e.provider previous).Ensures w fun _ =>
      R.Renewed calm e previous .empty w := by
  rw [Provider.reduceAll_eq]
  exact H.ensures_exchangeAll _ (fun extras => extras.without previous)
    (Dictionary.without_self previous) (Dictionary.empty_without previous)
    (fun s hs u hu => H.reduce s hs previous u hu) hw

/-- Entries are put onto services that carry none. -/
theorem ensures_extendAll (entries : Properties) (hw : R.holds w) :
    (Provider.extendAll out e.provider entries).Ensures w fun _ =>
      R.Renewed calm e .empty entries w := by
  rw [Provider.extendAll_eq]
  exact H.ensures_exchangeAll _ (fun extras => extras.override entries)
    (Dictionary.empty_override entries) (Dictionary.override_self entries)
    (fun s hs u hu => H.extend s hs entries u hu) hw

/-- Entries that are propagated are put in place of those that the configurator remembers,
which then remembers the new ones. Where there are neither nothing happens. -/
theorem ensures_propagate (hservices : e.services ≠ []) (hstands : e.Stands w)
    (entries : Properties) (hnoted : ∀ record : Log.Record, record.Replaces →
      R.holds (w.changeSurroundings (out.log record))) :
    (Configurator.propagate out e.configurator e.component entries).Ensures w fun _ w' =>
      (w' = w ∧ (w.configurator e.configurator).propagated = entries) ∨
      ∃ record : Log.Record, record.Replaces ∧
        ∃ u, R.Renewed calm e (w.configurator e.configurator).propagated entries
            (w.changeSurroundings (out.log record)) u ∧
          w' = u.changeConfigurator e.configurator fun c => { c with propagated := entries } := by
  unfold Configurator.propagate
  rw [Run.ensures_bind, Run.ensures_configurator]
  extract_lets previous
  split
  next hnone =>
    rw [Bool.and_eq_true, Dictionary.isEmpty_iff, Dictionary.isEmpty_iff] at hnone
    exact (Run.ensures_pure _).mpr (.inl ⟨rfl, hnone.2.trans hnone.1.symm⟩)
  next =>
    rw [Run.ensures_bind, Run.ensures_component, hstands.provider?_eq hservices, Run.ensures_bind,
      Run.ensures_note]
    have hreplaces : (Component.report .info "Properties will be propagated"
      (w.component e.component).className [("keys", .quotedList entries.keys)]).Replaces := rfl
    have hholds := hnoted _ hreplaces
    generalize Component.report .info "Properties will be propagated"
      (w.component e.component).className [("keys", .quotedList entries.keys)] = record at *
    extract_lets addEntries
    -- The old entries are gone, or there were none.
    have haddEntries : ∀ x v,
        R.Renewed calm e previous .empty (w.changeSurroundings (out.log record)) v →
        (addEntries x).Ensures v fun _ w' =>
          ∃ u, R.Renewed calm e previous entries (w.changeSurroundings (out.log record)) u ∧
            w' = u.changeConfigurator e.configurator fun c => { c with propagated := entries } := by
      intro x v hreduced
      simp only [addEntries]
      split
      next =>
        refine (Run.ensures_bind _ _).mpr ((H.ensures_extendAll entries hreduced.holds).mono ?_)
        intro _ u hextended
        rw [Run.ensures_changeConfigurator]
        exact ⟨u, H.renewed_trans hreduced hextended, rfl⟩
      next hnone =>
        rw [Bool.not_eq_true', Bool.not_eq_false, Dictionary.isEmpty_iff] at hnone
        rw [Run.ensures_changeConfigurator]
        exact ⟨v, hnone ▸ hreduced, rfl⟩
    split
    next =>
      refine (Run.ensures_bind _ _).mpr ((H.ensures_reduceAll previous hholds).mono ?_)
      intro x v hreduced
      exact (haddEntries x v hreduced).mono fun _ _ hends => .inr ⟨record, hreplaces, hends⟩
    next hnone =>
      rw [Bool.not_eq_true', Bool.not_eq_false, Dictionary.isEmpty_iff] at hnone
      have hreduced : R.Renewed calm e previous .empty (w.changeSurroundings (out.log record))
          (w.changeSurroundings (out.log record)) := by
        rw [hnone]
        exact .of_allows hholds (.refl _) rfl
      exact (haddEntries () _ hreduced).mono fun _ _ hends => .inr ⟨record, hreplaces, hends⟩

end Exchanges

end Regime

end Componentry
