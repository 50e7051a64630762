import Componentry.Proofs.Run.Outcome
import Mathlib.Logic.Relation

/-!
# Turns

A collaborator that is being called may take its turn before it returns: things happen
around the platform, and operations on the platform run, one after the other. These
operations call collaborators again, one layer further down.

A regime is a condition on worlds together with a way in which a world may lead to
another. What is shown of single operations, given that the turns within them stay in
the regime, holds of all turns, however deep the operations are nested.
-/

namespace Componentry

variable {σ α β : Type}

/-- What may happen in a turn: idle steps and operations, one after the other. -/
abbrev Turn (idle acts : World σ → World σ → Prop) : World σ → World σ → Prop :=
  Relation.ReflTransGen fun w w' => idle w w' ∨ acts w w'

/-- Collaborators that keep a rule in layers. The rule says what they may do around the
operations that they call; those of the lowest layer call none, and those above call
operations with the collaborators of the layer below. -/
inductive Layered (acts : Collaborators σ → World σ → World σ → Prop)
    (rule : (World σ → World σ → Prop) → Collaborators σ → Prop) : Collaborators σ → Prop
  | bottom {out : Collaborators σ} (hrule : rule (fun _ _ => False) out) : Layered acts rule out
  | above {below out : Collaborators σ} (hbelow : Layered acts rule below)
      (hrule : rule (acts below) out) : Layered acts rule out

namespace Layered

variable {acts : Collaborators σ → World σ → World σ → Prop}
  {rule : (World σ → World σ → Prop) → Collaborators σ → Prop} {allowed : World σ → World σ → Prop}

/-- Operations of every layer do what is allowed if they do so provided that the
operations called within them do. -/
theorem acts_allowed
    (hlayer : ∀ callbacks out, (∀ w w', callbacks w w' → allowed w w') → rule callbacks out →
      ∀ w w', acts out w w' → allowed w w')
    {out : Collaborators σ} (hout : Layered acts rule out) (w w' : World σ)
    (hacts : acts out w w') : allowed w w' := by
  -- The operations called within a layer are those of the layer below.
  induction hout generalizing w w' with
  | bottom hrule => exact hlayer _ _ (fun _ _ hfalse => hfalse.elim) hrule w w' hacts
  | above hbelow hrule ih => exact hlayer _ _ ih hrule w w' hacts

/-- Collaborators of every layer keep the rule with operations that do what is allowed. -/
theorem exists_rule_allowed
    (hlayer : ∀ callbacks out, (∀ w w', callbacks w w' → allowed w w') → rule callbacks out →
      ∀ w w', acts out w w' → allowed w w')
    {out : Collaborators σ} (hout : Layered acts rule out) :
    ∃ callbacks, (∀ w w', callbacks w w' → allowed w w') ∧ rule callbacks out := by
  cases hout with
  | bottom hrule => exact ⟨_, fun _ _ hfalse => hfalse.elim, hrule⟩
  | above hbelow hrule => exact ⟨_, hbelow.acts_allowed hlayer, hrule⟩

theorem exists_rule {out : Collaborators σ} (hout : Layered acts rule out) :
    ∃ callbacks, rule callbacks out := by
  cases hout with
  | bottom hrule => exact ⟨_, hrule⟩
  | above _ hrule => exact ⟨_, hrule⟩

end Layered

/-- A condition on worlds and a way in which a world may lead to another. -/
structure Regime (σ : Type) where
  holds : World σ → Prop
  leads : World σ → World σ → Prop
  refl : ∀ w, leads w w
  trans : ∀ {u v w}, leads u v → leads v w → leads u w

namespace Regime

variable (R : Regime σ)

/-- From a world where the condition holds to another one that it may lead to. -/
def Allows (w w' : World σ) : Prop := R.holds w → R.holds w' ∧ R.leads w w'

/-- The run stays in the regime from every world where the condition holds. -/
def Keeps (m : Run σ α) : Prop := ∀ w, R.holds w → m.Ensures w fun _ => R.Allows w

variable {R} {u v w : World σ}

theorem Allows.refl (w : World σ) : R.Allows w w := fun hw => ⟨hw, R.refl w⟩

theorem Allows.trans (huv : R.Allows u v) (hvw : R.Allows v w) : R.Allows u w := by
  intro hu
  obtain ⟨hv, hleads⟩ := huv hu
  obtain ⟨hw, hleads'⟩ := hvw hv
  exact ⟨hw, R.trans hleads hleads'⟩

/-- A turn of allowed steps is allowed. -/
theorem Allows.of_turn {idle acts : World σ → World σ → Prop}
    (hidle : ∀ u v, idle u v → R.Allows u v) (hacts : ∀ u v, acts u v → R.Allows u v)
    (hturn : Turn idle acts u v) : R.Allows u v := by
  induction hturn with
  | refl => exact .refl u
  | tail _ hstep ih => exact ih.trans (hstep.elim (hidle _ _) (hacts _ _))

/-- A run that stays in the regime behind an allowed step. -/
theorem Allows.then {m : Run σ α} (huv : R.Allows u v) (hu : R.holds u)
    (hm : R.Keeps m) : m.Ensures v fun _ => R.Allows u :=
  (hm v (huv hu).1).mono fun _ _ hvw => huv.trans hvw

theorem keeps_giveUp : R.Keeps (Run.giveUp : Run σ α) := fun _ _ => Run.ensures_giveUp

theorem keeps_pure (a : α) : R.Keeps (pure a : Run σ α) := by
  intro w _
  exact (Run.ensures_pure a).mpr (.refl w)

theorem Keeps.bind {m : Run σ β} {f : β → Run σ α} (hm : R.Keeps m) (hf : ∀ b, R.Keeps (f b)) :
    R.Keeps (m >>= f) := by
  intro w hw
  refine (Run.ensures_bind m f).mpr ((hm w hw).mono ?_)
  intro b w' hallows
  exact hallows.then hw (hf b)

theorem Keeps.map {m : Run σ β} (hm : R.Keeps m) (f : β → α) : R.Keeps (f <$> m) := by
  rw [map_eq_pure_bind]
  exact hm.bind fun b => keeps_pure (f b)

theorem Keeps.forM {f : α → Run σ Unit} {items : List α} (hf : ∀ a ∈ items, R.Keeps (f a)) :
    R.Keeps (items.forM f) := by
  intro w hw
  refine Run.ensures_forM (R.Allows w) ?_ (.refl w)
  intro a ha w' hallows
  exact hallows.then hw (hf a ha)

theorem Keeps.foldlM {f : α → β → Run σ α} {items : List β}
    (hf : ∀ a, ∀ b ∈ items, R.Keeps (f a b)) (a : α) : R.Keeps (items.foldlM f a) := by
  induction items generalizing a with
  | nil => exact keeps_pure a
  | cons b rest ih =>
      rw [List.foldlM_cons]
      refine (hf a b List.mem_cons_self).bind fun next => ih ?_ next
      exact fun a other hother => hf a other (List.mem_cons_of_mem b hother)

/-- A regime that does not mind whether a component is held. -/
theorem Keeps.holding {m : Run σ α} {r : Ref .component} (hm : R.Keeps m)
    (hhold : ∀ w, R.Allows w (w.hold r)) (hrelease : ∀ w, R.Allows w (w.release r)) :
    R.Keeps (Run.holding r m) := by
  intro w hw
  rw [Run.ensures_holding]
  exact ((hhold w).then hw hm).mono fun _ w' hallows => hallows.trans (hrelease w')

theorem keeps_platform : R.Keeps (Run.platform : Run σ Platform) :=
  fun w _ => Run.ensures_platform.mpr (.refl w)

theorem keeps_component (r : Ref .component) : R.Keeps (Run.component r : Run σ Component) :=
  fun w _ => (Run.ensures_component r).mpr (.refl w)

theorem keeps_service (r : Ref .service) : R.Keeps (Run.service r : Run σ Service) :=
  fun w _ => (Run.ensures_service r).mpr (.refl w)

theorem keeps_provider (r : Ref .provider) : R.Keeps (Run.provider r : Run σ Provider) :=
  fun w _ => (Run.ensures_provider r).mpr (.refl w)

theorem keeps_property (r : Ref .property) :
    R.Keeps (Run.property r : Run σ ConfigurableProperty) :=
  fun w _ => (Run.ensures_property r).mpr (.refl w)

theorem keeps_configurator (r : Ref .configurator) :
    R.Keeps (Run.configurator r : Run σ Configurator) :=
  fun w _ => (Run.ensures_configurator r).mpr (.refl w)

theorem keeps_caller (r : Ref .caller) : R.Keeps (Run.caller r : Run σ Caller) :=
  fun w _ => (Run.ensures_caller r).mpr (.refl w)

end Regime

end Componentry
