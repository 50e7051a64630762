import Componentry.Proofs.Run.Returning
import Mathlib.Data.List.Forall2

/-!
# Runs side by side

Two runs are twins if from worlds that are alike they do alike: both give up, or both return,
and then the worlds that they leave are alike again and their results agree. They meet if both
return, in the same way. The laws follow the structure of the runs, so that twins may differ only
in steps that are twins by themselves.

A run that returns and leaves the world alike to what it was has no counterpart; where it
stands on both sides the results need not agree.
-/

namespace Componentry

variable {σ α β γ δ : Type}

namespace Run

/-- Both runs give up, or both return, and then what they return satisfies a condition. -/
def Jointly (m₁ : Run σ α) (m₂ : Run σ β) (w₁ w₂ : World σ)
    (post : α → World σ → β → World σ → Prop) : Prop :=
  Option.Rel (fun r₁ r₂ => post r₁.1 r₁.2 r₂.1 r₂.2) (m₁.run w₁) (m₂.run w₂)

section Jointly

variable {w₁ w₂ : World σ} {post : α → World σ → β → World σ → Prop}

theorem Jointly.mono {m₁ : Run σ α} {m₂ : Run σ β} {post' : α → World σ → β → World σ → Prop}
    (h : m₁.Jointly m₂ w₁ w₂ post)
    (himp : ∀ a u₁ b u₂, post a u₁ b u₂ → post' a u₁ b u₂) : m₁.Jointly m₂ w₁ w₂ post' := by
  unfold Jointly at h ⊢
  cases h₁ : m₁.run w₁ <;> cases h₂ : m₂.run w₂ <;> rw [h₁, h₂] at h
  · exact .none
  · cases h
  · cases h
  · cases h with
    | some hpost => exact .some (himp _ _ _ _ hpost)

theorem Jointly.bind {m₁ : Run σ γ} {m₂ : Run σ δ} {f₁ : γ → Run σ α} {f₂ : δ → Run σ β}
    {between : γ → World σ → δ → World σ → Prop} (hm : m₁.Jointly m₂ w₁ w₂ between)
    (hf : ∀ c u₁ d u₂, between c u₁ d u₂ → (f₁ c).Jointly (f₂ d) u₁ u₂ post) :
    (m₁ >>= f₁).Jointly (m₂ >>= f₂) w₁ w₂ post := by
  unfold Jointly at hm ⊢
  rw [StateT.run_bind, StateT.run_bind]
  cases h₁ : m₁.run w₁ <;> cases h₂ : m₂.run w₂ <;> rw [h₁, h₂] at hm
  · exact .none
  · cases hm
  · cases hm
  · cases hm with
    | some hbetween => exact hf _ _ _ _ hbetween

/-- Runs that return the same go side by side with results that agree. -/
theorem Jointly.map_fst_eq {m₁ m₂ : Run σ α}
    (h : m₁.Jointly m₂ w₁ w₂ fun a _ b _ => a = b) :
    (m₁.run w₁).map Prod.fst = (m₂.run w₂).map Prod.fst := by
  unfold Jointly at h
  generalize m₁.run w₁ = r₁, m₂.run w₂ = r₂ at h
  cases h with
  | none => rfl
  | some hsame => exact congrArg some hsame

/-- Steps that are taken on both sides before what follows. -/
theorem jointly_bind_of_steps {m₁ : Run σ γ} {m₂ : Run σ δ} {f₁ : γ → Run σ α} {f₂ : δ → Run σ β}
    {c : γ} {d : δ} {u₁ u₂ : World σ} (hstep₁ : m₁.run w₁ = some (c, u₁))
    (hstep₂ : m₂.run w₂ = some (d, u₂)) (hf : (f₁ c).Jointly (f₂ d) u₁ u₂ post) :
    (m₁ >>= f₁).Jointly (m₂ >>= f₂) w₁ w₂ post := by
  rw [Jointly, StateT.run_bind, StateT.run_bind, hstep₁, hstep₂]
  exact hf

/-- Runs that return go side by side, whatever they do. -/
theorem Returns.jointly {m₁ : Run σ α} {m₂ : Run σ β} {post₁ : α → World σ → Prop}
    {post₂ : β → World σ → Prop} (h₁ : m₁.Returns w₁ post₁) (h₂ : m₂.Returns w₂ post₂)
    (himp : ∀ a u₁ b u₂, post₁ a u₁ → post₂ b u₂ → post a u₁ b u₂) :
    m₁.Jointly m₂ w₁ w₂ post := by
  obtain ⟨a, u₁, hrun₁, hpost₁⟩ := h₁
  obtain ⟨b, u₂, hrun₂, hpost₂⟩ := h₂
  rw [Jointly, hrun₁, hrun₂]
  exact .some (himp a u₁ b u₂ hpost₁ hpost₂)

end Jointly

/-- From worlds that are alike both runs give up, or both return, with results that agree and
worlds that are alike again. -/
def Twins (alike : World σ → World σ → Prop) (agree : α → β → Prop) (m₁ : Run σ α)
    (m₂ : Run σ β) : Prop :=
  ∀ w₁ w₂, alike w₁ w₂ → m₁.Jointly m₂ w₁ w₂ fun a u₁ b u₂ => alike u₁ u₂ ∧ agree a b

section Twins

variable {alike : World σ → World σ → Prop} {agree : α → β → Prop}

theorem twins_pure {a : α} {b : β} (hagree : agree a b) :
    Twins alike agree (pure a : Run σ α) (pure b) :=
  fun _ _ halike => .some ⟨halike, hagree⟩

/-- Single steps are twins if they leave alike worlds alike, with results that agree. -/
theorem twins_of_steps {m₁ : Run σ α} {m₂ : Run σ β} {value₁ : World σ → α} {value₂ : World σ → β}
    {f₁ f₂ : World σ → World σ} (hstep₁ : ∀ w, m₁.run w = some (value₁ w, f₁ w))
    (hstep₂ : ∀ w, m₂.run w = some (value₂ w, f₂ w))
    (halike : ∀ w₁ w₂, alike w₁ w₂ → alike (f₁ w₁) (f₂ w₂) ∧ agree (value₁ w₁) (value₂ w₂)) :
    Twins alike agree m₁ m₂ := by
  intro w₁ w₂ h
  rw [Jointly, hstep₁, hstep₂]
  exact .some (halike w₁ w₂ h)

theorem Twins.bind {m₁ : Run σ γ} {m₂ : Run σ δ} {f₁ : γ → Run σ α} {f₂ : δ → Run σ β}
    {among : γ → δ → Prop} (hm : Twins alike among m₁ m₂)
    (hf : ∀ c d, among c d → Twins alike agree (f₁ c) (f₂ d)) :
    Twins alike agree (m₁ >>= f₁) (m₂ >>= f₂) := by
  intro w₁ w₂ halike
  apply (hm w₁ w₂ halike).bind
  rintro c u₁ d u₂ ⟨halike', hamong⟩
  exact hf c d hamong u₁ u₂ halike'

/-- Loops over the same items are twins if their turns are. -/
theorem Twins.forM {f₁ f₂ : γ → Run σ Unit} {items : List γ}
    (hf : ∀ c ∈ items, Twins alike Eq (f₁ c) (f₂ c)) :
    Twins alike Eq (items.forM f₁) (items.forM f₂) := by
  induction items with
  | nil => exact twins_pure rfl
  | cons c rest ih =>
      apply (hf c List.mem_cons_self).bind
      intro _ _ _
      exact ih fun other hother => hf other (List.mem_cons_of_mem c hother)

theorem Twins.mapM {f₁ : γ → Run σ α} {f₂ : γ → Run σ β} {items : List γ}
    (hf : ∀ c ∈ items, Twins alike agree (f₁ c) (f₂ c)) :
    Twins alike (List.Forall₂ agree) (items.mapM f₁) (items.mapM f₂) := by
  induction items with
  | nil => exact twins_pure .nil
  | cons c rest ih =>
      simp only [List.mapM_cons]
      apply (hf c List.mem_cons_self).bind
      intro a b hagree
      apply (ih fun other hother => hf other (List.mem_cons_of_mem c hother)).bind
      exact fun _ _ hrest => twins_pure (.cons hagree hrest)

theorem Twins.foldlM {f₁ f₂ : α → γ → Run σ α} {items : List γ}
    (hf : ∀ a, ∀ c ∈ items, Twins alike Eq (f₁ a c) (f₂ a c)) (a : α) :
    Twins alike Eq (items.foldlM f₁ a) (items.foldlM f₂ a) := by
  induction items generalizing a with
  | nil => exact twins_pure rfl
  | cons c rest ih =>
      simp only [List.foldlM_cons]
      apply (hf a c List.mem_cons_self).bind
      rintro b _ rfl
      exact ih (fun a other hother => hf a other (List.mem_cons_of_mem c hother)) b

end Twins

/-- From worlds that are alike both runs return, with results that agree and worlds that are
alike again. -/
def Meets (alike : World σ → World σ → Prop) (agree : α → β → Prop) (m₁ : Run σ α)
    (m₂ : Run σ β) : Prop :=
  ∀ w₁ w₂, alike w₁ w₂ →
    m₁.Returns w₁ fun a u₁ => m₂.Returns w₂ fun b u₂ => alike u₁ u₂ ∧ agree a b

section Meets

variable {alike : World σ → World σ → Prop} {agree : α → β → Prop}

theorem meets_pure {a : α} {b : β} (hagree : agree a b) :
    Meets alike agree (pure a : Run σ α) (pure b) := by
  intro w₁ w₂ halike
  simp only [returns_pure]
  exact ⟨halike, hagree⟩

theorem Meets.bind {m₁ : Run σ γ} {m₂ : Run σ δ} {f₁ : γ → Run σ α}
    {f₂ : δ → Run σ β} {among : γ → δ → Prop} (hm : Meets alike among m₁ m₂)
    (hf : ∀ c d, among c d → Meets alike agree (f₁ c) (f₂ d)) :
    Meets alike agree (m₁ >>= f₁) (m₂ >>= f₂) := by
  intro w₁ w₂ halike
  rw [returns_bind]
  refine (hm w₁ w₂ halike).mono ?_
  rintro c u₁ ⟨d, u₂, hrun₂, halike', hamong⟩
  refine (hf c d hamong u₁ u₂ halike').mono ?_
  rintro a v₁ hends
  exact (returns_bind _ _).mpr ⟨d, u₂, hrun₂, hends⟩

theorem Meets.forM {f₁ f₂ : γ → Run σ Unit} {items : List γ}
    (hf : ∀ c ∈ items, Meets alike Eq (f₁ c) (f₂ c)) :
    Meets alike Eq (items.forM f₁) (items.forM f₂) := by
  induction items with
  | nil => exact meets_pure rfl
  | cons c rest ih =>
      apply (hf c List.mem_cons_self).bind
      intro _ _ _
      exact ih fun other hother => hf other (List.mem_cons_of_mem c hother)

end Meets

end Run

end Componentry
