import Mathlib.Data.List.Forall2

/-!
# Success of checks in turn

Readings and verifications are built from steps that may fail. These lemmas say when the whole of
such steps succeeds, so that no proof has to take a chain of steps apart by hand.
-/

namespace TableSchema

variable {ε α β : Type}

theorem bind_eq_ok_iff {x : Except ε α} {f : α → Except ε β} {b : β} :
    (x >>= f) = .ok b ↔ ∃ a, x = .ok a ∧ f a = .ok b := by
  cases x with
  | error e => simp [bind, Except.bind]
  | ok a => simp [bind, Except.bind]

/-- The same for steps that give nothing but success. -/
@[simp] theorem then_eq_ok_iff {x : Except ε Unit} {f : Unit → Except ε β} {b : β} :
    (x >>= f) = .ok b ↔ x = .ok () ∧ f () = .ok b := by
  rw [bind_eq_ok_iff]
  exact ⟨fun ⟨_, h⟩ => h, fun h => ⟨(), h⟩⟩

theorem mapError_eq_ok_iff {ε' : Type} {x : Except ε α} {f : ε → ε'} {a : α} :
    x.mapError f = .ok a ↔ x = .ok a := by
  cases x with
  | error e => simp [Except.mapError]
  | ok a => simp [Except.mapError]

theorem toOption_map_eq_some_iff {x : Except ε α} {f : α → β} {b : β} :
    x.toOption.map f = some b ↔ ∃ a, x = .ok a ∧ f a = b := by
  cases x with
  | error e => simp [Except.toOption]
  | ok a => simp [Except.toOption]

theorem isSome_toOption_iff {x : Except ε α} : x.toOption.isSome ↔ ∃ a, x = .ok a := by
  cases x with
  | error e => simp [Except.toOption]
  | ok a => simp [Except.toOption]

/-- What follows a step matters only for what the step gives. -/
theorem bind_congr_ok {x : Except ε α} {f g : α → Except ε β} (h : ∀ a, x = .ok a → f a = g a) :
    (x >>= f) = (x >>= g) := by
  cases x with
  | error e => rfl
  | ok a => exact h a rfl

theorem forM_eq_ok_iff {f : α → Except ε Unit} {items : List α} :
    items.forM f = .ok () ↔ ∀ item ∈ items, f item = .ok () := by
  induction items with
  | nil => simp [pure, Except.pure]
  | cons first rest ih =>
      rw [List.forM_eq_forM] at ih ⊢
      rw [List.forM_cons, then_eq_ok_iff, ih, List.forall_mem_cons]

theorem mapM_eq_ok_iff {f : α → Except ε β} {items : List α} {results : List β} :
    items.mapM f = .ok results ↔ List.Forall₂ (fun item result => f item = .ok result)
      items results := by
  induction items generalizing results with
  | nil => simp [pure, Except.pure, eq_comm]
  | cons first rest ih =>
      simp only [List.mapM_cons, bind_eq_ok_iff, ih, pure, Except.pure, Except.ok.injEq,
        List.forall₂_cons_left_iff]
      constructor
      · rintro ⟨result, hfirst, others, hrest, rfl⟩
        exact ⟨result, others, hfirst, hrest, rfl⟩
      · rintro ⟨result, others, hfirst, hrest, rfl⟩
        exact ⟨result, hfirst, others, hrest, rfl⟩

theorem exists_right_of_forall₂ {r : α → β → Prop} {items : List α} {results : List β}
    (h : List.Forall₂ r items results) : ∀ item ∈ items, ∃ result ∈ results, r item result := by
  induction h with
  | nil => simp
  | cons hfirst _ ih =>
      rw [List.forall_mem_cons]
      refine ⟨⟨_, List.mem_cons_self, hfirst⟩, fun item hmem => ?_⟩
      obtain ⟨result, hresult, hr⟩ := ih item hmem
      exact ⟨result, List.mem_cons_of_mem _ hresult, hr⟩

theorem exists_left_of_forall₂ {r : α → β → Prop} {items : List α} {results : List β}
    (h : List.Forall₂ r items results) : ∀ result ∈ results, ∃ item ∈ items, r item result :=
  exists_right_of_forall₂ h.flip

theorem mapM_eq_some_iff {f : α → Option β} {items : List α} {results : List β} :
    items.mapM f = some results ↔ List.Forall₂ (fun item result => f item = some result)
      items results := by
  induction items generalizing results with
  | nil => simp [eq_comm]
  | cons first rest ih =>
      simp only [List.mapM_cons, Option.bind_eq_bind, Option.bind_eq_some_iff, ih, pure,
        Option.some.injEq, List.forall₂_cons_left_iff]
      constructor
      · rintro ⟨result, hfirst, others, hrest, rfl⟩
        exact ⟨result, others, hfirst, hrest, rfl⟩
      · rintro ⟨result, others, hfirst, hrest, rfl⟩
        exact ⟨result, hfirst, others, hrest, rfl⟩

theorem mapM_isSome_iff {f : α → Option β} {items : List α} :
    (items.mapM f).isSome ↔ ∀ item ∈ items, (f item).isSome := by
  induction items with
  | nil => simp
  | cons first rest ih =>
      rw [List.forall_mem_cons, ← ih, List.mapM_cons]
      cases f first with
      | none => simp
      | some result => cases rest.mapM f <;> simp

theorem mapM_map_eq {γ : Type} {f : α → Option β} {g : β → γ} (items : List α) :
    items.mapM (fun item => (f item).map g) = (items.mapM f).map (List.map g) := by
  induction items with
  | nil => rfl
  | cons first rest ih =>
      rw [List.mapM_cons, List.mapM_cons, ih]
      cases f first with
      | none => rfl
      | some result => cases rest.mapM f <;> rfl

end TableSchema
