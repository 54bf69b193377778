import PoolPlanner.Resource.Kind

/-!
# Steps that may fail

A sequence of steps succeeds exactly if each of them does.  The identity of an object is such a
step: its name and uid are there or a fault is reported.
-/

namespace PoolPlanner

section Steps

variable {ε α β : Type}

@[simp]
theorem ok_bind (value : α) (next : α → Except ε β) : (Except.ok value >>= next) = next value :=
  rfl

@[simp]
theorem bind_eq_ok_iff {step : Except ε α} {next : α → Except ε β} {result : β} :
    (step >>= next) = .ok result ↔ ∃ value, step = .ok value ∧ next value = .ok result := by
  cases step <;> simp [bind, Except.bind]

/-- Steps go on alike if they do on the value that there is. -/
theorem bind_congr_of_ok {step : Except ε α} {next other : α → Except ε β}
    (same : ∀ value, step = .ok value → next value = other value) :
    (step >>= next) = (step >>= other) := by
  cases step with
  | error fault => rfl
  | ok value => exact same value rfl

@[simp]
theorem pure_eq_ok_iff {value result : α} :
    (pure value : Except ε α) = .ok result ↔ value = result := by
  simp [pure, Except.pure]

@[simp]
theorem map_eq_ok_iff {step : Except ε α} {function : α → β} {result : β} :
    step.map function = .ok result ↔ ∃ value, step = .ok value ∧ function value = result := by
  cases step <;> simp [Except.map]

@[simp]
theorem functorMap_eq_ok_iff {step : Except ε α} {function : α → β} {result : β} :
    (function <$> step) = .ok result ↔ ∃ value, step = .ok value ∧ function value = result :=
  map_eq_ok_iff

@[simp]
theorem mapError_eq_ok_iff {ζ : Type} {step : Except ε α} {function : ε → ζ} {result : α} :
    step.mapError function = .ok result ↔ step = .ok result := by
  cases step with
  | error fault => exact ⟨nofun, nofun⟩
  | ok value =>
      change (.ok value : Except ζ α) = .ok result ↔ _
      simp only [Except.ok.injEq]

@[simp]
theorem throw_ne_ok {fault : ε} {result : α} : (throw fault : Except ε α) ≠ .ok result := by
  simp [throw, throwThe, MonadExceptOf.throw]

end Steps

namespace Resource

variable {R : Type} [Resource R]

/-- The reference by which an object with a name and a uid controls others. -/
def controllerReference (R : Type) [Resource R] (name uid : String) : OwnerReference where
  apiVersion := apiVersion R
  blockOwnerDeletion := none
  controller := some true
  kind := kind R
  name := name
  uid := uid

theorem name_eq_of_metadata (resource : R) {name : String}
    (named : (metadata resource).name = some name) : Resource.name resource = name := by
  simp [Resource.name, ObjectMeta.displayName, named]

@[simp]
theorem uid_eq_ok_iff {subject : Subject} {resource : R} {found : String} :
    Resource.uid subject resource = .ok found ↔ (metadata resource).uid = some found := by
  unfold Resource.uid
  cases (metadata resource).uid <;> simp

@[simp]
theorem ownerReference_eq_ok_iff {subject : Subject} {resource : R} {reference : OwnerReference} :
    ownerReference subject resource = .ok reference ↔
      ∃ name uid, (metadata resource).name = some name ∧ (metadata resource).uid = some uid ∧
        controllerReference R name uid = reference := by
  unfold ownerReference ownerReference? controllerReference
  cases (metadata resource).name <;> cases (metadata resource).uid <;> simp

theorem sortedByName_perm (resources : List R) : (sortedByName resources).Perm resources :=
  inOrder_perm _ resources

@[simp]
theorem mem_sortedByName (resources : List R) (resource : R) :
    resource ∈ sortedByName resources ↔ resource ∈ resources :=
  (sortedByName_perm resources).mem_iff

end Resource
end PoolPlanner
