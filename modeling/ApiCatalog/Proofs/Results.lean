import Mathlib.Data.List.Forall2

set_option autoImplicit false

namespace ApiCatalog

variable {E A B : Type}

/-! How steps that may fail follow each other. -/

theorem bind_eq_ok {first : Except E A} {next : A → Except E B} {b : B} :
    first >>= next = .ok b ↔ ∃ a, first = .ok a ∧ next a = .ok b := by
  cases first <;> simp [bind, Except.bind]

theorem bind_eq_error {first : Except E A} {next : A → Except E B} {e : E} :
    first >>= next = .error e ↔ first = .error e ∨ ∃ a, first = .ok a ∧ next a = .error e := by
  cases first <;> simp [bind, Except.bind]

theorem map_eq_ok {result : Except E A} {f : A → B} {b : B} :
    result.map f = .ok b ↔ ∃ a, result = .ok a ∧ f a = b := by
  cases result <;> simp [Except.map]

theorem map_eq_error {result : Except E A} {f : A → B} {e : E} :
    result.map f = .error e ↔ result = .error e := by
  cases result <;> simp [Except.map]

theorem mapError_ok {F : Type} (g : E → F) (a : A) :
    (Except.ok a : Except E A).mapError g = .ok a := rfl

theorem mapError_error {F : Type} (g : E → F) (e : E) :
    (Except.error e : Except E A).mapError g = .error (g e) := rfl

theorem mapError_eq_ok {F : Type} {result : Except E A} {g : E → F} {a : A} :
    result.mapError g = .ok a ↔ result = .ok a := by
  cases result with
  | error e => simp [mapError_error]
  | ok b => simp [mapError_ok]

theorem mapM_eq_ok {f : A → Except E B} {as : List A} {bs : List B} :
    as.mapM f = .ok bs ↔ List.Forall₂ (fun a b => f a = .ok b) as bs := by
  induction as generalizing bs with
  | nil => simp [pure, Except.pure, eq_comm]
  | cons a as ih =>
    simp only [List.mapM_cons, bind_eq_ok, List.forall₂_cons_left_iff, ih]
    constructor
    · rintro ⟨b, first, rest, others, same⟩
      cases same
      exact ⟨b, rest, first, others, rfl⟩
    · rintro ⟨b, rest, first, others, rfl⟩
      exact ⟨b, first, rest, others, rfl⟩

theorem exists_of_isOk {result : Except E A} (succeeds : result.isOk) : ∃ a, result = .ok a := by
  cases result with
  | error e => cases succeeds
  | ok a => exact ⟨a, rfl⟩

theorem eq_ok_of_mem {result : Except E A} {a : A} (member : a ∈ result.toOption) :
    result = .ok a := by
  cases result with
  | error e => cases member
  | ok b => rw [Option.some.inj member]

end ApiCatalog
