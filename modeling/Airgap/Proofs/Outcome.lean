import Mathlib.Data.List.Forall2

/-!
# Steps that may fail

How a sequence of steps in `Except` ends: `ok_bind` and `error_bind` run the first step,
`bind_eq_ok` and `bind_eq_error` take a sequence apart, `mapM_eq_ok_iff` and `exists_of_mapM_eq_error`
one step for each element of a list, and `mapM_eq_ok` is one that cannot fail. `mapM_zipIdx_eq` is one that
looks its element up, and `mapM_mapError` puts failures in other words.
-/

namespace Airgap

variable {ε α β : Type}

@[simp] theorem pure_eq_ok (a : α) : (pure a : Except ε α) = .ok a := rfl

@[simp] theorem ok_bind (a : α) (f : α → Except ε β) : (Except.ok a >>= f) = f a := rfl

@[simp] theorem error_bind (e : ε) (f : α → Except ε β) :
    (Except.error e >>= f) = .error e := rfl

@[simp] theorem map_ok (f : α → β) (a : α) : (f <$> (.ok a : Except ε α)) = .ok (f a) := rfl

theorem bind_eq_ok {x : Except ε α} {f : α → Except ε β} {b : β} :
    (x >>= f) = .ok b ↔ ∃ a, x = .ok a ∧ f a = .ok b := by
  cases x with
  | error e => simp
  | ok a => simp

theorem bind_eq_error {x : Except ε α} {f : α → Except ε β} {e : ε} :
    (x >>= f) = .error e ↔ x = .error e ∨ ∃ a, x = .ok a ∧ f a = .error e := by
  cases x with
  | error e => simp
  | ok a => simp

theorem isOk_iff {x : Except ε α} : x.isOk = true ↔ ∃ a, x = .ok a := by
  cases x with
  | error e => exact ⟨fun h => (nomatch h), fun ⟨a, h⟩ => (nomatch h)⟩
  | ok a => exact ⟨fun _ => ⟨a, rfl⟩, fun _ => rfl⟩

theorem discard_eq_ok {x : Except ε α} : discard x = .ok () ↔ ∃ a, x = .ok a := by
  cases x with
  | error e => exact ⟨fun h => (nomatch h), fun ⟨a, h⟩ => (nomatch h)⟩
  | ok a => exact ⟨fun _ => ⟨a, rfl⟩, fun _ => rfl⟩

theorem mapM_eq_ok {f : α → Except ε β} {g : α → β} {as : List α} (h : ∀ a ∈ as, f a = .ok (g a)) :
    as.mapM f = .ok (as.map g) := by
  induction as with
  | nil => rfl
  | cons a as ih =>
    rw [List.mapM_cons, h a List.mem_cons_self, ih fun b hb => h b (List.mem_cons_of_mem a hb)]
    rfl

/-- A step for each element succeeds with the results of the elements. -/
theorem mapM_eq_ok_iff {f : α → Except ε β} {as : List α} {bs : List β} :
    as.mapM f = .ok bs ↔ List.Forall₂ (fun a b => f a = .ok b) as bs := by
  induction as generalizing bs with
  | nil => rw [List.mapM_nil, pure_eq_ok, Except.ok.injEq, List.forall₂_nil_left_iff, eq_comm]
  | cons a as ih =>
    rw [List.mapM_cons, bind_eq_ok]
    simp only [bind_eq_ok, pure_eq_ok, Except.ok.injEq, ih]
    constructor
    · rintro ⟨b, hb, bs, hbs, rfl⟩
      exact .cons hb hbs
    · intro h
      cases h with
      | cons hb hbs => exact ⟨_, hb, _, hbs, rfl⟩

/-- A step for each element fails as one of the elements does. -/
theorem exists_of_mapM_eq_error {f : α → Except ε β} {as : List α} {e : ε}
    (h : as.mapM f = .error e) : ∃ a ∈ as, f a = .error e := by
  induction as with
  | nil => exact nomatch h
  | cons a as ih =>
    rw [List.mapM_cons, bind_eq_error] at h
    rcases h with h | ⟨b, -, h⟩
    · exact ⟨a, List.mem_cons_self, h⟩
    · rcases bind_eq_error.mp h with h | ⟨bs, -, h⟩
      · obtain ⟨a', ha', h'⟩ := ih h
        exact ⟨a', List.mem_cons_of_mem a ha', h'⟩
      · exact nomatch h

/-- Failures may be put in other words at each step or at the end. -/
theorem mapM_mapError {δ : Type} (g : ε → δ) (f : α → Except ε β) (as : List α) :
    (as.mapM fun a => (f a).mapError g) = (as.mapM f).mapError g := by
  induction as with
  | nil => rfl
  | cons a as ih =>
    rw [List.mapM_cons, List.mapM_cons, ih]
    cases f a with
    | error e => rfl
    | ok b => cases as.mapM f <;> rfl

/-- Elements that are looked up one after the other, up to the first that is not found. -/
theorem mapM_zipIdx_eq {f : α × ℕ → Except ε β} {lookup? : α → Option β} {missing : α × ℕ → ε}
    (hfound : ∀ p b, lookup? p.1 = some b → f p = .ok b)
    (hmissing : ∀ p, lookup? p.1 = none → f p = .error (missing p)) (as : List α) (start : ℕ) :
    (as.zipIdx start).mapM f =
      match (as.zipIdx start).filter fun p => (lookup? p.1).isNone with
      | [] => .ok (as.filterMap lookup?)
      | p :: _ => .error (missing p) := by
  induction as generalizing start with
  | nil => rfl
  | cons a as ih =>
    rw [List.zipIdx_cons, List.mapM_cons, ih]
    cases ha : lookup? a with
    | none =>
      simp only [hmissing (a, start) ha, List.filter_cons, ha, Option.isNone_none, if_true, error_bind]
    | some b =>
      simp only [hfound (a, start) b ha, List.filter_cons, List.filterMap_cons, ha, Option.isNone_some,
        Bool.false_eq_true, if_false, ok_bind]
      split <;> rfl

end Airgap
