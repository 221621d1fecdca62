import Mathlib.Data.List.Forall2

namespace TextFeatures

variable {α β γ ε δ : Type}

section Steps
variable {a : α} {e : ε}

@[simp] theorem pure_eq_ok : (pure a : Except ε α) = .ok a := rfl
@[simp] theorem ok_bind {next : α → Except ε β} : (Except.ok a >>= next) = next a := rfl
@[simp] theorem error_bind {next : α → Except ε β} : (Except.error e >>= next) = .error e := rfl
@[simp] theorem ok_map {f : α → β} : (Except.ok a : Except ε α).map f = .ok (f a) := rfl
@[simp] theorem error_map {f : α → β} : (Except.error e).map f = .error e := rfl
@[simp] theorem ok_mapError {f : ε → δ} : (Except.ok a).mapError f = .ok a := rfl
@[simp] theorem error_mapError {f : ε → δ} : (Except.error e : Except ε α).mapError f = .error (f e) := rfl

end Steps

theorem mapError_eq_ok_iff {result : Except ε α} {f : ε → δ} {a : α} :
    result.mapError f = .ok a ↔ result = .ok a := by
  cases result <;> simp

theorem map_eq_ok_iff {result : Except ε α} {f : α → β} {b : β} :
    result.map f = .ok b ↔ ∃ a, result = .ok a ∧ f a = b := by
  cases result <;> simp

theorem bind_eq_ok_iff {first : Except ε α} {next : α → Except ε β} {b : β} :
    (first >>= next) = .ok b ↔ ∃ a, first = .ok a ∧ next a = .ok b := by
  cases first <;> simp

theorem bind_eq_error_iff {first : Except ε α} {next : α → Except ε β} {e : ε} :
    (first >>= next) = .error e ↔ first = .error e ∨ ∃ a, first = .ok a ∧ next a = .error e := by
  cases first <;> simp

-- A traversal that may fail gives its results element by element, and all of them or none.
theorem mapM_eq_ok_iff {f : α → Except ε β} {xs : List α} {ys : List β} :
    xs.mapM f = .ok ys ↔ List.Forall₂ (fun x y => f x = .ok y) xs ys := by
  induction xs generalizing ys with
  | nil => cases ys <;> simp
  | cons x rest ih =>
    rw [List.mapM_cons]
    simp only [bind_eq_ok_iff, ih, pure_eq_ok, Except.ok.injEq, List.forall₂_cons_left_iff]
    constructor
    · rintro ⟨y, first, later, others, rfl⟩
      exact ⟨y, later, first, others, rfl⟩
    · rintro ⟨y, later, first, others, rfl⟩
      exact ⟨y, first, later, others, rfl⟩

theorem mapM_of_each {f : α → Except ε β} {g : α → β} {xs : List α} (each : ∀ x ∈ xs, f x = .ok (g x)) :
    xs.mapM f = .ok (xs.map g) := by
  rw [mapM_eq_ok_iff, List.forall₂_map_right_iff, List.forall₂_same]
  exact each

theorem exists_of_mem_mapM {f : α → Except ε β} {xs : List α} {ys : List β} {y : β} (given : xs.mapM f = .ok ys)
    (member : y ∈ ys) : ∃ x ∈ xs, f x = .ok y := by
  have each := mapM_eq_ok_iff.mp given
  induction each with
  | nil => cases member
  | cons here later ih =>
    rcases List.mem_cons.mp member with rfl | there
    · exact ⟨_, List.mem_cons_self, here⟩
    · obtain ⟨x, among, found⟩ := ih (mapM_eq_ok_iff.mpr later) there
      exact ⟨x, List.mem_cons_of_mem _ among, found⟩

theorem exists_getElem?_of_mapM {f : α → Except ε β} {xs : List α} {ys : List β} {x : α} {i : Nat}
    (given : xs.mapM f = .ok ys) (there : xs[i]? = some x) : ∃ y, ys[i]? = some y ∧ f x = .ok y := by
  have each := mapM_eq_ok_iff.mp given
  induction each generalizing i with
  | nil => simp at there
  | cons here later ih =>
    cases i with
    | zero =>
      obtain rfl := Option.some.inj there
      exact ⟨_, rfl, here⟩
    | succ i => exact ih (mapM_eq_ok_iff.mpr later) there

theorem mapM_of_mapM {f : α → Except ε β} {g : α → Except δ β} {xs : List α} {ys : List β}
    (each : ∀ x y, f x = .ok y → g x = .ok y) (given : xs.mapM f = .ok ys) : xs.mapM g = .ok ys :=
  mapM_eq_ok_iff.mpr ((mapM_eq_ok_iff.mp given).imp each)

theorem exists_of_mapM_eq_error {f : α → Except ε β} {xs : List α} {e : ε} (failed : xs.mapM f = .error e) :
    ∃ x ∈ xs, f x = .error e := by
  induction xs with
  | nil => simp at failed
  | cons x rest ih =>
    rw [List.mapM_cons, bind_eq_error_iff] at failed
    rcases failed with first | ⟨y, _, later⟩
    · exact ⟨x, List.mem_cons_self, first⟩
    · rcases bind_eq_error_iff.mp later with others | ⟨ys, _, done⟩
      · obtain ⟨other, member, there⟩ := ih others
        exact ⟨other, List.mem_cons_of_mem _ member, there⟩
      · cases done

theorem mapM_fails_iff {f : α → Except ε β} {xs : List α} :
    (∃ e, xs.mapM f = .error e) ↔ ∃ x ∈ xs, ∃ e, f x = .error e := by
  constructor
  · rintro ⟨e, failed⟩
    obtain ⟨x, member, failing⟩ := exists_of_mapM_eq_error failed
    exact ⟨x, member, e, failing⟩
  · rintro ⟨x, member, e, failing⟩
    induction xs with
    | nil => cases member
    | cons first rest ih =>
      rw [List.mapM_cons]
      rcases List.mem_cons.mp member with rfl | later
      · exact ⟨e, by rw [failing]; rfl⟩
      · obtain ⟨other, others⟩ := ih later
        cases f first with
        | error here => exact ⟨here, rfl⟩
        | ok y => exact ⟨other, by rw [ok_bind, others]; rfl⟩

theorem exists_mapM {f : α → Except ε β} {xs : List α} (each : ∀ x ∈ xs, ∃ y, f x = .ok y) :
    ∃ ys, xs.mapM f = .ok ys := by
  induction xs with
  | nil => exact ⟨[], rfl⟩
  | cons x rest ih =>
    obtain ⟨y, first⟩ := each x List.mem_cons_self
    obtain ⟨ys, others⟩ := ih fun other member => each other (List.mem_cons_of_mem _ member)
    exact ⟨y :: ys, mapM_eq_ok_iff.mpr (.cons first (mapM_eq_ok_iff.mp others))⟩

theorem mapM_congr {f : α → Except ε β} {xs ys : List α} (alike : List.Forall₂ (fun x y => f x = f y) xs ys) :
    xs.mapM f = ys.mapM f := by
  induction alike with
  | nil => rfl
  | cons first _ ih => rw [List.mapM_cons, List.mapM_cons, first, ih]

theorem mapM_map {f : α → Except ε β} {g : β → γ} {xs : List α} :
    xs.mapM (fun x => (f x).map g) = (xs.mapM f).map (List.map g) := by
  induction xs with
  | nil => rfl
  | cons x rest ih =>
    rw [List.mapM_cons, List.mapM_cons, ih]
    cases f x with
    | error e => rfl
    | ok y => cases rest.mapM f <;> rfl

theorem forall₂_zip {R : α → β → Prop} {S : α → γ → Prop} {xs : List α} {ys : List β} {zs : List γ}
    (first : List.Forall₂ R xs ys) (second : List.Forall₂ S xs zs) :
    List.Forall₂ (fun x pair => R x pair.1 ∧ S x pair.2) xs (ys.zip zs) := by
  induction first generalizing zs with
  | nil =>
    cases second
    exact .nil
  | cons here _ ih =>
    cases second with
    | cons there later => exact .cons ⟨here, there⟩ (ih later)

-- A relation that leaves no choice is a function, and the same one for all lists.
theorem exists_map_of_unique {R : α → α → Prop} (unique : ∀ x y z, R x y → R x z → y = z) :
    ∃ f : α → α, ∀ xs ys, List.Forall₂ R xs ys → ys = xs.map f ∧ ∀ x ∈ xs, R x (f x) := by
  classical
  obtain ⟨f, chosen⟩ : ∃ f : α → α, ∀ x y, R x y → y = f x := by
    refine ⟨fun x => if related : ∃ y, R x y then related.choose else x, fun x y here => ?_⟩
    have related : ∃ y, R x y := ⟨y, here⟩
    dsimp only
    rw [dif_pos related]
    exact unique x y _ here related.choose_spec
  refine ⟨f, fun xs ys each => ?_⟩
  induction each with
  | nil => exact ⟨rfl, by simp⟩
  | cons here _ ih =>
    obtain rfl := chosen _ _ here
    exact ⟨by rw [List.map_cons, ← ih.1], List.forall_mem_cons.mpr ⟨here, ih.2⟩⟩

end TextFeatures
