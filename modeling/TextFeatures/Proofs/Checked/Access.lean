import TextFeatures.Error
import TextFeatures.Proofs.Results

namespace TextFeatures

-- What breaks a computation off, so that its caller is told nothing.
inductive Breach where
  | emptyWindow
  | outside
  | belowZero
  | shape
deriving DecidableEq, Repr

inductive Stop where
  | refused (e : Error)
  | broken (breach : Breach)

-- Computations once more, with each access looked at before it is made.
namespace Checked

variable {α : Type} {xs : List α} {start stop : Nat}

def slice (xs : List α) (start stop : Nat) : Except Stop (List α) :=
  if start ≤ stop ∧ stop ≤ xs.length then .ok ((xs.take stop).drop start) else .error (.broken .outside)

def item (xs : List α) (i : Nat) : Except Stop α :=
  match xs[i]? with
  | none => .error (.broken .outside)
  | some x => .ok x

def put (xs : List α) (i : Nat) (x : α) : Except Stop (List α) :=
  if i < xs.length then .ok (xs.set i x) else .error (.broken .outside)

def minus (a b : Nat) : Except Stop Nat := if b ≤ a then .ok (a - b) else .error (.broken .belowZero)

-- What has no accesses to look at.
def told (result : Except Error α) : Except Stop α := result.mapError .refused

theorem slice_eq_ok (ordered : start ≤ stop) (inside : stop ≤ xs.length) :
    slice xs start stop = .ok ((xs.take stop).drop start) := if_pos ⟨ordered, inside⟩

theorem item_eq_ok {x : α} {i : Nat} (there : xs[i]? = some x) : item xs i = .ok x := by
  simp [item, there]

theorem minus_eq_ok {a b : Nat} (most : b ≤ a) : minus a b = .ok (a - b) := if_pos most

@[simp] theorem told_ok {a : α} : told (.ok a) = .ok a := rfl

end Checked

end TextFeatures
