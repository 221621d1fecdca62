import TextFeatures.Json.Decode
import TextFeatures.Proofs.Json.Numbers
import TextFeatures.Proofs.Json.Reading

namespace TextFeatures.Json

variable {α β : Type} {x : Float} {n : Nat} {name : String} {value : Json} {held : List α} {texts : List String}
  {toJson : α → Json} {value? : Json → Option α} {members : List (String × Json)}

theorem mapM_eq_some_of_each {f : α → Option β} {g : α → β} {xs : List α} (each : ∀ x ∈ xs, f x = some (g x)) :
    xs.mapM f = some (xs.map g) := by
  induction xs with
  | nil => rfl
  | cons x rest ih =>
    rw [List.mapM_cons, each x List.mem_cons_self, ih fun x member => each x (List.mem_cons_of_mem _ member)]
    rfl

theorem wellFormed_natural (n : Nat) : (natural n).WellFormed := .number (Numeral.wellFormed_ofNat n)

theorem wellFormed_real (x : Float) : (real x).WellFormed := by
  unfold real
  split
  · exact .number (Numeral.spelling_ofFloat x).wellFormed
  · exact .null

theorem wellFormed_optional {given : Option α} (each : ∀ a, (toJson a).WellFormed) :
    (optional toJson given).WellFormed := by
  cases given with
  | none => exact .null
  | some a => exact each a

theorem wellFormed_list (each : ∀ a ∈ held, (toJson a).WellFormed) : (array (held.map toJson)).WellFormed := by
  refine .array fun item member => ?_
  obtain ⟨a, there, rfl⟩ := List.mem_map.mp member
  exact each a there

theorem wellFormed_texts : (array (texts.map text)).WellFormed := wellFormed_list fun _ _ => .string

theorem wellFormed_record (each : ∀ member ∈ members, member.2.WellFormed) : (record members).WellFormed := by
  refine .object (fun member among => ?_) (fun member among => ?_)
  · obtain ⟨_, _, rfl⟩ := List.mem_map.mp among
    rfl
  · obtain ⟨_, there, rfl⟩ := List.mem_map.mp among
    exact each _ there

theorem text?_text (given : String) : (text given).text? = some given := rfl

theorem natural?_natural (small : n < Numeral.wordLimit) : (natural n).natural? = some n := by
  rw [natural?, natural, Json.number?, Numeral.number?_ofNat small]

theorem list?_list (each : ∀ a ∈ held, value? (toJson a) = some a) :
    (array (held.map toJson)).list? value? = some held := by
  rw [list?, List.mapM_map]
  exact (mapM_eq_some_of_each each).trans (congrArg some (List.map_id held))

theorem list?_texts : (array (texts.map text)).list? text? = some texts := list?_list fun _ _ => rfl

theorem optional?_optional {given : Option α}
    (each : ∀ a ∈ given, toJson a ≠ null ∧ value? (toJson a) = some a) :
    optional? value? (optional toJson given) = some given := by
  cases given with
  | none => rfl
  | some a =>
    obtain ⟨there, read⟩ := each a rfl
    unfold optional? optional
    split
    · rename_i absent
      exact absurd absent there
    · rw [read]
      rfl

-- A double that is printed and read as a number again is the same.
def ReadsBack (x : Float) : Prop := (parse? (real x).render).bind real? = some x

theorem real?_real (readsBack : ReadsBack x) : (real x).real? = some x := by
  rwa [ReadsBack, parse?_render (wellFormed_real x), Option.bind_some] at readsBack

-- It comes back as a double then, for no double is printed like a natural number.
theorem number?_real (finite : x.isFinite = true) (readsBack : ReadsBack x) : (real x).number? = some (.real x) := by
  have printed : real x = number (Numeral.ofFloat x) := if_pos finite
  have back := real?_real readsBack
  rw [printed, real?] at back
  rw [printed]
  cases read : (number (Numeral.ofFloat x)).number? with
  | none =>
    rw [read] at back
    cases back
  | some number =>
    rw [read] at back
    cases number with
    | natural n => exact absurd (Option.some.inj back) ((Numeral.spelling_ofFloat x).ne_of_natural read)
    | real y => rw [Option.some.inj back]

theorem filter_named (distinct : (members.map Prod.fst).Nodup) (among : (name, value) ∈ members) :
    (members.map fun member => (some member.1, member.2)).filter (fun member => member.1 = some name) =
      [(some name, value)] := by
  induction members with
  | nil => cases among
  | cons member rest ih =>
    obtain ⟨other, later⟩ := List.nodup_cons.mp distinct
    rw [List.map_cons]
    rcases List.mem_cons.mp among with rfl | behind
    · have none : (rest.map fun member => (some member.1, member.2)).filter
          (fun member => member.1 = some name) = [] := by
        simp only [List.filter_eq_nil_iff, List.mem_map, decide_eq_true_eq]
        rintro _ ⟨member, there, rfl⟩ same
        exact other (List.mem_map.mpr ⟨member, there, Option.some.inj same⟩)
      rw [List.filter_cons_of_pos (by simp), none]
    · have unlike : member.1 ≠ name := by
        rintro rfl
        exact other (List.mem_map.mpr ⟨_, behind, rfl⟩)
      rw [List.filter_cons_of_neg (by simpa using unlike), ih later behind]

theorem keyed?_record (distinct : (members.map Prod.fst).Nodup) :
    keyed? (members.map Prod.fst) (members.map fun member => (some member.1, member.2)) =
      some (members.map fun member => some member.2) := by
  have named : (members.map fun member => (some member.1, member.2)).all (fun member => member.1.isSome) = true := by
    simp
  rw [keyed?, if_pos named, List.mapM_map]
  refine mapM_eq_some_of_each fun member among => ?_
  rw [Function.comp_apply, filter_named distinct among]

theorem fields?_record (distinct : (members.map Prod.fst).Nodup) :
    (record members).fields? (members.map Prod.fst) = some (members.map fun member => some member.2) :=
  keyed?_record distinct

theorem leadingFields?_record (distinct : (members.map Prod.fst).Nodup) :
    (record members).leadingFields? (members.map Prod.fst) = some (members.map fun member => some member.2) :=
  keyed?_record distinct

end TextFeatures.Json
