import Mathlib.Data.List.Induction
import TextFeatures.Tagging.Bilou

namespace TextFeatures.Bilou

-- Several tokens may start, or stop, at one offset. The last of them is the one that counts.
def LastWhere (accepts : α → Prop) (xs : List α) (index : Nat) : Prop :=
  (∃ x, xs[index]? = some x ∧ accepts x) ∧
    ∀ later x, index < later → xs[later]? = some x → ¬accepts x

theorem LastWhere.lt_length (found : LastWhere accepts xs index) : index < xs.length := by
  obtain ⟨⟨x, here, _⟩, _⟩ := found
  exact (List.getElem?_eq_some_iff.mp here).1

theorem LastWhere.unique (one : LastWhere accepts xs i) (other : LastWhere accepts xs j) : i = j := by
  obtain ⟨⟨x, atI, acceptsX⟩, noneAfterI⟩ := one
  obtain ⟨⟨y, atJ, acceptsY⟩, noneAfterJ⟩ := other
  rcases Nat.lt_trichotomy i j with before | same | after
  · exact absurd acceptsY (noneAfterI j y before atJ)
  · exact same
  · exact absurd acceptsX (noneAfterJ i x after atI)

theorem lastWhere_concat {accepts : α → Prop} :
    LastWhere accepts (xs ++ [x]) index ↔
      (accepts x ∧ index = xs.length) ∨ (¬accepts x ∧ LastWhere accepts xs index) := by
  constructor
  · intro found
    have bound := found.lt_length
    obtain ⟨⟨y, here, accepted⟩, noneAfter⟩ := found
    by_cases final : index = xs.length
    · subst final
      have same : x = y := by simpa using here
      exact .inl ⟨same ▸ accepted, rfl⟩
    · have inner : index < xs.length := by simp at bound; omega
      rw [List.getElem?_append_left inner] at here
      refine .inr ⟨noneAfter xs.length x inner (by simp), ⟨y, here, accepted⟩, ?_⟩
      intro later z after there
      have laterInner := (List.getElem?_eq_some_iff.mp there).1
      exact noneAfter later z after (by rwa [List.getElem?_append_left laterInner])
  · rintro (⟨accepted, rfl⟩ | ⟨refused, ⟨y, here, accepted⟩, noneAfter⟩)
    · refine ⟨⟨x, by simp, accepted⟩, ?_⟩
      intro later z after there
      have bound := (List.getElem?_eq_some_iff.mp there).1
      simp at bound
      omega
    · have inner := (List.getElem?_eq_some_iff.mp here).1
      refine ⟨⟨y, by rwa [List.getElem?_append_left inner], accepted⟩, ?_⟩
      intro later z after there
      by_cases laterInner : later < xs.length
      · rw [List.getElem?_append_left laterInner] at there
        exact noneAfter later z after there
      · have bound := (List.getElem?_eq_some_iff.mp there).1
        have final : later = xs.length := by simp at bound; omega
        subst final
        have same : x = z := by simpa using there
        exact same ▸ refused

theorem lastIndex?_concat (accepts : α → Bool) (xs : List α) (x : α) :
    lastIndex? accepts (xs ++ [x]) = if accepts x then some xs.length else lastIndex? accepts xs := by
  unfold lastIndex?
  rw [List.zipIdx_append, List.filter_append]
  cases accepted : accepts x <;> simp [accepted]

theorem lastIndex?_eq_some_iff {accepts : α → Bool} {xs : List α} :
    lastIndex? accepts xs = some index ↔ LastWhere (accepts · = true) xs index := by
  induction xs using List.reverseRecOn with
  | nil => simp [lastIndex?, LastWhere]
  | append_singleton xs x ih =>
    rw [lastIndex?_concat, lastWhere_concat, ← ih]
    cases accepted : accepts x
    · simp
    · simp [eq_comm]

-- An entity counts for tokens only if one of them starts where it starts and one stops where it stops.
structure Aligned (tokens : List Token) (entity : Entity) (first last : Nat) : Prop where
  starts : LastWhere (fun token => token.start = entity.start) tokens first
  stops : LastWhere (fun token => token.stop = entity.stop) tokens last

-- With the first token behind the last one there is nothing between them, but both are marked.
def Reaches (first last index : Nat) : Prop :=
  index = first ∨ index = last ∨ (first < index ∧ index < last)

def Writes (tokens : List Token) (entity : Entity) (index : Nat) : Prop :=
  ∃ first last, Aligned tokens entity first last ∧ Reaches first last index

def Meets (token : Token) (entity : Entity) : Prop :=
  ∃ position, token.start ≤ position ∧ position < token.stop ∧
    entity.start ≤ position ∧ position < entity.stop

-- The entity that decides on a token: it marks the token, and none after it does.
structure Decides (tokens : List Token) (entities : List Entity) (index : Nat) (entity : Entity)
    (first last : Nat) : Prop where
  aligned : Aligned tokens entity first last
  reached : Reaches first last index
  final : ∃ before after, entities = before ++ entity :: after ∧ ∀ later ∈ after, ¬Writes tokens later index

-- What a token's tag has to be, with no regard to how the tags are arrived at.
inductive TagAt (missing : String) (tokens : List Token) (entities : List Entity) (index : Nat) :
    String → Prop where
  | unit (decides : Decides tokens entities index entity first last) (single : first = last) :
      TagAt missing tokens entities index ("U-" ++ entity.label)
  | begin (decides : Decides tokens entities index entity first last) (several : first ≠ last)
      (here : index = first) : TagAt missing tokens entities index ("B-" ++ entity.label)
  | last (decides : Decides tokens entities index entity first last) (several : first ≠ last)
      (here : index = last) : TagAt missing tokens entities index ("L-" ++ entity.label)
  | inside (decides : Decides tokens entities index entity first last)
      (here : first < index ∧ index < last) : TagAt missing tokens entities index ("I-" ++ entity.label)
  | outside (here : tokens[index]? = some token)
      (unmarked : ∀ entity ∈ entities, ¬Writes tokens entity index)
      (apart : ∀ entity ∈ entities, ¬Meets token entity) : TagAt missing tokens entities index missing
  | unaligned (here : tokens[index]? = some token)
      (unmarked : ∀ entity ∈ entities, ¬Writes tokens entity index)
      (met : entity ∈ entities) (meets : Meets token entity) : TagAt missing tokens entities index "-"

variable {tokens : List Token} {entity : Entity} {entities : List Entity} {found : List Mark}
  {first last index : Nat}

theorem span?_eq_some_iff : span? tokens entity = some (first, last) ↔ Aligned tokens entity first last := by
  have starts := @lastIndex?_eq_some_iff Token first (fun token => token.start = entity.start) tokens
  have stops := @lastIndex?_eq_some_iff Token last (fun token => token.stop = entity.stop) tokens
  simp only [decide_eq_true_eq] at starts stops
  constructor
  · intro found
    simp only [span?, Option.bind_eq_bind, Option.bind_eq_some_iff, Option.pure_def,
      Option.some.injEq, Prod.mk.injEq] at found
    obtain ⟨i, atFirst, j, atLast, rfl, rfl⟩ := found
    exact ⟨starts.mp atFirst, stops.mp atLast⟩
  · intro aligned
    simp [span?, starts.mpr aligned.starts, stops.mpr aligned.stops]

theorem Aligned.unique (one : Aligned tokens entity first last) (other : Aligned tokens entity i j) :
    i = first ∧ j = last :=
  ⟨other.starts.unique one.starts, other.stops.unique one.stops⟩

theorem positionIn?_eq_none_iff : positionIn? first last index = none ↔ ¬Reaches first last index := by
  unfold positionIn? Reaches
  grind

def markFrom? (tokens : List Token) (index : Nat) (entity : Entity) : Option Mark := do
  let (first, last) ← span? tokens entity
  let position ← positionIn? first last index
  return .placed position entity.label

theorem markFrom?_of_aligned (aligned : Aligned tokens entity first last) :
    markFrom? tokens index entity =
      (positionIn? first last index).map (Mark.placed · entity.label) := by
  simp only [markFrom?, span?_eq_some_iff.mpr aligned, Option.bind_eq_bind, Option.bind_some]
  cases positionIn? first last index <;> rfl

theorem markFrom?_eq_none_iff : markFrom? tokens index entity = none ↔ ¬Writes tokens entity index := by
  cases found : span? tokens entity with
  | none =>
    have missed : ¬Writes tokens entity index := by
      rintro ⟨first, last, aligned, _⟩
      rw [span?_eq_some_iff.mpr aligned] at found
      cases found
    simp [markFrom?, found, missed]
  | some span =>
    obtain ⟨first, last⟩ := span
    have aligned := span?_eq_some_iff.mp found
    rw [markFrom?_of_aligned aligned, Option.map_eq_none_iff, positionIn?_eq_none_iff, not_iff_not]
    constructor
    · exact fun reached => ⟨first, last, aligned, reached⟩
    · rintro ⟨i, j, other, reached⟩
      obtain ⟨rfl, rfl⟩ := aligned.unique other
      exact reached

theorem markFrom?_eq_some_iff : markFrom? tokens index entity = some mark ↔
    ∃ first last position, Aligned tokens entity first last ∧
      positionIn? first last index = some position ∧ mark = .placed position entity.label := by
  constructor
  · intro marked
    cases span : span? tokens entity with
    | none => simp [markFrom?, span] at marked
    | some ends =>
      obtain ⟨first, last⟩ := ends
      have aligned := span?_eq_some_iff.mp span
      rw [markFrom?_of_aligned aligned] at marked
      obtain ⟨position, here, rfl⟩ := Option.map_eq_some_iff.mp marked
      exact ⟨first, last, position, aligned, here, rfl⟩
  · rintro ⟨first, last, position, aligned, here, rfl⟩
    simp [markFrom?_of_aligned aligned, here]

theorem getElem?_place :
    (place tokens found entity)[index]? = found[index]?.map (markFrom? tokens index entity).getD := by
  cases span : span? tokens entity with
  | none =>
    simp only [place, markFrom?, span, Option.bind_eq_bind, Option.bind_none]
    cases found[index]? <;> rfl
  | some ends =>
    obtain ⟨first, last⟩ := ends
    rw [markFrom?_of_aligned (span?_eq_some_iff.mp span)]
    simp only [place, span, List.getElem?_mapIdx]
    congr 1
    funext mark
    cases positionIn? first last index <;> rfl

-- The marks of one token can be told alone: of the entities that mark it, the last one counts.
theorem getElem?_foldl_place :
    (entities.foldl (place tokens) found)[index]? =
      found[index]?.map (entities.reverse.findSome? (markFrom? tokens index)).getD := by
  induction entities generalizing found with
  | nil =>
    simp only [List.foldl_nil, List.reverse_nil, List.findSome?_nil]
    cases found[index]? <;> rfl
  | cons entity rest ih =>
    rw [List.foldl_cons, ih, getElem?_place, Option.map_map, List.reverse_cons, List.findSome?_append]
    congr 1
    funext mark
    cases rest.reverse.findSome? (markFrom? tokens index) <;> simp

theorem overlap_iff : overlap token entity = true ↔ Meets token entity := by
  simp only [overlap, decide_eq_true_eq]
  constructor
  · intro common
    exact ⟨max token.start entity.start, by omega⟩
  · rintro ⟨position, _, _, _, _⟩
    omega

theorem any_overlap_iff : entities.any (overlap token) = true ↔ ∃ entity ∈ entities, Meets token entity := by
  simp only [List.any_eq_true, overlap_iff]

theorem settle_placed : settle entities token (.placed position label) = .placed position label := by
  simp [settle]

theorem getElem?_marks : (marks tokens entities)[index]? = tokens[index]?.map fun token =>
    (entities.reverse.findSome? (markFrom? tokens index)).getD
      (if entities.any (overlap token) then .unaligned else .outside) := by
  unfold marks
  rw [List.getElem?_zipWith, getElem?_foldl_place, List.getElem?_replicate]
  cases here : tokens[index]? with
  | none => rfl
  | some token =>
    have bound : index < tokens.length := (List.getElem?_eq_some_iff.mp here).1
    simp only [bound, if_true, Option.map_some]
    cases written : entities.reverse.findSome? (markFrom? tokens index) with
    | none => cases covered : entities.any (overlap token) <;> simp [settle, covered]
    | some mark =>
      obtain ⟨entity, _, marked⟩ := List.exists_of_findSome?_eq_some written
      obtain ⟨_, _, position, _, _, rfl⟩ := markFrom?_eq_some_iff.mp marked
      simp [settle_placed]

theorem findSome?_markFrom?_eq_some_iff :
    entities.reverse.findSome? (markFrom? tokens index) = some mark ↔
      ∃ entity first last position, Decides tokens entities index entity first last ∧
        positionIn? first last index = some position ∧ mark = .placed position entity.label := by
  rw [List.findSome?_eq_some_iff]
  constructor
  · rintro ⟨after, entity, before, split, marked, unmarked⟩
    obtain ⟨first, last, position, aligned, here, rfl⟩ := markFrom?_eq_some_iff.mp marked
    have reached : Reaches first last index := by
      by_contra missed
      rw [positionIn?_eq_none_iff.mpr missed] at here
      cases here
    refine ⟨entity, first, last, position, ⟨aligned, reached, before.reverse, after.reverse, ?_, ?_⟩, here, rfl⟩
    · rw [← List.reverse_reverse entities, split]
      simp
    · intro later behind
      exact markFrom?_eq_none_iff.mp (unmarked later (List.mem_reverse.mp behind))
  · rintro ⟨entity, first, last, position, ⟨aligned, _, before, after, split, unmarked⟩, here, rfl⟩
    refine ⟨after.reverse, entity, before.reverse, by simp [split], ?_, ?_⟩
    · exact markFrom?_eq_some_iff.mpr ⟨first, last, position, aligned, here, rfl⟩
    · intro later behind
      exact markFrom?_eq_none_iff.mpr (unmarked later (List.mem_reverse.mp behind))

theorem findSome?_markFrom?_eq_none_iff : entities.reverse.findSome? (markFrom? tokens index) = none ↔
    ∀ entity ∈ entities, ¬Writes tokens entity index := by
  simp only [List.findSome?_eq_none_iff, List.mem_reverse, markFrom?_eq_none_iff]

theorem Writes.lt_length (writes : Writes tokens entity index) : index < tokens.length := by
  obtain ⟨first, last, aligned, reached⟩ := writes
  have firstBound := aligned.starts.lt_length
  have lastBound := aligned.stops.lt_length
  rcases reached with rfl | rfl | ⟨_, _⟩ <;> omega

theorem Decides.lt_length (decides : Decides tokens entities index entity first last) :
    index < tokens.length :=
  Writes.lt_length ⟨first, last, decides.aligned, decides.reached⟩

theorem getElem?_tagsWith_of_decides (decides : Decides tokens entities index entity first last)
    (here : positionIn? first last index = some position) :
    (tagsWith missing tokens entities)[index]? = some (position.tag entity.label) := by
  obtain ⟨token, there⟩ : ∃ token, tokens[index]? = some token :=
    ⟨_, List.getElem?_eq_getElem decides.lt_length⟩
  have marked := findSome?_markFrom?_eq_some_iff.mpr ⟨entity, first, last, position, decides, here, rfl⟩
  simp [tagsWith, getElem?_marks, there, marked, Mark.tag]

theorem getElem?_tagsWith_of_unmarked (here : tokens[index]? = some token)
    (unmarked : ∀ entity ∈ entities, ¬Writes tokens entity index) :
    (tagsWith missing tokens entities)[index]? =
      some (if entities.any (overlap token) then "-" else missing) := by
  simp only [tagsWith, List.getElem?_map, getElem?_marks, here,
    findSome?_markFrom?_eq_none_iff.mpr unmarked, Option.map_some, Option.getD_none, Option.some.injEq]
  split <;> rfl

theorem TagAt.sound (told : TagAt missing tokens entities index tag) :
    (tagsWith missing tokens entities)[index]? = some tag := by
  cases told with
  | @unit entity first last decides single =>
    have here : index = first := by rcases decides.reached with h | h | h <;> omega
    have place : positionIn? first last index = some .unit := by grind [positionIn?]
    have tagged : (tagsWith missing tokens entities)[index]? = _ := getElem?_tagsWith_of_decides decides place
    exact tagged
  | @begin entity first last decides several here =>
    have place : positionIn? first last index = some .begin := by grind [positionIn?]
    have tagged : (tagsWith missing tokens entities)[index]? = _ := getElem?_tagsWith_of_decides decides place
    exact tagged
  | @last entity first last decides several here =>
    have place : positionIn? first last index = some .last := by grind [positionIn?]
    have tagged : (tagsWith missing tokens entities)[index]? = _ := getElem?_tagsWith_of_decides decides place
    exact tagged
  | @inside entity first last decides here =>
    have place : positionIn? first last index = some .inside := by grind [positionIn?]
    have tagged : (tagsWith missing tokens entities)[index]? = _ := getElem?_tagsWith_of_decides decides place
    exact tagged
  | @outside token here unmarked apart =>
    have uncovered : ¬entities.any (overlap token) = true := by
      rw [any_overlap_iff]
      rintro ⟨entity, member, meets⟩
      exact apart entity member meets
    rw [getElem?_tagsWith_of_unmarked here unmarked, if_neg uncovered]
  | unaligned here unmarked met meets =>
    rw [getElem?_tagsWith_of_unmarked here unmarked, if_pos (any_overlap_iff.mpr ⟨_, met, meets⟩)]

theorem TagAt.complete (here : tokens[index]? = some token) :
    ∃ tag, TagAt missing tokens entities index tag := by
  cases marked : entities.reverse.findSome? (markFrom? tokens index) with
  | some mark =>
    obtain ⟨entity, first, last, _, decides, _⟩ := findSome?_markFrom?_eq_some_iff.mp marked
    by_cases single : first = last
    · exact ⟨_, .unit decides single⟩
    · rcases decides.reached with atFirst | atLast | between
      · exact ⟨_, .begin decides single atFirst⟩
      · exact ⟨_, .last decides single atLast⟩
      · exact ⟨_, .inside decides between⟩
  | none =>
    have unmarked := findSome?_markFrom?_eq_none_iff.mp marked
    by_cases covered : ∃ entity ∈ entities, Meets token entity
    · obtain ⟨entity, member, meets⟩ := covered
      exact ⟨_, .unaligned here unmarked member meets⟩
    · exact ⟨_, .outside here unmarked fun entity member meets => covered ⟨entity, member, meets⟩⟩

theorem length_tagsWith : (tagsWith missing tokens entities).length = tokens.length := by
  have kept (found : List Mark) : (entities.foldl (place tokens) found).length = found.length := by
    induction entities generalizing found with
    | nil => rfl
    | cons entity rest ih =>
      rw [List.foldl_cons, ih]
      unfold place
      split <;> simp
  simp [tagsWith, marks, kept]

-- One tag for each token, and each of them is the one that the entities call for.
theorem tagsWith_exact (missing : String) (tokens : List Token) (entities : List Entity) :
    (tagsWith missing tokens entities).length = tokens.length ∧
      ∀ index tag, (tagsWith missing tokens entities)[index]? = some tag ↔
        TagAt missing tokens entities index tag := by
  refine ⟨length_tagsWith, fun index tag => ⟨?_, TagAt.sound⟩⟩
  intro tagged
  have bound := (List.getElem?_eq_some_iff.mp tagged).1
  rw [length_tagsWith] at bound
  obtain ⟨other, told⟩ : ∃ other, TagAt missing tokens entities index other :=
    TagAt.complete (List.getElem?_eq_getElem bound)
  have same : tag = other := Option.some.inj (tagged.symm.trans told.sound)
  exact same ▸ told

-- the later of two entities decides on the token that both mark
example : tags [.plain "a" 0 1, .plain "b" 2 3] [⟨0, 3, "long", none⟩, ⟨2, 3, "short", none⟩] =
    ["B-long", "U-short"] := by decide

end TextFeatures.Bilou
