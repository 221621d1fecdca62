import TextFeatures.Proofs.Tagging.Decoding

namespace TextFeatures.Bilou

variable {token : Token} {tokens : List Token} {entity : Entity} {entities : List Entity} {first last index : Nat}
  {tag : String}

-- What tags are to tell: one that names a position is given inside an entity only, and a token that shares no
-- character with any entity is outside.
structure Contained (tokens : List Token) (entities : List Entity) : Prop where
  inside : ∀ (index : Nat) token tag, tokens[index]? = some token → (tags tokens entities)[index]? = some tag →
    (position? tag).isSome = true → ∃ entity ∈ entities, Covers entity token
  apart : ∀ (index : Nat) token, tokens[index]? = some token → (∀ entity ∈ entities, ¬Meets token entity) →
    (tags tokens entities)[index]? = some "O"

-- A token that no entity covers, and that an entity without characters decides on. Its two offsets are looked for one
-- by one, and so it is taken for an entity of several tokens, the last of which stands before the first.
def Strays (tokens : List Token) (entities : List Entity) (index : Nat) : Prop :=
  ∃ token entity first last, tokens[index]? = some token ∧ Decides tokens entities index entity first last ∧
    entity.stop ≤ entity.start ∧ ∀ other ∈ entities, ¬Covers other token

theorem Decides.mem (decides : Decides tokens entities index entity first last) : entity ∈ entities := by
  obtain ⟨before, after, rfl, _⟩ := decides.final
  exact List.mem_append_right before List.mem_cons_self

theorem Decides.covers (decides : Decides tokens entities index entity first last) (ordered : InOrder tokens)
    (proper : entity.start < entity.stop) (here : tokens[index]? = some token) : Covers entity token :=
  (decides.aligned.reaches_iff_covers ordered proper here).mp decides.reached

theorem Covers.meets (covers : Covers entity token) (covering : token.start < token.stop) : Meets token entity :=
  ⟨token.start, Nat.le_refl _, covering, covers.1, Nat.lt_of_lt_of_le covering covers.2⟩

theorem Decides.exists_tag (decides : Decides tokens entities index entity first last) :
    ∃ tag, (tags tokens entities)[index]? = some tag ∧ (position? tag).isSome = true := by
  obtain ⟨position, here⟩ : ∃ position, positionIn? first last index = some position := by
    refine Option.ne_none_iff_exists'.mp fun missed => ?_
    exact positionIn?_eq_none_iff.mp missed decides.reached
  exact ⟨_, getElem?_tagsWith_of_decides decides here, by rw [position?_tag]; rfl⟩

theorem exists_decides (tagged : (tags tokens entities)[index]? = some tag) (named : (position? tag).isSome = true) :
    ∃ entity first last, Decides tokens entities index entity first last := by
  obtain ⟨token, here⟩ : ∃ token, tokens[index]? = some token := by
    have bound := (List.getElem?_eq_some_iff.mp tagged).1
    rw [tags, length_tagsWith] at bound
    exact ⟨_, List.getElem?_eq_getElem bound⟩
  obtain ⟨other, told⟩ : ∃ other, TagAt outsideTag tokens entities index other := TagAt.complete here
  obtain rfl : tag = other := Option.some.inj (tagged.symm.trans told.sound)
  cases told with
  | unit decides | begin decides | last decides | inside decides => exact ⟨_, _, _, decides⟩
  | outside | unaligned => cases named

-- Tags tell what they are to tell, unless some token strays.
theorem contained_iff_none_strays (ordered : InOrder tokens) :
    Contained tokens entities ↔ ∀ index, ¬Strays tokens entities index := by
  constructor
  · rintro contained index ⟨token, entity, first, last, here, decides, _, uncovered⟩
    obtain ⟨tag, tagged, named⟩ := decides.exists_tag
    obtain ⟨other, member, covers⟩ := contained.inside index token tag here tagged named
    exact uncovered other member covers
  · intro kept
    have covered {index token entity first last} (here : tokens[index]? = some token)
        (decides : Decides tokens entities index entity first last) : ∃ other ∈ entities, Covers other token := by
      by_cases proper : entity.start < entity.stop
      · exact ⟨entity, decides.mem, decides.covers ordered proper here⟩
      · by_contra uncovered
        refine kept index ⟨token, entity, first, last, here, decides, Nat.not_lt.mp proper, ?_⟩
        exact fun other member covers => uncovered ⟨other, member, covers⟩
    constructor
    · intro index token tag here tagged named
      obtain ⟨entity, first, last, decides⟩ := exists_decides tagged named
      exact covered here decides
    · intro index token here apart
      obtain ⟨tag, told⟩ : ∃ tag, TagAt outsideTag tokens entities index tag := TagAt.complete here
      have tagged : (tags tokens entities)[index]? = some tag := told.sound
      cases told with
      | outside => exact tagged
      | unaligned there _ met meets =>
        cases there.symm.trans here
        exact absurd meets (apart _ met)
      | unit decides | begin decides | last decides | inside decides =>
        obtain ⟨other, member, covers⟩ := covered here decides
        exact absurd (covers.meets (ordered.covers here)) (apart other member)

-- An entity that is turned around decides on both tokens. They do not stray, for the other entity covers them, though
-- it marks neither.
def apartTokens : List Token := [.plain "a" 0 1, .plain "b" 2 3]

def turnedEntities : List Entity := [⟨2, 1, "x", none⟩, ⟨0, 4, "y", none⟩]

theorem turnedEntities_contained :
    InOrder apartTokens ∧ Contained apartTokens turnedEntities ∧ tags apartTokens turnedEntities = ["L-x", "B-x"] := by
  have ordered : InOrder apartTokens := ⟨by decide, by decide⟩
  refine ⟨ordered, (contained_iff_none_strays ordered).mpr ?_, by decide⟩
  rintro index ⟨token, entity, first, last, here, _, _, uncovered⟩
  have inside : ∀ token ∈ apartTokens, 0 ≤ token.start ∧ token.stop ≤ 4 := by decide
  exact uncovered ⟨0, 4, "y", none⟩ (by decide) (inside token (List.mem_of_getElem? here))

-- Two tokens with nothing between them are marked for an entity without characters that stands where they meet.
theorem emptyEntity_strays :
    InOrder [.plain "a" 0 1, .plain "b" 1 2] ∧
      tags [.plain "a" 0 1, .plain "b" 1 2] [⟨1, 1, "x", none⟩] = ["L-x", "B-x"] ∧
      (∀ token ∈ [Token.plain "a" 0 1, .plain "b" 1 2], ¬Meets token ⟨1, 1, "x", none⟩) ∧
      ¬Contained [.plain "a" 0 1, .plain "b" 1 2] [⟨1, 1, "x", none⟩] := by
  have tagged : tags [.plain "a" 0 1, .plain "b" 1 2] [⟨1, 1, "x", none⟩] = ["L-x", "B-x"] := by decide
  have apart (token : Token) : ¬Meets token ⟨1, 1, "x", none⟩ := by
    rintro ⟨position, _, _, behind, before⟩
    exact absurd before (Nat.not_lt.mpr behind)
  refine ⟨⟨by decide, by decide⟩, tagged, fun token _ => apart token, fun contained => ?_⟩
  have outside := contained.apart 0 (.plain "a" 0 1) rfl fun entity member => List.mem_singleton.mp member ▸ apart _
  rw [tagged] at outside
  exact absurd outside (by decide)

end TextFeatures.Bilou
