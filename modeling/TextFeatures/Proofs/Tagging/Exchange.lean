import TextFeatures.Proofs.Tagging.Decoding

namespace TextFeatures.Bilou

variable {tokens : List Token} {a b : Entity} {entities others before after : List Entity} {found : List Mark}
  {index : Nat}

-- Entities that share no character share no token either: an entity writes on those tokens only that it covers.
theorem Apart.not_writes (apart : Apart a b) (ordered : InOrder tokens) (properA : a.start < a.stop)
    (properB : b.start < b.stop) (writes : Writes tokens a index) : ¬Writes tokens b index := by
  intro writesToo
  obtain ⟨token, here⟩ : ∃ token, tokens[index]? = some token := ⟨_, List.getElem?_eq_getElem writes.lt_length⟩
  obtain ⟨_, covers⟩ := (ordered.writes_iff properA here).mp writes
  obtain ⟨_, coversToo⟩ := (ordered.writes_iff properB here).mp writesToo
  exact apart.not_covers (ordered.covers here) covers coversToo

-- The step: whatever has been marked before, two disjoint entities may be placed in either order.
theorem place_comm (apart : Apart a b) (ordered : InOrder tokens) (properA : a.start < a.stop)
    (properB : b.start < b.stop) : place tokens (place tokens found a) b = place tokens (place tokens found b) a := by
  refine List.ext_getElem? fun index => ?_
  have spared : markFrom? tokens index a = none ∨ markFrom? tokens index b = none := by
    rw [markFrom?_eq_none_iff, markFrom?_eq_none_iff]
    by_cases writes : Writes tokens a index
    · exact .inr (apart.not_writes ordered properA properB writes)
    · exact .inl writes
  simp only [getElem?_place, Option.map_map]
  congr 1
  funext mark
  rcases spared with unmarked | unmarked <;> simp [unmarked]

theorem settle_perm (shuffled : entities.Perm others) : settle entities = settle others := by
  funext token mark
  rw [settle, settle, shuffled.any_eq]

-- What comes before the two entities and after them is arbitrary: it may write on their tokens as well.
theorem marks_exchange (apart : Apart a b) (ordered : InOrder tokens) (properA : a.start < a.stop)
    (properB : b.start < b.stop) :
    marks tokens (before ++ a :: b :: after) = marks tokens (before ++ b :: a :: after) := by
  have shuffled : (before ++ a :: b :: after).Perm (before ++ b :: a :: after) :=
    (List.Perm.swap b a after).append_left _
  simp only [marks, settle_perm shuffled, List.foldl_append, List.foldl_cons, place_comm apart ordered properA properB]

-- Neighbours that are disjoint may change places, in whatever list of entities they stand.
theorem tagsWith_exchange (missing : String) (before after : List Entity) (ordered : InOrder tokens)
    (properA : a.start < a.stop) (properB : b.start < b.stop) (apart : Apart a b) :
    tagsWith missing tokens (before ++ a :: b :: after) = tagsWith missing tokens (before ++ b :: a :: after) := by
  rw [tagsWith, tagsWith, marks_exchange apart ordered properA properB]

def city : Entity := ⟨0, 8, "city", none⟩

def paper : Entity := ⟨8, 13, "paper", none⟩

-- An entity before the two is turned around and writes on the first and the last token, and one behind them goes over
-- the boundary between them.
theorem headline_exchange :
    (InOrder headlineTokens ∧ city.start < city.stop ∧ paper.start < paper.stop ∧ Apart city paper) ∧
    tagsWith "?" headlineTokens ([⟨14, 3, "turned", none⟩] ++ city :: paper :: [⟨4, 13, "over", none⟩]) =
      ["B-city", "B-over", "L-over", "B-turned"] ∧
    tagsWith "?" headlineTokens ([⟨14, 3, "turned", none⟩] ++ paper :: city :: [⟨4, 13, "over", none⟩]) =
      ["B-city", "B-over", "L-over", "B-turned"] := by
  have ordered : InOrder headlineTokens := ⟨by decide, by simp [headlineTokens, Token.plain]⟩
  have properCity : city.start < city.stop := by decide
  have properPaper : paper.start < paper.stop := by decide
  have apart : Apart city paper := .inl (Nat.le_refl 8)
  refine ⟨⟨ordered, properCity, properPaper, apart⟩, by decide, ?_⟩
  rw [← tagsWith_exchange "?" [⟨14, 3, "turned", none⟩] [⟨4, 13, "over", none⟩] ordered properCity properPaper apart]
  decide

end TextFeatures.Bilou
