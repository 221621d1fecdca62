import Mathlib.Data.List.Chain
import TextFeatures.Proofs.Tagging.Marks

namespace TextFeatures.Bilou

-- Tokens as they come from a text: each covers something, and none starts before the last one stops.
structure InOrder (tokens : List Token) : Prop where
  covering : ∀ token ∈ tokens, token.start < token.stop
  following : tokens.IsChain fun one next => one.stop ≤ next.start

variable {tokens : List Token} {entity : Entity} {first last index i j : Nat}
  {token a b : Token}

theorem InOrder.tail (ordered : InOrder (token :: tokens)) : InOrder tokens :=
  ⟨fun other member => ordered.covering other (List.mem_cons_of_mem _ member), ordered.following.tail⟩

theorem InOrder.later (ordered : InOrder (token :: tokens)) : ∀ other ∈ tokens, token.stop ≤ other.start := by
  induction tokens generalizing token with
  | nil => simp
  | cons next rest ih =>
    have adjacent : token.stop ≤ next.start := ordered.following.rel
    have covering := ordered.tail.covering next List.mem_cons_self
    intro other member
    rcases List.mem_cons.mp member with rfl | behind
    · exact adjacent
    · have beyond := ih ordered.tail other behind
      omega

theorem InOrder.pairwise (ordered : InOrder tokens) : tokens.Pairwise fun one next => one.stop ≤ next.start := by
  induction tokens with
  | nil => exact .nil
  | cons token rest ih => exact .cons ordered.later (ih ordered.tail)

theorem InOrder.stop_le_start (ordered : InOrder tokens) (atA : tokens[i]? = some a)
    (atB : tokens[j]? = some b) (before : i < j) : a.stop ≤ b.start := by
  obtain ⟨_, rfl⟩ := List.getElem?_eq_some_iff.mp atA
  obtain ⟨_, rfl⟩ := List.getElem?_eq_some_iff.mp atB
  exact List.pairwise_iff_getElem.mp ordered.pairwise i j _ _ before

theorem InOrder.covers (ordered : InOrder tokens) (here : tokens[index]? = some token) :
    token.start < token.stop :=
  ordered.covering token (List.mem_of_getElem? here)

theorem InOrder.offsets_lt_iff (ordered : InOrder tokens) (atA : tokens[i]? = some a)
    (atB : tokens[j]? = some b) : (a.start < b.start ↔ i < j) ∧ (a.stop < b.stop ↔ i < j) := by
  have coversA := ordered.covers atA
  have coversB := ordered.covers atB
  rcases Nat.lt_trichotomy i j with before | rfl | after
  · have := ordered.stop_le_start atA atB before
    omega
  · cases Option.some.inj (atA.symm.trans atB)
    omega
  · have := ordered.stop_le_start atB atA after
    omega

theorem InOrder.start_lt_iff (ordered : InOrder tokens) (atA : tokens[i]? = some a)
    (atB : tokens[j]? = some b) : a.start < b.start ↔ i < j := (ordered.offsets_lt_iff atA atB).1
theorem InOrder.stop_lt_iff (ordered : InOrder tokens) (atA : tokens[i]? = some a)
    (atB : tokens[j]? = some b) : a.stop < b.stop ↔ i < j := (ordered.offsets_lt_iff atA atB).2

theorem InOrder.lastWhere_start (ordered : InOrder tokens) (here : tokens[index]? = some token) :
    LastWhere (fun other => other.start = token.start) tokens index := by
  refine ⟨⟨token, here, rfl⟩, ?_⟩
  intro later other after there same
  have := (ordered.start_lt_iff here there).mpr after
  omega

theorem InOrder.lastWhere_stop (ordered : InOrder tokens) (here : tokens[index]? = some token) :
    LastWhere (fun other => other.stop = token.stop) tokens index := by
  refine ⟨⟨token, here, rfl⟩, ?_⟩
  intro later other after there same
  have := (ordered.stop_lt_iff here there).mpr after
  omega

def onBoundaries (tokens : List Token) (entity : Entity) : Bool :=
  tokens.any (fun token => token.start = entity.start) && tokens.any (fun token => token.stop = entity.stop)

theorem onBoundaries_iff : onBoundaries tokens entity = true ↔
    (∃ token ∈ tokens, token.start = entity.start) ∧ ∃ token ∈ tokens, token.stop = entity.stop := by
  simp [onBoundaries]

theorem Aligned.onBoundaries (aligned : Aligned tokens entity first last) : onBoundaries tokens entity = true := by
  obtain ⟨⟨⟨a, atA, starts⟩, _⟩, ⟨⟨b, atB, stops⟩, _⟩⟩ := aligned
  exact onBoundaries_iff.mpr
    ⟨⟨a, List.mem_of_getElem? atA, starts⟩, ⟨b, List.mem_of_getElem? atB, stops⟩⟩

theorem InOrder.aligned (ordered : InOrder tokens) (bounded : Bilou.onBoundaries tokens entity = true) :
    ∃ first last, Aligned tokens entity first last := by
  obtain ⟨⟨a, memberA, starts⟩, ⟨b, memberB, stops⟩⟩ := onBoundaries_iff.mp bounded
  obtain ⟨first, atA⟩ := List.getElem?_of_mem memberA
  obtain ⟨last, atB⟩ := List.getElem?_of_mem memberB
  exact ⟨first, last, starts ▸ ordered.lastWhere_start atA, stops ▸ ordered.lastWhere_stop atB⟩

theorem Aligned.eq_first_iff (aligned : Aligned tokens entity first last) (ordered : InOrder tokens)
    (here : tokens[index]? = some token) : index = first ↔ token.start = entity.start := by
  obtain ⟨⟨a, atA, starts⟩, _⟩ := aligned.starts
  have before := ordered.start_lt_iff here atA
  have after := ordered.start_lt_iff atA here
  omega

theorem Aligned.eq_last_iff (aligned : Aligned tokens entity first last) (ordered : InOrder tokens)
    (here : tokens[index]? = some token) : index = last ↔ token.stop = entity.stop := by
  obtain ⟨⟨b, atB, stops⟩, _⟩ := aligned.stops
  have before := ordered.stop_lt_iff here atB
  have after := ordered.stop_lt_iff atB here
  omega

theorem Aligned.first_lt_iff (aligned : Aligned tokens entity first last) (ordered : InOrder tokens)
    (here : tokens[index]? = some token) : first < index ↔ entity.start < token.start := by
  obtain ⟨⟨a, atA, starts⟩, _⟩ := aligned.starts
  rw [← ordered.start_lt_iff atA here, starts]

theorem Aligned.lt_last_iff (aligned : Aligned tokens entity first last) (ordered : InOrder tokens)
    (here : tokens[index]? = some token) : index < last ↔ token.stop < entity.stop := by
  obtain ⟨⟨b, atB, stops⟩, _⟩ := aligned.stops
  rw [← ordered.stop_lt_iff here atB, stops]

theorem Aligned.first_le_last (aligned : Aligned tokens entity first last) (ordered : InOrder tokens)
    (proper : entity.start < entity.stop) : first ≤ last := by
  obtain ⟨⟨a, atA, starts⟩, _⟩ := aligned.starts
  obtain ⟨⟨b, atB, stops⟩, _⟩ := aligned.stops
  by_contra reversed
  have := ordered.stop_le_start atB atA (by omega)
  omega

def Covers (entity : Entity) (token : Token) : Prop :=
  entity.start ≤ token.start ∧ token.stop ≤ entity.stop

theorem Aligned.reaches_iff_covers (aligned : Aligned tokens entity first last) (ordered : InOrder tokens)
    (proper : entity.start < entity.stop) (here : tokens[index]? = some token) :
    Reaches first last index ↔ Covers entity token := by
  have order := aligned.first_le_last ordered proper
  have atFirst := aligned.eq_first_iff ordered here
  have atLast := aligned.eq_last_iff ordered here
  have afterFirst := aligned.first_lt_iff ordered here
  have beforeLast := aligned.lt_last_iff ordered here
  unfold Reaches Covers
  omega

theorem InOrder.writes_iff (ordered : InOrder tokens) (proper : entity.start < entity.stop)
    (here : tokens[index]? = some token) :
    Writes tokens entity index ↔ onBoundaries tokens entity = true ∧ Covers entity token := by
  constructor
  · rintro ⟨first, last, aligned, reached⟩
    exact ⟨aligned.onBoundaries, (aligned.reaches_iff_covers ordered proper here).mp reached⟩
  · rintro ⟨bounded, covers⟩
    obtain ⟨first, last, aligned⟩ := ordered.aligned bounded
    exact ⟨first, last, aligned, (aligned.reaches_iff_covers ordered proper here).mpr covers⟩

def placeOf (entity : Entity) (token : Token) : Position :=
  if token.start = entity.start then if token.stop = entity.stop then .unit else .begin
  else if token.stop = entity.stop then .last else .inside

theorem Aligned.positionIn?_eq (aligned : Aligned tokens entity first last) (ordered : InOrder tokens)
    (here : tokens[index]? = some token) (reached : Reaches first last index) :
    positionIn? first last index = some (placeOf entity token) := by
  have atFirst := aligned.eq_first_iff ordered here
  have atLast := aligned.eq_last_iff ordered here
  unfold Reaches at reached
  unfold positionIn? placeOf
  grind

end TextFeatures.Bilou
