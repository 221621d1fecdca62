import Mathlib.Data.List.Forall2
import TextFeatures.Proofs.Tagging.Order

namespace TextFeatures.Bilou

theorem position?_tag (position : Position) (label : String) :
    position? (position.tag label) = some position := by
  cases position <;> simp [position?, Position.tag, Position.mark, Position.letter, Position.ofLetter?]

theorem labelOf_tag (position : Position) (label : String) : labelOf (position.tag label) = label := by
  simp only [labelOf, position?_tag]
  simp [Position.tag, Position.mark]

theorem ofLetter?_eq_some (named : Position.ofLetter? letter = some position) : letter = position.letter := by
  unfold Position.ofLetter? at named
  split at named <;> cases named <;> rfl

theorem tag_labelOf (named : position? tag = some position) : position.tag (labelOf tag) = tag := by
  have written := named
  unfold position? at written
  split at written
  · rename_i letter label spelled
    rw [ofLetter?_eq_some written] at spelled
    apply String.toList_inj.mp
    simp [labelOf, named, Position.tag, Position.mark, spelled]
  · cases written

-- The grammar of tags: blocks of one label each, and tags that stand alone.
inductive WellFormed : List String → Prop where
  | nil : WellFormed []
  | single (alone : ∀ label, tag ≠ "B-" ++ label ∧ tag ≠ "I-" ++ label ∧ tag ≠ "L-" ++ label)
      (valid : WellFormed rest) : WellFormed (tag :: rest)
  | block (label : String) (between : Nat) (valid : WellFormed rest) :
      WellFormed (("B-" ++ label) :: (List.replicate between ("I-" ++ label) ++ ("L-" ++ label) :: rest))

structure Span where
  start : Nat
  stop : Nat
  label : String
deriving DecidableEq, Repr

-- Reads spans off tags. In a block, `opened` holds where it starts and what its label is. A block that
-- breaks off, goes on with another label or was never begun cannot be read.
def readFrom (opened : Option (Nat × String)) : List Token → List String → Option (List Span)
  | [], [] => if opened.isNone then some [] else none
  | token :: tokens, tag :: tags =>
    match opened, position? tag with
    | none, none => readFrom none tokens tags
    | none, some .unit =>
      (readFrom none tokens tags).map (⟨token.start, token.stop, labelOf tag⟩ :: ·)
    | none, some .begin => readFrom (some (token.start, labelOf tag)) tokens tags
    | some (start, label), some .inside =>
      if labelOf tag = label then readFrom (some (start, label)) tokens tags else none
    | some (start, label), some .last =>
      if labelOf tag = label then
        (readFrom none tokens tags).map (⟨start, token.stop, label⟩ :: ·)
      else none
    | _, _ => none
  | _, _ => none

def read (tokens : List Token) (tags : List String) : Option (List Span) := readFrom none tokens tags

-- What one tag does where reading stands in a block or in none: where it stands behind the token, and the span that
-- is complete with it.
inductive ReadStep (token : Token) :
    Option (Nat × String) → String → Option (Nat × String) → Option Span → Prop where
  | outside {tag : String} : position? tag = none → ReadStep token none tag none none
  | unit (label : String) :
      ReadStep token none (Position.unit.tag label) none (some ⟨token.start, token.stop, label⟩)
  | begin (label : String) : ReadStep token none (Position.begin.tag label) (some (token.start, label)) none
  | inside (start : Nat) (label : String) :
      ReadStep token (some (start, label)) (Position.inside.tag label) (some (start, label)) none
  | last (start : Nat) (label : String) :
      ReadStep token (some (start, label)) (Position.last.tag label) none (some ⟨start, token.stop, label⟩)

theorem ReadStep.readFrom_eq {opened next : Option (Nat × String)} {complete : Option Span} {tokens : List Token}
    {tags : List String} (step : ReadStep token opened tag next complete) :
    readFrom opened (token :: tokens) (tag :: tags) = (readFrom next tokens tags).map (complete.toList ++ ·) := by
  cases step with
  | outside unnamed => simp [readFrom, unnamed]
  | unit | begin | inside | last => simp [readFrom, position?_tag, labelOf_tag]

theorem exists_readStep {opened : Option (Nat × String)} {tokens : List Token} {tags : List String}
    (readable : readFrom opened (token :: tokens) (tag :: tags) = some spans) :
    ∃ next complete later, ReadStep token opened tag next complete ∧ readFrom next tokens tags = some later := by
  cases named : position? tag with
  | none =>
    cases opened with
    | none => exact ⟨_, _, spans, .outside named, by simpa [readFrom, named] using readable⟩
    | some => simp [readFrom, named] at readable
  | some position =>
    rw [← tag_labelOf named] at readable ⊢
    cases opened with
    | none =>
      cases position <;> simp only [readFrom, position?_tag, labelOf_tag] at readable
      case unit =>
        obtain ⟨later, readLater, _⟩ := Option.map_eq_some_iff.mp readable
        exact ⟨_, _, later, .unit _, readLater⟩
      case begin => exact ⟨_, _, spans, .begin _, readable⟩
      all_goals cases readable
    | some block =>
      obtain ⟨start, label⟩ := block
      cases position <;> simp only [readFrom, position?_tag, labelOf_tag] at readable
      case inside =>
        obtain ⟨rfl, readLater⟩ := Option.ite_none_right_eq_some.mp readable
        exact ⟨_, _, spans, .inside start _, readLater⟩
      case last =>
        obtain ⟨rfl, readMore⟩ := Option.ite_none_right_eq_some.mp readable
        obtain ⟨later, readLater, _⟩ := Option.map_eq_some_iff.mp readMore
        exact ⟨_, _, later, .last start _, readLater⟩
      all_goals cases readable

theorem alone_of_position? (other : position? tag = none ∨ position? tag = some .unit) :
    ∀ label, tag ≠ "B-" ++ label ∧ tag ≠ "I-" ++ label ∧ tag ≠ "L-" ++ label := by
  intro label
  have named (position : Position) (written : tag = position.tag label) : position = .unit := by
    rw [written, position?_tag] at other
    rcases other with absent | unit
    · cases absent
    · exact Option.some.inj unit
  exact ⟨fun written => absurd (named .begin written) (by decide),
    fun written => absurd (named .inside written) (by decide),
    fun written => absurd (named .last written) (by decide)⟩

-- Inside a block, the tags have to finish it first.
def Continues : Option (Nat × String) → List String → Prop
  | none, tags => WellFormed tags
  | some (_, label), tags => ∃ between rest,
    tags = List.replicate between ("I-" ++ label) ++ ("L-" ++ label) :: rest ∧ WellFormed rest

-- The step: a tag that can be read goes on with what is open, if what follows it does.
theorem ReadStep.continues {opened next : Option (Nat × String)} {complete : Option Span} {tags : List String}
    (step : ReadStep token opened tag next complete) (later : Continues next tags) : Continues opened (tag :: tags) := by
  cases step with
  | outside unnamed => exact WellFormed.single (alone_of_position? (.inl unnamed)) later
  | unit label => exact WellFormed.single (alone_of_position? (.inr (position?_tag .unit label))) later
  | begin label =>
    obtain ⟨between, rest, rfl, valid⟩ := later
    exact WellFormed.block label between valid
  | inside start label =>
    obtain ⟨between, rest, rfl, valid⟩ := later
    exact ⟨between + 1, rest, by rw [List.replicate_succ]; rfl, valid⟩
  | last start label => exact ⟨0, tags, rfl, later⟩

theorem readFrom_continues {opened : Option (Nat × String)} {tokens : List Token} {tags : List String}
    (readable : readFrom opened tokens tags = some spans) : Continues opened tags := by
  induction tokens generalizing opened tags spans with
  | nil =>
    cases tags with
    | cons => simp [readFrom] at readable
    | nil =>
      cases opened with
      | none => exact WellFormed.nil
      | some => simp [readFrom] at readable
  | cons token tokens ih =>
    cases tags with
    | nil => simp [readFrom] at readable
    | cons tag tags =>
      obtain ⟨next, complete, later, step, readLater⟩ := exists_readStep readable
      exact step.continues (ih readLater)

-- What the tags of tokens in order come to, entity by entity: the tag of a token depends on no other.
def Described (entities : List Entity) (token : Token) (tag : String) : Prop :=
  (∃ entity ∈ entities, Covers entity token ∧ tag = (placeOf entity token).tag entity.label) ∨
    ((∀ entity ∈ entities, ¬Covers entity token) ∧ position? tag = none)

-- Entities in the order of the text, each of which can be told from the boundaries of the tokens.
structure Laid (tokens : List Token) (entities : List Entity) : Prop where
  proper : ∀ entity ∈ entities, entity.start < entity.stop
  following : entities.Pairwise fun one next => one.stop ≤ next.start
  bounded : ∀ entity ∈ entities, onBoundaries tokens entity = true

variable {token : Token} {tokens : List Token} {entity : Entity} {entities : List Entity}

theorem InOrder.start_le (ordered : InOrder (token :: tokens)) (member : other ∈ token :: tokens) :
    token.start ≤ other.start := by
  have covering := ordered.covering token List.mem_cons_self
  rcases List.mem_cons.mp member with rfl | behind
  · exact Nat.le_refl _
  · have := ordered.later other behind
    omega

theorem InOrder.stop_le (ordered : InOrder (token :: tokens)) (member : other ∈ token :: tokens) :
    token.stop ≤ other.stop := by
  have covering := ordered.covering other member
  rcases List.mem_cons.mp member with rfl | behind
  · exact Nat.le_refl _
  · have := ordered.later other behind
    omega

theorem onBoundaries_tail (ordered : InOrder (token :: tokens)) (proper : entity.start < entity.stop)
    (bounded : onBoundaries (token :: tokens) entity = true) (behind : token.start < entity.start) :
    onBoundaries tokens entity = true := by
  obtain ⟨⟨a, memberA, starts⟩, ⟨b, memberB, stops⟩⟩ := onBoundaries_iff.mp bounded
  have aBehind : a ∈ tokens := by
    rcases List.mem_cons.mp memberA with rfl | later
    · omega
    · exact later
  have bBehind : b ∈ tokens := by
    rcases List.mem_cons.mp memberB with rfl | later
    · have := ordered.later a aBehind
      omega
    · exact later
  exact onBoundaries_iff.mpr ⟨⟨a, aBehind, starts⟩, ⟨b, bBehind, stops⟩⟩

theorem Laid.tail (laid : Laid tokens (entity :: entities)) : Laid tokens entities where
  proper other member := laid.proper other (List.mem_cons_of_mem _ member)
  following := laid.following.of_cons
  bounded other member := laid.bounded other (List.mem_cons_of_mem _ member)

theorem Laid.behind (laid : Laid (token :: tokens) entities) (ordered : InOrder (token :: tokens))
    (behind : ∀ entity ∈ entities, token.start < entity.start) : Laid tokens entities where
  proper := laid.proper
  following := laid.following
  bounded entity member :=
    onBoundaries_tail ordered (laid.proper entity member) (laid.bounded entity member) (behind entity member)

theorem Laid.first_le (laid : Laid (token :: tokens) entities) (ordered : InOrder (token :: tokens))
    (member : entity ∈ entities) : token.start ≤ entity.start ∧ token.stop ≤ entity.stop := by
  obtain ⟨⟨a, memberA, starts⟩, ⟨b, memberB, stops⟩⟩ := onBoundaries_iff.mp (laid.bounded entity member)
  exact ⟨starts ▸ ordered.start_le memberA, stops ▸ ordered.stop_le memberB⟩

-- A block that has begun before the tokens and ends in them, in front of all other entities.
structure Opened (tokens : List Token) (entities : List Entity) (entity : Entity) : Prop where
  begun : ∀ token ∈ tokens, entity.start < token.start
  ends : ∃ token ∈ tokens, token.stop = entity.stop
  ahead : ∀ later ∈ entities, entity.stop ≤ later.start

theorem Opened.tail (opened : Opened (token :: tokens) entities entity) (more : token.stop ≠ entity.stop) :
    Opened tokens entities entity := by
  obtain ⟨final, member, stops⟩ := opened.ends
  refine ⟨fun other behind => opened.begun other (List.mem_cons_of_mem _ behind), ?_, opened.ahead⟩
  rcases List.mem_cons.mp member with rfl | behind
  · exact absurd stops more
  · exact ⟨final, behind, stops⟩

theorem Described.drop (described : Described (entity :: entities) token tag)
    (uncovered : ¬Covers entity token) : Described entities token tag := by
  rcases described with ⟨other, member, covers, tagged⟩ | ⟨free, untagged⟩
  · rcases List.mem_cons.mp member with rfl | behind
    · exact absurd covers uncovered
    · exact .inl ⟨other, behind, covers, tagged⟩
  · exact .inr ⟨fun other behind => free other (List.mem_cons_of_mem _ behind), untagged⟩

theorem described_drop {tags : List String} (ordered : InOrder (token :: tokens))
    (finished : entity.stop ≤ token.stop)
    (described : List.Forall₂ (Described (entity :: entities)) tokens tags) :
    List.Forall₂ (Described entities) tokens tags := by
  have uncovered : ∀ other ∈ tokens, ¬Covers entity other := by
    intro other member covers
    have starts := ordered.later other member
    have covering := ordered.tail.covering other member
    have stops := covers.2
    omega
  clear ordered finished
  induction described with
  | nil => exact .nil
  | cons head _ ih =>
    refine .cons (head.drop (uncovered _ List.mem_cons_self)) (ih ?_)
    exact fun other member => uncovered other (List.mem_cons_of_mem _ member)

def Span.ofEntity (entity : Entity) : Span := ⟨entity.start, entity.stop, entity.label⟩

theorem Opened.tag_eq (block : Opened (token :: tokens) entities entity) (ordered : InOrder (token :: tokens))
    (described : Described (entity :: entities) token tag) :
    tag = (if token.stop = entity.stop then Position.last else Position.inside).tag entity.label := by
  have begun := block.begun token List.mem_cons_self
  have covering := ordered.covering token List.mem_cons_self
  obtain ⟨final, member, stops⟩ := block.ends
  have bound := ordered.stop_le member
  rcases described with ⟨other, among, covers, tagged⟩ | ⟨free, _⟩
  · rcases List.mem_cons.mp among with rfl | later
    · rw [tagged, placeOf, if_neg (by omega)]
    · have beyond := block.ahead other later
      have starts := covers.1
      omega
  · exact absurd ⟨by omega, by omega⟩ (free entity List.mem_cons_self)

-- Outside blocks, an entity that covers the first token is the first entity, and starts there.
theorem Laid.covers_first (laid : Laid (token :: tokens) (next :: entities)) (ordered : InOrder (token :: tokens))
    (among : entity ∈ next :: entities) (covers : Covers entity token) :
    entity = next ∧ token.start = next.start := by
  have covering := ordered.covering token List.mem_cons_self
  have bounds := laid.first_le ordered among
  have starts := covers.1
  rcases List.mem_cons.mp among with rfl | later
  · exact ⟨rfl, by omega⟩
  · have before := List.rel_of_pairwise_cons laid.following later
    have atFront : next ∈ next :: entities := List.mem_cons_self
    have nextBounds := laid.first_le ordered atFront
    omega

theorem Laid.start_lt_of_uncovered (laid : Laid (token :: tokens) entities) (ordered : InOrder (token :: tokens))
    (uncovered : ∀ entity ∈ entities, ¬Covers entity token) : ∀ entity ∈ entities, token.start < entity.start := by
  intro entity member
  have bounds := laid.first_le ordered member
  have free := uncovered entity member
  unfold Covers at free
  omega

theorem Laid.opened (laid : Laid (token :: tokens) (entity :: entities)) (ordered : InOrder (token :: tokens))
    (here : token.start = entity.start) (more : token.stop ≠ entity.stop) : Opened tokens entities entity := by
  obtain ⟨_, final, member, stops⟩ := onBoundaries_iff.mp (laid.bounded entity List.mem_cons_self)
  have covering := ordered.covering token List.mem_cons_self
  refine ⟨?_, ?_, fun later behind => List.rel_of_pairwise_cons laid.following behind⟩
  · intro other behind
    have := ordered.later other behind
    omega
  · rcases List.mem_cons.mp member with rfl | behind
    · exact absurd stops more
    · exact ⟨final, behind, stops⟩

-- What is ahead of a reader: tokens with their tags, and the entities that these are to tell, where the first of them
-- may have begun before.
structure Ahead (opened : Option Entity) (entities : List Entity) (tokens : List Token) (tags : List String) : Prop where
  ordered : InOrder tokens
  laid : Laid tokens entities
  inBlock : ∀ entity ∈ opened, Opened tokens entities entity
  described : List.Forall₂ (Described (opened.toList ++ entities)) tokens tags

def heading (opened : Option Entity) : Option (Nat × String) := opened.map fun entity => (entity.start, entity.label)

-- A step on the way through what is ahead.
inductive Advance (opened : Option Entity) (entities : List Entity) (token : Token) (tokens : List Token) (tag : String)
    (tags : List String) : Prop where
  | to (next : Option Entity) {later : List Entity} {complete : Option Span} :
      ReadStep token (heading opened) tag (heading next) complete →
      complete.toList ++ (next.toList ++ later).map Span.ofEntity = (opened.toList ++ entities).map Span.ofEntity →
      Ahead next later tokens tags → Advance opened entities token tokens tag tags

theorem Ahead.advance_block {tags : List String}
    (ahead : Ahead (some entity) entities (token :: tokens) (tag :: tags)) :
    Advance (some entity) entities token tokens tag tags := by
  obtain ⟨ordered, laid, inBlock, described⟩ := ahead
  cases described with | cons head tail =>
  have block := inBlock entity rfl
  obtain ⟨final, member, stops⟩ := block.ends
  have covering := ordered.covering token List.mem_cons_self
  have bound := ordered.stop_le member
  have laidLater := laid.behind ordered fun later among => by
    have := block.ahead later among
    omega
  rw [block.tag_eq ordered head]
  by_cases finished : token.stop = entity.stop
  · rw [if_pos finished]
    refine .to none (.last entity.start entity.label) ?_
      ⟨ordered.tail, laidLater, by simp, described_drop ordered (Nat.le_of_eq finished.symm) tail⟩
    rw [finished]
    rfl
  · rw [if_neg finished]
    refine .to (some entity) (.inside entity.start entity.label) rfl ⟨ordered.tail, laidLater, ?_, tail⟩
    rintro _ ⟨⟩
    exact block.tail finished

theorem Ahead.advance_outside {tags : List String} (ahead : Ahead none entities (token :: tokens) (tag :: tags)) :
    Advance none entities token tokens tag tags := by
  obtain ⟨ordered, laid, _, described⟩ := ahead
  cases described with | cons head tail =>
  rcases head with ⟨entity, among, covers, rfl⟩ | ⟨uncovered, unnamed⟩
  · cases entities with
    | nil => cases among
    | cons next later =>
      obtain ⟨rfl, here⟩ := laid.covers_first ordered among covers
      have covering := ordered.covering token List.mem_cons_self
      have bounds := laid.first_le ordered among
      have laidLater := laid.tail.behind ordered fun other behind => by
        have before := List.rel_of_pairwise_cons laid.following behind
        omega
      rw [placeOf, if_pos here]
      by_cases finished : token.stop = entity.stop
      · rw [if_pos finished]
        refine .to none (.unit entity.label) ?_
          ⟨ordered.tail, laidLater, by simp, described_drop ordered (Nat.le_of_eq finished.symm) tail⟩
        rw [here, finished]
        rfl
      · rw [if_neg finished]
        have begun : ReadStep token none (Position.begin.tag entity.label) (some (entity.start, entity.label)) none :=
          here ▸ ReadStep.begin entity.label
        refine .to (some entity) begun rfl ⟨ordered.tail, laidLater, ?_, tail⟩
        rintro _ ⟨⟩
        exact laid.opened ordered here finished
  · have laidLater := laid.behind ordered (laid.start_lt_of_uncovered ordered uncovered)
    exact .to none (.outside unnamed) rfl ⟨ordered.tail, laidLater, by simp, tail⟩

-- The first token of what is left settles the next step, so the induction is on tokens; whether they
-- start in a block is what it has to be general in.
theorem Ahead.readFrom_eq {opened : Option Entity} {tags : List String} (ahead : Ahead opened entities tokens tags) :
    readFrom (heading opened) tokens tags = some ((opened.toList ++ entities).map Span.ofEntity) := by
  induction tokens generalizing opened entities tags with
  | nil =>
    obtain ⟨_, laid, inBlock, described⟩ := ahead
    cases described
    have noEntity : entities = [] := by
      cases entities with
      | nil => rfl
      | cons entity _ => simpa [onBoundaries] using laid.bounded entity List.mem_cons_self
    have noBlock : opened = none := by
      cases opened with
      | none => rfl
      | some entity => simpa using (inBlock entity rfl).ends
    simp [noEntity, noBlock, heading, readFrom]
  | cons token tokens ih =>
    cases tags with
    | nil => cases ahead.described
    | cons tag tags =>
      have advance : Advance opened entities token tokens tag tags := by
        cases opened with
        | none => exact ahead.advance_outside
        | some entity => exact ahead.advance_block
      obtain ⟨_, step, spans, aheadLater⟩ := advance
      rw [step.readFrom_eq, ih aheadLater, Option.map_some, spans]

def Apart (a b : Entity) : Prop := a.stop ≤ b.start ∨ b.stop ≤ a.start

theorem Apart.not_covers (apart : Apart entity other) (covering : token.start < token.stop)
    (covers : Covers entity token) : ¬Covers other token := by
  unfold Apart at apart
  unfold Covers at covers ⊢
  omega

theorem InOrder.decides (ordered : InOrder tokens) (proper : ∀ entity ∈ entities, entity.start < entity.stop)
    (apart : entities.Pairwise Apart) (here : tokens[index]? = some token) (member : entity ∈ entities)
    (bounded : onBoundaries tokens entity = true) (covers : Covers entity token) :
    ∃ first last, Decides tokens entities index entity first last := by
  obtain ⟨first, last, aligned⟩ := ordered.aligned bounded
  have reached := (aligned.reaches_iff_covers ordered (proper entity member) here).mpr covers
  obtain ⟨before, after, rfl⟩ := List.append_of_mem member
  refine ⟨first, last, aligned, reached, before, after, rfl, ?_⟩
  intro later behind writes
  have among : later ∈ before ++ entity :: after := by simp [behind]
  have laterCovers := ((ordered.writes_iff (proper later among) here).mp writes).2
  have separate := List.rel_of_pairwise_cons (List.pairwise_append.mp apart).2.1 behind
  exact separate.not_covers (ordered.covers here) covers laterCovers

theorem described_tags (ordered : InOrder tokens) (proper : ∀ entity ∈ entities, entity.start < entity.stop)
    (apart : entities.Pairwise Apart) :
    List.Forall₂ (Described (entities.filter (onBoundaries tokens))) tokens (tags tokens entities) := by
  refine List.forall₂_iff_get.mpr ⟨length_tagsWith.symm, ?_⟩
  intro index bound tagBound
  have here : tokens[index]? = some tokens[index] := List.getElem?_eq_getElem bound
  have there : (tags tokens entities)[index]? = some (tags tokens entities)[index] :=
    List.getElem?_eq_getElem tagBound
  simp only [List.get_eq_getElem]
  by_cases covered : ∃ entity ∈ entities.filter (onBoundaries tokens), Covers entity tokens[index]
  · obtain ⟨entity, among, covers⟩ := covered
    obtain ⟨member, bounded⟩ := List.mem_filter.mp among
    obtain ⟨first, last, decides⟩ := ordered.decides proper apart here member bounded covers
    have position := decides.aligned.positionIn?_eq ordered here decides.reached
    have tagged : (tags tokens entities)[index]? = _ := getElem?_tagsWith_of_decides decides position
    exact .inl ⟨entity, among, covers, Option.some.inj (there.symm.trans tagged)⟩
  · have free : ∀ entity ∈ entities.filter (onBoundaries tokens), ¬Covers entity tokens[index] :=
      fun entity among covers => covered ⟨entity, among, covers⟩
    have unmarked : ∀ entity ∈ entities, ¬Writes tokens entity index := by
      intro entity member writes
      obtain ⟨bounded, covers⟩ := (ordered.writes_iff (proper entity member) here).mp writes
      exact free entity (List.mem_filter.mpr ⟨member, bounded⟩) covers
    have untagged : (tags tokens entities)[index]? = _ := getElem?_tagsWith_of_unmarked here unmarked
    rw [Option.some.inj (there.symm.trans untagged)]
    exact .inr ⟨free, by split <;> decide⟩

theorem Described.congr (same : ∀ entity, entity ∈ entities ↔ entity ∈ others)
    (described : Described entities token tag) : Described others token tag := by
  rcases described with ⟨entity, member, covers, tagged⟩ | ⟨free, untagged⟩
  · exact .inl ⟨entity, (same entity).mp member, covers, tagged⟩
  · exact .inr ⟨fun entity member => free entity ((same entity).mpr member), untagged⟩

theorem exists_laid (proper : ∀ entity ∈ entities, entity.start < entity.stop)
    (apart : entities.Pairwise Apart) :
    ∃ sorted, sorted.Perm (entities.filter (onBoundaries tokens)) ∧ Laid tokens sorted := by
  let before (a b : Entity) : Bool := a.start ≤ b.start
  have perm := List.mergeSort_perm (entities.filter (onBoundaries tokens)) before
  have ascending : ((entities.filter (onBoundaries tokens)).mergeSort before).Pairwise fun a b => before a b :=
    List.pairwise_mergeSort (by simp only [before, decide_eq_true_eq]; omega)
      (by simp only [before, Bool.or_eq_true, decide_eq_true_eq]; omega) _
  have separate := (apart.filter (onBoundaries tokens)).perm perm.symm fun apart => apart.symm
  have member {entity} (among : entity ∈ _) := List.mem_filter.mp (perm.mem_iff.mp among)
  refine ⟨_, perm, ?_, ?_, ?_⟩
  · exact fun entity among => proper entity (member among).1
  · refine (ascending.and separate).imp_of_mem ?_
    intro a b amongA amongB both
    have properA := proper a (member amongA).1
    have properB := proper b (member amongB).1
    have order := of_decide_eq_true both.1
    rcases both.2 with before | after <;> omega
  · exact fun entity among => (member among).2

-- Tags can be read back: they are well formed, and what they tell is, in the order of the text, just
-- the entities that start and stop where tokens do.
theorem read_tags (tokens : List Token) (entities : List Entity) (ordered : InOrder tokens)
    (proper : ∀ entity ∈ entities, entity.start < entity.stop) (apart : entities.Pairwise Apart) :
    WellFormed (tags tokens entities) ∧ ∃ spans, read tokens (tags tokens entities) = some spans ∧
      spans.Pairwise (fun one next => one.stop ≤ next.start) ∧
      spans.Perm ((entities.filter (onBoundaries tokens)).map Span.ofEntity) := by
  obtain ⟨sorted, perm, laid⟩ : ∃ sorted, sorted.Perm (entities.filter (onBoundaries tokens)) ∧ Laid tokens sorted :=
    exists_laid proper apart
  have described := (described_tags ordered proper apart).imp fun _ _ told =>
    told.congr fun entity => perm.symm.mem_iff
  have ahead : Ahead none sorted tokens (tags tokens entities) := ⟨ordered, laid, by simp, described⟩
  have readable : read tokens (tags tokens entities) = some (sorted.map Span.ofEntity) := ahead.readFrom_eq
  refine ⟨readFrom_continues readable, _, readable, ?_, perm.map _⟩
  exact List.pairwise_map.mpr laid.following

def headlineTokens : List Token :=
  [.plain "new" 0 3, .plain "york" 4 8, .plain "times" 8 13, .plain "now" 14 17]

-- Two of them touch, their labels look like tags themselves, and the third starts inside a token.
def headlineEntities : List Entity := [⟨8, 13, "B-", none⟩, ⟨0, 8, "-", none⟩, ⟨15, 17, "x", none⟩]

theorem read_tags_headline :
    (InOrder headlineTokens ∧ (∀ entity ∈ headlineEntities, entity.start < entity.stop) ∧
      headlineEntities.Pairwise Apart) ∧
    WellFormed (tags headlineTokens headlineEntities) ∧
    ∃ spans, read headlineTokens (tags headlineTokens headlineEntities) = some spans ∧
      spans.Pairwise (fun one next => one.stop ≤ next.start) ∧
      spans.Perm [⟨8, 13, "B-"⟩, ⟨0, 8, "-"⟩] := by
  have ordered : InOrder headlineTokens := ⟨by decide, by simp [headlineTokens, Token.plain]⟩
  have proper : ∀ entity ∈ headlineEntities, entity.start < entity.stop := by decide
  have apart : headlineEntities.Pairwise Apart := by simp [headlineEntities, Apart]
  exact ⟨⟨ordered, proper, apart⟩, read_tags headlineTokens headlineEntities ordered proper apart⟩

end TextFeatures.Bilou
