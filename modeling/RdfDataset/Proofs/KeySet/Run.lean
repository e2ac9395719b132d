import RdfDataset.Proofs.Index.Listing

/-!
# Runs of a key set

Keys are handed to a key set one after the other. It refuses exactly those that have the id of the
default graph in another position than the graph's, and stays as it is; the others become its keys.
Whatever it is asked it answers from the finite set of the keys that it has taken, so that neither
their order nor repetitions leave a trace.
-/

set_option autoImplicit false

namespace RdfDataset

namespace Key

def atPosition (key : Key) : Position → ObjectId
  | .graph => key.graph
  | .subject => key.subject
  | .predicate => key.predicate
  | .object => key.object

/-- The ids of a key with the graph first, to be compared from left to right. -/
def graphFirst (key : Key) : List ObjectId := [key.graph, key.subject, key.predicate, key.object]

/-- No position but the graph's has the id of the default graph. -/
def Placed (key : Key) : Prop :=
  key.subject ≠ ObjectId.defaultGraph ∧ key.predicate ≠ ObjectId.defaultGraph ∧
    key.object ≠ ObjectId.defaultGraph

instance (key : Key) : Decidable key.Placed :=
  inferInstanceAs (Decidable (_ ∧ _ ∧ _))

end Key

namespace KeySet

variable {keys other : KeySet} {held : Finset Key}

/-! ## Refusals -/

theorem misplaced?_eq_find? (key : Key) : misplaced? key =
    [Position.subject, .predicate, .object].find? fun position =>
      (key.atPosition position).isDefaultGraph := by
  cases subject : key.subject.isDefaultGraph <;> cases predicate : key.predicate.isDefaultGraph <;>
    cases object : key.object.isDefaultGraph <;>
      simp [misplaced?, Key.atPosition, subject, predicate, object]

theorem misplaced?_eq_none_iff (key : Key) : misplaced? key = none ↔ key.Placed := by
  rw [misplaced?_eq_find?, Key.Placed, List.find?_eq_none]
  simp [Key.atPosition, ObjectId.isDefaultGraph]

/-- What comes of handing over a key: if it is not placed, the first position in question is named
and nothing changes. -/
structure Decides (keys : KeySet) (key : Key) : Prop where
  fails_iff : (∃ error, (keys.index key).1 = .error error) ↔ ¬ key.Placed
  names : ∀ error, (keys.index key).1 = .error error → ∃ position,
    [Position.subject, .predicate, .object].find?
      (fun position => key.atPosition position == ObjectId.defaultGraph) = some position ∧
    error = .corruption ("The default graph id cannot be used as " ++ position.render ++
      " of the key " ++ key.render)
  unchanged : ∀ error, (keys.index key).1 = .error error → (keys.index key).2 = keys

theorem decides (keys : KeySet) (key : Key) : keys.Decides key := by
  cases place : misplaced? key with
  | none =>
      have accepted : (keys.index key).1 = .ok () := by
        rw [index, place]
      have never : ∀ error, (keys.index key).1 ≠ .error error := by
        intro error failed
        rw [accepted] at failed
        cases failed
      refine ⟨⟨?_, ?_⟩, fun error failed => absurd failed (never error),
        fun error failed => absurd failed (never error)⟩
      · rintro ⟨error, failed⟩
        exact absurd failed (never error)
      · intro misplaced
        exact absurd ((misplaced?_eq_none_iff key).mp place) misplaced
  | some position =>
      have refused : keys.index key =
          (.error (.corruption (misplacedMessage position key)), keys) := by
        rw [index, place]
      have misplaced : ¬ key.Placed := by
        rw [← misplaced?_eq_none_iff, place]
        exact Option.some_ne_none position
      rw [misplaced?_eq_find?] at place
      constructor
      · rw [refused]
        exact ⟨fun _ => misplaced, fun _ => ⟨_, rfl⟩⟩
      · rw [refused]
        rintro error ⟨⟩
        exact ⟨position, place, rfl⟩
      · rw [refused]
        exact fun _ _ => rfl

/-! ## What a key set shows -/

/-- All answers come from a finite set of keys. -/
structure Shows (keys : KeySet) (held : Finset Key) : Prop where
  mem_toList : ∀ key, key ∈ keys.toList ↔ key ∈ held
  ascending : keys.toList.Pairwise fun a b => a.graphFirst < b.graphFirst
  contains_iff : ∀ key, keys.contains key = true ↔ key ∈ held
  size_eq : keys.size = held.card
  isEmpty_iff : keys.isEmpty = true ↔ held = ∅
  graphs : ∀ id, id ∈ keys.namedGraphs ↔
    id ≠ ObjectId.defaultGraph ∧ ∃ key ∈ held, key.graph = id
  graphs_ascending : keys.namedGraphs.Pairwise (· < ·)

theorem Holds.shows (holds : keys.Holds held) (names : keys.indexes.Names held) :
    keys.Shows held where
  mem_toList _ := holds.mem_toList
  ascending := Index.Synced.Holds.keys_ascending holds
  contains_iff := holds.contains_iff
  size_eq := holds.size_eq
  isEmpty_iff := by
    have size : keys.indexes.size = held.card := holds.size_eq
    rw [isEmpty, Index.Synced.isEmpty, size, beq_iff_eq, Finset.card_eq_zero]
  graphs _ := names.mem_namedGraphs
  graphs_ascending := keys.indexes.namedGraphs_ascending

/-! ## Runs -/

def after (calls : List Key) : KeySet := calls.foldl (fun keys key => (keys.index key).2) empty

/-- The keys that are not refused. -/
def accepted (calls : List Key) : Finset Key := (calls.filter fun key => key.Placed).toFinset

theorem after_concat (calls : List Key) (key : Key) :
    after (calls ++ [key]) = ((after calls).index key).2 := by
  rw [after, List.foldl_append]
  rfl

theorem accepted_concat (calls : List Key) (key : Key) :
    accepted (calls ++ [key]) =
      if key.Placed then insert key (accepted calls) else accepted calls := by
  ext other
  by_cases placed : key.Placed <;> simp [accepted, placed]

theorem after_holds (calls : List Key) :
    (after calls).Holds (accepted calls) ∧ (after calls).indexes.Names (accepted calls) := by
  induction calls using List.reverseRecOn with
  | nil => exact ⟨holds_empty, Index.Synced.names_empty _⟩
  | append_singleton calls key ih =>
      obtain ⟨holds, names⟩ := ih
      rw [after_concat, accepted_concat]
      by_cases placed : key.Placed
      · have place := (misplaced?_eq_none_iff key).mpr placed
        rw [if_pos placed]
        refine ⟨(holds.index place).2, ?_⟩
        rw [index, place]
        exact names.insert key
      · obtain ⟨error, failed⟩ := (decides (after calls) key).fails_iff.mpr placed
        rw [if_neg placed, (decides (after calls) key).unchanged error failed]
        exact ⟨holds, names⟩

theorem after_eq_of_accepted {calls others : List Key} (same : accepted others = accepted calls) :
    after others = after calls := by
  obtain ⟨holds, names⟩ := after_holds calls
  obtain ⟨holds', names'⟩ := after_holds others
  rw [same] at holds' names'
  exact congrArg KeySet.mk (Index.Synced.Holds.eq holds' holds names' names)

/-- A key set that has been handed some keys is the finite set of those that are placed, whatever
their order and however often they came; every key is decided by its own ids alone. -/
theorem after_shows_accepted (calls : List Key) :
    (after calls).Shows (accepted calls) ∧ (∀ key, (after calls).Decides key) ∧
      ∀ others, accepted others = accepted calls → after others = after calls := by
  obtain ⟨holds, names⟩ := after_holds calls
  exact ⟨holds.shows names, decides (after calls), fun _ same => after_eq_of_accepted same⟩

end KeySet

end RdfDataset
