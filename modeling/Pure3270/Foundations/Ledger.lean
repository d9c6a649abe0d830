import Mathlib.Data.List.Nodup
import Mathlib.Data.List.Perm.Subperm
import Pure3270.Foundations.Shelves

/-!
# Tables and ledgers

A table holds at most one value under a key.  A ledger lists what was entered,
with a key for each entry, and may list a key twice.  A table represents a
ledger where nothing is listed twice and both have the same entries.
-/

namespace Foundations

variable {κ ν : Type}

/-- The table has exactly the entries of the ledger, and these have keys of their
own. -/
structure Represents (table : κ → Option ν) (ledger : List (κ × ν)) : Prop where
  distinct : (ledger.map Prod.fst).Nodup
  entry : ∀ key value, table key = some value ↔ (key, value) ∈ ledger

namespace Represents

theorem empty : Represents (fun _ : κ => (none : Option ν)) [] where
  distinct := List.nodup_nil
  entry key value := by
    constructor
    · intro found
      cases found
    · intro listed
      cases listed

variable {table : κ → Option ν} {ledger : List (κ × ν)}

theorem none_of_not_listed (represents : Represents table ledger) {key : κ}
    (fresh : key ∉ ledger.map Prod.fst) : table key = none := by
  cases found : table key with
  | none => rfl
  | some value =>
      have listed := (represents.entry key value).mp found
      exact absurd (List.mem_map_of_mem listed) fresh

theorem some_of_listed (represents : Represents table ledger) {key : κ}
    (listed : key ∈ ledger.map Prod.fst) : ∃ value, table key = some value := by
  obtain ⟨⟨other, value⟩, member, rfl⟩ := List.mem_map.mp listed
  exact ⟨value, (represents.entry other value).mpr member⟩

end Represents

variable [DecidableEq κ]

/-- The table of the entries of a dictionary. -/
def tableOf (entries : List (κ × ν)) : κ → Option ν := fun key => entries.lookup key

theorem mem_of_tableOf {entries : List (κ × ν)} {key : κ} {value : ν}
    (found : tableOf entries key = some value) : (key, value) ∈ entries := by
  obtain ⟨front, back, split, _⟩ := List.lookup_eq_some_iff.mp found
  rw [split]
  exact List.mem_append_right front List.mem_cons_self

/-- A value is put under a key, whatever is there. -/
def putEntry (key : κ) (value : ν) (table : κ → Option ν) : κ → Option ν :=
  fun other => if other = key then some value else table other

/-- The value under a key is replaced or taken out. -/
def alterEntry (key : κ) (f : ν → Option ν) (table : κ → Option ν) : κ → Option ν :=
  fun other => if other = key then (table key).bind f else table other

/-- The same in the ledger, for every entry with the key. -/
def alterListed (key : κ) (f : ν → Option ν) (ledger : List (κ × ν)) :
    List (κ × ν) :=
  ledger.filterMap fun entry =>
    if entry.1 = key then (f entry.2).map (entry.1, ·) else some entry

theorem alterEntry_of_none {table : κ → Option ν} {key : κ} {f : ν → Option ν}
    (free : table key = none) : alterEntry key f table = table := by
  funext other
  unfold alterEntry
  by_cases same : other = key
  · rw [if_pos same, same, free]
    rfl
  · rw [if_neg same]

theorem alterEntry_of_some {table : κ → Option ν} {key : κ} {f : ν → Option ν}
    {value : ν} (found : table key = some value) :
    alterEntry key f table =
      fun other => if other = key then f value else table other := by
  funext other
  unfold alterEntry
  rw [found]
  rfl

namespace Represents

variable {table : κ → Option ν} {ledger : List (κ × ν)}

theorem put_iff (represents : Represents table ledger) (key : κ) (value : ν) :
    Represents (putEntry key value table) (ledger ++ [(key, value)]) ↔
      key ∉ ledger.map Prod.fst := by
  constructor
  · intro after listed
    have distinct := after.distinct
    rw [List.map_append] at distinct
    exact (List.nodup_append.mp distinct).2.2 key listed key List.mem_cons_self rfl
  · intro fresh
    constructor
    · rw [List.map_append]
      apply List.nodup_append.mpr
      refine ⟨represents.distinct, List.nodup_singleton key, ?_⟩
      intro other listed last member same
      rw [List.map_singleton, List.mem_singleton] at member
      rw [same, member] at listed
      exact fresh listed
    · intro other found
      unfold putEntry
      rw [List.mem_append, List.mem_singleton]
      by_cases same : other = key
      · subst same
        rw [if_pos rfl]
        constructor
        · intro here
          cases here
          exact .inr rfl
        · rintro (listed | last)
          · exact absurd (List.mem_map_of_mem listed) fresh
          · cases last
            rfl
      · rw [if_neg same, represents.entry]
        constructor
        · exact .inl
        · rintro (listed | last)
          · exact listed
          · cases last
            exact absurd rfl same

/-- A dictionary takes up entries with new keys, one after the other. -/
theorem assigned {entries ledger more : List (κ × ν)}
    (represents : Represents (tableOf entries) ledger)
    (distinct : ((ledger ++ more).map Prod.fst).Nodup) :
    Represents
      (tableOf (more.foldl (fun entries entry => assign entry.1 entry.2 entries) entries))
      (ledger ++ more) := by
  induction more generalizing entries ledger with
  | nil =>
      rw [List.append_nil]
      exact represents
  | cons entry more ih =>
      have split : ledger ++ entry :: more = ledger ++ [entry] ++ more := by
        rw [List.append_assoc, List.singleton_append]
      have fresh : entry.1 ∉ ledger.map Prod.fst := by
        intro listed
        rw [List.map_append] at distinct
        exact (List.nodup_append.mp distinct).2.2 entry.1 listed entry.1
          List.mem_cons_self rfl
      have put : tableOf (assign entry.1 entry.2 entries) =
          putEntry entry.1 entry.2 (tableOf entries) :=
        funext fun other => lookup_assign entry.1 other entry.2 entries
      rw [split] at distinct ⊢
      refine ih ?_ distinct
      rw [put]
      exact (represents.put_iff entry.1 entry.2).mpr fresh

theorem mem_alterListed {key other : κ} {f : ν → Option ν} {value : ν} :
    (other, value) ∈ alterListed key f ledger ↔
      if other = key then ∃ before, (key, before) ∈ ledger ∧ f before = some value
      else (other, value) ∈ ledger := by
  unfold alterListed
  rw [List.mem_filterMap]
  constructor
  · rintro ⟨⟨listed, before⟩, member, kept⟩
    dsimp only at kept
    by_cases here : listed = key
    · rw [if_pos here] at kept
      obtain ⟨after, altered, same⟩ := Option.map_eq_some_iff.mp kept
      cases same
      subst here
      rw [if_pos rfl]
      exact ⟨before, member, altered⟩
    · rw [if_neg here] at kept
      cases kept
      rw [if_neg here]
      exact member
  · intro after
    by_cases here : other = key
    · rw [if_pos here] at after
      obtain ⟨before, member, altered⟩ := after
      refine ⟨(key, before), member, ?_⟩
      dsimp only
      rw [if_pos rfl, altered, here]
      rfl
    · rw [if_neg here] at after
      refine ⟨(other, value), after, ?_⟩
      dsimp only
      rw [if_neg here]

theorem keys_alterListed (key : κ) (f : ν → Option ν) (ledger : List (κ × ν)) :
    ((alterListed key f ledger).map Prod.fst).Sublist (ledger.map Prod.fst) := by
  induction ledger with
  | nil => exact List.Sublist.slnil
  | cons entry ledger ih =>
      unfold alterListed at ih ⊢
      rw [List.filterMap_cons]
      by_cases here : entry.1 = key
      · rw [if_pos here]
        cases f entry.2 with
        | none => exact ih.cons _
        | some value => exact ih.cons_cons _
      · rw [if_neg here]
        exact ih.cons_cons _

/-- An alteration in both stays represented. -/
theorem alter (represents : Represents table ledger) (key : κ) (f : ν → Option ν) :
    Represents (alterEntry key f table) (alterListed key f ledger) where
  distinct := represents.distinct.sublist (keys_alterListed key f ledger)
  entry other value := by
    rw [mem_alterListed]
    unfold alterEntry
    split
    · rw [Option.bind_eq_some_iff]
      constructor
      · rintro ⟨before, found, altered⟩
        exact ⟨before, (represents.entry key before).mp found, altered⟩
      · rintro ⟨before, listed, altered⟩
        exact ⟨before, (represents.entry key before).mpr listed, altered⟩
    · exact represents.entry other value

/-- An alteration of the table alone goes unnoticed exactly where it finds
nothing. -/
theorem alter_table_iff (represents : Represents table ledger) (key : κ)
    {f : ν → Option ν} (changes : ∀ value, f value ≠ some value) :
    Represents (alterEntry key f table) ledger ↔ key ∉ ledger.map Prod.fst := by
  constructor
  · intro after listed
    obtain ⟨value, found⟩ := represents.some_of_listed listed
    obtain ⟨altered, still⟩ := after.some_of_listed listed
    have before := (represents.entry key altered).mpr
      ((after.entry key altered).mp still)
    unfold alterEntry at still
    rw [if_pos rfl, before] at still
    exact changes altered still
  · intro fresh
    rw [alterEntry_of_none (represents.none_of_not_listed fresh)]
    exact represents

end Represents

/-- The comparison of two dictionaries, each given by its entries in any order. -/
def sameEntries [DecidableEq ν] (first second : List (κ × ν)) : Bool :=
  first.length = second.length &&
    first.all fun entry => second.lookup entry.1 = some entry.2

theorem Represents.lookup {table : κ → Option ν} {ledger : List (κ × ν)}
    (represents : Represents table ledger) (key : κ) : ledger.lookup key = table key := by
  cases found : ledger.lookup key with
  | none =>
      refine (represents.none_of_not_listed fun listed => ?_).symm
      obtain ⟨⟨other, value⟩, member, rfl⟩ := List.mem_map.mp listed
      have refused := List.lookup_eq_none_iff.mp found (other, value) member
      simp at refused
  | some value =>
      obtain ⟨front, back, split, _⟩ := List.lookup_eq_some_iff.mp found
      refine ((represents.entry key value).mpr ?_).symm
      rw [split]
      exact List.mem_append_right front List.mem_cons_self

/-- Dictionaries compare equal exactly if they are the same table. -/
theorem sameEntries_iff [DecidableEq ν] {first second : κ → Option ν} {listed other : List (κ × ν)}
    (one : Represents first listed) (two : Represents second other) :
    sameEntries listed other = true ↔ first = second := by
  unfold sameEntries
  rw [Bool.and_eq_true, decide_eq_true_eq, List.all_eq_true]
  constructor
  · rintro ⟨lengths, found⟩
    have subset : listed ⊆ other := by
      rintro ⟨key, value⟩ member
      have there : other.lookup key = some value := of_decide_eq_true (found _ member)
      rw [two.lookup] at there
      exact (two.entry key value).mp there
    have distinct : listed.Nodup := List.Nodup.of_map Prod.fst one.distinct
    have perm := (distinct.subperm subset).perm_of_length_le (Nat.le_of_eq lengths.symm)
    funext key
    refine Option.ext fun value => ?_
    rw [one.entry, two.entry, perm.mem_iff]
  · rintro rfl
    have perm : listed.Perm other := by
      refine (List.perm_ext_iff_of_nodup (List.Nodup.of_map Prod.fst one.distinct)
        (List.Nodup.of_map Prod.fst two.distinct)).mpr fun entry => ?_
      rw [← one.entry, ← two.entry]
    refine ⟨perm.length_eq, fun entry member => decide_eq_true ?_⟩
    rw [two.lookup]
    exact (one.entry entry.1 entry.2).mpr member

/-- Keys may be replaced by names of their own. -/
theorem sameEntries_map {name : Type} [DecidableEq name] [DecidableEq ν] {f : κ → name}
    (injective : Function.Injective f) (first second : List (κ × ν)) :
    sameEntries (first.map fun entry => (f entry.1, entry.2))
      (second.map fun entry => (f entry.1, entry.2)) = sameEntries first second := by
  have found : ∀ key, (second.map fun entry => (f entry.1, entry.2)).lookup (f key) =
      second.lookup key := by
    intro key
    induction second with
    | nil => rfl
    | cons entry second ih =>
        rw [List.map_cons, List.lookup_cons, List.lookup_cons, ih]
        by_cases same : key = entry.1
        · rw [same, beq_self_eq_true, beq_self_eq_true]
        · have apart : f key ≠ f entry.1 := fun named => same (injective named)
          rw [beq_false_of_ne apart, beq_false_of_ne same]
  unfold sameEntries
  rw [List.length_map, List.length_map, List.all_map]
  refine congrArg (_ && ·) (congrArg first.all (funext fun entry => ?_))
  exact congrArg (fun value => decide (value = some entry.2)) (found entry.1)

end Foundations
