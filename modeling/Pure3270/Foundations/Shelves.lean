import Mathlib.Data.List.Nodup
import Mathlib.Data.List.Perm.Basic

/-!
# Lists filed under keys

A dictionary of lists in which every item lies on the shelf that its own key names.
All operations put one shelf back after changing it, so each is described by what
happens on that shelf; the other shelves are left alone.
-/

namespace Foundations

variable {κ ν α : Type} [DecidableEq κ]

/-- `d[key] = value`, in the order of the insertions. -/
def assign (key : κ) (value : ν) : List (κ × ν) → List (κ × ν)
  | [] => [(key, value)]
  | entry :: rest =>
      if entry.1 = key then (key, value) :: rest else entry :: assign key value rest

theorem mem_assign {key : κ} {value : ν} {entries : List (κ × ν)}
    {entry : κ × ν} (member : entry ∈ assign key value entries) :
    entry = (key, value) ∨ entry ∈ entries := by
  induction entries with
  | nil => exact .inl (List.mem_singleton.mp member)
  | cons first rest ih =>
      unfold assign at member
      split at member
      · rcases List.mem_cons.mp member with here | later
        · exact .inl here
        · exact .inr (List.mem_cons_of_mem first later)
      · rcases List.mem_cons.mp member with here | later
        · exact .inr (here ▸ List.mem_cons_self)
        · exact (ih later).imp_right (List.mem_cons_of_mem first)

theorem keys_assign (key : κ) (value : ν) (entries : List (κ × ν)) :
    (assign key value entries).map Prod.fst =
      if key ∈ entries.map Prod.fst then entries.map Prod.fst
      else entries.map Prod.fst ++ [key] := by
  induction entries with
  | nil => rfl
  | cons first rest ih =>
      unfold assign
      by_cases here : first.1 = key
      · simp [here]
      · simp only [if_neg here, List.map_cons, ih, List.mem_cons, Ne.symm here, false_or]
        split <;> rfl

theorem distinct_assign (key : κ) (value : ν) {entries : List (κ × ν)}
    (distinct : (entries.map Prod.fst).Nodup) :
    ((assign key value entries).map Prod.fst).Nodup := by
  rw [keys_assign]
  split
  · exact distinct
  · next fresh =>
      apply List.nodup_append.mpr
      refine ⟨distinct, List.nodup_singleton key, ?_⟩
      intro other listed last member same
      rw [List.mem_singleton.mp member] at same
      exact fresh (same ▸ listed)

theorem lookup_cons_eq (key : κ) (first : κ × ν) (rest : List (κ × ν)) :
    (first :: rest).lookup key =
      if key = first.1 then some first.2 else rest.lookup key := by
  rw [List.lookup_cons]
  by_cases here : key = first.1
  · rw [if_pos here, beq_iff_eq.mpr here]
  · rw [if_neg here, beq_eq_false_iff_ne.mpr here]

theorem lookup_assign (key other : κ) (value : ν) (entries : List (κ × ν)) :
    (assign key value entries).lookup other =
      if other = key then some value else entries.lookup other := by
  induction entries with
  | nil => exact lookup_cons_eq other (key, value) []
  | cons first rest ih =>
      unfold assign
      by_cases here : first.1 = key
      · rw [if_pos here, lookup_cons_eq, lookup_cons_eq, here]
        by_cases same : other = key
        · rw [if_pos same, if_pos same]
        · simp only [if_neg same]
      · rw [if_neg here, lookup_cons_eq, lookup_cons_eq, ih]
        by_cases same : other = key
        · rw [if_pos same, if_pos same, if_neg (same ▸ Ne.symm here)]
        · rw [if_neg same, if_neg same]

theorem others_assign (key : κ) (value : ν) (entries : List (κ × ν)) :
    (assign key value entries).filter (·.1 ≠ key) = entries.filter (·.1 ≠ key) := by
  induction entries with
  | nil => simp [assign]
  | cons first rest ih =>
      unfold assign
      by_cases here : first.1 = key
      · simp [here]
      · rw [if_neg here, List.filter_cons, List.filter_cons, ih]

/-- Every item is filed under its own key, and no key twice. -/
structure Shelves (place : α → κ) where
  entries : List (κ × List α)
  distinct : (entries.map Prod.fst).Nodup
  filed : ∀ entry ∈ entries, ∀ item ∈ entry.2, place item = entry.1

namespace Shelves

variable {place : α → κ}

def empty : Shelves place where
  entries := []
  distinct := List.nodup_nil
  filed _ member := absurd member List.not_mem_nil

/-- `d.get(key, [])`. -/
def shelf (key : κ) (shelves : Shelves place) : List α :=
  (shelves.entries.lookup key).getD []

def items (shelves : Shelves place) : List α := shelves.entries.flatMap Prod.snd

/-- The items that are filed under other keys. -/
def others (key : κ) (shelves : Shelves place) : List α :=
  (shelves.entries.filter (·.1 ≠ key)).flatMap Prod.snd

theorem filed_shelf {shelves : Shelves place} {key : κ} {item : α}
    (member : item ∈ shelves.shelf key) : place item = key := by
  unfold shelf at member
  cases found : shelves.entries.lookup key with
  | none =>
      rw [found] at member
      cases member
  | some list =>
      rw [found] at member
      obtain ⟨before, after, listed, _⟩ := List.lookup_eq_some_iff.mp found
      exact shelves.filed (key, list)
        (listed ▸ List.mem_append_right before List.mem_cons_self) item member

/-- One shelf is replaced. -/
def put (key : κ) (list : List α) (filed : ∀ item ∈ list, place item = key)
    (shelves : Shelves place) : Shelves place where
  entries := assign key list shelves.entries
  distinct := distinct_assign key list shelves.distinct
  filed entry member item listed := by
    rcases mem_assign member with here | there
    · subst here
      exact filed item listed
    · exact shelves.filed entry there item listed

/-- What lies on one shelf and what lies on the others. -/
theorem items_perm (key : κ) (shelves : Shelves place) :
    shelves.items.Perm (shelves.shelf key ++ shelves.others key) := by
  obtain ⟨entries, distinct, filed⟩ := shelves
  unfold items shelf others
  dsimp only
  clear filed
  induction entries with
  | nil => exact List.Perm.nil
  | cons first rest ih =>
      have later := ih (List.nodup_cons.mp distinct).2
      rw [List.flatMap_cons, lookup_cons_eq, List.filter_cons]
      by_cases here : key = first.1
      · subst here
        have elsewhere : rest.filter (·.1 ≠ first.1) = rest := by
          apply List.filter_eq_self.mpr
          intro entry member
          have other : entry.1 ≠ first.1 := fun same =>
            (List.nodup_cons.mp distinct).1 (same ▸ List.mem_map_of_mem member)
          exact decide_eq_true other
        rw [if_pos rfl, if_neg (by simp), elsewhere]
        exact List.Perm.refl _
      · rw [if_neg here, if_pos (decide_eq_true (Ne.symm here))]
        exact (later.append_left first.2).trans
          (List.perm_append_comm_assoc first.2 _ _)

theorem shelf_put (key other : κ) {list : List α}
    (filed : ∀ item ∈ list, place item = key) (shelves : Shelves place) :
    (shelves.put key list filed).shelf other =
      if other = key then list else shelves.shelf other := by
  unfold shelf put
  dsimp only
  rw [lookup_assign]
  split <;> rfl

theorem items_put (key : κ) {list : List α} (filed : ∀ item ∈ list, place item = key)
    (shelves : Shelves place) :
    (shelves.put key list filed).items.Perm (list ++ shelves.others key) := by
  have perm := items_perm key (shelves.put key list filed)
  have same : (shelves.put key list filed).others key = shelves.others key := by
    unfold others put
    dsimp only
    rw [others_assign]
  rw [shelf_put, if_pos rfl, same] at perm
  exact perm

theorem shelf_eq_nil {shelves : Shelves place} (none : shelves.items = []) (key : κ) :
    shelves.shelf key = [] := by
  have perm := items_perm key shelves
  rw [none] at perm
  exact (List.append_eq_nil_iff.mp perm.nil_eq.symm).1

theorem mem_items {item : α} {shelves : Shelves place} :
    item ∈ shelves.items ↔ item ∈ shelves.shelf (place item) := by
  have perm := items_perm (place item) shelves
  rw [perm.mem_iff, List.mem_append]
  constructor
  · rintro (here | elsewhere)
    · exact here
    · unfold others at elsewhere
      obtain ⟨entry, member, listed⟩ := List.mem_flatMap.mp elsewhere
      obtain ⟨there, apart⟩ := List.mem_filter.mp member
      exact absurd (shelves.filed entry there item listed).symm (of_decide_eq_true apart)
  · exact .inl

/-- `d.setdefault(key, []).append(item)`. -/
def push (item : α) (shelves : Shelves place) : Shelves place :=
  shelves.put (place item) (shelves.shelf (place item) ++ [item]) fun other member => by
    rcases List.mem_append.mp member with before | last
    · exact filed_shelf before
    · rw [List.mem_singleton.mp last]

/-- `d[key].pop()`, the last of a shelf. -/
def dropLast (key : κ) (shelves : Shelves place) : Shelves place :=
  shelves.put key (shelves.shelf key).dropLast fun _ member =>
    filed_shelf ((List.dropLast_sublist _).mem member)

/-- `d[key].remove(item)` where the item is there. -/
def erase [DecidableEq α] (item : α) (shelves : Shelves place) : Shelves place :=
  if item ∈ shelves.shelf (place item) then
    shelves.put (place item) ((shelves.shelf (place item)).erase item) fun _ member =>
      filed_shelf (List.mem_of_mem_erase member)
  else shelves

/-- Every shelf is replaced by what is kept of it. -/
def keep (kept : α → Bool) (shelves : Shelves place) : Shelves place where
  entries := shelves.entries.map fun entry => (entry.1, entry.2.filter kept)
  distinct := by
    rw [List.map_map]
    exact shelves.distinct
  filed entry member item listed := by
    obtain ⟨before, there, same⟩ := List.mem_map.mp member
    subst same
    exact shelves.filed before there item (List.mem_filter.mp listed).1

theorem items_push (item : α) (shelves : Shelves place) :
    (shelves.push item).items.Perm (item :: shelves.items) := by
  have filed : ∀ other ∈ shelves.shelf (place item) ++ [item],
      place other = place item := by
    intro other member
    rcases List.mem_append.mp member with before | last
    · exact filed_shelf before
    · rw [List.mem_singleton.mp last]
  have after := items_put (place item) filed shelves
  have before := items_perm (place item) shelves
  refine after.trans ?_
  rw [List.append_assoc]
  exact List.perm_middle.trans (before.symm.cons item)

theorem shelf_push (item : α) (key : κ) (shelves : Shelves place) :
    (shelves.push item).shelf key =
      if key = place item then shelves.shelf (place item) ++ [item]
      else shelves.shelf key :=
  shelf_put _ _ _ _

theorem items_dropLast {key : κ} {shelves : Shelves place} {item : α} {rest : List α}
    (shelf : shelves.shelf key = rest ++ [item]) :
    shelves.items.Perm (item :: (shelves.dropLast key).items) := by
  have after : (shelves.dropLast key).items.Perm
      ((shelves.shelf key).dropLast ++ shelves.others key) := items_put _ _ _
  rw [shelf, List.dropLast_concat] at after
  have before := items_perm key shelves
  rw [shelf, List.append_assoc] at before
  exact before.trans (List.perm_middle.trans (after.symm.cons item))

theorem items_erase [DecidableEq α] (item : α) (shelves : Shelves place) :
    (shelves.erase item).items.Perm (shelves.items.erase item) := by
  have before := items_perm (place item) shelves
  unfold erase
  split
  · next present =>
      refine (items_put _ _ _).trans ?_
      refine List.Perm.trans ?_ (before.erase item).symm
      rw [List.erase_append_left _ present]
  · next absent =>
      rw [List.erase_of_not_mem (mt mem_items.mp absent)]

theorem shelf_erase [DecidableEq α] (item : α) (key : κ) (shelves : Shelves place) :
    (shelves.erase item).shelf key = (shelves.shelf key).erase item := by
  unfold erase
  split
  · rw [shelf_put]
    split
    · next same => rw [same]
    · next apart =>
        rw [List.erase_of_not_mem]
        intro member
        exact apart (filed_shelf member).symm
  · next absent =>
      rw [List.erase_of_not_mem]
      intro member
      exact absent (filed_shelf member ▸ member)

omit [DecidableEq κ] in
theorem items_keep (kept : α → Bool) (shelves : Shelves place) :
    (shelves.keep kept).items = shelves.items.filter kept := by
  unfold items keep
  rw [List.flatMap_map, List.filter_flatMap]

end Shelves

end Foundations
