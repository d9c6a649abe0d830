import Mathlib.Data.List.Nodup

/-!
# Handles

Handles are given out one after another, each to an owner, and closed by number.  An
owner of interest holds at most one of its handles at a time; the others it has closed,
or it has lost sight of them.
-/

namespace Foundations

variable {ω : Type}

/-- The owners of the handles given out, and the handles that are closed. -/
structure Handles (ω : Type) where
  owners : List ω := []
  closed : List Nat := []

namespace Handles

/-- The handle that is given out next. -/
def next (handles : Handles ω) : Nat := handles.owners.length

def acquire (owner : ω) (handles : Handles ω) : Handles ω :=
  { handles with owners := handles.owners ++ [owner] }

def release (handle : Nat) (handles : Handles ω) : Handles ω :=
  { handles with closed := handle :: handles.closed }

/-- The handle was given to this owner. -/
def Given (handles : Handles ω) (owner : ω) (handle : Nat) : Prop :=
  handles.owners[handle]? = some owner

theorem given_acquire {handles : Handles ω} {given owner : ω} {handle : Nat} :
    (handles.acquire given).Given owner handle ↔
      handles.Given owner handle ∨ given = owner ∧ handle = handles.next := by
  unfold Given acquire next
  rw [List.getElem?_append]
  by_cases before : handle < handles.owners.length
  · rw [if_pos before]
    have other : handle ≠ handles.owners.length := Nat.ne_of_lt before
    simp [other]
  · rw [if_neg before, List.getElem?_eq_none (Nat.le_of_not_lt before)]
    by_cases here : handle = handles.owners.length
    · subst here
      simp
    · have beyond : [given].length ≤ handle - handles.owners.length := by
        rw [List.length_singleton]
        omega
      rw [List.getElem?_eq_none beyond]
      simp [here]

theorem Given.lt_next {handles : Handles ω} {owner : ω} {handle : Nat}
    (given : handles.Given owner handle) : handle < handles.next := by
  obtain ⟨bound, _⟩ := List.getElem?_eq_some_iff.mp given
  exact bound

end Handles

/-- The open handles of the tracked owner are the one it holds and the ones it has lost;
nobody else's handles are ever closed. -/
structure Tracked (tracked : ω) (held : Option Nat) (lost : List Nat)
    (handles : Handles ω) : Prop where
  exact : ∀ handle, handles.Given tracked handle ∧ handle ∉ handles.closed ↔
    held = some handle ∨ handle ∈ lost
  own : ∀ handle ∈ handles.closed, handles.Given tracked handle
  separate : ∀ handle, held = some handle → handle ∉ lost
  distinct : lost.Nodup

namespace Tracked

variable {tracked : ω} {held : Option Nat} {lost : List Nat} {handles : Handles ω}

theorem empty : Tracked tracked none [] ({} : Handles ω) where
  exact handle := by
    constructor
    · rintro ⟨given, _⟩
      exact absurd given.lt_next (Nat.not_lt_zero handle)
    · rintro (holds | listed)
      · cases holds
      · cases listed
  own _ closed := absurd closed List.not_mem_nil
  separate _ holds := nomatch holds
  distinct := List.nodup_nil

theorem next_not_closed (accounts : Tracked tracked held lost handles) :
    handles.next ∉ handles.closed := by
  intro closed
  exact absurd (accounts.own _ closed).lt_next (Nat.lt_irrefl _)

/-- A handle for somebody else changes nothing. -/
theorem acquire_other (accounts : Tracked tracked held lost handles) {other : ω}
    (differs : other ≠ tracked) : Tracked tracked held lost (handles.acquire other) where
  exact handle := by
    rw [Handles.given_acquire, ← accounts.exact handle]
    simp [differs, Handles.acquire]
  own handle closed := Handles.given_acquire.mpr (.inl (accounts.own handle closed))
  separate := accounts.separate
  distinct := accounts.distinct

/-- An owner without a handle holds the next one. -/
theorem acquire_own (accounts : Tracked tracked none lost handles) :
    Tracked tracked (some handles.next) lost (handles.acquire tracked) where
  exact handle := by
    have earlier := accounts.exact handle
    rw [Handles.given_acquire]
    constructor
    · rintro ⟨given | ⟨_, rfl⟩, unclosed⟩
      · rcases earlier.mp ⟨given, unclosed⟩ with holds | listed
        · cases holds
        · exact .inr listed
      · exact .inl rfl
    · rintro (holds | listed)
      · cases holds
        exact ⟨.inr ⟨rfl, rfl⟩, accounts.next_not_closed⟩
      · have kept := earlier.mpr (.inr listed)
        exact ⟨.inl kept.1, kept.2⟩
  own handle closed := Handles.given_acquire.mpr (.inl (accounts.own handle closed))
  separate handle holds listed := by
    cases holds
    exact absurd ((accounts.exact _).mpr (.inr listed)).1.lt_next (Nat.lt_irrefl _)
  distinct := accounts.distinct

/-- The held handle is closed. -/
theorem release {handle : Nat} (accounts : Tracked tracked (some handle) lost handles) :
    Tracked tracked none lost (handles.release handle) where
  exact other := by
    have earlier := accounts.exact other
    change handles.Given tracked other ∧ other ∉ handle :: handles.closed ↔ _
    rw [List.mem_cons, not_or]
    constructor
    · rintro ⟨given, differs, unclosed⟩
      rcases earlier.mp ⟨given, unclosed⟩ with holds | listed
      · exact absurd (Option.some.inj holds).symm differs
      · exact .inr listed
    · rintro (holds | listed)
      · cases holds
      · have kept := earlier.mpr (.inr listed)
        refine ⟨kept.1, ?_, kept.2⟩
        rintro rfl
        exact accounts.separate _ rfl listed
  own other closed := by
    rcases List.mem_cons.mp closed with rfl | earlier
    · exact ((accounts.exact _).mpr (.inl rfl)).1
    · exact accounts.own other earlier
  separate _ holds := nomatch holds
  distinct := accounts.distinct

theorem lose {handle : Nat} (accounts : Tracked tracked (some handle) lost handles) :
    Tracked tracked none (lost ++ [handle]) handles where
  exact other := by
    rw [accounts.exact other, List.mem_append, List.mem_singleton]
    constructor
    · rintro (holds | listed)
      · exact .inr (.inr (Option.some.inj holds).symm)
      · exact .inr (.inl listed)
    · rintro (holds | listed | rfl)
      · cases holds
      · exact .inr listed
      · exact .inl rfl
  own := accounts.own
  separate _ holds := nomatch holds
  distinct := by
    have fresh := accounts.separate handle rfl
    refine List.nodup_append.mpr ⟨accounts.distinct, List.nodup_singleton handle, ?_⟩
    rintro listed member _ (here : _ ∈ [handle]) rfl
    rw [List.mem_singleton] at here
    exact fresh (here ▸ member)

end Tracked

end Foundations
