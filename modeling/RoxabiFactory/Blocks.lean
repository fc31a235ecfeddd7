import Mathlib.Data.List.Induction

/-!
# Blocks in a stream of events

An event may open the block of a key, stand inside it or close it.  A key is
unused, open or closed at each point of the stream, and a stream that never
leaves this order gives every key that occurs in it exactly one block.
-/

namespace RoxabiFactory

namespace Blocks

/-- What an event does to the blocks. -/
inductive Mark (Key : Type*)
  | opens (key : Key)
  | inside (key : Key)
  | closes (key : Key)
  | other
  deriving DecidableEq, Repr

inductive Phase
  | unused
  | open
  | closed
  deriving DecidableEq, Repr

variable {Key : Type*}

def Mark.key : Mark Key → Option Key
  | .opens key | .inside key | .closes key => some key
  | .other => none

/-- The marks hold one block of the key: one opening, one closing after it,
and everything else that belongs to the key between the two. -/
def Block (key : Key) (marks : List (Mark Key)) : Prop := ∃ before middle after,
    marks = before ++ .opens key :: (middle ++ .closes key :: after) ∧
      (∀ mark ∈ before ++ after, mark.key ≠ some key) ∧
      ∀ mark ∈ middle, mark.key = some key → mark = .inside key

section Shows

variable {key : Key} {marks : List (Mark Key)} {mark : Mark Key}
variable {phase : Phase}

/-- What the phase says about the marks. -/
def Shows (key : Key) (marks : List (Mark Key)) : Phase → Prop
  | .unused => ∀ mark ∈ marks, mark.key ≠ some key
  | .open => ∃ before middle, marks = before ++ .opens key :: middle ∧
        (∀ mark ∈ before, mark.key ≠ some key) ∧
        ∀ mark ∈ middle, mark.key = some key → mark = .inside key
  | .closed => Block key marks

theorem Shows.of_ne (shows : Shows key marks phase)
    (other : mark.key ≠ some key) : Shows key (marks ++ [mark]) phase := by
  cases phase with
  | unused =>
    intro later member
    rcases List.mem_append.mp member with old | new
    · exact shows later old
    · rwa [List.mem_singleton.mp new]
  | «open» =>
    obtain ⟨before, middle, rfl, outside, within⟩ := shows
    refine ⟨before, middle ++ [mark], by simp, outside, ?_⟩
    intro later member belongs
    rcases List.mem_append.mp member with old | new
    · exact within later old belongs
    · exact absurd (List.mem_singleton.mp new ▸ belongs) other
  | closed =>
    obtain ⟨before, middle, after, rfl, outside, within⟩ := shows
    refine ⟨before, middle, after ++ [mark], by simp, ?_, within⟩
    intro later member
    rw [← List.append_assoc] at member
    rcases List.mem_append.mp member with old | new
    · exact outside later old
    · rwa [List.mem_singleton.mp new]

end Shows

variable [DecidableEq Key]

/-- The phase of a key after one more mark. -/
def Phase.next (key : Key) (phase : Phase) (mark : Mark Key) : Option Phase :=
  if mark.key = some key then
    match phase, mark with
    | .unused, .opens _ => some .open
    | .open, .inside _ => some .open
    | .open, .closes _ => some .closed
    | _, _ => none
  else some phase

/-- The phase of a key at the end of the marks; `none` when they are out of
order. -/
def phaseOf (key : Key) (marks : List (Mark Key)) : Option Phase :=
  marks.foldlM (Phase.next key) .unused

/-- The keys whose blocks are open at the end of the marks. -/
def openKeys (marks : List (Mark Key)) : List Key := marks.foldl (fun keys mark => match mark with
    | .opens key => keys ++ [key]
    | .closes key => keys.erase key
    | .inside _ | .other => keys) []

def AtMostOneOpen (marks : List (Mark Key)) : Prop :=
  ∀ before, before <+: marks → (openKeys before).length ≤ 1

section Phases

variable {key : Key} {marks more : List (Mark Key)} {mark : Mark Key}
variable {phase after : Phase}

attribute [local simp] Phase.next

@[simp]
theorem phaseOf_nil : phaseOf key [] = some .unused :=
  rfl

theorem phaseOf_append : phaseOf key (marks ++ more) = (phaseOf key marks).bind fun phase =>
        more.foldlM (Phase.next key) phase := by
  simp [phaseOf, List.foldlM_append]

theorem phaseOf_append_one (reached : phaseOf key marks = some phase) :
    phaseOf key (marks ++ [mark]) = phase.next key mark := by
  simp [phaseOf_append, reached]

theorem Phase.next_of_ne (other : mark.key ≠ some key) : phase.next key mark = some phase :=
  if_neg other

theorem Phase.of_next_opens (steps : phase.next key (.opens key) = some after) :
    phase = .unused ∧ after = .open := by
  cases phase <;> simp [Mark.key] at steps
  exact ⟨rfl, steps.symm⟩

theorem Phase.of_next_inside (steps : phase.next key (.inside key) = some after) :
    phase = .open ∧ after = .open := by
  cases phase <;> simp [Mark.key] at steps
  exact ⟨rfl, steps.symm⟩

theorem Phase.of_next_closes (steps : phase.next key (.closes key) = some after) :
    phase = .open ∧ after = .closed := by
  cases phase <;> simp [Mark.key] at steps
  exact ⟨rfl, steps.symm⟩

theorem Phase.of_next_ne {other : Key} (belongs : mark.key = some other)
    (different : other ≠ key) (steps : phase.next key mark = some after) :
    after = phase := by
  rw [Phase.next_of_ne (by simpa [belongs] using different)] at steps
  exact (Option.some.inj steps).symm

theorem Shows.next (shows : Shows key marks phase) (steps : phase.next key mark = some after) :
    Shows key (marks ++ [mark]) after := by
  by_cases belongs : mark.key = some key
  · unfold Phase.next at steps
    rw [if_pos belongs] at steps
    cases mark with
    | other => cases belongs
    | opens opened =>
      obtain rfl := Option.some.inj belongs
      cases phase <;> cases steps
      exact ⟨marks, [], rfl, shows, List.forall_mem_nil _⟩
    | inside written =>
      obtain rfl := Option.some.inj belongs
      cases phase <;> cases steps
      obtain ⟨before, middle, rfl, outside, within⟩ := shows
      refine ⟨before, middle ++ [.inside written], by simp, outside, ?_⟩
      intro later member same
      rcases List.mem_append.mp member with old | new
      · exact within later old same
      · exact List.mem_singleton.mp new
    | closes shut =>
      obtain rfl := Option.some.inj belongs
      cases phase <;> cases steps
      obtain ⟨before, middle, rfl, outside, within⟩ := shows
      exact ⟨before, middle, [], by simp, by simpa using outside, within⟩
  · rw [Phase.next_of_ne belongs] at steps
    cases steps
    exact shows.of_ne belongs

/-- A key in phase `closed` has exactly one block, one in phase `unused` does
not occur. -/
theorem shows_of_phaseOf (marks : List (Mark Key)) :
    ∀ phase, phaseOf key marks = some phase → Shows key marks phase := by
  induction marks using List.reverseRecOn with
  | nil =>
    rintro phase ⟨⟩
    exact List.forall_mem_nil _
  | append_singleton marks mark ih =>
    intro phase reached
    rw [phaseOf_append] at reached
    obtain ⟨earlier, before, steps⟩ := Option.bind_eq_some_iff.mp reached
    simp only [List.foldlM_cons, List.foldlM_nil, bind_pure] at steps
    exact (ih earlier before).next steps

/-- A key that has left the phase `unused` occurs. -/
theorem exists_mem_of_phaseOf (reached : phaseOf key marks = some phase)
    (used : phase ≠ .unused) : ∃ mark ∈ marks, mark.key = some key := by
  by_contra absent
  rw [not_exists] at absent
  have unused : phaseOf key marks = some .unused := by
    clear reached
    induction marks using List.reverseRecOn with
    | nil => rfl
    | append_singleton marks mark ih =>
      have earlier := ih fun old ⟨member, belongs⟩ =>
        absent old ⟨by simp [member], belongs⟩
      rw [phaseOf_append_one earlier]
      exact Phase.next_of_ne fun belongs => absent mark ⟨by simp, belongs⟩
  exact used (Option.some.inj (reached.symm.trans unused))

end Phases

section OpenKeys

variable {marks : List (Mark Key)} {mark : Mark Key} {key : Key}

@[simp]
theorem openKeys_nil : openKeys ([] : List (Mark Key)) = [] :=
  rfl

@[simp]
theorem openKeys_opens : openKeys (marks ++ [.opens key]) = openKeys marks ++ [key] := by
  simp [openKeys]

@[simp]
theorem openKeys_inside : openKeys (marks ++ [.inside key]) = openKeys marks := by
  simp [openKeys]

@[simp]
theorem openKeys_closes : openKeys (marks ++ [.closes key]) = (openKeys marks).erase key := by
  simp [openKeys]

@[simp]
theorem openKeys_other : openKeys (marks ++ [.other]) = openKeys marks := by
  simp [openKeys]

theorem atMostOneOpen_nil : AtMostOneOpen ([] : List (Mark Key)) := by
  intro before isPrefix
  simp [List.prefix_nil.mp isPrefix]

theorem AtMostOneOpen.append_one (one : AtMostOneOpen marks)
    (few : (openKeys (marks ++ [mark])).length ≤ 1) :
    AtMostOneOpen (marks ++ [mark]) := by
  intro before isPrefix
  rcases List.prefix_concat_iff.mp isPrefix with rfl | shorter
  · exact few
  · exact one before shorter

end OpenKeys

/-- A writer that keeps at most one block open and uses every key once: the
block that is open, and the keys that have been used. -/
structure Writes (marks : List (Mark Key)) (live : Option Key) (used : Key → Prop) : Prop where
  openKeys : openKeys marks = live.toList
  one : AtMostOneOpen marks
  phases : ∀ key, ∃ phase, phaseOf key marks = some phase ∧
    (phase = .open ↔ live = some key) ∧ (phase ≠ .unused → used key)

namespace Writes

variable {marks : List (Mark Key)} {live : Option Key} {used : Key → Prop}
variable {key : Key}

theorem nil : Writes ([] : List (Mark Key)) none used :=
  ⟨rfl, atMostOneOpen_nil, fun _ => ⟨.unused, rfl, by simp⟩⟩

theorem mono (writes : Writes marks live used) {later : Key → Prop}
    (implies : ∀ key, used key → later key) : Writes marks live later :=
  ⟨writes.openKeys, writes.one, fun key =>
    let ⟨phase, reached, isOpen, wasUsed⟩ := writes.phases key
    ⟨phase, reached, isOpen, fun touched => implies key (wasUsed touched)⟩⟩

theorem other (writes : Writes marks live used) : Writes (marks ++ [.other]) live used where
  openKeys := by simpa using writes.openKeys
  one := writes.one.append_one (by
    rw [openKeys_other]
    exact writes.one marks List.prefix_rfl)
  phases := by
    intro key
    obtain ⟨phase, reached, facts⟩ := writes.phases key
    exact ⟨phase, phaseOf_append_one reached, facts⟩

theorem inside (writes : Writes marks (some key) used) :
    Writes (marks ++ [.inside key]) (some key) used where
  openKeys := by simpa using writes.openKeys
  one := writes.one.append_one (by
    rw [openKeys_inside]
    exact writes.one marks List.prefix_rfl)
  phases := by
    intro other
    obtain ⟨phase, reached, isOpen, wasUsed⟩ := writes.phases other
    refine ⟨phase, ?_, isOpen, wasUsed⟩
    rw [phaseOf_append_one reached]
    by_cases same : key = other
    · subst same
      obtain rfl := isOpen.mpr rfl
      simp [Phase.next, Mark.key]
    · exact Phase.next_of_ne (by simpa [Mark.key] using same)

theorem opens (writes : Writes marks none used) (fresh : ¬ used key) :
    Writes (marks ++ [.opens key]) (some key) (fun other => other = key ∨ used other) where
  openKeys := by simp [writes.openKeys]
  one := writes.one.append_one (by simp [writes.openKeys])
  phases := by
    intro other
    obtain ⟨phase, reached, isOpen, wasUsed⟩ := writes.phases other
    by_cases same : key = other
    · subst same
      obtain rfl : phase = .unused := by
        by_contra touched
        exact fresh (wasUsed touched)
      refine ⟨.open, ?_, by simp, fun _ => .inl rfl⟩
      rw [phaseOf_append_one reached]
      simp [Phase.next, Mark.key]
    · refine ⟨phase, ?_, ?_, fun touched => .inr (wasUsed touched)⟩
      · rw [phaseOf_append_one reached]
        exact Phase.next_of_ne (by simpa [Mark.key] using same)
      · rw [isOpen]
        simp [same]

theorem closes (writes : Writes marks (some key) used) :
    Writes (marks ++ [.closes key]) none used where
  openKeys := by simp [writes.openKeys]
  one := writes.one.append_one (by simp [writes.openKeys])
  phases := by
    intro other
    obtain ⟨phase, reached, isOpen, wasUsed⟩ := writes.phases other
    by_cases same : key = other
    · subst same
      obtain rfl := isOpen.mpr rfl
      refine ⟨.closed, ?_, by simp, fun _ => wasUsed nofun⟩
      rw [phaseOf_append_one reached]
      simp [Phase.next, Mark.key]
    · refine ⟨phase, ?_, ?_, wasUsed⟩
      · rw [phaseOf_append_one reached]
        exact Phase.next_of_ne (by simpa [Mark.key] using same)
      · rw [isOpen]
        simp [same]

/-- When nothing is open, every key that occurs has exactly one block. -/
theorem block_of_mem (writes : Writes marks none used) {mark : Mark Key}
    (member : mark ∈ marks) (belongs : mark.key = some key) :
    Block key marks := by
  obtain ⟨phase, reached, isOpen, -⟩ := writes.phases key
  have shows := shows_of_phaseOf marks phase reached
  cases phase with
  | unused => exact absurd belongs (shows mark member)
  | «open» => exact absurd (isOpen.mp rfl) nofun
  | closed => exact shows

end Writes

end Blocks

end RoxabiFactory
