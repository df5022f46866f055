import Mathlib.Data.List.Nodup
import ScriptHost.Heap

set_option autoImplicit false

/-!
Residents of a heap under its operations.

What a handle finds is the view through which operations are described: each of them says for every
handle what it finds afterwards. The slots, the list of free ones and the counter of live instances
are kept in agreement, so an insertion never takes the slot of another instance.
-/

namespace ScriptHost

variable {α : Type}

theorem exists_around {β : Type} {array : Array β} {index : Nat} {item : β}
    (found : array[index]? = some item) :
    ∃ before after, array.toList = before ++ item :: after ∧ before.length = index ∧
      ∀ change : β → β, (array.modify index change).toList = before ++ change item :: after := by
  obtain ⟨inside, atIndex⟩ := Array.getElem?_eq_some_iff.mp found
  have within : index < array.toList.length := by simpa using inside
  refine ⟨array.toList.take index, array.toList.drop (index + 1), ?_, ?_, fun change => ?_⟩
  · have split := List.take_append_drop index array.toList
    rw [List.drop_eq_getElem_cons within, Array.getElem_toList, atIndex] at split
    exact split.symm
  · rw [List.length_take]
    omega
  · rw [Array.toList_modify, List.modify_eq_take_cons_drop within, Array.getElem_toList, atIndex]

namespace Slot

def occupied (slot : Slot α) : Bool := slot.resident?.isSome

@[simp] theorem vacated_resident? (slot : Slot α) : slot.vacated.resident? = none := rfl

theorem vacated_generation_le (slot : Slot α) (bounded : slot.generation ≤ lastGeneration) :
    slot.vacated.generation ≤ lastGeneration := by
  unfold vacated reusable
  by_cases below : slot.generation < lastGeneration
  · simp only [below, decide_true, if_true]
    omega
  · simp only [below, decide_false]
    exact bounded

end Slot

namespace Heap

/-- The slots, the free ones among them and the counter agree. -/
structure Regular (heap : Heap α) : Prop where
  live : heap.live = heap.slots.toList.countP Slot.occupied
  freeNodup : heap.free.Nodup
  vacant_of_free : ∀ index ∈ heap.free, ∃ slot, heap.slots[index]? = some slot ∧
    slot.resident? = none
  free_of_vacant : ∀ (index : Nat) (slot : Slot α), heap.slots[index]? = some slot →
    slot.resident? = none → slot.generation < Slot.lastGeneration → index ∈ heap.free
  bounded : ∀ (index : Nat) (slot : Slot α), heap.slots[index]? = some slot →
    slot.generation ≤ Slot.lastGeneration

theorem regular_empty : Regular (empty : Heap α) where
  live := rfl
  freeNodup := List.nodup_nil
  vacant_of_free := by simp [empty]
  free_of_vacant := by simp [empty]
  bounded := by simp [empty]

theorem resident?_eq_some_iff {heap : Heap α} {handle : Handle} {resident : Resident α} :
    heap.resident? handle = some resident ↔
      heap.slots[handle.index]? = some ⟨handle.generation, some resident⟩ := by
  unfold resident?
  cases found : heap.slots[handle.index]? with
  | none => simp
  | some slot =>
      obtain ⟨generation, inside⟩ := slot
      by_cases same : generation = handle.generation
      · simp [same]
      · simp [same]

theorem contains_iff {heap : Heap α} {handle : Handle} :
    heap.contains handle = true ↔ ∃ resident, heap.resident? handle = some resident :=
  Option.isSome_iff_exists

theorem get_eq_ok_iff {heap : Heap α} {handle : Handle} {resident : Resident α} :
    heap.get handle = .ok resident ↔ heap.resident? handle = some resident := by
  unfold get
  cases heap.resident? handle <;> simp

theorem unclaimed_iff {heap : Heap α} {handle : Handle} :
    heap.unclaimed handle = true ↔ ∃ resident, heap.resident? handle = some resident ∧
      resident.pinned = false ∧ resident.anchors = 0 := by
  unfold unclaimed
  cases heap.resident? handle <;> simp

theorem contains_of_unclaimed {heap : Heap α} {handle : Handle}
    (unclaimed : heap.unclaimed handle = true) : heap.contains handle = true := by
  obtain ⟨resident, found, _⟩ := unclaimed_iff.mp unclaimed
  exact contains_iff.mpr ⟨resident, found⟩

theorem alter_of_absent {heap : Heap α} {handle : Handle}
    (absent : heap.resident? handle = none) (change : Resident α → Resident α) :
    heap.alter handle change = heap := by
  simp [alter, contains, absent]

theorem alter_slots {heap : Heap α} {handle : Handle} {resident : Resident α}
    (found : heap.resident? handle = some resident) (change : Resident α → Resident α) :
    (heap.alter handle change).slots =
      heap.slots.modify handle.index fun slot =>
        ⟨slot.generation, slot.resident?.map change⟩ := by
  simp [alter, contains, found]

@[simp] theorem alter_free (heap : Heap α) (handle : Handle)
    (change : Resident α → Resident α) : (heap.alter handle change).free = heap.free := by
  unfold alter
  split <;> rfl

@[simp] theorem alter_live (heap : Heap α) (handle : Handle)
    (change : Resident α → Resident α) : (heap.alter handle change).live = heap.live := by
  unfold alter
  split <;> rfl

@[simp] theorem alter_released (heap : Heap α) (handle : Handle)
    (change : Resident α → Resident α) :
    (heap.alter handle change).released = heap.released := by
  unfold alter
  split <;> rfl

theorem resident?_alter (heap : Heap α) (handle : Handle) (change : Resident α → Resident α)
    (other : Handle) :
    (heap.alter handle change).resident? other =
      if other = handle then (heap.resident? handle).map change else heap.resident? other := by
  cases found : heap.resident? handle with
  | none =>
      rw [alter_of_absent found]
      by_cases same : other = handle
      · simp [same, found]
      · simp [same]
  | some resident =>
      have slotAt := resident?_eq_some_iff.mp found
      unfold resident?
      rw [alter_slots found, Array.getElem?_modify]
      by_cases same : other = handle
      · subst other
        simp [slotAt]
      · rw [if_neg same]
        by_cases sameIndex : handle.index = other.index
        · have different : handle.generation ≠ other.generation := fun sameGeneration =>
            same (by cases handle; cases other; simp_all)
          rw [if_pos sameIndex, ← sameIndex, slotAt]
          simp [different]
        · rw [if_neg sameIndex]

theorem Regular.alter {heap : Heap α} (regular : heap.Regular) (handle : Handle)
    (change : Resident α → Resident α) : (heap.alter handle change).Regular := by
  cases found : heap.resident? handle with
  | none =>
      rw [alter_of_absent found]
      exact regular
  | some resident =>
      have slotAt := resident?_eq_some_iff.mp found
      obtain ⟨before, after, around, length, changed⟩ := exists_around slotAt
      refine ⟨?_, ?_, fun index member => ?_, fun index slot slotFound vacant => ?_,
        fun index slot slotFound => ?_⟩
      · rw [alter_live, regular.live, alter_slots found, changed, around]
        simp [List.countP_cons, Slot.occupied]
      · rw [alter_free]
        exact regular.freeNodup
      · rw [alter_free] at member
        obtain ⟨slot, slotFound, vacant⟩ := regular.vacant_of_free index member
        rw [alter_slots found, Array.getElem?_modify, slotFound]
        by_cases same : handle.index = index
        · simp [same, vacant]
        · simp [same, vacant]
      · rw [alter_slots found, Array.getElem?_modify] at slotFound
        rw [alter_free]
        by_cases same : handle.index = index
        · rw [if_pos same, ← same, slotAt] at slotFound
          injection slotFound with slotEq
          subst slotEq
          cases vacant
        · rw [if_neg same] at slotFound
          exact regular.free_of_vacant index slot slotFound vacant
      · rw [alter_slots found, Array.getElem?_modify] at slotFound
        by_cases same : handle.index = index
        · rw [if_pos same, ← same, slotAt] at slotFound
          injection slotFound with slotEq
          subst slotEq
          have bounded := regular.bounded handle.index _ slotAt
          exact bounded
        · rw [if_neg same] at slotFound
          exact regular.bounded index slot slotFound

theorem remove_of_absent {heap : Heap α} {handle : Handle}
    (absent : heap.resident? handle = none) : heap.remove handle = heap := by
  simp [remove, contains, absent]

theorem remove_slots {heap : Heap α} {handle : Handle} {resident : Resident α}
    (found : heap.resident? handle = some resident) :
    (heap.remove handle).slots = heap.slots.modify handle.index Slot.vacated := by
  simp [remove, contains, found, vacate]

theorem remove_free {heap : Heap α} {handle : Handle} {resident : Resident α}
    (found : heap.resident? handle = some resident) :
    (heap.remove handle).free =
      if handle.generation < Slot.lastGeneration then handle.index :: heap.free
      else heap.free := by
  simp [remove, contains, found, vacate, resident?_eq_some_iff.mp found, Slot.reusable]

theorem remove_live {heap : Heap α} {handle : Handle} {resident : Resident α}
    (found : heap.resident? handle = some resident) :
    (heap.remove handle).live = heap.live - 1 := by
  simp [remove, contains, found, vacate]

@[simp] theorem remove_released (heap : Heap α) (handle : Handle) :
    (heap.remove handle).released = heap.released := by
  unfold remove
  split <;> rfl

theorem resident?_remove (heap : Heap α) (handle other : Handle) :
    (heap.remove handle).resident? other =
      if other = handle then none else heap.resident? other := by
  cases found : heap.resident? handle with
  | none =>
      rw [remove_of_absent found]
      by_cases same : other = handle
      · simp [same, found]
      · simp [same]
  | some resident =>
      have slotAt := resident?_eq_some_iff.mp found
      unfold resident?
      rw [remove_slots found, Array.getElem?_modify]
      by_cases same : other = handle
      · subst other
        simp [slotAt]
      · rw [if_neg same]
        by_cases sameIndex : handle.index = other.index
        · have different : handle.generation ≠ other.generation := fun sameGeneration =>
            same (by cases handle; cases other; simp_all)
          rw [if_pos sameIndex, ← sameIndex, slotAt]
          simp [different]
        · rw [if_neg sameIndex]

theorem Regular.live_pos {heap : Heap α} (regular : heap.Regular) {handle : Handle}
    {resident : Resident α} (found : heap.resident? handle = some resident) :
    0 < heap.live := by
  rw [regular.live, List.countP_pos_iff]
  have slotAt := resident?_eq_some_iff.mp found
  exact ⟨_, by simpa using Array.mem_of_getElem? slotAt, rfl⟩

theorem Regular.not_mem_free {heap : Heap α} (regular : heap.Regular) {handle : Handle}
    {resident : Resident α} (found : heap.resident? handle = some resident) :
    handle.index ∉ heap.free := by
  intro member
  obtain ⟨slot, slotFound, vacant⟩ := regular.vacant_of_free _ member
  rw [resident?_eq_some_iff.mp found] at slotFound
  injection slotFound with slotEq
  subst slotEq
  cases vacant

theorem Regular.remove {heap : Heap α} (regular : heap.Regular) (handle : Handle) :
    (heap.remove handle).Regular := by
  cases found : heap.resident? handle with
  | none =>
      rw [remove_of_absent found]
      exact regular
  | some resident =>
      have slotAt := resident?_eq_some_iff.mp found
      obtain ⟨before, after, around, length, changed⟩ := exists_around slotAt
      have taken : handle.index ∉ heap.free := regular.not_mem_free found
      refine ⟨?_, ?_, fun index member => ?_, fun index slot slotFound vacant below => ?_,
        fun index slot slotFound => ?_⟩
      · rw [remove_live found, regular.live, remove_slots found, changed, around]
        simp [List.countP_cons, Slot.occupied]
      · rw [remove_free found]
        split
        · exact List.nodup_cons.mpr ⟨taken, regular.freeNodup⟩
        · exact regular.freeNodup
      · rw [remove_slots found, Array.getElem?_modify]
        by_cases same : handle.index = index
        · exact ⟨_, by rw [if_pos same, ← same, slotAt]; rfl, rfl⟩
        · have earlier : index ∈ heap.free := by
            rw [remove_free found] at member
            split at member
            · exact (List.mem_cons.mp member).resolve_left (fun equal => same equal.symm)
            · exact member
          rw [if_neg same]
          exact regular.vacant_of_free index earlier
      · rw [remove_slots found, Array.getElem?_modify] at slotFound
        rw [remove_free found]
        by_cases same : handle.index = index
        · rw [if_pos same, ← same, slotAt] at slotFound
          injection slotFound with slotEq
          subst slotEq
          have reused : handle.generation < Slot.lastGeneration := by
            by_contra last
            have kept : (Slot.vacated ⟨handle.generation, some resident⟩).generation =
                handle.generation := by simp [Slot.vacated, Slot.reusable, last]
            rw [kept] at below
            exact last below
          rw [if_pos reused, ← same]
          exact List.mem_cons_self
        · rw [if_neg same] at slotFound
          have earlier := regular.free_of_vacant index slot slotFound vacant below
          split
          · exact List.mem_cons_of_mem _ earlier
          · exact earlier
      · rw [remove_slots found, Array.getElem?_modify] at slotFound
        by_cases same : handle.index = index
        · rw [if_pos same, ← same, slotAt] at slotFound
          injection slotFound with slotEq
          subst slotEq
          exact Slot.vacated_generation_le _ (regular.bounded handle.index _ slotAt)
        · rw [if_neg same] at slotFound
          exact regular.bounded index slot slotFound

end Heap
end ScriptHost
