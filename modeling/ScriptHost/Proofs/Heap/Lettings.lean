import ScriptHost.Proofs.Heap.Claims

set_option autoImplicit false

/-!
How often the slots of a heap have been let.

A slot is let at the generations from zero on, one after the other. It is free at the generation at
which it is let next, so the generation of a free slot is the number of times it has been let, and
one more time is due for a slot that is occupied, or that is not used again. Only insertions change
this number: a removal at an early generation moves on to the next one and makes the slot free, and
one at the last generation does neither.
-/

namespace ScriptHost

variable {α : Type}

namespace Heap

/-- How many instances have had the slot so far. -/
def lettings (heap : Heap α) (index : Nat) : Nat :=
  match heap.slots[index]? with
  | some slot => if index ∈ heap.free then slot.generation else slot.generation + 1
  | none => 0

variable {heap : Heap α}

theorem lettings_of_free {index : Nat} {slot : Slot α} (slotAt : heap.slots[index]? = some slot)
    (free : index ∈ heap.free) : heap.lettings index = slot.generation := by
  simp only [lettings, slotAt, if_pos free]

theorem lettings_of_taken {index : Nat} {slot : Slot α} (slotAt : heap.slots[index]? = some slot)
    (taken : index ∉ heap.free) : heap.lettings index = slot.generation + 1 := by
  simp only [lettings, slotAt, if_neg taken]

theorem lettings_of_beyond {index : Nat} (beyond : heap.slots[index]? = none) :
    heap.lettings index = 0 := by
  simp only [lettings, beyond]

theorem lettings_alter (heap : Heap α) (handle : Handle) (change : Resident α → Resident α)
    (index : Nat) : (heap.alter handle change).lettings index = heap.lettings index := by
  cases found : heap.resident? handle with
  | none => rw [alter_of_absent found]
  | some resident =>
      unfold lettings
      rw [alter_slots found, alter_free, Array.getElem?_modify]
      by_cases same : handle.index = index
      · rw [if_pos same]
        cases heap.slots[index]? <;> rfl
      · rw [if_neg same]

theorem lettings_remove (regular : heap.Regular) (handle : Handle) (index : Nat) :
    (heap.remove handle).lettings index = heap.lettings index := by
  cases found : heap.resident? handle with
  | none => rw [remove_of_absent found]
  | some resident =>
      have slotAt := resident?_eq_some_iff.mp found
      have taken := regular.not_mem_free found
      by_cases same : handle.index = index
      · subst same
        have slotNow : (heap.remove handle).slots[handle.index]? =
            some (Slot.vacated ⟨handle.generation, some resident⟩) := by
          rw [remove_slots found, Array.getElem?_modify, if_pos rfl, slotAt]
          rfl
        rw [lettings_of_taken slotAt taken]
        by_cases reusable : handle.generation < Slot.lastGeneration
        · have free : handle.index ∈ (heap.remove handle).free := by
            rw [remove_free found, if_pos reusable]
            exact List.mem_cons_self
          rw [lettings_of_free slotNow free]
          simp [Slot.vacated, Slot.reusable, reusable]
        · have retired : handle.index ∉ (heap.remove handle).free := by
            rw [remove_free found, if_neg reusable]
            exact taken
          rw [lettings_of_taken slotNow retired]
          simp [Slot.vacated, Slot.reusable, reusable]
      · have sameFree : index ∈ (heap.remove handle).free ↔ index ∈ heap.free := by
          rw [remove_free found]
          split
          · exact ⟨fun member => (List.mem_cons.mp member).resolve_left fun equal =>
              same equal.symm, List.mem_cons_of_mem _⟩
          · exact Iff.rfl
        unfold lettings
        rw [remove_slots found, Array.getElem?_modify, if_neg same]
        simp only [sameFree]

theorem generation_insert (regular : heap.Regular) (content : α) (pinned : Bool) :
    (heap.insert content pinned).1.generation =
      heap.lettings (heap.insert content pinned).1.index := by
  rcases insert_cases regular content pinned with
    ⟨index, rest, generation, freeEq, found, inserted⟩ | ⟨freeEq, inserted⟩
  · rw [inserted]
    exact (lettings_of_free found (freeEq ▸ List.mem_cons_self)).symm
  · rw [inserted]
    exact (lettings_of_beyond (Array.getElem?_eq_none (Nat.le_refl _))).symm

theorem lettings_insert (regular : heap.Regular) (content : α) (pinned : Bool) (index : Nat) :
    (heap.insert content pinned).2.lettings index =
      if index = (heap.insert content pinned).1.index then heap.lettings index + 1
      else heap.lettings index := by
  rcases insert_cases regular content pinned with
    ⟨place, rest, generation, freeEq, found, inserted⟩ | ⟨freeEq, inserted⟩
  · have freeNodup := regular.freeNodup
    rw [freeEq] at freeNodup
    have taken : place ∉ rest := (List.nodup_cons.mp freeNodup).1
    rw [inserted]
    by_cases same : index = place
    · subst same
      rw [if_pos rfl, lettings_of_free found (freeEq ▸ List.mem_cons_self)]
      simp [lettings, Array.getElem?_modify, found, taken]
    · rw [if_neg same]
      simp [lettings, Array.getElem?_modify, freeEq, same, Ne.symm same]
  · rw [inserted]
    by_cases same : index = heap.slots.size
    · subst same
      simp [lettings]
    · simp [lettings, freeEq, Array.getElem?_push, same]

end Heap
end ScriptHost
