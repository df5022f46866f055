import ScriptHost.Proofs.Heap.Claims

set_option autoImplicit false

/-!
Emptying a heap.

Clearing goes over the slots and counts nothing on its way. Here it is the same as removing the
residents one after the other and forgetting the queue, so what removals keep, clearing keeps.
-/

namespace ScriptHost

variable {α : Type}

namespace Heap

theorem resident?_eq_none_of_vacant {heap : Heap α} {index : Nat}
    (vacant : heap.occupied index = false) {handle : Handle} (there : handle.index = index) :
    heap.resident? handle = none := by
  unfold occupied at vacant
  unfold resident?
  rw [there]
  cases found : heap.slots[index]? with
  | none => rfl
  | some slot =>
      rw [found] at vacant
      have nobody : slot.resident? = none :=
        Option.isNone_iff_eq_none.mp (Option.isSome_eq_false_iff.mp vacant)
      simp [nobody]

def evict (heap : Heap α) (index : Nat) : Heap α :=
  match heap.slots[index]? with
  | some slot => heap.remove ⟨index, slot.generation⟩
  | none => heap

theorem evict_of_vacant {heap : Heap α} {index : Nat} (vacant : heap.occupied index = false) :
    heap.evict index = heap := by
  unfold evict
  split
  · exact remove_of_absent (resident?_eq_none_of_vacant vacant rfl)
  · rfl

theorem evict_of_occupied {heap : Heap α} {index : Nat} (occupied : heap.occupied index = true) :
    heap.evict index =
      ⟨(heap.vacate index).slots, (heap.vacate index).free, heap.live - 1, heap.released⟩ := by
  unfold Heap.occupied at occupied
  cases found : heap.slots[index]? with
  | none =>
      rw [found] at occupied
      cases occupied
  | some slot =>
      rw [found] at occupied
      have inside : heap.contains ⟨index, slot.generation⟩ = true := by
        simp [contains, resident?, found, occupied]
      simp only [evict, found, remove, inside, if_true]
      rfl

theorem resident?_evict (heap : Heap α) (index : Nat) (other : Handle) :
    (heap.evict index).resident? other =
      if other.index = index then none else heap.resident? other := by
  by_cases there : other.index = index
  · rw [if_pos there]
    cases found : heap.slots[index]? with
    | none => simp [evict, resident?, found, there]
    | some slot =>
        simp only [evict, found, resident?_remove]
        by_cases same : other = ⟨index, slot.generation⟩
        · rw [if_pos same]
        · have different : slot.generation ≠ other.generation := fun sameGeneration =>
            same (by cases other; simp_all)
          rw [if_neg same]
          simp [resident?, there, found, different]
  · rw [if_neg there]
    cases found : heap.slots[index]? with
    | none => simp [evict, found]
    | some slot =>
        have elsewhere : other ≠ ⟨index, slot.generation⟩ := fun same => there (same ▸ rfl)
        simp only [evict, found, resident?_remove, if_neg elsewhere]

theorem resident?_foldl_evict (indices : List Nat) (heap : Heap α) (other : Handle) :
    (indices.foldl evict heap).resident? other =
      if other.index ∈ indices then none else heap.resident? other := by
  induction indices generalizing heap with
  | nil => simp
  | cons index rest ih =>
      rw [List.foldl_cons, ih, resident?_evict]
      by_cases there : other.index = index
      · simp [there]
      · simp [there]

/-- Emptying slots one after the other does the same to slots and free list, whether the live
instances are counted on the way or not. -/
theorem foldl_vacate (indices : List Nat) (counted uncounted : Heap α)
    (sameSlots : uncounted.slots = counted.slots) (sameFree : uncounted.free = counted.free) :
    (indices.foldl (fun heap index => if heap.occupied index then heap.vacate index else heap)
        uncounted).slots = (indices.foldl evict counted).slots ∧
      (indices.foldl (fun heap index => if heap.occupied index then heap.vacate index else heap)
        uncounted).free = (indices.foldl evict counted).free := by
  induction indices generalizing counted uncounted with
  | nil => exact ⟨sameSlots, sameFree⟩
  | cons index rest ih =>
      have sameOccupied : uncounted.occupied index = counted.occupied index := by
        simp only [Heap.occupied, sameSlots]
      rw [List.foldl_cons, List.foldl_cons]
      cases occupied : counted.occupied index with
      | false =>
          rw [sameOccupied, occupied, evict_of_vacant occupied]
          exact ih counted uncounted sameSlots sameFree
      | true =>
          rw [sameOccupied, occupied, evict_of_occupied occupied]
          apply ih
          · simp only [if_true, vacate, sameSlots]
          · simp only [if_true, vacate, sameSlots, sameFree]

theorem foldl_evict_keeps {kept : Heap α → Prop}
    (removal : ∀ heap handle, kept heap → kept (heap.remove handle)) (indices : List Nat)
    {heap : Heap α} (before : kept heap) : kept (indices.foldl evict heap) := by
  induction indices generalizing heap with
  | nil => exact before
  | cons index rest ih =>
      apply ih
      unfold evict
      split
      · exact removal _ _ before
      · exact before

theorem live_of_deserted {heap : Heap α} (regular : heap.Regular)
    (deserted : ∀ handle, heap.resident? handle = none) : heap.live = 0 := by
  have nobody : heap.handles = [] := by
    apply List.eq_nil_iff_forall_not_mem.mpr
    intro handle member
    have inside := mem_handles.mp member
    simp [contains, deserted handle] at inside
  rw [← length_handles regular, nobody]
  rfl

theorem resident?_of_beyond {heap : Heap α} {handle : Handle}
    (beyond : heap.slots.size ≤ handle.index) : heap.resident? handle = none := by
  simp [resident?, Array.getElem?_eq_none beyond]

def evictAll (heap : Heap α) : Heap α :=
  (List.range heap.slots.size).foldl evict heap

theorem resident?_evictAll (heap : Heap α) (handle : Handle) :
    heap.evictAll.resident? handle = none := by
  refine (resident?_foldl_evict _ heap handle).trans ?_
  split
  · rfl
  · rename_i beyond
    exact resident?_of_beyond (Nat.le_of_not_lt fun below => beyond (List.mem_range.mpr below))

theorem Regular.evictAll {heap : Heap α} (regular : heap.Regular) : heap.evictAll.Regular := by
  unfold Heap.evictAll
  apply foldl_evict_keeps _ _ regular
  intro heap handle before
  exact before.remove handle

/-- Clearing is removing everybody and forgetting the queue. -/
theorem clear_eq {heap : Heap α} (regular : heap.Regular) :
    heap.clear = ⟨heap.evictAll.slots, heap.evictAll.free, heap.evictAll.live, #[]⟩ := by
  -- Removals count the live instances down, clearing sets them to zero.
  have nobody : heap.evictAll.live = 0 :=
    live_of_deserted regular.evictAll (resident?_evictAll heap)
  obtain ⟨sameSlots, sameFree⟩ := foldl_vacate (List.range heap.slots.size) heap heap rfl rfl
  rw [nobody]
  simp only [clear, sameSlots, sameFree]
  rfl

theorem resident?_clear {heap : Heap α} (regular : heap.Regular) (handle : Handle) :
    heap.clear.resident? handle = none := by
  rw [clear_eq regular]
  exact resident?_evictAll heap handle

end Heap
end ScriptHost
