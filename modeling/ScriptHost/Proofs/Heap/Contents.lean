import ScriptHost.Proofs.Heap.Histories

/-!
What the instances of a heap hold.

A handle that has found an instance finds the same content as long as the instance stays, unless it
is replaced. Claims on instances come and go, other instances are inserted and removed, and slots
are used again, but none of this gives the handle another content.
-/

set_option autoImplicit false

namespace ScriptHost

variable {α : Type}

namespace Heap

def content? (heap : Heap α) (handle : Handle) : Option α :=
  (heap.resident? handle).map Resident.content

/-- The slots with the contents of the instances in them, whoever has a claim on these. -/
def bare (heap : Heap α) : Array (Nat × Option α) × List Nat × Nat :=
  (heap.slots.map fun slot => (slot.generation, slot.resident?.map Resident.content), heap.free,
    heap.live)

theorem bare_slot {first second : Heap α} (same : second.bare = first.bare) {index : Nat}
    {slot : Slot α} (slotAt : second.slots[index]? = some slot) :
    ∃ other, first.slots[index]? = some other ∧ other.generation = slot.generation ∧
      other.resident?.map Resident.content = slot.resident?.map Resident.content := by
  have slots := congrArg (fun bare => bare.1[index]?) same
  simp only [bare, Array.getElem?_map, slotAt] at slots
  obtain ⟨other, otherAt, same⟩ := Option.map_eq_some_iff.mp slots.symm
  injection same with sameGeneration sameContent
  exact ⟨other, otherAt, sameGeneration, sameContent⟩

theorem content?_eq (heap : Heap α) (handle : Handle) :
    heap.content? handle =
      match heap.bare.1[handle.index]? with
      | some (generation, content?) => if generation = handle.generation then content? else none
      | none => none := by
  simp only [content?, resident?, bare, Array.getElem?_map]
  cases heap.slots[handle.index]? with
  | none => rfl
  | some slot =>
      dsimp only [Option.map_some]
      split <;> rfl

theorem content?_of_bare {first second : Heap α} (same : second.bare = first.bare) :
    second.content? = first.content? := by
  funext handle
  rw [content?_eq, content?_eq, same]

theorem contains_of_bare {first second : Heap α} (same : second.bare = first.bare)
    (handle : Handle) : second.contains handle = first.contains handle := by
  have contents := congrArg Option.isSome (congrFun (content?_of_bare same) handle)
  rw [content?, content?, Option.isSome_map, Option.isSome_map] at contents
  exact contents

theorem bare_alter (heap : Heap α) (handle : Handle) {change : Resident α → Resident α}
    (same : ∀ resident, (change resident).content = resident.content) :
    (heap.alter handle change).bare = heap.bare := by
  cases found : heap.resident? handle with
  | none => rw [alter_of_absent found]
  | some resident =>
      unfold bare
      rw [alter_slots found, alter_free, alter_live]
      congr 1
      apply Array.ext_getElem?
      intro index
      rw [Array.getElem?_map, Array.getElem?_map, Array.getElem?_modify]
      split
      · cases heap.slots[index]? with
        | none => rfl
        | some slot =>
            have contents : Resident.content ∘ change = Resident.content := funext same
            simp [contents]
      · rfl

theorem bare_unanchor (heap : Heap α) (handle : Handle) :
    (heap.unanchor handle).bare = heap.bare := by
  unfold unanchor
  split
  · have altered := @bare_alter α heap handle Resident.unanchored fun _ => rfl
    dsimp only
    split
    · exact altered
    · exact altered
  · rfl

theorem countP_bare (heap : Heap α) :
    heap.slots.toList.countP Slot.occupied =
      heap.bare.1.toList.countP fun slot => slot.2.isSome := by
  have occupied : Slot.occupied =
      (fun slot : Nat × Option α => slot.2.isSome) ∘
        fun slot : Slot α => (slot.generation, slot.resident?.map Resident.content) := by
    funext slot
    exact Option.isSome_map.symm
  unfold bare
  rw [Array.toList_map, List.countP_map, occupied]

theorem Regular.of_bare {first second : Heap α} (same : second.bare = first.bare)
    (regular : first.Regular) : second.Regular := by
  have free : second.free = first.free := congrArg (fun bare => bare.2.1) same
  have live : second.live = first.live := congrArg (fun bare => bare.2.2) same
  have vacant : ∀ {slot other : Slot α},
      slot.resident?.map Resident.content = other.resident?.map Resident.content →
        (slot.resident? = none ↔ other.resident? = none) := by
    intro slot other contents
    rw [← Option.map_eq_none_iff, contents, Option.map_eq_none_iff]
  have counted : second.slots.toList.countP Slot.occupied =
      first.slots.toList.countP Slot.occupied := by
    rw [countP_bare, countP_bare, same]
  refine ⟨?_, ?_, fun index member => ?_, fun index slot slotAt none below => ?_,
    fun index slot slotAt => ?_⟩
  · rw [live, counted]
    exact regular.live
  · rw [free]
    exact regular.freeNodup
  · rw [free] at member
    obtain ⟨slot, slotAt, none⟩ := regular.vacant_of_free index member
    obtain ⟨other, otherAt, _, contents⟩ := bare_slot same.symm slotAt
    exact ⟨other, otherAt, (vacant contents).mpr none⟩
  · obtain ⟨other, otherAt, generation, contents⟩ := bare_slot same slotAt
    rw [free]
    apply regular.free_of_vacant index other otherAt ((vacant contents).mpr none)
    omega
  · obtain ⟨other, otherAt, generation, _⟩ := bare_slot same slotAt
    have bounded := regular.bounded index other otherAt
    omega

theorem Spent.of_bare {first second : Heap α} (same : second.bare = first.bare) {handle : Handle}
    (spent : first.Spent handle) : second.Spent handle := by
  have free : second.free = first.free := congrArg (fun bare => bare.2.1) same
  obtain ⟨slot, slotAt, passed⟩ := spent
  obtain ⟨other, otherAt, generation, _⟩ := bare_slot same.symm slotAt
  refine ⟨other, otherAt, ?_⟩
  rw [generation, free]
  exact passed

/-- A handle that is used up, and that finds nothing but this content. -/
structure Retains (handle : Handle) (content : α) (heap : Heap α) : Prop where
  regular : heap.Regular
  spent : heap.Spent handle
  found : ∀ now, heap.content? handle = some now → now = content

theorem content?_eq_some_iff {heap : Heap α} {handle : Handle} {content : α} :
    heap.content? handle = some content ↔
      ∃ resident, heap.resident? handle = some resident ∧ resident.content = content :=
  Option.map_eq_some_iff

namespace Retains

variable {handle : Handle} {content : α} {heap : Heap α}

theorem of_content (regular : heap.Regular) (found : heap.content? handle = some content) :
    Retains handle content heap := by
  obtain ⟨resident, resides, _⟩ := content?_eq_some_iff.mp found
  refine ⟨regular, spent_of_resident regular resides, fun now same => ?_⟩
  exact Option.some.inj (same.symm.trans found)

theorem of_bare {later : Heap α} (same : later.bare = heap.bare)
    (retains : Retains handle content heap) : Retains handle content later := by
  refine ⟨retains.regular.of_bare same, retains.spent.of_bare same, fun now found => ?_⟩
  rw [content?_of_bare same] at found
  exact retains.found now found

theorem replace_other (retains : Retains handle content heap) {other : Handle}
    (different : handle ≠ other) (stored : α) :
    Retains handle content (heap.replace other stored) := by
  refine ⟨retains.regular.alter other _, retains.spent.alter other _, fun now found => ?_⟩
  apply retains.found now
  rw [← found, content?, content?]
  unfold replace
  rw [resident?_alter, if_neg different]

theorem replace_self (retains : Retains handle content heap) (stored : α) :
    Retains handle stored (heap.replace handle stored) := by
  refine ⟨retains.regular.alter handle _, retains.spent.alter handle _, fun now found => ?_⟩
  obtain ⟨resident, resides, same⟩ := content?_eq_some_iff.mp found
  unfold replace at resides
  rw [resident?_alter, if_pos rfl] at resides
  obtain ⟨before, _, rfl⟩ := Option.map_eq_some_iff.mp resides
  exact same.symm

end Retains

theorem enduring_retains (handle : Handle) (content : α) : Enduring (Retains handle content) where
  regular retains := retains.regular
  insert {heap} inserted pinned retains := by
    have another : handle ≠ (heap.insert inserted pinned).1 := fun same =>
      not_spent_insert_handle retains.regular inserted pinned (same ▸ retains.spent)
    refine ⟨retains.regular.insert inserted pinned,
      retains.spent.insert retains.regular inserted pinned, fun now found => ?_⟩
    rw [content?, resident?_insert retains.regular, if_neg another] at found
    exact retains.found now found
  alter other _ same retains := retains.of_bare (bare_alter _ other same)
  remove {heap} other retains := by
    refine ⟨retains.regular.remove other, retains.spent.remove retains.regular other, fun now found => ?_⟩
    rw [content?, resident?_remove] at found
    split at found
    · cases found
    · exact retains.found now found
  queue {heap} queue retains :=
    @Retains.of_bare _ handle content heap ⟨heap.slots, heap.free, heap.live, queue⟩ rfl retains

end Heap
end ScriptHost
