import ScriptHost.Proofs.Heap.Residence

set_option autoImplicit false

/-!
Arrivals in a heap, claims on its residents, and the queue.

A new resident has a handle that found nothing before. Pins and references only change their own
resident. Working off the queue takes away those of its handles that nothing claims, and no others,
however often a handle is in it.
-/

namespace ScriptHost

variable {α : Type}

namespace Resident

def anchored (resident : Resident α) : Resident α :=
  ⟨resident.content, resident.pinned, resident.anchors + 1⟩

def unanchored (resident : Resident α) : Resident α :=
  ⟨resident.content, resident.pinned, resident.anchors - 1⟩

def held (resident : Resident α) : Resident α :=
  ⟨resident.content, true, resident.anchors⟩

def unheld (resident : Resident α) : Resident α :=
  ⟨resident.content, false, resident.anchors⟩

end Resident

namespace Heap

theorem insert_cases {heap : Heap α} (regular : heap.Regular) (content : α) (pinned : Bool) :
    (∃ index rest generation, heap.free = index :: rest ∧
      heap.slots[index]? = some ⟨generation, none⟩ ∧
      heap.insert content pinned = (⟨index, generation⟩,
        ⟨heap.slots.modify index fun slot => ⟨slot.generation, some ⟨content, pinned, 0⟩⟩, rest,
          heap.live + 1, heap.released⟩)) ∨
    (heap.free = [] ∧ heap.insert content pinned = (⟨heap.slots.size, 0⟩,
      ⟨heap.slots.push ⟨0, some ⟨content, pinned, 0⟩⟩, [], heap.live + 1, heap.released⟩)) := by
  obtain ⟨slots, free, live, released⟩ := heap
  cases free with
  | nil => exact .inr ⟨rfl, rfl⟩
  | cons index rest =>
      obtain ⟨⟨generation, inside⟩, found, vacant⟩ :=
        regular.vacant_of_free index List.mem_cons_self
      change inside = none at vacant
      subst vacant
      refine .inl ⟨index, rest, generation, rfl, found, ?_⟩
      change slots[index]? = _ at found
      simp [insert, found]

theorem resident?_insert_handle {heap : Heap α} (regular : heap.Regular) (content : α)
    (pinned : Bool) : heap.resident? (heap.insert content pinned).1 = none := by
  rcases insert_cases regular content pinned with
    ⟨index, rest, generation, _, found, inserted⟩ | ⟨_, inserted⟩
  · rw [inserted]
    simp [resident?, found]
  · rw [inserted]
    simp [resident?]

theorem resident?_insert {heap : Heap α} (regular : heap.Regular) (content : α) (pinned : Bool)
    (other : Handle) :
    (heap.insert content pinned).2.resident? other =
      if other = (heap.insert content pinned).1 then some ⟨content, pinned, 0⟩
      else heap.resident? other := by
  rcases insert_cases regular content pinned with
    ⟨index, rest, generation, _, found, inserted⟩ | ⟨_, inserted⟩
  · rw [inserted]
    unfold resident?
    simp only [Array.getElem?_modify]
    by_cases same : other = ⟨index, generation⟩
    · subst other
      simp [found]
    · rw [if_neg same]
      by_cases sameIndex : index = other.index
      · have different : generation ≠ other.generation := fun sameGeneration =>
          same (by cases other; simp_all)
        rw [if_pos sameIndex, ← sameIndex, found]
        simp [different]
      · rw [if_neg sameIndex]
  · rw [inserted]
    unfold resident?
    simp only [Array.getElem?_push]
    by_cases same : other = ⟨heap.slots.size, 0⟩
    · subst other
      simp
    · rw [if_neg same]
      by_cases sameIndex : other.index = heap.slots.size
      · have different : 0 ≠ other.generation := fun sameGeneration =>
          same (by cases other; simp_all)
        simp [sameIndex, different]
      · rw [if_neg sameIndex]

theorem insert_released {heap : Heap α} (regular : heap.Regular) (content : α) (pinned : Bool) :
    (heap.insert content pinned).2.released = heap.released := by
  rcases insert_cases regular content pinned with
    ⟨index, rest, generation, _, found, inserted⟩ | ⟨_, inserted⟩ <;> rw [inserted]

theorem Regular.insert {heap : Heap α} (regular : heap.Regular) (content : α) (pinned : Bool) :
    (heap.insert content pinned).2.Regular := by
  rcases insert_cases regular content pinned with
    ⟨index, rest, generation, freeEq, found, inserted⟩ | ⟨freeEq, inserted⟩
  · rw [inserted]
    obtain ⟨before, after, around, length, changed⟩ := exists_around found
    have restNodup := regular.freeNodup
    rw [freeEq] at restNodup
    have apart : index ∉ rest := (List.nodup_cons.mp restNodup).1
    refine ⟨?_, (List.nodup_cons.mp restNodup).2, fun place member => ?_,
      fun place slot slotFound vacant below => ?_, fun place slot slotFound => ?_⟩
    · change heap.live + 1 = (heap.slots.modify index _).toList.countP Slot.occupied
      rw [regular.live, changed, around]
      simp only [List.countP_append, List.countP_cons, Slot.occupied, Option.isSome_none,
        Option.isSome_some, if_true, Bool.false_eq_true, if_false]
      omega
    · have elsewhere : index ≠ place := fun same => apart (same ▸ member)
      have earlier : place ∈ heap.free := freeEq ▸ List.mem_cons_of_mem _ member
      obtain ⟨slot, slotFound, vacant⟩ := regular.vacant_of_free place earlier
      exact ⟨slot, by simp [Array.getElem?_modify, elsewhere, slotFound], vacant⟩
    · change (heap.slots.modify index _)[place]? = _ at slotFound
      rw [Array.getElem?_modify] at slotFound
      by_cases same : index = place
      · rw [if_pos same, ← same, found] at slotFound
        injection slotFound with slotEq
        subst slotEq
        cases vacant
      · rw [if_neg same] at slotFound
        have earlier := regular.free_of_vacant place slot slotFound vacant below
        rw [freeEq] at earlier
        exact (List.mem_cons.mp earlier).resolve_left fun equal => same equal.symm
    · change (heap.slots.modify index _)[place]? = _ at slotFound
      rw [Array.getElem?_modify] at slotFound
      by_cases same : index = place
      · rw [if_pos same, ← same, found] at slotFound
        injection slotFound with slotEq
        subst slotEq
        have bounded := regular.bounded index _ found
        exact bounded
      · rw [if_neg same] at slotFound
        exact regular.bounded place slot slotFound
  · rw [inserted]
    refine ⟨?_, List.nodup_nil, fun place member => (List.not_mem_nil member).elim,
      fun place slot slotFound vacant below => ?_, fun place slot slotFound => ?_⟩
    · change heap.live + 1 = (heap.slots.push _).toList.countP Slot.occupied
      rw [regular.live, Array.toList_push, List.countP_append]
      rfl
    · change (heap.slots.push _)[place]? = _ at slotFound
      rw [Array.getElem?_push] at slotFound
      by_cases same : place = heap.slots.size
      · rw [if_pos same] at slotFound
        injection slotFound with slotEq
        subst slotEq
        cases vacant
      · rw [if_neg same] at slotFound
        have earlier := regular.free_of_vacant place slot slotFound vacant below
        rw [freeEq] at earlier
        exact earlier
    · change (heap.slots.push _)[place]? = _ at slotFound
      rw [Array.getElem?_push] at slotFound
      by_cases same : place = heap.slots.size
      · rw [if_pos same] at slotFound
        injection slotFound with slotEq
        subst slotEq
        exact Nat.zero_le _
      · rw [if_neg same] at slotFound
        exact regular.bounded place slot slotFound

theorem anchor_eq_ok {heap : Heap α} {handle : Handle} {resident : Resident α}
    (found : heap.resident? handle = some resident) :
    heap.anchor handle = .ok (heap.alter handle Resident.anchored) := by
  have inside : heap.contains handle = true := contains_iff.mpr ⟨resident, found⟩
  simp only [anchor, inside, if_true]
  rfl

theorem anchor_eq_error {heap : Heap α} {handle : Handle}
    (absent : heap.resident? handle = none) :
    heap.anchor handle = .error (.staleHandle handle) := by
  simp [anchor, contains, absent]

@[simp] theorem resident?_announce (heap : Heap α) (handle other : Handle) :
    (heap.announce handle).resident? other = heap.resident? other := rfl

@[simp] theorem released_announce (heap : Heap α) (handle : Handle) :
    (heap.announce handle).released = heap.released.push handle := rfl

theorem Regular.announce {heap : Heap α} (regular : heap.Regular) (handle : Handle) :
    (heap.announce handle).Regular :=
  ⟨regular.live, regular.freeNodup, regular.vacant_of_free, regular.free_of_vacant,
    regular.bounded⟩

theorem unanchor_eq {heap : Heap α} {handle : Handle} {resident : Resident α}
    (found : heap.resident? handle = some resident) :
    heap.unanchor handle =
      if resident.anchors ≤ 1 then (heap.alter handle Resident.unanchored).announce handle
      else heap.alter handle Resident.unanchored := by
  simp only [unanchor, found]
  rfl

theorem resident?_unanchor {heap : Heap α} {handle : Handle} {resident : Resident α}
    (found : heap.resident? handle = some resident) (other : Handle) :
    (heap.unanchor handle).resident? other =
      if other = handle then some resident.unanchored else heap.resident? other := by
  rw [unanchor_eq found]
  split
  · rw [resident?_announce, resident?_alter, found]
    rfl
  · rw [resident?_alter, found]
    rfl

def pinned? (heap : Heap α) (handle : Handle) : Option Bool :=
  (heap.resident? handle).map Resident.pinned

theorem contains_congr {heap after : Heap α} (same : after.pinned? = heap.pinned?)
    (handle : Handle) : after.contains handle = heap.contains handle := by
  have pinned := congrArg Option.isSome (congrFun same handle)
  rw [pinned?, pinned?, Option.isSome_map, Option.isSome_map] at pinned
  exact pinned

theorem pinned?_alter (heap : Heap α) (handle : Handle) (change : Resident α → Resident α)
    (same : ∀ resident, (change resident).pinned = resident.pinned) :
    (heap.alter handle change).pinned? = heap.pinned? := by
  funext other
  rw [pinned?, pinned?, resident?_alter]
  split
  · rename_i equal
    rw [equal]
    cases heap.resident? handle with
    | none => rfl
    | some resident => exact congrArg some (same resident)
  · rfl

theorem pinned?_unanchor (heap : Heap α) (handle : Handle) :
    (heap.unanchor handle).pinned? = heap.pinned? := by
  unfold unanchor
  split
  · have altered := pinned?_alter heap handle Resident.unanchored fun _ => rfl
    dsimp only
    split
    · exact altered
    · exact altered
  · rfl

theorem mem_released_unanchor {heap : Heap α} {handle : Handle} {resident : Resident α}
    (found : heap.resident? handle = some resident) {other : Handle} :
    other ∈ (heap.unanchor handle).released ↔
      other ∈ heap.released ∨ other = handle ∧ resident.anchors ≤ 1 := by
  rw [unanchor_eq found]
  split
  · rename_i last
    simp [last]
  · rename_i several
    simp [several]

theorem Regular.unanchor {heap : Heap α} (regular : heap.Regular) (handle : Handle) :
    (heap.unanchor handle).Regular := by
  cases found : heap.resident? handle with
  | none =>
      have unchanged : heap.unanchor handle = heap := by simp only [Heap.unanchor, found]
      rw [unchanged]
      exact regular
  | some resident =>
      rw [unanchor_eq found]
      split
      · exact (regular.alter handle _).announce handle
      · exact regular.alter handle _

theorem pin_eq_ok {heap : Heap α} {handle : Handle} {resident : Resident α}
    (found : heap.resident? handle = some resident) :
    heap.pin handle = .ok (heap.alter handle Resident.held) := by
  have inside : heap.contains handle = true := contains_iff.mpr ⟨resident, found⟩
  simp only [pin, inside, if_true]
  rfl

theorem pin_eq_error {heap : Heap α} {handle : Handle}
    (absent : heap.resident? handle = none) : heap.pin handle = .error (.staleHandle handle) := by
  simp [pin, contains, absent]

theorem unpin_eq_ok {heap : Heap α} {handle : Handle} {resident : Resident α}
    (found : heap.resident? handle = some resident) :
    heap.unpin handle = .ok ((heap.alter handle Resident.unheld).reclaim handle) := by
  have inside : heap.contains handle = true := contains_iff.mpr ⟨resident, found⟩
  simp only [unpin, inside, if_true]
  rfl

theorem unpin_eq_error {heap : Heap α} {handle : Handle}
    (absent : heap.resident? handle = none) :
    heap.unpin handle = .error (.staleHandle handle) := by
  simp [unpin, contains, absent]

theorem resident?_reclaim (heap : Heap α) (handle other : Handle) :
    (heap.reclaim handle).resident? other =
      if other = handle ∧ heap.unclaimed handle = true then none else heap.resident? other := by
  unfold reclaim
  by_cases unclaimed : heap.unclaimed handle = true
  · simp only [unclaimed, if_true, and_true]
    exact resident?_remove heap handle other
  · simp [unclaimed]

@[simp] theorem released_reclaim (heap : Heap α) (handle : Handle) :
    (heap.reclaim handle).released = heap.released := by
  unfold reclaim
  split
  · exact remove_released heap handle
  · rfl

theorem Regular.reclaim {heap : Heap α} (regular : heap.Regular) (handle : Handle) :
    (heap.reclaim handle).Regular := by
  unfold Heap.reclaim
  split
  · exact regular.remove handle
  · exact regular

theorem unclaimed_congr {heap heap' : Heap α} {handle : Handle}
    (same : heap'.resident? handle = heap.resident? handle) :
    heap'.unclaimed handle = heap.unclaimed handle := by
  simp only [unclaimed, same]

theorem unclaimed_remove (heap : Heap α) (handle other : Handle) :
    (heap.remove handle).unclaimed other = (heap.unclaimed other && !decide (other = handle)) := by
  unfold unclaimed
  rw [resident?_remove]
  by_cases same : other = handle
  · simp [same]
  · simp [same]

theorem resident?_sweep (handles : List Handle) (freed : Nat) (heap : Heap α) (other : Handle) :
    (sweep handles freed heap).2.resident? other =
      if other ∈ handles ∧ heap.unclaimed other = true then none else heap.resident? other := by
  induction handles generalizing freed heap with
  | nil => simp [sweep]
  | cons handle rest ih =>
      unfold sweep
      by_cases unclaimed : heap.unclaimed handle = true
      · rw [if_pos unclaimed, ih, unclaimed_remove, resident?_remove]
        by_cases same : other = handle
        · simp [same, unclaimed]
        · simp [same]
      · rw [if_neg unclaimed, ih]
        by_cases same : other = handle
        · subst other
          simp [unclaimed]
        · simp [same]

@[simp] theorem released_sweep (handles : List Handle) (freed : Nat) (heap : Heap α) :
    (sweep handles freed heap).2.released = heap.released := by
  induction handles generalizing freed heap with
  | nil => rfl
  | cons handle rest ih =>
      unfold sweep
      split
      · rw [ih, remove_released]
      · rw [ih]

theorem Regular.sweep {heap : Heap α} (regular : heap.Regular) (handles : List Handle)
    (freed : Nat) : (Heap.sweep handles freed heap).2.Regular := by
  induction handles generalizing freed heap with
  | nil => exact regular
  | cons handle rest ih =>
      unfold Heap.sweep
      split
      · exact ih (regular.remove handle) _
      · exact ih regular _

theorem Regular.forgetQueue {heap : Heap α} (regular : heap.Regular) :
    Regular ⟨heap.slots, heap.free, heap.live, #[]⟩ :=
  ⟨regular.live, regular.freeNodup, regular.vacant_of_free, regular.free_of_vacant,
    regular.bounded⟩

theorem Regular.collect {heap : Heap α} (regular : heap.Regular) : heap.collect.2.Regular :=
  regular.forgetQueue.sweep heap.released.toList 0

@[simp] theorem released_collect (heap : Heap α) : heap.collect.2.released = #[] :=
  released_sweep _ _ _

theorem collect_collect (heap : Heap α) : heap.collect.2.collect.2 = heap.collect.2 := by
  have empty := released_collect heap
  cases same : heap.collect.2 with
  | mk slots free live released =>
      rw [same] at empty
      have none : released = #[] := empty
      rw [none]
      rfl

theorem resident?_collect (heap : Heap α) (other : Handle) :
    heap.collect.2.resident? other =
      if other ∈ heap.released ∧ heap.unclaimed other = true then none
      else heap.resident? other := by
  refine (resident?_sweep _ _ _ other).trans ?_
  simp only [Array.mem_toList_iff]
  rfl

def handles (heap : Heap α) : List Handle :=
  (heap.slots.toList.zipIdx.filter fun entry => entry.1.occupied).map fun entry =>
    ⟨entry.2, entry.1.generation⟩

theorem mem_handles {heap : Heap α} {handle : Handle} :
    handle ∈ heap.handles ↔ heap.contains handle = true := by
  rw [contains_iff]
  simp only [handles, List.mem_map, List.mem_filter, Prod.exists, List.mem_zipIdx_iff_getElem?]
  constructor
  · rintro ⟨⟨generation, inside⟩, index, ⟨found, occupied⟩, rfl⟩
    obtain ⟨resident, rfl⟩ := Option.isSome_iff_exists.mp occupied
    exact ⟨resident, resident?_eq_some_iff.mpr (by simpa using found)⟩
  · rintro ⟨resident, found⟩
    refine ⟨⟨handle.generation, some resident⟩, handle.index, ⟨?_, rfl⟩, rfl⟩
    simpa using resident?_eq_some_iff.mp found

theorem nodup_handles (heap : Heap α) : heap.handles.Nodup := by
  have indices : ((heap.slots.toList.zipIdx.filter fun entry => entry.1.occupied).map
      Prod.snd).Nodup := by
    apply List.Nodup.sublist (List.Sublist.map Prod.snd List.filter_sublist)
    rw [List.zipIdx_map_snd]
    exact List.nodup_range'
  apply List.Nodup.of_map Handle.index
  rw [handles, List.map_map]
  exact indices

theorem length_handles {heap : Heap α} (regular : heap.Regular) :
    heap.handles.length = heap.live := by
  rw [handles, List.length_map, ← List.countP_eq_length_filter, regular.live]
  have forget : (heap.slots.toList.zipIdx.map Prod.fst).countP Slot.occupied =
      heap.slots.toList.zipIdx.countP fun entry => entry.1.occupied := List.countP_map
  rw [List.zipIdx_map_fst] at forget
  exact forget.symm

theorem live_remove {heap : Heap α} (regular : heap.Regular) {handle : Handle}
    (inside : heap.contains handle = true) : (heap.remove handle).live + 1 = heap.live := by
  obtain ⟨resident, found⟩ := contains_iff.mp inside
  have positive := regular.live_pos found
  rw [remove_live found]
  omega

theorem sweep_live {heap : Heap α} (regular : heap.Regular) (handles : List Handle)
    (freed : Nat) :
    (sweep handles freed heap).1 + (sweep handles freed heap).2.live = freed + heap.live := by
  induction handles generalizing freed heap with
  | nil => rfl
  | cons handle rest ih =>
      unfold sweep
      split
      · rename_i unclaimed
        have less := live_remove regular (contains_of_unclaimed unclaimed)
        rw [ih (regular.remove handle)]
        omega
      · exact ih regular _

theorem collect_count {heap : Heap α} (regular : heap.Regular)
    (queued : ∀ handle, heap.unclaimed handle = true → handle ∈ heap.released) :
    heap.collect.1 = (heap.handles.filter heap.unclaimed).length := by
  have total : heap.collect.1 + heap.collect.2.live = 0 + heap.live :=
    sweep_live regular.forgetQueue heap.released.toList 0
  have kept : heap.collect.2.handles.Perm
      (heap.handles.filter fun handle => !heap.unclaimed handle) := by
    apply (List.perm_ext_iff_of_nodup (nodup_handles _) ((nodup_handles heap).filter _)).mpr
    intro handle
    rw [mem_handles, List.mem_filter, mem_handles, contains, resident?_collect]
    by_cases unclaimed : heap.unclaimed handle = true
    · simp [unclaimed, queued handle unclaimed]
    · simp [unclaimed, contains]
  have keptLength := kept.length_eq
  rw [length_handles regular.collect] at keptLength
  have parts := List.length_eq_length_filter_add (l := heap.handles) heap.unclaimed
  rw [length_handles regular] at parts
  omega

end Heap
end ScriptHost
