import ScriptHost.Proofs.Heap.Histories

set_option autoImplicit false

/-!
The slots of a heap, the list of the free ones and the counter of live instances.

Whatever is done to a heap, the counter counts the occupied slots, and the list has each vacant
slot once that can be used again. The handles given out so far are those of the generations at
which their slots have been let, so a vacant slot that is not free is known to have been let at the
last generation, and to have lost that instance.
-/

namespace ScriptHost

variable {α : Type}

namespace Heap

theorem receding_lettings (lettings : Nat → Nat) :
    Receding fun heap : Heap α => heap.Regular ∧ heap.lettings = lettings where
  regular kept := kept.1
  alter handle change _ kept :=
    ⟨kept.1.alter handle change, (funext (lettings_alter _ handle change)).trans kept.2⟩
  remove handle kept :=
    ⟨kept.1.remove handle, (funext (lettings_remove kept.1 handle)).trans kept.2⟩
  queue queue kept := ⟨lasting_regular.queue queue kept.1, kept.2⟩

theorem lettings_act {heap : Heap α} (regular : heap.Regular) {act : Act α}
    (none : heap.issued? act = none) : (heap.act act).lettings = heap.lettings := by
  have receding := @receding_lettings α heap.lettings
  have before : heap.Regular ∧ heap.lettings = heap.lettings := ⟨regular, rfl⟩
  cases act with
  | insert content pinned => cases none
  | replace handle content => exact funext (lettings_alter heap handle _)
  | pin handle => exact (receding.pin handle before).2
  | unpin handle => exact (receding.unpin handle before).2
  | anchor handle => exact (receding.anchor handle before).2
  | unanchor handle => exact (receding.unanchor handle before).2
  | announce handle => exact (receding.announce handle before).2
  | collect => exact (receding.collect before).2
  | sweep handles => exact (receding.sweep handles 0 before).2
  | clear => exact (receding.clear before).2

namespace History

/-- The handles given out are those of the generations at which the slots have been let. -/
structure Complete (history : History α) : Prop where
  regular : history.heap.Regular
  issued : ∀ handle, handle ∈ history.issued ↔
    handle.generation < history.heap.lettings handle.index

theorem complete_start : Complete (start : History α) where
  regular := regular_empty
  issued handle := by simp [start, lettings, empty]

theorem Complete.step {history : History α} (complete : history.Complete) (act : Act α) :
    (history.step act).Complete := by
  refine ⟨lasting_regular.act act complete.regular, fun handle => ?_⟩
  cases given : history.heap.issued? act with
  | none =>
      change handle ∈ (history.heap.issued? act).toList ++ history.issued ↔
        handle.generation < (history.heap.act act).lettings handle.index
      rw [given, lettings_act complete.regular given]
      exact complete.issued handle
  | some newest =>
      cases act with
      | insert content pinned =>
          obtain rfl : (history.heap.insert content pinned).1 = newest := Option.some.inj given
          change handle ∈ (history.heap.insert content pinned).1 :: history.issued ↔
            handle.generation < (history.heap.insert content pinned).2.lettings handle.index
          have generation := generation_insert complete.regular content pinned
          rw [List.mem_cons, complete.issued, lettings_insert complete.regular]
          -- The slot let now has been let at all generations before that of the new handle.
          by_cases sameIndex : handle.index = (history.heap.insert content pinned).1.index
          · have isNewest : handle = (history.heap.insert content pinned).1 ↔
                handle.generation = (history.heap.insert content pinned).1.generation :=
              ⟨fun same => same ▸ rfl, fun same => by
                cases handle
                exact (Handle.mk.injEq ..).mpr ⟨sameIndex, same⟩⟩
            rw [if_pos sameIndex, isNewest, generation, sameIndex]
            omega
          · rw [if_neg sameIndex]
            exact or_iff_right fun same => sameIndex (same ▸ rfl)
      | _ => cases given

theorem Complete.run {history : History α} (complete : history.Complete) (acts : List (Act α)) :
    (history.run acts).Complete := by
  induction acts generalizing history with
  | nil => exact complete
  | cons act rest ih => exact ih (complete.step act)

end History

theorem unpin_live {heap after : Heap α} (regular : heap.Regular) {handle : Handle}
    (unpinned : heap.unpin handle = .ok after) :
    after.live + (if after.contains handle then 0 else 1) = heap.live := by
  cases found : heap.resident? handle with
  | none =>
      rw [unpin_eq_error found] at unpinned
      cases unpinned
  | some resident =>
      rw [unpin_eq_ok found] at unpinned
      obtain rfl := Except.ok.inj unpinned
      have altered := regular.alter handle Resident.unheld
      have inside : (heap.alter handle Resident.unheld).contains handle = true := by
        rw [contains, resident?_alter, if_pos rfl, found]
        rfl
      unfold reclaim
      by_cases unclaimed : (heap.alter handle Resident.unheld).unclaimed handle = true
      · have less := live_remove altered inside
        rw [alter_live] at less
        have gone : ((heap.alter handle Resident.unheld).remove handle).contains handle =
            false := by
          rw [contains, resident?_remove, if_pos rfl]
          rfl
        rw [if_pos unclaimed, gone]
        exact less
      · rw [if_neg unclaimed, inside, alter_live]
        rfl

theorem insert_slots {heap : Heap α} (regular : heap.Regular) (content : α) (pinned : Bool) :
    heap.occupied (heap.insert content pinned).1.index = false ∧
      ∀ index ≠ (heap.insert content pinned).1.index,
        (heap.insert content pinned).2.slots[index]? = heap.slots[index]? := by
  rcases insert_cases regular content pinned with
    ⟨place, rest, generation, freeEq, found, inserted⟩ | ⟨freeEq, inserted⟩
  · rw [inserted]
    refine ⟨by simp [occupied, found], fun index other => ?_⟩
    exact (Array.getElem?_modify ..).trans (if_neg (Ne.symm other))
  · rw [inserted]
    refine ⟨by simp [occupied], fun index other => ?_⟩
    exact (Array.getElem?_push ..).trans (if_neg other)

/-- A slot is opened only when none is free. -/
theorem free_of_insert_beyond {heap : Heap α} (regular : heap.Regular) {content : α}
    {pinned : Bool} (beyond : (heap.insert content pinned).1.index = heap.slots.size) :
    heap.free = [] := by
  rcases insert_cases regular content pinned with
    ⟨place, rest, generation, freeEq, found, inserted⟩ | ⟨freeEq, inserted⟩
  · rw [inserted] at beyond
    have within := (Array.getElem?_eq_some_iff.mp found).1
    exact absurd beyond (Nat.ne_of_lt within)
  · exact freeEq

namespace History

/-- The instance that had the slot last had the last generation, and is gone. -/
structure Retired (history : History α) (index : Nat) : Prop where
  vacant : history.heap.slots[index]? = some ⟨Slot.lastGeneration, none⟩
  issued : ⟨index, Slot.lastGeneration⟩ ∈ history.issued

theorem Complete.retired {history : History α} (complete : history.Complete) {index : Nat}
    {slot : Slot α} (slotAt : history.heap.slots[index]? = some slot)
    (vacant : slot.resident? = none) (taken : index ∉ history.heap.free) :
    history.Retired index := by
  have regular := complete.regular
  have last : slot.generation = Slot.lastGeneration := by
    have bounded := regular.bounded index slot slotAt
    have passed := mt (regular.free_of_vacant index slot slotAt vacant) taken
    omega
  obtain ⟨generation, inside⟩ := slot
  change inside = none at vacant
  change generation = _ at last
  subst vacant last
  refine ⟨slotAt, (complete.issued _).mpr ?_⟩
  rw [lettings_of_taken slotAt taken]
  exact Nat.lt_succ_self _

structure Accounted (history : History α) : Prop where
  regular : history.heap.Regular
  /-- A vacant slot that is not free is not lost: it cannot be used again. -/
  retired : ∀ index slot, history.heap.slots[index]? = some slot → slot.resident? = none →
    index ∉ history.heap.free → history.Retired index
  /-- The counter is above zero whenever it goes down: what goes and what stays add up. -/
  unpinned : ∀ handle after, history.heap.unpin handle = .ok after →
    after.live + (if after.contains handle then 0 else 1) = history.heap.live
  swept : ∀ handles, (history.heap.sweep handles 0).1 + (history.heap.sweep handles 0).2.live =
    history.heap.live
  collected : history.heap.collect.1 + history.heap.collect.2.live = history.heap.live
  /-- A new instance takes the place of nobody. -/
  inserted : ∀ content pinned,
    history.heap.occupied (history.heap.insert content pinned).1.index = false ∧
    (∀ index ≠ (history.heap.insert content pinned).1.index,
      (history.heap.insert content pinned).2.slots[index]? = history.heap.slots[index]?) ∧
    (history.heap.insert content pinned).2.resident? (history.heap.insert content pinned).1 =
      some ⟨content, pinned, 0⟩
  /-- No slot is opened while there is one to be used again. -/
  opened : ∀ content pinned,
    (history.heap.insert content pinned).1.index = history.heap.slots.size →
    ∀ index slot, history.heap.slots[index]? = some slot → slot.resident? = none →
      history.Retired index

end History

theorem History.heap_run (history : History α) (acts : List (Act α)) :
    (history.run acts).heap = acts.foldl act history.heap := by
  induction acts generalizing history with
  | nil => rfl
  | cons act rest ih => exact ih (history.step act)

/-- The same slot is let and given back again and again. -/
def turnover (count : Nat) : List (Act Unit) :=
  (List.range count).flatMap fun generation => [.insert () true, .unpin ⟨0, generation⟩]

theorem act_turn (generation : Nat) :
    (Heap.act ⟨#[⟨generation, none⟩], [0], 0, #[]⟩ (.insert () true)).act
        (.unpin ⟨0, generation⟩) =
      if generation < Slot.lastGeneration then ⟨#[⟨generation + 1, none⟩], [0], 0, #[]⟩
      else ⟨#[⟨generation, none⟩], [], 0, #[]⟩ := by
  by_cases reusable : generation < Slot.lastGeneration
  · simp [act, insert, unpin, contains, resident?, alter, reclaim, unclaimed, remove, vacate,
      Slot.vacated, Slot.reusable, Except.toOption, reusable]
  · simp [act, insert, unpin, contains, resident?, alter, reclaim, unclaimed, remove, vacate,
      Slot.vacated, Slot.reusable, Except.toOption, reusable]

theorem foldl_turnover {generation : Nat} (within : generation ≤ Slot.lastGeneration) :
    (turnover (generation + 1)).foldl act empty =
      if generation < Slot.lastGeneration then ⟨#[⟨generation + 1, none⟩], [0], 0, #[]⟩
      else ⟨#[⟨generation, none⟩], [], 0, #[]⟩ := by
  induction generation with
  | zero => rfl
  | succ generation ih =>
      have before := ih (Nat.le_of_succ_le within)
      rw [if_pos (Nat.lt_of_succ_le within)] at before
      have split : turnover (generation + 1 + 1) =
          turnover (generation + 1) ++ [.insert () true, .unpin ⟨0, generation + 1⟩] := by
        simp [turnover, List.range_succ]
      rw [split, List.foldl_append, before]
      exact act_turn (generation + 1)

/-- The first slot has been let as often as it can be, and another one is in use. -/
def wearing : List (Act Unit) :=
  turnover (Slot.lastGeneration + 1) ++ [.insert () true]

theorem heap_wearing : (History.start.run wearing).heap =
    ⟨#[⟨Slot.lastGeneration, none⟩, ⟨0, some ⟨(), true, 0⟩⟩], [], 1, #[]⟩ := by
  have worn := foldl_turnover (Nat.le_refl Slot.lastGeneration)
  rw [if_neg (Nat.lt_irrefl _)] at worn
  have opened : History.start.heap = (empty : Heap Unit) := rfl
  rw [History.heap_run, wearing, List.foldl_append, opened, worn]
  simp [act, insert]

/-- Slots, free list and counter agree at every moment of every history. Indices and generations
are counted without a bound here; as long as there are fewer than `Handle.bound` slots, each of
them fits into a handle. -/
theorem slots_are_accounted_for (acts : List (Act α)) : (History.start.run acts).Accounted := by
  have complete := (@History.complete_start α).run acts
  have regular := complete.regular
  refine ⟨regular, fun index slot slotAt vacant taken => complete.retired slotAt vacant taken,
    fun handle after unpinned => unpin_live regular unpinned, fun handles => ?_, ?_,
    fun content pinned => ?_, fun content pinned beyond index slot slotAt vacant => ?_⟩
  · exact (sweep_live regular handles 0).trans (Nat.zero_add _)
  · exact (sweep_live regular.forgetQueue _ 0).trans (Nat.zero_add _)
  · obtain ⟨vacant, others⟩ := insert_slots regular content pinned
    refine ⟨vacant, others, ?_⟩
    rw [resident?_insert regular, if_pos rfl]
  · apply complete.retired slotAt vacant
    rw [free_of_insert_beyond regular beyond]
    exact List.not_mem_nil

theorem worn_slot_is_retired :
    (History.start.run wearing).heap.slots[0]? = some ⟨Slot.lastGeneration, none⟩ ∧
      0 ∉ (History.start.run wearing).heap.free ∧
      (History.start.run wearing).Retired 0 := by
  have slotAt : (History.start.run wearing).heap.slots[0]? =
      some ⟨Slot.lastGeneration, none⟩ := by
    rw [heap_wearing]
    rfl
  have taken : 0 ∉ (History.start.run wearing).heap.free := by
    rw [heap_wearing]
    exact List.not_mem_nil
  exact ⟨slotAt, taken, (slots_are_accounted_for wearing).retired 0 _ slotAt rfl taken⟩

end Heap
end ScriptHost
