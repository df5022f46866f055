import ScriptHost.Native.Call
import ScriptHost.Proofs.Effects
import ScriptHost.Proofs.Heap.Clearing
import ScriptHost.Proofs.Heap.Lettings

set_option autoImplicit false

/-!
Histories of a heap.

A history is any sequence of operations from the empty heap on, with the handles that its
insertions gave out. The slot of a handle that was given out has passed the generation of the
handle, or is at it and not free. Insertions take free slots at their generation, so they give out
other handles, and an instance that is gone is not found again.
-/

namespace ScriptHost

variable {α : Type}

namespace Heap

/-- No insertion gives this handle out any more. -/
def Spent (heap : Heap α) (handle : Handle) : Prop :=
  ∃ slot, heap.slots[handle.index]? = some slot ∧
    (handle.generation < slot.generation ∨
      handle.generation = slot.generation ∧ handle.index ∉ heap.free)

theorem spent_iff {heap : Heap α} {handle : Handle} :
    heap.Spent handle ↔ handle.generation < heap.lettings handle.index := by
  unfold Spent lettings
  cases slotAt : heap.slots[handle.index]? with
  | none => simp
  | some slot =>
      by_cases free : handle.index ∈ heap.free
      · simp [free]
      · simp [free]
        omega

theorem spent_of_resident {heap : Heap α} (regular : heap.Regular) {handle : Handle}
    {resident : Resident α} (found : heap.resident? handle = some resident) :
    heap.Spent handle :=
  ⟨_, resident?_eq_some_iff.mp found, .inr ⟨rfl, regular.not_mem_free found⟩⟩

theorem Spent.within {heap : Heap α} {handle : Handle} (spent : heap.Spent handle) :
    handle.index < heap.slots.size := by
  obtain ⟨slot, slotAt, _⟩ := spent
  exact (Array.getElem?_eq_some_iff.mp slotAt).1

theorem Spent.generation_le {heap : Heap α} (regular : heap.Regular) {handle : Handle}
    (spent : heap.Spent handle) : handle.generation ≤ Slot.lastGeneration := by
  obtain ⟨slot, slotAt, passed⟩ := spent
  have bounded := regular.bounded _ _ slotAt
  omega

theorem Spent.alter {heap : Heap α} {handle : Handle} (spent : heap.Spent handle)
    (other : Handle) (change : Resident α → Resident α) :
    (heap.alter other change).Spent handle := by
  rw [spent_iff, lettings_alter]
  exact spent_iff.mp spent

theorem Spent.remove {heap : Heap α} (regular : heap.Regular) {handle : Handle}
    (spent : heap.Spent handle) (other : Handle) : (heap.remove other).Spent handle := by
  rw [spent_iff, lettings_remove regular]
  exact spent_iff.mp spent

theorem Spent.insert {heap : Heap α} (regular : heap.Regular) {handle : Handle}
    (spent : heap.Spent handle) (content : α) (pinned : Bool) :
    (heap.insert content pinned).2.Spent handle := by
  have before := spent_iff.mp spent
  rw [spent_iff, lettings_insert regular]
  split
  · exact Nat.lt_succ_of_lt before
  · exact before

theorem spent_insert_handle {heap : Heap α} (regular : heap.Regular) (content : α)
    (pinned : Bool) :
    (heap.insert content pinned).2.Spent (heap.insert content pinned).1 := by
  rw [spent_iff, lettings_insert regular, if_pos rfl, generation_insert regular]
  exact Nat.lt_succ_self _

theorem not_spent_insert_handle {heap : Heap α} (regular : heap.Regular) (content : α)
    (pinned : Bool) : ¬ heap.Spent (heap.insert content pinned).1 := by
  rw [spent_iff, generation_insert regular]
  exact Nat.lt_irrefl _

/-- A property that insertions, changes of a resident, removals and changes of the queue keep.
Every operation is put together from these. -/
structure Lasting (kept : Heap α → Prop) : Prop where
  regular : ∀ {heap}, kept heap → heap.Regular
  insert : ∀ {heap} content pinned, kept heap → kept (heap.insert content pinned).2
  alter : ∀ {heap} handle change, kept heap → kept (heap.alter handle change)
  remove : ∀ {heap} handle, kept heap → kept (heap.remove handle)
  queue : ∀ {heap} queue, kept heap → kept ⟨heap.slots, heap.free, heap.live, queue⟩

theorem lasting_regular : Lasting (Regular (α := α)) where
  regular := id
  insert content pinned regular := regular.insert content pinned
  alter handle change regular := regular.alter handle change
  remove handle regular := regular.remove handle
  queue _ regular := ⟨regular.live, regular.freeNodup, regular.vacant_of_free,
    regular.free_of_vacant, regular.bounded⟩

theorem lasting_spent (handle : Handle) :
    Lasting fun heap : Heap α => heap.Regular ∧ heap.Spent handle where
  regular kept := kept.1
  insert content pinned kept :=
    ⟨kept.1.insert content pinned, kept.2.insert kept.1 content pinned⟩
  alter other change kept := ⟨kept.1.alter other change, kept.2.alter other change⟩
  remove other kept := ⟨kept.1.remove other, kept.2.remove kept.1 other⟩
  queue queue kept := ⟨lasting_regular.queue queue kept.1, kept.2⟩

theorem lasting_gone (handle : Handle) :
    Lasting fun heap : Heap α =>
      (heap.Regular ∧ heap.Spent handle) ∧ heap.resident? handle = none where
  regular kept := kept.1.1
  insert {heap} content pinned kept := by
    refine ⟨(lasting_spent handle).insert content pinned kept.1, ?_⟩
    have another : handle ≠ (heap.insert content pinned).1 := fun same =>
      not_spent_insert_handle kept.1.1 content pinned (same ▸ kept.1.2)
    rw [resident?_insert kept.1.1, if_neg another]
    exact kept.2
  alter {heap} other change kept := by
    refine ⟨(lasting_spent handle).alter other change kept.1, ?_⟩
    rw [resident?_alter]
    split
    · rename_i same
      rw [← same, kept.2]
      rfl
    · exact kept.2
  remove {heap} other kept := by
    refine ⟨(lasting_spent handle).remove other kept.1, ?_⟩
    rw [resident?_remove]
    split
    · rfl
    · exact kept.2
  queue queue kept := ⟨(lasting_spent handle).queue queue kept.1, kept.2⟩

/-- A property that lasts as long as nothing is inserted and no instance gets another content. -/
structure Receding (kept : Heap α → Prop) : Prop where
  regular : ∀ {heap}, kept heap → heap.Regular
  alter : ∀ {heap} handle {change : Resident α → Resident α},
    (∀ resident, (change resident).content = resident.content) → kept heap →
      kept (heap.alter handle change)
  remove : ∀ {heap} handle, kept heap → kept (heap.remove handle)
  queue : ∀ {heap} queue, kept heap → kept ⟨heap.slots, heap.free, heap.live, queue⟩

/-- A property that lasts as long as no instance gets another content. -/
structure Enduring (kept : Heap α → Prop) : Prop extends Receding kept where
  insert : ∀ {heap} content pinned, kept heap → kept (heap.insert content pinned).2

theorem Lasting.enduring {kept : Heap α → Prop} (lasting : Lasting kept) : Enduring kept :=
  ⟨⟨lasting.regular, fun handle _ _ => lasting.alter handle _, lasting.remove, lasting.queue⟩,
    lasting.insert⟩

namespace Receding

variable {kept : Heap α → Prop} {heap : Heap α}

theorem reclaim (receding : Receding kept) (handle : Handle) (before : kept heap) :
    kept (heap.reclaim handle) := by
  unfold Heap.reclaim
  split
  · exact receding.remove handle before
  · exact before

theorem announce (receding : Receding kept) (handle : Handle) (before : kept heap) :
    kept (heap.announce handle) :=
  receding.queue (heap.released.push handle) before

theorem unanchor (receding : Receding kept) (handle : Handle) (before : kept heap) :
    kept (heap.unanchor handle) := by
  unfold Heap.unanchor
  split
  · have counted : kept (heap.alter handle Resident.unanchored) :=
      receding.alter handle (fun _ => rfl) before
    dsimp only
    split
    · exact receding.announce handle counted
    · exact counted
  · exact before

theorem anchor (receding : Receding kept) (handle : Handle) (before : kept heap) :
    kept ((heap.anchor handle).toOption.getD heap) := by
  cases found : heap.resident? handle with
  | none =>
      rw [anchor_eq_error found]
      exact before
  | some resident =>
      rw [anchor_eq_ok found]
      exact receding.alter handle (fun _ => rfl) before

theorem pin (receding : Receding kept) (handle : Handle) (before : kept heap) :
    kept ((heap.pin handle).toOption.getD heap) := by
  cases found : heap.resident? handle with
  | none =>
      rw [pin_eq_error found]
      exact before
  | some resident =>
      rw [pin_eq_ok found]
      exact receding.alter handle (fun _ => rfl) before

theorem unpin (receding : Receding kept) (handle : Handle) (before : kept heap) :
    kept ((heap.unpin handle).toOption.getD heap) := by
  cases found : heap.resident? handle with
  | none =>
      rw [unpin_eq_error found]
      exact before
  | some resident =>
      rw [unpin_eq_ok found]
      exact receding.reclaim handle (receding.alter handle (fun _ => rfl) before)

theorem sweep (receding : Receding kept) (handles : List Handle) (freed : Nat)
    (before : kept heap) : kept (Heap.sweep handles freed heap).2 := by
  induction handles generalizing freed heap with
  | nil => exact before
  | cons handle rest ih =>
      unfold Heap.sweep
      split
      · exact ih _ (receding.remove handle before)
      · exact ih _ before

theorem collect (receding : Receding kept) (before : kept heap) : kept heap.collect.2 :=
  receding.sweep _ 0 (receding.queue #[] before)

theorem clear (receding : Receding kept) (before : kept heap) : kept heap.clear := by
  rw [clear_eq (receding.regular before)]
  apply receding.queue
  apply foldl_evict_keeps _ _ before
  intro heap handle before
  exact receding.remove handle before

end Receding

/-- What can be done to a heap. A handle may be announced at any time, also when its instance is
gone already: a script value may outlive the instance that it refers to. -/
inductive Act (α : Type) where
  | insert (content : α) (pinned : Bool)
  | replace (handle : Handle) (content : α)
  | pin (handle : Handle)
  | unpin (handle : Handle)
  | anchor (handle : Handle)
  | unanchor (handle : Handle)
  | announce (handle : Handle)
  | collect
  | sweep (handles : List Handle)
  | clear

/-- The heap after an operation. A refused one changes nothing. -/
def act (heap : Heap α) : Act α → Heap α
  | .insert content pinned => (heap.insert content pinned).2
  | .replace handle content => heap.replace handle content
  | .pin handle => (heap.pin handle).toOption.getD heap
  | .unpin handle => (heap.unpin handle).toOption.getD heap
  | .anchor handle => (heap.anchor handle).toOption.getD heap
  | .unanchor handle => heap.unanchor handle
  | .announce handle => heap.announce handle
  | .collect => heap.collect.2
  | .sweep handles => (heap.sweep handles 0).2
  | .clear => heap.clear

def issued? (heap : Heap α) : Act α → Option Handle
  | .insert content pinned => some (heap.insert content pinned).1
  | _ => none

theorem Lasting.act {kept : Heap α → Prop} (lasting : Lasting kept) {heap : Heap α}
    (act : Act α) (before : kept heap) : kept (heap.act act) := by
  cases act with
  | insert content pinned => exact lasting.insert content pinned before
  | replace handle content => exact lasting.alter handle _ before
  | pin handle => exact lasting.enduring.pin handle before
  | unpin handle => exact lasting.enduring.unpin handle before
  | anchor handle => exact lasting.enduring.anchor handle before
  | unanchor handle => exact lasting.enduring.unanchor handle before
  | announce handle => exact lasting.enduring.announce handle before
  | collect => exact lasting.enduring.collect before
  | sweep handles => exact lasting.enduring.sweep handles 0 before
  | clear => exact lasting.enduring.clear before

/-- A heap and the handles given out so far, the last one first. -/
structure History (α : Type) where
  heap : Heap α
  issued : List Handle

namespace History

def start : History α := ⟨Heap.empty, []⟩

def step (history : History α) (act : Act α) : History α :=
  ⟨history.heap.act act, (history.heap.issued? act).toList ++ history.issued⟩

def run (history : History α) (acts : List (Act α)) : History α :=
  acts.foldl step history

theorem lasts_run {kept : Heap α → Prop} (lasting : Lasting kept) (acts : List (Act α))
    {history : History α} (before : kept history.heap) : kept (history.run acts).heap := by
  induction acts generalizing history with
  | nil => exact before
  | cons act rest ih => exact ih (lasting.act act before)

/-- All handles given out are used up, and they are different. -/
structure Orderly (history : History α) : Prop where
  regular : history.heap.Regular
  spent : ∀ handle ∈ history.issued, history.heap.Spent handle
  different : history.issued.Nodup

theorem orderly_start : Orderly (start : History α) where
  regular := regular_empty
  spent := fun _ member => (List.not_mem_nil member).elim
  different := List.nodup_nil

theorem Orderly.step {history : History α} (orderly : history.Orderly) (act : Act α) :
    (history.step act).Orderly := by
  -- Only insertions give out handles. For all else it is enough that used up handles stay so.
  have earlier : ∀ handle ∈ history.issued, (history.heap.act act).Spent handle := by
    intro handle member
    exact ((lasting_spent handle).act act ⟨orderly.regular, orderly.spent handle member⟩).2
  have regular := lasting_regular.act act orderly.regular
  cases act with
  | insert content pinned =>
      have fresh : (history.heap.insert content pinned).1 ∉ history.issued := fun member =>
        not_spent_insert_handle orderly.regular content pinned (orderly.spent _ member)
      refine ⟨regular, fun handle member => ?_, List.nodup_cons.mpr ⟨fresh, orderly.different⟩⟩
      rcases List.mem_cons.mp member with newest | member
      · rw [newest]
        exact spent_insert_handle orderly.regular content pinned
      · exact earlier handle member
  | _ => exact ⟨regular, earlier, orderly.different⟩

theorem Orderly.run {history : History α} (orderly : history.Orderly) (acts : List (Act α)) :
    (history.run acts).Orderly := by
  induction acts generalizing history with
  | nil => exact orderly
  | cons act rest ih => exact ih (orderly.step act)

end History

/-- Every way to use the handle ends in the fault that it is stale, and changes nothing. -/
structure Stale (heap : Heap Occupant) (handle : Handle) : Prop where
  absent : heap.contains handle = false
  got : heap.get handle = .error (.staleHandle handle)
  read : ∀ types type, Call.read types type handle heap = .error (.staleHandle handle)
  named : ∀ types, Call.nameType types heap (.object handle) = .error (.staleHandle handle)
  written : ∀ types name value generator fresh,
    Call.setField types handle name value ⟨⟨heap, generator⟩, fresh⟩ =
      .error (.staleHandle handle) ⟨⟨heap, generator⟩, fresh⟩
  anchored : heap.anchor handle = .error (.staleHandle handle)
  pinned : heap.pin handle = .error (.staleHandle handle)
  unpinned : heap.unpin handle = .error (.staleHandle handle)

theorem stale_of_absent {heap : Heap Occupant} {handle : Handle}
    (absent : heap.resident? handle = none) : heap.Stale handle := by
  have got : heap.get handle = .error (.staleHandle handle) := by
    simp only [get, absent]
  have outside : heap.contains handle = false := by
    simp only [contains, absent, Option.isSome_none]
  refine ⟨outside, got, fun types type => ?_, fun types => ?_,
    fun types name value generator fresh => ?_, anchor_eq_error absent, pin_eq_error absent,
    unpin_eq_error absent⟩
  · rw [Call.read, got]
    rfl
  · change (heap.get handle >>= _) = _
    rw [got]
    rfl
  · have missing : Call.occupant handle ⟨⟨heap, generator⟩, fresh⟩ =
        .error (.staleHandle handle) ⟨⟨heap, generator⟩, fresh⟩ := by
      change (Call.ofResult (heap.get handle) >>= _) _ = _
      rw [got]
      rfl
    simp only [Call.setField, Call.describe, bind_apply, missing]

/-- No handle is given out twice, and a handle that has lost its instance stays without one,
whatever is done to the heap afterwards. Handles count their slots and generations: with fewer than
`Handle.bound` slots both fit. -/
theorem handles_are_given_out_once (acts : List (Act Occupant)) :
    (History.start.run acts).issued.Nodup ∧
    (∀ handle ∈ (History.start.run acts).issued,
      handle.index < (History.start.run acts).heap.slots.size ∧
        handle.generation < Handle.bound) ∧
    ∀ handle ∈ (History.start.run acts).issued,
      (History.start.run acts).heap.contains handle = false →
      ∀ more, ((History.start.run acts).run more).heap.Stale handle := by
  have orderly := History.orderly_start.run acts
  refine ⟨orderly.different, fun handle member => ?_, fun handle member outside more => ?_⟩
  · have spent := orderly.spent handle member
    have bounded := spent.generation_le orderly.regular
    have last : Slot.lastGeneration < Handle.bound := by decide
    exact ⟨spent.within, Nat.lt_of_le_of_lt bounded last⟩
  · have absent := Option.isNone_iff_eq_none.mp (Option.isSome_eq_false_iff.mp outside)
    have gone := History.lasts_run (lasting_gone handle) more
      ⟨⟨orderly.regular, orderly.spent handle member⟩, absent⟩
    exact stale_of_absent gone.2

def marker : Occupant := ⟨0, ⟨⟨"Marker", .empty⟩, ()⟩⟩

/-- The first handle is released, and its slot is used twice more. -/
theorem first_handle_stays_stale :
    ⟨0, 0⟩ ∈ (History.start.run [.insert marker true, .unpin ⟨0, 0⟩]).issued ∧
      (History.start.run [.insert marker true, .unpin ⟨0, 0⟩]).heap.contains ⟨0, 0⟩ = false ∧
      ((History.start.run [.insert marker true, .unpin ⟨0, 0⟩]).run
        [.insert marker true, .unpin ⟨0, 1⟩, .insert marker false]).heap.Stale ⟨0, 0⟩ := by
  have given : ⟨0, 0⟩ ∈
      (History.start.run [.insert marker true, .unpin ⟨0, 0⟩]).issued := by decide
  have gone : (History.start.run [.insert marker true, .unpin ⟨0, 0⟩]).heap.contains ⟨0, 0⟩ =
      false := by decide
  exact ⟨given, gone, (handles_are_given_out_once _).2.2 _ given gone _⟩

end Heap
end ScriptHost
