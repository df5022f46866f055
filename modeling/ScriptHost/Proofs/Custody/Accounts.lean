import Mathlib.Algebra.Order.Group.Multiset
import ScriptHost.Proofs.Heap.Claims
import ScriptHost.Script.Machine

set_option autoImplicit false

/-!
Accounts of a heap: the references that it counts and those that there are.

The references are given as a multiset, wherever they may be. The heap counts every one of them,
every one of them finds its instance, and an instance that nothing claims is in the queue. Adding a
reference, taking one away, and all changes that native calls make keep it so.
-/

namespace ScriptHost

open Script

def Script.Holding.refersTo (handle : Handle) : Holding → Bool
  | .object reference => reference.handle == handle
  | .cell _ => false

def references (handle : Handle) (total : Multiset Holding) : Nat :=
  total.countP fun holding => holding.refersTo handle = true

theorem references_object (handle : Handle) (reference : Reference) (total : Multiset Holding) :
    references handle (.object reference ::ₘ total) =
      references handle total + if reference.handle = handle then 1 else 0 := by
  rw [references, Multiset.countP_cons, references]
  simp only [Holding.refersTo, beq_iff_eq]

@[simp] theorem references_cell (handle : Handle) (index : Nat) (total : Multiset Holding) :
    references handle (.cell index ::ₘ total) = references handle total :=
  Multiset.countP_cons_of_neg _ Bool.false_ne_true

theorem references_eq_zero {handle : Handle} {total : Multiset Holding}
    (absent : ∀ reference, Holding.object reference ∈ total → reference.handle ≠ handle) :
    references handle total = 0 := by
  apply Multiset.countP_eq_zero.mpr
  intro holding member
  cases holding with
  | object reference => simpa [Holding.refersTo] using absent reference member
  | cell index => simp [Holding.refersTo]

theorem references_pos_iff {handle : Handle} {total : Multiset Holding} :
    0 < references handle total ↔
      ∃ reference, Holding.object reference ∈ total ∧ reference.handle = handle := by
  refine Multiset.countP_pos.trans ⟨?_, ?_⟩
  · rintro ⟨holding, member, refers⟩
    cases holding with
    | object reference => exact ⟨reference, member, by simpa [Holding.refersTo] using refers⟩
    | cell index => cases refers
  · rintro ⟨reference, member, same⟩
    exact ⟨_, member, by simp [Holding.refersTo, same]⟩

/-- Types may have been added to a registry, under numbers of their own. -/
def TypeRegistry.ExtendsTo (registry registry' : TypeRegistry) : Prop :=
  ∀ (typeId : TypeId) (descriptor : TypeDescriptor),
    registry.types[typeId]? = some descriptor → registry'.types[typeId]? = some descriptor

/-- An instance is of the type that it is stored under. -/
def Occupant.Fits (types : TypeRegistry) (occupant : Occupant) : Prop :=
  ∃ descriptor, types.types[occupant.typeId]? = some descriptor ∧
    descriptor.type = occupant.body.type

/-- What a session relies on. The host may count on some instances, each pinned and of a known
type; nothing is known about moments before a certain one. -/
structure Covenant where
  types : TypeRegistry
  promised : Handle → TypeId → Prop
  earlier : Moment → Prop

namespace Heap

def Pins (heap : Heap Occupant) (handle : Handle) : Prop :=
  ∃ resident, heap.resident? handle = some resident ∧ resident.pinned = true

/-- The references that the heap counts are those that there are. -/
structure Accounts (covenant : Covenant) (total : Multiset Holding) (heap : Heap Occupant) :
    Prop where
  regular : heap.Regular
  counted : ∀ {handle resident}, heap.resident? handle = some resident →
    resident.anchors = references handle total
  resolved : ∀ {reference}, Holding.object reference ∈ total →
    ∃ resident, heap.resident? reference.handle = some resident ∧
      resident.content.typeId = reference.typeId
  typed : ∀ {handle resident}, heap.resident? handle = some resident →
    resident.content.Fits covenant.types
  kept : ∀ {handle typeId}, covenant.promised handle typeId →
    ∃ resident, heap.resident? handle = some resident ∧ resident.pinned = true ∧
      resident.content.typeId = typeId

/-- Every instance that nothing claims is in the queue. -/
def Queued (heap : Heap Occupant) : Prop :=
  ∀ handle, heap.unclaimed handle = true → handle ∈ heap.released

/-- Every instance has a claim. -/
def Settled (heap : Heap Occupant) : Prop :=
  ∀ handle, heap.unclaimed handle = false

theorem Settled.claimed {heap : Heap Occupant} (settled : heap.Settled) {handle : Handle} :
    heap.unclaimed handle ≠ true := by
  rw [settled handle]
  exact Bool.false_ne_true

theorem Settled.queued {heap : Heap Occupant} (settled : heap.Settled) : heap.Queued :=
  fun _ unclaimed => absurd unclaimed settled.claimed

variable {covenant : Covenant} {total : Multiset Holding} {heap : Heap Occupant}

theorem Accounts.unclaimed_iff (accounts : heap.Accounts covenant total) {handle : Handle} :
    heap.unclaimed handle = true ↔ ∃ resident, heap.resident? handle = some resident ∧
      resident.pinned = false ∧ references handle total = 0 := by
  rw [Heap.unclaimed_iff]
  refine exists_congr fun resident => and_congr_right fun found => ?_
  rw [accounts.counted found]

theorem Accounts.unpromised (accounts : heap.Accounts covenant total) {handle : Handle}
    (unclaimed : heap.unclaimed handle = true) (typeId : TypeId) :
    ¬ covenant.promised handle typeId := by
  intro promised
  obtain ⟨resident, found, pinned, _⟩ := accounts.kept promised
  obtain ⟨other, otherFound, unpinned, _⟩ := Heap.unclaimed_iff.mp unclaimed
  rw [found] at otherFound
  injection otherFound with same
  rw [same, unpinned] at pinned
  cases pinned

theorem Accounts.renew {covenant' : Covenant} (accounts : heap.Accounts covenant total)
    (known : covenant.types.ExtendsTo covenant'.types)
    (kept : ∀ {handle typeId}, covenant'.promised handle typeId →
      ∃ resident, heap.resident? handle = some resident ∧ resident.pinned = true ∧
        resident.content.typeId = typeId) : heap.Accounts covenant' total where
  regular := accounts.regular
  counted := accounts.counted
  resolved := accounts.resolved
  typed := fun found => by
    obtain ⟨descriptor, registered, same⟩ := accounts.typed found
    exact ⟨descriptor, known _ _ registered, same⟩
  kept := kept

/-- A change of one resident. It keeps its type, and its pin if it is promised; its references
afterwards are those that it counts. -/
theorem Accounts.alter (accounts : heap.Accounts covenant total) {handle : Handle}
    {resident : Resident Occupant} (found : heap.resident? handle = some resident)
    (change : Resident Occupant → Resident Occupant) {total' : Multiset Holding}
    (typeId : (change resident).content.typeId = resident.content.typeId)
    (fits : (change resident).content.Fits covenant.types)
    (pinned : (∃ typeId, covenant.promised handle typeId) → resident.pinned = true →
      (change resident).pinned = true)
    (count : (change resident).anchors = references handle total')
    (others : ∀ other, other ≠ handle → references other total' = references other total)
    (resolved : ∀ reference, Holding.object reference ∈ total' →
      Holding.object reference ∈ total ∨ reference = ⟨handle, resident.content.typeId⟩) :
    (heap.alter handle change).Accounts covenant total' where
  regular := accounts.regular.alter handle change
  counted := by
    intro other otherResident otherFound
    rw [resident?_alter, found] at otherFound
    by_cases same : other = handle
    · rw [if_pos same] at otherFound
      injection otherFound with residentEq
      rw [← residentEq, same]
      exact count
    · rw [if_neg same] at otherFound
      rw [others other same]
      exact accounts.counted otherFound
  resolved := by
    intro reference member
    have earlier : ∃ resident, heap.resident? reference.handle = some resident ∧
        resident.content.typeId = reference.typeId := by
      rcases resolved reference member with inside | rfl
      · exact accounts.resolved inside
      · exact ⟨resident, found, rfl⟩
    obtain ⟨target, targetFound, sameType⟩ := earlier
    rw [resident?_alter, found]
    by_cases same : reference.handle = handle
    · rw [same, found] at targetFound
      injection targetFound with residentEq
      rw [if_pos same]
      exact ⟨_, rfl, by rw [typeId, residentEq, sameType]⟩
    · rw [if_neg same]
      exact ⟨target, targetFound, sameType⟩
  typed := by
    intro other otherResident otherFound
    rw [resident?_alter, found] at otherFound
    by_cases same : other = handle
    · rw [if_pos same] at otherFound
      injection otherFound with residentEq
      rw [← residentEq]
      exact fits
    · rw [if_neg same] at otherFound
      exact accounts.typed otherFound
  kept := by
    intro other promisedType promised
    obtain ⟨target, targetFound, targetPinned, sameType⟩ := accounts.kept promised
    rw [resident?_alter, found]
    by_cases same : other = handle
    · rw [same, found] at targetFound
      injection targetFound with residentEq
      rw [← residentEq] at targetPinned sameType
      rw [if_pos same]
      exact ⟨_, rfl, pinned ⟨promisedType, same ▸ promised⟩ targetPinned, by rw [typeId, sameType]⟩
    · rw [if_neg same]
      exact ⟨target, targetFound, targetPinned, sameType⟩

theorem Queued.of_unclaimed {heap heap' : Heap Occupant} (queued : heap.Queued)
    (unclaimed : ∀ handle, heap'.unclaimed handle = true →
      heap.unclaimed handle = true ∨ handle ∈ heap'.released)
    (released : ∀ handle ∈ heap.released, handle ∈ heap'.released) : heap'.Queued := by
  intro handle claimless
  rcases unclaimed handle claimless with earlier | inside
  · exact released handle (queued handle earlier)
  · exact inside

theorem Accounts.anchor (accounts : heap.Accounts covenant total) {handle : Handle}
    {resident : Resident Occupant} (found : heap.resident? handle = some resident) :
    (heap.alter handle Resident.anchored).Accounts covenant
      (.object ⟨handle, resident.content.typeId⟩ ::ₘ total) := by
  have fits := accounts.typed found
  refine accounts.alter found Resident.anchored rfl fits
    (fun _ pinned => pinned) ?_ (fun other different => ?_) (fun reference member => ?_)
  · rw [references_object, if_pos rfl, ← accounts.counted found]
    rfl
  · rw [references_object, if_neg (Ne.symm different), Nat.add_zero]
  · rcases Multiset.mem_cons.mp member with same | earlier
    · injection same with sameReference
      exact .inr sameReference
    · exact .inl earlier

theorem unclaimed_alter_of {handle other : Handle} {resident : Resident Occupant}
    (found : heap.resident? handle = some resident)
    (change : Resident Occupant → Resident Occupant)
    (claims : (change resident).pinned = false → (change resident).anchors = 0 →
      resident.pinned = false ∧ resident.anchors = 0)
    (unclaimed : (heap.alter handle change).unclaimed other = true) :
    heap.unclaimed other = true := by
  obtain ⟨target, targetFound, unpinned, unanchored⟩ := Heap.unclaimed_iff.mp unclaimed
  rw [resident?_alter, found] at targetFound
  by_cases same : other = handle
  · rw [if_pos same] at targetFound
    injection targetFound with residentEq
    rw [← residentEq] at unpinned unanchored
    obtain ⟨before, none⟩ := claims unpinned unanchored
    rw [same]
    exact Heap.unclaimed_iff.mpr ⟨resident, found, before, none⟩
  · rw [if_neg same] at targetFound
    exact Heap.unclaimed_iff.mpr ⟨target, targetFound, unpinned, unanchored⟩

theorem Queued.alter (queued : heap.Queued) {handle : Handle} {resident : Resident Occupant}
    (found : heap.resident? handle = some resident)
    (change : Resident Occupant → Resident Occupant)
    (claims : (change resident).pinned = false → (change resident).anchors = 0 →
      resident.pinned = false ∧ resident.anchors = 0) : (heap.alter handle change).Queued := by
  refine queued.of_unclaimed (fun other unclaimed => ?_) (fun other inside => ?_)
  · exact .inl (unclaimed_alter_of found change claims unclaimed)
  · rw [alter_released]
    exact inside

theorem Queued.anchor (queued : heap.Queued) {handle : Handle}
    {resident : Resident Occupant} (found : heap.resident? handle = some resident) :
    (heap.alter handle Resident.anchored).Queued :=
  queued.alter found Resident.anchored fun _ none => nomatch none

theorem Accounts.unanchor {reference : Reference}
    (accounts : heap.Accounts covenant (.object reference ::ₘ total)) :
    (heap.unanchor reference.handle).Accounts covenant total := by
  obtain ⟨resident, found, _⟩ := accounts.resolved (Multiset.mem_cons_self _ _)
  have fits := accounts.typed found
  have counted := accounts.counted found
  rw [references_object, if_pos rfl] at counted
  have altered : (heap.alter reference.handle Resident.unanchored).Accounts covenant total := by
    refine accounts.alter found Resident.unanchored rfl fits
      (fun _ pinned => pinned) ?_ (fun other different => ?_) (fun other member => ?_)
    · change resident.anchors - 1 = _
      omega
    · rw [references_object, if_neg (Ne.symm different), Nat.add_zero]
    · exact .inl (Multiset.mem_cons_of_mem member)
  rw [unanchor_eq found]
  split
  · exact ⟨altered.regular.announce _, altered.counted, altered.resolved, altered.typed,
      altered.kept⟩
  · exact altered

theorem Queued.unanchor (queued : heap.Queued) {handle : Handle}
    {resident : Resident Occupant} (found : heap.resident? handle = some resident) :
    (heap.unanchor handle).Queued := by
  refine queued.of_unclaimed (fun other unclaimed => ?_) (fun other inside => ?_)
  · obtain ⟨target, targetFound, unpinned, unanchored⟩ := Heap.unclaimed_iff.mp unclaimed
    rw [resident?_unanchor found] at targetFound
    by_cases same : other = handle
    · rw [if_pos same] at targetFound
      injection targetFound with residentEq
      rw [← residentEq] at unanchored
      change resident.anchors - 1 = 0 at unanchored
      exact .inr ((mem_released_unanchor found).mpr (.inr ⟨same, by omega⟩))
    · rw [if_neg same] at targetFound
      exact .inl (Heap.unclaimed_iff.mpr ⟨target, targetFound, unpinned, unanchored⟩)
  · exact (mem_released_unanchor found).mpr (.inl inside)

theorem Accounts.insert (accounts : heap.Accounts covenant total) {occupant : Occupant}
    (fits : occupant.Fits covenant.types) (pinned : Bool) :
    (heap.insert occupant pinned).2.Accounts covenant total := by
  have absent := resident?_insert_handle accounts.regular occupant pinned
  have apart : ∀ {other resident}, heap.resident? other = some resident →
      (heap.insert occupant pinned).2.resident? other = some resident := by
    intro other resident found
    have different : other ≠ (heap.insert occupant pinned).1 := by
      rintro rfl
      rw [absent] at found
      cases found
    rw [resident?_insert accounts.regular, if_neg different]
    exact found
  refine ⟨accounts.regular.insert occupant pinned, fun {other resident} found => ?_,
    fun {reference} member => ?_, fun {other resident} found => ?_,
    fun {other typeId} promised => ?_⟩
  · rw [resident?_insert accounts.regular] at found
    split at found
    · rename_i same
      injection found with residentEq
      rw [← residentEq]
      refine (references_eq_zero fun reference member sameHandle => ?_).symm
      obtain ⟨target, targetFound, _⟩ := accounts.resolved member
      rw [sameHandle, same, absent] at targetFound
      cases targetFound
    · exact accounts.counted found
  · obtain ⟨resident, found, sameType⟩ := accounts.resolved member
    exact ⟨resident, apart found, sameType⟩
  · rw [resident?_insert accounts.regular] at found
    split at found
    · injection found with residentEq
      rw [← residentEq]
      exact fits
    · exact accounts.typed found
  · obtain ⟨resident, found, kept⟩ := accounts.kept promised
    exact ⟨resident, apart found, kept⟩

theorem unclaimed_insert (regular : heap.Regular) {occupant : Occupant} {pinned : Bool}
    {other : Handle} (unclaimed : (heap.insert occupant pinned).2.unclaimed other = true) :
    heap.unclaimed other = true ∨ other = (heap.insert occupant pinned).1 := by
  by_cases same : other = (heap.insert occupant pinned).1
  · exact .inr same
  · have view := resident?_insert regular occupant pinned other
    rw [if_neg same] at view
    rw [unclaimed_congr view] at unclaimed
    exact .inl unclaimed

theorem Accounts.pin (accounts : heap.Accounts covenant total) {handle : Handle}
    {resident : Resident Occupant} (found : heap.resident? handle = some resident) :
    (heap.alter handle Resident.held).Accounts covenant total := by
  have fits := accounts.typed found
  have counted := accounts.counted found
  exact accounts.alter found Resident.held rfl fits (fun _ _ => rfl) counted (fun _ _ => rfl)
    (fun _ member => .inl member)

theorem Accounts.replace (accounts : heap.Accounts covenant total) {handle : Handle}
    {resident : Resident Occupant} (found : heap.resident? handle = some resident)
    {occupant : Occupant} (typeId : occupant.typeId = resident.content.typeId)
    (fits : occupant.Fits covenant.types) :
    (heap.replace handle occupant).Accounts covenant total := by
  have counted := accounts.counted found
  exact accounts.alter found _ typeId fits (fun _ pinned => pinned) counted (fun _ _ => rfl)
    (fun _ member => .inl member)

theorem Accounts.remove (accounts : heap.Accounts covenant total) {handle : Handle}
    (unclaimed : heap.unclaimed handle = true) :
    (heap.remove handle).Accounts covenant total := by
  obtain ⟨gone, goneFound, _, unreferenced⟩ := accounts.unclaimed_iff.mp unclaimed
  refine ⟨accounts.regular.remove handle, fun {other resident} found => ?_,
    fun {reference} member => ?_, fun {other resident} found => ?_,
    fun {other typeId} promised => ?_⟩
  · rw [resident?_remove] at found
    split at found
    · cases found
    · exact accounts.counted found
  · obtain ⟨resident, found, sameType⟩ := accounts.resolved member
    have different : reference.handle ≠ handle := fun same =>
      (references_pos_iff.mpr ⟨reference, member, same⟩).ne' unreferenced
    rw [resident?_remove, if_neg different]
    exact ⟨resident, found, sameType⟩
  · rw [resident?_remove] at found
    split at found
    · cases found
    · exact accounts.typed found
  · obtain ⟨resident, found, kept⟩ := accounts.kept promised
    have different : other ≠ handle := fun same =>
      accounts.unpromised unclaimed typeId (same ▸ promised)
    rw [resident?_remove, if_neg different]
    exact ⟨resident, found, kept⟩

theorem Accounts.reclaim (accounts : heap.Accounts covenant total) (handle : Handle) :
    (heap.reclaim handle).Accounts covenant total := by
  unfold Heap.reclaim
  split
  · rename_i unclaimed
    exact accounts.remove unclaimed
  · exact accounts

theorem Accounts.unpin (accounts : heap.Accounts covenant total) {handle : Handle}
    {resident : Resident Occupant} (found : heap.resident? handle = some resident)
    (free : ∀ typeId, ¬ covenant.promised handle typeId) :
    ((heap.alter handle Resident.unheld).reclaim handle).Accounts covenant total := by
  have fits := accounts.typed found
  have counted := accounts.counted found
  refine Accounts.reclaim ?_ handle
  exact accounts.alter found Resident.unheld rfl fits
    (fun ⟨typeId, promised⟩ _ => (free typeId promised).elim) counted (fun _ _ => rfl)
    (fun _ member => .inl member)

theorem unclaimed_reclaim {handle other : Handle}
    (unclaimed : (heap.reclaim handle).unclaimed other = true) :
    heap.unclaimed other = true ∧ other ≠ handle := by
  obtain ⟨resident, found, claims⟩ := Heap.unclaimed_iff.mp unclaimed
  rw [resident?_reclaim] at found
  split at found
  · cases found
  · rename_i kept
    have earlier : heap.unclaimed other = true := Heap.unclaimed_iff.mpr ⟨resident, found, claims⟩
    exact ⟨earlier, fun same => kept ⟨same, same ▸ earlier⟩⟩

theorem Queued.unpin (queued : heap.Queued) {handle : Handle} :
    ((heap.alter handle Resident.unheld).reclaim handle).Queued := by
  refine queued.of_unclaimed (fun other unclaimed => ?_) (fun other inside => ?_)
  · obtain ⟨earlier, different⟩ := unclaimed_reclaim unclaimed
    have view := resident?_alter heap handle Resident.unheld other
    rw [if_neg different] at view
    rw [unclaimed_congr view] at earlier
    exact .inl earlier
  · rw [released_reclaim, alter_released]
    exact inside

theorem Accounts.sweep (handles : List Handle) (freed : Nat)
    (accounts : heap.Accounts covenant total) :
    (Heap.sweep handles freed heap).2.Accounts covenant total := by
  induction handles generalizing freed heap with
  | nil => exact accounts
  | cons handle rest ih =>
      unfold Heap.sweep
      split
      · rename_i unclaimed
        exact ih (freed + 1) (accounts.remove unclaimed)
      · exact ih freed accounts

theorem Accounts.collect (accounts : heap.Accounts covenant total) :
    heap.collect.2.Accounts covenant total :=
  Accounts.sweep heap.released.toList 0
    ⟨accounts.regular.forgetQueue, accounts.counted, accounts.resolved, accounts.typed,
      accounts.kept⟩

theorem unclaimed_sweep {handles : List Handle} {freed : Nat} {other : Handle}
    (unclaimed : (Heap.sweep handles freed heap).2.unclaimed other = true) :
    heap.unclaimed other = true ∧ other ∉ handles := by
  obtain ⟨resident, found, claims⟩ := Heap.unclaimed_iff.mp unclaimed
  rw [resident?_sweep] at found
  split at found
  · cases found
  · rename_i kept
    have earlier : heap.unclaimed other = true := Heap.unclaimed_iff.mpr ⟨resident, found, claims⟩
    exact ⟨earlier, fun inside => kept ⟨inside, earlier⟩⟩

/-- When the queue is complete, working it off leaves no instance without a claim. -/
theorem Queued.settled_collect (queued : heap.Queued) : heap.collect.2.Settled := by
  intro handle
  by_contra claimless
  obtain ⟨earlier, missing⟩ := unclaimed_sweep (Bool.not_eq_false _ ▸ claimless)
  exact missing (Array.mem_toList_iff.mpr (queued handle earlier))

end Heap
end ScriptHost
