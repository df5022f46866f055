import ScriptHost.Fault

/-!
The heap: storage for the instances of a session, addressed by handles.

An instance stays while the host has pinned it or a script value refers to it. The last script
reference that goes away puts the handle into a queue; instances are removed when the queue is
worked off, so a reference that comes back in the meantime keeps its instance. A slot changes its
generation with every removal, and a slot that has reached the last generation is not used again,
so a handle that has lost its instance never finds another one. The heap grows by a slot whenever
none is free; what is said of it as a store of 32-bit handles is said of fewer than `Handle.bound`
slots.
-/

namespace ScriptHost

structure Resident (α : Type) where
  content : α
  pinned : Bool
  anchors : Nat
deriving Repr

structure Slot (α : Type) where
  generation : Nat
  resident? : Option (Resident α)
deriving Repr

/-- `free` lists the slots to use next, and `released` the handles that lost their last script
reference, oldest first. -/
structure Heap (α : Type) where
  slots : Array (Slot α)
  free : List Nat
  live : Nat
  released : Array Handle
deriving Repr

namespace Slot

variable {α : Type}

def lastGeneration : Nat := Handle.bound - 1

def reusable (slot : Slot α) : Bool :=
  slot.generation < lastGeneration

def vacated (slot : Slot α) : Slot α :=
  ⟨if slot.reusable then slot.generation + 1 else slot.generation, none⟩

end Slot

namespace Heap

variable {α : Type}

def empty : Heap α := ⟨#[], [], 0, #[]⟩

instance : Inhabited (Heap α) := ⟨empty⟩

def resident? (heap : Heap α) (handle : Handle) : Option (Resident α) :=
  match heap.slots[handle.index]? with
  | some slot => if slot.generation = handle.generation then slot.resident? else none
  | none => none

def contains (heap : Heap α) (handle : Handle) : Bool :=
  (heap.resident? handle).isSome

def get (heap : Heap α) (handle : Handle) : Except Fault (Resident α) :=
  match heap.resident? handle with
  | some resident => .ok resident
  | none => .error (.staleHandle handle)

/-- Takes the slot freed last, or a new one where none is free. -/
def insert (heap : Heap α) (content : α) (pinned : Bool) : Handle × Heap α :=
  let ⟨slots, free, live, released⟩ := heap
  match free with
  | index :: free =>
      let generation := match slots[index]? with
        | some slot => slot.generation
        | none => 0
      let settle (slot : Slot α) : Slot α := ⟨slot.generation, some ⟨content, pinned, 0⟩⟩
      (⟨index, generation⟩, ⟨slots.modify index settle, free, live + 1, released⟩)
  | [] =>
      (⟨slots.size, 0⟩,
        ⟨slots.push ⟨0, some ⟨content, pinned, 0⟩⟩, [], live + 1, released⟩)

def alter (heap : Heap α) (handle : Handle) (change : Resident α → Resident α) : Heap α :=
  if heap.contains handle then
    let ⟨slots, free, live, released⟩ := heap
    let apply (slot : Slot α) : Slot α := ⟨slot.generation, slot.resident?.map change⟩
    ⟨slots.modify handle.index apply, free, live, released⟩
  else
    heap

def replace (heap : Heap α) (handle : Handle) (content : α) : Heap α :=
  heap.alter handle fun resident => ⟨content, resident.pinned, resident.anchors⟩

/-- Ends the residence in a slot. The number of live instances is the caller's to change. -/
def vacate (heap : Heap α) (index : Nat) : Heap α :=
  let ⟨slots, free, live, released⟩ := heap
  let free := match slots[index]? with
    | some slot => if slot.reusable then index :: free else free
    | none => free
  ⟨slots.modify index Slot.vacated, free, live, released⟩

def remove (heap : Heap α) (handle : Handle) : Heap α :=
  if heap.contains handle then
    let ⟨slots, free, live, released⟩ := heap.vacate handle.index
    ⟨slots, free, live - 1, released⟩
  else
    heap

/-- A live instance that neither the host nor a script value claims. -/
def unclaimed (heap : Heap α) (handle : Handle) : Bool :=
  match heap.resident? handle with
  | some resident => !resident.pinned && resident.anchors == 0
  | none => false

def anchor (heap : Heap α) (handle : Handle) : Except Fault (Heap α) :=
  if heap.contains handle then
    .ok (heap.alter handle fun resident =>
      ⟨resident.content, resident.pinned, resident.anchors + 1⟩)
  else
    .error (.staleHandle handle)

def announce (heap : Heap α) (handle : Handle) : Heap α :=
  let ⟨slots, free, live, released⟩ := heap
  ⟨slots, free, live, released.push handle⟩

/-- Takes a script reference away. The last one to go is announced in the queue. -/
def unanchor (heap : Heap α) (handle : Handle) : Heap α :=
  match heap.resident? handle with
  | some resident =>
      let rest := heap.alter handle fun resident =>
        ⟨resident.content, resident.pinned, resident.anchors - 1⟩
      if resident.anchors ≤ 1 then rest.announce handle else rest
  | none => heap

def pin (heap : Heap α) (handle : Handle) : Except Fault (Heap α) :=
  if heap.contains handle then
    .ok (heap.alter handle fun resident => ⟨resident.content, true, resident.anchors⟩)
  else
    .error (.staleHandle handle)

/-- Removes an instance at once if no claim is left, and leaves it otherwise. -/
def reclaim (heap : Heap α) (handle : Handle) : Heap α :=
  if heap.unclaimed handle then heap.remove handle else heap

def unpin (heap : Heap α) (handle : Handle) : Except Fault (Heap α) :=
  if heap.contains handle then
    let released := heap.alter handle fun resident =>
      ⟨resident.content, false, resident.anchors⟩
    .ok (released.reclaim handle)
  else
    .error (.staleHandle handle)

def sweep : List Handle → Nat → Heap α → Nat × Heap α
  | [], freed, heap => (freed, heap)
  | handle :: rest, freed, heap =>
      if heap.unclaimed handle then
        sweep rest (freed + 1) (heap.remove handle)
      else
        sweep rest freed heap

/-- Works off the queue, oldest first, and counts the instances removed. -/
def collect (heap : Heap α) : Nat × Heap α :=
  let ⟨slots, free, live, released⟩ := heap
  sweep released.toList 0 ⟨slots, free, live, #[]⟩

def occupied (heap : Heap α) (index : Nat) : Bool :=
  match heap.slots[index]? with
  | some slot => slot.resident?.isSome
  | none => false

def clear (heap : Heap α) : Heap α :=
  let vacant := (List.range heap.slots.size).foldl
    (fun heap index => if heap.occupied index then heap.vacate index else heap) heap
  ⟨vacant.slots, vacant.free, 0, #[]⟩

end Heap
end ScriptHost
