import ScriptHost.Proofs.Script.Exchange

/-!
The last references to go.

An instance that the host has not pinned loses its claim when the last script value that refers to
it goes away. Between two sound machines with the same pins nothing else can happen.
-/

set_option autoImplicit false

namespace ScriptHost

open Script

def Refers (holdings : List Holding) (handle : Handle) : Prop :=
  ∃ reference, Holding.object reference ∈ holdings ∧ reference.handle = handle

/-- A live instance without a claim: the host has not pinned it, and nothing refers to it. -/
def Heap.Idle (heap : Heap Occupant) (holdings : List Holding) (handle : Handle) : Prop :=
  heap.pinned? handle = some false ∧ ¬ Refers holdings handle

theorem references_eq_zero_iff {holdings : List Holding} {handle : Handle} :
    references handle ↑holdings = 0 ↔ ¬ Refers holdings handle := by
  rw [← Nat.le_zero, ← Nat.not_lt, references_pos_iff]
  rfl

namespace Heap

variable {covenant : Covenant} {heap : Heap Occupant} {holdings : List Holding}

theorem Accounts.unclaimed_iff_idle (accounts : heap.Accounts covenant ↑holdings)
    {handle : Handle} : heap.unclaimed handle = true ↔ heap.Idle holdings handle := by
  rw [accounts.unclaimed_iff, Idle, pinned?, Option.map_eq_some_iff]
  constructor
  · rintro ⟨resident, found, unpinned, unreferenced⟩
    exact ⟨⟨resident, found, unpinned⟩, references_eq_zero_iff.mp unreferenced⟩
  · rintro ⟨⟨resident, found, unpinned⟩, unreferenced⟩
    exact ⟨resident, found, unpinned, references_eq_zero_iff.mpr unreferenced⟩

end Heap

namespace Script.Machine

variable {covenant covenant' : Covenant} {before after : Machine} {handle : Handle}

/-- The last script value that refers to an instance goes away, and the host has not pinned it. -/
def Loses (before after : Machine) (handle : Handle) : Prop :=
  before.store.heap.pinned? handle = some false ∧ Refers before.holdings handle ∧
    ¬ Refers after.holdings handle

theorem Sound.unclaimed_iff_idle (sound : before.Sound covenant 0) :
    before.store.heap.unclaimed handle = true ↔
      before.store.heap.Idle before.holdings handle := by
  have accounts := sound.accounts
  rw [zero_add, ← coe_holdings] at accounts
  exact accounts.unclaimed_iff_idle

theorem Sound.unclaimed_or_loses (sound : before.Sound covenant 0)
    (later : after.Sound covenant' 0)
    (pins : after.store.heap.pinned? = before.store.heap.pinned?)
    (unclaimed : after.store.heap.unclaimed handle = true) :
    before.store.heap.unclaimed handle = true ∨ Loses before after handle := by
  obtain ⟨unpinned, unreferenced⟩ := later.unclaimed_iff_idle.mp unclaimed
  rw [pins] at unpinned
  by_cases referenced : Refers before.holdings handle
  · exact .inr ⟨unpinned, referenced, unreferenced⟩
  · exact .inl (sound.unclaimed_iff_idle.mpr ⟨unpinned, referenced⟩)

theorem Loses.idle (loses : Loses before after handle)
    (pins : after.store.heap.pinned? = before.store.heap.pinned?) :
    after.store.heap.Idle after.holdings handle := by
  obtain ⟨unpinned, _, unreferenced⟩ := loses
  rw [← pins] at unpinned
  exact ⟨unpinned, unreferenced⟩

end Script.Machine
end ScriptHost
