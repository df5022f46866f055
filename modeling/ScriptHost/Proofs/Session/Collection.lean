import Mathlib.Data.Finset.Card
import ScriptHost.Proofs.Session.Reachability

/-!
What a collection frees.

Between two operations every instance without a claim is in the queue, so a collection frees these
instances, all of them, and counts each of them once. Native callables find the heap in the state
that a collection leaves.
-/

set_option autoImplicit false

namespace ScriptHost

open Script

/-- The live instances are those that the host has pinned and those that something refers to. -/
def Heap.Tight (heap : Heap Occupant) (holdings : List Holding) : Prop :=
  ∀ handle, heap.contains handle = true ↔
    heap.pinned? handle = some true ∨ Refers holdings handle

theorem Heap.Accounts.tight {covenant : Covenant} {heap : Heap Occupant}
    {holdings : List Holding} (accounts : heap.Accounts covenant ↑holdings)
    (settled : heap.Settled) : heap.Tight holdings := by
  intro handle
  constructor
  · intro live
    obtain ⟨resident, found⟩ := contains_iff.mp live
    by_cases referenced : Refers holdings handle
    · exact .inr referenced
    · left
      cases pinned : resident.pinned with
      | true => rw [pinned?, found, Option.map_some, pinned]
      | false =>
          have idle : heap.Idle holdings handle := by
            refine ⟨?_, referenced⟩
            rw [pinned?, found, Option.map_some, pinned]
          exact absurd (accounts.unclaimed_iff_idle.mpr idle) settled.claimed
  · rintro (pinned | ⟨reference, member, rfl⟩)
    · obtain ⟨resident, found, _⟩ := Option.map_eq_some_iff.mp pinned
      exact contains_iff.mpr ⟨resident, found⟩
    · obtain ⟨resident, found, _⟩ := accounts.resolved (Multiset.mem_coe.mpr member)
      exact contains_iff.mpr ⟨resident, found⟩

theorem Heap.settled_of_handles {heap : Heap Occupant}
    (claimed : ∀ handle ∈ heap.handles, heap.unclaimed handle = false) : heap.Settled := by
  intro handle
  by_contra unclaimed
  rw [Bool.not_eq_false] at unclaimed
  have inside := claimed handle (mem_handles.mpr (contains_of_unclaimed unclaimed))
  rw [unclaimed] at inside
  cases inside

namespace Session

variable {session : Session}

theorem Reachable.tight (reachable : session.Reachable) (alive : session.phase ≠ .tornDown)
    (settled : session.machine.store.heap.Settled) :
    session.machine.store.heap.Tight session.machine.holdings := by
  have accounts := (reachable.sound alive).machine.accounts
  rw [zero_add, ← Machine.coe_holdings] at accounts
  exact accounts.tight settled

theorem collect_eq (ready : session.phase = .ready) :
    collect session = .ok session.machine.store.heap.collect.1
      (session.withMachine session.machine.collect) := by
  unfold collect whenReady
  rw [ready]
  rfl

theorem Sound.unclaimed_iff_idle {promised : Handle → TypeId → Prop} {earlier : Moment → Prop}
    {spare : Handle → Prop} (sound : session.Sound promised earlier spare) {handle : Handle} :
    session.machine.store.heap.unclaimed handle = true ↔
      session.machine.store.heap.Idle session.machine.holdings handle :=
  sound.machine.unclaimed_iff_idle

/-- The idle instances of a sound session, each counted once by a collection, which frees them. -/
theorem Sound.collects {promised : Handle → TypeId → Prop} {earlier : Moment → Prop}
    {spare : Handle → Prop} (sound : session.Sound promised earlier spare)
    (ready : session.phase = .ready) :
    ∃ idle : Finset Handle,
      (∀ handle, handle ∈ idle ↔
        session.machine.store.heap.Idle session.machine.holdings handle) ∧
      collect session = .ok idle.card (session.withMachine session.machine.collect) := by
  have queued := sound.machine.queued
  refine ⟨(session.machine.store.heap.handles.filter
    session.machine.store.heap.unclaimed).toFinset, fun handle => ?_, ?_⟩
  · rw [← sound.unclaimed_iff_idle, List.mem_toFinset, List.mem_filter, Heap.mem_handles]
    exact ⟨fun both => both.2, fun unclaimed => ⟨Heap.contains_of_unclaimed unclaimed, unclaimed⟩⟩
  · have distinct := (Heap.nodup_handles session.machine.store.heap).filter
      session.machine.store.heap.unclaimed
    rw [collect_eq ready, List.toFinset_card_of_nodup distinct,
      ← Heap.collect_count sound.machine.accounts.regular queued]

/-- A collection frees the live instances that the host has not pinned and that no script value
refers to. They are in the queue, they are counted once each, and what stays is what has a claim.
The cells of captured variables are script values, so cells in a cycle keep what they refer to. A
native callable finds what a collection leaves, the values under way being script values too. -/
theorem collection_is_exact (reachable : session.Reachable) (ready : session.phase = .ready) :
    (∀ handle, session.machine.store.heap.Idle session.machine.holdings handle →
      handle ∈ session.machine.store.heap.released) ∧
    (∃ (idle : Finset Handle) (later : Session),
      (∀ handle, handle ∈ idle ↔
        session.machine.store.heap.Idle session.machine.holdings handle) ∧
      collect session = .ok idle.card later ∧
      (∀ handle, later.machine.store.heap.resident? handle =
        if handle ∈ idle then none else session.machine.store.heap.resident? handle) ∧
      later.machine.store.heap.Tight later.machine.holdings) ∧
    ∀ moment request, session.machine.history moment → moment.occasion = .request request →
      moment.heap.Tight moment.holdings := by
  have alive : session.phase ≠ .tornDown := by
    rw [ready]
    exact nofun
  have sound := reachable.sound alive
  have queued := sound.machine.queued
  refine ⟨fun handle idle => queued handle (sound.unclaimed_iff_idle.mpr idle), ?_, ?_⟩
  · obtain ⟨idle, member, collected⟩ := sound.collects ready
    refine ⟨idle, _, member, collected, fun handle => ?_, ?_⟩
    · refine (Heap.resident?_collect session.machine.store.heap handle).trans ?_
      by_cases unclaimed : session.machine.store.heap.unclaimed handle = true
      · have inside := (member handle).mpr (sound.unclaimed_iff_idle.mp unclaimed)
        rw [if_pos ⟨queued handle unclaimed, unclaimed⟩, if_pos inside]
      · have outside : handle ∉ idle := fun inside =>
          unclaimed (sound.unclaimed_iff_idle.mpr ((member handle).mp inside))
        rw [if_neg fun both => unclaimed both.2, if_neg outside]
    · have accounts := sound.machine.collect.accounts
      rw [zero_add, ← Machine.coe_holdings] at accounts
      exact accounts.tight queued.settled_collect
  · intro moment request inHistory requested
    rcases sound.machine.remembered moment inHistory with none | faithful
    · exact none.elim
    · exact faithful.accounts.tight (faithful.fits.settled request requested)

/-- A token that has been overwritten in its variable is freed. -/
theorem overwritten_token_is_freed :
    (holding.perform (.setGlobal "a" .null)).2.phase = .ready ∧
      ∃ later, collect (holding.perform (.setGlobal "a" .null)).2 = .ok 1 later := by
  have ready : (holding.perform (.setGlobal "a" .null)).2.phase = .ready := by decide +kernel
  have counted : (holding.perform (.setGlobal "a" .null)).2.machine.store.heap.collect.1 = 1 := by
    decide +kernel
  obtain ⟨_, ⟨idle, later, _, collected, _⟩, _⟩ :=
    collection_is_exact (Reachable.performed (.setGlobal "a" .null) holding_reachable) ready
  have amount := collected
  rw [collect_eq ready, counted] at amount
  injection amount with amount _
  rw [← amount] at collected
  exact ⟨ready, later, collected⟩

end Session
end ScriptHost
