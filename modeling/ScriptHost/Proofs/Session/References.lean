import ScriptHost.Proofs.Session.Reachability

/-!
References from script values.

Until a session is torn down, every reference that a script value holds finds its instance, and the
instance is of the type that the reference is marked with. So no instance is refused on its way to
a native callable or to the host, and none is shown as stale.
-/

set_option autoImplicit false

namespace ScriptHost

open Script

/-- Every reference finds its instance, and of the type that it is marked with. -/
def Heap.Resolves (heap : Heap Occupant) (holdings : List Holding) : Prop :=
  ∀ reference, Holding.object reference ∈ holdings →
    ∃ resident, heap.resident? reference.handle = some resident ∧
      resident.content.typeId = reference.typeId

/-- Nothing that a script does at a moment meets a stale handle in a reference. -/
structure Script.Moment.Secure (types : TypeRegistry) (moment : Moment) : Prop where
  resolves : moment.heap.Resolves moment.holdings
  held : ∀ value ∈ moment.occasion.values, value.holdings ⊆ moment.holdings
  crosses : ∀ value ∈ moment.occasion.values, ∀ kind handle,
    value.toHost moment.heap kind ≠ .error (.staleHandle handle)
  shown : ∀ reference text, moment.occasion = .description reference text →
    ∃ resident descriptor, moment.heap.resident? reference.handle = some resident ∧
      types.types[reference.typeId]? = some descriptor ∧
      text = descriptor.render reference.handle resident.content.body

theorem Heap.Accounts.resolves {covenant : Covenant} {heap : Heap Occupant}
    {holdings : List Holding} (accounts : heap.Accounts covenant ↑holdings) :
    heap.Resolves holdings :=
  fun _ member => accounts.resolved (Multiset.mem_coe.mpr member)

namespace Script.Value

theorem of_toHost?_object {value : Value} {handle : Handle}
    (crossed : value.toHost? = some (.object handle)) :
    ∃ reference, value = .object reference ∧ reference.handle = handle := by
  unfold toHost? at crossed
  split at crossed
  · cases crossed
  · cases crossed
  · cases crossed
  · obtain ⟨number, _, other⟩ := Option.map_eq_some_iff.mp crossed
    cases other
  · cases crossed
  · rename_i reference
    injection crossed with same
    injection same with sameHandle
    exact ⟨reference, rfl, sameHandle⟩
  · cases crossed

theorem toHost_not_stale {heap : Heap Occupant} {value : Value}
    (resolves : heap.Resolves value.holdings) (kind : Kind) (handle : Handle) :
    value.toHost heap kind ≠ .error (.staleHandle handle) := by
  unfold toHost
  split
  · exact nofun
  · rename_i host crossed
    split
    · split
      · rename_i other
        obtain ⟨reference, rfl, rfl⟩ := of_toHost?_object crossed
        obtain ⟨resident, found, _⟩ := resolves reference List.mem_cons_self
        rw [if_pos (Heap.contains_iff.mpr ⟨resident, found⟩)]
        exact nofun
      · exact nofun
    · exact nofun

end Script.Value

theorem Script.Moment.Faithful.secure {covenant : Covenant} {moment : Moment}
    (faithful : moment.Faithful covenant) : moment.Secure covenant.types := by
  have resolves := faithful.accounts.resolves
  refine ⟨resolves, faithful.fits.held, fun value member kind handle => ?_,
    faithful.fits.described⟩
  apply Value.toHost_not_stale
  intro reference inside
  exact resolves reference (faithful.fits.held value member inside)

namespace Session

variable {session : Session}

/-- In a session that has not been torn down no reference of a script value dangles, and none did
at any moment of a script before. -/
theorem references_resolve (reachable : session.Reachable) (alive : session.phase ≠ .tornDown) :
    session.machine.store.heap.Resolves session.machine.holdings ∧
      ∀ moment, session.machine.history moment → moment.Secure session.types := by
  have sound := reachable.sound alive
  constructor
  · have accounts := sound.machine.accounts
    rw [zero_add, ← Machine.coe_holdings] at accounts
    exact accounts.resolves
  · intro moment inHistory
    rcases sound.machine.remembered moment inHistory with none | faithful
    · exact none.elim
    · exact faithful.secure

/-- The reference of a variable resolves after its token has been released. -/
theorem token_reference_resolves :
    holding.phase ≠ .tornDown ∧
      holding.machine.store.heap.Resolves holding.machine.holdings := by
  have alive : holding.phase ≠ .tornDown := by decide +kernel
  exact ⟨alive, (references_resolve holding_reachable alive).1⟩

end Session
end ScriptHost
