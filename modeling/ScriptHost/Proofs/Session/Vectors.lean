import ScriptHost.Proofs.Extension.Vectors
import ScriptHost.Proofs.Session.Regimes

/-!
Vectors in a session.

As long as the host brings in no vector with a component that is not finite, there is none: not
between two operations, and not when a script enters a native body. So whoever enters a body of the
extension for mathematics with vectors and numbers gets something finite, or a fault of domain.
-/

set_option autoImplicit false

namespace ScriptHost

open Script Extension.Math

/-- The collections around a call bring nothing in either. -/
theorem Conduct.Upholds.and {conduct : Conduct} {kept : Store → Prop}
    (upholds : conduct.Upholds kept) (holds : Prop) :
    conduct.Upholds fun store => kept store ∧ holds where
  sound before found := upholds.sound before.1 found
  rests same before := ⟨upholds.rests same before.1, before.2⟩
  inserts sound before := ⟨upholds.inserts sound before.1, before.2⟩
  stores handle _ sound before := ⟨upholds.stores handle sound before.1, before.2⟩
  removes handle before := ⟨upholds.removes handle before.1, before.2⟩
  draws drawn sampled before := ⟨upholds.draws drawn sampled before.1, before.2⟩

namespace Session

/-- Native bodies insert finite vectors only, and so does the host itself. Then all vectors are
finite, and they have been so at every request. -/
def Regime.finite : Regime where
  conduct := Conduct.finite
  apt descriptor := descriptor.Obeys Conduct.finite
  law asked store := store.heap.FiniteVectors ∧ ∀ earlier ∈ asked, earlier.store.heap.FiniteVectors

theorem Regime.lasts_finite : Regime.finite.Lasts where
  upholds _ := Conduct.upholds_finite.and _
  requests {types request asked store} obeys function law := by
    have collected := Conduct.upholds_finite.collects law.1
    refine ⟨Store.run_request Conduct.upholds_finite obeys function collected, ?_⟩
    intro earlier member
    rcases List.mem_cons.mp member with rfl | before
    · exact collected
    · exact law.2 earlier before
  clears law := ⟨law.1.clear, law.2⟩

theorem Regime.approves_math {registration : Registration}
    (member : registration ∈ Extension.math) : Regime.finite.Approves registration := by
  rcases List.mem_cons.mp member with rfl | member
  · exact vector_obeys allows_finite
  · obtain ⟨function, known, rfl⟩ := List.mem_map.mp member
    exact function_obeys allows_finite known fun _ _ => trivial

variable {configuration : Configuration} {operations : List Operation}

/-- Every vector in a session is finite, and it was when scripts made their requests, if the host
inserts finite vectors only, itself and in native bodies other than those of the extension for
mathematics. With vectors and any numbers, the host and scripts get finite results from the bodies
of this extension, or else a fault of domain, and then the store is as it was. -/
theorem vectors_stay_finite
    (inserts : ∀ body, Operation.insertObject body ∈ operations → body.HoldsFinite)
    (others : ∀ registration ∈ (create configuration).registered operations,
      registration ∉ Extension.math → Regime.finite.Approves registration) :
    let session := (create configuration).after operations
    (∀ handle vector, session.machine.store.heap.vector? handle = some vector → vector.Finite) ∧
    (∀ asked ∈ session.machine.asked.value, ∀ handle vector,
      asked.store.heap.vector? handle = some vector → vector.Finite) ∧
    (session.phase = .ready → ∀ (call : HostCall) (entry : Call.Entry),
      call.check session.types session.collected.machine.store.heap = .ok entry →
      OnVectors session.collected.machine.store.heap entry →
      ∃ result after, session.machine.store.Comes HostValue.FiniteIn (result, after) ∧
        session.perform call.operation = (result.map call.reply,
          session.withMachine { session.machine with store := after })) ∧
    ∀ (machine : Machine) (request : Call.Request) (entry : Call.Entry),
      machine.Sound ⟨session.types, fun _ _ => False, fun _ => False⟩ 0 →
      machine.store.heap.FiniteVectors →
      request.check session.types machine.store.collect.heap = .ok entry →
      OnVectors machine.store.collect.heap entry →
      ∃ result after, machine.store.Comes Value.FiniteIn (result, after) ∧
        machine.callNative session.types request =
          answered (machine.requested request) (result, after) := by
  intro session
  have abides : Regime.finite.Abides configuration operations := by
    refine ⟨fun operation member => ?_, fun registration member => ?_⟩
    · cases operation with
      | insertObject body => exact inserts body member
      | _ => trivial
    · by_cases known : registration ∈ Extension.math
      · exact Regime.approves_math known
      · exact others registration member known
  have governed := Regime.governs_after Regime.lasts_finite abides
    ⟨Heap.FiniteVectors.empty, nofun⟩
  have reachable : session.Reachable := (Reachable.created configuration).after operations
  have typed : ∀ {machine : Machine},
      machine.Sound ⟨session.types, fun _ _ => False, fun _ => False⟩ 0 →
      machine.store.collect.heap.HasVectors session.types := by
    intro machine sound
    have typed : machine.store.collect.heap.Typed session.types :=
      ⟨sound.accounts.collect.regular, sound.accounts.collect.typed⟩
    exact typed.hasVectors reachable.distinct
  refine ⟨governed.1.finite, fun asked member => (governed.2 asked member).finite, ?host, ?script⟩
  case host =>
    intro ready call entry admitted on
    have sound := (reachable.sound (alive_of_ready ready)).machine
    have comes := Store.run_comes Call.handsFinite_pinResult governed.1 (typed sound) on
    rcases call.perform_checked ready with same | ⟨fault, refused, _⟩
    · rw [admitted] at same
      exact ⟨_, _, comes, same⟩
    · rw [refused] at admitted
      cases admitted
  case script =>
    intro machine request entry sound vectors admitted on
    have comes := Store.run_comes Call.handsFinite_toScript vectors (typed sound) on
    rw [← admitted, ← Store.run_congr Call.toScript (Call.Request.call_admitted request)] at comes
    exact ⟨_, _, comes, callNative_answered session.types request machine⟩

theorem described_vector {log : List Registration} {session : Session}
    (recorded : Recorded log session)
    (known : ∀ registration ∈ log, registration ∈ Extension.math) {heap : Heap Occupant}
    (typed : heap.Typed session.types) {handle : Handle} {found : Vector3}
    (live : heap.vector? handle = some found) :
    ∃ typeId, Call.described session.types heap handle =
      .ok (vector, ⟨typeId, ⟨vectorType, found⟩⟩) := by
  obtain ⟨⟨typeId, body⟩, there, held⟩ := Option.bind_eq_some_iff.mp live
  obtain rfl : body = ⟨vectorType, found⟩ := Instance.eq_of_as? held
  obtain ⟨resident, resides, same⟩ := Heap.content?_eq_some_iff.mp there
  obtain ⟨descriptor, registered, _⟩ := typed.fits resides
  have member := Array.mem_toList_iff.mpr (Array.mem_of_getElem? registered)
  rw [recorded.types] at member
  obtain ⟨registration, logged, isType⟩ := List.mem_filterMap.mp member
  have isVector : descriptor = vector := by
    rcases List.mem_cons.mp (known registration logged) with rfl | function
    · exact (Option.some.inj isType).symm
    · obtain ⟨function, _, rfl⟩ := List.mem_map.mp function
      cases isType
  rw [isVector, same] at registered
  have isKnown : session.types.get typeId = .ok vector := by
    unfold TypeRegistry.get
    rw [registered]
  exact ⟨typeId, Call.described_eq there isKnown⟩

def longVector : Vector3 := ⟨1e200, 0.0, 0.0⟩

def plotted : List Operation :=
  [.start, .install Extension.math, .insertObject ⟨vectorType, longVector⟩]

def plotting : Session := (create .standard).after plotted

/-- The square of the length of the long vector is not finite, so it has no length. -/
theorem long_vector_has_no_length :
    plotting.machine.store.heap.vector? ⟨0, 0⟩ = some longVector ∧ longVector.Finite ∧
      plotting.perform (.callMethod ⟨0, 0⟩ "length" []) =
        (.error (.domain "dot produced a non-finite value"), plotting.collected) := by
  have isFinite : longVector.Finite :=
    ⟨by decide +kernel, by decide +kernel, by decide +kernel⟩
  have inserts : ∀ body, Operation.insertObject body ∈ plotted → body.HoldsFinite := by
    intro body member
    obtain same : Operation.insertObject body = .insertObject ⟨vectorType, longVector⟩ := by
      rcases List.mem_cons.mp member with other | member
      · cases other
      · exact List.mem_singleton.mp ((List.mem_cons.mp member).resolve_left nofun)
    rw [Operation.insertObject.inj same]
    exact Instance.holdsFinite_iff.mpr isFinite
  have registrations : (create .standard).registered plotted ⊆ Extension.math := by
    apply registered_subset
    simp [plotted, Operation.registrations]
  have decoded {heap : Heap Occupant} (components : (heap.vector? ⟨0, 0⟩).map
      (fun found => (found.x, found.y, found.z)) = some (1e200, 0.0, 0.0)) :
      heap.vector? ⟨0, 0⟩ = some longVector := by
    obtain ⟨⟨x, y, z⟩, found, same⟩ := Option.map_eq_some_iff.mp components
    obtain ⟨atX, both⟩ := Prod.mk.inj same
    obtain ⟨atY, atZ⟩ := Prod.mk.inj both
    subst atX atY atZ
    exact found
  have live : plotting.machine.store.heap.vector? ⟨0, 0⟩ = some longVector :=
    decoded (by decide +kernel)
  have still : plotting.collected.machine.store.heap.vector? ⟨0, 0⟩ = some longVector :=
    decoded (by decide +kernel)
  obtain ⟨-, -, host, -⟩ := vectors_stay_finite inserts
    fun registration member other => absurd (registrations member) other
  have reachable : plotting.Reachable := (Reachable.created .standard).after plotted
  have ready : plotting.phase = .ready := by decide +kernel
  have sound := (reachable.sound (alive_of_ready ready)).machine
  have collected : plotting.collected.machine.store.heap.Typed plotting.types :=
    ⟨sound.accounts.collect.regular, sound.accounts.collect.typed⟩
  have recorded : Recorded ([] ++ (create .standard).registered plotted) plotting :=
    (recorded_create .standard).after plotted
  obtain ⟨typeId, described⟩ :=
    described_vector recorded (fun _ member => registrations member) collected still
  have admitted : (HostCall.method ⟨0, 0⟩ "length" []).check plotting.types
      plotting.collected.machine.store.heap =
        .ok (.method ⟨0, 0⟩ vector (measure Vector3.length) longVector []) := by
    change Call.checkMethod _ _ _ _ _ = _
    unfold Call.checkMethod
    rw [described]
    change (Call.read plotting.types vectorType ⟨0, 0⟩
      plotting.collected.machine.store.heap >>= _) = _
    rw [(collected.hasVectors reachable.distinct).read still]
    rfl
  obtain ⟨result, after, comes, performed⟩ := host ready (.method ⟨0, 0⟩ "length" []) _ admitted
    (.method still (List.mem_cons_self) .nil)
  have failed := error_of_fault? (by decide +kernel :
    plotting.fault? (.callMethod ⟨0, 0⟩ "length" []) =
      some (.domain "dot produced a non-finite value"))
  refine ⟨live, isFinite, ?_⟩
  change plotting.perform (.callMethod ⟨0, 0⟩ "length" []) = _ at performed
  rw [performed] at failed ⊢
  cases comes with
  | finite vectors result => cases failed
  | refused text =>
      cases failed
      rfl

end Session
end ScriptHost
