import ScriptHost.Proofs.Decimal.Integers
import ScriptHost.Proofs.Script.Housekeeping
import ScriptHost.Proofs.Script.Variables

/-!
Values on their way into scripts and back.

A value of the host that goes into a script and comes back is the same value, or it is refused for
its kind. A handle that is not live is refused on both ways; on the way back the kind comes first,
so that what is left of an instance is refused as stale only where instances are accepted. On
neither way does an instance, its content or the host's claim on it change. An integer of a script
comes back as the same number, or it is refused because there is no such double.
-/

set_option autoImplicit false

namespace ScriptHost

open Script

variable {heap after : Heap Occupant} {value : HostValue} {script : Value} {kind : Kind}
  {handle : Handle}

namespace Script.Value

theorem toHost_of_carries (carries : script.Carries heap value) (kind : Kind) :
    script.toHost heap kind =
      if kind.accepts value.kind then .ok value
      else .error (.typeMismatch kind value.kind.name) := by
  obtain ⟨-, form, live⟩ := carries
  unfold toHost
  simp only [form]
  cases value with
  | object handle => simp only [live handle rfl, if_true]
  | _ => rfl

/-- Where an instance is no value of the kind, that it is gone is not found out. -/
theorem toHost_stale (dead : heap.contains handle = false) (typeId : TypeId) (kind : Kind) :
    (object ⟨handle, typeId⟩).toHost heap kind =
      if kind.accepts .object then .error (.staleHandle handle)
      else .error (.typeMismatch kind Kind.object.name) := by
  simp only [toHost, toHost?, dead, HostValue.kind, Bool.false_eq_true, if_false]

theorem carries_integer {integer : Int64} (small : integer.toInt.natAbs ≤ Decimal.exactLimit) :
    (datum (.integer integer)).Carries heap (.number (Float.ofInt integer.toInt)) := by
  refine ⟨.inl ⟨_, rfl⟩, ?_, nofun⟩
  change (Decimal.exactFloat? integer.toInt).map HostValue.number = _
  rw [Decimal.exactFloat?, if_pos small]
  rfl

theorem toHost_large {integer : Int64} (large : ¬integer.toInt.natAbs ≤ Decimal.exactLimit)
    (heap : Heap Occupant) (kind : Kind) :
    (datum (.integer integer)).toHost heap kind =
      .error (.typeMismatch kind
        ("integer " ++ toString integer.toInt ++ " (not exactly representable)")) := by
  have form : (datum (.integer integer)).toHost? = none := by
    change (Decimal.exactFloat? integer.toInt).map HostValue.number = none
    rw [Decimal.exactFloat?, if_neg large]
    rfl
  unfold toHost
  rw [form]
  rfl

theorem integer_accepted_iff {integer : Int64} :
    (∃ host, (datum (.integer integer)).toHost heap kind = .ok host) ↔
      kind.accepts .number = true ∧ integer.toInt.natAbs ≤ Decimal.exactLimit := by
  by_cases small : integer.toInt.natAbs ≤ Decimal.exactLimit
  · rw [toHost_of_carries (carries_integer small)]
    change (∃ host, (if kind.accepts .number then _ else _) = _) ↔ _
    by_cases accepts : kind.accepts .number = true
    · rw [if_pos accepts]
      exact ⟨fun _ => ⟨accepts, small⟩, fun _ => ⟨_, rfl⟩⟩
    · rw [if_neg accepts]
      exact ⟨nofun, fun both => absurd both.1 accepts⟩
  · rw [toHost_large small]
    exact ⟨nofun, fun both => absurd both.2 small⟩

theorem integer_exact {integer : Int64} {host : HostValue}
    (accepted : (datum (.integer integer)).toHost heap kind = .ok host) :
    ∃ number, host = .number number ∧ Decimal.value? number = some (integer.toInt : ℚ) := by
  obtain ⟨accepts, small⟩ := integer_accepted_iff.mp ⟨host, accepted⟩
  rw [toHost_of_carries (carries_integer small)] at accepted
  change (if kind.accepts .number then _ else _) = _ at accepted
  rw [if_pos accepts] at accepted
  cases accepted
  exact ⟨_, rfl, (Decimal.isInteger_ofInt small).1⟩

end Script.Value

namespace Script

/-- A value that is no dead handle goes into a script and comes back as it was, where the kind
accepts it. A dead handle does not go into a script, and one that is dead on the way back is found
out if its kind is not refused before. Nothing of this shows in the instances. An integer comes back
as the number that it is, or not at all. -/
theorem values_pass_both_ways :
    (∀ (heap : Heap Occupant) (value : HostValue) (kind : Kind),
      (∀ handle, value = .object handle → heap.contains handle = true) →
      ∃ script after, value.toScript heap = .ok (script, after) ∧
        script.toHost after kind =
          (if kind.accepts value.kind then .ok value
          else .error (.typeMismatch kind value.kind.name)) ∧
        after.content? = heap.content? ∧ after.pinned? = heap.pinned?) ∧
    (∀ (heap : Heap Occupant) (handle : Handle) (typeId : TypeId) (kind : Kind),
      heap.contains handle = false →
      (HostValue.object handle).toScript heap = .error (.staleHandle handle) ∧
        (Value.object ⟨handle, typeId⟩).toHost heap kind =
          if kind.accepts .object then .error (.staleHandle handle)
          else .error (.typeMismatch kind Kind.object.name)) ∧
    (∀ (heap : Heap Occupant) (integer : Int64) (kind : Kind),
      (∃ host, (Value.datum (.integer integer)).toHost heap kind = .ok host) ↔
        kind.accepts .number = true ∧ integer.toInt.natAbs ≤ 2 ^ 53) ∧
    (∀ (heap : Heap Occupant) (integer : Int64) (kind : Kind) (host : HostValue),
      (Value.datum (.integer integer)).toHost heap kind = .ok host →
      ∃ number, host = .number number ∧ Decimal.value? number = some (integer.toInt : ℚ)) ∧
    ∀ (heap : Heap Occupant) (first second : Int64) (kind : Kind) (host : HostValue),
      (Value.datum (.integer first)).toHost heap kind = .ok host →
      (Value.datum (.integer second)).toHost heap kind = .ok host → first = second := by
  refine ⟨fun heap value kind live => ?roundTrip,
    fun heap handle typeId kind dead =>
      ⟨Value.toScript_stale dead, Value.toHost_stale dead typeId kind⟩,
    fun heap integer kind => Value.integer_accepted_iff,
    fun heap integer kind host => Value.integer_exact, ?apart⟩
  case roundTrip =>
    obtain ⟨script, after, entered⟩ := Value.toScript_live live
    exact ⟨script, after, entered, Value.toHost_of_carries (Value.carries_of_toScript entered) kind,
      Heap.content?_of_bare (HostValue.bare_toScript entered), Call.pinned?_toScript entered⟩
  case apart =>
    intro heap first second kind host isFirst isSecond
    obtain ⟨number, rfl, isInteger⟩ := Value.integer_exact isFirst
    obtain ⟨_, ⟨⟩, alsoInteger⟩ := Value.integer_exact isSecond
    rw [isInteger, Option.some_inj] at alsoInteger
    exact Int64.toInt_inj.mp (Int.cast_injective alsoInteger)

/-- Seven is seven for the host, a number that is none passes, and a dead handle does not. -/
theorem seven_passes :
    (∃ script after, (HostValue.number (0.0 / 0.0)).toScript .empty = .ok (script, after) ∧
      script.toHost after .number = .ok (.number (0.0 / 0.0))) ∧
    (HostValue.object ⟨0, 0⟩).toScript .empty = .error (.staleHandle ⟨0, 0⟩) ∧
    ∃ number, (Value.datum (.integer 7)).toHost .empty .any = .ok (.number number) ∧
      Decimal.value? number = some ((7 : Int64).toInt : ℚ) := by
  obtain ⟨passes, stale, accepted, exact, -⟩ := values_pass_both_ways
  obtain ⟨script, after, entered, left, -⟩ :=
    passes .empty (.number (0.0 / 0.0)) .number nofun
  obtain ⟨host, seven⟩ := (accepted .empty 7 .any).mpr ⟨rfl, by decide⟩
  obtain ⟨number, rfl, isSeven⟩ := exact .empty 7 .any host seven
  exact ⟨⟨script, after, entered, left⟩, (stale .empty ⟨0, 0⟩ 0 .any rfl).1, number, seven, isSeven⟩

/-- A script's reference to a token that has since been cleared away is refused for not being a
number, if it is to be one. -/
theorem cleared_token_is_no_number :
    ¬ ∀ (heap after : Heap Occupant) (handle : Handle) (script : Value) (kind : Kind),
      (HostValue.object handle).toScript heap = .ok (script, after) →
      after.clear.contains handle = false →
      script.toHost after.clear kind = .error (.staleHandle handle) := by
  intro stale
  let token : Occupant := ⟨0, ⟨⟨"Token", .empty⟩, ()⟩⟩
  have refused := stale (Heap.empty.insert token true).2 _ ⟨0, 0⟩ _ .number rfl rfl
  rw [Value.toHost_stale rfl] at refused
  cases refused

end Script
end ScriptHost
