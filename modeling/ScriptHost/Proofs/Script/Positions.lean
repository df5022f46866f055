import ScriptHost.Proofs.Script.Values

/-!
Operands and variables of a sound machine.

The operations on them keep every count right, whatever the positions are that they are given: a
value goes from one position to another, is copied, or is given up, and none is lost or doubled.
-/

set_option autoImplicit false

namespace ScriptHost.Script.Machine

open Value

variable {covenant : Covenant} {hand : Multiset Holding} {machine : Machine}

theorem owned_push_operand (machine : Machine) (value : Value) :
    { machine with operands := machine.operands.push value }.owned =
      machine.owned + value.owned := by
  simp only [owned, Array.toList_push, ownedAll_append, ownedAll_cons, ownedAll_nil, add_zero]
  abel

theorem ownedAll_pop (values : Array Value) :
    ownedAll values.pop.toList + (values.back?.getD .unit).owned = ownedAll values.toList := by
  rcases List.eq_nil_or_concat values.toList with empty | ⟨rest, last, around⟩
  · have none : values = #[] := Array.toList_eq_nil_iff.mp empty
    subst none
    simp
  · obtain ⟨values⟩ := values
    change values = _ at around
    subst around
    simp

theorem owned_pop_operand (machine : Machine) :
    { machine with operands := machine.operands.pop }.owned +
      (machine.operands.back?.getD .unit).owned = machine.owned := by
  have popped := ownedAll_pop machine.operands
  simp only [owned]
  rw [← popped]
  abel

theorem owned_modify_operand (machine : Machine) {position : Nat} {old : Value}
    (found : machine.operands[position]? = some old) (change : Value → Value) :
    { machine with operands := machine.operands.modify position change }.owned + old.owned =
      machine.owned + (change old).owned := by
  have traded := ownedAll_modify found id change
  simp only [List.map_id, id_eq] at traded
  simp only [owned]
  calc
    _ = ownedAll (machine.scope.toList.map Variable.value) +
        ((ownedAll (machine.operands.modify position change).toList + old.owned) +
          (ownedAll (machine.cells.toList.map Cell.content) +
            ownedAll machine.thrown.toList)) := by abel
    _ = _ := by
      rw [traded]
      abel

theorem owned_set_operand (machine : Machine) {position : Nat} {old : Value}
    (found : machine.operands[position]? = some old) (value : Value) :
    { machine with operands := machine.operands.set! position value }.owned + old.owned =
      machine.owned + value.owned := by
  rw [set!_eq_modify]
  exact owned_modify_operand machine found fun _ => value

theorem owned_push_scope (machine : Machine) (entry : Variable) :
    { machine with scope := machine.scope.push entry }.owned =
      machine.owned + entry.value.owned := by
  simp only [owned, Array.toList_push, List.map_append, List.map_cons, List.map_nil,
    ownedAll_append, ownedAll_cons, ownedAll_nil, add_zero]
  abel

theorem owned_pop_scope (machine : Machine) {entry : Variable}
    (last : machine.scope.back? = some entry) :
    { machine with scope := machine.scope.pop }.owned + entry.value.owned = machine.owned := by
  obtain ⟨rest, around⟩ := Array.back?_eq_some_iff.mp last
  simp only [owned, around, Array.pop_push, Array.toList_push, List.map_append, List.map_cons,
    List.map_nil, ownedAll_append, ownedAll_cons, ownedAll_nil, add_zero]
  abel

theorem owned_modify_scope (machine : Machine) {index : Nat} {entry : Variable}
    (found : machine.scope[index]? = some entry) (change : Variable → Variable) :
    { machine with scope := machine.scope.modify index change }.owned + entry.value.owned =
      machine.owned + (change entry).value.owned := by
  have traded := ownedAll_modify found Variable.value change
  simp only [owned]
  calc
    _ = (ownedAll ((machine.scope.modify index change).toList.map Variable.value) +
        entry.value.owned) + (ownedAll machine.operands.toList +
          (ownedAll (machine.cells.toList.map Cell.content) +
            ownedAll machine.thrown.toList)) := by abel
    _ = _ := by
      rw [traded]
      abel

theorem owned_push_thrown (machine : Machine) (value : Value) :
    { machine with thrown := machine.thrown.push value }.owned = machine.owned + value.owned := by
  simp only [owned, Array.toList_push, ownedAll_append, ownedAll_cons, ownedAll_nil, add_zero]
  abel

theorem owned_erase_thrown (machine : Machine) {index : Nat} {value : Value}
    (found : machine.thrown[index]? = some value) :
    { machine with thrown := machine.thrown.eraseIdxIfInBounds index }.owned + value.owned =
      machine.owned := by
  obtain ⟨before, after, around, length, _⟩ := exists_around found
  have erased : (machine.thrown.eraseIdxIfInBounds index).toList = before ++ after := by
    rw [Array.toList_eraseIdxIfInBounds, around, ← length, List.eraseIdx_append_of_length_le
      (le_refl _), Nat.sub_self, List.eraseIdx_cons_zero]
  simp only [owned, erased, around, ownedAll_append, ownedAll_cons]
  abel

theorem owned_operand_le {position : Nat} {value : Value}
    (found : machine.operands[position]? = some value) : value.owned ≤ machine.owned := by
  have inside := owned_le_ownedAll (Array.mem_toList_iff.mpr (Array.mem_of_getElem? found))
  apply inside.trans
  exact (Multiset.le_add_right _ _).trans (Multiset.le_add_left _ _)

theorem Sound.pushRaw {value : Value} (sound : machine.Sound covenant (value.owned + hand)) :
    (machine.pushRaw value).Sound covenant hand := by
  refine sound.shift rfl rfl rfl ?_
  rw [Machine.pushRaw, owned_push_operand]
  abel

theorem Sound.pushLiteral (sound : machine.Sound covenant hand) (literal : Literal) :
    (machine.pushLiteral literal).Sound covenant hand := by
  apply Sound.pushRaw
  rw [owned_eq_zero literal.free, zero_add]
  exact sound

theorem Sound.push (sound : machine.Sound covenant hand) (datum : Datum) :
    (machine.push datum).Sound covenant hand :=
  sound.pushLiteral _

theorem Sound.pop (sound : machine.Sound covenant hand) :
    { machine with operands := machine.operands.pop }.Sound covenant
      ((machine.operands.back?.getD .unit).owned + hand) := by
  refine sound.shift rfl rfl rfl ?_
  rw [← owned_pop_operand machine]
  abel

theorem Sound.drop (sound : machine.Sound covenant hand) : machine.drop.Sound covenant hand :=
  sound.pop.release

theorem Sound.dropMany (sound : machine.Sound covenant hand) (count : Nat) :
    (machine.dropMany count).Sound covenant hand := by
  induction count generalizing machine with
  | zero => exact sound
  | succ count ih => exact ih sound.drop

theorem Sound.dropTo (sound : machine.Sound covenant hand) (size : Nat) :
    (machine.dropTo size).Sound covenant hand :=
  sound.dropMany _

theorem Sound.takeOperand (sound : machine.Sound covenant hand) (position : Nat) :
    (machine.takeOperand position).2.Sound covenant
      ((machine.takeOperand position).1.owned + hand) := by
  unfold Machine.takeOperand
  split
  · rename_i value found
    refine sound.shift rfl rfl rfl ?_
    have traded := owned_set_operand machine found .unit
    rw [owned_datum, add_zero] at traded
    rw [← traded]
    abel
  · rw [owned_datum, zero_add]
    exact sound

theorem Sound.raise (sound : machine.Sound covenant hand) (position : Nat) :
    (machine.raise position).Sound covenant hand :=
  (sound.takeOperand position).pushRaw

theorem Sound.spend (sound : machine.Sound covenant hand) (position : Nat) :
    (machine.spend position).Sound covenant hand :=
  (sound.takeOperand position).release

theorem Sound.spendAll (sound : machine.Sound covenant hand) (positions : List Nat) :
    (machine.spendAll positions).Sound covenant hand := by
  induction positions generalizing machine with
  | nil => exact sound
  | cons position rest ih => exact ih (sound.spend position)

theorem Sound.keepTop (sound : machine.Sound covenant hand) (size : Nat) :
    (machine.keepTop size).Sound covenant hand := by
  unfold Machine.keepTop
  split
  · exact sound
  · exact (sound.pop.dropTo size).pushRaw

theorem Sound.gather (sound : machine.Sound covenant hand) (size : Nat) :
    { machine with operands := machine.operands.take size }.Sound covenant
      (ownedAll (machine.operands.extract size machine.operands.size).toList + hand) := by
  have parts : (machine.operands.take size).toList ++
      (machine.operands.extract size machine.operands.size).toList = machine.operands.toList := by
    rw [← Array.toList_append]
    simp
  refine sound.shift rfl rfl rfl ?_
  simp only [owned]
  rw [← parts, ownedAll_append]
  abel

theorem Sound.makeList (sound : machine.Sound covenant hand) (size : Nat) :
    (machine.makeList size).Sound covenant hand := by
  apply Sound.pushRaw
  rw [owned_list]
  exact sound.gather size

theorem Sound.makeTable (sound : machine.Sound covenant hand) (names : List String) (size : Nat) :
    (machine.makeTable names size).Sound covenant hand := by
  have gathered := sound.gather size
  have merged := owned_mergeEntries
    (names.zip (machine.operands.extract size machine.operands.size).toList) []
  have zipped := ownedEntries_zip names
    (machine.operands.extract size machine.operands.size).toList
  rw [ownedEntries_nil, add_zero] at merged
  unfold Machine.makeTable
  dsimp only
  generalize Value.mergeEntries _ [] = outcome at merged ⊢
  obtain ⟨entries, replaced⟩ := outcome
  apply Sound.release
  apply Sound.pushRaw
  apply gathered.shift rfl rfl rfl
  rw [← zipped, ← merged, owned_table, owned_list]
  simp only [ownedAll_append]
  abel

theorem inside?_valueAt? {place : Place} {value : Value}
    (found : machine.valueAt? place = some value) : value.owned ≤ machine.owned := by
  unfold valueAt? at found
  obtain ⟨root, rootFound, inner⟩ := Option.bind_eq_some_iff.mp found
  apply (owned_inside_le inner).trans
  split at rootFound
  · obtain ⟨entry, entryFound, rfl⟩ := Option.map_eq_some_iff.mp rootFound
    refine (owned_le_ownedAll (List.mem_map_of_mem
      (Array.mem_toList_iff.mpr (Array.mem_of_getElem? entryFound)))).trans ?_
    exact Multiset.le_add_right _ _
  · exact owned_operand_le rootFound
  · obtain ⟨cell, cellFound, rfl⟩ := Option.map_eq_some_iff.mp rootFound
    refine (owned_le_ownedAll (List.mem_map_of_mem
      (Array.mem_toList_iff.mpr (Array.mem_of_getElem? cellFound)))).trans ?_
    exact (Multiset.le_add_right _ _).trans
      ((Multiset.le_add_left _ _).trans (Multiset.le_add_left _ _))

theorem owned_valueAt_le (machine : Machine) (place : Place) :
    (machine.valueAt place).owned ≤ machine.owned := by
  unfold valueAt
  cases found : machine.valueAt? place with
  | none => exact Multiset.zero_le _
  | some value => exact inside?_valueAt? found

theorem Sound.copyHeld (sound : machine.Sound covenant hand) {value : Value}
    (held : value.owned ≤ machine.owned) :
    (machine.retainAll value.holdings).Sound covenant (value.owned + hand) :=
  sound.retainAll fun _ member =>
    Multiset.mem_add.mpr (.inr (Multiset.mem_of_le held (Multiset.mem_coe.mpr member)))

theorem Sound.copy (sound : machine.Sound covenant hand) (place : Place) :
    (machine.copy place).Sound covenant hand :=
  (sound.copyHeld (owned_valueAt_le machine place)).pushRaw

theorem Sound.pushCopy (sound : machine.Sound covenant hand) {value : Value}
    (held : value.owned ≤ machine.owned) : (machine.pushCopy value).Sound covenant hand := by
  unfold Machine.pushCopy
  split
  · exact sound.copy _
  · exact (sound.copyHeld held).pushRaw

theorem Sound.makeFunction (sound : machine.Sound covenant hand) (name : String)
    {bound : List Value} (held : ownedAll bound ≤ machine.owned) :
    (machine.makeFunction name bound).Sound covenant hand :=
  Sound.pushRaw (sound.copyHeld held)

theorem Sound.pushShared (sound : machine.Sound covenant hand) {cell : Nat}
    (held : Holding.cell cell ∈ machine.owned) : (machine.pushShared cell).Sound covenant hand :=
  Sound.pushRaw (sound.retain (Multiset.mem_add.mpr (.inr held)))

theorem Sound.declareValue {value : Value} (sound : machine.Sound covenant (value.owned + hand))
    (name : String) (constant : Bool) :
    { machine with scope := machine.scope.push ⟨name, constant, value⟩ }.Sound covenant hand := by
  refine sound.shift rfl rfl rfl ?_
  rw [owned_push_scope]
  abel

theorem Sound.declare (sound : machine.Sound covenant hand) (name : String) (constant : Bool) :
    (machine.declare name constant).Sound covenant hand :=
  sound.pop.declareValue name constant

theorem Sound.declareAll (sound : machine.Sound covenant hand)
    (declared : List (String × Nat)) : (machine.declareAll declared).Sound covenant hand := by
  induction declared generalizing machine with
  | nil => exact sound
  | cons entry rest ih =>
      exact ih ((sound.takeOperand entry.2).declareValue entry.1 false)

theorem owned_retainAll (machine : Machine) (holdings : List Holding) :
    (machine.retainAll holdings).owned = machine.owned := by
  induction holdings generalizing machine with
  | nil => rfl
  | cons holding rest ih => exact (ih (machine.retain holding)).trans (owned_retain machine holding)

theorem Sound.declareCopies (sound : machine.Sound covenant hand)
    {declared : List (String × Value)} (held : ∀ entry ∈ declared, entry.2.owned ≤ machine.owned) :
    (machine.declareCopies declared).Sound covenant hand := by
  induction declared generalizing machine with
  | nil => exact sound
  | cons entry rest ih =>
      have copied := sound.copyHeld (held entry List.mem_cons_self)
      apply ih (copied.declareValue entry.1 false)
      intro other member
      apply (held other (List.mem_cons_of_mem _ member)).trans
      rw [owned_push_scope, owned_retainAll]
      exact Multiset.le_add_right _ _

theorem Sound.forget (sound : machine.Sound covenant hand) :
    machine.forget.Sound covenant hand := by
  unfold Machine.forget
  split
  · rename_i entry last
    refine Sound.release (sound.shift rfl rfl rfl ?_)
    rw [← owned_pop_scope machine last]
    abel
  · exact sound

theorem Sound.forgetMany (sound : machine.Sound covenant hand) (count : Nat) :
    (machine.forgetMany count).Sound covenant hand := by
  induction count generalizing machine with
  | zero => exact sound
  | succ count ih => exact ih sound.forget

theorem Sound.forgetTo (sound : machine.Sound covenant hand) (size : Nat) :
    (machine.forgetTo size).Sound covenant hand :=
  sound.forgetMany _

end ScriptHost.Script.Machine
