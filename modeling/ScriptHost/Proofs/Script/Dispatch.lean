import ScriptHost.Proofs.Script.Members
import ScriptHost.Proofs.Script.Resolution

/-!
Accesses to members of instances in scripts.

To call a method of an instance, to read a field or to assign to one is to make one request, if any
type declares a member of the name. The request names the instance and not the type that declares
the member. There are two exceptions: the language answers some method calls itself, and it refuses
to assign to a member of a constant.
-/

set_option autoImplicit false

namespace ScriptHost.Script

/-- A method call that a script can write and that the language leaves to the instance. -/
structure Name.Reaches (name : String) (count : Nat) : Prop where
  identifier : Name.isIdentifier name = true
  written : Name.isFree name = true ∨ 0 < count ∧ (name = "type_of" ∨ name = "is_shared")

namespace Name.Reaches

variable {name : String} {count : Nat}

theorem ne (reaches : Name.Reaches name count) {other : String} (kept : other ∈ Name.builtinNames)
    (apart : other ≠ "type_of" ∧ other ≠ "is_shared") : name ≠ other := by
  rintro rfl
  rcases reaches.written with free | ⟨_, rfl | rfl⟩
  · unfold Name.isFree at free
    rw [List.contains_iff_mem.mpr kept] at free
    simp at free
  · exact apart.1 rfl
  · exact apart.2 rfl

theorem unanswered (reaches : Name.Reaches name count) : Name.Unanswered name count := by
  refine ⟨reaches.ne (by decide) (by decide), reaches.ne (by decide) (by decide), ?_⟩
  intro none
  rcases reaches.written with free | ⟨some, _⟩
  · constructor
    · rintro rfl
      revert free
      decide
    · rintro rfl
      revert free
      decide
  · omega

end Name.Reaches

namespace Machine

variable {machine after later : Machine} {place : Place} {positions : List Nat} {value : Value}

/-- A value is what it was, or nothing is left of it. -/
def Fades (before after : Option Value) : Prop :=
  after = before ∨ after = some .unit

theorem Fades.trans {first second third : Option Value} (one : Fades first second)
    (two : Fades second third) : Fades first third := by
  rcases two with rfl | rfl
  · exact one
  · exact .inr rfl

/-- Values of operands and cells may have gone, and no other values have come. -/
structure Wanes (before after : Machine) : Prop where
  scope : after.scope = before.scope
  operands : ∀ index : Nat, Fades before.operands[index]? after.operands[index]?
  cells : ∀ index : Nat, Fades (before.cells[index]?.map Cell.content)
    (after.cells[index]?.map Cell.content)

theorem Wanes.refl (machine : Machine) : Wanes machine machine :=
  ⟨rfl, fun _ => .inl rfl, fun _ => .inl rfl⟩

theorem Wanes.trans (one : Wanes machine after) (two : Wanes after later) : Wanes machine later :=
  ⟨two.scope.trans one.scope, fun index => (one.operands index).trans (two.operands index),
    fun index => (one.cells index).trans (two.cells index)⟩

theorem wanes_takeOperand (machine : Machine) (position : Nat) :
    Wanes machine (machine.takeOperand position).2 := by
  refine ⟨scope_takeOperand machine position, fun index => ?_,
    fun index => .inl (by rw [cells_takeOperand])⟩
  by_cases same : index = position
  · subst same
    unfold takeOperand
    cases found : machine.operands[index]? with
    | none => exact .inl found
    | some value =>
        obtain ⟨inside, _⟩ := Array.getElem?_eq_some_iff.mp found
        right
        simp [inside]
  · exact .inl (operands_takeOperand same)

theorem wanes_leaveCell (machine : Machine) (cell : Nat) :
    Wanes machine (machine.leaveCell cell).2 := by
  unfold leaveCell
  cases found : machine.cells[cell]? with
  | none => exact .refl machine
  | some left =>
      obtain ⟨inside, _⟩ := Array.getElem?_eq_some_iff.mp found
      dsimp only
      split
      · refine ⟨rfl, fun _ => .inl rfl, fun index => ?_⟩
        by_cases same : cell = index
        · subst same
          right
          simp [inside]
        · left
          simp [same]
      · refine ⟨rfl, fun _ => .inl rfl, fun index => .inl ?_⟩
        rw [Array.getElem?_modify]
        split
        · cases machine.cells[index]? <;> rfl
        · rfl

theorem wanes_releaseAll (depth : Nat) (holdings : List Holding) (machine : Machine) :
    Wanes machine (releaseAll depth holdings machine) := by
  induction depth generalizing holdings machine with
  | zero => exact .refl machine
  | succ depth deeper =>
      rw [releaseAll_succ]
      induction holdings generalizing machine with
      | nil => exact .refl machine
      | cons holding rest ih =>
          have one : Wanes machine (releaseOne depth machine holding) := by
            cases holding with
            | object reference => exact ⟨rfl, fun _ => .inl rfl, fun _ => .inl rfl⟩
            | cell index => exact (wanes_leaveCell machine index).trans (deeper _ _)
          exact one.trans (ih _)

theorem wanes_release (value : Value) (machine : Machine) :
    Wanes machine (machine.release value) := by
  unfold release
  split
  · exact .refl machine
  · exact wanes_releaseAll _ _ machine

theorem wanes_spendAll (positions : List Nat) (machine : Machine) :
    Wanes machine (machine.spendAll positions) := by
  induction positions generalizing machine with
  | nil => exact .refl machine
  | cons position rest ih =>
      have one : Wanes machine (machine.spend position) :=
        (wanes_takeOperand machine position).trans (wanes_release _ _)
      exact one.trans (ih _)

theorem inside?_unit (path : List Step) : (Value.inside? path .unit).getD .unit = .unit := by
  cases path with
  | nil => rfl
  | cons step rest => cases step <;> rfl

theorem Wanes.valueAt (wanes : Wanes machine after) (place : Place) :
    after.valueAt place = machine.valueAt place ∨ after.valueAt place = .unit := by
  obtain ⟨root, path⟩ := place
  have inCell : ∀ cell, after.valueAt ⟨.cell cell, path⟩ = machine.valueAt ⟨.cell cell, path⟩ ∨
      after.valueAt ⟨.cell cell, path⟩ = .unit := by
    intro cell
    unfold Machine.valueAt valueAt? rootOf
    dsimp only
    rcases wanes.cells cell with same | gone
    · rw [same]
      exact .inl rfl
    · rw [gone]
      exact .inr (inside?_unit path)
  cases root with
  | cell cell => exact inCell cell
  | «variable» index =>
      cases found : machine.scope[index]? with
      | none => simp [Machine.valueAt, valueAt?, rootOf, wanes.scope, found]
      | some entry =>
          cases held : entry.value with
          | shared cell =>
              simpa [Machine.valueAt, valueAt?, rootOf, wanes.scope, found, held] using inCell cell
          | _ => simp [Machine.valueAt, valueAt?, rootOf, wanes.scope, found, held]
  | operand index =>
      rcases wanes.operands index with same | gone
      · cases found : machine.operands[index]? with
        | none => simp [Machine.valueAt, valueAt?, rootOf, same, found]
        | some value =>
            cases value with
            | shared cell =>
                simpa [Machine.valueAt, valueAt?, rootOf, same, found] using inCell cell
            | _ => simp [Machine.valueAt, valueAt?, rootOf, same, found]
      · right
        simpa [Machine.valueAt, valueAt?, rootOf, gone] using inside?_unit path

theorem size_spendAll (positions : List Nat) (machine : Machine) :
    (machine.spendAll positions).operands.size = machine.operands.size := by
  induction positions generalizing machine with
  | nil => rfl
  | cons position rest ih =>
      apply (ih (machine.spend position)).trans
      change ((machine.takeOperand position).2.release _).operands.size = _
      rw [release_operands]
      unfold takeOperand
      split
      · exact Array.size_setIfInBounds
      · rfl

theorem operands_spendAll {index : Nat} (apart : index ∉ positions) (machine : Machine) :
    (machine.spendAll positions).operands[index]? = machine.operands[index]? := by
  induction positions generalizing machine with
  | nil => rfl
  | cons position rest ih =>
      rw [List.mem_cons, not_or] at apart
      obtain ⟨different, others⟩ := apart
      apply (ih others (machine.spend position)).trans
      change ((machine.takeOperand position).2.release _).operands[index]? = _
      rw [release_operands, operands_takeOperand different]

theorem back?_spendAll (pushed : after.operands = machine.operands.push value)
    (inside : ∀ position ∈ positions, position < machine.operands.size) :
    (after.spendAll positions).operands.back? = some value := by
  have apart : machine.operands.size ∉ positions := fun member =>
    Nat.lt_irrefl _ (inside _ member)
  rw [Array.back?_eq_getElem?, size_spendAll, pushed, Array.size_push, Nat.add_sub_cancel,
    operands_spendAll apart, pushed, Array.getElem?_push_size]

theorem top_of_back? (last : machine.operands.back? = some value)
    (plain : ∀ cell, value ≠ .shared cell) : machine.top = value := by
  rw [Array.back?_eq_getElem?] at last
  unfold top
  rw [operand_eq, last]
  cases value with
  | shared cell => exact absurd rfl (plain cell)
  | _ => rfl

theorem back?_keepTop (last : machine.operands.back? = some value) (size : Nat) :
    (machine.keepTop size).operands.back? = some value := by
  unfold keepTop
  split
  · exact last
  · rw [last]
    exact Array.back?_push

end Machine

theorem Value.not_shared {value : Value} {given : HostValue} (formed : value.toHost? = some given)
    (cell : Nat) : value ≠ .shared cell := by
  rintro rfl
  cases formed

/-- Whether scripts may have the value: texts can be too long for them. -/
def Limits.admits (limits : Limits) : HostValue → Bool
  | .text text => Limits.allows limits.textSize text.utf8ByteSize
  | _ => true

namespace Run

variable {env : Environment} {self : Evaluator} {frame : Frame} {machine : Machine}
  {place : Place} {positions : List Nat} {name : String} {reference : Reference}
  {assignment : Assignment} {fault : Fault} {position : Position} {after : Machine}
  {request : Call.Request} {value : Value} {given : HostValue}

theorem method_asks (name : String) (values : List Value) :
    Native.Asks ⟨.object :: Native.anyArguments values.length, true, .method name⟩
      (.object reference :: values) (.method reference name values) :=
  ⟨rfl, nofun, nofun, rfl⟩

theorem values_eq (target : machine.valueAt place = .object reference) (positions : List Nat) :
    Arguments.values ⟨some place, positions⟩ machine =
      .object reference :: positions.map machine.operand := by
  simp [Arguments.values, target]

theorem callMethod_reaches (declared : env.types.declaresMethod name = true)
    (reaches : Name.Reaches name positions.length) (few : positions.length ≤ argumentLimit)
    (own : env.library.find? name positions.length = none)
    (target : machine.valueAt place = .object reference)
    (plain : ∀ position ∈ positions, ∀ function bound,
      machine.operand position ≠ .function function bound) (start position : Position) :
    callMethod env self frame name place positions start position machine =
      requestingMethod env (.method reference name (positions.map machine.operand)) (some place)
        positions position machine := by
  have counted : (positions.map machine.operand).length ≤ argumentLimit := by
    rwa [List.length_map]
  have found := @Native.resolve?_method env name reference _ declared reaches.identifier counted
  rw [callMethod_native reaches.unanswered target, bind_apply, checkRaces_plain plain]
  refine (callNamed_native reaches.unanswered own position).trans ?_
  rw [callNative_eq, values_eq target, found]
  dsimp only
  rw [perform_asks (method_asks name _), output_other (reaches.ne (by decide) (by decide))
    (reaches.ne (by decide) (by decide))]
  dsimp only [Call.Request.isMethod, Arguments.used, Arguments.rest, Arguments.first]
  rw [List.append_nil]
  simp only [bind_assoc, pure_bind, if_true]
  rfl

theorem extent_of_toHost? (formed : value.toHost? = some given) :
    ∃ bytes, value.extent = ⟨0, 0, bytes⟩ ∧
      ∀ limits : Limits, limits.admits given = Limits.allows limits.textSize bytes := by
  have allowed : ∀ limits : Limits, true = Limits.allows limits.textSize 0 := by
    simp [Limits.allows]
  cases value with
  | datum datum =>
      cases datum with
      | text text =>
          cases formed
          exact ⟨_, rfl, fun _ => rfl⟩
      | integer number =>
          obtain ⟨number, _, rfl⟩ := Option.map_eq_some_iff.mp formed
          exact ⟨0, rfl, allowed⟩
      | _ =>
          cases formed
          all_goals exact ⟨0, rfl, allowed⟩
  | object reference =>
      cases formed
      exact ⟨0, rfl, allowed⟩
  | _ => cases formed

theorem checkExtent_given (formed : value.toHost? = some given) (machine : Machine)
    (position : Position) :
    checkExtent env value.extent position machine =
      if env.limits.admits given then .ok () machine
      else .error (.raised (.located .textTooLong position)) (machine.record .failure) := by
  obtain ⟨bytes, extent, admits⟩ := extent_of_toHost? formed
  have allowed : ∀ limit, Limits.allows limit 0 = true := by simp [Limits.allows]
  rw [extent, admits]
  unfold checkExtent
  cases fits : Limits.allows env.limits.textSize bytes with
  | true =>
      simp only [allowed]
      rfl
  | false =>
      simp only [allowed]
      rfl

theorem checkPlace_waned (target : machine.valueAt place = .object reference)
    (wanes : machine.Wanes after) (position : Position) :
    checkPlace env place position after = .ok () after := by
  change checkExtent env (after.valueAt place).extent position after = _
  rcases wanes.valueAt place with same | gone
  · rw [same, target]
    exact @checkExtent_given env (.object reference) _ rfl after position
  · rw [gone]
    exact @checkExtent_given env .unit _ rfl after position

theorem checkTop_given (last : machine.operands.back? = some value)
    (formed : value.toHost? = some given) (position : Position) :
    checkTop env position machine =
      if env.limits.admits given then .ok () machine
      else .error (.raised (.located .textTooLong position)) (machine.record .failure) := by
  change checkExtent env machine.top.extent position machine = _
  rw [Machine.top_of_back? last (Value.not_shared formed)]
  exact checkExtent_given formed machine position

/-- A method that answers ends the call with its answer, unless this is too long for a script. -/
theorem requestingMethod_answered
    (asked : machine.callNative env.types request = (.ok (), after))
    (pushed : after.operands = machine.operands.push value)
    (formed : value.toHost? = some given) (target : after.valueAt place = .object reference)
    (inside : ∀ position ∈ positions, position < machine.operands.size) :
    requestingMethod env request (some place) positions position machine =
      if env.limits.admits given then .ok true (after.spendAll positions)
      else .error (.raised (.located .textTooLong position))
        ((after.spendAll positions).record .failure) := by
  have last := Machine.back?_spendAll pushed inside
  have top := fun position => @checkTop_given env _ value given last formed position
  have kept : ((some place).forM fun place => checkPlace env place position : Run Unit)
      (after.spendAll positions) = .ok () (after.spendAll positions) :=
    checkPlace_waned target (Machine.wanes_spendAll positions after) position
  unfold requestingMethod
  rw [bind_apply, native_apply, asked]
  dsimp only
  rw [top]
  by_cases admitted : env.limits.admits given = true
  · rw [if_pos admitted, if_pos admitted]
    dsimp only
    rw [bind_apply, kept]
    dsimp only
    rw [bind_apply, top, if_pos admitted]
    rfl
  · rw [if_neg admitted, if_neg admitted]

theorem requestingMethod_refused
    (asked : machine.callNative env.types request = (.error fault, after)) :
    requestingMethod env request (some place) positions position machine =
      .error (.raised (.located .thrown position))
        (((after.spendAll positions).throwDatum (.fault fault)).record .failure) := by
  unfold requestingMethod
  rw [bind_apply, native_refused asked]

/-- A run that ends as another one does, with the last of its operands from `size` on. -/
def KeepsTop (size : Nat) (first : EStateM.Result Halt Machine Bool)
    (second : EStateM.Result Halt Machine Unit) : Prop :=
  match first, second with
  | .ok _ later, .ok _ last => last = later.keepTop size
  | .error halt later, .error other last => other = halt ∧ last.still = later.still
  | _, _ => False

/-- A chain that is a method call makes the call once the arguments and the instance are found. -/
theorem chain_method {root : Term} {terms : List Term} {name : String} {before middle : Machine}
    (prepared : prepare self frame [.method name terms position] before =
      .ok [(.method name terms position, positions)] middle)
    (found : rootPlace env self frame root middle = .ok place machine) :
    ∃ start : Position, KeepsTop before.operands.size
      (callMethod env self frame name place positions start position machine)
      (chain env self frame none root [.method name terms position] before) := by
  have gathered : gathering inOrder (prepare self frame [.method name terms position]) before =
      .ok [(.method name terms position, positions)] middle := by
    unfold gathering gatheringFrom
    rw [prepared]
  have opened : ∃ (start : Position) (order : Machine → Nat → List Nat),
      chain env self frame none root [.method name terms position] before =
      (gathering inOrder (prepare self frame [.method name terms position]) >>= fun prepared =>
        get >>= fun machine =>
        gatheringFrom before.operands.size (order machine)
          (rootPlace env self frame root >>= fun place =>
            walk env self frame none prepared place []) >>= fun _ =>
        keepTop before.operands.size) before ∧
      ∀ place, walk env self frame none [(.method name terms position, positions)] place [] = (do
        let changed ← givingUp positions
          (callMethod env self frame name place positions start position)
        if changed then
          giveBack env []) :=
    ⟨_, _, rfl, fun _ => rfl⟩
  obtain ⟨start, order, opened, walked⟩ := opened
  refine ⟨start, ?_⟩
  rw [opened, bind_apply, gathered]
  dsimp only
  rw [get_bind_apply, bind_apply]
  unfold gatheringFrom
  rw [bind_apply, found]
  dsimp only
  rw [walked, bind_apply]
  unfold givingUp
  cases callMethod env self frame name place positions start position machine with
  | error halt later => exact ⟨rfl, Machine.still_of_inert (by simp)⟩
  | ok changed later => cases changed <;> rfl

theorem ComesTo.refusedMethod (declared : env.types.declaresMethod name = true)
    (reaches : Name.Reaches name positions.length) (few : positions.length ≤ argumentLimit)
    (own : env.library.find? name positions.length = none)
    (target : machine.valueAt place = .object reference)
    (plain : ∀ position ∈ positions, ∀ function bound,
      machine.operand position ≠ .function function bound) (start position : Position)
    (refusal : (machine.callNative env.types
      (.method reference name (positions.map machine.operand))).1 = .error fault) :
    ComesTo env (.refused (.method reference name (positions.map machine.operand)) fault position)
      [] (callMethod env self frame name place positions start position) machine := by
  have counted : (positions.map machine.operand).length ≤ argumentLimit := by
    rwa [List.length_map]
  have found := @Native.resolve?_method env name reference _ declared reaches.identifier counted
  refine .calledAsMethod reaches.unanswered own target plain ?_
  apply ComesTo.got
  dsimp only
  rw [values_eq target, found]
  dsimp only
  rw [perform_asks (method_asks name _)]
  exact .first (.first (.refused refusal))

theorem toProperty_reads (target : machine.valueAt place = .object reference)
    (declared : env.types.declaresField name = true) (position : Position) :
    toProperty env place name position machine =
      (native env (.read reference name) [] position >>= fun _ => newOperand) machine := by
  refine get_bind_of ?_
  rw [target]
  dsimp only
  rw [if_pos declared]

theorem ComesTo.refusedRead (target : machine.valueAt place = .object reference)
    (declared : env.types.declaresField name = true)
    (refusal : (machine.callNative env.types (.read reference name)).1 = .error fault) :
    ComesTo env (.refused (.read reference name) fault position) []
      (toProperty env place name position) machine := by
  apply ComesTo.got
  rw [target]
  dsimp only
  rw [if_pos declared]
  exact .first (.refused refusal)

/-- Writing a member of an instance comes to the refusal of its request. -/
theorem ComesTo.refusedMember {value : Nat} (target : machine.valueAt place = .object reference)
    (declared : env.types.declaresField name = true) (free : machine.isConstant place = false)
    (refusal : (machine.callNative env.types
      (.write reference name (machine.operand value))).1 = .error fault) :
    ComesTo env (.refused (.write reference name (machine.operand value)) fault position) []
      (writeMember env place name value position) machine := by
  refine .later (made_operand value).composed rfl ?_
  apply ComesTo.got
  rw [target]
  dsimp only
  rw [if_pos declared]
  apply ComesTo.got
  rw [free]
  exact .first (.refused refusal)

theorem ComesTo.refusedWrite (plain : assignment.operation? = none)
    (apart : place.root ≠ .operand assignment.value)
    (target : machine.valueAt place = .object reference)
    (declared : env.types.declaresField name = true) (free : machine.isConstant place = false)
    (refusal : ((machine.raise assignment.value).callNative env.types
      (.write reference name (machine.operand assignment.value))).1 = .error fault) :
    ComesTo env (.refused (.write reference name (machine.operand assignment.value)) fault position)
      [] (assignProperty env assignment place name position) machine := by
  have raisedFree := (machine.isConstant_raise assignment.value place).trans free
  rw [← machine.operand_raise assignment.value] at refusal ⊢
  apply ComesTo.got
  rw [target]
  dsimp only
  unfold newValue
  rw [plain]
  refine .later (Composed.moves fun machine => machine.inert_raise _) rfl ?_
  refine .later made_mark.composed rfl ?_
  exact .first (refusedMember (Machine.valueAt_raise apart target) declared raisedFree refusal)

end Run
end ScriptHost.Script
