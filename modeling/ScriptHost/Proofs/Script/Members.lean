import ScriptHost.Proofs.Script.Places
import ScriptHost.Proofs.Script.Composition

/-!
Members of instances that scripts assign to.

To assign to a member of an instance is to make one request. The value is moved to the end of the
operands for it, and whatever happens to the operands before and after changes no instance. A member
of a constant is refused before the request.
-/

set_option autoImplicit false

namespace ScriptHost.Script

namespace Machine

variable {machine : Machine} {place : Place} {position : Nat}

theorem operand_eq (machine : Machine) (position : Nat) :
    machine.operand position =
      match machine.operands[position]? with
      | some (.shared cell) => (machine.cells[cell]?.map Cell.content).getD .unit
      | some value => value
      | none => .unit := by
  unfold operand valueAt valueAt? rootOf Place.ofOperand
  cases found : machine.operands[position]? with
  | none => simp [found]
  | some value =>
      cases value with
      | shared cell =>
          cases content : machine.cells[cell]? with
          | none => simp [found, content]
          | some cell => simp [found, content, Value.inside?]
      | _ => simp [found, Value.inside?]

theorem store_raise (machine : Machine) (position : Nat) :
    (machine.raise position).store = machine.store := by
  change (machine.takeOperand position).2.store = machine.store
  unfold takeOperand
  split <;> rfl

theorem isConstant_raise (machine : Machine) (position : Nat) (place : Place) :
    (machine.raise position).isConstant place = machine.isConstant place := by
  have same : (machine.raise position).scope = machine.scope := scope_takeOperand machine position
  unfold isConstant
  rw [same]

theorem operands_raise (machine : Machine) (position : Nat) :
    (machine.raise position).operands =
      (machine.takeOperand position).2.operands.push (machine.takeOperand position).1 :=
  rfl

theorem operand_raise (machine : Machine) (position : Nat) :
    (machine.raise position).operand ((machine.raise position).operands.size - 1) =
      machine.operand position := by
  have cells : (machine.raise position).cells = machine.cells := cells_takeOperand machine position
  have last : (machine.raise position).operands[(machine.raise position).operands.size - 1]? =
      some (machine.takeOperand position).1 := by
    rw [operands_raise, Array.size_push, Nat.add_sub_cancel, Array.getElem?_push_size]
  rw [operand_eq, operand_eq, last, cells]
  unfold takeOperand
  cases machine.operands[position]? with
  | some value => rfl
  | none => rfl

theorem valueAt?_pushRaw {held : Value} (found : machine.valueAt? place = some held)
    (value : Value) : (machine.pushRaw value).valueAt? place = some held := by
  obtain ⟨root, path⟩ := place
  have kept : ∀ index, root = .operand index →
      (machine.operands.push value)[index]? = machine.operands[index]? := by
    rintro index rfl
    have inside : index < machine.operands.size := by
      by_contra beyond
      simp [valueAt?, rootOf, Array.getElem?_eq_none (Nat.le_of_not_lt beyond)] at found
    rw [Array.getElem?_push, if_neg inside.ne]
  have sameRoot : (machine.pushRaw value).rootOf root = machine.rootOf root := by
    cases root with
    | «variable» index => rfl
    | operand index => simp only [rootOf, pushRaw, kept index rfl]
    | cell index => rfl
  unfold valueAt? at found ⊢
  rw [sameRoot]
  cases behind : machine.rootOf root with
  | operand index =>
      rw [behind] at found
      change (machine.operands.push value)[index]? >>= _ = _
      rw [kept index (rootOf_eq_operand behind)]
      exact found
  | _ =>
      rw [behind] at found
      exact found

theorem valueAt?_of_object {reference : Reference}
    (target : machine.valueAt place = .object reference) :
    machine.valueAt? place = some (.object reference) := by
  unfold valueAt at target
  cases held : machine.valueAt? place with
  | some value =>
      rw [held] at target
      exact congrArg some target
  | none =>
      rw [held] at target
      cases target

theorem valueAt_pushRaw {reference : Reference}
    (target : machine.valueAt place = .object reference) (value : Value) :
    (machine.pushRaw value).valueAt place = .object reference := by
  unfold valueAt
  rw [valueAt?_pushRaw (valueAt?_of_object target)]
  rfl

theorem valueAt_raise (apart : place.root ≠ .operand position) {reference : Reference}
    (target : machine.valueAt place = .object reference) :
    (machine.raise position).valueAt place = .object reference := by
  have found := valueAt?_of_object target
  rw [← valueAt?_takeOperand apart] at found
  unfold valueAt raise
  rw [valueAt?_pushRaw found]
  rfl

/-- A unit at the end of the operands stays there whichever operand is spent. -/
theorem top_spendAll (last : machine.operands.back? = some .unit) (used : Nat) :
    (machine.spendAll [used]).top = .unit := by
  rw [Array.back?_eq_getElem?] at last
  obtain ⟨bound, _⟩ := Array.getElem?_eq_some_iff.mp last
  have operands : (machine.spendAll [used]).operands = (machine.takeOperand used).2.operands :=
    release_operands _ _
  have size : (machine.takeOperand used).2.operands.size = machine.operands.size := by
    unfold takeOperand
    split
    · exact Array.size_setIfInBounds
    · rfl
  have kept : (machine.takeOperand used).2.operands[machine.operands.size - 1]? = some .unit := by
    by_cases same : machine.operands.size - 1 = used
    · rw [same] at last bound
      unfold takeOperand
      rw [same, last]
      change (machine.operands.setIfInBounds used .unit)[used]? = some .unit
      rw [Array.getElem?_setIfInBounds, if_pos rfl, if_pos bound]
    · exact (operands_takeOperand same).trans last
  unfold top
  rw [operand_eq, operands, size, kept]

end Machine

namespace Run

variable {env : Environment} {machine after : Machine} {reference : Reference} {name : String}
  {place : Place} {request : Call.Request} {position : Position}

theorem checkTop_unit (top : machine.top = .unit) :
    checkTop env position machine = .ok () machine := by
  have allowed : ∀ limit, Limits.allows limit 0 = true := by simp [Limits.allows]
  change checkExtent env machine.top.extent position machine = _
  rw [top]
  unfold checkExtent
  simp only [Value.extent, allowed]
  rfl

theorem native_answered {used : Nat}
    (asked : machine.callNative env.types request = (.ok (), after))
    (last : after.operands.back? = some .unit) :
    native env request [used] position machine = .ok () (after.spendAll [used]) := by
  rw [native_apply, asked]
  exact checkTop_unit (Machine.top_spendAll last used)

theorem native_refused {used : List Nat} {fault : Fault}
    (asked : machine.callNative env.types request = (.error fault, after)) :
    native env request used position machine =
      .error (.raised (.located .thrown position))
        (((after.spendAll used).throwDatum (.fault fault)).record .failure) := by
  rw [native_apply, asked]

theorem writeMember_eq {value : Nat} (target : machine.valueAt place = .object reference)
    (declared : env.types.declaresField name = true) :
    writeMember env place name value position machine =
      if machine.isConstant place then
        .error (.raised (.located (.constantProperty name) position)) (machine.record .failure)
      else
        (native env (.write reference name (machine.operand value)) [value] position >>=
          fun _ => modify Machine.drop) machine := by
  have held : operand value machine = .ok (machine.operand value) machine := rfl
  unfold writeMember
  rw [bind_apply, held]
  dsimp only
  rw [get_bind_apply, target]
  dsimp only
  rw [if_pos declared, bind_apply]
  change (if machine.isConstant place = true then _ else _ : Run Unit) machine = _
  split
  · rfl
  · rfl

variable {assignment : Assignment}

theorem assignProperty_eq (plain : assignment.operation? = none)
    (target : machine.valueAt place = .object reference) :
    assignProperty env assignment place name position machine =
      (writeMember env place name ((machine.raise assignment.value).operands.size - 1) position >>=
        fun _ => modify Machine.drop) (machine.raise assignment.value) := by
  unfold assignProperty
  rw [get_bind_apply, target]
  dsimp only
  unfold newValue
  rw [plain]
  rfl

theorem assignProperty_congr {other : Assignment} (plain : assignment.operation? = none)
    (otherPlain : other.operation? = none) (same : other.value = assignment.value)
    (target : machine.valueAt place = .object reference) :
    assignProperty env other place name position machine =
      assignProperty env assignment place name position machine := by
  rw [assignProperty_eq plain target, assignProperty_eq otherPlain target, same]

theorem assignProperty_constant (plain : assignment.operation? = none)
    (apart : place.root ≠ .operand assignment.value)
    (target : machine.valueAt place = .object reference)
    (declared : env.types.declaresField name = true) (constant : machine.isConstant place = true) :
    ∃ later, assignProperty env assignment place name position machine =
        .error (.raised (.located (.constantProperty name) position)) later ∧
      later.still = machine.still := by
  have raised := (machine.isConstant_raise assignment.value place).trans constant
  rw [assignProperty_eq plain target, bind_apply,
    writeMember_eq (Machine.valueAt_raise apart target) declared, if_pos raised]
  exact ⟨_, rfl, Machine.still_of_inert (by simp)⟩

/-- A member of anything else is one request, made with the value raised. -/
theorem assignProperty_requests (plain : assignment.operation? = none)
    (apart : place.root ≠ .operand assignment.value)
    (target : machine.valueAt place = .object reference)
    (declared : env.types.declaresField name = true) (free : machine.isConstant place = false) :
    assignProperty env assignment place name position machine =
      (native env (.write reference name (machine.operand assignment.value))
          [(machine.raise assignment.value).operands.size - 1] position >>=
        fun _ => modify fun machine => machine.drop.drop) (machine.raise assignment.value) := by
  have raised := (machine.isConstant_raise assignment.value place).trans free
  rw [assignProperty_eq plain target, bind_apply,
    writeMember_eq (Machine.valueAt_raise apart target) declared, raised,
    if_neg Bool.false_ne_true, bind_apply, bind_apply, Machine.operand_raise]
  cases native env _ _ position (machine.raise assignment.value) with
  | ok _ _ => rfl
  | error _ _ => rfl

theorem assignProperty_answered (plain : assignment.operation? = none)
    (apart : place.root ≠ .operand assignment.value)
    (target : machine.valueAt place = .object reference)
    (declared : env.types.declaresField name = true) (free : machine.isConstant place = false)
    (asked : (machine.raise assignment.value).callNative env.types
      (.write reference name (machine.operand assignment.value)) = (.ok (), after))
    (last : after.operands.back? = some .unit) :
    ∃ later, assignProperty env assignment place name position machine = .ok () later ∧
      later.still = after.still := by
  rw [assignProperty_requests plain apart target declared free, bind_apply,
    native_answered asked last]
  exact ⟨_, rfl, Machine.still_of_inert (by simp)⟩

theorem assignProperty_refused (plain : assignment.operation? = none)
    (apart : place.root ≠ .operand assignment.value)
    (target : machine.valueAt place = .object reference)
    (declared : env.types.declaresField name = true) (free : machine.isConstant place = false)
    {fault : Fault}
    (asked : (machine.raise assignment.value).callNative env.types
      (.write reference name (machine.operand assignment.value)) = (.error fault, after)) :
    ∃ later, assignProperty env assignment place name position machine =
        .error (.raised (.located .thrown position)) later ∧
      later.still = (after.throwDatum (.fault fault)).still := by
  rw [assignProperty_requests plain apart target declared free, bind_apply, native_refused asked]
  refine ⟨_, rfl, ?_⟩
  have spent := Machine.still_of_inert
    (after.inert_spendAll [(machine.raise assignment.value).operands.size - 1])
  exact congrArg (fun still => (still.1.push (.datum (.fault fault)), still.2)) spent

/-- What one run does, another one does too, but for values that it moves about at the end. -/
def Follows (first second : EStateM.Result Halt Machine Unit) : Prop :=
  match first, second with
  | .ok _ later, .ok _ last => last.still = later.still
  | .error halt later, .error other last => other = halt ∧ last.still = later.still
  | _, _ => False

theorem follows_chain {self : Evaluator} {frame : Frame} {root : Term}
    (found : rootPlace env self frame root machine = .ok place machine) :
    Follows (assignProperty env assignment place name position machine)
      (chain env self frame (some assignment) root [.property name position] machine) := by
  have opened : ∃ order, chain env self frame (some assignment) root [.property name position]
      machine = (gatheringFrom machine.operands.size order
        (rootPlace env self frame root >>= fun place =>
          assignProperty env assignment place name position >>= fun _ => push .unit) >>=
        fun _ => keepTop machine.operands.size) machine := ⟨_, rfl⟩
  obtain ⟨order, opened⟩ := opened
  rw [opened, bind_apply]
  unfold gatheringFrom
  rw [bind_apply, found]
  dsimp only
  rw [bind_apply]
  cases assignProperty env assignment place name position machine with
  | ok _ later => exact Machine.still_of_inert (by simp)
  | error halt later => exact ⟨rfl, Machine.still_of_inert (by simp)⟩

theorem assignChain_eq {self : Evaluator} {frame : Frame} {root value : Term} {links : List Link}
    {start : Machine} (evaluated : self frame value start = .ok () machine)
    (operatorPosition : Position) :
    ∃ assignment : Assignment, assignment.operation? = none ∧
      assignment.value = start.operands.size ∧
      assignChain env self frame none root links value operatorPosition start =
        chain env self frame (some assignment) root links machine := by
  have made : ∃ name, assignChain env self frame none root links value operatorPosition start =
      chain env self frame (some ⟨none, start.operands.size, operatorPosition, name,
        root.position⟩) root links machine := by
    unfold assignChain mark
    rw [bind_apply, bind_apply]
    change ∃ name, (self frame value >>= fun _ => _) start = _
    rewrite [bind_apply, evaluated]
    exact ⟨_, rfl⟩
  obtain ⟨name, made⟩ := made
  exact ⟨_, rfl, rfl, made⟩

/-- An assignment to a member of a variable, or of what a function is called on, is made once its
value has been found. -/
theorem follows_assignment {self : Evaluator} {frame : Frame} {root value : Term}
    {start : Machine} (evaluated : self frame value start = .ok () machine)
    (found : rootPlace env self frame root machine = .ok place machine)
    (chainPosition operatorPosition : Position) :
    ∃ assignment : Assignment, assignment.operation? = none ∧
      assignment.value = start.operands.size ∧
      Follows (assignProperty env assignment place name position machine)
        (Run.assignment env self frame none (.chain root [.property name position] chainPosition)
          value operatorPosition start) := by
  obtain ⟨assignment, plain, operand, assigned⟩ :=
    @assignChain_eq env machine self frame root value [.property name position] start evaluated
      operatorPosition
  refine ⟨assignment, plain, operand, ?_⟩
  have follows := @follows_chain env machine name place position assignment self frame root found
  revert follows
  generalize assignProperty env assignment place name position machine = first
  have opened : Run.assignment env self frame none
      (.chain root [.property name position] chainPosition) value operatorPosition start =
        (gatheringFrom start.operands.size inOrder
          (assignChain env self frame none root [.property name position] value
            operatorPosition) >>= fun _ => keepTop start.operands.size) start := rfl
  rw [opened, bind_apply]
  unfold gatheringFrom
  rw [assigned]
  generalize chain env self frame (some assignment) root _ machine = second
  intro follows
  cases second with
  | ok _ last =>
      cases first with
      | ok _ later => exact (Machine.still_of_inert (Machine.inert_keepTop _ _)).trans follows
      | error halt later => exact follows.elim
  | error other last =>
      cases first with
      | ok _ later => exact follows.elim
      | error halt later =>
          exact ⟨follows.1,
            (Machine.still_of_inert (Machine.inert_spendAll _ _)).trans follows.2⟩

end Run
end ScriptHost.Script
