import Mathlib.Tactic.Ring
import ScriptHost.Proofs.Effects
import ScriptHost.Script.Calls

/-!
What method calls on instances ask for.

A method that a type declares is found for an instance under its name, whatever else bears the
name: the built-in functions and the functions of the host take an instance only as any value, and
are less particular. Only the functions of scripts come first, and names that mean something else
behind a dot.
-/

set_option autoImplicit false

namespace ScriptHost.FunctionRegistry

variable {functions : FunctionRegistry} {space name : String} {descriptor : FunctionDescriptor}

def Has (functions : FunctionRegistry) (descriptor : FunctionDescriptor) : Prop :=
  ∃ space, (space, descriptor) ∈ functions.functions

theorem has_of_find? (found : functions.find? space name = some descriptor) :
    functions.Has descriptor := by
  obtain ⟨entry, known, rfl⟩ := Option.map_eq_some_iff.mp found
  exact ⟨entry.1, Array.mem_of_find?_eq_some known⟩

/-- A function that is requested has been registered. -/
def Offers (functions : FunctionRegistry) : Call.Request → Prop
  | .function descriptor _ => functions.Has descriptor
  | _ => True

end ScriptHost.FunctionRegistry

namespace ScriptHost.Script

/-- A name under which scripts call the methods of instances. -/
structure Name.ForMethods (name : String) : Prop where
  identifier : Name.isIdentifier name = true
  free : name ∉ Name.builtinMethods

/-- A method call that the language does not answer itself. It takes over two names with any
arguments and two without. -/
structure Name.Unanswered (name : String) (count : Nat) : Prop where
  notCall : name ≠ "call"
  notCurry : name ≠ "curry"
  bare : count = 0 → name ≠ "type_of" ∧ name ≠ "is_shared"

theorem Name.ForMethods.unanswered {name : String} (named : Name.ForMethods name) (count : Nat) :
    Name.Unanswered name count := by
  have free := named.free
  simp only [Name.builtinMethods, List.mem_cons, List.not_mem_nil, or_false, not_or] at free
  obtain ⟨notType, notCall, notCurry, notShared⟩ := free
  exact ⟨notCall, notCurry, fun _ => ⟨notType, notShared⟩⟩

namespace Native

def digit (shape : Shape) : Nat := if shape = .any then 1 else 0

def digits (rank : Nat) (shapes : List Shape) : Nat :=
  shapes.foldl (fun rank shape => 2 * rank + digit shape) rank

theorem rank_eq (native : Native) : native.rank = digits 0 native.shapes := rfl

theorem digits_eq (rank : Nat) (shapes : List Shape) :
    digits rank shapes = rank * 2 ^ shapes.length + digits 0 shapes := by
  induction shapes generalizing rank with
  | nil => simp [digits]
  | cons shape rest ih =>
      have step : ∀ rank, digits rank (shape :: rest) = digits (2 * rank + digit shape) rest :=
        fun _ => rfl
      rw [step, step, ih (2 * rank + digit shape), ih (2 * 0 + digit shape), List.length_cons,
        pow_succ]
      ring

theorem digits_any (count : Nat) : digits 0 (anyArguments count) + 1 = 2 ^ count := by
  induction count with
  | zero => rfl
  | succ count ih =>
      have step : digits 0 (anyArguments (count + 1)) = digits 1 (anyArguments count) := rfl
      rw [step, digits_eq, pow_succ]
      simp only [anyArguments, List.length_replicate] at ih ⊢
      omega

theorem rank_method (count : Nat) (byReference : Bool) (implementation : Implementation) :
    Native.rank ⟨.object :: anyArguments count, byReference, implementation⟩ + 1 = 2 ^ count :=
  digits_any count

theorem le_rank_of_any {native : Native} {shapes : List Shape}
    (first : native.shapes = .any :: shapes) : 2 ^ shapes.length ≤ native.rank := by
  rw [rank_eq, first]
  have step : digits 0 (.any :: shapes) = digits 1 shapes := rfl
  rw [step, digits_eq]
  omega

theorem mem_of_best? {natives : List Native} {native : Native}
    (best : best? natives = some native) : native ∈ natives := by
  induction natives generalizing native with
  | nil => cases best
  | cons first rest ih =>
      unfold best? at best
      cases other : best? rest with
      | none =>
          rw [other] at best
          cases best
          exact List.mem_cons_self
      | some candidate =>
          rw [other] at best
          dsimp only at best
          split at best
          · cases best
            exact List.mem_cons_of_mem _ (ih other)
          · cases best
            exact List.mem_cons_self

theorem best?_first {first : Native} {rest : List Native}
    (least : ∀ other ∈ rest, first.rank ≤ other.rank) : best? (first :: rest) = some first := by
  unfold best?
  cases best : best? rest with
  | none => rfl
  | some other =>
      have behind := least other (mem_of_best? best)
      dsimp only
      rw [if_neg (by omega)]

variable {env : Environment} {name : String} {reference : Reference} {values : List Value}

def isFunction (native : Native) : Bool :=
  match native.implementation with
  | .function _ => true
  | _ => false

def Registered (functions : FunctionRegistry) (native : Native) : Prop :=
  ∀ descriptor, native.implementation = .function descriptor → functions.Has descriptor

theorem registered_of_all {natives : List Native} {functions : FunctionRegistry}
    (others : natives.all (fun native => !native.isFunction) = true) {native : Native}
    (member : native ∈ natives) : native.Registered functions := by
  intro descriptor same
  have other := List.all_eq_true.mp others native member
  rw [isFunction, same] at other
  cases other

theorem registered_functionsOf {types : TypeRegistry} {functions : FunctionRegistry}
    {native : Native} {count : Nat} (member : native ∈ functionsOf types functions name count) :
    native.Registered functions := by
  intro descriptor same
  unfold functionsOf at member
  split at member
  · split at member
    · rename_i found
      obtain rfl := List.mem_singleton.mp member
      cases same
      exact FunctionRegistry.has_of_find? found
    · split at member
      · obtain rfl := List.mem_singleton.mp member
        cases same
      · cases member
  · cases member

theorem registered_of_resolve? {native : Native} (found : resolve? env name values = some native) :
    native.Registered env.functions := by
  have member := (List.mem_filter.mp (mem_of_best? found)).1
  unfold candidates at member
  simp only [List.mem_append] at member
  obtain ((method | common) | function) | builtin := member
  · refine registered_of_all ?_ method
    unfold methodsOf
    split <;> rfl
  · refine registered_of_all ?_ common
    unfold commonOf
    split
    · split
      · rfl
      · split <;> rfl
    · split
      · split <;> rfl
      · rfl
  · exact registered_functionsOf function
  · refine registered_of_all ?_ builtin
    unfold builtins
    split <;> rfl

theorem Registered.offers {native : Native} {functions : FunctionRegistry}
    (registered : native.Registered functions) {request : Call.Request}
    (asked : native.request? values = some request) : functions.Offers request := by
  unfold request? at asked
  split at asked
  case h_4 same =>
    cases asked
    exact registered _ same
  case h_6 => cases asked
  all_goals
    cases asked
    trivial

theorem hostOperator?_of_identifier (identifier : Name.isIdentifier name = true) :
    hostOperator? name = none := by
  unfold hostOperator?
  rw [List.find?_eq_none]
  intro operator member same
  have symbol : operator.symbol = name := beq_iff_eq.mp same
  rw [← symbol] at identifier
  revert identifier
  cases operator <;> decide

theorem builtins_head {native : Native} {count : Nat} (member : native ∈ builtins name count) :
    native.shapes.head? ≠ some .object := by
  have all : (builtins name count).all
      (fun native => native.shapes.head? != some .object) = true := by
    unfold builtins
    split <;> rfl
  exact bne_iff_ne.mp (List.all_eq_true.mp all native member)

theorem any_of_takes {native : Native} (taken : native.takes (.object reference :: values) = true)
    (other : native.shapes.head? ≠ some .object) :
    ∃ shapes, native.shapes = .any :: shapes ∧ shapes.length = values.length := by
  unfold takes at taken
  obtain ⟨counted, accepted⟩ := Bool.and_eq_true_iff.mp taken
  have lengths := beq_iff_eq.mp counted
  cases shapes : native.shapes with
  | nil =>
      rw [shapes] at lengths
      cases lengths
  | cons first rest =>
      rw [shapes] at lengths accepted other
      have fits : first.accepts (.object reference) = true :=
        List.all_eq_true.mp accepted (first, .object reference) List.mem_cons_self
      refine ⟨rest, ?_, Nat.succ.inj lengths⟩
      cases first with
      | any => rfl
      | object => exact absurd rfl other
      | _ => cases fits

theorem takes_method (byReference : Bool) (implementation : Implementation) :
    takes ⟨.object :: anyArguments values.length, byReference, implementation⟩
      (.object reference :: values) = true := by
  have all : ((anyArguments values.length).zip values).all
      (fun pair => pair.1.accepts pair.2) = true := by
    rw [List.all_eq_true]
    rintro ⟨shape, value⟩ member
    have any : shape = .any := List.eq_of_mem_replicate (List.of_mem_zip member).1
    rw [any]
    rfl
  simp [takes, anyArguments, Shape.accepts] at all ⊢
  exact all

theorem commonOf_more (identifier : Name.isIdentifier name = true) (count : Nat) :
    commonOf name (count + 2) = [] := by
  unfold commonOf
  rw [if_neg (by omega), hostOperator?_of_identifier identifier, ite_self]

theorem functionsOf_head {native : Native} {count : Nat}
    (member : native ∈ functionsOf env.types env.functions name (count + 1)) :
    native.shapes.head? ≠ some .object := by
  unfold functionsOf at member
  split at member
  · split at member
    · rw [List.mem_singleton.mp member]
      exact nofun
    · split at member
      · rw [List.mem_singleton.mp member]
        exact nofun
      · cases member
  · cases member

/-- No other function that takes the same values is more particular than a method. -/
theorem rank_other (identifier : Name.isIdentifier name = true) {native : Native}
    (member : native ∈ commonOf name (values.length + 1) ++
      functionsOf env.types env.functions name (values.length + 1) ++
      builtins name (values.length + 1))
    (taken : native.takes (.object reference :: values) = true) :
    2 ^ values.length ≤ native.rank + 1 := by
  -- The first digit decides: it is set where the first value may be anything.
  by_cases particular : native.shapes.head? = some .object
  · cases count : values.length with
    | zero => exact Nat.succ_le_succ (Nat.zero_le _)
    | succ count =>
        rw [count, commonOf_more identifier, List.nil_append] at member
        rcases List.mem_append.mp member with function | builtin
        · exact absurd particular (functionsOf_head function)
        · exact absurd particular (builtins_head builtin)
  · obtain ⟨shapes, first, count⟩ := any_of_takes taken particular
    have rank := le_rank_of_any first
    rw [count] at rank
    exact rank.trans (Nat.le_succ _)

/-- Of all functions that take an instance and further values, a method is the first. -/
theorem resolve?_method (declared : env.types.declaresMethod name = true)
    (identifier : Name.isIdentifier name = true) (few : values.length ≤ argumentLimit) :
    resolve? env name (.object reference :: values) =
      some ⟨.object :: anyArguments values.length, true, .method name⟩ := by
  have methods : methodsOf env.types name (values.length + 1) =
      [⟨.object :: anyArguments values.length, true, .method name⟩] := by
    unfold methodsOf
    rw [if_pos]
    · rfl
    · simp [declared, few]
  unfold resolve? candidates
  rw [List.length_cons, methods, List.append_assoc, List.append_assoc, List.singleton_append,
    List.filter_cons_of_pos]
  · apply best?_first
    intro other member
    obtain ⟨candidate, taken⟩ := List.mem_filter.mp member
    rw [← List.append_assoc] at candidate
    have method := rank_method values.length true (.method name)
    have behind := rank_other identifier candidate taken
    omega
  · exact takes_method true _

end Native

namespace Run

variable {env : Environment} {self : Evaluator} {frame : Frame} {machine : Machine}
  {place : Place} {positions : List Nat} {name : String} {reference : Reference}

theorem checkRaces_eq (name : String) (place : Place) (positions : List Nat)
    (machine : Machine) :
    checkRaces name place positions machine =
      (match positions.findIdx? (fun argument =>
          machine.isBoundTo place (machine.operand argument)) with
        | some index => throw (.raised ⟨.dataRace (index + 1) name, none, []⟩)
        | none => return () : Run Unit) machine :=
  rfl

theorem checkRaces_plain (plain : ∀ position ∈ positions, ∀ function bound,
    machine.operand position ≠ .function function bound) :
    checkRaces name place positions machine = .ok () machine := by
  have unbound : positions.findIdx? (fun argument =>
      machine.isBoundTo place (machine.operand argument)) = none := by
    rw [List.findIdx?_eq_none_iff]
    intro position member
    have value := plain position member
    unfold Machine.isBoundTo
    split
    · rename_i function bound same
      exact absurd same (value function bound)
    · rfl
  rw [checkRaces_eq, unbound]
  rfl

theorem callNative_eq (name : String) (arguments : Arguments) (place? : Option Place)
    (position : Position) (machine : Machine) :
    callNative env name arguments place? position machine =
      (match Native.resolve? env name (arguments.values machine) with
        | none => noFunction name (arguments.values machine) position
        | some found => do
            perform env found name arguments (arguments.values machine) place?
              (arguments.used found) position
            output name position
            return found.byReference : Run Bool) machine :=
  rfl

theorem get_bind_of {α : Type} {body : Machine → Run α} {work : Run α}
    (same : body machine = work) : (get >>= body) machine = work machine := by
  rw [← same]
  rfl

theorem callNamed_native (unanswered : Name.Unanswered name positions.length)
    (own : env.library.find? name positions.length = none) (position : Position) :
    callNamed env self frame name ⟨some place, positions⟩ (some place) position machine =
      callNative env name ⟨some place, positions⟩ (some place) position machine := by
  refine get_bind_of ?_
  split
  · rename_i single
    have none : positions.length = 0 := by
      simpa [Arguments.values] using congrArg List.length single
    exact absurd rfl (unanswered.bare none).1
  · rw [own]

theorem callMethod_native (unanswered : Name.Unanswered name positions.length)
    (target : machine.valueAt place = .object reference) (start position : Position) :
    callMethod env self frame name place positions start position machine =
      (do
        checkRaces name place positions
        callNamed env self frame name ⟨some place, positions⟩ (some place) position :
          Run Bool) machine := by
  refine get_bind_of ?_
  dsimp only
  rw [target]
  split
  · exact absurd rfl unanswered.notCall
  · exact absurd rfl unanswered.notCall
  · exact absurd rfl unanswered.notCall
  · exact absurd rfl unanswered.notCurry
  · exact absurd rfl (unanswered.bare rfl).2
  · rfl

end Run
end ScriptHost.Script
