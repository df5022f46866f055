import ScriptHost.Proofs.Native.Overloads
import ScriptHost.Proofs.Session.Arities

/-!
Instances made by scripts and by the host.

Which constructor of a type makes a new instance depends on the arguments alone. So a script that
calls the type by its name and the host that makes an instance get to the same constructor, or are
refused in the same way. A call that a function of the interpreter answers never gets to the type.
-/

set_option autoImplicit false

namespace ScriptHost

open Script

namespace Script.Run

variable {env : Environment} {self : Evaluator} {frame : Frame} {machine : Machine}
  {name : String} {positions : List Nat} {place? : Option Place} {position : Position}
  {origin : Origin} {crossings : List Crossing}

theorem ComesTo.calledByName (named : Name.ForHosts name)
    (own : env.library.find? name positions.length = none)
    (inside : ComesTo env origin crossings
      (callNative env name ⟨none, positions⟩ place? position) machine) :
    ComesTo env origin crossings
      (callNamed env self frame name ⟨none, positions⟩ place? position) machine := by
  apply ComesTo.got
  split
  · exact absurd rfl ((named.forMethods.unanswered 0).bare rfl).1
  · rw [own]
    exact inside

end Script.Run

namespace Session

variable {session : Session} {machine : Machine} {name : String} {typeId : TypeId}
  {descriptor : TypeDescriptor} {values : List Value} {arguments : List HostValue}

/-- From the same state, a script and the host that make an instance run the body of the same
constructor, or are refused with the same fault and leave everything as it was. -/
structure SameConstruction (session : Session) (machine : Machine) (name : String)
    (typeId : TypeId) (descriptor : TypeDescriptor) (values : List Value)
    (arguments : List HostValue) (outcome : Except Fault (Constructor descriptor.type)) :
    Prop where
  made : ∀ constructor, outcome = .ok constructor →
    let entry := Call.Entry.construct typeId descriptor constructor arguments
    machine.callNative session.types (.construct typeId values) =
        answered (machine.requested (.construct typeId values))
          (machine.store.run (entry.run session.types >>= Call.toScript)) ∧
      (session.withMachine machine).perform (.createObject name arguments) =
        (session.withMachine machine).ran (entry.run session.types)
          (HostCall.create name arguments).reply
  refused : ∀ fault, outcome = .error fault →
    machine.callNative session.types (.construct typeId values) =
        (.error fault, machine.requested (.construct typeId values)) ∧
      (session.withMachine machine).perform (.createObject name arguments) =
        (.error fault, (session.withMachine machine).collected)
  alike : SameOutcome (machine.callNative session.types (.construct typeId values))
    (asValue ((session.withMachine machine).perform (.createObject name arguments)))

theorem sameConstruction (ready : session.phase = .ready)
    (known : session.types.idOfName? name = some typeId)
    (described : session.types.get typeId = .ok descriptor)
    (passes : machine.store.collect.heap.Passes values arguments) :
    SameConstruction session machine name typeId descriptor values arguments
      (descriptor.selectConstructor arguments) := by
  have guarded := guardedRequest session.types machine (.construct typeId values)
  have host := @perform_create (session.withMachine machine) ready name typeId known arguments
  have checked : Call.checkConstruct session.types typeId arguments =
      (descriptor.selectConstructor arguments).map fun constructor =>
        .construct typeId descriptor constructor arguments := by
    unfold Call.checkConstruct
    rw [described]
    change (descriptor.selectConstructor arguments >>= fun constructor => _) = _
    cases descriptor.selectConstructor arguments with
    | error fault => rfl
    | ok constructor => rfl
  have script := (Call.check_construct passes typeId).trans checked
  refine ⟨fun constructor selected => ⟨?_, ?_⟩, fun fault selected => ⟨?_, ?_⟩,
    constructions_agree ready known passes⟩
  · rw [selected] at script
    exact (guarded.entered _ script).1
  · rw [selected] at checked
    rw [host]
    change (session.withMachine machine).ran (Call.ofResult
      (Call.checkConstruct session.types typeId arguments) >>= _) _ = _
    rw [checked]
    rfl
  · rw [selected] at script
    exact guarded.refused fault script
  · rw [selected] at checked
    rw [host]
    change (session.withMachine machine).ran (Call.ofResult
      (Call.checkConstruct session.types typeId arguments) >>= _) _ = _
    rw [checked]
    exact ran_error fault _ _

/-- The arguments for a new instance select one constructor or one way to be refused, and that is
all there is to the making of the instance. A script that calls the type by its name, where nothing
else has this name, asks for the instance. It gets to what the arguments select, as the host does
that makes an instance of the same values, and a fault in it is one of the call. -/
theorem constructors_are_selected :
    (∀ (descriptor : TypeDescriptor) (arguments : List HostValue), ∃ outcome,
      (∀ other, descriptor.Selects arguments other ↔ other = outcome) ∧
      descriptor.construct arguments = TypeDescriptor.bodyOf arguments outcome ∧
      ∀ callable got, outcome ≠ .error (.arityMismatch callable "?" got)) ∧
    ∀ (session : Session) (env : Environment) (machine : Machine) (name : String)
      (typeId : TypeId) (positions : List Nat) (arguments : List HostValue)
      (promised : Handle → TypeId → Prop) (earlier : Moment → Prop),
      session.Reachable → session.phase = .ready →
      env.types = session.types → env.functions = session.functions →
      machine.Sound ⟨session.types, promised, earlier⟩ 0 →
      session.types.idOfName? name = some typeId → Name.ForHosts name →
      env.library.find? name positions.length = none →
      session.types.declaresMethod name = false →
      (positions.map machine.operand).map Value.toHost? = arguments.map some →
      arguments.length ≤ argumentLimit →
      let values := positions.map machine.operand
      ∃ descriptor outcome, session.types.get typeId = .ok descriptor ∧ descriptor.name = name ∧
        descriptor.Selects arguments outcome ∧
        SameConstruction session machine name typeId descriptor values arguments outcome ∧
        ∀ self frame place? position,
          let call := Run.callNamed env self frame name ⟨none, positions⟩ place? position
          call machine =
              Run.requesting env (.construct typeId values) positions position machine ∧
            ∀ fault, (machine.callNative session.types (.construct typeId values)).1 =
                .error fault →
              Run.ComesTo env (.refused (.construct typeId values) fault position) [] call
                machine := by
  refine ⟨fun descriptor arguments => ?selection, ?sides⟩
  case selection =>
    obtain ⟨outcome, selects⟩ := descriptor.exists_selects arguments
    refine ⟨outcome, fun other => ⟨fun also => ?_, ?_⟩,
      TypeDescriptor.construct_of_selects selects, selects.ne_unknown⟩
    · exact also.selected.symm.trans selects.selected
    · rintro rfl
      exact selects
  case sides =>
    intro session env machine name typeId positions arguments promised earlier reachable ready
      types functions sound known named own undeclared formed few values
    obtain ⟨descriptor, described, title⟩ := TypeRegistry.get_of_idOfName? known
    have counted : values.length = arguments.length := by
      simpa [values] using congrArg List.length formed
    have missing := reachable.find?_of_type known
    have offered : ∀ values : List Value, values.length ≤ argumentLimit →
        Native.offered? env.types env.functions name values = some (.construct typeId values) := by
      intro values few
      rw [types, functions]
      exact Native.offered?_construct few missing known
    have undeclaredNow : env.types.declaresMethod name = false := types ▸ undeclared
    refine ⟨descriptor, _, described, title, TypeDescriptor.selectConstructor_iff.mp rfl,
      sameConstruction ready known described (sound.passes_operands formed),
      fun self frame place? position => ⟨?_, fun fault refusal => ?_⟩⟩
    · exact (Run.reaches_offered named own undeclaredNow offered place? position).within
        (counted.trans_le few)
    · have asked := (Native.asked?_apart (Native.not_callsMethod undeclaredNow)).trans
        (offered values (counted.trans_le few))
      rw [← types] at refusal
      exact .calledByName named own (.refusedByName named asked refusal)

/-- Paint is made of a measure, of the name of a color, or of anything else. -/
def painting : Session :=
  let paint : HostType := ⟨"Paint", .values⟩
  hosting.after [
    .register (.type ⟨"Paint", paint, [⟨[.number], fun _ => .done []⟩, ⟨[.text], .done⟩,
      ⟨[.any], fun _ => .fail (.io "dried up")⟩, ⟨[.number, .number], .done⟩], [], [], [],
      none⟩)]

theorem painting_reachable : painting.Reachable :=
  hosting_reachable.after _

theorem painting_ready : painting.phase = .ready := by decide +kernel

def colored : Machine :=
  painting.machine.push (.text "red")

theorem colored_sound :
    colored.Sound ⟨painting.types, fun _ _ => False, fun _ => False⟩ 0 :=
  (painting_reachable.sound (by rw [painting_ready]; nofun)).machine.push (.text "red")

/-- Red paint is made of its name, for a script and for the host. -/
theorem red_paint_is_made :
    painting.phase = .ready ∧
      SameOutcome (colored.callNative painting.types (.construct 1 [.datum (.text "red")]))
        (asValue ((painting.withMachine colored).perform
          (.createObject "Paint" [.text "red"]))) := by
  let env := painting.environment painting.library
  have empty : painting.machine.operands = #[] :=
    (painting_reachable.sound (by rw [painting_ready]; nofun)).operands
  have operand : [0].map colored.operand = [.datum (.text "red")] := by
    have operands : colored.operands = #[.datum (.text "red")] := by
      change painting.machine.operands.push _ = _
      rw [empty]
      rfl
    rw [List.map_singleton, Machine.operand_eq, operands]
    rfl
  obtain ⟨_, sides⟩ := constructors_are_selected
  obtain ⟨descriptor, outcome, _, _, _, same, _⟩ := sides painting env colored "Paint" 1 [0]
    [.text "red"] _ _ painting_reachable painting_ready rfl rfl colored_sound (by decide +kernel)
    ⟨by decide, by decide, by decide⟩ (by decide +kernel) (by decide +kernel)
    (by rw [operand]; rfl) (by decide)
  rw [operand] at same
  exact ⟨painting_ready, same.alike⟩

/-- A type may be called `len`. The host is told that a text is no measure for it, but a script that
calls it with a text is told how long the text is. -/
theorem length_is_told :
    ¬ ∀ (session : Session) (name text : String) (fault : Fault), session.Reachable →
      session.phase = .ready → (∀ count, session.library.find? name count = none) →
      session.types.declaresMethod name = false → text.toList.all Char.isAlpha = true →
      (session.types.idOfName? name).isSome = true →
      session.fault? (.createObject name [.text text]) = some fault →
      session.fault? (.eval (name ++ "(\"" ++ text ++ "\")")) = some fault := by
  intro same
  let rod : HostType := ⟨"Rod", .values⟩
  let rods := hosting.after [.register (.type ⟨"len", rod, [⟨[.number], .done⟩], [], [], [], none⟩)]
  have none : rods.library = [] := by decide +kernel
  have told := same rods "len" "abc" (.typeMismatch .number "string") (hosting_reachable.after _)
    (by decide +kernel) (fun count => by rw [none]; rfl) (by decide +kernel) (by decide)
    (by decide +kernel) (by decide +kernel)
  have answered : rods.fault? (.eval "len(\"abc\")") = Option.none := by decide +kernel
  exact nomatch answered.symm.trans told

end Session
end ScriptHost
